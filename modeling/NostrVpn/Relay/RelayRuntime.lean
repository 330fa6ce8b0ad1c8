import NostrVpn.Core.ServiceSignaling
import NostrVpn.Rust.HashMap
import NostrVpn.Rust.Net

/-!
# Runtime state of the relay operator

`nostr-vpn-relay/src/bin/nvpn_udp_relay/relay_runtime.rs`: the session table that the caps are counted
on, and the byte limits of one session. Times are Unix seconds in the table and nanoseconds of the
monotonic clock in the legs. The refill of a rate window is computed in floating point: a parameter.
-/
namespace NostrVpn.Relay

open Rust NostrVpn.Core

structure RelayServiceLimits where
  maxActiveSessions : Nat
  maxSessionsPerRequester : Nat
  maxBytesPerSession : Nat
  maxForwardBps : Option Nat
  deriving DecidableEq, Repr

structure RelayOperatorSessionState where
  requestId : String
  networkId : String
  requesterPubkey : String
  targetPubkey : String
  requesterIngressEndpoint : String
  targetIngressEndpoint : String
  startedAt : Nat
  expiresAt : Nat
  bytesFromRequester : Nat
  bytesFromTarget : Nat
  deriving DecidableEq, Repr

structure RelayRuntimeState where
  totalSessionsServed : Nat := 0
  totalForwardedBytes : Nat := 0
  currentForwardBps : Nat := 0
  lastRateSampleAt : Nat := 0
  lastRateSampleBytes : Nat := 0
  knownPeerPubkeys : List String := []
  activeSessions : HashMap String RelayOperatorSessionState

namespace RelayRuntimeState

def pruneExpiredSessions (state : RelayRuntimeState) (now : Nat) : RelayRuntimeState :=
  { state with activeSessions := state.activeSessions.retain fun _ session => now < session.expiresAt }

def requesterSessions (state : RelayRuntimeState) (requesterPubkey : String) : Nat :=
  (state.activeSessions.values.filter fun session =>
    session.requesterPubkey == requesterPubkey).length

/-- The check reads the table it has just pruned. -/
def allocationRejectionForRequester (state : RelayRuntimeState) (requesterPubkey : String)
    (now : Nat) (limits : RelayServiceLimits) :
    Option (RelayAllocationRejectReason × Option Nat) × RelayRuntimeState :=
  let state := state.pruneExpiredSessions now
  if limits.maxActiveSessions ≤ state.activeSessions.values.length then
    (some (.OverCapacity, some 30), state)
  else if limits.maxSessionsPerRequester ≤ state.requesterSessions requesterPubkey then
    (some (.TooManySessionsForRequester, some 60), state)
  else (none, state)

def noteSessionStarted (state : RelayRuntimeState) (session : RelayOperatorSessionState) (now : Nat) :
    RelayRuntimeState :=
  let state := state.pruneExpiredSessions now
  { state with
    totalSessionsServed := saturatingAdd state.totalSessionsServed 1
    knownPeerPubkeys := (state.knownPeerPubkeys.insert session.requesterPubkey).insert
      session.targetPubkey
    activeSessions := state.activeSessions.insert session.requestId session }

def noteForwardedBytes (state : RelayRuntimeState) (requestId : String) (requesterLeg : Bool)
    (bytes : Nat) : RelayRuntimeState :=
  { state with
    totalForwardedBytes := saturatingAdd state.totalForwardedBytes bytes
    activeSessions := state.activeSessions.modify requestId fun session =>
      if requesterLeg then
        { session with bytesFromRequester := saturatingAdd session.bytesFromRequester bytes }
      else { session with bytesFromTarget := saturatingAdd session.bytesFromTarget bytes } }

@[simp] theorem requesterSessions_noteForwardedBytes (state : RelayRuntimeState)
    (requestId : String) (requesterLeg : Bool) (bytes : Nat) (requester : String) :
    (state.noteForwardedBytes requestId requesterLeg bytes).requesterSessions requester =
      state.requesterSessions requester :=
  HashMap.length_filter_values_modify (fun _ => by split_ifs <;> rfl) _ _

@[simp] theorem length_values_noteForwardedBytes (state : RelayRuntimeState) (requestId : String)
    (requesterLeg : Bool) (bytes : Nat) :
    (state.noteForwardedBytes requestId requesterLeg bytes).activeSessions.values.length =
      state.activeSessions.values.length := by
  simp [noteForwardedBytes, HashMap.modify, HashMap.values, HashMap.mapEntries]

/-- The state that the snapshot of the state file leaves. -/
def snapshot (state : RelayRuntimeState) (now : Nat) : RelayRuntimeState :=
  let state := state.pruneExpiredSessions now
  let elapsed := now - state.lastRateSampleAt
  if 0 < elapsed then
    { state with
      currentForwardBps := (state.totalForwardedBytes - state.lastRateSampleBytes) / elapsed
      lastRateSampleAt := now
      lastRateSampleBytes := state.totalForwardedBytes }
  else if state.lastRateSampleAt = 0 then
    { state with lastRateSampleAt := now, lastRateSampleBytes := state.totalForwardedBytes }
  else state

@[simp] theorem activeSessions_snapshot (state : RelayRuntimeState) (now : Nat) :
    (state.snapshot now).activeSessions = (state.pruneExpiredSessions now).activeSessions := by
  unfold snapshot; dsimp only; split_ifs <;> rfl

@[simp] theorem snd_allocationRejection (state : RelayRuntimeState) (requesterPubkey : String)
    (now : Nat) (limits : RelayServiceLimits) :
    (state.allocationRejectionForRequester requesterPubkey now limits).2 =
      state.pruneExpiredSessions now := by
  unfold allocationRejectionForRequester; dsimp only; split_ifs <;> rfl

/-- A request that is not rejected finds room for one more session, and one more of its requester. -/
theorem room_of_allocationRejection {state : RelayRuntimeState} {requesterPubkey : String} {now : Nat}
    {limits : RelayServiceLimits}
    (h : (state.allocationRejectionForRequester requesterPubkey now limits).1 = none) :
    (state.pruneExpiredSessions now).activeSessions.values.length < limits.maxActiveSessions ∧
      (state.pruneExpiredSessions now).requesterSessions requesterPubkey <
        limits.maxSessionsPerRequester := by
  unfold allocationRejectionForRequester at h
  dsimp only at h
  split_ifs at h with full many
  exact ⟨not_le.mp full, not_le.mp many⟩

end RelayRuntimeState

/-! ## Byte limits of a session -/

structure ForwardWindow where
  lastRefill : Nat
  availableBytes : Nat
  deriving DecidableEq, Repr

structure SessionForwardingState where
  forwardWindow : Option ForwardWindow := none
  totalForwardedBytes : Nat := 0
  closed : Bool := false
  deriving DecidableEq, Repr

/-- `refill elapsed bps`, with the elapsed time in nanoseconds. -/
def SessionForwardingState.allowForward (refill : Nat → Nat → Nat) (limits : RelayServiceLimits)
    (state : SessionForwardingState) (now bytes : Nat) :
    Except RelayAllocationRejectReason Unit × SessionForwardingState :=
  if state.closed then (.error .ByteLimitExceeded, state)
  else
    let total := saturatingAdd state.totalForwardedBytes bytes
    if limits.maxBytesPerSession < total then
      (.error .ByteLimitExceeded, { state with closed := true })
    else match limits.maxForwardBps with
      | none => (.ok (), { state with totalForwardedBytes := total })
      | some maxForwardBps =>
        let burst := max maxForwardBps bytes
        let window := state.forwardWindow.getD ⟨now, burst⟩
        let elapsed := now - window.lastRefill
        let window := if 0 < elapsed then
            ⟨now, min (window.availableBytes + refill elapsed maxForwardBps) burst⟩
          else window
        if window.availableBytes < bytes then
          (.error .RateLimited, { state with forwardWindow := some window })
        else (.ok (), { state with
          forwardWindow := some { window with availableBytes := window.availableBytes - bytes }
          totalForwardedBytes := total })

/-- A closed session forwards nothing and stays closed. -/
theorem SessionForwardingState.allowForward_closed {refill : Nat → Nat → Nat}
    {limits : RelayServiceLimits} {state : SessionForwardingState} {now bytes : Nat}
    (h : state.closed = true) :
    state.allowForward refill limits now bytes = (.error .ByteLimitExceeded, state) := by
  unfold allowForward; rw [if_pos h]

end NostrVpn.Relay
