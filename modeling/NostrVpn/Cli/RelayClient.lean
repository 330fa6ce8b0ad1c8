import NostrVpn.Core.ServiceSignaling
import NostrVpn.Rust.HashMap
import NostrVpn.Rust.Str
import NostrVpn.Rust.Vec
import NostrVpn.Transition
import Mathlib.Data.Prod.Lex

/-!
# Relay client of the daemon

`nostr-vpn-cli/src/relay_runtime.rs` and the request, grant, rejection and probe functions of
`main.rs`: pending requests, active and standby sessions, and the cooldowns of relays and providers.
Whether a runtime peer verifies a session, and the probe of the datapath, are environment choices.
-/
namespace NostrVpn.Cli

open Rust NostrVpn.Core

structure ActiveRelaySession where
  relayPubkey : String
  localIngressEndpoint : String
  advertisedIngressEndpoint : String
  grantedAt : Nat
  verifiedAt : Option Nat
  expiresAt : Nat
  deriving DecidableEq, Repr

structure PendingRelayRequest where
  participant : String
  relayPubkey : String
  requestedAt : Nat
  deriving DecidableEq, Repr

structure RelayProviderVerification where
  verifiedAt : Option Nat := none
  failureCooldownUntil : Option Nat := none
  lastFailureAt : Option Nat := none
  lastProbeAttemptAt : Option Nat := none
  consecutiveFailures : Nat := 0
  deriving DecidableEq, Repr

abbrev RelayFailureCooldowns := HashMap String Nat
abbrev RelayProviderVerificationBook := HashMap String RelayProviderVerification
abbrev PendingRelayRequests := HashMap String PendingRelayRequest
abbrev RelaySessions := HashMap String ActiveRelaySession
abbrev StandbyRelaySessions := HashMap String (List ActiveRelaySession)

def RELAY_REQUEST_RETRY_AFTER_SECS : Nat := 30
def RELAY_REQUEST_TIMEOUT_SECS : Nat := 120
def RELAY_SESSION_VERIFY_TIMEOUT_SECS : Nat := 8
def RELAY_FAILED_RETRY_AFTER_SECS : Nat := 60
def RELAY_PROVIDER_FAILURE_MAX_COOLDOWN_SECS : Nat := 900
def RELAY_PROVIDER_PROBE_RETRY_AFTER_SECS : Nat := 60
def MAX_PARALLEL_RELAY_PROVIDER_PROBES : Nat := 2
def MAX_PARALLEL_RELAY_REQUESTS_PER_PARTICIPANT : Nat := 3

/-! ## Sessions -/

namespace ActiveRelaySession

def isActive (session : ActiveRelaySession) (now : Nat) : Bool :=
  now < session.expiresAt && !isBlank session.localIngressEndpoint &&
    !isBlank session.advertisedIngressEndpoint

def isVerified (session : ActiveRelaySession) : Bool := session.verifiedAt.isSome

def verificationTimedOut (session : ActiveRelaySession) (now : Nat) : Bool :=
  !session.isVerified && RELAY_SESSION_VERIFY_TIMEOUT_SECS ≤ now - session.grantedAt

def ofGrant (granted : RelayAllocationGranted) (grantedAt : Nat) : ActiveRelaySession where
  relayPubkey := granted.relayPubkey
  localIngressEndpoint := granted.requesterIngressEndpoint
  advertisedIngressEndpoint := granted.targetIngressEndpoint
  grantedAt := grantedAt
  verifiedAt := none
  expiresAt := granted.expiresAt

def sessionsMatch (left right : ActiveRelaySession) : Bool :=
  left.relayPubkey == right.relayPubkey &&
    left.localIngressEndpoint == right.localIngressEndpoint &&
    left.advertisedIngressEndpoint == right.advertisedIngressEndpoint

end ActiveRelaySession

/-! ## Cooldowns -/

def relayFailureKey (participant relayPubkey : String) : String := s!"{participant}:{relayPubkey}"

def relayIsInFailureCooldown (failures : RelayFailureCooldowns) (participant relayPubkey : String)
    (now : Nat) : Bool :=
  (failures.lookup (relayFailureKey participant relayPubkey)).any fun until_ => now < until_

def noteFailedRelay (failures : RelayFailureCooldowns) (participant relayPubkey : String)
    (now : Nat) : RelayFailureCooldowns :=
  failures.insert (relayFailureKey participant relayPubkey) (now + RELAY_FAILED_RETRY_AFTER_SECS)

def relayProviderInFailureCooldown (verifications : RelayProviderVerificationBook)
    (relayPubkey : String) (now : Nat) : Bool :=
  ((verifications.lookup relayPubkey).bind RelayProviderVerification.failureCooldownUntil).any
    fun until_ => now < until_

def noteVerifiedRelayProvider (verifications : RelayProviderVerificationBook) (relayPubkey : String)
    (now : Nat) : RelayProviderVerificationBook :=
  verifications.upsert relayPubkey {} fun _ =>
    { verifiedAt := some now, failureCooldownUntil := none, lastFailureAt := none
      lastProbeAttemptAt := some now, consecutiveFailures := 0 }

def noteRelayProviderProbeAttempt (verifications : RelayProviderVerificationBook)
    (relayPubkey : String) (now : Nat) : RelayProviderVerificationBook :=
  verifications.upsert relayPubkey {} fun verification =>
    { verification with lastProbeAttemptAt := some now }

/-- The cooldown doubles with every failure, up to sixteen times and the greatest cooldown. -/
def noteFailedRelayProvider (verifications : RelayProviderVerificationBook) (relayPubkey : String)
    (now : Nat) (retryAfterSecs : Option Nat) : RelayProviderVerificationBook :=
  verifications.upsert relayPubkey {} fun verification =>
    let consecutiveFailures := min (verification.consecutiveFailures + 1) (2 ^ 32 - 1)
    let base := max (retryAfterSecs.getD RELAY_FAILED_RETRY_AFTER_SECS) 1
    let multiplier := 2 ^ min (consecutiveFailures - 1) 4
    let cooldown := min (base * multiplier) RELAY_PROVIDER_FAILURE_MAX_COOLDOWN_SECS
    { verification with
      lastFailureAt := some now
      lastProbeAttemptAt := some now
      consecutiveFailures
      failureCooldownUntil := some (now + cooldown) }

def relayProviderProbeDue (verifications : RelayProviderVerificationBook) (relayPubkey : String)
    (now : Nat) : Bool :=
  match verifications.lookup relayPubkey with
  | none => true
  | some verification =>
    if verification.verifiedAt.isSome then false
    else if verification.failureCooldownUntil.any fun until_ => now < until_ then false
    else verification.lastProbeAttemptAt.all fun last =>
      RELAY_PROVIDER_PROBE_RETRY_AFTER_SECS ≤ now - last

/-- Verified providers come first, the latest before the others, and cooled-down ones come last. -/
def relayProviderSortKey (verifications : RelayProviderVerificationBook) (relayPubkey : String)
    (now : Nat) : Nat ×ₗ Natᵒᵈ ×ₗ Nat :=
  let rank (group verifiedAt lastFailureAt : Nat) : Nat ×ₗ Natᵒᵈ ×ₗ Nat :=
    toLex (group, toLex (OrderDual.toDual verifiedAt, lastFailureAt))
  match verifications.lookup relayPubkey with
  | none => rank 1 0 0
  | some verification =>
    let lastFailureAt := verification.lastFailureAt.getD 0
    if verification.failureCooldownUntil.any fun until_ => now < until_ then rank 2 0 lastFailureAt
    else match verification.verifiedAt with
      | some verifiedAt => rank 0 verifiedAt lastFailureAt
      | none => rank 1 0 lastFailureAt

/-! ## The client state and its timers -/

structure RelayClient where
  pendingRequests : PendingRelayRequests
  relaySessions : RelaySessions
  standbyRelaySessions : StandbyRelaySessions
  relayFailures : RelayFailureCooldowns
  relayProviderVerifications : RelayProviderVerificationBook

def RelayClient.empty : RelayClient := ⟨∅, ∅, ∅, ∅, ∅⟩

def pruneActiveRelaySessions (sessions : RelaySessions) (now : Nat) : RelaySessions :=
  sessions.retain fun _ session => session.isActive now

def prunePendingRelayRequests (pending : PendingRelayRequests) (now : Nat) : PendingRelayRequests :=
  pending.retain fun _ request => now - request.requestedAt < RELAY_REQUEST_TIMEOUT_SECS

def pruneStandbyRelaySessions (standby : StandbyRelaySessions) (now : Nat) : StandbyRelaySessions :=
  (standby.mapValues fun sessions => sessions.filter fun session => session.isActive now).retain
    fun _ sessions => !sessions.isEmpty

def pruneRelayFailureCooldowns (failures : RelayFailureCooldowns) (now : Nat) :
    RelayFailureCooldowns :=
  failures.retain fun _ until_ => now < until_

def pruneRelayProviderVerifications (verifications : RelayProviderVerificationBook) (now : Nat) :
    RelayProviderVerificationBook :=
  let lifted := verifications.mapValues fun verification => { verification with
    failureCooldownUntil := verification.failureCooldownUntil.filter fun until_ => now < until_ }
  lifted.retain fun _ verification =>
    verification.verifiedAt.isSome || verification.failureCooldownUntil.isSome ||
      verification.lastFailureAt.isSome || verification.lastProbeAttemptAt.isSome

def queueStandbyRelaySession (standby : StandbyRelaySessions) (participant : String)
    (session : ActiveRelaySession) : Bool × StandbyRelaySessions :=
  let sessions := (standby.lookup participant).getD []
  if sessions.any fun existing => existing.sessionsMatch session then
    (false, standby)
  else (true, standby.insert participant (sessions ++ [session]))

def popNextStandbyRelaySession (standby : StandbyRelaySessions) (failures : RelayFailureCooldowns)
    (participant : String) (now : Nat) : Option ActiveRelaySession × StandbyRelaySessions :=
  match standby.lookup participant with
  | none => (none, standby)
  | some sessions =>
    let usable (session : ActiveRelaySession) : Bool :=
      session.isActive now &&
        !relayIsInFailureCooldown failures participant session.relayPubkey now
    match sessions.find? usable with
    | none => (none, standby)
    | some session =>
      let rest := sessions.eraseP usable
      (some { session with grantedAt := now, verifiedAt := none },
        if rest.isEmpty then standby.erase participant else standby.insert participant rest)

namespace RelayClient

/-- Expiry at an announce tick. -/
def prune (client : RelayClient) (now : Nat) : RelayClient :=
  { client with
    relaySessions := pruneActiveRelaySessions client.relaySessions now
    standbyRelaySessions := pruneStandbyRelaySessions client.standbyRelaySessions now
    relayFailures := pruneRelayFailureCooldowns client.relayFailures now
    relayProviderVerifications :=
      pruneRelayProviderVerifications client.relayProviderVerifications now }

def dropRequestsFor (client : RelayClient) (participant : String) : RelayClient :=
  { client with
    pendingRequests := client.pendingRequests.retain fun _ request =>
      request.participant != participant }

/-- The next standby session of a participant becomes its active one. -/
def failover (client : RelayClient) (participant : String) (now : Nat) : Bool × RelayClient :=
  let (next, standby) := popNextStandbyRelaySession client.standbyRelaySessions
    client.relayFailures participant now
  let client := { client with standbyRelaySessions := standby }
  match next with
  | some session => (true,
      { client with relaySessions := client.relaySessions.insert participant session })
  | none => (false, client)

/-- One round of `reconcile_active_relay_sessions`, and whether the participant changed. -/
def reconcileParticipant (verifies : String → ActiveRelaySession → Option Nat) (now : Nat)
    (client : RelayClient) (participant : String) : Bool × RelayClient :=
  match client.relaySessions.lookup participant with
  | none => (false, client)
  | some session =>
    if !session.isActive now then
      let client := { client with relaySessions := client.relaySessions.erase participant }
      let (replaced, client) := client.failover participant now
      (true, if replaced then client else client.dropRequestsFor participant)
    else match verifies participant session with
      | some verifiedAt =>
        let verified := { session with verifiedAt := session.verifiedAt.or (some verifiedAt) }
        (false, { client with
          relayProviderVerifications := noteVerifiedRelayProvider client.relayProviderVerifications
            session.relayPubkey verifiedAt
          relaySessions := client.relaySessions.insert participant verified })
      | none =>
        if !session.verificationTimedOut now then (false, client)
        else
          let client := { client with
            relaySessions := client.relaySessions.erase participant
            relayFailures :=
              noteFailedRelay client.relayFailures participant session.relayPubkey now
            relayProviderVerifications := noteFailedRelayProvider client.relayProviderVerifications
              session.relayPubkey now none }
          (true, ((client.dropRequestsFor participant).failover participant now).2)

/-- The participants whose session changed, and the new state. -/
def reconcileActiveRelaySessions (verifies : String → ActiveRelaySession → Option Nat) (now : Nat)
    (client : RelayClient) : List String × RelayClient :=
  let (changed, client) := client.relaySessions.keys.foldl (fun (changed, client) participant =>
    let (moved, client) := client.reconcileParticipant verifies now participant
    (if moved then changed ++ [participant] else changed, client)) ([], client)
  (sortDedup changed, client)

/-! ## Requests -/

def participantHasPendingRelayRequest (client : RelayClient) (participant : String) (now : Nat) :
    Bool :=
  client.pendingRequests.values.any fun request =>
    request.participant == participant && now - request.requestedAt < RELAY_REQUEST_RETRY_AFTER_SECS

/-- `silent` are the configured participants that are present but have no recent handshake. -/
def participantsNeedingRelay (client : RelayClient) (silent : List String) (now : Nat) :
    List String :=
  silent.filter fun participant =>
    (client.relaySessions.lookup participant).all (fun session => !session.isActive now) &&
      !client.participantHasPendingRelayRequest participant now

def relayCandidatesForParticipant (client : RelayClient) (relayPubkeys : List String)
    (participant : String) (ownPubkey : Option String) (now : Nat) : List String :=
  let usable := relayPubkeys.filter fun candidate =>
    candidate != participant && some candidate != ownPubkey &&
    !relayIsInFailureCooldown client.relayFailures participant candidate now &&
    !relayProviderInFailureCooldown client.relayProviderVerifications candidate now
  let sorted := sortByKey
    (fun candidate => relayProviderSortKey client.relayProviderVerifications candidate now) usable
  sorted.take MAX_PARALLEL_RELAY_REQUESTS_PER_PARTICIPANT

def relayRequestId (networkId participant relayPubkey : String) (now : Nat) : String :=
  s!"{networkId}:{participant}:{relayPubkey}:{now}"

/-- The request loop: one request to each candidate of each participant, until a publish fails. -/
def requestRelays (client : RelayClient) (networkId : String) (ownPubkey : Option String)
    (participants relayPubkeys : List String) (published : String → String → Bool) (now : Nat) :
    RelayClient :=
  let addressed := participants.flatMap fun participant =>
    (client.relayCandidatesForParticipant relayPubkeys participant ownPubkey now).map fun relay =>
      (participant, relay)
  let sent := addressed.takeWhile fun (participant, relay) => published participant relay
  { client with
    pendingRequests := sent.foldl (fun pending (participant, relay) =>
      pending.insert (relayRequestId networkId participant relay now) ⟨participant, relay, now⟩)
      client.pendingRequests }

end RelayClient

/-! ## Grants and rejections -/

inductive RelayGrantAction where
  | Activated (participant : String)
  | QueuedStandby (participant : String)
  | Ignored
  deriving DecidableEq, Repr

def acceptRelayAllocationGrant (granted : RelayAllocationGranted) (client : RelayClient)
    (now : Nat) : RelayGrantAction × RelayClient :=
  if granted.expiresAt ≤ now then (.Ignored, client)
  else match client.pendingRequests.lookup granted.requestId with
    | none => (.Ignored, client)
    | some pending =>
      -- The request is taken out before the relay is compared.
      let client := { client with
        pendingRequests := client.pendingRequests.erase granted.requestId }
      if pending.relayPubkey ≠ granted.relayPubkey then (.Ignored, client)
      else
        let participant := pending.participant
        if relayIsInFailureCooldown client.relayFailures participant pending.relayPubkey now then
          (.Ignored, client)
        else
          let session := ActiveRelaySession.ofGrant granted now
          if (client.relaySessions.lookup participant).any fun existing => existing.isActive now then
            let (queued, standby) :=
              queueStandbyRelaySession client.standbyRelaySessions participant session
            (if queued then .QueuedStandby participant else .Ignored,
              { client with standbyRelaySessions := standby })
          else (.Activated participant,
            { client with relaySessions := client.relaySessions.insert participant session })

def acceptRelayAllocationRejection (rejected : RelayAllocationRejected) (client : RelayClient)
    (now : Nat) : Option String × RelayClient :=
  match client.pendingRequests.lookup rejected.requestId with
  | none => (none, client)
  | some pending =>
    let client := { client with
      pendingRequests := client.pendingRequests.erase rejected.requestId }
    if pending.relayPubkey ≠ rejected.relayPubkey then (none, client)
    else (some pending.participant, { client with
      relayFailures :=
        noteFailedRelay client.relayFailures pending.participant pending.relayPubkey now
      relayProviderVerifications := noteFailedRelayProvider client.relayProviderVerifications
        pending.relayPubkey now rejected.retryAfterSecs })

end NostrVpn.Cli
