import NostrVpn.Relay.RelayRuntime
import NostrVpn.Transition

/-!
# The relay service and its caps

`nostr-vpn-relay/src/bin/nvpn-udp-relay.rs`: the request loop, the two leg tasks of every granted port
pair, and the state writer, as one machine with a wall clock (read by an event) and a monotonic clock.

The caps are checked on a table keyed by the request id that the client chooses, while the legs run
until their own deadline. They bound the live pairs along every run that neither reuses the id of a live
pair nor sweeps a lease whose pair is still live.
-/
namespace NostrVpn.Relay

open Rust Rust.Net NostrVpn.Core Transition

structure Args where
  leaseSecs : Nat
  maxActiveSessions : Nat
  maxSessionsPerRequester : Nat
  maxBytesPerSession : Nat
  maxForwardBps : Option Nat
  deriving DecidableEq, Repr

def DEFAULT_PROBE_LEASE_SECS : Nat := 8

def Args.relayLimits (args : Args) : RelayServiceLimits where
  maxActiveSessions := max args.maxActiveSessions 1
  maxSessionsPerRequester := max args.maxSessionsPerRequester 1
  maxBytesPerSession := max args.maxBytesPerSession 1
  maxForwardBps := args.maxForwardBps.filter fun value => 0 < value

/-- What the table should hold of a live port pair. -/
structure Lease where
  requestId : String
  requesterPubkey : String
  expiresAt : Nat
  deriving DecidableEq, Repr

/-- A granted port pair: its leg tasks and the session state they share. -/
structure PortPair where
  lease : Lease
  deadline : Nat
  requesterBound : Option SocketAddr := none
  targetBound : Option SocketAddr := none
  forwarding : SessionForwardingState := {}
  requesterLeg : Bool := true
  targetLeg : Bool := true
  deriving DecidableEq

/-- A grant whose response is being published. -/
structure Granting where
  session : RelayOperatorSessionState
  deadline : Nat

structure RelayService where
  running : Bool := true
  instant : Nat := 0
  runtime : RelayRuntimeState
  granting : Option Granting := none
  pairs : List PortPair := []

def RelayService.initial : RelayService := { runtime := { activeSessions := ∅ } }

/-- `bound` are the advertised endpoints of the bound legs, `none` when binding fails. -/
inductive ServiceEvent where
  | elapse (nanos : Nat)
  | message (envelope : ServiceEnvelope) (checkedAt startedAt : Nat)
      (bound : Option (String × String)) (rejectionSent : Bool)
  | published (ok : Bool) (now : Nat)
  | writeState (now : Nat)
  | packet (pair : Nat) (requesterLeg : Bool) (src : SocketAddr) (len : Nat) (sent : Option Nat)
  | legEnded (pair : Nat) (requesterLeg : Bool)

namespace PortPair

/-- Unexpired, with a running leg, and not closed by the byte limit. -/
def live (pair : PortPair) (instant : Nat) : Bool :=
  instant < pair.deadline && (pair.requesterLeg || pair.targetLeg) && !pair.forwarding.closed

def legRunning (pair : PortPair) (requesterLeg : Bool) : Bool :=
  if requesterLeg then pair.requesterLeg else pair.targetLeg

def endLeg (pair : PortPair) (requesterLeg : Bool) : PortPair :=
  if requesterLeg then { pair with requesterLeg := false } else { pair with targetLeg := false }

/-- A datagram at one leg: where it is forwarded to, if anywhere. The first source of a leg binds it. -/
def receive (refill : Nat → Nat → Nat) (limits : RelayServiceLimits) (instant : Nat)
    (pair : PortPair) (requesterLeg : Bool) (src : SocketAddr) (len : Nat) :
    Option SocketAddr × PortPair :=
  let (verdict, forwarding) := pair.forwarding.allowForward refill limits instant len
  let pair := { pair with forwarding }
  match verdict with
  | .error _ => (none, pair)
  | .ok () =>
    if requesterLeg then match pair.requesterBound with
      | some bound => (if bound ≠ src then none else pair.targetBound, pair)
      | none => (pair.targetBound, { pair with requesterBound := some src })
    else match pair.targetBound with
      | some bound => (if bound ≠ src then none else pair.requesterBound, pair)
      | none => (pair.requesterBound, { pair with targetBound := some src })

end PortPair

/-! ## Transitions -/

namespace RelayService

/-- An error that leaves `main` ends the process and with it every leg task. -/
def exit (st : RelayService) : RelayService :=
  { st with running := false, granting := none, pairs := [] }

/-- The request id, network id, target and lease of a request that the loop serves. -/
def served (args : Args) (envelope : ServiceEnvelope) : Option (String × String × String × Nat) :=
  match envelope.payload with
  | .RelayAllocationRequest request =>
    some (request.requestId, request.networkId, request.targetPubkey, max args.leaseSecs 30)
  | .RelayProbeRequest request =>
    some (request.requestId, "__probe__", envelope.senderPubkey, DEFAULT_PROBE_LEASE_SECS)
  | .RelayAllocationGranted _ | .RelayAllocationRejected _ | .RelayProbeGranted _
  | .RelayProbeRejected _ => none

/-- The session and the deadline of a grant. -/
def grantOf (args : Args) (instant : Nat) (envelope : ServiceEnvelope) (startedAt : Nat)
    (bound : String × String) : Option Granting :=
  (served args envelope).map fun (requestId, networkId, targetPubkey, leaseSecs) =>
    { session :=
        { requestId, networkId, requesterPubkey := envelope.senderPubkey, targetPubkey
          requesterIngressEndpoint := bound.1, targetIngressEndpoint := bound.2
          startedAt, expiresAt := startedAt + leaseSecs
          bytesFromRequester := 0, bytesFromTarget := 0 }
      deadline := instant + leaseSecs * 10 ^ 9 }

def onMessage (args : Args) (st : RelayService) (envelope : ServiceEnvelope)
    (checkedAt startedAt : Nat) (bound : Option (String × String)) (rejectionSent : Bool) :
    RelayService :=
  if (served args envelope).isNone then st
  else
    let (rejection, runtime) := st.runtime.allocationRejectionForRequester envelope.senderPubkey
      checkedAt args.relayLimits
    let st := { st with runtime }
    match rejection with
    | some _ => if rejectionSent then st else st.exit
    | none => { st with
      granting := bound.bind fun bound => grantOf args st.instant envelope startedAt bound }

def onPublished (st : RelayService) (grant : Granting) (ok : Bool) (now : Nat) : RelayService :=
  if !ok then st.exit
  else { st with
    granting := none
    runtime := st.runtime.noteSessionStarted grant.session now
    pairs := st.pairs ++ [{
      lease := ⟨grant.session.requestId, grant.session.requesterPubkey, grant.session.expiresAt⟩
      deadline := grant.deadline }] }

def onPacket (refill : Nat → Nat → Nat) (limits : RelayServiceLimits) (st : RelayService)
    (i : Nat) (requesterLeg : Bool) (src : SocketAddr) (len : Nat) (sent : Option Nat) :
    RelayService :=
  match st.pairs[i]? with
  | none => st
  | some pair =>
    if !pair.legRunning requesterLeg then st
    else
      let dest := (pair.receive refill limits st.instant requesterLeg src len).1
      let st := { st with pairs := st.pairs.modify i fun pair =>
        (pair.receive refill limits st.instant requesterLeg src len).2 }
      match dest, sent with
      | some _, some bytes => { st with
        runtime := st.runtime.noteForwardedBytes pair.lease.requestId requesterLeg bytes }
      | _, _ => st

def step (args : Args) (refill : Nat → Nat → Nat) (st : RelayService) : ServiceEvent → RelayService
  | .elapse nanos => { st with instant := st.instant + nanos }
  | .message envelope checkedAt startedAt bound rejectionSent =>
    -- The loop takes the next message only after the previous grant was published.
    if st.running && st.granting.isNone then
      st.onMessage args envelope checkedAt startedAt bound rejectionSent
    else st
  | .published ok now =>
    match st.granting with
    | some grant => if st.running then st.onPublished grant ok now else st
    | none => st
  | .writeState now => if st.running then { st with runtime := st.runtime.snapshot now } else st
  | .packet i requesterLeg src len sent =>
    st.onPacket refill args.relayLimits i requesterLeg src len sent
  | .legEnded i requesterLeg =>
    { st with pairs := st.pairs.modify i fun pair => pair.endLeg requesterLeg }

/-- The leases of the port pairs that still forward. -/
def liveLeases (st : RelayService) : List Lease :=
  (st.pairs.filter fun pair => pair.live st.instant).map PortPair.lease

def WithinCaps (limits : RelayServiceLimits) (st : RelayService) : Prop :=
  st.liveLeases.length ≤ limits.maxActiveSessions ∧
  ∀ requester, (st.liveLeases.filter fun lease => lease.requesterPubkey == requester).length ≤
    limits.maxSessionsPerRequester

/-- The wall time at which a step sweeps the table, if it does. -/
def sweepTime (args : Args) (st : RelayService) : ServiceEvent → Option Nat
  | .message envelope checkedAt _ _ _ =>
    if st.running && st.granting.isNone && (served args envelope).isSome then some checkedAt else none
  | .published ok now => if st.running && st.granting.isSome && ok then some now else none
  | .writeState now => if st.running then some now else none
  | _ => none

/-- The grant that a step completes. -/
def completedGrant (st : RelayService) : ServiceEvent → Option Granting
  | .published true _ => if st.running then st.granting else none
  | _ => none

/-- No sweep reaches the lease of a live pair, and no grant reuses the request id of a live pair. -/
structure Orderly (args : Args) (st : RelayService) (e : ServiceEvent) : Prop where
  sweep_after_end : ∀ now ∈ st.sweepTime args e, ∀ lease ∈ st.liveLeases, now < lease.expiresAt
  fresh_request : ∀ grant ∈ st.completedGrant e, ∀ lease ∈ st.liveLeases,
    lease.requestId ≠ grant.session.requestId

instance (args : Args) (st : RelayService) (e : ServiceEvent) : Decidable (st.Orderly args e) :=
  decidable_of_iff
    ((∀ now ∈ st.sweepTime args e, ∀ lease ∈ st.liveLeases, now < lease.expiresAt) ∧
      ∀ grant ∈ st.completedGrant e, ∀ lease ∈ st.liveLeases,
        lease.requestId ≠ grant.session.requestId)
    ⟨fun h => ⟨h.1, h.2⟩, fun h => ⟨h.sweep_after_end, h.fresh_request⟩⟩

/-! ## What a step does to the live leases -/

section LiveLeases

variable {st : RelayService}

theorem sublist_liveLeases_modify {pairs : List PortPair} {instant : Nat} {f : PortPair → PortPair}
    (lease : ∀ pair, (f pair).lease = pair.lease)
    (live : ∀ pair, (f pair).live instant → pair.live instant) (i : Nat) :
    (((pairs.modify i f).filter fun pair => pair.live instant).map PortPair.lease).Sublist
      ((pairs.filter fun pair => pair.live instant).map PortPair.lease) := by
  induction pairs generalizing i with
  | nil => simp
  | cons pair pairs ih =>
    cases i with
    | zero =>
      cases after : (f pair).live instant with
      | true => simp [after, live pair after, lease]
      | false => cases before : pair.live instant <;> simp [after, before]
    | succ i => cases before : pair.live instant <;> simp [before, ih i]

theorem live_of_elapse {pair : PortPair} {instant nanos : Nat} (h : pair.live (instant + nanos)) :
    pair.live instant := by
  simp only [PortPair.live, Bool.and_eq_true, decide_eq_true_eq] at h ⊢
  refine ⟨⟨?_, h.1.2⟩, h.2⟩
  omega

theorem live_of_endLeg {pair : PortPair} {instant : Nat} {requesterLeg : Bool}
    (h : (pair.endLeg requesterLeg).live instant) : pair.live instant := by
  cases requesterLeg <;> simp_all [PortPair.live, PortPair.endLeg]

theorem lease_endLeg (pair : PortPair) (requesterLeg : Bool) :
    (pair.endLeg requesterLeg).lease = pair.lease := by
  cases requesterLeg <;> rfl

/-- A datagram changes the session state and the bound sources, and nothing else of the pair. -/
theorem receive_eq (refill : Nat → Nat → Nat) (limits : RelayServiceLimits) (instant : Nat)
    (pair : PortPair) (requesterLeg : Bool) (src : SocketAddr) (len : Nat) :
    ∃ requesterBound targetBound,
      (pair.receive refill limits instant requesterLeg src len).2 = { pair with
        requesterBound, targetBound
        forwarding := (pair.forwarding.allowForward refill limits instant len).2 } := by
  simp only [PortPair.receive]
  repeat' split
  all_goals exact ⟨_, _, rfl⟩

theorem live_of_receive {refill : Nat → Nat → Nat} {limits : RelayServiceLimits} {instant : Nat}
    {pair : PortPair} {requesterLeg : Bool} {src : SocketAddr} {len : Nat}
    (h : (pair.receive refill limits instant requesterLeg src len).2.live instant) :
    pair.live instant := by
  obtain ⟨requesterBound, targetBound, eq⟩ :=
    receive_eq refill limits instant pair requesterLeg src len
  rw [eq] at h
  simp only [PortPair.live, Bool.and_eq_true, Bool.not_eq_true'] at h ⊢
  refine ⟨h.1, ?_⟩
  by_contra closed
  have same := @SessionForwardingState.allowForward_closed refill limits pair.forwarding instant len
    (by simpa using closed)
  rw [same] at h
  exact closed h.2

theorem liveLeases_published (st : RelayService) (grant : Granting) (now : Nat) :
    ((st.onPublished grant true now).liveLeases).Sublist (st.liveLeases ++
      [⟨grant.session.requestId, grant.session.requesterPubkey, grant.session.expiresAt⟩]) := by
  simp only [liveLeases, onPublished, Bool.not_true, Bool.false_eq_true, if_false,
    List.filter_append, List.map_append]
  exact (List.Sublist.refl _).append (List.filter_sublist.map PortPair.lease)

end LiveLeases

/-! ## The invariant -/

/-- Every live pair has its own entry in the table, and the table keeps the caps. -/
structure Recorded (limits : RelayServiceLimits) (st : RelayService) : Prop where
  recorded : ∀ lease ∈ st.liveLeases, ∃ session,
    st.runtime.activeSessions.lookup lease.requestId = some session ∧
      session.requesterPubkey = lease.requesterPubkey ∧ session.expiresAt = lease.expiresAt
  distinct : (st.liveLeases.map Lease.requestId).Nodup
  active_le : st.runtime.activeSessions.values.length ≤ limits.maxActiveSessions
  requester_le : ∀ requester,
    st.runtime.requesterSessions requester ≤ limits.maxSessionsPerRequester
  room : ∀ grant ∈ st.granting,
    st.runtime.activeSessions.values.length < limits.maxActiveSessions ∧
      st.runtime.requesterSessions grant.session.requesterPubkey < limits.maxSessionsPerRequester

/-- The number of leases of a requester is bounded by its entries, and likewise for all leases. -/
theorem Recorded.withinCaps {limits : RelayServiceLimits} {st : RelayService}
    (h : st.Recorded limits) : st.WithinCaps limits := by
  have bound (p : Lease → Bool) (q : RelayOperatorSessionState → Bool)
      (agree : ∀ lease session, session.requesterPubkey = lease.requesterPubkey → p lease →
        q session) :
      (st.liveLeases.filter p).length ≤ (st.runtime.activeSessions.values.filter q).length := by
    have distinct : ((st.liveLeases.filter p).map Lease.requestId).Nodup :=
      h.distinct.sublist (List.filter_sublist.map Lease.requestId)
    have count := @HashMap.length_le_filter_values _ _ _ st.runtime.activeSessions q _ distinct
    rw [List.length_map] at count
    refine count fun id mem => ?_
    obtain ⟨lease, listed, rfl⟩ := List.mem_map.mp mem
    obtain ⟨mem, holds⟩ := List.mem_filter.mp listed
    obtain ⟨session, found, requester, -⟩ := h.recorded lease mem
    exact ⟨session, found, agree lease session requester holds⟩
  refine ⟨?_, fun requester => ?_⟩
  · have all := bound (fun _ => true) (fun _ => true) fun _ _ _ _ => rfl
    simp only [List.filter_true] at all
    exact all.trans h.active_le
  · refine (bound _ (fun session => session.requesterPubkey == requester) ?_).trans
      (h.requester_le requester)
    intro lease session same mine
    rwa [same]

/-- A step that grants nothing keeps the invariant when it keeps the entries of the live leases. -/
theorem Recorded.mono {limits : RelayServiceLimits} {st st' : RelayService}
    (h : st.Recorded limits) (live : st'.liveLeases.Sublist st.liveLeases)
    (keep : ∀ lease ∈ st'.liveLeases, ∀ session,
      st.runtime.activeSessions.lookup lease.requestId = some session →
      session.expiresAt = lease.expiresAt →
      ∃ session', st'.runtime.activeSessions.lookup lease.requestId = some session' ∧
        session'.requesterPubkey = session.requesterPubkey ∧ session'.expiresAt = session.expiresAt)
    (active : st'.runtime.activeSessions.values.length ≤ st.runtime.activeSessions.values.length)
    (requester : ∀ requester,
      st'.runtime.requesterSessions requester ≤ st.runtime.requesterSessions requester)
    (room : ∀ grant ∈ st'.granting, grant ∈ st.granting ∨
      st'.runtime.activeSessions.values.length < limits.maxActiveSessions ∧
      st'.runtime.requesterSessions grant.session.requesterPubkey <
        limits.maxSessionsPerRequester) : st'.Recorded limits where
  recorded := by
    intro lease mem
    obtain ⟨session, found, same, expiry⟩ := h.recorded lease (live.subset mem)
    obtain ⟨session', found', same', expiry'⟩ := keep lease mem session found expiry
    exact ⟨session', found', same'.trans same, expiry'.trans expiry⟩
  distinct := h.distinct.sublist (live.map Lease.requestId)
  active_le := active.trans h.active_le
  requester_le r := (requester r).trans (h.requester_le r)
  room := by
    intro grant mem
    rcases room grant mem with old | new
    · obtain ⟨space, spaceRequester⟩ := h.room grant old
      exact ⟨active.trans_lt space, (requester _).trans_lt spaceRequester⟩
    · exact new

theorem length_values_prune_le (state : RelayRuntimeState) (now : Nat) :
    (state.pruneExpiredSessions now).activeSessions.values.length ≤
      state.activeSessions.values.length := by
  rw [RelayRuntimeState.pruneExpiredSessions, HashMap.values_retain]
  exact List.length_filter_le _ _

theorem requesterSessions_prune_le (state : RelayRuntimeState) (now : Nat) (requester : String) :
    (state.pruneExpiredSessions now).requesterSessions requester ≤
      state.requesterSessions requester := by
  rw [RelayRuntimeState.requesterSessions, RelayRuntimeState.pruneExpiredSessions,
    HashMap.values_retain]
  exact (List.filter_sublist.filter _).length_le

theorem lookup_prune {state : RelayRuntimeState} {now : Nat} {requestId : String}
    {session : RelayOperatorSessionState}
    (h : state.activeSessions.lookup requestId = some session) (live : now < session.expiresAt) :
    (state.pruneExpiredSessions now).activeSessions.lookup requestId = some session := by
  simp [RelayRuntimeState.pruneExpiredSessions, h, live, Option.filter]

/-- A sweep at a time before the end of every live lease. -/
theorem Recorded.sweep {limits : RelayServiceLimits} {st st' : RelayService}
    (h : st.Recorded limits) {now : Nat} (ended : ∀ lease ∈ st.liveLeases, now < lease.expiresAt)
    (live : st'.liveLeases.Sublist st.liveLeases)
    (sessions : st'.runtime.activeSessions = (st.runtime.pruneExpiredSessions now).activeSessions)
    (room : ∀ grant ∈ st'.granting, grant ∈ st.granting ∨
      st'.runtime.activeSessions.values.length < limits.maxActiveSessions ∧
      st'.runtime.requesterSessions grant.session.requesterPubkey <
        limits.maxSessionsPerRequester) : st'.Recorded limits := by
  refine h.mono live ?_ ?_ ?_ room
  · intro lease mem session found expiry
    have unswept := lookup_prune found (expiry ▸ ended lease (live.subset mem))
    exact ⟨session, sessions ▸ unswept, rfl, rfl⟩
  · rw [sessions]
    exact length_values_prune_le st.runtime now
  · intro requester
    rw [RelayRuntimeState.requesterSessions, sessions]
    exact requesterSessions_prune_le st.runtime now requester

theorem Recorded.exit {limits : RelayServiceLimits} {st : RelayService} (h : st.Recorded limits) :
    st.exit.Recorded limits :=
  h.mono (List.nil_sublist _) (fun _ mem => absurd mem List.not_mem_nil) le_rfl (fun _ => le_rfl)
    (fun _ mem => absurd mem (Option.not_mem_none _))

theorem Recorded.message {args : Args} {st : RelayService} (h : st.Recorded args.relayLimits)
    {envelope : ServiceEnvelope} {checkedAt : Nat} (startedAt : Nat) (bound : Option (String × String))
    (rejectionSent : Bool) (ended : (served args envelope).isSome →
      ∀ lease ∈ st.liveLeases, checkedAt < lease.expiresAt) :
    (st.onMessage args envelope checkedAt startedAt bound rejectionSent).Recorded
      args.relayLimits := by
  unfold onMessage
  cases serves : served args envelope with
  | none => exact h
  | some request =>
    have swept (granting : Option Granting) (room : ∀ grant ∈ granting, grant ∈ st.granting ∨
        (st.runtime.pruneExpiredSessions checkedAt).activeSessions.values.length <
          args.relayLimits.maxActiveSessions ∧
        (st.runtime.pruneExpiredSessions checkedAt).requesterSessions
          grant.session.requesterPubkey < args.relayLimits.maxSessionsPerRequester) :
        Recorded args.relayLimits { st with
          runtime := st.runtime.pruneExpiredSessions checkedAt, granting } :=
      h.sweep (ended (by simp [serves])) (List.Sublist.refl _) rfl room
    simp only [Option.isNone_some, Bool.false_eq_true, if_false,
      RelayRuntimeState.snd_allocationRejection]
    cases verdict : (st.runtime.allocationRejectionForRequester envelope.senderPubkey checkedAt
        args.relayLimits).1 with
    | some rejection =>
      have kept := swept st.granting fun _ mem => Or.inl mem
      cases rejectionSent with
      | true => exact kept
      | false => exact kept.exit
    | none =>
      refine swept _ fun grant mem => Or.inr ?_
      obtain ⟨room, roomRequester⟩ := RelayRuntimeState.room_of_allocationRejection verdict
      obtain ⟨endpoints, -, granted⟩ := Option.mem_bind_iff.mp mem
      obtain ⟨_, -, rfl⟩ := Option.map_eq_some_iff.mp granted
      exact ⟨room, roomRequester⟩

theorem Recorded.published {limits : RelayServiceLimits} {st : RelayService}
    (h : st.Recorded limits) {grant : Granting} (pending : grant ∈ st.granting) {now : Nat}
    (ended : ∀ lease ∈ st.liveLeases, now < lease.expiresAt)
    (fresh : ∀ lease ∈ st.liveLeases, lease.requestId ≠ grant.session.requestId) :
    (st.onPublished grant true now).Recorded limits := by
  obtain ⟨room, roomRequester⟩ := h.room grant pending
  have live := liveLeases_published st grant now
  have runtime : (st.onPublished grant true now).runtime.activeSessions =
      (st.runtime.pruneExpiredSessions now).activeSessions.insert grant.session.requestId
        grant.session := rfl
  have sweptActive := length_values_prune_le st.runtime now
  refine ⟨?_, ?_, ?_, fun requester => ?_, ?_⟩
  · intro lease mem
    rw [runtime]
    rcases List.mem_append.mp (live.subset mem) with old | new
    · obtain ⟨session, found, same, expiry⟩ := h.recorded lease old
      refine ⟨session, ?_, same, expiry⟩
      rw [AList.lookup_insert_ne (fresh lease old)]
      exact lookup_prune found (expiry ▸ ended lease old)
    · obtain rfl := List.mem_singleton.mp new
      exact ⟨grant.session, AList.lookup_insert _, rfl, rfl⟩
  · refine (List.Nodup.sublist (live.map Lease.requestId) ?_)
    rw [List.map_append, List.map_singleton]
    refine List.nodup_append.mpr ⟨h.distinct, List.nodup_singleton _, ?_⟩
    intro id mem id' mem'
    obtain ⟨lease, listed, rfl⟩ := List.mem_map.mp mem
    obtain rfl := List.mem_singleton.mp mem'
    exact fresh lease listed
  · have added := HashMap.length_filter_values_insert_le (fun _ => true) grant.session.requestId
      grant.session (st.runtime.pruneExpiredSessions now).activeSessions
    simp only [List.filter_true, Bool.toNat_true] at added
    rw [runtime]
    omega
  · have added := HashMap.length_filter_values_insert_le
      (fun session => session.requesterPubkey == requester) grant.session.requestId
      grant.session (st.runtime.pruneExpiredSessions now).activeSessions
    have swept := requesterSessions_prune_le st.runtime now requester
    have before := h.requester_le requester
    rw [RelayRuntimeState.requesterSessions] at swept ⊢
    rw [runtime]
    by_cases mine : grant.session.requesterPubkey = requester
    · subst mine
      simp only [beq_self_eq_true, Bool.toNat_true] at added
      omega
    · simp only [beq_eq_false_iff_ne.mpr mine, Bool.toNat_false] at added
      omega
  · exact fun grant mem => absurd mem (Option.not_mem_none _)

theorem Recorded.packet {limits : RelayServiceLimits} {st : RelayService} (h : st.Recorded limits)
    (refill : Nat → Nat → Nat) (i : Nat) (requesterLeg : Bool) (src : SocketAddr) (len : Nat)
    (sent : Option Nat) : (st.onPacket refill limits i requesterLeg src len sent).Recorded limits := by
  have received : Recorded limits { st with pairs := st.pairs.modify i fun pair =>
      (pair.receive refill limits st.instant requesterLeg src len).2 } := by
    refine h.mono (sublist_liveLeases_modify ?_ (fun _ => live_of_receive) i)
      (fun _ _ session found _ => ⟨session, found, rfl, rfl⟩) le_rfl (fun _ => le_rfl)
      (fun _ mem => Or.inl mem)
    intro pair
    obtain ⟨_, _, eq⟩ := receive_eq refill limits st.instant pair requesterLeg src len
    rw [eq]
  unfold onPacket
  split
  · exact h
  · split_ifs
    · exact h
    · dsimp only
      split
      · refine received.mono (List.Sublist.refl _) ?_
          (RelayRuntimeState.length_values_noteForwardedBytes ..).le
          (fun _ => (RelayRuntimeState.requesterSessions_noteForwardedBytes ..).le)
          (fun _ mem => Or.inl mem)
        intro lease _ session found _
        refine ⟨_, (HashMap.lookup_mapEntries _ _ _).trans (congrArg _ found), ?_⟩
        dsimp only
        split_ifs <;> exact ⟨rfl, rfl⟩
      · exact received

theorem Recorded.step {args : Args} {refill : Nat → Nat → Nat} {st : RelayService} {e : ServiceEvent}
    (h : st.Recorded args.relayLimits) (orderly : st.Orderly args e) :
    (st.step args refill e).Recorded args.relayLimits := by
  have same (_ : Lease) (session : RelayOperatorSessionState) {requestId : String}
      (found : st.runtime.activeSessions.lookup requestId = some session) :
      ∃ session', st.runtime.activeSessions.lookup requestId = some session' ∧
        session'.requesterPubkey = session.requesterPubkey ∧
        session'.expiresAt = session.expiresAt := ⟨session, found, rfl, rfl⟩
  cases e with
  | elapse nanos =>
    have live : ({ st with instant := st.instant + nanos } : RelayService).liveLeases.Sublist
        st.liveLeases :=
      (List.monotone_filter_right _ fun pair => live_of_elapse).map PortPair.lease
    exact h.mono live (fun lease _ session found _ => same lease session found) le_rfl
      (fun _ => le_rfl) (fun _ mem => Or.inl mem)
  | message envelope checkedAt startedAt bound rejectionSent =>
    simp only [RelayService.step]
    split_ifs with idle
    · refine h.message startedAt bound rejectionSent fun serves => ?_
      exact orderly.sweep_after_end checkedAt (by simp [sweepTime, idle, serves])
    · exact h
  | published ok now =>
    simp only [RelayService.step]
    split
    · rename_i grant pending
      split_ifs with running
      · cases ok with
        | true =>
          have ended := orderly.sweep_after_end now (by simp [sweepTime, running, pending])
          have fresh := orderly.fresh_request grant (by simpa [completedGrant, running] using pending)
          exact h.published pending ended fresh
        | false => exact h.exit
      · exact h
    · exact h
  | writeState now =>
    simp only [RelayService.step]
    split_ifs with running
    · have ended := orderly.sweep_after_end now (by simp [sweepTime, running])
      exact h.sweep ended (List.Sublist.refl _) (RelayRuntimeState.activeSessions_snapshot _ now)
        (fun _ mem => Or.inl mem)
    · exact h
  | packet i requesterLeg src len sent => exact h.packet refill i requesterLeg src len sent
  | legEnded i requesterLeg =>
    have live := @sublist_liveLeases_modify st.pairs st.instant _
      (fun pair => lease_endLeg pair requesterLeg) (fun _ => live_of_endLeg) i
    exact h.mono live (fun lease _ session found _ => same lease session found) le_rfl
      (fun _ => le_rfl) (fun _ mem => Or.inl mem)

theorem recorded_initial (limits : RelayServiceLimits) : initial.Recorded limits where
  recorded _ mem := absurd mem List.not_mem_nil
  distinct := List.nodup_nil
  active_le := Nat.zero_le _
  requester_le _ := Nat.zero_le _
  room _ mem := absurd mem (Option.not_mem_none _)

end RelayService

/-! ## Runs -/

/-- After every orderly run the live port pairs keep the caps, in all and for each requester. -/
theorem relayService_withinCaps (args : Args) (refill : Nat → Nat → Nat) (es : List ServiceEvent)
    (orderly : Along (RelayService.step args refill) (RelayService.Orderly args) .initial es) :
    (run (RelayService.step args refill) .initial es).WithinCaps args.relayLimits := by
  have kept := Transition.invariant (fun _ _ => RelayService.Recorded.step)
    (RelayService.recorded_initial args.relayLimits) orderly
  exact kept.withinCaps

/-! ## Two small runs -/

def twoSessionArgs : Args where
  leaseSecs := 120
  maxActiveSessions := 2
  maxSessionsPerRequester := 2
  maxBytesPerSession := 1000
  maxForwardBps := none

/-- A request from a requester, and the publication of its grant. -/
def sampleGrant (requester requestId : String) (now : Nat) : List ServiceEvent :=
  [.message ⟨requester, .RelayAllocationRequest ⟨requestId, "mesh", "target", now⟩⟩ now now
      (some ("203.0.113.1:40000", "203.0.113.1:40001")) true,
    .published true now]

theorem relayService_withinCaps_two_requesters :
    (run (RelayService.step twoSessionArgs fun _ _ => 0) .initial
      (sampleGrant "a" "a:1" 100 ++ sampleGrant "b" "b:1" 101 ++ [.writeState 102])).WithinCaps
        twoSessionArgs.relayLimits :=
  relayService_withinCaps twoSessionArgs (fun _ _ => 0) _ (by decide +kernel)

/-- One requester that repeats its request id gets a third live pair from a relay capped at two. -/
theorem relayService_exceeds_caps_on_repeated_id :
    ¬∀ (args : Args) (refill : Nat → Nat → Nat) (es : List ServiceEvent),
      (run (RelayService.step args refill) .initial es).WithinCaps args.relayLimits := by
  intro capped
  have three := (capped twoSessionArgs (fun _ _ => 0)
    (sampleGrant "a" "a:1" 100 ++ sampleGrant "a" "a:1" 101 ++ sampleGrant "a" "a:1" 102)).1
  exact absurd three (by decide +kernel)

end NostrVpn.Relay
