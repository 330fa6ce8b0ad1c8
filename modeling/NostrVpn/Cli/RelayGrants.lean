import NostrVpn.Cli.RelayClient
import NostrVpn.Core.ConfigDefaults

/-!
# Who may answer a relay request

The daemon's relay client as a machine: service messages of arbitrary authors, requests, probes and
timers. A message should change the client only if its author is the relay that the request was
addressed to. The handlers compare the `relay_pubkey` inside the payload instead, after the pending
request is taken out, so this holds of exactly the runs in which no other author names an open request.
-/
namespace NostrVpn.Cli

open Rust NostrVpn.Core Transition

inductive RelayProviderProbeOutcome where
  | Verified
  | Rejected (retryAfterSecs : Option Nat)
  | Failed
  deriving DecidableEq, Repr

/-- The loop over probe candidates: those still to probe, and the one whose answer is awaited. -/
structure ProbeRun where
  now : Nat
  waiting : List String
  current : Option String
  deriving DecidableEq, Repr

/-- The daemon does not poll its other branches while a loop over probe candidates is running. -/
structure RelaySignaling where
  client : RelayClient
  probing : Option ProbeRun

inductive RelayEvent where
  | serviceMessage (event : SignedEvent) (now : Nat)
  | probeReply (event : SignedEvent) (datapathOk : Bool)
  | probeTimeout
  | startProbes (relayPubkeys : List String) (now : Nat)
  | nextProbe (published : Bool)
  | requestRelays (networkId : String) (ownPubkey : Option String) (silent relayPubkeys : List String)
      (published : String → String → Bool) (now : Nat)
  | announceTick (now : Nat)
  | prunePending (now : Nat)
  | stateTick (verifies : String → ActiveRelaySession → Option Nat) (now : Nat)
  | pause

/-! ## Transitions -/

def probeRequestId (relayPubkey : String) (now : Nat) : String := s!"probe:{relayPubkey}:{now}"

/-- What the receive loop of `probe_relay_provider` makes of a message; `none` is `continue`. -/
def probeOutcome (requestId relayPubkey : String) (datapathOk : Bool) :
    ServicePayload → Option RelayProviderProbeOutcome
  | .RelayProbeGranted granted =>
    if granted.requestId = requestId ∧ granted.relayPubkey = relayPubkey then
      some (if datapathOk then .Verified else .Failed)
    else none
  | .RelayProbeRejected rejected =>
    if rejected.requestId = requestId ∧ rejected.relayPubkey = relayPubkey then
      some (.Rejected rejected.retryAfterSecs)
    else none
  | _ => none

def RelayClient.noteProbeOutcome (client : RelayClient) (relayPubkey : String) (now : Nat)
    (outcome : RelayProviderProbeOutcome) : RelayClient :=
  { client with
    relayProviderVerifications := match outcome with
      | .Verified => noteVerifiedRelayProvider client.relayProviderVerifications relayPubkey now
      | .Rejected retryAfterSecs =>
        noteFailedRelayProvider client.relayProviderVerifications relayPubkey now retryAfterSecs
      | .Failed => noteFailedRelayProvider client.relayProviderVerifications relayPubkey now
          (some RELAY_PROVIDER_PROBE_RETRY_AFTER_SECS) }

/-- The service-message branch of the daemon. -/
def RelayClient.handleServicePayload (client : RelayClient) (payload : ServicePayload) (now : Nat) :
    RelayClient :=
  match payload with
  | .RelayAllocationGranted granted => (acceptRelayAllocationGrant granted client now).2
  | .RelayAllocationRejected rejected => (acceptRelayAllocationRejection rejected client now).2
  | .RelayAllocationRequest _ | .RelayProbeRequest _ | .RelayProbeGranted _
  | .RelayProbeRejected _ => client

namespace RelaySignaling

def initial : RelaySignaling := ⟨.empty, none⟩

/-- A branch that is only polled outside the probe loop. -/
def whenIdle (st : RelaySignaling) (f : RelayClient → RelayClient) : RelaySignaling :=
  if st.probing.isSome then st else { st with client := f st.client }

def finishProbe (st : RelaySignaling) (run : ProbeRun) (relayPubkey : String)
    (outcome : RelayProviderProbeOutcome) : RelaySignaling where
  client := st.client.noteProbeOutcome relayPubkey run.now outcome
  probing := some { run with current := none }

def onProbeReply (st : RelaySignaling) (envelope : ServiceEnvelope) (datapathOk : Bool) :
    RelaySignaling :=
  match st.probing with
  | some ⟨now, waiting, some relay⟩ =>
    match probeOutcome (probeRequestId relay now) relay datapathOk envelope.payload with
    | some outcome => st.finishProbe ⟨now, waiting, some relay⟩ relay outcome
    | none => st
  | _ => st

def onNextProbe (st : RelaySignaling) (published : Bool) : RelaySignaling :=
  match st.probing with
  | some ⟨_, [], none⟩ => { st with probing := none }
  | some ⟨now, relay :: waiting, none⟩ =>
    let attempted := { st.client with
      relayProviderVerifications :=
        noteRelayProviderProbeAttempt st.client.relayProviderVerifications relay now }
    if published then { client := attempted, probing := some ⟨now, waiting, some relay⟩ }
    else finishProbe { st with client := attempted } ⟨now, waiting, none⟩ relay .Failed
  | _ => st

def step (reader : ServiceReader) (st : RelaySignaling) : RelayEvent → RelaySignaling
  | .serviceMessage event now =>
    match forwardEvent reader event with
    | some envelope => st.whenIdle fun client => client.handleServicePayload envelope.payload now
    | none => st
  | .probeReply event datapathOk =>
    match forwardEvent reader event with
    | some envelope => st.onProbeReply envelope datapathOk
    | none => st
  | .probeTimeout =>
    match st.probing with
    | some ⟨now, waiting, some relay⟩ => st.finishProbe ⟨now, waiting, some relay⟩ relay .Failed
    | _ => st
  | .startProbes relayPubkeys now =>
    let candidates := (relayPubkeys.filter fun relay =>
      relayProviderProbeDue st.client.relayProviderVerifications relay now).take
        MAX_PARALLEL_RELAY_PROVIDER_PROBES
    if st.probing.isSome then st else { st with probing := some ⟨now, candidates, none⟩ }
  | .nextProbe published => st.onNextProbe published
  | .requestRelays networkId ownPubkey silent relayPubkeys published now =>
    st.whenIdle fun client => client.requestRelays networkId ownPubkey
      (client.participantsNeedingRelay silent now) relayPubkeys published now
  | .announceTick now => st.whenIdle fun client => client.prune now
  | .prunePending now => st.whenIdle fun client =>
    { client with pendingRequests := prunePendingRelayRequests client.pendingRequests now }
  | .stateTick verifies now =>
    st.whenIdle fun client => (client.reconcileActiveRelaySessions verifies now).2
  | .pause => st.whenIdle fun _ => .empty

/-- The relay to which the request that a message names was addressed, while it is open. -/
def addressee (st : RelaySignaling) : ServicePayload → Option String
  | .RelayAllocationGranted granted =>
    (st.client.pendingRequests.lookup granted.requestId).map PendingRelayRequest.relayPubkey
  | .RelayAllocationRejected rejected =>
    (st.client.pendingRequests.lookup rejected.requestId).map PendingRelayRequest.relayPubkey
  | .RelayProbeGranted granted => openProbe granted.requestId
  | .RelayProbeRejected rejected => openProbe rejected.requestId
  | .RelayAllocationRequest _ | .RelayProbeRequest _ => none
where
  openProbe (requestId : String) : Option String :=
    match st.probing with
    | some ⟨now, _, some relay⟩ => if requestId = probeRequestId relay now then some relay else none
    | _ => none

end RelaySignaling

/-! ## The property and its condition -/

def RelayEvent.message : RelayEvent → Option SignedEvent
  | .serviceMessage event _ | .probeReply event _ => some event
  | _ => none

/-- The handler ignores a grant because of the relay it names, or returns `None` for a rejection. -/
def discarded (client : RelayClient) (now : Nat) : ServicePayload → Prop
  | .RelayAllocationGranted granted =>
    (acceptRelayAllocationGrant granted client now).1 = .Ignored ∧
      ∃ pending ∈ client.pendingRequests.lookup granted.requestId,
        pending.relayPubkey ≠ granted.relayPubkey
  | .RelayAllocationRejected rejected =>
    (acceptRelayAllocationRejection rejected client now).1 = none
  | _ => False

/-- A message changes the client only in the hand of the relay that was asked, and a message that
its handler discards does not change it. -/
structure AuthenticStep (reader : ServiceReader) (st : RelaySignaling) (e : RelayEvent) : Prop where
  only_addressee : ∀ event, e.message = some event → st.step reader e ≠ st →
    ∃ envelope, forwardEvent reader event = some envelope ∧
      st.addressee envelope.payload = some envelope.senderPubkey
  discarded_unchanged : ∀ event now envelope, e = .serviceMessage event now →
    forwardEvent reader event = some envelope → discarded st.client now envelope.payload →
    st.step reader e = st

/-- The request that a grant or rejection answers and the relay it names, unless it is expired. -/
def answerOf (now : Nat) : ServicePayload → Option (String × String)
  | .RelayAllocationGranted granted =>
    if granted.expiresAt ≤ now then none else some (granted.requestId, granted.relayPubkey)
  | .RelayAllocationRejected rejected => some (rejected.requestId, rejected.relayPubkey)
  | _ => none

/-- An answer to an open request comes from the relay it was addressed to and names that relay. -/
def SolicitedAnswer (reader : ServiceReader) (st : RelaySignaling) : RelayEvent → Prop
  | .serviceMessage event now => st.probing = none →
    ∀ envelope ∈ forwardEvent reader event, ∀ answer ∈ answerOf now envelope.payload,
      ∀ pending ∈ st.client.pendingRequests.lookup answer.1,
        envelope.senderPubkey = pending.relayPubkey ∧ answer.2 = pending.relayPubkey
  | .probeReply event datapathOk =>
    ∀ now waiting relay, st.probing = some ⟨now, waiting, some relay⟩ →
      ∀ envelope ∈ forwardEvent reader event,
        (probeOutcome (probeRequestId relay now) relay datapathOk envelope.payload).isSome →
        envelope.senderPubkey = relay
  | _ => True

/-! ## One message -/

theorem answerOf_cases {payload : ServicePayload} {now : Nat} {answer : String × String}
    (h : answerOf now payload = some answer) :
    (∃ granted, payload = .RelayAllocationGranted granted ∧ ¬granted.expiresAt ≤ now ∧
      answer = (granted.requestId, granted.relayPubkey)) ∨
    ∃ rejected, payload = .RelayAllocationRejected rejected ∧
      answer = (rejected.requestId, rejected.relayPubkey) := by
  cases payload with
  | RelayAllocationGranted granted =>
    simp only [answerOf] at h
    split_ifs at h with expired
    exact Or.inl ⟨granted, rfl, expired, (Option.some.inj h).symm⟩
  | RelayAllocationRejected rejected => exact Or.inr ⟨rejected, rfl, (Option.some.inj h).symm⟩
  | RelayAllocationRequest _ | RelayProbeRequest _ | RelayProbeGranted _ | RelayProbeRejected _ =>
    cases h

/-- A message that answers no open request leaves the client as it is. -/
theorem handleServicePayload_of_unknown {client : RelayClient} {payload : ServicePayload} {now : Nat}
    (h : ∀ answer ∈ answerOf now payload, client.pendingRequests.lookup answer.1 = none) :
    client.handleServicePayload payload now = client := by
  cases payload with
  | RelayAllocationGranted granted =>
    by_cases expired : granted.expiresAt ≤ now
    · simp [RelayClient.handleServicePayload, acceptRelayAllocationGrant, expired]
    · have unknown := h (granted.requestId, granted.relayPubkey) (by simp [answerOf, expired])
      simp [RelayClient.handleServicePayload, acceptRelayAllocationGrant, expired, unknown]
  | RelayAllocationRejected rejected =>
    have unknown := h (rejected.requestId, rejected.relayPubkey) rfl
    simp [RelayClient.handleServicePayload, acceptRelayAllocationRejection, unknown]
  | RelayAllocationRequest _ | RelayProbeRequest _ | RelayProbeGranted _ | RelayProbeRejected _ =>
    rfl

/-- Whatever an answer to an open request leads to, the request is taken out. -/
theorem pendingRequests_handleServicePayload {client : RelayClient} {payload : ServicePayload}
    {now : Nat} {answer : String × String} {pending : PendingRelayRequest}
    (answers : answerOf now payload = some answer)
    (h : client.pendingRequests.lookup answer.1 = some pending) :
    (client.handleServicePayload payload now).pendingRequests =
      client.pendingRequests.erase answer.1 := by
  obtain ⟨granted, rfl, live, rfl⟩ | ⟨rejected, rfl, rfl⟩ := answerOf_cases answers
  · simp only [RelayClient.handleServicePayload, acceptRelayAllocationGrant, if_neg live]
    rw [h]
    dsimp only
    split_ifs <;> rfl
  · simp only [RelayClient.handleServicePayload, acceptRelayAllocationRejection]
    rw [h]
    dsimp only
    split_ifs <;> rfl

theorem handleServicePayload_ne {client : RelayClient} {payload : ServicePayload} {now : Nat}
    {answer : String × String} {pending : PendingRelayRequest}
    (answers : answerOf now payload = some answer)
    (h : client.pendingRequests.lookup answer.1 = some pending) :
    client.handleServicePayload payload now ≠ client := by
  intro same
  have taken := pendingRequests_handleServicePayload answers h
  rw [same] at taken
  rw [taken, AList.lookup_erase] at h
  cases h

theorem addressee_of_answer {st : RelaySignaling} {payload : ServicePayload} {now : Nat}
    {answer : String × String} (answers : answerOf now payload = some answer) :
    st.addressee payload =
      (st.client.pendingRequests.lookup answer.1).map PendingRelayRequest.relayPubkey := by
  obtain ⟨granted, rfl, -, rfl⟩ | ⟨rejected, rfl, rfl⟩ := answerOf_cases answers <;> rfl

/-- An answer to an open request is discarded exactly when it names another relay. -/
theorem discarded_iff {client : RelayClient} {payload : ServicePayload} {now : Nat}
    {answer : String × String} {pending : PendingRelayRequest}
    (answers : answerOf now payload = some answer)
    (h : client.pendingRequests.lookup answer.1 = some pending) :
    discarded client now payload ↔ answer.2 ≠ pending.relayPubkey := by
  obtain ⟨granted, rfl, live, rfl⟩ | ⟨rejected, rfl, rfl⟩ := answerOf_cases answers
  · constructor
    · rintro ⟨-, other, known, mismatch⟩
      obtain rfl : pending = other := Option.some.inj (h.symm.trans known)
      exact Ne.symm mismatch
    · intro mismatch
      refine ⟨?_, pending, h, Ne.symm mismatch⟩
      unfold acceptRelayAllocationGrant
      rw [if_neg live, h]
      exact congrArg Prod.fst (if_pos (Ne.symm mismatch))
  · simp only [discarded, acceptRelayAllocationRejection]
    rw [h]
    by_cases same : pending.relayPubkey = rejected.relayPubkey
    · simp [same]
    · simp [same, Ne.symm same]

/-- Only an unexpired grant or a rejection for an open request is discarded with an effect. -/
theorem exists_answer_of_changed {client : RelayClient} {payload : ServicePayload} {now : Nat}
    (h : client.handleServicePayload payload now ≠ client) :
    ∃ answer pending, answerOf now payload = some answer ∧
      client.pendingRequests.lookup answer.1 = some pending := by
  by_contra none_open
  push Not at none_open
  refine h (handleServicePayload_of_unknown fun answer answers => ?_)
  cases found : client.pendingRequests.lookup answer.1 with
  | none => rfl
  | some pending => exact absurd found (none_open answer pending answers)

namespace RelaySignaling

variable {reader : ServiceReader} {st : RelaySignaling}

theorem step_serviceMessage {event : SignedEvent} {now : Nat} {envelope : ServiceEnvelope}
    (h : forwardEvent reader event = some envelope) :
    st.step reader (.serviceMessage event now) =
      st.whenIdle fun client => client.handleServicePayload envelope.payload now := by
  simp only [step, h]

theorem step_serviceMessage_ne {event : SignedEvent} {now : Nat} {envelope : ServiceEnvelope}
    (h : forwardEvent reader event = some envelope) :
    st.step reader (.serviceMessage event now) ≠ st ↔ st.probing = none ∧
      st.client.handleServicePayload envelope.payload now ≠ st.client := by
  rw [step_serviceMessage h, whenIdle]
  obtain ⟨client, probing⟩ := st
  cases probing <;> simp

theorem authenticStep_serviceMessage (event : SignedEvent) (now : Nat) :
    AuthenticStep reader st (.serviceMessage event now) ↔
      SolicitedAnswer reader st (.serviceMessage event now) := by
  constructor
  · intro ⟨only_addressee, discarded_unchanged⟩ idle envelope opened answer answers pending found
    have changed : st.step reader (.serviceMessage event now) ≠ st :=
      (step_serviceMessage_ne opened).mpr ⟨idle, handleServicePayload_ne answers found⟩
    obtain ⟨_, opened', sender⟩ := only_addressee event rfl changed
    obtain rfl : envelope = _ := Option.some.inj (opened.symm.trans opened')
    refine ⟨?_, ?_⟩
    · rw [addressee_of_answer answers, Option.mem_def.mp found] at sender
      exact (Option.some.inj sender).symm
    · by_contra mismatch
      exact changed (discarded_unchanged event now envelope rfl opened
        ((discarded_iff answers found).mpr mismatch))
  · intro solicited
    refine ⟨?_, ?_⟩
    · rintro _ ⟨rfl⟩ changed
      cases opened : forwardEvent reader event with
      | none => exact absurd (by simp only [step, opened]) changed
      | some envelope =>
        obtain ⟨idle, effect⟩ := (step_serviceMessage_ne opened).mp changed
        obtain ⟨answer, pending, answers, found⟩ := exists_answer_of_changed effect
        have sender := (solicited idle envelope opened answer answers pending found).1
        exact ⟨envelope, rfl, by simp [addressee_of_answer answers, found, sender]⟩
    · rintro _ _ envelope ⟨rfl, rfl⟩ opened dropped
      by_contra changed
      obtain ⟨idle, effect⟩ := (step_serviceMessage_ne opened).mp changed
      obtain ⟨answer, pending, answers, found⟩ := exists_answer_of_changed effect
      exact (discarded_iff answers found).mp dropped
        (solicited idle envelope opened answer answers pending found).2

theorem probeOutcome_addressee {now : Nat} {waiting : List String} {relay : String}
    {datapathOk : Bool} {payload : ServicePayload}
    (open_ : st.probing = some ⟨now, waiting, some relay⟩)
    (h : (probeOutcome (probeRequestId relay now) relay datapathOk payload).isSome) :
    st.addressee payload = some relay := by
  cases payload with
  | RelayProbeGranted granted =>
    by_cases same : granted.requestId = probeRequestId relay now
    · simp [addressee, addressee.openProbe, open_, same]
    · simp [probeOutcome, same] at h
  | RelayProbeRejected rejected =>
    by_cases same : rejected.requestId = probeRequestId relay now
    · simp [addressee, addressee.openProbe, open_, same]
    · simp [probeOutcome, same] at h
  | RelayAllocationRequest _ | RelayAllocationGranted _ | RelayAllocationRejected _
  | RelayProbeRequest _ => simp [probeOutcome] at h

/-- A probe reply changes the state exactly when it ends the open probe. -/
theorem onProbeReply_ne {envelope : ServiceEnvelope} {datapathOk : Bool} :
    st.onProbeReply envelope datapathOk ≠ st ↔
      ∃ now waiting relay, st.probing = some ⟨now, waiting, some relay⟩ ∧
        (probeOutcome (probeRequestId relay now) relay datapathOk envelope.payload).isSome := by
  obtain ⟨client, probing⟩ := st
  match probing with
  | none => simp [onProbeReply]
  | some ⟨_, _, none⟩ => simp [onProbeReply]
  | some ⟨now, waiting, some relay⟩ =>
    cases ends : probeOutcome (probeRequestId relay now) relay datapathOk envelope.payload with
    | none => simp [onProbeReply, ends]
    | some outcome => simp [onProbeReply, ends, finishProbe]

theorem authenticStep_probeReply (event : SignedEvent) (datapathOk : Bool) :
    AuthenticStep reader st (.probeReply event datapathOk) ↔
      SolicitedAnswer reader st (.probeReply event datapathOk) := by
  constructor
  · intro ⟨only_addressee, _⟩ now waiting relay open_ envelope opened ends
    have changed : st.step reader (.probeReply event datapathOk) ≠ st := by
      simp only [step, Option.mem_def.mp opened]
      exact onProbeReply_ne.mpr ⟨now, waiting, relay, open_, ends⟩
    obtain ⟨_, opened', sender⟩ := only_addressee event rfl changed
    obtain rfl : envelope = _ := Option.some.inj (opened.symm.trans opened')
    rw [probeOutcome_addressee open_ ends] at sender
    exact (Option.some.inj sender).symm
  · intro solicited
    refine ⟨?_, fun _ _ _ eq => by cases eq⟩
    rintro _ ⟨rfl⟩ changed
    cases opened : forwardEvent reader event with
    | none => exact absurd (by simp only [step, opened]) changed
    | some envelope =>
      simp only [step, opened] at changed
      obtain ⟨now, waiting, relay, open_, ends⟩ := onProbeReply_ne.mp changed
      have sender := solicited now waiting relay open_ envelope opened ends
      exact ⟨envelope, rfl, by rw [probeOutcome_addressee open_ ends, sender]⟩

theorem authenticStep_iff (e : RelayEvent) :
    AuthenticStep reader st e ↔ SolicitedAnswer reader st e := by
  cases e with
  | serviceMessage event now => exact authenticStep_serviceMessage event now
  | probeReply event datapathOk => exact authenticStep_probeReply event datapathOk
  | probeTimeout | startProbes | nextProbe | requestRelays | announceTick | prunePending | stateTick
  | pause =>
    -- Timers and the client's own requests are no messages.
    refine iff_of_true ⟨fun event eq => ?_, fun event now envelope eq => ?_⟩ trivial
    · cases eq
    · cases eq

end RelaySignaling

/-! ## Runs -/

/-- A run keeps relay grants authentic exactly when nobody but the relay that was asked answers an
open request, and no answer names another relay than the one that was asked. -/
theorem relayGrants_authentic_iff (reader : ServiceReader) (st : RelaySignaling)
    (es : List RelayEvent) :
    Along (RelaySignaling.step reader) (AuthenticStep reader) st es ↔
      Along (RelaySignaling.step reader) (SolicitedAnswer reader) st es :=
  ⟨Along.mono fun _ e => (RelaySignaling.authenticStep_iff e).mp,
    Along.mono fun _ e => (RelaySignaling.authenticStep_iff e).mpr⟩

/-- Three keys: this node, the relay it asks, and a participant that answers in the relay's place. -/
def sampleRelayReader : ServiceReader where
  ownPubkey := samplePubkeys[0]
  openContent author content :=
    if content = "rejected" then
      some ⟨author, .RelayAllocationRejected
        { requestId := RelayClient.relayRequestId "mesh" samplePubkeys[2] samplePubkeys[1] 100, networkId := "mesh"
          relayPubkey := samplePubkeys[1], reason := .OverCapacity, retryAfterSecs := some 900 }⟩
    else none

def sampleRelayRequest : RelayEvent :=
  .requestRelays "mesh" (some samplePubkeys[0]) [samplePubkeys[2]] [samplePubkeys[1]]
    (fun _ _ => true) 100

def sampleForgedRejection : SignedEvent :=
  ⟨NOSTR_KIND_NOSTR_VPN, samplePubkeys[2], [["p", samplePubkeys[0]]], "rejected"⟩

/-- A participant that knows the request id ends the request and puts the relay into cooldown. -/
theorem relayGrants_forged_rejection :
    ¬∀ (reader : ServiceReader) (es : List RelayEvent),
      Along (RelaySignaling.step reader) (AuthenticStep reader) .initial es := by
  intro authentic
  have rejected := (authentic sampleRelayReader
    [sampleRelayRequest, .serviceMessage sampleForgedRejection 101]).2.1
  have idle : (RelaySignaling.initial.step sampleRelayReader sampleRelayRequest).probing = none := by
    rfl
  have pending : (RelaySignaling.initial.step sampleRelayReader
      sampleRelayRequest).client.pendingRequests.lookup
        (RelayClient.relayRequestId "mesh" samplePubkeys[2] samplePubkeys[1] 100) =
      some ⟨samplePubkeys[2], samplePubkeys[1], 100⟩ := by decide +kernel
  have opened : forwardEvent sampleRelayReader sampleForgedRejection =
      sampleRelayReader.openContent samplePubkeys[2] "rejected" := by decide +kernel
  have sender := (RelaySignaling.authenticStep_iff _).mp rejected idle _ opened _ rfl _ pending
  exact absurd sender.1 (by decide +kernel)

end NostrVpn.Cli
