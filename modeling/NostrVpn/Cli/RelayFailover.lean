import NostrVpn.Cli.RelayGrants
import Mathlib.Data.Multiset.AddSub
import Mathlib.Data.Multiset.Bind

/-!
# Failover between relay sessions

When a session may become the active one of a participant, and where sessions come from: every
session of the client, active or waiting, is one accepted grant, and no grant is two sessions.
-/
namespace Rust

theorem eraseP_append_cons {α : Type} {p : α → Bool} {before after : List α} {a : α}
    (skipped : ∀ x ∈ before, !p x) (selected : p a) :
    (before ++ a :: after).eraseP p = before ++ after := by
  rw [List.eraseP_append_right _ fun x hx => by simpa using skipped x hx,
    List.eraseP_cons_of_pos selected]

end Rust

namespace NostrVpn.Cli

open Rust NostrVpn.Core Transition

/-! ## The sessions of a client as grants -/

/-- What a session keeps of the grant it was made from. -/
structure RelayAllocation where
  participant : String
  relayPubkey : String
  localIngressEndpoint : String
  advertisedIngressEndpoint : String
  expiresAt : Nat
  deriving DecidableEq, Repr

def ActiveRelaySession.allocation (session : ActiveRelaySession) (participant : String) :
    RelayAllocation where
  participant := participant
  relayPubkey := session.relayPubkey
  localIngressEndpoint := session.localIngressEndpoint
  advertisedIngressEndpoint := session.advertisedIngressEndpoint
  expiresAt := session.expiresAt

def activeAllocations (sessions : RelaySessions) : Multiset RelayAllocation :=
  sessions.toList.map fun e => e.2.allocation e.1

def standbyAllocations (standby : StandbyRelaySessions) : Multiset RelayAllocation :=
  (standby.toList.flatMap fun e => e.2.map fun session => session.allocation e.1 : List _)

def RelayClient.allocations (client : RelayClient) : Multiset RelayAllocation :=
  activeAllocations client.relaySessions + standbyAllocations client.standbyRelaySessions

/-- The allocation of a grant that is not ignored. -/
def grantedAllocation (client : RelayClient) (now : Nat) : ServicePayload → Option RelayAllocation
  | .RelayAllocationGranted granted =>
    match (acceptRelayAllocationGrant granted client now).1 with
    | .Activated participant | .QueuedStandby participant =>
      some ((ActiveRelaySession.ofGrant granted now).allocation participant)
    | .Ignored => none
  | _ => none

/-- The grant that a step accepts. -/
def RelaySignaling.accepts (reader : ServiceReader) (st : RelaySignaling) :
    RelayEvent → Option RelayAllocation
  | .serviceMessage event now =>
    if st.probing.isSome then none
    else (forwardEvent reader event).bind fun envelope =>
      grantedAllocation st.client now envelope.payload
  | _ => none

/-- The grants that a run accepts, one entry for each acceptance. -/
def acceptedGrants (reader : ServiceReader) : RelaySignaling → List RelayEvent →
    Multiset RelayAllocation
  | _, [] => 0
  | st, e :: es =>
    ↑(st.accepts reader e).toList + acceptedGrants reader (st.step reader e) es

/-- No standby list is empty, and none has two sessions that match. -/
def StandbyWellFormed (standby : StandbyRelaySessions) : Prop :=
  ∀ participant sessions, standby.lookup participant = some sessions →
    sessions ≠ [] ∧ sessions.Pairwise fun left right => ¬ left.sessionsMatch right

section Allocations
variable {sessions : RelaySessions} {standby : StandbyRelaySessions} {participant : String}

theorem activeAllocations_insert (session : ActiveRelaySession) :
    activeAllocations (sessions.insert participant session) =
      session.allocation participant ::ₘ activeAllocations (sessions.erase participant) := by
  simp [activeAllocations, HashMap.toList_insert]

theorem activeAllocations_erase_le :
    activeAllocations (sessions.erase participant) ≤ activeAllocations sessions :=
  Multiset.coe_le.mpr ((HashMap.toList_erase_sublist sessions participant).map _).subperm

theorem activeAllocations_of_lookup {session : ActiveRelaySession}
    (h : sessions.lookup participant = some session) :
    activeAllocations sessions =
      session.allocation participant ::ₘ activeAllocations (sessions.erase participant) :=
  Multiset.coe_eq_coe.mpr ((HashMap.toList_perm_of_lookup h).map _)

theorem activeAllocations_retain_le (p : String → ActiveRelaySession → Bool) :
    activeAllocations (sessions.retain p) ≤ activeAllocations sessions := by
  rw [activeAllocations, HashMap.toList_retain]
  exact Multiset.coe_le.mpr (List.filter_sublist.map _).subperm

theorem standbyAllocations_insert (waiting : List ActiveRelaySession) :
    standbyAllocations (standby.insert participant waiting) =
      ↑(waiting.map fun session => session.allocation participant) +
        standbyAllocations (standby.erase participant) := by
  simp [standbyAllocations, HashMap.toList_insert]

theorem standbyAllocations_erase_le :
    standbyAllocations (standby.erase participant) ≤ standbyAllocations standby :=
  Multiset.coe_le.mpr ((HashMap.toList_erase_sublist standby participant).flatMap _).subperm

theorem standbyAllocations_of_lookup {waiting : List ActiveRelaySession}
    (h : standby.lookup participant = some waiting) :
    standbyAllocations standby =
      ↑(waiting.map fun session => session.allocation participant) +
        standbyAllocations (standby.erase participant) := by
  have perm := (HashMap.toList_perm_of_lookup h).flatMap_right fun e =>
    e.2.map fun session => session.allocation e.1
  rw [standbyAllocations, Multiset.coe_eq_coe.mpr perm]
  simp [standbyAllocations]

theorem standbyAllocations_prune_le (now : Nat) :
    standbyAllocations (pruneStandbyRelaySessions standby now) ≤ standbyAllocations standby := by
  rw [standbyAllocations, pruneStandbyRelaySessions, HashMap.toList_retain, HashMap.toList_mapValues]
  refine Multiset.coe_le.mpr (List.Sublist.subperm ?_)
  refine (List.filter_sublist.flatMap _).trans ?_
  rw [List.flatMap_map]
  exact List.Sublist.flatMap_right _ fun e _ => List.filter_sublist.map _

end Allocations

/-! ## Standby lists -/

section Standby
variable {standby : StandbyRelaySessions} {participant : String}

theorem StandbyWellFormed.insert (wf : StandbyWellFormed standby) {waiting : List ActiveRelaySession}
    (nonempty : waiting ≠ [])
    (distinct : waiting.Pairwise fun left right => ¬ left.sessionsMatch right) :
    StandbyWellFormed (standby.insert participant waiting) := by
  intro p sessions found
  by_cases eq : p = participant
  · subst eq
    obtain rfl := Option.some.inj ((AList.lookup_insert _).symm.trans found)
    exact ⟨nonempty, distinct⟩
  · rw [AList.lookup_insert_ne eq] at found
    exact wf p sessions found

theorem StandbyWellFormed.erase (wf : StandbyWellFormed standby) :
    StandbyWellFormed (standby.erase participant) := by
  intro p sessions found
  by_cases eq : p = participant
  · subst eq
    rw [AList.lookup_erase] at found
    cases found
  · rw [AList.lookup_erase_ne eq] at found
    exact wf p sessions found

theorem StandbyWellFormed.prune (wf : StandbyWellFormed standby) (now : Nat) :
    StandbyWellFormed (pruneStandbyRelaySessions standby now) := by
  intro p sessions found
  rw [pruneStandbyRelaySessions, HashMap.lookup_retain, HashMap.lookup_mapValues,
    Option.filter_eq_some_iff, Option.map_eq_some_iff] at found
  obtain ⟨⟨old, present, rfl⟩, kept⟩ := found
  exact ⟨by simpa using kept, (wf p old present).2.sublist List.filter_sublist⟩

/-- A session that no waiting one matches keeps the list free of duplicates at its end. -/
theorem queueStandbyRelaySession_cases (session : ActiveRelaySession) :
    (queueStandbyRelaySession standby participant session = (false, standby)) ∨
      ((∀ existing ∈ (standby.lookup participant).getD [], ¬ existing.sessionsMatch session) ∧
        queueStandbyRelaySession standby participant session = (true,
          standby.insert participant ((standby.lookup participant).getD [] ++ [session]))) := by
  unfold queueStandbyRelaySession
  dsimp only
  split_ifs with matched
  · exact Or.inl rfl
  · exact Or.inr ⟨by simpa using matched, rfl⟩

theorem StandbyWellFormed.distinct (wf : StandbyWellFormed standby) (participant : String) :
    ((standby.lookup participant).getD []).Pairwise fun left right => ¬ left.sessionsMatch right := by
  cases found : standby.lookup participant with
  | none => exact .nil
  | some sessions => exact (wf participant sessions found).2

theorem StandbyWellFormed.queue (wf : StandbyWellFormed standby) (session : ActiveRelaySession) :
    StandbyWellFormed (queueStandbyRelaySession standby participant session).2 := by
  rcases queueStandbyRelaySession_cases session with same | ⟨fresh, queued⟩
  · rw [same]
    exact wf
  · rw [queued]
    refine wf.insert (by simp) (List.pairwise_append.mpr ⟨wf.distinct participant, by simp, ?_⟩)
    intro left hl right hr
    obtain rfl := List.mem_singleton.mp hr
    exact fresh left hl

theorem standbyAllocations_queue (session : ActiveRelaySession) :
    standbyAllocations (queueStandbyRelaySession standby participant session).2 ≤
      session.allocation participant ::ₘ standbyAllocations standby := by
  rcases queueStandbyRelaySession_cases session with same | ⟨-, queued⟩
  · rw [same]
    exact Multiset.le_cons_self ..
  · rw [queued, standbyAllocations_insert]
    cases found : standby.lookup participant with
    | none => simpa using standbyAllocations_erase_le
    | some waiting =>
      rw [standbyAllocations_of_lookup found, Option.getD_some, List.map_append, ← Multiset.coe_add,
        ← Multiset.singleton_add, List.map_singleton, Multiset.coe_singleton]
      exact le_of_eq (by ac_rfl)

/-- Nothing is promoted, or the first usable session leaves its list. -/
theorem popNextStandbyRelaySession_cases (failures : RelayFailureCooldowns) (now : Nat) :
    (popNextStandbyRelaySession standby failures participant now = (none, standby)) ∨
      ∃ before session after, standby.lookup participant = some (before ++ session :: after) ∧
        session.isActive now ∧
        relayIsInFailureCooldown failures participant session.relayPubkey now = false ∧
        popNextStandbyRelaySession standby failures participant now =
          (some { session with grantedAt := now, verifiedAt := none },
            if before ++ after = [] then standby.erase participant
            else standby.insert participant (before ++ after)) := by
  unfold popNextStandbyRelaySession
  cases found : standby.lookup participant with
  | none => exact Or.inl rfl
  | some sessions =>
    dsimp only
    cases first : sessions.find? fun session => session.isActive now &&
        !relayIsInFailureCooldown failures participant session.relayPubkey now with
    | none => exact Or.inl rfl
    | some session =>
      obtain ⟨usable, before, after, rfl, skipped⟩ := List.find?_eq_some_iff_append.mp first
      have rest := @eraseP_append_cons _ _ before after _ skipped usable
      obtain ⟨active, free⟩ := Bool.and_eq_true_iff.mp usable
      refine Or.inr ⟨before, session, after, rfl, active, by simpa using free, ?_⟩
      rw [rest]
      simp only [List.isEmpty_iff]

theorem StandbyWellFormed.pop (wf : StandbyWellFormed standby) (failures : RelayFailureCooldowns)
    (now : Nat) :
    StandbyWellFormed (popNextStandbyRelaySession standby failures participant now).2 := by
  rcases @popNextStandbyRelaySession_cases standby participant failures now with
    same | ⟨before, session, after, found, -, -, popped⟩
  · rw [same]
    exact wf
  · rw [popped]
    have distinct := (wf participant _ found).2.sublist
      ((List.Sublist.refl before).append (List.sublist_cons_self session after))
    split_ifs with last
    · exact wf.erase
    · exact wf.insert last distinct

/-- The promoted session leaves its list and no other does. -/
theorem standbyAllocations_pop {before after : List ActiveRelaySession} {session : ActiveRelaySession}
    (found : standby.lookup participant = some (before ++ session :: after)) :
    standbyAllocations standby = session.allocation participant ::ₘ
      standbyAllocations (if before ++ after = [] then standby.erase participant
        else standby.insert participant (before ++ after)) := by
  rw [standbyAllocations_of_lookup found]
  split_ifs with last
  · obtain ⟨rfl, rfl⟩ := List.append_eq_nil_iff.mp last
    simp
  · rw [standbyAllocations_insert, ← Multiset.cons_add, Multiset.cons_coe,
      Multiset.coe_eq_coe.mpr (List.perm_middle.map _), List.map_cons]

end Standby

/-! ## One round of the reconciliation -/

section Rounds
variable {client : RelayClient} {participant : String} {now : Nat}
  {verifies : String → ActiveRelaySession → Option Nat}

theorem failover_cases (client : RelayClient) (participant : String) (now : Nat) :
    client.failover participant now = (false, client) ∨
      ∃ session standby, client.failover participant now = (true, { client with
          relaySessions := client.relaySessions.insert participant session
          standbyRelaySessions := standby }) ∧
        session.isActive now ∧
        relayIsInFailureCooldown client.relayFailures participant session.relayPubkey now = false ∧
        standbyAllocations client.standbyRelaySessions =
          session.allocation participant ::ₘ standbyAllocations standby ∧
        (StandbyWellFormed client.standbyRelaySessions → StandbyWellFormed standby) := by
  have kept := @StandbyWellFormed.pop client.standbyRelaySessions participant
  rcases @popNextStandbyRelaySession_cases client.standbyRelaySessions participant
    client.relayFailures now with same | ⟨before, session, after, found, active, free, popped⟩
  · left
    rw [RelayClient.failover, same]
  · right
    have counted := standbyAllocations_pop found
    refine ⟨{ session with grantedAt := now, verifiedAt := none }, _, ?_, active, free, counted,
      fun wf => ?_⟩
    · rw [RelayClient.failover, popped]
    · have after := kept wf client.relayFailures now
      rwa [popped] at after

/-- What a round leaves of the sessions: the participant's own one is active, and a new one was
fetched from its standby list while its relay was usable. -/
structure RoundSpec (client after : RelayClient) (now : Nat) (participant : String) (moved : Bool) :
    Prop where
  others : ∀ p ≠ participant, after.relaySessions.lookup p = client.relaySessions.lookup p
  active : ∀ session, after.relaySessions.lookup participant = some session → session.isActive now
  kept : moved = false → ∀ session, after.relaySessions.lookup participant = some session →
    ∃ old, client.relaySessions.lookup participant = some old ∧
      session = { old with verifiedAt := session.verifiedAt }
  usable : moved = true → ∀ session, after.relaySessions.lookup participant = some session →
    relayIsInFailureCooldown after.relayFailures participant session.relayPubkey now = false
  allocations : after.allocations ≤ client.allocations
  standby : StandbyWellFormed client.standbyRelaySessions →
    StandbyWellFormed after.standbyRelaySessions

/-- A failover of a participant whose session was taken away. -/
theorem RoundSpec.of_failover (without : RelayClient)
    (erased : without.relaySessions = client.relaySessions.erase participant)
    (standby : without.standbyRelaySessions = client.standbyRelaySessions)
    {after : RelayClient} (sessions : after.relaySessions =
      (without.failover participant now).2.relaySessions)
    (queues : after.standbyRelaySessions =
      (without.failover participant now).2.standbyRelaySessions)
    (failures : after.relayFailures = without.relayFailures) :
    RoundSpec client after now participant true := by
  have shrinks := @activeAllocations_erase_le client.relaySessions participant
  rcases failover_cases without participant now with
    same | ⟨session, standby', moved, active, free, counted, wf⟩
  · rw [same] at sessions queues
    have gone : after.relaySessions.lookup participant = none := by
      rw [sessions, erased, AList.lookup_erase]
    refine ⟨fun p ne => ?_, ?_, fun eq => (by cases eq), ?_, ?_, fun old => ?_⟩
    · rw [sessions, erased, AList.lookup_erase_ne ne]
    · simp [gone]
    · simp [gone]
    · rw [RelayClient.allocations, sessions, queues, erased, standby]
      exact add_le_add_left shrinks _
    · rw [queues, standby]
      exact old
  · rw [moved] at sessions queues
    have now' : after.relaySessions.lookup participant = some session := by
      rw [sessions]
      exact AList.lookup_insert _
    refine ⟨fun p ne => ?_, ?_, fun eq => (by cases eq), ?_, ?_, fun old => ?_⟩
    · rw [sessions, AList.lookup_insert_ne ne, erased, AList.lookup_erase_ne ne]
    · rintro _ found
      obtain rfl := Option.some.inj (now'.symm.trans found)
      exact active
    · rintro - _ found
      obtain rfl := Option.some.inj (now'.symm.trans found)
      rw [failures]
      exact free
    · have rest : activeAllocations (without.relaySessions.erase participant) ≤
          activeAllocations client.relaySessions :=
        activeAllocations_erase_le.trans (erased ▸ shrinks)
      rw [RelayClient.allocations, RelayClient.allocations, sessions, queues, ← standby, counted,
        activeAllocations_insert, Multiset.cons_add, Multiset.add_cons]
      exact Multiset.cons_le_cons _ (add_le_add_left rest _)
    · rw [queues]
      exact wf (standby ▸ old)

@[simp] theorem relayFailures_failover (client : RelayClient) (participant : String) (now : Nat) :
    (client.failover participant now).2.relayFailures = client.relayFailures := by
  rcases failover_cases client participant now with same | ⟨_, _, moved, -⟩
  · rw [same]
  · rw [moved]

theorem reconcileParticipant_spec (verifies : String → ActiveRelaySession → Option Nat) (now : Nat)
    (client : RelayClient) (participant : String) :
    RoundSpec client (client.reconcileParticipant verifies now participant).2 now participant
      (client.reconcileParticipant verifies now participant).1 := by
  unfold RelayClient.reconcileParticipant
  cases found : client.relaySessions.lookup participant with
  | none => exact ⟨fun _ _ => rfl, by simp [found], by simp [found], by simp [found], le_rfl, id⟩
  | some session =>
    dsimp only
    by_cases active : session.isActive now
    · rw [if_neg (by simp [active])]
      cases verifies participant session with
      | some verifiedAt =>
        dsimp only
        refine ⟨fun p ne => AList.lookup_insert_ne ne, ?_, fun _ => ?_, fun eq => (by cases eq), ?_, id⟩
        · intro _ found'
          obtain rfl := Option.some.inj ((AList.lookup_insert _).symm.trans found')
          exact active
        · intro _ found'
          obtain rfl := Option.some.inj ((AList.lookup_insert _).symm.trans found')
          exact ⟨session, found, rfl⟩
        · rw [RelayClient.allocations, RelayClient.allocations, activeAllocations_insert,
            activeAllocations_of_lookup found]
          exact le_rfl
      | none =>
        dsimp only
        by_cases timedOut : session.verificationTimedOut now
        · -- a session that nobody verified is given up before the next one is fetched
          rw [if_neg (by simp [timedOut])]
          exact RoundSpec.of_failover (RelayClient.dropRequestsFor { client with
            relaySessions := client.relaySessions.erase participant
            relayFailures := noteFailedRelay client.relayFailures participant session.relayPubkey now
            relayProviderVerifications := noteFailedRelayProvider client.relayProviderVerifications
              session.relayPubkey now none } participant) rfl rfl rfl rfl (by simp)
        · rw [if_pos (by simp [timedOut])]
          refine ⟨fun _ _ => rfl, ?_, fun _ _ found' => ⟨_, found', rfl⟩, fun eq => (by cases eq),
            le_rfl, id⟩
          intro _ found'
          obtain rfl := Option.some.inj (found.symm.trans found')
          exact active
    · -- an expired session makes room for the next one
      rw [if_pos (by simp [active])]
      refine RoundSpec.of_failover { client with
        relaySessions := client.relaySessions.erase participant } rfl rfl ?_ ?_ ?_
      all_goals dsimp only
      all_goals split_ifs
      all_goals first | rfl | simp [RelayClient.dropRequestsFor]

/-- The rounds for these participants, one after the other. -/
def reconcileRounds (verifies : String → ActiveRelaySession → Option Nat) (now : Nat)
    (client : RelayClient) (participants : List String) : RelayClient :=
  participants.foldl (fun client participant =>
    (client.reconcileParticipant verifies now participant).2) client

theorem reconcileActiveRelaySessions_snd (client : RelayClient) :
    (client.reconcileActiveRelaySessions verifies now).2 =
      reconcileRounds verifies now client client.relaySessions.keys := by
  have loop (participants changed : List String) (client : RelayClient) :
      (participants.foldl (fun state participant =>
        let round := state.2.reconcileParticipant verifies now participant
        (if round.1 then state.1 ++ [participant] else state.1, round.2)) (changed, client)).2 =
      reconcileRounds verifies now client participants := by
    induction participants generalizing changed client with
    | nil => rfl
    | cons participant rest ih => exact ih _ _
  exact loop client.relaySessions.keys [] client

theorem lookup_reconcileRounds_of_notMem {participants : List String} (client : RelayClient)
    (h : participant ∉ participants) :
    (reconcileRounds verifies now client participants).relaySessions.lookup participant =
      client.relaySessions.lookup participant := by
  induction participants generalizing client with
  | nil => rfl
  | cons q rest ih =>
    obtain ⟨ne, fresh⟩ := not_or.mp (List.mem_cons.not.mp h)
    exact (ih _ fresh).trans ((reconcileParticipant_spec verifies now client q).others participant ne)

/-- A participant's session after all rounds is the one after its own round, which found the session
that was there before. -/
theorem lookup_reconcileRounds {done rest : List String} (client : RelayClient)
    (distinct : (done ++ participant :: rest).Nodup) :
    (reconcileRounds verifies now client done).relaySessions.lookup participant =
        client.relaySessions.lookup participant ∧
      (reconcileRounds verifies now client (done ++ participant :: rest)).relaySessions.lookup
          participant =
        ((reconcileRounds verifies now client done).reconcileParticipant verifies now
          participant).2.relaySessions.lookup participant := by
  obtain ⟨-, tail, apart⟩ := List.nodup_append.mp distinct
  have before : participant ∉ done := fun mem => apart participant mem participant (by simp) rfl
  have after := (List.nodup_cons.mp tail).1
  refine ⟨lookup_reconcileRounds_of_notMem client before, ?_⟩
  rw [reconcileRounds, List.foldl_append, List.foldl_cons]
  exact lookup_reconcileRounds_of_notMem _ after

theorem reconcileRounds_le (participants : List String) (client : RelayClient) :
    (reconcileRounds verifies now client participants).allocations ≤ client.allocations ∧
      (StandbyWellFormed client.standbyRelaySessions →
        StandbyWellFormed (reconcileRounds verifies now client participants).standbyRelaySessions) := by
  induction participants generalizing client with
  | nil => exact ⟨le_rfl, id⟩
  | cons participant rest ih =>
    have round := reconcileParticipant_spec verifies now client participant
    have later := ih (client.reconcileParticipant verifies now participant).2
    exact ⟨later.1.trans round.allocations, later.2 ∘ round.standby⟩

end Rounds

/-! ## One step of the daemon -/

/-- A step puts this session in place as the active one of the participant: a grant for a
participant without an active session, or a promotion in its round of the reconciliation. `failures`
are the cooldowns at that moment. -/
inductive Installs (reader : ServiceReader) (st : RelaySignaling) :
    RelayEvent → Nat → RelayFailureCooldowns → String → ActiveRelaySession → Prop
  | grant {event : SignedEvent} {now : Nat} {envelope : ServiceEnvelope}
      {granted : RelayAllocationGranted} {participant : String} {session : ActiveRelaySession}
      (idle : st.probing = none) (opened : forwardEvent reader event = some envelope)
      (payload : envelope.payload = .RelayAllocationGranted granted)
      (activated : (acceptRelayAllocationGrant granted st.client now).1 = .Activated participant)
      (placed : (acceptRelayAllocationGrant granted st.client now).2.relaySessions.lookup
        participant = some session) :
      Installs reader st (.serviceMessage event now) now st.client.relayFailures participant session
  | promotion {verifies : String → ActiveRelaySession → Option Nat} {now : Nat}
      {done rest : List String} {participant : String} {session : ActiveRelaySession}
      (idle : st.probing = none)
      (turn : st.client.relaySessions.keys = done ++ participant :: rest)
      (moved : ((reconcileRounds verifies now st.client done).reconcileParticipant verifies now
        participant).1 = true)
      (placed : ((reconcileRounds verifies now st.client done).reconcileParticipant verifies now
        participant).2.relaySessions.lookup participant = some session) :
      Installs reader st (.stateTick verifies now) now
        ((reconcileRounds verifies now st.client done).reconcileParticipant verifies now
          participant).2.relayFailures participant session

/-- The time of a step that sweeps all active sessions. -/
def RelayEvent.sweep : RelayEvent → Option Nat
  | .announceTick now | .stateTick _ now => some now
  | _ => none

/-- A step installs only unexpired sessions of relays that are not cooling down, every other session
after it was there before, and a sweep leaves no expired session. -/
structure FailoverSafe (reader : ServiceReader) (st : RelaySignaling) (e : RelayEvent) : Prop where
  installed : ∀ now failures participant session,
    Installs reader st e now failures participant session →
      now < session.expiresAt ∧
        relayIsInFailureCooldown failures participant session.relayPubkey now = false
  traced : ∀ participant session,
    (st.step reader e).client.relaySessions.lookup participant = some session →
      (∃ now failures, Installs reader st e now failures participant session) ∨
        ∃ old, st.client.relaySessions.lookup participant = some old ∧
          session = { old with verifiedAt := session.verifiedAt }
  swept : st.probing = none → ∀ now, e.sweep = some now → ∀ participant session,
    (st.step reader e).client.relaySessions.lookup participant = some session →
      session.isActive now ∧ now < session.expiresAt

theorem expiresAt_of_isActive {session : ActiveRelaySession} {now : Nat}
    (h : session.isActive now) : now < session.expiresAt := by
  simp only [ActiveRelaySession.isActive, Bool.and_eq_true, decide_eq_true_eq] at h
  exact h.1.1

/-- What a grant does to the sessions. -/
theorem acceptRelayAllocationGrant_cases (granted : RelayAllocationGranted) (client : RelayClient)
    (now : Nat) :
    ((acceptRelayAllocationGrant granted client now).1 = .Ignored ∧
      (acceptRelayAllocationGrant granted client now).2.relaySessions = client.relaySessions ∧
      (acceptRelayAllocationGrant granted client now).2.standbyRelaySessions =
        client.standbyRelaySessions) ∨
    (∃ participant, (acceptRelayAllocationGrant granted client now).1 = .Activated participant ∧
      (acceptRelayAllocationGrant granted client now).2.relaySessions =
        client.relaySessions.insert participant (.ofGrant granted now) ∧
      (acceptRelayAllocationGrant granted client now).2.standbyRelaySessions =
        client.standbyRelaySessions ∧ now < granted.expiresAt ∧
      relayIsInFailureCooldown client.relayFailures participant granted.relayPubkey now = false) ∨
    ∃ participant, (acceptRelayAllocationGrant granted client now).1 = .QueuedStandby participant ∧
      (acceptRelayAllocationGrant granted client now).2.relaySessions = client.relaySessions ∧
      (acceptRelayAllocationGrant granted client now).2.standbyRelaySessions =
        (queueStandbyRelaySession client.standbyRelaySessions participant
          (.ofGrant granted now)).2 := by
  unfold acceptRelayAllocationGrant
  by_cases expired : granted.expiresAt ≤ now
  · exact Or.inl (by simp [expired])
  rw [if_neg expired]
  cases open_ : client.pendingRequests.lookup granted.requestId with
  | none => exact Or.inl ⟨rfl, rfl, rfl⟩
  | some pending =>
    dsimp only
    by_cases other : pending.relayPubkey ≠ granted.relayPubkey
    · exact Or.inl (by simp [other])
    rw [if_neg other]
    obtain same := not_not.mp other
    cases cooling : relayIsInFailureCooldown client.relayFailures pending.participant
        pending.relayPubkey now with
    | true => exact Or.inl ⟨rfl, rfl, rfl⟩
    | false =>
      rw [if_neg (by simp)]
      by_cases busy : (client.relaySessions.lookup pending.participant).any fun existing =>
          existing.isActive now
      · rw [if_pos busy]
        rcases @queueStandbyRelaySession_cases client.standbyRelaySessions pending.participant
          (.ofGrant granted now) with full | ⟨-, queued⟩
        · exact Or.inl (by simp [full])
        · exact Or.inr (Or.inr ⟨pending.participant, by simp [queued], rfl, rfl⟩)
      · rw [if_neg busy]
        exact Or.inr (Or.inl ⟨pending.participant, rfl, rfl, rfl, Nat.not_le.mp expired,
          same ▸ cooling⟩)

section Steps
variable {reader : ServiceReader} {st : RelaySignaling} {e : RelayEvent}

theorem installed_safe {now : Nat} {failures : RelayFailureCooldowns} {participant : String}
    {session : ActiveRelaySession} (h : Installs reader st e now failures participant session) :
    now < session.expiresAt ∧
      relayIsInFailureCooldown failures participant session.relayPubkey now = false := by
  cases h with
  | @grant event now envelope granted participant session idle opened payload activated placed =>
    rcases acceptRelayAllocationGrant_cases granted st.client now with
      ⟨ignored, -⟩ | ⟨p, active, sessions, -, live, free⟩ | ⟨p, queued, -⟩
    · rw [ignored] at activated
      cases activated
    · obtain rfl := RelayGrantAction.Activated.inj (active.symm.trans activated)
      rw [sessions, AList.lookup_insert] at placed
      obtain rfl := Option.some.inj placed
      exact ⟨live, free⟩
    · rw [queued] at activated
      cases activated
  | @promotion verifies now done rest participant session idle turn moved placed =>
    have round := reconcileParticipant_spec verifies now (reconcileRounds verifies now st.client done)
      participant
    exact ⟨expiresAt_of_isActive (round.active session placed), round.usable moved session placed⟩

theorem step_of_idle (idle : st.probing = none) :
    (∀ now, (st.step reader (.announceTick now)).client = st.client.prune now) ∧
      (∀ verifies now, (st.step reader (.stateTick verifies now)).client =
        reconcileRounds verifies now st.client st.client.relaySessions.keys) ∧
      (st.step reader .pause).client = .empty := by
  simp [RelaySignaling.step, RelaySignaling.whenIdle, idle, reconcileActiveRelaySessions_snd]

/-- The sessions and the standby lists are those of the state before. -/
def SameSessions (st st' : RelaySignaling) : Prop :=
  st'.client.relaySessions = st.client.relaySessions ∧
    st'.client.standbyRelaySessions = st.client.standbyRelaySessions

theorem handleServicePayload_same {client : RelayClient} {payload : ServicePayload} {now : Nat}
    (h : ∀ granted, payload ≠ .RelayAllocationGranted granted) :
    (client.handleServicePayload payload now).relaySessions = client.relaySessions ∧
      (client.handleServicePayload payload now).standbyRelaySessions =
        client.standbyRelaySessions := by
  cases payload with
  | RelayAllocationGranted granted => exact absurd rfl (h granted)
  | RelayAllocationRejected rejected =>
    simp only [RelayClient.handleServicePayload, acceptRelayAllocationRejection]
    cases client.pendingRequests.lookup rejected.requestId with
    | none => exact ⟨rfl, rfl⟩
    | some pending => dsimp only; split_ifs <;> exact ⟨rfl, rfl⟩
  | RelayAllocationRequest _ | RelayProbeRequest _ | RelayProbeGranted _ | RelayProbeRejected _ =>
    exact ⟨rfl, rfl⟩

/-- The steps that move sessions are grants, sweeps and a pause, all of them outside the probe
loop. -/
theorem step_sessions_cases (reader : ServiceReader) (st : RelaySignaling) (e : RelayEvent) :
    SameSessions st (st.step reader e) ∨ st.probing = none ∧
      ((∃ event now envelope granted, e = .serviceMessage event now ∧
          forwardEvent reader event = some envelope ∧
          envelope.payload = .RelayAllocationGranted granted ∧
          (st.step reader e).client = (acceptRelayAllocationGrant granted st.client now).2) ∨
        (∃ now, e = .announceTick now) ∨ (∃ verifies now, e = .stateTick verifies now) ∨
        e = .pause) := by
  have busy (f : RelayClient → RelayClient) (h : st.probing ≠ none) : st.whenIdle f = st :=
    if_pos (Option.isSome_iff_ne_none.mpr h)
  by_cases idle : st.probing = none
  · have whenIdle (f : RelayClient → RelayClient) : (st.whenIdle f).client = f st.client := by
      simp [RelaySignaling.whenIdle, idle]
    cases e with
    | serviceMessage event now =>
      cases opened : forwardEvent reader event with
      | none => exact Or.inl (by simp [RelaySignaling.step, opened, SameSessions])
      | some envelope =>
        have after : (st.step reader (.serviceMessage event now)).client =
            st.client.handleServicePayload envelope.payload now := by
          rw [RelaySignaling.step_serviceMessage opened, whenIdle]
        by_cases grant : ∃ granted, envelope.payload = .RelayAllocationGranted granted
        · obtain ⟨granted, payload⟩ := grant
          refine Or.inr ⟨idle, Or.inl ⟨event, now, envelope, granted, rfl, opened, payload, ?_⟩⟩
          rw [after, payload, RelayClient.handleServicePayload]
        · left
          rw [SameSessions, after]
          exact handleServicePayload_same (not_exists.mp grant)
    | announceTick now => exact Or.inr ⟨idle, Or.inr (Or.inl ⟨now, rfl⟩)⟩
    | stateTick verifies now => exact Or.inr ⟨idle, Or.inr (Or.inr (Or.inl ⟨verifies, now, rfl⟩))⟩
    | pause => exact Or.inr ⟨idle, Or.inr (Or.inr (Or.inr rfl))⟩
    | probeReply event datapathOk =>
      left
      cases opened : forwardEvent reader event <;>
        simp [RelaySignaling.step, RelaySignaling.onProbeReply, opened, idle, SameSessions]
    | probeTimeout | startProbes | nextProbe =>
      exact Or.inl (by simp [RelaySignaling.step, RelaySignaling.onNextProbe, idle, SameSessions])
    | requestRelays | prunePending =>
      exact Or.inl (by simp [RelaySignaling.step, whenIdle, RelayClient.requestRelays, SameSessions])
  · left
    cases e with
    | serviceMessage event now =>
      cases opened : forwardEvent reader event <;>
        simp [RelaySignaling.step, opened, busy _ idle, SameSessions]
    | probeReply event datapathOk =>
      cases opened : forwardEvent reader event with
      | none => simp [RelaySignaling.step, opened, SameSessions]
      | some envelope =>
        simp only [RelaySignaling.step, opened, RelaySignaling.onProbeReply]
        split
        · split <;> exact ⟨rfl, rfl⟩
        · exact ⟨rfl, rfl⟩
    | probeTimeout =>
      simp only [RelaySignaling.step]
      split <;> exact ⟨rfl, rfl⟩
    | nextProbe published =>
      simp only [RelaySignaling.step, RelaySignaling.onNextProbe]
      split
      · exact ⟨rfl, rfl⟩
      · split_ifs <;> exact ⟨rfl, rfl⟩
      · exact ⟨rfl, rfl⟩
    | startProbes =>
      simp only [RelaySignaling.step]
      split_ifs <;> exact ⟨rfl, rfl⟩
    | requestRelays | announceTick | prunePending | stateTick | pause =>
      simp [RelaySignaling.step, busy _ idle, SameSessions]

theorem lookup_prune {sessions : RelaySessions} {now : Nat} {participant : String}
    {session : ActiveRelaySession}
    (h : (pruneActiveRelaySessions sessions now).lookup participant = some session) :
    sessions.lookup participant = some session ∧ session.isActive now := by
  rwa [pruneActiveRelaySessions, HashMap.lookup_retain, Option.filter_eq_some_iff] at h

/-- The session after a reconciliation is the one that the participant's own round left. -/
theorem exists_round {client : RelayClient} {verifies : String → ActiveRelaySession → Option Nat}
    {now : Nat} {participant : String} {session : ActiveRelaySession}
    (h : (reconcileRounds verifies now client client.relaySessions.keys).relaySessions.lookup
      participant = some session) :
    ∃ done rest, client.relaySessions.keys = done ++ participant :: rest ∧
      (reconcileRounds verifies now client done).relaySessions.lookup participant =
        client.relaySessions.lookup participant ∧
      ((reconcileRounds verifies now client done).reconcileParticipant verifies now
        participant).2.relaySessions.lookup participant = some session := by
  by_cases mem : participant ∈ client.relaySessions.keys
  · obtain ⟨done, rest, turn⟩ := List.append_of_mem mem
    have distinct : (done ++ participant :: rest).Nodup := turn ▸ client.relaySessions.keys_nodup
    obtain ⟨before, after⟩ := @lookup_reconcileRounds participant now verifies done rest client distinct
    rw [turn, after] at h
    exact ⟨done, rest, turn, before, h⟩
  · rw [lookup_reconcileRounds_of_notMem client mem, AList.lookup_eq_none.mpr mem] at h
    cases h

theorem failoverSafe (reader : ServiceReader) (st : RelaySignaling) (e : RelayEvent) :
    FailoverSafe reader st e := by
  refine ⟨fun _ _ _ _ => installed_safe, fun participant session found => ?_, ?_⟩
  · have stays (old : st.client.relaySessions.lookup participant = some session) :
        ∃ old, st.client.relaySessions.lookup participant = some old ∧
          session = { old with verifiedAt := session.verifiedAt } := ⟨session, old, rfl⟩
    obtain ⟨same, -⟩ | ⟨idle, ⟨event, now, envelope, granted, rfl, opened, payload, after⟩ |
      ⟨now, rfl⟩ | ⟨verifies, now, rfl⟩ | rfl⟩ := step_sessions_cases reader st e
    · exact Or.inr (stays (same ▸ found))
    · rw [after] at found
      rcases acceptRelayAllocationGrant_cases granted st.client now with
        ⟨-, sessions, -⟩ | ⟨p, active, sessions, -⟩ | ⟨p, -, sessions, -⟩
      · exact Or.inr (stays (sessions ▸ found))
      · by_cases eq : participant = p
        · subst eq
          exact Or.inl ⟨now, _, .grant idle opened payload active found⟩
        · rw [sessions, AList.lookup_insert_ne eq] at found
          exact Or.inr (stays found)
      · exact Or.inr (stays (sessions ▸ found))
    · rw [(step_of_idle idle).1] at found
      exact Or.inr (stays (lookup_prune found).1)
    · rw [(step_of_idle idle).2.1] at found
      obtain ⟨done, rest, turn, before, placed⟩ := exists_round found
      have round := reconcileParticipant_spec verifies now
        (reconcileRounds verifies now st.client done) participant
      cases moved : ((reconcileRounds verifies now st.client done).reconcileParticipant verifies now
          participant).1 with
      | true => exact Or.inl ⟨now, _, .promotion idle turn moved placed⟩
      | false => exact Or.inr (before ▸ round.kept moved session placed)
    · rw [(step_of_idle idle).2.2] at found
      cases found
  · intro idle now sweep participant session found
    suffices active : session.isActive now from ⟨active, expiresAt_of_isActive active⟩
    cases e with
    | announceTick =>
      obtain rfl := Option.some.inj sweep
      rw [(step_of_idle idle).1] at found
      exact (lookup_prune found).2
    | stateTick verifies =>
      obtain rfl := Option.some.inj sweep
      rw [(step_of_idle idle).2.1] at found
      obtain ⟨done, rest, -, -, placed⟩ := exists_round found
      exact (reconcileParticipant_spec verifies _ (reconcileRounds verifies _ st.client done)
        participant).active session placed
    | serviceMessage | probeReply | probeTimeout | startProbes | nextProbe | requestRelays
    | prunePending | pause => cases sweep

/-! ## Whole runs -/

/-- A step adds the grant that it accepts to the sessions, at most. -/
theorem allocations_step_le (reader : ServiceReader) (st : RelaySignaling) (e : RelayEvent) :
    (st.step reader e).client.allocations ≤
      ↑(st.accepts reader e).toList + st.client.allocations := by
  have fewer {m : Multiset RelayAllocation} (h : m ≤ st.client.allocations) :
      m ≤ ↑(st.accepts reader e).toList + st.client.allocations :=
    h.trans (Multiset.le_add_left ..)
  obtain ⟨sessions, standby⟩ | ⟨idle, ⟨event, now, envelope, granted, rfl, opened, payload, after⟩ |
    ⟨now, rfl⟩ | ⟨verifies, now, rfl⟩ | rfl⟩ := step_sessions_cases reader st e
  · exact fewer (by rw [RelayClient.allocations, sessions, standby]; exact le_rfl)
  · have accepts : st.accepts reader (.serviceMessage event now) =
        grantedAllocation st.client now (.RelayAllocationGranted granted) := by
      simp [RelaySignaling.accepts, idle, opened, payload]
    rw [after]
    rcases acceptRelayAllocationGrant_cases granted st.client now with
      ⟨-, sessions, standby⟩ | ⟨p, active, sessions, standby, -⟩ | ⟨p, queued, sessions, standby⟩
    · exact fewer (by rw [RelayClient.allocations, sessions, standby]; exact le_rfl)
    · have accepted : st.accepts reader (.serviceMessage event now) =
          some ((ActiveRelaySession.ofGrant granted now).allocation p) := by
        rw [accepts, grantedAllocation, active]
      rw [accepted, RelayClient.allocations, sessions, standby, activeAllocations_insert,
        Option.toList_some, Multiset.coe_singleton, Multiset.singleton_add, Multiset.cons_add]
      exact Multiset.cons_le_cons _ (add_le_add_left activeAllocations_erase_le _)
    · have accepted : st.accepts reader (.serviceMessage event now) =
          some ((ActiveRelaySession.ofGrant granted now).allocation p) := by
        rw [accepts, grantedAllocation, queued]
      rw [accepted, RelayClient.allocations, sessions, standby, Option.toList_some,
        Multiset.coe_singleton, Multiset.singleton_add, RelayClient.allocations, ← Multiset.add_cons]
      exact add_le_add_right (standbyAllocations_queue _) _
  · refine fewer ?_
    rw [(step_of_idle idle).1]
    exact add_le_add (activeAllocations_retain_le fun _ session => session.isActive now)
      (standbyAllocations_prune_le now)
  · exact fewer (by rw [(step_of_idle idle).2.1]; exact (reconcileRounds_le _ st.client).1)
  · exact fewer (by rw [(step_of_idle idle).2.2]; exact Multiset.zero_le _)

theorem standbyWellFormed_step (wf : StandbyWellFormed st.client.standbyRelaySessions) :
    StandbyWellFormed (st.step reader e).client.standbyRelaySessions := by
  obtain ⟨-, standby⟩ | ⟨idle, ⟨event, now, envelope, granted, rfl, -, -, after⟩ | ⟨now, rfl⟩ |
    ⟨verifies, now, rfl⟩ | rfl⟩ := step_sessions_cases reader st e
  · exact standby ▸ wf
  · rw [after]
    rcases acceptRelayAllocationGrant_cases granted st.client now with
      ⟨-, -, standby⟩ | ⟨p, -, -, standby, -⟩ | ⟨p, -, -, standby⟩
    · exact standby ▸ wf
    · exact standby ▸ wf
    · exact standby ▸ wf.queue _
  · rw [(step_of_idle idle).1]
    exact wf.prune now
  · rw [(step_of_idle idle).2.1]
    exact (reconcileRounds_le _ st.client).2 wf
  · rw [(step_of_idle idle).2.2]
    intro participant sessions found
    cases found

theorem allocations_run_le (reader : ServiceReader) (st : RelaySignaling) (es : List RelayEvent) :
    (run (RelaySignaling.step reader) st es).client.allocations ≤
      acceptedGrants reader st es + st.client.allocations := by
  induction es generalizing st with
  | nil => simp [acceptedGrants]
  | cons e es ih =>
    have first := allocations_step_le reader st e
    rw [run_cons, acceptedGrants, add_right_comm]
    refine (ih (st.step reader e)).trans ?_
    rw [add_comm (acceptedGrants _ _ _)]
    exact add_le_add_left first _

end Steps

/-- Along every run of the relay client: sessions are installed unexpired and with a usable relay,
standby lists are neither empty nor do they repeat a session, and the sessions at the end are
accepted grants, each at most once. -/
theorem relay_failover_safe (reader : ServiceReader) (es : List RelayEvent) :
    Along (RelaySignaling.step reader) (FailoverSafe reader) .initial es ∧
      StandbyWellFormed
        (run (RelaySignaling.step reader) .initial es).client.standbyRelaySessions ∧
      (run (RelaySignaling.step reader) .initial es).client.allocations ≤
        acceptedGrants reader .initial es ∧
      ∀ participant session now,
        (run (RelaySignaling.step reader) .initial es).client.relaySessions.lookup participant =
          some session → session.isActive now → now < session.expiresAt := by
  refine ⟨.of_forall fun e _ st => failoverSafe reader st e, ?_, ?_,
    fun _ _ _ _ => expiresAt_of_isActive⟩
  · refine run_invariant (fun (st : RelaySignaling) e (wf : StandbyWellFormed
      st.client.standbyRelaySessions) => @standbyWellFormed_step reader st e wf) ?_ es
    intro participant sessions found
    cases found
  · have bound := allocations_run_le reader .initial es
    rwa [show RelaySignaling.initial.client.allocations = 0 from rfl, add_zero] at bound

end NostrVpn.Cli
