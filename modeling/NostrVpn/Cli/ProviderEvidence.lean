import NostrVpn.Cli.RelayFailover

/-!
# The evidence behind a provider's cooldown

What verifies a relay provider is a handshake, with the time of the handshake; what fails it is a probe, a
rejection or a session that no handshake verified in time. Verifications and failures of one provider meet
in one record. A failure should keep the provider in cooldown until its deadline, and keep it from ranking
as verified, until there is evidence that is newer than the failure.
-/
namespace NostrVpn.Cli

open Rust Transition

/-- A call of `note_verified_relay_provider` or of `note_failed_relay_provider`. -/
inductive ProviderNote where
  | verified (relayPubkey : String) (verifiedAt : Nat)
  | failed (relayPubkey : String) (now : Nat) (retryAfterSecs : Option Nat)
  deriving DecidableEq

def ProviderNote.apply (book : RelayProviderVerificationBook) :
    ProviderNote → RelayProviderVerificationBook
  | .verified relayPubkey verifiedAt => noteVerifiedRelayProvider book relayPubkey verifiedAt
  | .failed relayPubkey now retryAfterSecs => noteFailedRelayProvider book relayPubkey now retryAfterSecs

/-! ## The notes of a reconciliation -/

namespace RelayClient

variable (verifies : String → ActiveRelaySession → Option Nat) (now : Nat)

/-- What a participant's session says of its provider. -/
def participantNote (client : RelayClient) (participant : String) : Option ProviderNote :=
  match client.relaySessions.lookup participant with
  | none => none
  | some session =>
    if !session.isActive now then none
    else match verifies participant session with
      | some verifiedAt => some (.verified session.relayPubkey verifiedAt)
      | none =>
        if session.verificationTimedOut now then some (.failed session.relayPubkey now none) else none

def reconcileNotes (client : RelayClient) : List String → List ProviderNote
  | [] => []
  | participant :: rest =>
    (client.participantNote verifies now participant).toList ++
      reconcileNotes (client.reconcileParticipant verifies now participant).2 rest

theorem book_failover (client : RelayClient) (participant : String) :
    (client.failover participant now).2.relayProviderVerifications =
      client.relayProviderVerifications := by
  rcases failover_cases client participant now with same | ⟨_, _, moved, -⟩
  · rw [same]
  · rw [moved]

theorem book_reconcileParticipant (client : RelayClient) (participant : String) :
    (client.reconcileParticipant verifies now participant).2.relayProviderVerifications =
      (client.participantNote verifies now participant).toList.foldl ProviderNote.apply
        client.relayProviderVerifications := by
  unfold reconcileParticipant participantNote
  cases client.relaySessions.lookup participant with
  | none => rfl
  | some session =>
    cases active : session.isActive now with
    | false =>
      have moved := book_failover now
        { client with relaySessions := client.relaySessions.erase participant } participant
      simp only [active, Bool.not_false, if_true, Option.toList_none, List.foldl_nil]
      split_ifs
      · exact moved
      · exact moved
    | true =>
      cases verified : verifies participant session with
      | some verifiedAt => simp [active, verified, ProviderNote.apply]
      | none =>
        cases timedOut : session.verificationTimedOut now with
        | false => simp [active, verified, timedOut]
        | true =>
          simp only [active, verified, timedOut, Bool.not_true, Bool.false_eq_true, if_false, if_true,
            book_failover]
          rfl

/-- A reconciliation changes the book by its notes, in the order of the participants. -/
theorem book_reconcileActiveRelaySessions (client : RelayClient) :
    (client.reconcileActiveRelaySessions verifies now).2.relayProviderVerifications =
      (client.reconcileNotes verifies now client.relaySessions.keys).foldl ProviderNote.apply
        client.relayProviderVerifications := by
  rw [reconcileActiveRelaySessions_snd]
  generalize client.relaySessions.keys = participants
  induction participants generalizing client with
  | nil => rfl
  | cons participant rest ih =>
    simp only [reconcileNotes, List.foldl_append, ← book_reconcileParticipant]
    exact ih _

end RelayClient

/-! ## Runs -/

/-- What a run does to the book. A reconciliation brings the sessions it finds. -/
inductive ProviderOp where
  | note (said : ProviderNote)
  | prune (now : Nat)
  | reconcile (client : RelayClient) (verifies : String → ActiveRelaySession → Option Nat) (now : Nat)

def ProviderOp.apply (book : RelayProviderVerificationBook) : ProviderOp → RelayProviderVerificationBook
  | .note said => said.apply book
  | .prune now => pruneRelayProviderVerifications book now
  | .reconcile client verifies now =>
    (({ client with relayProviderVerifications := book } : RelayClient).reconcileActiveRelaySessions
      verifies now).2.relayProviderVerifications

/-- One change of the book. -/
inductive BookStep where
  | note (said : ProviderNote)
  | prune (now : Nat)
  deriving DecidableEq

def ProviderOp.bookSteps (book : RelayProviderVerificationBook) : ProviderOp → List BookStep
  | .note said => [.note said]
  | .prune now => [.prune now]
  | .reconcile client verifies now =>
    ((({ client with relayProviderVerifications := book } : RelayClient).reconcileNotes verifies now
      client.relaySessions.keys).map .note)

/-- The changes of the book in a run. -/
def runSteps (book : RelayProviderVerificationBook) : List ProviderOp → List BookStep
  | [] => []
  | op :: ops => op.bookSteps book ++ runSteps (op.apply book) ops

/-- What has been noted of a provider. -/
inductive ProviderEvidence where
  | verified (relayPubkey : String) (time : Nat)
  | failed (relayPubkey : String) (time deadline : Nat)
  deriving DecidableEq

/-- The book, what was noted in it, and the latest time at which a failure was noted or the book pruned. -/
structure ProviderHistory where
  book : RelayProviderVerificationBook := ∅
  evidence : List ProviderEvidence := []
  clock : Nat := 0

/-- The length of a cooldown. -/
def providerCooldown (consecutiveFailures : Nat) (retryAfterSecs : Option Nat) : Nat :=
  min (max (retryAfterSecs.getD RELAY_FAILED_RETRY_AFTER_SECS) 1 *
    2 ^ min (min (consecutiveFailures + 1) (2 ^ 32 - 1) - 1) 4) RELAY_PROVIDER_FAILURE_MAX_COOLDOWN_SECS

namespace ProviderHistory

/-- A provider that the book does not know has an empty record. -/
def record (h : ProviderHistory) (relayPubkey : String) : RelayProviderVerification :=
  (h.book.lookup relayPubkey).getD {}

/-- The deadline of a failure. -/
def deadline (h : ProviderHistory) (relayPubkey : String) (now : Nat) (retryAfterSecs : Option Nat) : Nat :=
  now + providerCooldown (h.record relayPubkey).consecutiveFailures retryAfterSecs

def step (h : ProviderHistory) : BookStep → ProviderHistory
  | .note (.verified relayPubkey verifiedAt) =>
    { h with
      book := noteVerifiedRelayProvider h.book relayPubkey verifiedAt
      evidence := h.evidence ++ [.verified relayPubkey verifiedAt] }
  | .note (.failed relayPubkey now retryAfterSecs) =>
    { book := noteFailedRelayProvider h.book relayPubkey now retryAfterSecs
      evidence := h.evidence ++ [.failed relayPubkey now (h.deadline relayPubkey now retryAfterSecs)]
      clock := max h.clock now }
  | .prune now =>
    { h with book := pruneRelayProviderVerifications h.book now, clock := max h.clock now }

/-- No verification of the provider is newer than its failure. -/
def StandsFailed (h : ProviderHistory) (relayPubkey : String) (time deadline : Nat) : Prop :=
  .failed relayPubkey time deadline ∈ h.evidence ∧
    ∀ verifiedAt, .verified relayPubkey verifiedAt ∈ h.evidence → verifiedAt ≤ time

/-- Group 0 of the sort key. -/
def RanksVerified (h : ProviderHistory) (relayPubkey : String) (now : Nat) : Prop :=
  (ofLex (relayProviderSortKey h.book relayPubkey now)).1 = 0

/-- A failure with no newer verification keeps the provider in cooldown until its deadline, unless the
clock has already shown the deadline, and the provider does not rank as verified and becomes due for a
probe. -/
def Sound (h : ProviderHistory) : Prop :=
  ∀ relayPubkey time deadline, h.StandsFailed relayPubkey time deadline →
    (h.clock < deadline → ∀ now < deadline,
      relayProviderInFailureCooldown h.book relayPubkey now = true) ∧
    (∀ now, ¬ h.RanksVerified relayPubkey now) ∧
    ∃ due, ∀ now ≥ due, relayProviderProbeDue h.book relayPubkey now = true

/-- A verification is newer than every failure that stands. A failure finds the provider without a
verification, or with one that is newer than the failure itself, and ends no standing cooldown earlier. -/
def Meets (h : ProviderHistory) : BookStep → Prop
  | .note (.verified relayPubkey verifiedAt) =>
    ∀ time deadline, h.StandsFailed relayPubkey time deadline → time < verifiedAt
  | .note (.failed relayPubkey now retryAfterSecs) =>
    ((∀ verifiedAt, .verified relayPubkey verifiedAt ∈ h.evidence → verifiedAt ≤ now) →
      (h.record relayPubkey).verifiedAt = none) ∧
    ∀ time deadline, h.StandsFailed relayPubkey time deadline → max h.clock now < deadline →
      deadline ≤ now + providerCooldown (h.record relayPubkey).consecutiveFailures retryAfterSecs
  | .prune _ => True

/-! ## What the record says -/

theorem book_run (h : ProviderHistory) (ops : List ProviderOp) :
    (run step h (runSteps h.book ops)).book = ops.foldl ProviderOp.apply h.book := by
  have notes (l : List ProviderNote) (h : ProviderHistory) :
      (run step h (l.map .note)).book = l.foldl ProviderNote.apply h.book := by
    induction l generalizing h with
    | nil => rfl
    | cons said rest ih => cases said <;> exact ih _
  induction ops generalizing h with
  | nil => rfl
  | cons op ops ih =>
    have once : (run step h (op.bookSteps h.book)).book = op.apply h.book := by
      cases op with
      | note said => cases said <;> rfl
      | prune now => rfl
      | reconcile client verifies now =>
        exact (notes _ h).trans (RelayClient.book_reconcileActiveRelaySessions verifies now
          { client with relayProviderVerifications := h.book }).symm
    have rest := ih (run step h (op.bookSteps h.book))
    rw [once] at rest
    simpa [runSteps] using rest

variable {h : ProviderHistory} {relayPubkey : String}

theorem inCooldown_iff (now : Nat) :
    relayProviderInFailureCooldown h.book relayPubkey now = true ↔
      ∃ until_, (h.record relayPubkey).failureCooldownUntil = some until_ ∧ now < until_ := by
  unfold relayProviderInFailureCooldown record
  cases h.book.lookup relayPubkey <;> simp [Option.any_eq_true]

theorem ranksVerified_iff (now : Nat) :
    h.RanksVerified relayPubkey now ↔
      relayProviderInFailureCooldown h.book relayPubkey now = false ∧
        (h.record relayPubkey).verifiedAt.isSome = true := by
  unfold RanksVerified relayProviderSortKey relayProviderInFailureCooldown record
  cases h.book.lookup relayPubkey with
  | none => simp
  | some verification =>
    obtain ⟨verifiedAt, until_, -, -, -⟩ := verification
    cases cooled : until_.any fun u => now < u <;> cases verifiedAt <;> simp [cooled]

theorem probeDue_of_unverified (unverified : (h.record relayPubkey).verifiedAt = none) :
    ∃ due, ∀ now ≥ due, relayProviderProbeDue h.book relayPubkey now = true := by
  unfold record at unverified
  unfold relayProviderProbeDue
  cases found : h.book.lookup relayPubkey with
  | none => exact ⟨0, fun _ _ => rfl⟩
  | some verification =>
    obtain ⟨verifiedAt, until_, failedAt, probedAt, failures⟩ := verification
    obtain rfl : verifiedAt = none := by simpa [found] using unverified
    refine ⟨max (until_.getD 0) (probedAt.getD 0 + RELAY_PROVIDER_PROBE_RETRY_AFTER_SECS),
      fun now late => ?_⟩
    cases until_ <;> cases probedAt <;> simp at late ⊢ <;> omega

/-- A provider is sound when those whose failure stands have never been verified and are in cooldown. -/
theorem sound_iff : h.Sound ↔
    ∀ relayPubkey time deadline, h.StandsFailed relayPubkey time deadline →
      (h.record relayPubkey).verifiedAt = none ∧
        (h.clock < deadline → ∃ until_,
          (h.record relayPubkey).failureCooldownUntil = some until_ ∧ deadline ≤ until_) := by
  refine forall_congr' fun relayPubkey => forall_congr' fun time => forall_congr' fun deadline =>
    imp_congr_right fun _ => ?_
  constructor
  · rintro ⟨cooled, unranked, -⟩
    constructor
    · by_contra verified
      cases until_ : (h.record relayPubkey).failureCooldownUntil with
      | none =>
        refine unranked 0 ((ranksVerified_iff 0).mpr ⟨?_, Option.isSome_iff_ne_none.mpr verified⟩)
        simp [← Bool.not_eq_true, inCooldown_iff, until_]
      | some u =>
        refine unranked u ((ranksVerified_iff u).mpr ⟨?_, Option.isSome_iff_ne_none.mpr verified⟩)
        simp [← Bool.not_eq_true, inCooldown_iff, until_]
    · intro early
      obtain ⟨until_, found, later⟩ := (inCooldown_iff (deadline - 1)).mp
        (cooled early (deadline - 1) (by omega))
      exact ⟨until_, found, by omega⟩
  · rintro ⟨unverified, cooled⟩
    refine ⟨fun early now before => ?_, fun now ranks => ?_, probeDue_of_unverified unverified⟩
    · obtain ⟨until_, found, later⟩ := cooled early
      exact (inCooldown_iff now).mpr ⟨until_, found, by omega⟩
    · simpa [unverified] using ((ranksVerified_iff now).mp ranks).2

/-! ## What a step does to a record -/

theorem record_verified (verifiedAt : Nat) (q : String) :
    (h.step (.note (.verified relayPubkey verifiedAt))).record q =
      if q = relayPubkey then
        { verifiedAt := some verifiedAt, failureCooldownUntil := none, lastFailureAt := none
          lastProbeAttemptAt := some verifiedAt, consecutiveFailures := 0 }
      else h.record q := by
  by_cases same : q = relayPubkey
  · subst same
    simp [record, step, noteVerifiedRelayProvider]
  · simp [record, step, noteVerifiedRelayProvider, HashMap.lookup_upsert_ne same, same]

theorem record_failed (now : Nat) (retryAfterSecs : Option Nat) (q : String) :
    (h.step (.note (.failed relayPubkey now retryAfterSecs))).record q =
      if q = relayPubkey then
        { h.record relayPubkey with
          lastFailureAt := some now
          lastProbeAttemptAt := some now
          consecutiveFailures := min ((h.record relayPubkey).consecutiveFailures + 1) (2 ^ 32 - 1)
          failureCooldownUntil := some (h.deadline relayPubkey now retryAfterSecs) }
      else h.record q := by
  by_cases same : q = relayPubkey
  · subst same
    simp [record, step, noteFailedRelayProvider, deadline, providerCooldown]
  · simp [record, step, noteFailedRelayProvider, HashMap.lookup_upsert_ne same, same]

theorem record_prune (now : Nat) (q : String) :
    ((h.step (.prune now)).record q).verifiedAt = (h.record q).verifiedAt ∧
      ((h.step (.prune now)).record q).failureCooldownUntil =
        (h.record q).failureCooldownUntil.filter fun until_ => now < until_ := by
  simp only [record, step, pruneRelayProviderVerifications, HashMap.lookup_retain,
    HashMap.lookup_mapValues]
  cases h.book.lookup q with
  | none => simp
  | some verification =>
    obtain ⟨verifiedAt, until_, -, -, -⟩ := verification
    simp only [Option.map_some, Option.filter_some, Option.getD_some]
    split
    · simp
    · next dropped =>
      simp only [Bool.or_eq_true, not_or, Bool.not_eq_true, Option.isSome_eq_false_iff,
        Option.isNone_iff_eq_none] at dropped
      obtain ⟨⟨⟨rfl, cooled⟩, -⟩, -⟩ := dropped
      simp [cooled]

/-! ## One step -/

theorem sound_step (sound : h.Sound) (e : BookStep) : (h.step e).Sound ↔ h.Meets e := by
  rw [sound_iff] at sound ⊢
  cases e with
  | prune now =>
    refine iff_of_true (fun q time deadline stands => ?_) trivial
    obtain ⟨unverified, cooled⟩ := sound q time deadline stands
    obtain ⟨sameVerified, filtered⟩ := record_prune (h := h) now q
    refine ⟨sameVerified.trans unverified, fun early => ?_⟩
    simp only [step, max_lt_iff] at early
    obtain ⟨until_, found, later⟩ := cooled early.1
    refine ⟨until_, ?_, later⟩
    rw [filtered, found]
    simp
    omega
  | note said =>
    cases said with
    | verified p verifiedAt =>
      have stands (q : String) (time deadline : Nat) :
          (h.step (.note (.verified p verifiedAt))).StandsFailed q time deadline ↔
            h.StandsFailed q time deadline ∧ (q = p → verifiedAt ≤ time) := by
        simp only [StandsFailed, step, List.mem_append, List.mem_singleton, reduceCtorEq, or_false,
          ProviderEvidence.verified.injEq, or_imp, forall_and, and_assoc]
        refine and_congr_right fun _ => and_congr_right fun _ => ?_
        exact ⟨fun newer same => newer verifiedAt ⟨same, rfl⟩, fun newer _ same => same.2 ▸ newer same.1⟩
      constructor
      · intro after time deadline failed
        by_contra notNewer
        have kept := after p time deadline ((stands p time deadline).mpr ⟨failed, fun _ => by omega⟩)
        simp [record_verified] at kept
      · intro meets q time deadline after
        obtain ⟨failed, newer⟩ := (stands q time deadline).mp after
        have other : q ≠ p := by
          rintro rfl
          exact absurd (meets time deadline failed) (by have := newer rfl; omega)
        rw [record_verified, if_neg other]
        exact sound q time deadline failed
    | failed p now retryAfterSecs =>
      have stands (q : String) (time deadline : Nat) :
          (h.step (.note (.failed p now retryAfterSecs))).StandsFailed q time deadline ↔
            (h.StandsFailed q time deadline ∨
              (q = p ∧ time = now ∧ deadline = h.deadline p now retryAfterSecs) ∧
                ∀ verifiedAt, .verified p verifiedAt ∈ h.evidence → verifiedAt ≤ now) := by
        simp only [StandsFailed, step, List.mem_append, List.mem_singleton, reduceCtorEq, or_false,
          ProviderEvidence.failed.injEq, or_and_right]
        refine or_congr_right (and_congr_right ?_)
        rintro ⟨rfl, rfl, -⟩
        rfl
      constructor
      · intro after
        refine ⟨fun older => ?_, fun time deadline failed early => ?_⟩
        · have new := (after p now _ ((stands p now _).mpr (.inr ⟨⟨rfl, rfl, rfl⟩, older⟩))).1
          simpa [record_failed] using new
        · obtain ⟨until_, found, later⟩ :=
            (after p time deadline ((stands p time deadline).mpr (.inl failed))).2 early
          rw [record_failed, if_pos rfl] at found
          obtain rfl := Option.some.inj found
          exact later
      · rintro ⟨unverified, kept⟩ q time deadline failed
        by_cases same : q = p
        · subst same
          rw [record_failed, if_pos rfl]
          rcases (stands q time deadline).mp failed with failed | ⟨⟨-, -, rfl⟩, older⟩
          · exact ⟨(sound q time deadline failed).1, fun early => ⟨_, rfl, kept time deadline failed early⟩⟩
          · exact ⟨unverified older, fun _ => ⟨_, rfl, le_rfl⟩⟩
        · rw [record_failed, if_neg same]
          have failed := ((stands q time deadline).mp failed).resolve_right fun new => same new.1.1
          refine ⟨(sound q time deadline failed).1, fun early => ?_⟩
          simp only [step, max_lt_iff] at early
          exact (sound q time deadline failed).2 early.1

/-- A run does to the book what its steps do, and every state of the run is sound exactly when every step
meets its condition. -/
theorem cooldown_is_lifted_by_newer_evidence_iff (ops : List ProviderOp) :
    (run step {} (runSteps ∅ ops)).book = ops.foldl ProviderOp.apply ∅ ∧
      (Along step (fun h e => (h.step e).Sound) {} (runSteps ∅ ops) ↔
        Along step Meets {} (runSteps ∅ ops)) := by
  refine ⟨book_run {} ops, along_congr (fun h e _ sound => sound_step sound e)
    (fun h e _ sound meets => (sound_step sound e).mpr meets) ?_⟩
  intro p time deadline failed
  exact absurd failed.1 List.not_mem_nil

/-- Two sessions of one provider: no handshake verified the first in time, and the second is verified by a
handshake from before. -/
def twoSessions : RelayClient := { RelayClient.empty with
  relaySessions := (AList.insert "a" ⟨"relay", "10.0.0.1:1", "10.0.0.1:2", 90, some 95, 1000⟩ ∅).insert "b"
    ⟨"relay", "10.0.0.1:3", "10.0.0.1:4", 92, none, 1000⟩ }

def oldHandshake : ProviderOp :=
  .reconcile twoSessions (fun participant _ => if participant = "a" then some 95 else none) 100

/-- The handshake at 95 takes back the cooldown of the failure at 100, and the provider ranks as verified. -/
theorem old_handshake_lifts_cooldown :
    runSteps ∅ [oldHandshake] = [.note (.failed "relay" 100 none), .note (.verified "relay" 95)] ∧
    relayProviderInFailureCooldown (oldHandshake.apply ∅) "relay" 101 = false ∧
    ¬ Along step (fun h e => (h.step e).Sound) {} (runSteps ∅ [oldHandshake]) := by
  have steps : runSteps ∅ [oldHandshake] =
      [.note (.failed "relay" 100 none), .note (.verified "relay" 95)] := by decide +kernel
  refine ⟨steps, by decide +kernel, fun sound => ?_⟩
  rw [steps] at sound
  have failed : ((step {} (.note (.failed "relay" 100 none))).step
      (.note (.verified "relay" 95))).StandsFailed "relay" 100 160 :=
    ⟨by decide +kernel, fun verifiedAt mem => by
      obtain rfl : verifiedAt = 95 := by simpa [step] using mem
      decide⟩
  have unranked := (sound.2.1 "relay" 100 160 failed).2.1 101
  exact unranked (by unfold RanksVerified; decide +kernel)

end ProviderHistory
end NostrVpn.Cli
