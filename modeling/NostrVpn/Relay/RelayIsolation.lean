import NostrVpn.Relay.RelayService

/-!
# Failed publications of the relay service

Every response of `main` in `nvpn-udp-relay.rs` is published to its requester, and a publication may fail.
The loop logs the failure of a rejection after a bind failure and goes on. The failure of a rejection by
the caps, or of a grant, leaves `main` through `?`.
-/
namespace NostrVpn.Relay

open Rust NostrVpn.Core Transition

namespace RelayService

/-- The loop is at its `recv` and the message is a request. -/
def serves (args : Args) (st : RelayService) (envelope : ServiceEnvelope) : Bool :=
  st.running && st.granting.isNone && (served args envelope).isSome

/-- The request is turned down by the caps. -/
def rejectedByCaps (args : Args) (st : RelayService) (envelope : ServiceEnvelope) (checkedAt : Nat) :
    Bool :=
  (st.runtime.allocationRejectionForRequester envelope.senderPubkey checkedAt
    args.relayLimits).1.isSome

/-- A response of this step is not published. -/
def publicationFails (args : Args) (st : RelayService) : ServiceEvent → Bool
  | .message envelope checkedAt _ bound rejectionSent =>
    st.serves args envelope && (st.rejectedByCaps args envelope checkedAt || bound.isNone) &&
      !rejectionSent
  | .published ok _ => st.running && st.granting.isSome && !ok
  | _ => false

/-- A failed rejection by the caps, or a failed grant. -/
def escapes (args : Args) (st : RelayService) : ServiceEvent → Bool
  | .message envelope checkedAt _ _ rejectionSent =>
    st.serves args envelope && st.rejectedByCaps args envelope checkedAt && !rejectionSent
  | .published ok _ => st.running && st.granting.isSome && !ok
  | _ => false

/-- After a failed publication the loop is at its `recv` again, with no new pair and no new entry. -/
structure Continues (before after : RelayService) : Prop where
  running : after.running = true
  idle : after.granting = none
  pairs : ∀ pair ∈ after.pairs, pair ∈ before.pairs
  sessions : ∀ id session, after.runtime.activeSessions.lookup id = some session →
    before.runtime.activeSessions.lookup id = some session

def Isolated (args : Args) (refill : Nat → Nat → Nat) (st : RelayService) (e : ServiceEvent) : Prop :=
  st.publicationFails args e = true → st.Continues (st.step args refill e)

variable {args : Args} {refill : Nat → Nat → Nat} {st : RelayService}

theorem escapes_fails {e : ServiceEvent} (h : st.escapes args e = true) :
    st.publicationFails args e = true := by
  cases e <;> simp_all [escapes, publicationFails]

/-- Such a failure ends the process. -/
theorem running_of_escapes {e : ServiceEvent} (h : st.escapes args e = true) :
    (st.step args refill e).running = false := by
  cases e with
  | message envelope checkedAt startedAt bound rejectionSent =>
    simp only [escapes, serves, rejectedByCaps, Bool.and_eq_true, Bool.not_eq_true'] at h
    obtain ⟨⟨⟨⟨running, idle⟩, request⟩, caps⟩, unsent⟩ := h
    obtain ⟨reason, rejected⟩ := Option.isSome_iff_exists.mp caps
    simp [step, running, idle, onMessage, Option.isNone_iff_eq_none, request, rejected, unsent, exit,
      ← Option.not_isSome_iff_eq_none]
  | published ok now =>
    simp only [escapes, Bool.and_eq_true, Bool.not_eq_true'] at h
    obtain ⟨⟨running, pending⟩, failed⟩ := h
    obtain ⟨grant, pending⟩ := Option.isSome_iff_exists.mp pending
    simp [step, running, pending, failed, onPublished, exit]
  | _ => simp [escapes] at h

/-- The failure that remains is that of a rejection after a bind failure. -/
theorem continues_of_logged {e : ServiceEvent} (fails : st.publicationFails args e = true)
    (logged : st.escapes args e = false) : st.Continues (st.step args refill e) := by
  cases e with
  | message envelope checkedAt startedAt bound rejectionSent =>
    simp only [publicationFails, Bool.and_eq_true, Bool.not_eq_true'] at fails
    obtain ⟨⟨serves, which⟩, unsent⟩ := fails
    have admitted : st.rejectedByCaps args envelope checkedAt = false := by
      simpa [escapes, serves, unsent] using logged
    obtain rfl : bound = none := by simpa [admitted] using which
    simp only [RelayService.serves, Bool.and_eq_true] at serves
    obtain ⟨⟨running, idle⟩, request⟩ := serves
    have caps : (st.runtime.allocationRejectionForRequester envelope.senderPubkey checkedAt
        args.relayLimits).1 = none := by simpa [rejectedByCaps] using admitted
    have after : st.step args refill (.message envelope checkedAt startedAt none rejectionSent) =
        { st with
          runtime := st.runtime.pruneExpiredSessions checkedAt
          granting := none } := by
      simp [step, running, idle, onMessage, caps, ← Option.not_isSome_iff_eq_none, request]
    rw [after]
    refine ⟨running, rfl, fun _ mem => mem, fun id session found => ?_⟩
    simp only [RelayRuntimeState.pruneExpiredSessions, HashMap.lookup_retain] at found
    exact (Option.filter_eq_some_iff.mp found).1
  | published ok now => simp_all [publicationFails, escapes]
  | _ => simp [publicationFails] at fails

theorem isolated_iff (e : ServiceEvent) :
    st.Isolated args refill e ↔ st.escapes args e = false := by
  constructor
  · intro isolated
    by_contra escapes
    rw [Bool.not_eq_false] at escapes
    have running := (isolated (escapes_fails escapes)).running
    rw [running_of_escapes escapes] at running
    cases running
  · intro logged fails
    exact continues_of_logged fails logged

/-- The process ends by an escaping failure alone, and stays ended. -/
theorem running_step (e : ServiceEvent) :
    (st.step args refill e).running = (st.running && !st.escapes args e) := by
  cases escaped : st.escapes args e with
  | true => simp [running_of_escapes escaped]
  | false =>
    simp only [Bool.not_false, Bool.and_true]
    cases e with
    | elapse nanos => rfl
    | message envelope checkedAt startedAt bound rejectionSent =>
      simp only [step]
      split_ifs with idle
      · cases request : served args envelope with
        | none => simp [onMessage, request]
        | some answered =>
          have serves : st.serves args envelope = true := by simp [serves, idle, request]
          cases caps : (st.runtime.allocationRejectionForRequester envelope.senderPubkey checkedAt
              args.relayLimits).1 with
          | none => simp [onMessage, request, caps]
          | some reason =>
            have sent : rejectionSent = true := by
              simpa [escapes, serves, rejectedByCaps, caps] using escaped
            simp [onMessage, request, caps, sent]
      · rfl
    | published ok now =>
      simp only [step]
      split
      · split_ifs with running
        · rename_i grant pending
          have sent : ok = true := by simpa [escapes, pending, running] using escaped
          simp [onPublished, sent, running]
        · rfl
      · rfl
    | writeState now => simp only [step]; split_ifs <;> rfl
    | packet i requesterLeg src len sent =>
      simp only [step, onPacket]
      repeat' split
      all_goals rfl
    | legEnded i requesterLeg => rfl

/-- In every run of the service, each failed publication leaves the loop serving just when none of
them is the failure of a rejection by the caps or of a grant; the loop then still runs at the end. -/
theorem relayService_isolated_iff (args : Args) (refill : Nat → Nat → Nat) (es : List ServiceEvent) :
    (Along (step args refill) (Isolated args refill) .initial es ↔
      Along (step args refill) (fun st e => st.escapes args e = false) .initial es) ∧
    ((run (step args refill) .initial es).running = true ↔
      Along (step args refill) (fun st e => st.escapes args e = false) .initial es) := by
  constructor
  · have isolated (st : RelayService) (e : ServiceEvent) :
        Isolated args refill st e ↔ st.escapes args e = false := isolated_iff e
    exact ⟨Along.mono fun st e => (isolated st e).mp, Along.mono fun st e => (isolated st e).mpr⟩
  · have general (st : RelayService) : (run (step args refill) st es).running = true ↔
        st.running = true ∧ Along (step args refill) (fun st e => st.escapes args e = false) st es := by
      induction es generalizing st with
      | nil => simp [Along]
      | cons e es ih =>
        rw [run_cons, ih, running_step, Along, Bool.and_eq_true, Bool.not_eq_true', and_assoc]
    rw [general]
    simp [initial]

/-! ### A rejection that cannot be published -/

/-- One session and one requester at a time. -/
def oneSessionArgs : Args where
  leaseSecs := 120
  maxActiveSessions := 1
  maxSessionsPerRequester := 1
  maxBytesPerSession := 1000
  maxForwardBps := none

/-- A second requester is turned down by the caps, and its rejection does not go out. -/
theorem relayService_stopped_by_rejection :
    ¬∀ (args : Args) (refill : Nat → Nat → Nat) (es : List ServiceEvent),
      Along (step args refill) (Isolated args refill) .initial es := by
  intro isolated
  obtain ⟨-, -, unsent, -⟩ := isolated oneSessionArgs (fun _ _ => 0) (sampleGrant "a" "a:1" 100 ++
    [.message ⟨"b", .RelayProbeRequest ⟨"b:1", 101⟩⟩ 101 101 none false])
  exact absurd ((isolated_iff _).mp unsent) (by decide +kernel)

end RelayService
end NostrVpn.Relay
