import NostrVpn.Core.PresenceOrder

/-!
# The maps of the presence book

Four maps with the same keys, changed by different operations under different guards. Over every run from
the empty book, the participants with an `active_since_at` are the active ones, and whoever is active is
known and was seen.
-/
namespace NostrVpn.Core

open Rust Transition

/-- The operations that change the book. -/
inductive PresenceOp where
  | call (call : PresenceCall)
  | restoreKnown (sender : String) (announcement : PeerAnnouncement) (lastSeenAt : Option Nat)

def PresenceOp.apply (book : PeerPresenceBook) : PresenceOp → PeerPresenceBook
  | .call made => (made.result book).2
  | .restoreKnown sender announcement lastSeenAt => book.restoreKnown sender announcement lastSeenAt

namespace PeerPresenceBook

structure MapsAgree (book : PeerPresenceBook) : Prop where
  since : ∀ p, (book.activeSinceAt.lookup p).isSome ↔ (book.active.lookup p).isSome
  known : ∀ p, (book.active.lookup p).isSome → (book.known.lookup p).isSome
  seen : ∀ p, (book.active.lookup p).isSome → (book.lastSeenAt.lookup p).isSome

variable {book : PeerPresenceBook}

theorem activeSinceAt_applyAnnounce (book : PeerPresenceBook) (sender p : String) (a : PeerAnnouncement)
    (seenAt : Nat) : (book.applyAnnounce sender a seenAt).2.activeSinceAt.lookup p =
      if p = sender ∧ book.active.lookup sender = none then some seenAt else book.activeSinceAt.lookup p := by
  unfold applyAnnounce
  have first : book.active.lookup sender = none → supersedes a (book.active.lookup sender) := by
    intro inactive
    simp [inactive, supersedes]
  by_cases own : p = sender
  · subst own
    cases active : book.active.lookup p with
    | none => grind [AList.lookup_insert]
    | some old => grind
  · grind [AList.lookup_insert_ne]

theorem lastSeenAt_applyAnnounce (book : PeerPresenceBook) (sender : String) (a : PeerAnnouncement)
    (seenAt : Nat) : (book.applyAnnounce sender a seenAt).2.lastSeenAt = book.lastSeenAt := by
  unfold applyAnnounce
  grind

namespace MapsAgree

theorem saw (agree : book.MapsAgree) (sender : String) (seenAt : Nat) :
    { book with lastSeenAt := book.lastSeenAt.insert sender seenAt }.MapsAgree := by
  refine ⟨agree.since, agree.known, fun p active => ?_⟩
  have seen := agree.seen p active
  by_cases own : p = sender
  · subst own
    simp
  · simpa [AList.lookup_insert_ne own] using seen

theorem isSome_filter_const {α : Type} (o : Option α) (kept : Bool) :
    (o.filter fun _ => kept).isSome ↔ o.isSome ∧ kept := by
  cases o <;> cases kept <;> simp [Option.filter]

/-- An announcement activates its sender with a known and a seen entry. -/
theorem applyAnnounce (agree : book.MapsAgree) {sender : String} (seen : (book.lastSeenAt.lookup sender).isSome)
    (a : PeerAnnouncement) (seenAt : Nat) : (book.applyAnnounce sender a seenAt).2.MapsAgree := by
  refine ⟨fun p => ?_, fun p => ?_, fun p => ?_⟩
  · have since := agree.since p
    rw [activeSinceAt_applyAnnounce, active_applyAnnounce]
    by_cases own : p = sender
    · subst own
      cases active : book.active.lookup p with
      | none => simp [supersedes]
      | some old => grind
    · simpa [own] using since
  · have known := agree.known p
    rw [active_applyAnnounce, known_applyAnnounce]
    by_cases own : p = sender
    · subst own
      cases known' : book.known.lookup p with
      | none => simp [supersedes]
      | some old => grind
    · simpa [own] using known
  · have seen' := agree.seen p
    rw [active_applyAnnounce, lastSeenAt_applyAnnounce]
    by_cases own : p = sender
    · subst own
      exact fun _ => seen
    · simpa [own] using seen'

theorem disconnect (agree : book.MapsAgree) (sender : String) :
    { book with
      active := book.active.erase sender
      activeSinceAt := book.activeSinceAt.erase sender
      known := book.known.erase sender }.MapsAgree := by
  refine ⟨fun p => ?_, fun p => ?_, fun p => ?_⟩
  · have since := agree.since p
    by_cases own : p = sender
    · subst own
      simp
    · simpa [AList.lookup_erase_ne own] using since
  · have known := agree.known p
    by_cases own : p = sender
    · subst own
      simp
    · simpa [AList.lookup_erase_ne own] using known
  · have seen := agree.seen p
    by_cases own : p = sender
    · subst own
      simp
    · simpa [AList.lookup_erase_ne own] using seen

theorem applySignal (agree : book.MapsAgree) (sender : String) (payload : SignalPayload) (seenAt : Nat) :
    (book.applySignal sender payload seenAt).2.MapsAgree := by
  have saw := agree.saw sender seenAt
  cases payload with
  | Announce a => exact saw.applyAnnounce (by simp) a seenAt
  | Disconnect _ => exact saw.disconnect sender
  | Hello => exact saw
  | Roster _ => exact saw
  | JoinRequest _ _ => exact saw

theorem restoreKnown (agree : book.MapsAgree) (sender : String) (a : PeerAnnouncement) (lastSeenAt : Option Nat) :
    (book.restoreKnown sender a lastSeenAt).MapsAgree := by
  have restored : { book with known := book.known.insert sender a }.MapsAgree := by
    refine ⟨agree.since, fun p active => ?_, agree.seen⟩
    have known := agree.known p active
    by_cases own : p = sender
    · subst own
      simp
    · simpa [AList.lookup_insert_ne own] using known
  cases lastSeenAt with
  | none => exact restored
  | some lastSeenAt => exact restored.saw sender lastSeenAt

/-- What is pruned leaves both maps of the active participants: only an active one is on the list. -/
theorem pruneStale (agree : book.MapsAgree) (now staleAfterSecs : Nat) :
    (book.pruneStale now staleAfterSecs).2.MapsAgree := by
  unfold PeerPresenceBook.pruneStale
  split_ifs with never
  · exact agree
  have removed (p : String) (active : (book.active.lookup p).isSome) :
      p ∈ (book.active.toList.map Prod.fst).filter (fun sender => !book.fresh (now - staleAfterSecs) sender) ↔
        book.fresh (now - staleAfterSecs) p = false := by
    obtain ⟨a, found⟩ := Option.isSome_iff_exists.mp active
    have listed : p ∈ book.active.toList.map Prod.fst :=
      List.mem_map.mpr ⟨(p, a), HashMap.mem_toList.mpr found, rfl⟩
    simp [List.mem_filter, listed]
  refine ⟨fun p => ?_, fun p => ?_, fun p => ?_⟩
  · have since := agree.since p
    simp only [HashMap.lookup_retain, isSome_filter_const]
    rw [since]
    refine and_congr_right fun active => ?_
    simp [removed p active]
  · rw [HashMap.lookup_retain, isSome_filter_const]
    exact fun kept => agree.known p kept.1
  · rw [HashMap.lookup_retain, isSome_filter_const]
    exact fun kept => agree.seen p kept.1

theorem retainParticipants (agree : book.MapsAgree) (participants : List String) :
    (book.retainParticipants participants).MapsAgree := by
  unfold PeerPresenceBook.retainParticipants
  refine ⟨fun p => ?_, fun p => ?_, fun p => ?_⟩
  · simp only [HashMap.lookup_retain, isSome_filter_const, agree.since p]
  · simp only [HashMap.lookup_retain, isSome_filter_const]
    exact And.imp_left (agree.known p)
  · simp only [HashMap.lookup_retain, isSome_filter_const]
    exact And.imp_left (agree.seen p)

theorem apply (agree : book.MapsAgree) (op : PresenceOp) : (op.apply book).MapsAgree := by
  cases op with
  | restoreKnown sender a lastSeenAt => exact agree.restoreKnown sender a lastSeenAt
  | call call =>
    cases call with
    | applySignal sender payload seenAt => exact agree.applySignal sender payload seenAt
    | pruneStale now staleAfterSecs => exact agree.pruneStale now staleAfterSecs
    | retainParticipants participants => exact agree.retainParticipants participants

end MapsAgree
end PeerPresenceBook

/-- In every book that a run of the operations reaches from the empty one, the maps agree. -/
theorem presence_maps_agree (ops : List PresenceOp) : (run PresenceOp.apply {} ops).MapsAgree :=
  run_invariant (fun _ op agree => agree.apply op) ⟨by simp, by simp, by simp⟩ ops

end NostrVpn.Core
