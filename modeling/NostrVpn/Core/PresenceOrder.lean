import NostrVpn.Core.Presence

/-!
# The order of announcements

What a book says about one participant `p`, compared with every announcement of `p` that it has
accepted so far. As long as no announcement reaches a book in which `p` is not active with a
timestamp behind that history, the active and the known announcement of `p` are the same and the
newest one.
-/
namespace NostrVpn.Core

open Rust Transition

inductive PresenceCall where
  | applySignal (sender : String) (payload : SignalPayload) (seenAt : Nat)
  | pruneStale (now staleAfterSecs : Nat)
  | retainParticipants (participants : List String)

namespace PresenceCall

def result (book : PeerPresenceBook) : PresenceCall → Bool × PeerPresenceBook
  | .applySignal sender payload seenAt => book.applySignal sender payload seenAt
  | .pruneStale now staleAfterSecs => (false, (book.pruneStale now staleAfterSecs).2)
  | .retainParticipants participants => (false, book.retainParticipants participants)

/-- The call does not drop the participant from the configuration. -/
def Keeps (p : String) : PresenceCall → Prop
  | .retainParticipants participants => p ∈ participants
  | _ => True

/-- The announcement that the call brings from the participant. -/
def announced (p : String) : PresenceCall → Option PeerAnnouncement
  | .applySignal sender (.Announce a) _ => if sender = p then some a else none
  | _ => none

def disconnects (p : String) : PresenceCall → Bool
  | .applySignal sender (.Disconnect _) _ => sender = p
  | _ => false

end PresenceCall

/-- A book with the timestamps of the announcements of `p` that it accepted. -/
structure WatchedBook where
  book : PeerPresenceBook := {}
  accepted : List Nat := []

namespace WatchedBook

def step (p : String) (w : WatchedBook) (call : PresenceCall) : WatchedBook where
  book := (call.result w.book).2
  accepted := match call.announced p with
    | some a => if (call.result w.book).1 then a.timestamp :: w.accepted else w.accepted
    | none => w.accepted

/-- The book a session starts with, after the announcements of its cache are restored. -/
def restored (p : String) (cache : List (String × PeerAnnouncement × Option Nat)) : WatchedBook :=
  let book : PeerPresenceBook := cache.foldl (fun book (sender, a, seen) => book.restoreKnown sender a seen) {}
  { book, accepted := (book.announcementFor p).toList.map PeerAnnouncement.timestamp }

/-- The call leaves or advances the announcement of `p`, except that a disconnect removes it until
one newer than all accepted ones arrives; an older announcement than an accepted one does nothing. -/
structure Advances (p : String) (w : WatchedBook) (call : PresenceCall) : Prop where
  grows : ∀ a, w.book.announcementFor p = some a → call.disconnects p = false →
    ∃ b, (w.step p call).book.announcementFor p = some b ∧ a.timestamp ≤ b.timestamp
  leaves : call.disconnects p → (w.step p call).book.announcementFor p = none
  returns : ∀ b, w.book.announcementFor p = none →
    (w.step p call).book.announcementFor p = some b →
      call.announced p = some b ∧ ∀ t ∈ w.accepted, t < b.timestamp
  ignores : ∀ a, call.announced p = some a → (∃ t ∈ w.accepted, a.timestamp < t) →
    (w.step p call).book.active.lookup p = w.book.active.lookup p ∧
      (w.step p call).book.known.lookup p = w.book.known.lookup p

/-- An announcement of `p` that finds `p` inactive is not behind the known one, and newer than all
accepted ones when none is known. -/
def InOrder (p : String) (w : WatchedBook) (call : PresenceCall) : Prop :=
  ∀ a, call.announced p = some a → w.book.active.lookup p = none →
    match w.book.known.lookup p with
    | some known => known.timestamp ≤ a.timestamp
    | none => ∀ t ∈ w.accepted, t < a.timestamp

/-- An active announcement is the known one, and the known one is the newest. -/
structure Ordered (p : String) (w : WatchedBook) : Prop where
  agree : ∀ a, w.book.active.lookup p = some a → w.book.known.lookup p = some a
  newest : ∀ a, w.book.known.lookup p = some a → ∀ t ∈ w.accepted, t ≤ a.timestamp

variable {p : String} {w : WatchedBook} {call : PresenceCall}

theorem ordered_restored (p : String) (cache : List (String × PeerAnnouncement × Option Nat)) :
    (restored p cache).Ordered p := by
  have inactive (book : PeerPresenceBook) (none' : book.active.lookup p = none) :
      (cache.foldl (fun book (sender, a, seen) => book.restoreKnown sender a seen)
        book).active.lookup p = none := by
    induction cache generalizing book with
    | nil => exact none'
    | cons e rest ih => exact ih _ none'
  have start := inactive {} rfl
  refine ⟨fun a active => ?_, fun a known t mem => ?_⟩
  · simp [restored, start] at active
  · simp only [restored, PeerPresenceBook.announcementFor, start] at mem known
    grind

/-- What a call that keeps `p` can do to what the book says about `p`. -/
theorem step_cases (keeps : call.Keeps p) :
    (∃ a, call.announced p = some a ∧ call.disconnects p = false ∧
      (w.step p call).book.active.lookup p =
        (if PeerPresenceBook.supersedes a (w.book.active.lookup p) then some a
          else w.book.active.lookup p) ∧
      (w.step p call).book.known.lookup p =
        (if PeerPresenceBook.supersedes a (w.book.known.lookup p) then some a
          else w.book.known.lookup p) ∧
      (w.step p call).accepted =
        (if PeerPresenceBook.supersedes a (w.book.active.lookup p) then a.timestamp :: w.accepted
          else w.accepted)) ∨
    (call.disconnects p ∧ call.announced p = none ∧
      (w.step p call).book.active.lookup p = none ∧ (w.step p call).book.known.lookup p = none ∧
      (w.step p call).accepted = w.accepted) ∨
    (call.announced p = none ∧ call.disconnects p = false ∧
      ((w.step p call).book.active.lookup p = w.book.active.lookup p ∨
        (w.step p call).book.active.lookup p = none) ∧
      (w.step p call).book.known.lookup p = w.book.known.lookup p ∧
      (w.step p call).accepted = w.accepted) := by
  cases call with
  | applySignal sender payload seenAt =>
    by_cases own : sender = p
    · subst own
      cases payload with
      | Announce a =>
        refine Or.inl ⟨a, by simp [PresenceCall.announced], rfl, ?_⟩
        simp [step, PresenceCall.result, PresenceCall.announced, PeerPresenceBook.applySignal,
          PeerPresenceBook.fst_applyAnnounce]
      | Disconnect _ =>
        refine Or.inr (Or.inl ⟨by simp [PresenceCall.disconnects], rfl, ?_⟩)
        simp [step, PresenceCall.result, PresenceCall.announced, PeerPresenceBook.applySignal]
      | Hello | Roster _ | JoinRequest _ _ => exact Or.inr (Or.inr ⟨rfl, rfl, Or.inl rfl, rfl, rfl⟩)
    · refine Or.inr (Or.inr ?_)
      have other : p ≠ sender := Ne.symm own
      cases payload <;>
        simp [step, PresenceCall.result, PresenceCall.announced, PresenceCall.disconnects,
          PeerPresenceBook.applySignal, AList.lookup_erase_ne, own, other]
  | pruneStale now staleAfterSecs =>
    refine Or.inr (Or.inr ⟨rfl, rfl, ?_, ?_, rfl⟩)
    · simp only [step, PresenceCall.result, PeerPresenceBook.active_pruneStale]
      cases w.book.active.lookup p <;> grind
    · simp [step, PresenceCall.result]
  | retainParticipants participants =>
    have mem : p ∈ participants := keeps
    refine Or.inr (Or.inr ⟨rfl, rfl, Or.inl ?_, ?_, rfl⟩)
    · simp only [step, PresenceCall.result, PeerPresenceBook.active_retainParticipants]
      cases w.book.active.lookup p <;> simp [mem]
    · simp only [step, PresenceCall.result, PeerPresenceBook.known_retainParticipants]
      cases w.book.known.lookup p <;> simp [mem]

/-- An ordered book answers with the known announcement. -/
theorem Ordered.announcementFor (ordered : w.Ordered p) :
    w.book.announcementFor p = w.book.known.lookup p := by
  rw [PeerPresenceBook.announcementFor]
  cases held : w.book.active.lookup p with
  | some a => simp [ordered.agree a held]
  | none => rfl

/-- An announcement in order is taken into both books as the newest, or it is behind the one that both
hold and changes nothing. -/
theorem Ordered.announce_cases {a : PeerAnnouncement} (ordered : w.Ordered p)
    (keeps : call.Keeps p) (announced : call.announced p = some a) (inOrder : w.InOrder p call) :
    ((w.step p call).book.active.lookup p = some a ∧ (w.step p call).book.known.lookup p = some a ∧
      (w.step p call).accepted = a.timestamp :: w.accepted ∧ (∀ t ∈ w.accepted, t ≤ a.timestamp) ∧
      ∀ b, w.book.known.lookup p = some b → b.timestamp ≤ a.timestamp) ∨
    ∃ b, w.book.active.lookup p = some b ∧ w.book.known.lookup p = some b ∧
      (w.step p call).book.active.lookup p = some b ∧
      (w.step p call).book.known.lookup p = some b ∧
      (w.step p call).accepted = w.accepted := by
  obtain ⟨a', announced', -, active, known, accepted⟩ | ⟨-, none', -⟩ | ⟨none', -⟩ :=
    step_cases (w := w) keeps
  · obtain rfl : a = a' := Option.some.inj (announced.symm.trans announced')
    have order := inOrder a announced
    cases held : w.book.active.lookup p with
    | some b =>
      have same := ordered.agree b held
      have newest := ordered.newest b same
      by_cases later : b.timestamp ≤ a.timestamp
      · left
        grind [PeerPresenceBook.supersedes]
      · right
        grind [PeerPresenceBook.supersedes]
    | none =>
      left
      have newest := ordered.newest
      cases heard : w.book.known.lookup p <;> grind [PeerPresenceBook.supersedes]
  · grind
  · grind

/-- An announcement in order leaves the active and the known announcement equal and newest. -/
theorem Ordered.step (ordered : w.Ordered p) (keeps : call.Keeps p) (inOrder : w.InOrder p call) :
    (w.step p call).Ordered p := by
  have agree := ordered.agree
  have newest := ordered.newest
  rcases step_cases (w := w) keeps with
    ⟨a, announced, -⟩ | ⟨-, -, active, known, accepted⟩ | ⟨-, -, active, known, accepted⟩
  · rcases ordered.announce_cases keeps announced inOrder with
      ⟨active, known, accepted, latest, -⟩ | ⟨b, -, held, active, known, accepted⟩
    · constructor <;> grind
    · constructor <;> grind
  · constructor <;> grind
  · constructor <;> grind

/-- At an ordered book a call advances the announcement exactly when it is in order. -/
theorem Ordered.advances_iff (ordered : w.Ordered p) (keeps : call.Keeps p) :
    w.Advances p call ↔ w.InOrder p call := by
  constructor
  · intro advances a announced inactive
    obtain ⟨a', announced', stays, active, known, -⟩ | ⟨-, none', -⟩ | ⟨none', -⟩ :=
      step_cases (w := w) keeps
    · obtain rfl : a = a' := Option.some.inj (announced.symm.trans announced')
      have taken : (w.step p call).book.announcementFor p = some a := by
        grind [PeerPresenceBook.supersedes, PeerPresenceBook.announcementFor]
      cases heard : w.book.known.lookup p with
      | some b =>
        obtain ⟨c, now, later⟩ := advances.grows b
          (by simp [PeerPresenceBook.announcementFor, inactive, heard]) stays
        obtain rfl := Option.some.inj (taken.symm.trans now)
        exact later
      | none =>
        exact (advances.returns a
          (by simp [PeerPresenceBook.announcementFor, inactive, heard]) taken).2
    · grind
    · grind
  · intro inOrder
    have before := ordered.announcementFor
    have after := (ordered.step keeps inOrder).announcementFor
    rcases step_cases (w := w) keeps with
      ⟨a, announced, stays, -⟩ | ⟨gone, none', active, known, -⟩ | ⟨none', stays, -, known, -⟩
    · have fresh (unknown : w.book.known.lookup p = none) : ∀ t ∈ w.accepted, t < a.timestamp := by
        have inactive : w.book.active.lookup p = none := by
          by_contra held
          obtain ⟨b, held⟩ := Option.ne_none_iff_exists'.mp held
          simp [ordered.agree b held] at unknown
        simpa [unknown] using inOrder a announced inactive
      rcases ordered.announce_cases keeps announced inOrder with
        ⟨active, known, -, latest, later⟩ | ⟨b, held, heard, active, known, -⟩
      · constructor <;> grind
      · constructor <;> grind
    · constructor <;> grind
    · constructor <;> grind

/-- A run of calls that keep `p` advances its announcement at every step exactly when every
announcement of `p` that finds it inactive is in order. -/
theorem announcement_advances_iff (p : String)
    (cache : List (String × PeerAnnouncement × Option Nat)) (calls : List PresenceCall)
    (keeps : ∀ call ∈ calls, call.Keeps p) :
    Along (step p) (Advances p) (restored p cache) calls ↔
      Along (step p) (InOrder p) (restored p cache) calls :=
  along_congr (fun _ call mem ordered => ordered.advances_iff (keeps call mem))
    (fun _ call mem ordered inOrder => ordered.step (keeps call mem) inOrder)
    (ordered_restored p cache)

/-! ## Late announcements -/

def sampleAnnouncement (timestamp : Nat) : PeerAnnouncement where
  nodeId := "node-a"
  publicKey := "key-a"
  endpoint := "9.9.9.9:51820"
  tunnelIp := "10.44.0.2/32"
  timestamp := timestamp

def announceCall (timestamp seenAt : Nat) : PresenceCall :=
  .applySignal "peer-a" (.Announce (sampleAnnouncement timestamp)) seenAt

/-- A newer and an older announcement, with another call between them. -/
def lateCalls (between : PresenceCall) : List PresenceCall :=
  [announceCall 10 100, between, announceCall 5 201]

/-- A late announcement brings a peer back that went stale or that disconnected. -/
theorem late_announcement_returns :
    ¬ (∀ (p : String) (cache : List (String × PeerAnnouncement × Option Nat))
        (calls : List PresenceCall), (∀ call ∈ calls, call.Keeps p) →
      Along (step p) (Advances p) (restored p cache) calls) ∧
    (¬ Along (step "peer-a") (Advances "peer-a") (restored "peer-a" [])
      (lateCalls (.pruneStale 200 20))) ∧
    ¬ Along (step "peer-a") (Advances "peer-a") (restored "peer-a" [])
      (lateCalls (.applySignal "peer-a" (.Disconnect "node-a") 200)) := by
  have stale : ¬ Along (step "peer-a") (Advances "peer-a") (restored "peer-a" [])
      (lateCalls (.pruneStale 200 20)) := by
    rintro ⟨-, -, advances, -⟩
    obtain ⟨b, now, later⟩ := advances.grows (sampleAnnouncement 10) rfl rfl
    obtain rfl : sampleAnnouncement 5 = b := Option.some.inj now
    exact absurd later (by decide)
  refine ⟨fun all => stale (all _ _ _ ?_), stale, ?_⟩
  · simp [lateCalls, announceCall, PresenceCall.Keeps]
  · rintro ⟨-, -, advances, -⟩
    obtain ⟨-, newer⟩ := advances.returns (sampleAnnouncement 5) rfl rfl
    exact absurd (newer 10 (by decide)) (by decide)

/-- A peer that goes stale, returns, disconnects and returns with ever newer announcements. -/
def orderlyCalls : List PresenceCall :=
  [announceCall 10 100, .pruneStale 200 20, announceCall 12 201, .retainParticipants ["peer-a"],
   .applySignal "peer-a" (.Disconnect "node-a") 202, announceCall 13 203]

theorem announcement_advances_iff_of_orderly :
    Along (step "peer-a") (Advances "peer-a") (restored "peer-a" []) orderlyCalls ↔
      Along (step "peer-a") (InOrder "peer-a") (restored "peer-a" []) orderlyCalls :=
  announcement_advances_iff "peer-a" [] orderlyCalls
    (by simp [orderlyCalls, announceCall, PresenceCall.Keeps])

end WatchedBook
end NostrVpn.Core
