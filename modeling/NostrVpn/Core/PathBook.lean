import NostrVpn.Core.PathFlags
import NostrVpn.Core.PathHistory

/-!
# The current endpoint of a path book

Over every run from the empty book the current endpoint of a participant is one of its tracked endpoints. The
selection with its two `expect`s is total on every book, whatever the order of its maps.
-/
namespace NostrVpn.Core

open Rust Rust.Net Paths Transition

/-! ## The selection with its expectations -/

/-- `expect` on a lookup. -/
def expect {α : Type} (message : String) : Option α → Except String α
  | some value => .ok value
  | none => .error message

/-- `select_endpoint_for_local_endpoints`; a failed `expect` is an error. -/
def PeerPathBook.selectEndpointExpecting (book : PeerPathBook) (participant : String) (a : PeerAnnouncement)
    (ownLocalEndpoints : List String) (now retryAfterSecs : Nat) : Except String (Option String) :=
  let defaultEndpoint := selectPeerEndpointFromLocalEndpoints a ownLocalEndpoints
  match book.peers.lookup participant with
  | none => .ok (some defaultEndpoint)
  | some state =>
    if state.endpoints.entries = [] then .ok (some defaultEndpoint)
    else match maxByKey
        (fun (endpoint, tracked) => candidateRank endpoint tracked ownLocalEndpoints defaultEndpoint)
        state.endpoints.toList with
      | none => .ok none
      | some (preferred, _) =>
        match state.currentEndpoint.filter fun endpoint => state.endpoints.keys.contains endpoint with
        | none => .ok (some preferred)
        | some currentEndpoint => do
          let current ← expect "current endpoint should exist" (state.endpoints.lookup currentEndpoint)
          let preferredState ← expect "preferred endpoint should exist" (state.endpoints.lookup preferred)
          let currentLocal := endpointSharesPrivateIpv4Subnet currentEndpoint ownLocalEndpoints
          let preferredLocal := endpointSharesPrivateIpv4Subnet preferred ownLocalEndpoints
          if currentEndpoint = preferred then return some preferred
          if endpointIsLocalOnly currentEndpoint && !currentLocal then return some preferred
          let currentSuccessAt := if pathSuccessStillApplies currentEndpoint current currentLocal then
            current.lastSuccessAt.getD 0 else 0
          let preferredSuccessAt := if pathSuccessStillApplies preferred preferredState preferredLocal
            then preferredState.lastSuccessAt.getD 0 else 0
          if 0 < currentSuccessAt then
            return some (if currentSuccessAt < preferredSuccessAt then preferred else currentEndpoint)
          let canRotate := current.lastSelectedAt.all fun at' => retryAfterSecs ≤ now - at'
          return some (if canRotate then preferred else currentEndpoint)

theorem maxByKey_eq_none {α β : Type} [LE β] [DecidableLE β] {key : α → β} {l : List α} :
    maxByKey key l = none ↔ l = [] := by
  cases l <;> simp [maxByKey]

theorem contains_keys {ν : Type} (m : HashMap String ν) (key : String) :
    m.keys.contains key = (m.lookup key).isSome := by
  rw [Bool.eq_iff_iff, List.contains_iff_mem, AList.lookup_isSome, AList.mem_keys]

section Selection
variable {book : PeerPathBook} {participant : String}

/-- Neither `expect` fails: the preferred endpoint comes from the map and the current one was looked up. -/
theorem selectEndpointExpecting_eq (book : PeerPathBook) (participant : String) (a : PeerAnnouncement)
    (ownLocalEndpoints : List String) (now retryAfterSecs : Nat) :
    book.selectEndpointExpecting participant a ownLocalEndpoints now retryAfterSecs =
      .ok (book.selectEndpointForLocalEndpoints participant a ownLocalEndpoints now retryAfterSecs) := by
  unfold PeerPathBook.selectEndpointExpecting PeerPathBook.selectEndpointForLocalEndpoints
  cases found : book.peers.lookup participant with
  | none => rfl
  | some state =>
    dsimp only
    split_ifs with empty
    · rfl
    unfold PeerPathState.selectEndpoint
    generalize best : @maxByKey _ (Nat ×ₗ Nat ×ₗ Nat ×ₗ Nat) _ _ _ state.endpoints.toList = first
    cases first with
    | none => rfl
    | some preferred =>
      obtain ⟨preferred, preferredState⟩ := preferred
      have foundPreferred := HashMap.mem_toList.mp (mem_of_maxByKey best)
      cases at' : state.currentEndpoint with
      | none => rfl
      | some currentEndpoint =>
        cases current : state.endpoints.lookup currentEndpoint with
        | none =>
          have untracked : state.endpoints.keys.contains currentEndpoint = false := by
            rw [contains_keys, current]
            rfl
          simp only [Option.filter, untracked, Option.bind_eq_bind, Option.bind_some, current]
          rfl
        | some path =>
          have tracked : state.endpoints.keys.contains currentEndpoint = true := by
            rw [contains_keys, current]
            rfl
          rw [Option.filter_some_pos tracked]
          simp only [Option.bind_some, current, foundPreferred, expect, bind, Except.bind]
          split_ifs <;> rfl

/-- A selection gives an endpoint, a tracked one or the default. -/
theorem exists_selectEndpoint (book : PeerPathBook) (participant : String) (a : PeerAnnouncement)
    (ownLocalEndpoints : List String) (now retryAfterSecs : Nat) :
    ∃ endpoint,
      book.selectEndpointForLocalEndpoints participant a ownLocalEndpoints now retryAfterSecs = some endpoint ∧
      (endpoint = selectPeerEndpointFromLocalEndpoints a ownLocalEndpoints ∨
        (book.tracked participant endpoint).isSome) := by
  unfold PeerPathBook.selectEndpointForLocalEndpoints PeerPathBook.tracked PeerPathBook.stateOf
  cases found : book.peers.lookup participant with
  | none => exact ⟨_, rfl, Or.inl rfl⟩
  | some state =>
    dsimp only
    split_ifs with empty
    · exact ⟨_, rfl, Or.inl rfl⟩
    cases selected : state.selectEndpoint ownLocalEndpoints
        (selectPeerEndpointFromLocalEndpoints a ownLocalEndpoints) now retryAfterSecs with
    | some endpoint =>
      obtain ⟨tracked, lookup⟩ := PeerPathState.lookup_of_selectEndpoint selected
      exact ⟨endpoint, rfl, Or.inr (by simp [lookup])⟩
    | none =>
      unfold PeerPathState.selectEndpoint at selected
      generalize best : @maxByKey _ (Nat ×ₗ Nat ×ₗ Nat ×ₗ Nat) _ _ _ state.endpoints.toList = first at selected
      cases first with
      | none =>
        rw [maxByKey_eq_none] at best
        exact absurd (by simpa [HashMap.toList] using best) empty
      | some preferred =>
        exfalso
        cases at' : state.currentEndpoint with
        | none => simp [at'] at selected
        | some currentEndpoint =>
          cases current : state.endpoints.lookup currentEndpoint with
          | none => simp [at', current] at selected
          | some path =>
            simp only [at', current, Option.bind_eq_bind, Option.bind_some] at selected
            grind

end Selection

/-! ## The current endpoint -/

/-- The current endpoint is tracked. -/
def PeerPathState.TracksCurrent (state : PeerPathState) : Prop :=
  ∀ current ∈ state.currentEndpoint, (state.endpoints.lookup current).isSome

/-- Every entry of the book tracks its current endpoint. -/
def PeerPathBook.TracksCurrent (book : PeerPathBook) : Prop :=
  book.peers.All fun _ state => state.TracksCurrent

namespace PeerPathState
variable {state : PeerPathState}

theorem tracksCurrent_retainPaths (state : PeerPathState) (keep : String → TrackedPeerPath → Bool) :
    (state.retainPaths keep).TracksCurrent := by
  intro current mem
  rw [currentEndpoint_retainPaths, Option.mem_def, Option.filter_eq_some_iff] at mem
  exact mem.2

theorem TracksCurrent.refresh (state : PeerPathState) (a : PeerAnnouncement) (seenAt : Nat) :
    (state.refresh a seenAt).TracksCurrent := by
  intro current mem
  rw [currentEndpoint_refresh] at mem
  have kept := state.tracksCurrent_retainPaths (keptByRefresh a seenAt) current mem
  rw [lookup_retainPaths] at kept
  rw [lookup_endpoints_refresh]
  unfold refreshedPath
  cases (announcementEndpoints a).lookup current with
  | none => exact kept
  | some source => rfl

theorem tracksCurrent_noteSelected (state : PeerPathState) (endpoint : String) (selectedAt : Nat) :
    (state.noteSelected endpoint selectedAt).TracksCurrent := by
  intro current mem
  obtain rfl : endpoint = current := by simpa [noteSelected] using mem
  simp [noteSelected]

theorem TracksCurrent.noteSuccess (tracks : state.TracksCurrent) (endpoint : String) (successAt : Nat) :
    (state.noteSuccess endpoint successAt).TracksCurrent := by
  intro current mem
  have before := tracks current mem
  by_cases same : current = endpoint
  · subst same
    simp [PeerPathState.noteSuccess]
  · simpa [PeerPathState.noteSuccess, AList.lookup_insert_ne same] using before

end PeerPathState

namespace PeerPathBook
variable {book : PeerPathBook}

theorem TracksCurrent.apply (tracks : book.TracksCurrent) (op : PathOp) : (op.apply book).TracksCurrent := by
  have entry (participant : String) : ((book.peers.lookup participant).getD .default).TracksCurrent := by
    cases found : book.peers.lookup participant with
    | none => exact fun current mem => by cases mem
    | some state => exact tracks participant state found
  cases op with
  | refreshFromAnnouncement participant a seenAt => exact tracks.insert (.refresh _ a seenAt)
  | noteSelected participant endpoint selectedAt =>
    exact tracks.insert (PeerPathState.tracksCurrent_noteSelected _ endpoint selectedAt)
  | noteSuccess participant endpoint successAt =>
    exact tracks.insert ((entry participant).noteSuccess endpoint successAt)
  | pruneStale now staleAfterSecs =>
    unfold PathOp.apply PeerPathBook.pruneStale
    dsimp only
    split_ifs
    · exact tracks
    · refine HashMap.All.retain (HashMap.All.mapValues tracks ?_) _
      exact fun _ state _ => state.tracksCurrent_retainPaths _
  | retainParticipants participants => exact tracks.retain _
  | removeRelayPathsForParticipant participant =>
    unfold PathOp.apply PeerPathBook.removeRelayPathsForParticipant
    dsimp only
    cases found : book.peers.lookup participant with
    | none => exact tracks
    | some state =>
      dsimp only
      split_ifs
      · exact tracks.erase participant
      · exact tracks.insert (state.tracksCurrent_retainPaths _)
  | clear => exact HashMap.All.empty

/-- Nobody is left without an endpoint. -/
theorem tracked_of_pruneStale {now staleAfterSecs : Nat} (prunes : staleAfterSecs ≠ 0) :
    (book.pruneStale now staleAfterSecs).peers.All fun _ state => state.endpoints.entries ≠ [] := by
  intro participant state found
  unfold PeerPathBook.pruneStale at found
  rw [if_neg prunes] at found
  dsimp only at found
  rw [HashMap.lookup_retain, Option.filter_eq_some_iff] at found
  simpa using found.2

theorem tracked_of_removeRelayPaths {participant : String} {state : PeerPathState}
    (found : (book.removeRelayPathsForParticipant participant).peers.lookup participant = some state) :
    state.endpoints.entries ≠ [] := by
  unfold PeerPathBook.removeRelayPathsForParticipant at found
  cases before : book.peers.lookup participant with
  | none => simp [before] at found
  | some old =>
    rw [before] at found
    dsimp only at found
    split_ifs at found with empty
    · simp at found
    · rw [AList.lookup_insert] at found
      obtain rfl := Option.some.inj found
      simpa using empty

end PeerPathBook

/-- What holds of every book that a run reaches. -/
structure PathBookConsistent (book : PeerPathBook) : Prop where
  current : book.TracksCurrent
  pruned : ∀ now staleAfterSecs, if staleAfterSecs = 0 then book.pruneStale now staleAfterSecs = book
    else (book.pruneStale now staleAfterSecs).peers.All fun _ state => state.endpoints.entries ≠ []
  unrelayed : ∀ participant state,
    (book.removeRelayPathsForParticipant participant).peers.lookup participant = some state →
      state.endpoints.entries ≠ []
  /-- Also when the maps enumerate the same contents in another order. -/
  selects : ∀ book' : PeerPathBook, book'.contents = book.contents →
    ∀ participant a ownLocalEndpoints now retryAfterSecs, ∃ endpoint,
      book'.selectEndpointExpecting participant a ownLocalEndpoints now retryAfterSecs = .ok (some endpoint) ∧
        (endpoint = selectPeerEndpointFromLocalEndpoints a ownLocalEndpoints ∨
          (book.tracked participant endpoint).isSome)

theorem tracked_congr {book book' : PeerPathBook} (same : book'.contents = book.contents)
    (participant endpoint : String) : book'.tracked participant endpoint = book.tracked participant endpoint := by
  have here := congrFun same participant
  unfold PeerPathBook.contents at here
  unfold PeerPathBook.tracked PeerPathBook.stateOf
  cases found : book.peers.lookup participant with
  | none =>
    rw [found, Option.map_none, Option.map_eq_none_iff] at here
    rw [here]
  | some state =>
    rw [found, Option.map_some, Option.map_eq_some_iff] at here
    obtain ⟨state', found', eq⟩ := here
    rw [found']
    exact (PeerPathState.contents_eq_iff.mp eq).2 endpoint

theorem path_book_is_consistent (ops : List PathOp) : PathBookConsistent (run PathOp.apply ⟨∅⟩ ops) := by
  refine ⟨?_, fun now staleAfterSecs => ?_, fun participant state => PeerPathBook.tracked_of_removeRelayPaths, ?_⟩
  · have init : PeerPathBook.TracksCurrent ⟨∅⟩ := HashMap.All.empty
    exact @run_invariant _ _ PathOp.apply PeerPathBook.TracksCurrent (fun _ op tracks => tracks.apply op) _ init ops
  · split_ifs with never
    · simp [PeerPathBook.pruneStale, never]
    · exact PeerPathBook.tracked_of_pruneStale never
  · intro book' same participant a ownLocalEndpoints now retryAfterSecs
    obtain ⟨endpoint, selected, source⟩ :=
      exists_selectEndpoint book' participant a ownLocalEndpoints now retryAfterSecs
    rw [tracked_congr same] at source
    exact ⟨endpoint, by rw [selectEndpointExpecting_eq, selected], source⟩

/-! ## A participant without endpoints -/

/-- An announcement of a peer that names no endpoint. -/
def blankAnnouncement : PeerAnnouncement := { directAnnouncement with endpoint := "" }

/-- Pruning with the age 0 does nothing, and the relays are removed of one participant only. -/
theorem blank_participant_survives :
    ¬ ∀ (ops : List PathOp),
      (∀ now staleAfterSecs participant state,
        ((run PathOp.apply ⟨∅⟩ ops).pruneStale now staleAfterSecs).peers.lookup participant = some state →
          state.endpoints.entries ≠ []) ∧
      ∀ removed participant state,
        ((run PathOp.apply ⟨∅⟩ ops).removeRelayPathsForParticipant removed).peers.lookup participant = some state →
          state.endpoints.entries ≠ [] := by
  intro all
  obtain ⟨pruned, -⟩ := all [.refreshFromAnnouncement "peer-a" blankAnnouncement 10]
  have kept : (((run PathOp.apply ⟨∅⟩ [.refreshFromAnnouncement "peer-a" blankAnnouncement 10]).pruneStale 20
      0).peers.lookup "peer-a").map (fun state => state.endpoints.entries.length) = some 0 := by decide +kernel
  obtain ⟨state, found, empty⟩ := Option.map_eq_some_iff.mp kept
  exact pruned 20 0 "peer-a" state found (List.length_eq_zero_iff.mp empty)

end NostrVpn.Core
