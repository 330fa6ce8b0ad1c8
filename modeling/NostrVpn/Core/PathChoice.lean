import NostrVpn.Core.PathHistory

/-!
# The choice among tracked endpoints

A selection stays at the current endpoint while the book is held there, and otherwise goes to the endpoint
of the highest rank. Among several endpoints of that rank it takes the last one in the order of the map.
-/
namespace NostrVpn.Core

open Rust Paths

namespace PeerPathState

/-- A tracked endpoint that no other one outranks. -/
def HighestRank (state : PeerPathState) (ownLocalEndpoints : List String) (defaultEndpoint endpoint : String) :
    Prop :=
  ∃ tracked, state.endpoints.lookup endpoint = some tracked ∧
    ∀ other path, state.endpoints.lookup other = some path →
      candidateRank other path ownLocalEndpoints defaultEndpoint ≤
        candidateRank endpoint tracked ownLocalEndpoints defaultEndpoint

/-- The current endpoint is not on a foreign local network, and it has the latest success that applies, or
nothing holds it but that it was selected a short time ago. -/
def HeldAt (state : PeerPathState) (ownLocalEndpoints : List String) (now retryAfterSecs : Nat)
    (endpoint : String) : Prop :=
  state.currentEndpoint = some endpoint ∧
  ¬ (endpointIsLocalOnly endpoint && !endpointSharesPrivateIpv4Subnet endpoint ownLocalEndpoints) ∧
  ∃ tracked, state.endpoints.lookup endpoint = some tracked ∧
    ((0 < appliedSuccess ownLocalEndpoints endpoint tracked ∧
        ∀ other path, state.endpoints.lookup other = some path →
          appliedSuccess ownLocalEndpoints other path ≤ appliedSuccess ownLocalEndpoints endpoint tracked) ∨
      (appliedSuccess ownLocalEndpoints endpoint tracked = 0 ∧
        ∃ at', tracked.lastSelectedAt = some at' ∧ now - at' < retryAfterSecs))

/-- The endpoint that a selection prefers. -/
def preferred (state : PeerPathState) (ownLocalEndpoints : List String) (defaultEndpoint : String) :
    Option (String × TrackedPeerPath) :=
  maxByKey (fun (endpoint, tracked) => candidateRank endpoint tracked ownLocalEndpoints defaultEndpoint)
    state.endpoints.toList

section Choice
variable {state : PeerPathState} {ownLocalEndpoints : List String} {defaultEndpoint endpoint : String}
  {now retryAfterSecs : Nat} {best : String × TrackedPeerPath}

theorem preferred_eq_none :
    state.preferred ownLocalEndpoints defaultEndpoint = none ↔ state.endpoints.entries = [] := by
  unfold preferred HashMap.toList
  cases state.endpoints.entries <;> simp [maxByKey]

theorem lookup_preferred (found : state.preferred ownLocalEndpoints defaultEndpoint = some best) :
    state.endpoints.lookup best.1 = some best.2 :=
  HashMap.mem_toList.mp (mem_of_maxByKey found)

theorem le_preferred (found : state.preferred ownLocalEndpoints defaultEndpoint = some best)
    {other : String} {path : TrackedPeerPath} (listed : state.endpoints.lookup other = some path) :
    candidateRank other path ownLocalEndpoints defaultEndpoint ≤
      candidateRank best.1 best.2 ownLocalEndpoints defaultEndpoint :=
  le_of_maxByKey found (other, path) (HashMap.mem_toList.mpr listed)

theorem highestRank_preferred (found : state.preferred ownLocalEndpoints defaultEndpoint = some best) :
    state.HighestRank ownLocalEndpoints defaultEndpoint best.1 :=
  ⟨best.2, lookup_preferred found, fun _ _ listed => le_preferred found listed⟩

/-- The rules of a selection in a book with a current endpoint. -/
theorem selectEndpoint_of_current {currentEndpoint : String} {path : TrackedPeerPath}
    (found : state.preferred ownLocalEndpoints defaultEndpoint = some best)
    (current : state.currentEndpoint = some currentEndpoint)
    (tracked : state.endpoints.lookup currentEndpoint = some path) :
    state.selectEndpoint ownLocalEndpoints defaultEndpoint now retryAfterSecs = some (
      if currentEndpoint = best.1 then best.1
      else if endpointIsLocalOnly currentEndpoint &&
        !endpointSharesPrivateIpv4Subnet currentEndpoint ownLocalEndpoints then best.1
      else if 0 < appliedSuccess ownLocalEndpoints currentEndpoint path then
        if appliedSuccess ownLocalEndpoints currentEndpoint path <
          appliedSuccess ownLocalEndpoints best.1 best.2 then best.1 else currentEndpoint
      else if path.lastSelectedAt.all fun at' => retryAfterSecs ≤ now - at' then best.1
      else currentEndpoint) := by
  unfold preferred at found
  unfold selectEndpoint appliedSuccess
  simp only [found, current, tracked, Option.bind_eq_bind, Option.bind_some]
  split_ifs <;> rfl

theorem selectEndpoint_of_untracked
    (found : state.preferred ownLocalEndpoints defaultEndpoint = some best)
    (untracked : ∀ current, state.currentEndpoint = some current → state.endpoints.lookup current = none) :
    state.selectEndpoint ownLocalEndpoints defaultEndpoint now retryAfterSecs = some best.1 := by
  unfold preferred at found
  unfold selectEndpoint
  cases current : state.currentEndpoint with
  | none => simp only [found, Option.bind_eq_bind, Option.bind_some]; rfl
  | some endpoint =>
    simp only [found, untracked endpoint current, Option.bind_eq_bind, Option.bind_some]
    rfl

/-- A selection stays where the book is held. -/
theorem selectEndpoint_of_held (held : state.HeldAt ownLocalEndpoints now retryAfterSecs endpoint) :
    state.selectEndpoint ownLocalEndpoints defaultEndpoint now retryAfterSecs = some endpoint := by
  obtain ⟨current, near, tracked, found, holds⟩ := held
  cases best : state.preferred ownLocalEndpoints defaultEndpoint with
  | none =>
    have empty : state.endpoints = ∅ := AList.ext (preferred_eq_none.mp best)
    simp [empty] at found
  | some top =>
    rw [selectEndpoint_of_current best current found, if_neg near]
    split_ifs with same success later rotate
    · exact congrArg some same.symm
    · rcases holds with ⟨-, latest⟩ | ⟨unsuccessful, -⟩
      · exact absurd later (latest top.1 top.2 (lookup_preferred best)).not_gt
      · omega
    · rfl
    · rcases holds with ⟨succeeded, -⟩ | ⟨-, at', selected, recent⟩
      · exact absurd succeeded success
      · rw [selected, Option.all_some, decide_eq_true_eq] at rotate
        omega
    · rfl

/-- A selection of a book that is held nowhere goes to the preferred endpoint. -/
theorem selectEndpoint_of_not_held (found : state.preferred ownLocalEndpoints defaultEndpoint = some best)
    (loose : ∀ endpoint, ¬ state.HeldAt ownLocalEndpoints now retryAfterSecs endpoint) :
    state.selectEndpoint ownLocalEndpoints defaultEndpoint now retryAfterSecs = some best.1 := by
  by_cases untracked : ∀ current, state.currentEndpoint = some current → state.endpoints.lookup current = none
  · exact selectEndpoint_of_untracked found untracked
  · push Not at untracked
    obtain ⟨currentEndpoint, current, listed⟩ := untracked
    obtain ⟨path, tracked⟩ := Option.ne_none_iff_exists'.mp listed
    rw [selectEndpoint_of_current found current tracked]
    split_ifs with same foreign success later rotate
    · rfl
    · rfl
    · rfl
    · refine absurd ⟨current, foreign, path, tracked, Or.inl ⟨success, fun other path' listed => ?_⟩⟩
        (loose currentEndpoint)
      exact (appliedSuccess_le_of_rank_le (le_preferred found listed)).trans (Nat.not_lt.mp later)
    · rfl
    · refine absurd ⟨current, foreign, path, tracked, Or.inr ⟨Nat.eq_zero_of_not_pos success, ?_⟩⟩
        (loose currentEndpoint)
      simp only [Option.all_eq_true, decide_eq_true_eq, not_forall, not_le] at rotate
      obtain ⟨at', selected, recent⟩ := rotate
      exact ⟨at', by simpa using selected, recent⟩

end Choice

/-! ## Selecting again -/

/-- `note_selected` with the order of the map: the entry of a tracked endpoint is changed where it stands. -/
def noteSelectedInPlace (state : PeerPathState) (endpoint : String) (selectedAt : Nat) : PeerPathState :=
  { currentEndpoint := some endpoint
    endpoints := if (state.endpoints.lookup endpoint).isSome then
        state.endpoints.modify endpoint fun entry => { entry with lastSelectedAt := some selectedAt }
      else state.endpoints.insert endpoint ⟨.Observed, selectedAt, some selectedAt, none⟩ }

section Again
variable {state : PeerPathState} {ownLocalEndpoints : List String} {defaultEndpoint endpoint : String}
  {now later retryAfterSecs : Nat}

theorem contents_noteSelectedInPlace (state : PeerPathState) (endpoint : String) (selectedAt : Nat) :
    (state.noteSelectedInPlace endpoint selectedAt).contents = (state.noteSelected endpoint selectedAt).contents := by
  rw [contents_eq_iff]
  refine ⟨rfl, fun other => ?_⟩
  unfold noteSelectedInPlace noteSelected
  by_cases same : other = endpoint
  · subst same
    cases found : state.endpoints.lookup other <;> simp [found, HashMap.modify]
  · cases found : state.endpoints.lookup endpoint <;> simp [HashMap.modify, same, AList.lookup_insert_ne same]

/-- The rank of an endpoint does not depend on its selections. -/
theorem candidateRank_selected (other : String) (tracked : TrackedPeerPath) (selectedAt : Nat) :
    candidateRank other { tracked with lastSelectedAt := some selectedAt } ownLocalEndpoints defaultEndpoint =
      candidateRank other tracked ownLocalEndpoints defaultEndpoint := rfl

theorem preferred_noteSelectedInPlace (tracked : (state.endpoints.lookup endpoint).isSome) (selectedAt : Nat) :
    ((state.noteSelectedInPlace endpoint selectedAt).preferred ownLocalEndpoints defaultEndpoint).map Prod.fst =
      (state.preferred ownLocalEndpoints defaultEndpoint).map Prod.fst := by
  let mark (e : String × TrackedPeerPath) : String × TrackedPeerPath :=
    (e.1, if e.1 = endpoint then { e.2 with lastSelectedAt := some selectedAt } else e.2)
  let rank (e : String × TrackedPeerPath) := candidateRank e.1 e.2 ownLocalEndpoints defaultEndpoint
  have entries : (state.noteSelectedInPlace endpoint selectedAt).endpoints.toList =
      state.endpoints.toList.map mark := by
    rw [noteSelectedInPlace, if_pos tracked]
    exact HashMap.toList_mapEntries _ _
  have ranks (e : String × TrackedPeerPath) : rank (mark e) = rank e := by
    dsimp only [mark]
    split_ifs <;> rfl
  have maximum := maxByKey_map ranks state.endpoints.toList
  have first : (maxByKey rank (state.endpoints.toList.map mark)).map Prod.fst =
      (maxByKey rank state.endpoints.toList).map Prod.fst := by
    rw [maximum, Option.map_map]
    rfl
  unfold preferred
  rw [entries]
  exact first

theorem lookup_noteSelectedInPlace {tracked : TrackedPeerPath}
    (found : state.endpoints.lookup endpoint = some tracked) (selectedAt : Nat) (other : String) :
    (state.noteSelectedInPlace endpoint selectedAt).endpoints.lookup other =
      if other = endpoint then some { tracked with lastSelectedAt := some selectedAt }
      else state.endpoints.lookup other := by
  rw [(contents_eq_iff.mp (contents_noteSelectedInPlace state endpoint selectedAt)).2, noteSelected]
  split_ifs with same
  · rw [same, AList.lookup_insert, found, Option.getD_some]
  · rw [AList.lookup_insert_ne same]

/-- A book that is held at an endpoint stays held when the endpoint is selected again. -/
theorem heldAt_noteSelectedInPlace (held : state.HeldAt ownLocalEndpoints now retryAfterSecs endpoint)
    (soon : later < now + retryAfterSecs) :
    (state.noteSelectedInPlace endpoint now).HeldAt ownLocalEndpoints later retryAfterSecs endpoint := by
  obtain ⟨-, near, tracked, found, holds⟩ := held
  have after := lookup_noteSelectedInPlace found now
  have unmoved (at' : Option Nat) : appliedSuccess ownLocalEndpoints endpoint { tracked with lastSelectedAt := at' } =
      appliedSuccess ownLocalEndpoints endpoint tracked := rfl
  refine ⟨rfl, near, { tracked with lastSelectedAt := some now }, by rw [after, if_pos rfl], ?_⟩
  rcases holds with ⟨succeeded, latest⟩ | ⟨unsuccessful, at', -, recent⟩
  · refine Or.inl ⟨succeeded, fun other path listed => ?_⟩
    rw [after] at listed
    split_ifs at listed with same
    · subst same
      exact (congrArg (appliedSuccess ownLocalEndpoints other) (Option.some.inj listed).symm).le
    · exact latest other path listed
  · exact Or.inr ⟨unsuccessful, now, rfl, by omega⟩

/-- Selecting again before the retry time is over gives the same endpoint. -/
theorem selectEndpoint_again
    (selected : state.selectEndpoint ownLocalEndpoints defaultEndpoint now retryAfterSecs = some endpoint)
    (soon : later < now + retryAfterSecs) :
    (state.noteSelectedInPlace endpoint now).selectEndpoint ownLocalEndpoints defaultEndpoint later
      retryAfterSecs = some endpoint := by
  obtain ⟨tracked, found⟩ := lookup_of_selectEndpoint selected
  by_cases held : ∃ current, state.HeldAt ownLocalEndpoints now retryAfterSecs current
  · obtain ⟨current, held⟩ := held
    have here := (selectEndpoint_of_held held).symm.trans selected
    obtain rfl := Option.some.inj here
    exact selectEndpoint_of_held (heldAt_noteSelectedInPlace held soon)
  · rw [not_exists] at held
    cases top : state.preferred ownLocalEndpoints defaultEndpoint with
    | none =>
      have empty : state.endpoints = ∅ := AList.ext (preferred_eq_none.mp top)
      simp [empty] at found
    | some best =>
      obtain rfl := Option.some.inj ((selectEndpoint_of_not_held top held).symm.trans selected)
      have kept := @preferred_noteSelectedInPlace state ownLocalEndpoints defaultEndpoint best.1
        (by rw [found]; rfl) now
      rw [top, Option.map_some, Option.map_eq_some_iff] at kept
      obtain ⟨best', top', same⟩ := kept
      by_cases held' : ∃ current, (state.noteSelectedInPlace best.1 now).HeldAt ownLocalEndpoints later
          retryAfterSecs current
      · obtain ⟨current, held'⟩ := held'
        obtain rfl := Option.some.inj held'.1
        exact selectEndpoint_of_held held'
      · rw [not_exists] at held'
        rw [selectEndpoint_of_not_held top' held', same]

/-- While a success holds the current endpoint, another one is selected only for a later success. -/
theorem later_success_of_left {current : String} {tracked : TrackedPeerPath}
    (selected : state.selectEndpoint ownLocalEndpoints defaultEndpoint now retryAfterSecs = some endpoint)
    (at' : state.currentEndpoint = some current) (found : state.endpoints.lookup current = some tracked)
    (succeeded : 0 < appliedSuccess ownLocalEndpoints current tracked) (left : endpoint ≠ current) :
    (endpointIsLocalOnly current && !endpointSharesPrivateIpv4Subnet current ownLocalEndpoints) ∨
      ∃ path, state.endpoints.lookup endpoint = some path ∧
        appliedSuccess ownLocalEndpoints current tracked < appliedSuccess ownLocalEndpoints endpoint path := by
  cases top : state.preferred ownLocalEndpoints defaultEndpoint with
  | none =>
    have empty : state.endpoints = ∅ := AList.ext (preferred_eq_none.mp top)
    simp [empty] at found
  | some best =>
    rw [selectEndpoint_of_current top at' found] at selected
    split_ifs at selected with same foreign later
    · exact absurd ((Option.some.inj selected).symm.trans same.symm) left
    · exact Or.inl foreign
    · obtain rfl := Option.some.inj selected
      exact Or.inr ⟨best.2, lookup_preferred top, later⟩
    · exact absurd (Option.some.inj selected).symm left

end Again

/-! ## The order of the map -/

section Order
variable {state : PeerPathState} {ownLocalEndpoints : List String} {defaultEndpoint endpoint : String}
  {now retryAfterSecs : Nat}

/-- Any endpoint of the highest rank is the preferred one in some order of the map. -/
theorem exists_preferred (highest : state.HighestRank ownLocalEndpoints defaultEndpoint endpoint) :
    ∃ (state' : PeerPathState) (path : TrackedPeerPath), state'.contents = state.contents ∧
      state'.preferred ownLocalEndpoints defaultEndpoint = some (endpoint, path) := by
  obtain ⟨tracked, found, above⟩ := highest
  refine ⟨⟨state.currentEndpoint, state.endpoints.moveToEnd endpoint tracked⟩, tracked, ?_, ?_⟩
  · exact contents_eq_iff.mpr ⟨rfl, HashMap.lookup_moveToEnd found⟩
  · unfold preferred
    rw [HashMap.toList_moveToEnd]
    refine maxByKey_append_of_le fun e mem => above e.1 e.2 (HashMap.mem_toList.mp ?_)
    exact (HashMap.toList_erase_sublist _ _).mem mem

theorem heldAt_congr {state' : PeerPathState} (same : state'.contents = state.contents) :
    state'.HeldAt ownLocalEndpoints now retryAfterSecs endpoint ↔
      state.HeldAt ownLocalEndpoints now retryAfterSecs endpoint := by
  obtain ⟨current, listed⟩ := contents_eq_iff.mp same
  simp only [HeldAt, current, listed]

theorem highestRank_congr {state' : PeerPathState} (same : state'.contents = state.contents) :
    state'.HighestRank ownLocalEndpoints defaultEndpoint endpoint ↔
      state.HighestRank ownLocalEndpoints defaultEndpoint endpoint := by
  obtain ⟨-, listed⟩ := contents_eq_iff.mp same
  simp only [HighestRank, listed]

theorem empty_congr {state' : PeerPathState} (same : state'.contents = state.contents) :
    state'.endpoints.entries = [] ↔ state.endpoints.entries = [] := by
  have nothing (state : PeerPathState) : state.endpoints.entries = [] ↔ ∀ e, state.endpoints.lookup e = none := by
    constructor
    · intro empty
      have : state.endpoints = ∅ := AList.ext empty
      simp [this]
    · intro none'
      refine List.eq_nil_iff_forall_not_mem.mpr fun e mem => ?_
      have found := AList.mem_lookup_iff.mpr (show ⟨e.1, e.2⟩ ∈ state.endpoints.entries from mem)
      rw [none' e.1] at found
      cases found
  obtain ⟨-, listed⟩ := contents_eq_iff.mp same
  rw [nothing, nothing]
  simp only [listed]

end Order

end PeerPathState

/-! ## The book -/

section Book
variable {book : PeerPathBook} {participant endpoint : String} {a : PeerAnnouncement}
  {ownLocalEndpoints : List String} {now retryAfterSecs : Nat}

/-- `note_selected` with the order of the map. -/
def PeerPathBook.noteSelectedInPlace (book : PeerPathBook) (participant endpoint : String) (selectedAt : Nat) :
    PeerPathBook :=
  ⟨book.peers.upsert participant .default fun state => state.noteSelectedInPlace endpoint selectedAt⟩

theorem contents_upsert_eq {f g : PeerPathState → PeerPathState} (same : ∀ state, (f state).contents = (g state).contents)
    (book : PeerPathBook) (participant : String) :
    (⟨book.peers.upsert participant .default f⟩ : PeerPathBook).contents =
      (⟨book.peers.upsert participant .default g⟩ : PeerPathBook).contents := by
  funext other
  unfold PeerPathBook.contents
  by_cases here : other = participant
  · subst here
    simp [same]
  · simp [HashMap.lookup_upsert_ne here]

/-- Both models of `note_selected` leave the same contents. -/
theorem contents_book_noteSelectedInPlace (book : PeerPathBook) (participant endpoint : String) (selectedAt : Nat) :
    (book.noteSelectedInPlace participant endpoint selectedAt).contents =
      (book.noteSelected participant endpoint selectedAt).contents :=
  contents_upsert_eq (fun state => state.contents_noteSelectedInPlace endpoint selectedAt) book participant

/-- A selection in terms of the entry of the participant. -/
theorem select_eq : book.selectEndpointForLocalEndpoints participant a ownLocalEndpoints now retryAfterSecs =
    if (book.stateOf participant).endpoints.entries = [] then
      some (selectPeerEndpointFromLocalEndpoints a ownLocalEndpoints)
    else (book.stateOf participant).selectEndpoint ownLocalEndpoints
      (selectPeerEndpointFromLocalEndpoints a ownLocalEndpoints) now retryAfterSecs := by
  unfold PeerPathBook.selectEndpointForLocalEndpoints PeerPathBook.stateOf
  cases book.peers.lookup participant <;> rfl

/-- While the current endpoint has a success that applies, at the given time or later, a selection leaves it only
for one with a later success, or when it is on a foreign local network. -/
def LeavesForLaterSuccess (since : Nat) (book : PeerPathBook) (participant : String) (a : PeerAnnouncement)
    (ownLocalEndpoints : List String) (now retryAfterSecs : Nat) : Prop :=
  ∀ endpoint current tracked successAt,
    book.selectEndpointForLocalEndpoints participant a ownLocalEndpoints now retryAfterSecs = some endpoint →
    (book.stateOf participant).currentEndpoint = some current → book.tracked participant current = some tracked →
    tracked.lastSuccessAt = some successAt → since ≤ successAt →
    pathSuccessStillApplies current tracked (endpointSharesPrivateIpv4Subnet current ownLocalEndpoints) →
    endpoint ≠ current →
      (endpointIsLocalOnly current && !endpointSharesPrivateIpv4Subnet current ownLocalEndpoints) ∨
        ∃ path, book.tracked participant endpoint = some path ∧
          successAt < PeerPathState.appliedSuccess ownLocalEndpoints endpoint path

/-- Selecting again gives the endpoint that was selected and recorded, until the retry time is over. -/
def SelectsAgain (book : PeerPathBook) (participant : String) (a : PeerAnnouncement)
    (ownLocalEndpoints : List String) (now retryAfterSecs : Nat) : Prop :=
  ∀ endpoint,
    book.selectEndpointForLocalEndpoints participant a ownLocalEndpoints now retryAfterSecs = some endpoint →
    ∀ later < now + retryAfterSecs, (book.noteSelectedInPlace participant endpoint now).selectEndpointForLocalEndpoints
      participant a ownLocalEndpoints later retryAfterSecs = some endpoint

theorem stateOf_noteSelectedInPlace (book : PeerPathBook) (participant endpoint : String) (selectedAt : Nat) :
    (book.noteSelectedInPlace participant endpoint selectedAt).stateOf participant =
      (book.stateOf participant).noteSelectedInPlace endpoint selectedAt := by
  simp [PeerPathBook.stateOf, PeerPathBook.noteSelectedInPlace]

/-- The first endpoint that is selected for a participant is selected again. -/
theorem select_first {state : PeerPathState} {defaultEndpoint : String} (empty : state.endpoints.entries = [])
    (later : Nat) : (state.noteSelectedInPlace endpoint now).endpoints.entries ≠ [] ∧
      (state.noteSelectedInPlace endpoint now).selectEndpoint ownLocalEndpoints defaultEndpoint later
        retryAfterSecs = some endpoint := by
  have none' : state.endpoints = ∅ := AList.ext empty
  have single : (state.noteSelectedInPlace endpoint now).endpoints.entries =
      [⟨endpoint, ⟨.Observed, now, some now, none⟩⟩] := by
    simp [PeerPathState.noteSelectedInPlace, none']
  have only (other : String) (path : TrackedPeerPath)
      (found : (state.noteSelectedInPlace endpoint now).endpoints.lookup other = some path) : other = endpoint := by
    have mem := AList.mem_lookup_iff.mp found
    rw [single] at mem
    simpa using congrArg Sigma.fst (List.mem_singleton.mp mem)
  refine ⟨by simp [single], ?_⟩
  cases top : (state.noteSelectedInPlace endpoint now).preferred ownLocalEndpoints defaultEndpoint with
  | none => exact absurd (PeerPathState.preferred_eq_none.mp top) (by simp [single])
  | some best =>
    have here := only _ _ (PeerPathState.lookup_preferred top)
    rw [PeerPathState.selectEndpoint_of_current top rfl
      (here ▸ PeerPathState.lookup_preferred top), if_pos here.symm, here]

/-- A selection is stable: it is repeated until the retry time is over, and a success at a time after 0 is left
only for a later one. -/
theorem path_selection_is_stable (book : PeerPathBook) (participant : String) (a : PeerAnnouncement)
    (ownLocalEndpoints : List String) (now retryAfterSecs : Nat) :
    SelectsAgain book participant a ownLocalEndpoints now retryAfterSecs ∧
      LeavesForLaterSuccess 1 book participant a ownLocalEndpoints now retryAfterSecs := by
  constructor
  · intro endpoint selected later soon
    rw [select_eq] at selected ⊢
    rw [stateOf_noteSelectedInPlace]
    split_ifs at selected with empty
    · obtain ⟨tracked, again⟩ := @select_first endpoint ownLocalEndpoints now retryAfterSecs
        (book.stateOf participant) (selectPeerEndpointFromLocalEndpoints a ownLocalEndpoints) empty later
      rw [if_neg tracked, again]
    · have again := PeerPathState.selectEndpoint_again selected soon
      have tracked : ((book.stateOf participant).noteSelectedInPlace endpoint now).endpoints.entries ≠ [] := by
        intro gone
        obtain ⟨path, found⟩ := PeerPathState.lookup_of_selectEndpoint again
        rw [show ((book.stateOf participant).noteSelectedInPlace endpoint now).endpoints = ∅ from AList.ext gone]
          at found
        simp at found
      rw [if_neg tracked, again]
  · intro endpoint current tracked successAt selected at' found success after applies left
    have holds : PeerPathState.appliedSuccess ownLocalEndpoints current tracked = successAt := by
      rw [PeerPathState.appliedSuccess, if_pos applies, success, Option.getD_some]
    rw [select_eq, if_neg] at selected
    · have leaves := PeerPathState.later_success_of_left selected at' found (by omega) left
      rwa [holds] at leaves
    · intro empty
      rw [PeerPathBook.tracked, show (book.stateOf participant).endpoints = ∅ from AList.ext empty] at found
      simp at found

def secondEndpoint : String := "198.51.100.7:51820"

/-- A book that is at an endpoint whose success has the time 0, as a cache file may give it. -/
def epochBook : PeerPathBook :=
  ⟨(∅ : HashMap String PeerPathState).insert "peer-a" ⟨some "203.0.113.20:51820",
    ((∅ : HashMap String TrackedPeerPath).insert "203.0.113.20:51820" ⟨.Observed, 100, some 100, some 0⟩).insert
      secondEndpoint ⟨.Public, 100, none, none⟩⟩⟩

/-- A success at time 0 holds nothing. -/
theorem success_at_epoch_is_left :
    ¬ LeavesForLaterSuccess 0 epochBook "peer-a" { directAnnouncement with publicEndpoint := some secondEndpoint }
      [] 200 10 := by
  intro leaves
  have left := leaves secondEndpoint "203.0.113.20:51820" ⟨.Observed, 100, some 100, some 0⟩ 0 (by decide +kernel)
    (by decide +kernel) (by decide +kernel) rfl (Nat.le_refl 0) (by decide +kernel) (by decide)
  rcases left with foreign | ⟨path, found, later⟩
  · exact absurd foreign (by decide +kernel)
  · have tracked : epochBook.tracked "peer-a" secondEndpoint = some ⟨.Public, 100, none, none⟩ := by decide +kernel
    obtain rfl := Option.some.inj (tracked.symm.trans found)
    exact absurd later (by decide +kernel)

/-! ## Two orders of one book -/

/-- Every book with the same contents selects the same endpoint. -/
def SelectionIsOrderFree (book : PeerPathBook) (participant : String) (a : PeerAnnouncement)
    (ownLocalEndpoints : List String) (now retryAfterSecs : Nat) : Prop :=
  ∀ book' : PeerPathBook, book'.contents = book.contents →
    book'.selectEndpointForLocalEndpoints participant a ownLocalEndpoints now retryAfterSecs =
      book.selectEndpointForLocalEndpoints participant a ownLocalEndpoints now retryAfterSecs

/-- The participant of a book with the same contents has an entry with the same contents. -/
theorem contents_stateOf {book' : PeerPathBook} (same : book'.contents = book.contents) :
    (book'.stateOf participant).contents = (book.stateOf participant).contents := by
  have here := congrFun same participant
  unfold PeerPathBook.contents at here
  unfold PeerPathBook.stateOf
  cases found : book.peers.lookup participant with
  | none =>
    rw [found, Option.map_none, Option.map_eq_none_iff] at here
    rw [here]
  | some state =>
    rw [found, Option.map_some, Option.map_eq_some_iff] at here
    obtain ⟨state', found', eq⟩ := here
    rw [found', Option.getD_some, Option.getD_some, eq]

/-- The entry of a participant in another order, in a book with the same contents. -/
theorem exists_book_of_contents {state' : PeerPathState}
    (same : state'.contents = (book.stateOf participant).contents)
    (tracks : (book.stateOf participant).endpoints.entries ≠ []) :
    ∃ book' : PeerPathBook, book'.contents = book.contents ∧ book'.stateOf participant = state' := by
  refine ⟨⟨book.peers.insert participant state'⟩, ?_, by simp [PeerPathBook.stateOf]⟩
  rw [PeerPathBook.contents_insert_eq_iff, PeerPathBook.contents]
  unfold PeerPathBook.stateOf at same tracks
  cases found : book.peers.lookup participant with
  | none => simp [found, PeerPathState.default] at tracks
  | some state => simp [same, found]

/-- A book that is held nowhere selects any endpoint of the highest rank, in some order. -/
theorem exists_selecting {endpoint : String}
    (highest : (book.stateOf participant).HighestRank ownLocalEndpoints
      (selectPeerEndpointFromLocalEndpoints a ownLocalEndpoints) endpoint)
    (loose : ∀ current, ¬ (book.stateOf participant).HeldAt ownLocalEndpoints now retryAfterSecs current) :
    ∃ book' : PeerPathBook, book'.contents = book.contents ∧
      book'.selectEndpointForLocalEndpoints participant a ownLocalEndpoints now retryAfterSecs = some endpoint := by
  obtain ⟨state', path, same, top⟩ := PeerPathState.exists_preferred highest
  have tracks : (book.stateOf participant).endpoints.entries ≠ [] := by
    rw [Ne, ← PeerPathState.empty_congr same]
    intro empty
    rw [PeerPathState.preferred_eq_none.mpr empty] at top
    cases top
  obtain ⟨book', contents, here⟩ := exists_book_of_contents same tracks
  refine ⟨book', contents, ?_⟩
  rw [select_eq, here, if_neg ((PeerPathState.empty_congr same).not.mpr tracks)]
  exact PeerPathState.selectEndpoint_of_not_held top fun current held =>
    loose current ((PeerPathState.heldAt_congr same).mp held)

/-- A selection is the default for a participant without endpoints, the endpoint at which the book is held, or one
of the highest rank. -/
theorem select_cases {endpoint : String}
    (selected : book.selectEndpointForLocalEndpoints participant a ownLocalEndpoints now retryAfterSecs =
      some endpoint) :
    ((book.stateOf participant).endpoints.entries = [] ∧
      endpoint = selectPeerEndpointFromLocalEndpoints a ownLocalEndpoints) ∨
    ((book.stateOf participant).endpoints.entries ≠ [] ∧
      ((book.stateOf participant).HeldAt ownLocalEndpoints now retryAfterSecs endpoint ∨
        (∀ current, ¬ (book.stateOf participant).HeldAt ownLocalEndpoints now retryAfterSecs current) ∧
          (book.stateOf participant).HighestRank ownLocalEndpoints
            (selectPeerEndpointFromLocalEndpoints a ownLocalEndpoints) endpoint)) := by
  rw [select_eq] at selected
  split_ifs at selected with empty
  · exact Or.inl ⟨empty, (Option.some.inj selected).symm⟩
  · by_cases held : ∃ current, (book.stateOf participant).HeldAt ownLocalEndpoints now retryAfterSecs current
    · obtain ⟨current, held⟩ := held
      obtain rfl := Option.some.inj ((PeerPathState.selectEndpoint_of_held held).symm.trans selected)
      exact Or.inr ⟨empty, Or.inl held⟩
    · rw [not_exists] at held
      cases top : (book.stateOf participant).preferred ownLocalEndpoints
          (selectPeerEndpointFromLocalEndpoints a ownLocalEndpoints) with
      | none => exact absurd (PeerPathState.preferred_eq_none.mp top) empty
      | some best =>
        obtain rfl := Option.some.inj ((PeerPathState.selectEndpoint_of_not_held top held).symm.trans selected)
        exact Or.inr ⟨empty, Or.inr ⟨held, PeerPathState.highestRank_preferred top⟩⟩

theorem exists_selection (book : PeerPathBook) (participant : String) (a : PeerAnnouncement)
    (ownLocalEndpoints : List String) (now retryAfterSecs : Nat) : ∃ endpoint,
    book.selectEndpointForLocalEndpoints participant a ownLocalEndpoints now retryAfterSecs = some endpoint := by
  rw [select_eq]
  split_ifs with empty
  · exact ⟨_, rfl⟩
  · by_cases held : ∃ current, (book.stateOf participant).HeldAt ownLocalEndpoints now retryAfterSecs current
    · obtain ⟨current, held⟩ := held
      exact ⟨current, PeerPathState.selectEndpoint_of_held held⟩
    · cases top : (book.stateOf participant).preferred ownLocalEndpoints
          (selectPeerEndpointFromLocalEndpoints a ownLocalEndpoints) with
      | none => exact absurd (PeerPathState.preferred_eq_none.mp top) empty
      | some best => exact ⟨best.1, PeerPathState.selectEndpoint_of_not_held top (not_exists.mp held)⟩

/-- Two endpoints of the highest rank make the selection depend on the order of the map. -/
theorem order_matters_of_tie {left right : String}
    (highest : (book.stateOf participant).HighestRank ownLocalEndpoints
      (selectPeerEndpointFromLocalEndpoints a ownLocalEndpoints) left)
    (highest' : (book.stateOf participant).HighestRank ownLocalEndpoints
      (selectPeerEndpointFromLocalEndpoints a ownLocalEndpoints) right) (apart : left ≠ right)
    (loose : ∀ current, ¬ (book.stateOf participant).HeldAt ownLocalEndpoints now retryAfterSecs current) :
    ¬ SelectionIsOrderFree book participant a ownLocalEndpoints now retryAfterSecs := by
  intro free
  obtain ⟨book₁, same₁, selected₁⟩ := exists_selecting highest loose
  obtain ⟨book₂, same₂, selected₂⟩ := exists_selecting highest' loose
  rw [free book₁ same₁] at selected₁
  rw [free book₂ same₂, selected₁] at selected₂
  exact apart (Option.some.inj selected₂)

/-- The selection does not depend on the order of the map exactly when the book is held at an endpoint, or tracks
only one of the highest rank. -/
theorem selection_is_order_free_iff (book : PeerPathBook) (participant : String) (a : PeerAnnouncement)
    (ownLocalEndpoints : List String) (now retryAfterSecs : Nat) :
    SelectionIsOrderFree book participant a ownLocalEndpoints now retryAfterSecs ↔
      (∃ current, (book.stateOf participant).HeldAt ownLocalEndpoints now retryAfterSecs current) ∨
      ∀ left right,
        (book.stateOf participant).HighestRank ownLocalEndpoints
          (selectPeerEndpointFromLocalEndpoints a ownLocalEndpoints) left →
        (book.stateOf participant).HighestRank ownLocalEndpoints
          (selectPeerEndpointFromLocalEndpoints a ownLocalEndpoints) right → left = right := by
  constructor
  · intro free
    by_contra none'
    obtain ⟨loose, tie⟩ := not_or.mp none'
    push Not at tie
    obtain ⟨left, right, highest, highest', apart⟩ := tie
    exact order_matters_of_tie highest highest' apart (not_exists.mp loose) free
  · intro fixed book' same
    have contents := @contents_stateOf book participant book' same
    obtain ⟨endpoint, selected⟩ := exists_selection book participant a ownLocalEndpoints now retryAfterSecs
    obtain ⟨endpoint', selected'⟩ := exists_selection book' participant a ownLocalEndpoints now retryAfterSecs
    have empty := PeerPathState.empty_congr contents
    have heldAt (current : String) := @PeerPathState.heldAt_congr _ ownLocalEndpoints current now retryAfterSecs _ contents
    have highest (e : String) := @PeerPathState.highestRank_congr _ ownLocalEndpoints
      (selectPeerEndpointFromLocalEndpoints a ownLocalEndpoints) e _ contents
    rw [selected, selected', Option.some.injEq]
    rcases select_cases selected with ⟨none', rfl⟩ | ⟨tracks, first⟩
    · rcases select_cases selected' with ⟨-, rfl⟩ | ⟨tracks, -⟩
      · rfl
      · exact absurd (empty.mpr none') tracks
    · rcases select_cases selected' with ⟨none', -⟩ | ⟨-, second⟩
      · exact absurd (empty.mp none') tracks
      simp only [heldAt, highest] at second
      rcases first with held | ⟨loose, top⟩
      · rcases second with held' | ⟨loose, -⟩
        · exact Option.some.inj (held'.1.symm.trans held.1)
        · exact absurd held (loose endpoint)
      · rcases second with held' | ⟨-, top'⟩
        · exact absurd held' (loose endpoint')
        · exact (fixed.resolve_left (not_exists.mpr loose)) endpoint' endpoint top' top

/-- A book with two observed endpoints that succeeded at the same time. -/
def tiedBook : PeerPathBook :=
  ((⟨∅⟩ : PeerPathBook).noteSuccess "peer-a" "203.0.113.20:51820" 120).noteSuccess "peer-a" secondEndpoint 120

/-- Two successes at the same time: the order of the map decides. -/
theorem tied_successes_depend_on_order :
    ¬ SelectionIsOrderFree tiedBook "peer-a" { directAnnouncement with endpoint := "192.0.2.9:51820" } [] 200 10 := by
  have entry : (tiedBook.stateOf "peer-a").endpoints.toList =
      [(secondEndpoint, ⟨.Observed, 120, none, some 120⟩), ("203.0.113.20:51820", ⟨.Observed, 120, none, some 120⟩)] := by
    decide +kernel
  have highest (endpoint : String) (listed : endpoint = "203.0.113.20:51820" ∨ endpoint = secondEndpoint) :
      (tiedBook.stateOf "peer-a").HighestRank [] (selectPeerEndpointFromLocalEndpoints
        { directAnnouncement with endpoint := "192.0.2.9:51820" } []) endpoint := by
    refine ⟨⟨.Observed, 120, none, some 120⟩, ?_, fun other path found => ?_⟩
    · rw [← HashMap.mem_toList, entry]
      rcases listed with rfl | rfl <;> simp
    · rw [← HashMap.mem_toList, entry] at found
      simp only [List.mem_cons, List.not_mem_nil, or_false, Prod.mk.injEq] at found
      rcases listed with rfl | rfl <;> rcases found with ⟨rfl, rfl⟩ | ⟨rfl, rfl⟩ <;> decide +kernel
  refine order_matters_of_tie (highest _ (Or.inl rfl)) (highest _ (Or.inr rfl)) (by decide) ?_
  rintro current ⟨current', -⟩
  have nowhere : (tiedBook.stateOf "peer-a").currentEndpoint = none := by decide +kernel
  rw [nowhere] at current'
  cases current'

/-! ## Foreign private endpoints -/

/-- The announcement gives an endpoint of the peer itself that is not local-only. -/
def CarriesPublicEndpoint (a : PeerAnnouncement) : Prop :=
  ∃ e ∈ announcementEndpoints a, e.2 ≠ .Relay ∧ endpointIsLocalOnly e.1 = false

/-- A local-only endpoint on none of the own subnets. -/
def IsForeign (ownLocalEndpoints : List String) (endpoint : String) : Prop :=
  endpointIsLocalOnly endpoint && !endpointSharesPrivateIpv4Subnet endpoint ownLocalEndpoints

/-- For an announcement with a public endpoint, no foreign private endpoint is selected but the announced relay. -/
def AvoidsForeign (book : PeerPathBook) (participant : String) (a : PeerAnnouncement)
    (ownLocalEndpoints : List String) (now retryAfterSecs : Nat) : Prop :=
  CarriesPublicEndpoint a → ∀ book' : PeerPathBook, book'.contents = book.contents → ∀ endpoint,
    book'.selectEndpointForLocalEndpoints participant a ownLocalEndpoints now retryAfterSecs = some endpoint →
    IsForeign ownLocalEndpoints endpoint → a.relayEndpoint = some endpoint

/-- No foreign private endpoint but the relay has the highest rank, or the book is held; and none is the default
of a participant without endpoints. -/
structure ForeignOutranked (book : PeerPathBook) (participant : String) (a : PeerAnnouncement)
    (ownLocalEndpoints : List String) (now retryAfterSecs : Nat) : Prop where
  untracked : (book.stateOf participant).endpoints.entries = [] →
    IsForeign ownLocalEndpoints (selectPeerEndpointFromLocalEndpoints a ownLocalEndpoints) →
    a.relayEndpoint = some (selectPeerEndpointFromLocalEndpoints a ownLocalEndpoints)
  tracked : (∀ current, ¬ (book.stateOf participant).HeldAt ownLocalEndpoints now retryAfterSecs current) →
    ∀ endpoint, (book.stateOf participant).HighestRank ownLocalEndpoints
        (selectPeerEndpointFromLocalEndpoints a ownLocalEndpoints) endpoint →
      IsForeign ownLocalEndpoints endpoint → a.relayEndpoint = some endpoint

/-- Foreign private endpoints are avoided exactly when they are outranked. -/
theorem avoids_foreign_iff (book : PeerPathBook) (participant : String) (a : PeerAnnouncement)
    (ownLocalEndpoints : List String) (now retryAfterSecs : Nat) :
    AvoidsForeign book participant a ownLocalEndpoints now retryAfterSecs ↔
      (CarriesPublicEndpoint a → ForeignOutranked book participant a ownLocalEndpoints now retryAfterSecs) := by
  refine imp_congr_right fun _ => ?_
  constructor
  · intro avoids
    constructor
    · intro empty foreign
      exact avoids book rfl _ (select_eq.trans (if_pos empty)) foreign
    · intro loose endpoint highest foreign
      obtain ⟨book', same, selected⟩ := exists_selecting highest loose
      exact avoids book' same endpoint selected foreign
  · intro outranked book' same endpoint selected foreign
    have contents := @contents_stateOf book participant book' same
    have empty := PeerPathState.empty_congr contents
    have heldAt (current : String) := @PeerPathState.heldAt_congr _ ownLocalEndpoints current now retryAfterSecs _ contents
    have highest (e : String) := @PeerPathState.highestRank_congr _ ownLocalEndpoints
      (selectPeerEndpointFromLocalEndpoints a ownLocalEndpoints) e _ contents
    have selection := select_cases selected
    simp only [empty, heldAt, highest] at selection
    rcases selection with ⟨none', rfl⟩ | ⟨-, held | ⟨loose, top⟩⟩
    · exact outranked.untracked none' foreign
    · exact absurd foreign held.2.1
    · exact outranked.tracked loose endpoint top foreign

/-- A peer that was seen at a private address, and then announced its public endpoint. -/
def privateBook : PeerPathBook :=
  ((⟨∅⟩ : PeerPathBook).noteSuccess "peer-a" "192.168.7.20:51820" 90).refreshFromAnnouncement "peer-a"
    directAnnouncement 190

/-- The private endpoint of another network is selected although the peer announces a public one. -/
theorem foreign_endpoint_is_selected :
    ¬ AvoidsForeign privateBook "peer-a" directAnnouncement ["10.1.2.3:51820"] 200 10 := by
  intro avoids
  have carries : CarriesPublicEndpoint directAnnouncement :=
    ⟨("203.0.113.20:51820", .Legacy), by decide +kernel, by decide, by decide +kernel⟩
  have relay := avoids carries privateBook rfl "192.168.7.20:51820" (by decide +kernel)
    (show _ = true by decide +kernel)
  cases relay

end Book

end NostrVpn.Core
