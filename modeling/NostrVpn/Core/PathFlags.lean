import NostrVpn.Core.PathSelection

/-!
# The change flags of the path book

The operations of the book with the flag that the source accumulates and returns, and when that flag
tells whether the contents of the book changed.
-/
namespace NostrVpn.Core

open Rust Paths

/-! ## The operations with their flags -/

namespace PeerPathState

/-- `retainPaths`, with the flag. -/
def retainPathsFlagged (state : PeerPathState) (keep : String → TrackedPeerPath → Bool) :
    PeerPathState × Bool :=
  let endpoints := state.endpoints.retain keep
  let changed := endpoints.entries.length != state.endpoints.entries.length
  match state.currentEndpoint with
  | some current =>
    if endpoints.keys.contains current then (⟨some current, endpoints⟩, changed)
    else (⟨none, endpoints⟩, true)
  | none => (⟨none, endpoints⟩, changed)

/-- The body of the loop over the announced endpoints, with the flag. -/
def refreshEndpointFlagged (seenAt : Nat) (acc : PeerPathState × Bool)
    (announced : String × PeerPathSource) : PeerPathState × Bool :=
  let (state, changed) := acc
  let entry := (state.endpoints.lookup announced.1).getD ⟨announced.2, seenAt, none, none⟩
  let mergedSource := entry.source.merge announced.2
  let (entry, changed) :=
    if entry.source ≠ mergedSource then ({ entry with source := mergedSource }, true) else (entry, changed)
  let (entry, changed) :=
    if entry.announcedAt < seenAt then ({ entry with announcedAt := seenAt }, true) else (entry, changed)
  ({ state with endpoints := state.endpoints.insert announced.1 entry }, changed)

def refreshFlagged (state : PeerPathState) (a : PeerAnnouncement) (seenAt : Nat) : PeerPathState × Bool :=
  (announcementEndpoints a).foldl (refreshEndpointFlagged seenAt)
    (state.retainPathsFlagged (keptByRefresh a seenAt))

def noteSelectedFlagged (state : PeerPathState) (endpoint : String) (selectedAt : Nat) :
    PeerPathState × Bool :=
  let entry := (state.endpoints.lookup endpoint).getD ⟨.Observed, selectedAt, none, none⟩
  let (entry, changed) :=
    if entry.lastSelectedAt ≠ some selectedAt then ({ entry with lastSelectedAt := some selectedAt }, true)
    else (entry, false)
  let endpoints := state.endpoints.insert endpoint entry
  if state.currentEndpoint ≠ some endpoint then (⟨some endpoint, endpoints⟩, true)
  else (⟨state.currentEndpoint, endpoints⟩, changed)

def noteSuccessFlagged (state : PeerPathState) (endpoint : String) (successAt : Nat) :
    PeerPathState × Bool :=
  let entry := (state.endpoints.lookup endpoint).getD ⟨.Observed, successAt, none, none⟩
  if successAt ≤ entry.lastSuccessAt.getD 0 then
    ({ state with endpoints := state.endpoints.insert endpoint entry }, false)
  else
    ({ state with endpoints := state.endpoints.insert endpoint { entry with lastSuccessAt := some successAt } },
      true)

end PeerPathState

namespace PeerPathBook

/-- An operation on the entry of one participant, which is inserted first when there is none. -/
def updateFlagged (book : PeerPathBook) (participant : String)
    (update : PeerPathState → PeerPathState × Bool) : PeerPathBook × Bool :=
  let (state, changed) := update ((book.peers.lookup participant).getD .default)
  (⟨book.peers.insert participant state⟩, changed)

def pruneStaleFlagged (book : PeerPathBook) (now staleAfterSecs : Nat) : PeerPathBook × Bool :=
  if staleAfterSecs = 0 then (book, false)
  else
    let states := book.peers.mapValues fun state => state.retainPathsFlagged fun _ tracked =>
      decide (now - staleAfterSecs < tracked.freshnessAt)
    let kept := states.retain fun _ (state, _) => !state.endpoints.entries.isEmpty
    (⟨kept.mapValues Prod.fst⟩,
      states.values.any fun (state, changed) => changed || state.endpoints.entries.isEmpty)

def removeRelayPathsForParticipantFlagged (book : PeerPathBook) (participant : String) :
    PeerPathBook × Bool :=
  match book.peers.lookup participant with
  | none => (book, false)
  | some state =>
    let (state, changed) := state.retainPathsFlagged fun _ tracked => tracked.source != .Relay
    if state.endpoints.entries.isEmpty then (⟨book.peers.erase participant⟩, true)
    else (⟨book.peers.insert participant state⟩, changed)

end PeerPathBook

/-- The mutators of the book that return a flag. -/
inductive PathCall where
  | refreshFromAnnouncement (participant : String) (a : PeerAnnouncement) (seenAt : Nat)
  | noteSelected (participant endpoint : String) (selectedAt : Nat)
  | noteSuccess (participant endpoint : String) (successAt : Nat)
  | pruneStale (now staleAfterSecs : Nat)
  | removeRelayPathsForParticipant (participant : String)

def PathCall.apply (book : PeerPathBook) : PathCall → PeerPathBook × Bool
  | .refreshFromAnnouncement participant a seenAt =>
    book.updateFlagged participant fun state => state.refreshFlagged a seenAt
  | .noteSelected participant endpoint selectedAt =>
    book.updateFlagged participant fun state => state.noteSelectedFlagged endpoint selectedAt
  | .noteSuccess participant endpoint successAt =>
    book.updateFlagged participant fun state => state.noteSuccessFlagged endpoint successAt
  | .pruneStale now staleAfterSecs => book.pruneStaleFlagged now staleAfterSecs
  | .removeRelayPathsForParticipant participant => book.removeRelayPathsForParticipantFlagged participant

/-! ## The contents -/

/-- What a state holds, whatever the order of its map. -/
def PeerPathState.contents (state : PeerPathState) : Option String × (String → Option TrackedPeerPath) :=
  (state.currentEndpoint, fun endpoint => state.endpoints.lookup endpoint)

/-- What a book holds, whatever the order of its maps. -/
def PeerPathBook.contents (book : PeerPathBook) (participant : String) :
    Option (Option String × (String → Option TrackedPeerPath)) :=
  (book.peers.lookup participant).map PeerPathState.contents

/-- The flag of the call tells whether the contents of the book changed. -/
def PathCall.FlagTells (book : PeerPathBook) (call : PathCall) : Prop :=
  (call.apply book).2 = true ↔ (call.apply book).1.contents ≠ book.contents

/-- Announcing an endpoint that is tracked with another source or an older time. -/
def PeerPathState.Updates (state : PeerPathState) (seenAt : Nat) (announced : String × PeerPathSource) : Prop :=
  ∃ tracked, state.endpoints.lookup announced.1 = some tracked ∧
    (tracked.source.merge announced.2 ≠ tracked.source ∨ tracked.announcedAt < seenAt)

/-- An announcement that drops a tracked endpoint or the current one, or changes what is known of a tracked
one. -/
def PeerPathState.Refreshes (state : PeerPathState) (a : PeerAnnouncement) (seenAt : Nat) : Prop :=
  (∃ endpoint tracked, state.endpoints.lookup endpoint = some tracked ∧
    ¬ keptByRefresh a seenAt endpoint tracked) ∨
  (∃ current, state.currentEndpoint = some current ∧ state.endpoints.lookup current = none) ∨
  ∃ announced ∈ announcementEndpoints a, state.Updates seenAt announced

/-- The calls whose flag is right: an announcement by a known participant that inserts no endpoint or
changes something else as well, and a success of a tracked endpoint or at a time after 0. -/
def PathCall.FlagCovers (book : PeerPathBook) : PathCall → Prop
  | .refreshFromAnnouncement participant a seenAt => ∃ state, book.peers.lookup participant = some state ∧
      ((∀ announced ∈ announcementEndpoints a, state.endpoints.lookup announced.1 ≠ none) ∨
        state.Refreshes a seenAt)
  | .noteSuccess participant endpoint successAt => 0 < successAt ∨
      ∃ state, book.peers.lookup participant = some state ∧ state.endpoints.lookup endpoint ≠ none
  | _ => True

/-! ## One state -/

namespace PeerPathState

variable {state : PeerPathState} {a : PeerAnnouncement} {seenAt : Nat}

theorem contents_eq_iff {state' : PeerPathState} : state'.contents = state.contents ↔
    state'.currentEndpoint = state.currentEndpoint ∧
      ∀ endpoint, state'.endpoints.lookup endpoint = state.endpoints.lookup endpoint := by
  simp [contents, funext_iff]

theorem retainPathsFlagged_eq (keep : String → TrackedPeerPath → Bool) :
    state.retainPathsFlagged keep = (state.retainPaths keep,
      (state.endpoints.retain keep).entries.length != state.endpoints.entries.length ||
        state.currentEndpoint.any fun current => !(state.endpoints.retain keep).keys.contains current) := by
  unfold retainPathsFlagged retainPaths dropStaleCurrent
  cases state.currentEndpoint with
  | none => simp
  | some current =>
    by_cases kept : current ∈ (state.endpoints.retain keep).keys <;> simp [kept, Option.filter]

/-- Retaining sets the flag for an entry that goes and for a current endpoint that is not tracked. -/
theorem retainPathsFlagged_snd (keep : String → TrackedPeerPath → Bool) :
    (state.retainPathsFlagged keep).2 = true ↔
      (∃ endpoint tracked, state.endpoints.lookup endpoint = some tracked ∧ ¬ keep endpoint tracked) ∨
        ∃ current, state.currentEndpoint = some current ∧ state.endpoints.lookup current = none := by
  have shorter : ((state.endpoints.retain keep).entries.length != state.endpoints.entries.length) = true ↔
      ∃ endpoint tracked, state.endpoints.lookup endpoint = some tracked ∧ ¬ keep endpoint tracked := by
    rw [bne_iff_ne, Ne, HashMap.retain, List.length_filter_eq_length_iff]
    push Not
    constructor
    · rintro ⟨⟨endpoint, tracked⟩, mem, dropped⟩
      exact ⟨endpoint, tracked, AList.mem_lookup_iff.mpr mem, dropped⟩
    · rintro ⟨endpoint, tracked, found, dropped⟩
      exact ⟨⟨endpoint, tracked⟩, AList.mem_lookup_iff.mp found, dropped⟩
  rw [retainPathsFlagged_eq, Bool.or_eq_true, shorter]
  refine or_congr_right' fun all => ?_
  push Not at all
  simp only [Option.any_eq_true, Bool.not_eq_true', List.contains_eq_mem, decide_eq_false_iff_not,
    ← AList.mem_keys, ← AList.lookup_eq_none, HashMap.lookup_retain, Option.filter_eq_none_iff]
  constructor
  · rintro ⟨current, at', gone⟩
    refine ⟨current, at', ?_⟩
    cases found : state.endpoints.lookup current with
    | none => rfl
    | some tracked => exact absurd (all current tracked found) (gone tracked found)
  · rintro ⟨current, at', untracked⟩
    exact ⟨current, at', fun tracked found => by rw [untracked] at found; cases found⟩

theorem lookup_retainPaths (keep : String → TrackedPeerPath → Bool) (endpoint : String) :
    (state.retainPaths keep).endpoints.lookup endpoint = (state.endpoints.lookup endpoint).filter (keep endpoint) :=
  HashMap.lookup_retain keep endpoint state.endpoints

theorem currentEndpoint_retainPaths (keep : String → TrackedPeerPath → Bool) :
    (state.retainPaths keep).currentEndpoint =
      state.currentEndpoint.filter fun current => ((state.retainPaths keep).endpoints.lookup current).isSome := by
  have tracked (current : String) : (state.endpoints.retain keep).keys.contains current =
      ((state.endpoints.retain keep).lookup current).isSome := by
    rw [Bool.eq_iff_iff, AList.lookup_isSome, List.contains_iff_mem, AList.mem_keys]
  unfold retainPaths dropStaleCurrent
  simp only [tracked]

/-- Retaining sets the flag exactly when it changes the contents. -/
theorem retainPaths_tells (keep : String → TrackedPeerPath → Bool) :
    (state.retainPathsFlagged keep).2 = true ↔ (state.retainPathsFlagged keep).1.contents ≠ state.contents := by
  rw [retainPathsFlagged_snd, retainPathsFlagged_eq, Ne, contents_eq_iff]
  constructor
  · rintro (⟨endpoint, tracked, found, dropped⟩ | ⟨current, at', untracked⟩) ⟨same, kept⟩
    · have gone := kept endpoint
      rw [lookup_retainPaths, found, Option.filter_eq_some_iff] at gone
      exact dropped gone.2
    · rw [currentEndpoint_retainPaths, at', Option.filter_eq_some_iff, lookup_retainPaths, untracked] at same
      simp at same
  · intro changed
    by_contra none'
    push Not at none'
    obtain ⟨kept, tracked⟩ := none'
    have same (endpoint : String) : (state.retainPaths keep).endpoints.lookup endpoint =
        state.endpoints.lookup endpoint := by
      rw [lookup_retainPaths]
      cases found : state.endpoints.lookup endpoint with
      | none => rfl
      | some path => exact Option.filter_some_pos (kept endpoint path found)
    refine changed ⟨?_, same⟩
    rw [currentEndpoint_retainPaths]
    cases at' : state.currentEndpoint with
    | none => rfl
    | some current =>
      refine Option.filter_some_pos ?_
      rw [same, Option.isSome_iff_ne_none]
      exact tracked current at'

/-- Writing one entry keeps the contents if it was there already. -/
theorem contents_insert_eq_iff {endpoint : String} {tracked : TrackedPeerPath} {current : Option String} :
    (⟨current, state.endpoints.insert endpoint tracked⟩ : PeerPathState).contents = state.contents ↔
      current = state.currentEndpoint ∧ state.endpoints.lookup endpoint = some tracked := by
  rw [contents_eq_iff]
  refine and_congr_right' ⟨fun same => ?_, fun found other => ?_⟩
  · rw [← same endpoint, AList.lookup_insert]
  · by_cases eq : other = endpoint
    · rw [eq, AList.lookup_insert, found]
    · exact AList.lookup_insert_ne eq

/-- A selection sets the time of its endpoint or moves the book to it, or changes nothing. -/
theorem noteSelected_tells (endpoint : String) (selectedAt : Nat) :
    (state.noteSelectedFlagged endpoint selectedAt).2 = true ↔
      (state.noteSelectedFlagged endpoint selectedAt).1.contents ≠ state.contents := by
  unfold noteSelectedFlagged
  cases found : state.endpoints.lookup endpoint with
  | none => by_cases here : state.currentEndpoint = some endpoint <;> simp [contents_insert_eq_iff, found, here]
  | some tracked =>
    obtain ⟨source, announcedAt, lastSelectedAt, lastSuccessAt⟩ := tracked
    by_cases here : some endpoint = state.currentEndpoint
    · by_cases noted : lastSelectedAt = some selectedAt <;>
        simp [contents_insert_eq_iff, found, ← here, noted]
    · simp [contents_insert_eq_iff, here, Ne.symm here]

/-- The flag of a success is right, but for a success at 0 of an endpoint that was not tracked. -/
theorem noteSuccess_tells {endpoint : String} {successAt : Nat} :
    ((state.noteSuccessFlagged endpoint successAt).2 = true ↔
      (state.noteSuccessFlagged endpoint successAt).1.contents ≠ state.contents) ↔
      0 < successAt ∨ state.endpoints.lookup endpoint ≠ none := by
  unfold noteSuccessFlagged
  cases found : state.endpoints.lookup endpoint with
  | none =>
    rcases Nat.eq_zero_or_pos successAt with rfl | later
    · simp [contents_insert_eq_iff, found]
    · simp [contents_insert_eq_iff, found, later, Nat.not_le.mpr later]
  | some tracked =>
    obtain ⟨source, announcedAt, lastSelectedAt, lastSuccessAt⟩ := tracked
    by_cases old : successAt ≤ lastSuccessAt.getD 0
    · simp [contents_insert_eq_iff, found, old]
    · have newer : lastSuccessAt ≠ some successAt := by
        rintro rfl
        exact old (Nat.le_refl _)
      simp [contents_insert_eq_iff, found, old, newer]

/-! ## A refresh -/

theorem merge_self (source : PeerPathSource) : source.merge source = source := by
  unfold PeerPathSource.merge
  split_ifs <;> rfl

theorem refreshEndpointFlagged_spec (state : PeerPathState) (changed : Bool) (announced : String × PeerPathSource) :
    (refreshEndpointFlagged seenAt (state, changed) announced).1 =
        state.refreshEndpoint announced.1 announced.2 seenAt ∧
      ((refreshEndpointFlagged seenAt (state, changed) announced).2 = true ↔
        changed = true ∨ state.Updates seenAt announced) := by
  unfold refreshEndpointFlagged refreshEndpoint Updates
  cases found : state.endpoints.lookup announced.1 with
  | none => simp [found, merge_self]
  | some tracked =>
    obtain ⟨source, announcedAt, lastSelectedAt, lastSuccessAt⟩ := tracked
    by_cases merged : source.merge announced.2 = source <;> by_cases older : announcedAt < seenAt
    · simp [found, merged, older, Nat.max_eq_right older.le]
    · simp [found, merged, older, Nat.max_eq_left (Nat.not_lt.mp older)]
    · simp [found, merged, Ne.symm merged, older, Nat.max_eq_right older.le]
    · simp [found, merged, Ne.symm merged, older, Nat.max_eq_left (Nat.not_lt.mp older)]

/-- The loop over the announced endpoints. -/
theorem foldl_refreshEndpointFlagged (announced : List (String × PeerPathSource))
    (nodup : (announced.map Prod.fst).Nodup) (state : PeerPathState) (changed : Bool) :
    let after := announced.foldl (refreshEndpointFlagged seenAt) (state, changed)
    after.1 = announced.foldl (fun state (endpoint, source) => state.refreshEndpoint endpoint source seenAt)
        state ∧
      (after.2 = true ↔ changed = true ∨ ∃ entry ∈ announced, state.Updates seenAt entry) := by
  induction announced generalizing state changed with
  | nil => simp
  | cons entry rest ih =>
    obtain ⟨fresh, distinct⟩ := List.nodup_cons.mp nodup
    obtain ⟨same, flag⟩ := @refreshEndpointFlagged_spec seenAt state changed entry
    obtain ⟨same', flag'⟩ := ih distinct (refreshEndpointFlagged seenAt (state, changed) entry).1
      (refreshEndpointFlagged seenAt (state, changed) entry).2
    refine ⟨same'.trans (by rw [same]; rfl), flag'.trans ?_⟩
    -- the entries of the rest are not touched by this one
    have later : (∃ other ∈ rest, (state.refreshEndpoint entry.1 entry.2 seenAt).Updates seenAt other) ↔
        ∃ other ∈ rest, state.Updates seenAt other := by
      refine exists_congr fun other => and_congr_right fun mem => ?_
      have differs : other.1 ≠ entry.1 := fun eq => fresh (List.mem_map.mpr ⟨other, mem, eq⟩)
      rw [Updates, Updates, lookup_refreshEndpoint, if_neg differs]
    rw [flag, same, later, or_assoc]
    simp

theorem refreshFlagged_fst : (state.refreshFlagged a seenAt).1 = state.refresh a seenAt := by
  unfold refreshFlagged
  generalize eq : state.retainPathsFlagged (keptByRefresh a seenAt) = kept
  obtain ⟨kept, changed⟩ := kept
  rw [(foldl_refreshEndpointFlagged _ (nodup_announcementEndpoints a) kept changed).1]
  rw [retainPathsFlagged_eq] at eq
  obtain rfl := (Prod.mk.inj eq).1
  rfl

/-- The flag of a refresh. -/
theorem refreshFlagged_snd : (state.refreshFlagged a seenAt).2 = true ↔ state.Refreshes a seenAt := by
  have retained := @retainPathsFlagged_snd state (keptByRefresh a seenAt)
  unfold refreshFlagged
  rw [retainPathsFlagged_eq] at retained ⊢
  rw [(foldl_refreshEndpointFlagged _ (nodup_announcementEndpoints a) _ _).2, retained, or_assoc, Refreshes]
  by_cases dropped : ∃ endpoint tracked, state.endpoints.lookup endpoint = some tracked ∧
    ¬ keptByRefresh a seenAt endpoint tracked
  · exact iff_of_true (Or.inl dropped) (Or.inl dropped)
  · refine or_congr_right (or_congr_right (exists_congr fun entry => and_congr_right fun _ => ?_))
    push Not at dropped
    unfold Updates
    rw [lookup_retainPaths]
    cases found : state.endpoints.lookup entry.1 with
    | none => simp
    | some tracked => rw [Option.filter_some_pos (dropped entry.1 tracked found)]

theorem mem_of_lookup {announced : List (String × PeerPathSource)} {endpoint : String} {source : PeerPathSource}
    (found : announced.lookup endpoint = some source) : (endpoint, source) ∈ announced := by
  obtain ⟨before, after, rfl, -⟩ := List.lookup_eq_some_iff.mp found
  simp

/-- A dropped endpoint does not come back as it was: what is announced is neither a relay that was not
announced nor an observed endpoint. -/
theorem refreshedPath_ne_of_dropped {endpoint : String} {tracked : TrackedPeerPath}
    (found : state.endpoints.lookup endpoint = some tracked) (dropped : ¬ keptByRefresh a seenAt endpoint tracked) :
    state.refreshedPath a seenAt endpoint ≠ some tracked := by
  unfold refreshedPath
  rw [found, Option.filter_some_neg (Bool.eq_false_iff.mpr dropped)]
  dsimp only
  cases announced : (announcementEndpoints a).lookup endpoint with
  | none => simp
  | some source =>
    intro same
    have source_eq : source = tracked.source := by
      have := congrArg TrackedPeerPath.source (Option.some.inj same)
      simpa [TrackedPeerPath.announce, merge_self] using this
    have mem : (endpoint, source) ∈ announcementEndpoints a := mem_of_lookup announced
    refine dropped ?_
    have kind : source ≠ .Observed := by
      rcases mem_announcementEndpoints mem with ⟨-, kind⟩ | ⟨-, kind⟩ | ⟨-, kind⟩ | ⟨-, kind⟩ <;>
        rw [show source = _ from kind] <;> decide
    have relay : tracked.source = .Relay →
        endpoint ∈ ((announcementEndpoints a).filter fun e => e.2 == PeerPathSource.Relay).map Prod.fst := by
      intro relay
      refine List.mem_map.mpr ⟨(endpoint, source), List.mem_filter.mpr ⟨mem, ?_⟩, rfl⟩
      simp [source_eq, relay]
    simp only [keptByRefresh, observedEndpointSupersededByAnnouncement, ← source_eq]
    by_cases isRelay : source = .Relay
    · simpa [isRelay] using relay (source_eq ▸ isRelay)
    · simp [isRelay, kind]

theorem lookup_of_mem {announced : List (String × PeerPathSource)} (nodup : (announced.map Prod.fst).Nodup)
    {entry : String × PeerPathSource} (mem : entry ∈ announced) : announced.lookup entry.1 = some entry.2 := by
  obtain ⟨before, after, rfl⟩ := List.mem_iff_append.mp mem
  refine List.lookup_eq_some_iff.mpr ⟨before, after, rfl, fun other listed => ?_⟩
  rw [List.map_append, List.map_cons, List.nodup_append] at nodup
  have apart := nodup.2.2 other.1 (List.mem_map_of_mem listed) entry.1 (by simp)
  simpa using Ne.symm apart

theorem currentEndpoint_refresh : (state.refresh a seenAt).currentEndpoint =
    (state.retainPaths (keptByRefresh a seenAt)).currentEndpoint :=
  currentEndpoint_foldl_refreshEndpoint _ _ _

/-- A refresh changes the contents of a state when it sets the flag or inserts an endpoint. -/
theorem contents_refresh_ne : (state.refresh a seenAt).contents ≠ state.contents ↔
    state.Refreshes a seenAt ∨
      ∃ announced ∈ announcementEndpoints a, state.endpoints.lookup announced.1 = none := by
  simp only [Ne, contents_eq_iff, lookup_endpoints_refresh, currentEndpoint_refresh, currentEndpoint_retainPaths,
    lookup_retainPaths]
  constructor
  · intro changed
    by_contra none'
    simp only [Refreshes, Updates] at none'
    push Not at none'
    obtain ⟨⟨kept, current, same⟩, tracked⟩ := none'
    have keeps (endpoint : String) : (state.endpoints.lookup endpoint).filter (keptByRefresh a seenAt endpoint) =
        state.endpoints.lookup endpoint := by
      cases found : state.endpoints.lookup endpoint with
      | none => rfl
      | some path => exact Option.filter_some_pos (kept endpoint path found)
    refine changed ⟨?_, fun endpoint => ?_⟩
    · simp only [keeps]
      cases at' : state.currentEndpoint with
      | none => rfl
      | some endpoint => exact Option.filter_some_pos (Option.isSome_iff_ne_none.mpr (current endpoint at'))
    · unfold refreshedPath
      rw [keeps]
      dsimp only
      cases announced : (announcementEndpoints a).lookup endpoint with
      | none => rfl
      | some source =>
        have mem := mem_of_lookup announced
        cases found : state.endpoints.lookup endpoint with
        | none => exact absurd found (tracked _ mem)
        | some path =>
          obtain ⟨merged, newer⟩ := same _ mem path found
          have time : max path.announcedAt seenAt = path.announcedAt := Nat.max_eq_left newer
          simp only [TrackedPeerPath.announce, Option.getD_some, time]
          rw [show path.source.merge source = path.source from merged]
  · rintro ((⟨endpoint, path, found, dropped⟩ | ⟨current, at', untracked⟩ | ⟨entry, mem, path, found, updates⟩) |
      ⟨entry, mem, untracked⟩) ⟨same, kept⟩
    · exact refreshedPath_ne_of_dropped found dropped ((kept endpoint).trans found)
    · rw [at', Option.filter_eq_some_iff, untracked] at same
      simp at same
    · by_cases keeps : keptByRefresh a seenAt entry.1 path
      · have after := kept entry.1
        simp only [refreshedPath, found, Option.filter_some_pos keeps,
          lookup_of_mem (nodup_announcementEndpoints a) mem, TrackedPeerPath.announce, Option.getD_some,
          Option.some.injEq] at after
        rcases updates with merged | older
        · exact merged (congrArg TrackedPeerPath.source after)
        · have := congrArg TrackedPeerPath.announcedAt after
          simp only at this
          omega
      · exact refreshedPath_ne_of_dropped found keeps ((kept entry.1).trans found)
    · have after := kept entry.1
      simp [refreshedPath, untracked, lookup_of_mem (nodup_announcementEndpoints a) mem] at after

end PeerPathState

/-! ## The book -/

namespace PeerPathBook

variable {book : PeerPathBook} {participant : String}

theorem contents_insert_eq_iff {state : PeerPathState} :
    (⟨book.peers.insert participant state⟩ : PeerPathBook).contents = book.contents ↔
      book.contents participant = some state.contents := by
  constructor
  · intro same
    rw [← same]
    simp [contents]
  · intro found
    funext other
    by_cases eq : other = participant
    · subst eq
      rw [found]
      simp [contents]
    · simp [contents, AList.lookup_insert_ne eq]

/-- The flag of an operation on one entry is right for an unknown participant when it is set, and for a known
one when it is right for the entry. -/
theorem updateFlagged_tells {update : PeerPathState → PeerPathState × Bool} :
    ((book.updateFlagged participant update).2 = true ↔
      (book.updateFlagged participant update).1.contents ≠ book.contents) ↔
      match book.peers.lookup participant with
      | none => (update .default).2 = true
      | some state => (update state).2 = true ↔ (update state).1.contents ≠ state.contents := by
  simp only [updateFlagged, Ne, contents_insert_eq_iff]
  cases found : book.peers.lookup participant with
  | none => simp [contents, found]
  | some state => simp [contents, found, @eq_comm _ state.contents]

theorem pruneStaleFlagged_tells (now staleAfterSecs : Nat) :
    (book.pruneStaleFlagged now staleAfterSecs).2 = true ↔
      (book.pruneStaleFlagged now staleAfterSecs).1.contents ≠ book.contents := by
  unfold pruneStaleFlagged
  split_ifs with never
  · simp
  · generalize (fun (_ : String) (tracked : TrackedPeerPath) =>
      decide (now - staleAfterSecs < tracked.freshnessAt)) = keep
    have flag : ((book.peers.mapValues fun state => state.retainPathsFlagged keep).values.any
        fun (state, changed) => changed || state.endpoints.entries.isEmpty) = true ↔
        ∃ participant state, book.peers.lookup participant = some state ∧
          ((state.retainPathsFlagged keep).2 || (state.retainPathsFlagged keep).1.endpoints.entries.isEmpty) := by
      simp only [HashMap.values, HashMap.mapValues, HashMap.mapEntries, List.map_map, List.any_map, List.any_eq_true,
        Function.comp_apply]
      constructor
      · rintro ⟨⟨participant, state⟩, mem, changed⟩
        exact ⟨participant, state, AList.mem_lookup_iff.mpr mem, changed⟩
      · rintro ⟨participant, state, found, changed⟩
        exact ⟨⟨participant, state⟩, AList.mem_lookup_iff.mp found, changed⟩
    rw [flag, Ne, funext_iff]
    simp only [contents]
    push Not
    refine exists_congr fun participant => ?_
    cases found : book.peers.lookup participant with
    | none => simp [found]
    | some state =>
      have tells := @PeerPathState.retainPaths_tells state keep
      by_cases empty : (state.retainPathsFlagged keep).1.endpoints.entries.isEmpty
      · simp [found, Option.filter, List.isEmpty_iff.mp empty]
      · simp [found, Option.filter, mt List.isEmpty_iff.mpr empty, tells]

theorem removeRelayPathsFlagged_tells :
    (book.removeRelayPathsForParticipantFlagged participant).2 = true ↔
      (book.removeRelayPathsForParticipantFlagged participant).1.contents ≠ book.contents := by
  unfold removeRelayPathsForParticipantFlagged
  cases found : book.peers.lookup participant with
  | none => simp
  | some state =>
    dsimp only
    split_ifs with empty
    · refine iff_of_true rfl fun same => ?_
      have gone := congrFun same participant
      simp [contents, found] at gone
    · refine (state.retainPaths_tells _).trans (not_congr ?_)
      rw [contents_insert_eq_iff]
      simp [contents, found, @eq_comm _ state.contents]

end PeerPathBook

/-- The flag of a call on a path book tells whether the contents changed exactly for the calls that
`FlagCovers` names. -/
theorem PathCall.flagTells_iff (book : PeerPathBook) (call : PathCall) :
    call.FlagTells book ↔ call.FlagCovers book := by
  unfold FlagTells
  cases call with
  | refreshFromAnnouncement participant a seenAt =>
    simp only [apply, FlagCovers]
    rw [PeerPathBook.updateFlagged_tells]
    cases found : book.peers.lookup participant with
    | none =>
      have none' : ¬ PeerPathState.default.Refreshes a seenAt := by
        simp [PeerPathState.Refreshes, PeerPathState.Updates, PeerPathState.default]
      simpa [PeerPathState.refreshFlagged_snd] using none'
    | some state =>
      simp only [PeerPathState.refreshFlagged_snd, PeerPathState.refreshFlagged_fst,
        PeerPathState.contents_refresh_ne, Option.some.injEq, exists_eq_left']
      by_cases refreshes : state.Refreshes a seenAt <;> simp [refreshes]
  | noteSelected participant endpoint selectedAt =>
    simp only [apply, FlagCovers]
    rw [PeerPathBook.updateFlagged_tells]
    refine iff_of_true ?_ trivial
    cases found : book.peers.lookup participant with
    | none => simp [PeerPathState.noteSelectedFlagged, PeerPathState.default]
    | some state => exact PeerPathState.noteSelected_tells endpoint selectedAt
  | noteSuccess participant endpoint successAt =>
    simp only [apply, FlagCovers]
    rw [PeerPathBook.updateFlagged_tells]
    cases found : book.peers.lookup participant with
    | none =>
      rcases Nat.eq_zero_or_pos successAt with rfl | later
      · simp [PeerPathState.noteSuccessFlagged, PeerPathState.default]
      · simp [PeerPathState.noteSuccessFlagged, PeerPathState.default, later, Nat.not_le.mpr later]
    | some state =>
      refine PeerPathState.noteSuccess_tells.trans ?_
      simp
  | pruneStale now staleAfterSecs =>
    exact iff_of_true (PeerPathBook.pruneStaleFlagged_tells now staleAfterSecs) trivial
  | removeRelayPathsForParticipant participant =>
    exact iff_of_true PeerPathBook.removeRelayPathsFlagged_tells trivial

/-! ## A new endpoint -/

def directAnnouncement : PeerAnnouncement where
  nodeId := "peer-a"
  publicKey := "pk"
  endpoint := "203.0.113.20:51820"
  tunnelIp := "10.44.0.2/32"
  timestamp := 10

/-- The announcement of a new peer inserts its endpoint and reports no change. -/
theorem new_endpoint_unflagged :
    ¬ (PathCall.refreshFromAnnouncement "peer-a" directAnnouncement 10).FlagTells ⟨∅⟩ := by
  intro tells
  have silent : ¬ ((PathCall.refreshFromAnnouncement "peer-a" directAnnouncement 10).apply ⟨∅⟩).2 = true := by
    decide +kernel
  have inserted : (((PathCall.refreshFromAnnouncement "peer-a" directAnnouncement 10).apply
      ⟨∅⟩).1.contents "peer-a").isSome := by decide +kernel
  refine silent (tells.mpr fun same => ?_)
  rw [same] at inserted
  simp [PeerPathBook.contents] at inserted

end NostrVpn.Core
