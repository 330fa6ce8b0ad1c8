import NostrVpn.Core.PathFlags
import NostrVpn.Transition

/-!
# What a refresh forgets

A refresh drops entries of the book before it inserts the announced endpoints, so an endpoint can lose its
history in the call that announces it, and a relay endpoint can outlast its withdrawal.
-/
namespace NostrVpn.Core

open Rust Paths Transition

/-! ## The history of announced endpoints -/

/-- The entry of a participant, which `refresh_from_announcement` inserts when there is none. -/
def PeerPathBook.stateOf (book : PeerPathBook) (participant : String) : PeerPathState :=
  (book.peers.lookup participant).getD .default

def TrackedPeerPath.SameHistory (tracked other : TrackedPeerPath) : Prop :=
  other.lastSelectedAt = tracked.lastSelectedAt ∧ other.lastSuccessAt = tracked.lastSuccessAt

/-- A refresh keeps the success and selection times of the announced endpoints, and the current endpoint
when it is one of them. -/
def RefreshKeepsHistory (book : PeerPathBook) (participant : String) (a : PeerAnnouncement) (seenAt : Nat) :
    Prop :=
  let before := book.stateOf participant
  let after := (book.refreshFromAnnouncement participant a seenAt).stateOf participant
  ∀ endpoint ∈ (announcementEndpoints a).map Prod.fst,
    (∀ tracked, before.endpoints.lookup endpoint = some tracked →
      ∃ tracked', after.endpoints.lookup endpoint = some tracked' ∧ tracked.SameHistory tracked') ∧
    (before.currentEndpoint = some endpoint → after.currentEndpoint = some endpoint)

/-- The filter of the refresh keeps every announced endpoint with a history, and the current endpoint is
tracked when it is announced. -/
def FilterKeepsHistory (state : PeerPathState) (a : PeerAnnouncement) (seenAt : Nat) : Prop :=
  ∀ endpoint ∈ (announcementEndpoints a).map Prod.fst,
    (∀ tracked, state.endpoints.lookup endpoint = some tracked →
      tracked.lastSelectedAt ≠ none ∨ tracked.lastSuccessAt ≠ none ∨ state.currentEndpoint = some endpoint →
        keptByRefresh a seenAt endpoint tracked) ∧
    (state.currentEndpoint = some endpoint → (state.endpoints.lookup endpoint).isSome)

theorem stateOf_refresh (book : PeerPathBook) (participant : String) (a : PeerAnnouncement) (seenAt : Nat) :
    (book.refreshFromAnnouncement participant a seenAt).stateOf participant =
      (book.stateOf participant).refresh a seenAt := by
  rw [PeerPathBook.stateOf, PeerPathBook.lookup_refresh, Option.getD_some, PeerPathBook.stateOf]

/-- The entry of an announced endpoint has the history of the entry that the filter kept. -/
theorem sameHistory_refresh {state : PeerPathState} {a : PeerAnnouncement} {seenAt : Nat} {endpoint : String}
    (announced : endpoint ∈ (announcementEndpoints a).map Prod.fst) {tracked : TrackedPeerPath}
    (found : state.endpoints.lookup endpoint = some tracked) :
    (∃ tracked', (state.refresh a seenAt).endpoints.lookup endpoint = some tracked' ∧
        tracked.SameHistory tracked') ↔
      keptByRefresh a seenAt endpoint tracked ∨ tracked.lastSelectedAt = none ∧ tracked.lastSuccessAt = none := by
  obtain ⟨entry, mem, rfl⟩ := List.mem_map.mp announced
  have source := PeerPathState.lookup_of_mem (nodup_announcementEndpoints a) mem
  simp only [PeerPathState.lookup_endpoints_refresh, PeerPathState.refreshedPath, found, source,
    Option.some.injEq, exists_eq_left']
  by_cases kept : keptByRefresh a seenAt entry.1 tracked
  · simp [kept, Option.filter, TrackedPeerPath.announce, TrackedPeerPath.SameHistory]
  · simp [kept, Option.filter, TrackedPeerPath.announce, TrackedPeerPath.SameHistory, eq_comm]

theorem current_refresh_iff {state : PeerPathState} {a : PeerAnnouncement} {seenAt : Nat} {endpoint : String}
    (current : state.currentEndpoint = some endpoint) :
    (state.refresh a seenAt).currentEndpoint = some endpoint ↔
      ∃ tracked, state.endpoints.lookup endpoint = some tracked ∧ keptByRefresh a seenAt endpoint tracked := by
  rw [PeerPathState.currentEndpoint_refresh, PeerPathState.currentEndpoint_retainPaths, current,
    Option.filter_eq_some_iff, PeerPathState.lookup_retainPaths]
  cases found : state.endpoints.lookup endpoint with
  | none => simp
  | some tracked => by_cases kept : keptByRefresh a seenAt endpoint tracked <;> simp [kept]

/-- A refresh keeps the history of what it announces exactly when its filter does. -/
theorem refresh_keeps_history_iff (book : PeerPathBook) (participant : String) (a : PeerAnnouncement)
    (seenAt : Nat) :
    RefreshKeepsHistory book participant a seenAt ↔ FilterKeepsHistory (book.stateOf participant) a seenAt := by
  simp only [RefreshKeepsHistory, FilterKeepsHistory, stateOf_refresh]
  refine forall₂_congr fun endpoint announced => ?_
  constructor
  · rintro ⟨history, current⟩
    refine ⟨fun tracked found recorded => ?_, fun at' => ?_⟩
    · rcases (sameHistory_refresh announced found).mp (history tracked found) with kept | ⟨unselected, failed⟩
      · exact kept
      · obtain ⟨path, found', kept⟩ := (current_refresh_iff ((recorded.resolve_left (absurd unselected)).resolve_left
          (absurd failed))).mp (current ((recorded.resolve_left (absurd unselected)).resolve_left (absurd failed)))
        obtain rfl := Option.some.inj (found.symm.trans found')
        exact kept
    · obtain ⟨tracked, found, -⟩ := (current_refresh_iff at').mp (current at')
      exact Option.isSome_iff_exists.mpr ⟨tracked, found⟩
  · rintro ⟨kept, tracked⟩
    refine ⟨fun path found => (sameHistory_refresh announced found).mpr ?_, fun at' => ?_⟩
    · by_cases unselected : path.lastSelectedAt = none
      · by_cases failed : path.lastSuccessAt = none
        · exact Or.inr ⟨unselected, failed⟩
        · exact Or.inl (kept path found (Or.inr (Or.inl failed)))
      · exact Or.inl (kept path found (Or.inl unselected))
    · obtain ⟨path, found⟩ := Option.isSome_iff_exists.mp (tracked at')
      exact (current_refresh_iff at').mpr ⟨path, found, kept path found (Or.inr (Or.inr at'))⟩

def relayedAnnouncement : PeerAnnouncement :=
  { directAnnouncement with endpoint := "198.51.100.7:51820", relayEndpoint := some "203.0.113.20:51820" }

/-- A book in which the relay endpoint of a peer has had a success. -/
def relayedBook : PeerPathBook :=
  ((⟨∅⟩ : PeerPathBook).refreshFromAnnouncement "peer-a" relayedAnnouncement 100).noteSuccess
    "peer-a" "203.0.113.20:51820" 120

/-- A relay endpoint that is announced as the peer's own loses its success. -/
theorem relay_announced_directly_is_forgotten :
    ¬ RefreshKeepsHistory relayedBook "peer-a" directAnnouncement 130 := by
  intro keeps
  have announced : "203.0.113.20:51820" ∈ (announcementEndpoints directAnnouncement).map Prod.fst := by
    decide +kernel
  have tracked : (relayedBook.stateOf "peer-a").endpoints.lookup "203.0.113.20:51820" =
      some ⟨.Relay, 100, none, some 120⟩ := by decide +kernel
  have after : ((relayedBook.refreshFromAnnouncement "peer-a" directAnnouncement 130).stateOf
      "peer-a").endpoints.lookup "203.0.113.20:51820" = some ⟨.Legacy, 130, none, none⟩ := by decide +kernel
  obtain ⟨path, found, -, success⟩ := (keeps _ announced).1 _ tracked
  obtain rfl := Option.some.inj (after.symm.trans found)
  cases success

/-! ## The withdrawal of a relay -/

/-- The operations of a path book. -/
inductive PathOp where
  | refreshFromAnnouncement (participant : String) (a : PeerAnnouncement) (seenAt : Nat)
  | noteSelected (participant endpoint : String) (selectedAt : Nat)
  | noteSuccess (participant endpoint : String) (successAt : Nat)
  | pruneStale (now staleAfterSecs : Nat)
  | retainParticipants (participants : List String)
  | removeRelayPathsForParticipant (participant : String)
  | clear

def PathOp.apply (book : PeerPathBook) : PathOp → PeerPathBook
  | .refreshFromAnnouncement participant a seenAt => book.refreshFromAnnouncement participant a seenAt
  | .noteSelected participant endpoint selectedAt => book.noteSelected participant endpoint selectedAt
  | .noteSuccess participant endpoint successAt => book.noteSuccess participant endpoint successAt
  | .pruneStale now staleAfterSecs => book.pruneStale now staleAfterSecs
  | .retainParticipants participants => book.retainParticipants participants
  | .removeRelayPathsForParticipant participant => book.removeRelayPathsForParticipant participant
  | .clear => ⟨∅⟩

def PeerPathBook.tracked (book : PeerPathBook) (participant endpoint : String) : Option TrackedPeerPath :=
  (book.stateOf participant).endpoints.lookup endpoint

/-- Every announcement of the endpoint by the participant lists it as its relay. -/
def PathOp.OnlyRelay (participant endpoint : String) : PathOp → Prop
  | .refreshFromAnnouncement by' a _ => by' = participant →
      ∀ source, (endpoint, source) ∈ announcementEndpoints a → source = .Relay
  | _ => True

/-- A selection or a success of the endpoint is recorded while the book tracks it. -/
def PathOp.RecordsTracked (participant endpoint : String) (book : PeerPathBook) : PathOp → Prop
  | .noteSelected of other _ | .noteSuccess of other _ => of = participant → other = endpoint →
      (book.tracked participant endpoint).isSome
  | _ => True

/-- The operation withdraws the endpoint when it was a relay of the participant. -/
def PathOp.Withdraws (participant endpoint : String) : PathOp → Prop
  | .refreshFromAnnouncement by' a _ => by' = participant ∧ endpoint ∉ (announcementEndpoints a).map Prod.fst
  | .removeRelayPathsForParticipant of => of = participant
  | _ => False

/-- The announcement gives the endpoint as nothing but its relay. -/
structure NoDirectEndpoint (a : PeerAnnouncement) (endpoint : String) : Prop where
  notLocal : a.localEndpoint ≠ some endpoint
  notPublic : a.publicEndpoint ≠ some endpoint
  notEndpoint : a.endpoint ≠ endpoint

/-- No selection for the participant gives the endpoint. -/
def PeerPathBook.NotSelectable (book : PeerPathBook) (participant endpoint : String) : Prop :=
  ∀ a, NoDirectEndpoint a endpoint → ∀ ownLocalEndpoints now retryAfterSecs,
    book.selectEndpointForLocalEndpoints participant a ownLocalEndpoints now retryAfterSecs ≠ some endpoint

/-- After the operation, the endpoint is not selected if it was withdrawn. -/
def PathOp.WithdrawalHolds (participant endpoint : String) (book : PeerPathBook) (op : PathOp) : Prop :=
  op.Withdraws participant endpoint → (op.apply book).NotSelectable participant endpoint

/-- The book tracks the endpoint as a relay or not at all. -/
def PeerPathBook.AtMostRelay (book : PeerPathBook) (participant endpoint : String) : Prop :=
  ∀ tracked, book.tracked participant endpoint = some tracked → tracked.source = .Relay

section Steps
variable {book : PeerPathBook} {participant endpoint : String}

theorem defaultEndpoint_ne {a : PeerAnnouncement} (relayed : NoDirectEndpoint a endpoint)
    (ownLocalEndpoints : List String) : selectPeerEndpointFromLocalEndpoints a ownLocalEndpoints ≠ endpoint := by
  obtain ⟨notLocal, notPublic, notEndpoint⟩ := relayed
  have direct : a.directEndpoint ≠ endpoint := by
    unfold PeerAnnouncement.directEndpoint
    cases public' : a.publicEndpoint with
    | none => simpa using notEndpoint
    | some value => rw [Option.filter_some]; split_ifs <;> simp_all
  unfold selectPeerEndpointFromLocalEndpoints
  cases local' : a.localEndpoint with
  | none => exact direct
  | some value => dsimp only; split_ifs <;> simp_all

/-- What the book does not track is not selected. -/
theorem notSelectable_of_untracked (untracked : book.tracked participant endpoint = none) :
    book.NotSelectable participant endpoint := by
  intro a relayed ownLocalEndpoints now retryAfterSecs selected
  have other := defaultEndpoint_ne relayed ownLocalEndpoints
  unfold PeerPathBook.selectEndpointForLocalEndpoints at selected
  cases found : book.peers.lookup participant with
  | none =>
    rw [found] at selected
    exact other (Option.some.inj selected)
  | some state =>
    rw [found] at selected
    dsimp only at selected
    split_ifs at selected
    · exact other (Option.some.inj selected)
    · obtain ⟨tracked, listed⟩ := PeerPathState.lookup_of_selectEndpoint selected
      rw [PeerPathBook.tracked, PeerPathBook.stateOf, found, Option.getD_some, listed] at untracked
      cases untracked

theorem tracked_upsert (f : PeerPathState → PeerPathState) (participant : String) :
    (⟨book.peers.upsert participant .default f⟩ : PeerPathBook).tracked participant endpoint =
      (f (book.stateOf participant)).endpoints.lookup endpoint := by
  simp [PeerPathBook.tracked, PeerPathBook.stateOf]

theorem tracked_upsert_ne (f : PeerPathState → PeerPathState) {other : String} (ne : participant ≠ other) :
    (⟨book.peers.upsert other .default f⟩ : PeerPathBook).tracked participant endpoint =
      book.tracked participant endpoint := by
  simp [PeerPathBook.tracked, PeerPathBook.stateOf, HashMap.lookup_upsert_ne ne]

/-- A call that only removes keeps no entry that was not there. -/
theorem tracked_of_removal {op : PathOp} {path : TrackedPeerPath}
    (removes : ∀ of a seenAt, op ≠ .refreshFromAnnouncement of a seenAt)
    (unselected : ∀ of other at', op ≠ .noteSelected of other at')
    (unsuccessful : ∀ of other at', op ≠ .noteSuccess of other at')
    (found : (op.apply book).tracked participant endpoint = some path) :
    book.tracked participant endpoint = some path := by
  simp only [PeerPathBook.tracked, PeerPathBook.stateOf] at found ⊢
  cases op with
  | refreshFromAnnouncement of a seenAt => exact absurd rfl (removes of a seenAt)
  | noteSelected of other at' => exact absurd rfl (unselected of other at')
  | noteSuccess of other at' => exact absurd rfl (unsuccessful of other at')
  | pruneStale now staleAfterSecs =>
    simp only [PathOp.apply, PeerPathBook.pruneStale] at found
    split_ifs at found
    · exact found
    · cases old : book.peers.lookup participant with
      | none => simp [old, PeerPathState.default] at found
      | some state =>
        simp only [HashMap.lookup_retain, HashMap.lookup_mapValues, old, Option.map_some,
          Option.filter_some] at found
        split_ifs at found
        · rw [Option.getD_some, PeerPathState.lookup_retainPaths, Option.filter_eq_some_iff] at found
          exact found.1
        · simp [PeerPathState.default] at found
  | retainParticipants participants =>
    simp only [PathOp.apply, PeerPathBook.retainParticipants, HashMap.lookup_retain] at found
    cases old : book.peers.lookup participant with
    | none => simp [old, PeerPathState.default] at found
    | some state =>
      rw [old, Option.filter_some] at found
      split_ifs at found
      · exact found
      · simp [PeerPathState.default] at found
  | removeRelayPathsForParticipant of =>
    simp only [PathOp.apply, PeerPathBook.removeRelayPathsForParticipant] at found
    cases old : book.peers.lookup of with
    | none => simpa only [old] using found
    | some state =>
      simp only [old] at found
      by_cases here : participant = of
      · subst here
        rw [old]
        split_ifs at found
        · simp [PeerPathState.default] at found
        · simp only [AList.lookup_insert, Option.getD_some, PeerPathState.lookup_retainPaths,
            Option.filter_eq_some_iff] at found
          exact found.1
      · split_ifs at found
        · simpa only [AList.lookup_erase_ne here] using found
        · simpa only [AList.lookup_insert_ne here] using found
  | clear => simp [PathOp.apply, PeerPathState.default] at found

/-- The call keeps the endpoint a relay. -/
theorem atMostRelay_apply {op : PathOp} (relay : book.AtMostRelay participant endpoint)
    (only : op.OnlyRelay participant endpoint) (recorded : op.RecordsTracked participant endpoint book) :
    (op.apply book).AtMostRelay participant endpoint := by
  intro path found
  cases op with
  | refreshFromAnnouncement of a seenAt =>
    by_cases here : participant = of
    · subst here
      rw [PeerPathBook.tracked, PathOp.apply, stateOf_refresh, PeerPathState.lookup_endpoints_refresh] at found
      unfold PeerPathState.refreshedPath at found
      have kept (path : TrackedPeerPath) (mem : ((book.stateOf participant).endpoints.lookup endpoint).filter
          (keptByRefresh a seenAt endpoint) = some path) : path.source = .Relay :=
        relay path (Option.filter_eq_some_iff.mp mem).1
      cases announced : (announcementEndpoints a).lookup endpoint with
      | none => exact kept path (by simpa [announced] using found)
      | some source =>
        obtain rfl : source = .Relay := only rfl source (PeerPathState.mem_of_lookup announced)
        simp only [announced, Option.some.injEq] at found
        subst found
        cases old : ((book.stateOf participant).endpoints.lookup endpoint).filter
            (keptByRefresh a seenAt endpoint) with
        | none => rfl
        | some entry => simp [TrackedPeerPath.announce, kept entry old, PeerPathSource.merge]
    · rw [PathOp.apply, PeerPathBook.refreshFromAnnouncement, tracked_upsert_ne _ here] at found
      exact relay path found
  | noteSelected of other at' =>
    by_cases here : participant = of
    · subst here
      rw [PathOp.apply, PeerPathBook.noteSelected, tracked_upsert, PeerPathState.noteSelected] at found
      by_cases same : endpoint = other
      · subst same
        obtain ⟨entry, old⟩ := Option.isSome_iff_exists.mp (recorded rfl rfl)
        rw [PeerPathBook.tracked] at old
        rw [AList.lookup_insert, old, Option.some.injEq] at found
        exact found ▸ relay entry old
      · rw [AList.lookup_insert_ne same] at found
        exact relay path found
    · rw [PathOp.apply, PeerPathBook.noteSelected, tracked_upsert_ne _ here] at found
      exact relay path found
  | noteSuccess of other at' =>
    by_cases here : participant = of
    · subst here
      rw [PathOp.apply, PeerPathBook.noteSuccess, tracked_upsert, PeerPathState.noteSuccess] at found
      by_cases same : endpoint = other
      · subst same
        obtain ⟨entry, old⟩ := Option.isSome_iff_exists.mp (recorded rfl rfl)
        rw [PeerPathBook.tracked] at old
        rw [AList.lookup_insert, old, Option.some.injEq] at found
        exact found ▸ relay entry old
      · rw [AList.lookup_insert_ne same] at found
        exact relay path found
    · rw [PathOp.apply, PeerPathBook.noteSuccess, tracked_upsert_ne _ here] at found
      exact relay path found
  | _ => exact relay path (tracked_of_removal (by simp) (by simp) (by simp) found)

/-- A withdrawn relay is forgotten. -/
theorem untracked_of_withdraws {op : PathOp} (relay : book.AtMostRelay participant endpoint)
    (withdraws : op.Withdraws participant endpoint) :
    (op.apply book).tracked participant endpoint = none := by
  cases op with
  | refreshFromAnnouncement of a seenAt =>
    obtain ⟨rfl, unannounced⟩ := withdraws
    rw [PeerPathBook.tracked, PathOp.apply, stateOf_refresh, PeerPathState.lookup_endpoints_refresh]
    exact PeerPathState.refreshedPath_eq_none_of_relay unannounced relay
  | removeRelayPathsForParticipant of =>
    obtain rfl : of = participant := withdraws
    simp only [PeerPathBook.tracked, PeerPathBook.AtMostRelay, PeerPathBook.stateOf, PathOp.apply,
      PeerPathBook.removeRelayPathsForParticipant] at relay ⊢
    cases found : book.peers.lookup of with
    | none => simp [found, PeerPathState.default]
    | some state =>
      rw [found, Option.getD_some] at relay
      dsimp only
      split_ifs with empty
      · simp [PeerPathState.default]
      · rw [AList.lookup_insert, Option.getD_some, PeerPathState.lookup_retainPaths,
          Option.filter_eq_none_iff]
        intro tracked listed
        simp [relay tracked listed]
  | _ => exact withdraws.elim

/-- In a run that records selections and successes of a relay endpoint only while it is tracked, the endpoint
is not selected after it is withdrawn. -/
theorem relay_withdrawal_along {ops : List PathOp} (relay : book.AtMostRelay participant endpoint)
    (only : ∀ op ∈ ops, op.OnlyRelay participant endpoint)
    (recorded : Along PathOp.apply (fun book op => op.RecordsTracked participant endpoint book) book ops) :
    Along PathOp.apply (fun book op => op.WithdrawalHolds participant endpoint book) book ops :=
  @Along.strengthen _ _ _ (fun book => book.AtMostRelay participant endpoint) _ _
    (fun _ _ relay guard => atMostRelay_apply relay guard.1 guard.2)
    (fun _ _ relay _ withdraws => notSelectable_of_untracked (untracked_of_withdraws relay withdraws))
    _ _ relay ((Along.of_forall fun op mem _ => only op mem).and recorded)

end Steps

def withdrawnAnnouncement : PeerAnnouncement := { relayedAnnouncement with relayEndpoint := none }

def announcesRelay : PathOp := .refreshFromAnnouncement "peer-a" relayedAnnouncement 100

def withdrawsRelay (seenAt : Nat) : PathOp := .refreshFromAnnouncement "peer-a" withdrawnAnnouncement seenAt

/-- The sample announcements give the relay endpoint as a relay. -/
theorem onlyRelay_sample : announcesRelay.OnlyRelay "peer-a" "203.0.113.20:51820" ∧
    ∀ seenAt, (withdrawsRelay seenAt).OnlyRelay "peer-a" "203.0.113.20:51820" := by
  have relayed : announcementEndpoints relayedAnnouncement =
      [("203.0.113.20:51820", .Relay), ("198.51.100.7:51820", .Legacy)] := by decide +kernel
  have withdrawn : announcementEndpoints withdrawnAnnouncement = [("198.51.100.7:51820", .Legacy)] := by
    decide +kernel
  refine ⟨fun _ source mem => ?_, fun seenAt _ source mem => ?_⟩
  · rw [relayed] at mem
    simpa using mem
  · rw [withdrawn] at mem
    simp at mem

theorem relay_withdrawal_along_sample :
    Along PathOp.apply (fun book op => op.WithdrawalHolds "peer-a" "203.0.113.20:51820" book) ⟨∅⟩
      [announcesRelay, .noteSelected "peer-a" "203.0.113.20:51820" 101,
        .noteSuccess "peer-a" "203.0.113.20:51820" 120, withdrawsRelay 140] := by
  refine relay_withdrawal_along ?_ ?_ ?_
  · exact fun tracked found => by simp [PeerPathBook.tracked, PeerPathBook.stateOf, PeerPathState.default] at found
  · simp only [List.mem_cons, List.not_mem_nil, or_false, forall_eq_or_imp, forall_eq]
    exact ⟨onlyRelay_sample.1, trivial, trivial, onlyRelay_sample.2 140⟩
  · exact ⟨trivial, fun _ _ => by decide +kernel, fun _ _ => by decide +kernel, trivial, trivial⟩

/-- The tunnel still reports a success of a relay that was withdrawn: the next withdrawal leaves the endpoint in
the book, as an observed one. -/
theorem withdrawn_relay_is_selected :
    (∀ op ∈ [announcesRelay, withdrawsRelay 120, .noteSuccess "peer-a" "203.0.113.20:51820" 130,
        withdrawsRelay 140], op.OnlyRelay "peer-a" "203.0.113.20:51820") ∧
      ¬ Along PathOp.apply (fun book op => op.WithdrawalHolds "peer-a" "203.0.113.20:51820" book) ⟨∅⟩
        [announcesRelay, withdrawsRelay 120, .noteSuccess "peer-a" "203.0.113.20:51820" 130,
          withdrawsRelay 140] := by
  constructor
  · simp only [List.mem_cons, List.not_mem_nil, or_false, forall_eq_or_imp, forall_eq]
    exact ⟨onlyRelay_sample.1, onlyRelay_sample.2 120, trivial, onlyRelay_sample.2 140⟩
  · rintro ⟨-, -, -, withdrawal, -⟩
    have unannounced : "203.0.113.20:51820" ∉ (announcementEndpoints withdrawnAnnouncement).map Prod.fst := by
      decide +kernel
    have direct : NoDirectEndpoint withdrawnAnnouncement "203.0.113.20:51820" :=
      ⟨by decide, by decide, by decide⟩
    exact withdrawal ⟨rfl, unannounced⟩ withdrawnAnnouncement direct [] 150 10 (by decide +kernel)

end NostrVpn.Core
