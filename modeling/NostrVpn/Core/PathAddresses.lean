import NostrVpn.Core.PathSelection

/-!
# Path books of socket addresses

If every announced endpoint is a socket address, then so is every endpoint that a path book tracks, and
with it the endpoint that is selected.
-/
namespace NostrVpn.Core

open Rust Rust.Net Paths

/-- Every present endpoint is a socket address. -/
def PeerAnnouncement.Addressed (a : PeerAnnouncement) : Prop :=
  ∀ endpoint, a.endpoint = endpoint ∨ a.localEndpoint = some endpoint ∨ a.publicEndpoint = some endpoint ∨
    a.relayEndpoint = some endpoint → (SocketAddr.parse endpoint).isSome

def PeerPathState.Addressed (state : PeerPathState) : Prop :=
  ∀ endpoint tracked, state.endpoints.lookup endpoint = some tracked → (SocketAddr.parse endpoint).isSome

def PeerPathBook.Addressed (book : PeerPathBook) : Prop :=
  ∀ participant state, book.peers.lookup participant = some state → state.Addressed

namespace PeerPathState

variable {state : PeerPathState}

theorem addressed_default : PeerPathState.default.Addressed := by
  intro endpoint tracked found
  simp [PeerPathState.default] at found

theorem Addressed.refresh (addressed : state.Addressed) {a : PeerAnnouncement} (announced : a.Addressed)
    (seenAt : Nat) : (state.refresh a seenAt).Addressed := by
  intro endpoint tracked found
  rw [lookup_endpoints_refresh, refreshedPath] at found
  cases listed : (announcementEndpoints a).lookup endpoint with
  | none =>
    rw [listed] at found
    exact addressed endpoint tracked (Option.filter_eq_some_iff.mp found).1
  | some source =>
    obtain ⟨before, after, split, -⟩ := List.lookup_eq_some_iff.mp listed
    have mem : (endpoint, source) ∈ announcementEndpoints a := by rw [split]; simp
    refine announced endpoint ?_
    rcases mem_announcementEndpoints mem with h | h | h | h
    · exact Or.inr (Or.inl h.1)
    · exact Or.inr (Or.inr (Or.inl h.1))
    · exact Or.inr (Or.inr (Or.inr h.1))
    · exact Or.inl h.1

/-- An entry at a socket address. -/
theorem addressed_insert (addressed : state.Addressed) {endpoint : String} {tracked : TrackedPeerPath}
    (address : (SocketAddr.parse endpoint).isSome) {current : Option String} :
    PeerPathState.Addressed ⟨current, state.endpoints.insert endpoint tracked⟩ := by
  intro other path found
  by_cases here : other = endpoint
  · exact here ▸ address
  · exact addressed other path (by rwa [AList.lookup_insert_ne here] at found)

theorem Addressed.selectEndpoint (addressed : state.Addressed) {ownLocalEndpoints : List String}
    {defaultEndpoint endpoint : String} {now retryAfterSecs : Nat}
    (selected : state.selectEndpoint ownLocalEndpoints defaultEndpoint now retryAfterSecs = some endpoint) :
    (SocketAddr.parse endpoint).isSome := by
  obtain ⟨tracked, found⟩ := lookup_of_selectEndpoint selected
  exact addressed endpoint tracked found

end PeerPathState

theorem PeerAnnouncement.Addressed.selectPeerEndpoint {a : PeerAnnouncement} (addressed : a.Addressed)
    (ownLocalEndpoints : List String) :
    (SocketAddr.parse (selectPeerEndpointFromLocalEndpoints a ownLocalEndpoints)).isSome := by
  have direct : (SocketAddr.parse a.directEndpoint).isSome := by
    unfold PeerAnnouncement.directEndpoint
    cases shown : a.publicEndpoint.filter fun endpoint => !isBlank endpoint with
    | none => exact addressed _ (Or.inl rfl)
    | some endpoint =>
      exact addressed _ (Or.inr (Or.inr (Or.inl (Option.filter_eq_some_iff.mp shown).1)))
  unfold selectPeerEndpointFromLocalEndpoints
  cases at' : a.localEndpoint with
  | none => exact direct
  | some peerLocal =>
    dsimp only
    split_ifs
    · exact addressed _ (Or.inr (Or.inl at'))
    · exact direct

namespace PeerPathBook

variable {book : PeerPathBook}

theorem addressed_empty : PeerPathBook.Addressed ⟨∅⟩ := by
  intro participant state found
  simp at found

theorem Addressed.upsert (addressed : book.Addressed) (participant : String)
    {change : PeerPathState → PeerPathState} (keeps : ∀ state, state.Addressed → (change state).Addressed) :
    PeerPathBook.Addressed ⟨book.peers.upsert participant .default change⟩ := by
  intro other state found
  by_cases here : other = participant
  · subst here
    rw [HashMap.lookup_upsert] at found
    obtain rfl := Option.some.inj found
    refine keeps _ ?_
    cases old : book.peers.lookup other with
    | none => exact PeerPathState.addressed_default
    | some state => exact addressed other state old
  · exact addressed other state (by rwa [HashMap.lookup_upsert_ne here] at found)

theorem Addressed.refreshFromAnnouncement (addressed : book.Addressed) {a : PeerAnnouncement}
    (announced : a.Addressed) (participant : String) (seenAt : Nat) :
    (book.refreshFromAnnouncement participant a seenAt).Addressed :=
  addressed.upsert participant fun _ state => state.refresh announced seenAt

theorem Addressed.noteSelected (addressed : book.Addressed) {endpoint : String}
    (address : (SocketAddr.parse endpoint).isSome) (participant : String) (selectedAt : Nat) :
    (book.noteSelected participant endpoint selectedAt).Addressed :=
  addressed.upsert participant fun _ state => PeerPathState.addressed_insert state address

theorem Addressed.noteSuccess (addressed : book.Addressed) {endpoint : String}
    (address : (SocketAddr.parse endpoint).isSome) (participant : String) (successAt : Nat) :
    (book.noteSuccess participant endpoint successAt).Addressed :=
  addressed.upsert participant fun _ state => PeerPathState.addressed_insert state address

theorem Addressed.retainParticipants (addressed : book.Addressed) (participants : List String) :
    (book.retainParticipants participants).Addressed := by
  intro participant state found
  rw [PeerPathBook.retainParticipants, HashMap.lookup_retain] at found
  exact addressed participant state (Option.filter_eq_some_iff.mp found).1

end PeerPathBook

end NostrVpn.Core
