import NostrVpn.Core.Control
import NostrVpn.Rust.HashMap
import NostrVpn.Rust.Vec
import Mathlib.Data.Prod.Lex

/-!
# Peer path book

`nostr-vpn-core/src/paths.rs`: the endpoints known for each participant and the choice among them.
A `&mut self` operation returns the new book, with the flag the source returns when it has one.
-/
namespace NostrVpn.Core

open Rust Rust.Net

inductive PeerPathSource where
  | Local | Public | Relay | Legacy | Observed
  deriving DecidableEq, Repr

namespace PeerPathSource

/-- The derived order of the source, by declaration. -/
def ordinal : PeerPathSource → Nat
  | Local => 0 | Public => 1 | Relay => 2 | Legacy => 3 | Observed => 4

def merge (a b : PeerPathSource) : PeerPathSource := if a.ordinal < b.ordinal then b else a

def rank (source : PeerPathSource) (sameSubnetLocal : Bool) : Nat :=
  if source = Relay then 5
  else if sameSubnetLocal then 4
  else match source with
    | Public | Observed => 2
    | Legacy => 1
    | Local => 0
    | Relay => 5

end PeerPathSource

structure TrackedPeerPath where
  source : PeerPathSource
  announcedAt : Nat
  lastSelectedAt : Option Nat := none
  lastSuccessAt : Option Nat := none
  deriving DecidableEq, Repr

def TrackedPeerPath.freshnessAt (tracked : TrackedPeerPath) : Nat :=
  max (max tracked.announcedAt (tracked.lastSelectedAt.getD 0)) (tracked.lastSuccessAt.getD 0)

structure PeerPathState where
  currentEndpoint : Option String
  endpoints : HashMap String TrackedPeerPath

def PeerPathState.default : PeerPathState := ⟨none, ∅⟩

structure PeerPathBook where
  peers : HashMap String PeerPathState

def observedPublicEndpointStickySecs : Nat := 180

namespace Paths

def endpointHostText (endpoint : String) : String :=
  trimEndMatches ']' (trimStartMatches '[' (trim ((rsplitOnce ':' endpoint).elim endpoint Prod.fst)))

def ipIsLocalOnly : IpAddr → Bool
  | .v4 ip => isPrivateIpv4 ip || ip.isLoopback
  | .v6 ip => ip.isLoopback || ip.isUnicastLinkLocal || ip.isUniqueLocal

def endpointIsLocalOnly (endpoint : String) : Bool :=
  match IpAddr.parse (endpointHostText endpoint) with
  | some ip => ipIsLocalOnly ip
  | none => eqIgnoreAsciiCase (endpointHostText endpoint) "localhost"

def endpointHost (endpoint : String) : Option String :=
  (SocketAddr.parse endpoint).map fun addr => addr.ip.fmt

def pathSuccessStillApplies (endpoint : String) (tracked : TrackedPeerPath)
    (sameSubnetLocal : Bool) : Bool :=
  tracked.lastSuccessAt.isSome && (!endpointIsLocalOnly endpoint || sameSubnetLocal)

/-- The announced endpoints in the order of their kinds; the first kind of an endpoint wins. -/
def announcementEndpoints (a : PeerAnnouncement) : List (String × PeerPathSource) :=
  let kinds := [(a.localEndpoint, PeerPathSource.Local), (a.publicEndpoint, .Public),
    (a.relayEndpoint, .Relay), (some a.endpoint, .Legacy)]
  kinds.foldl (fun out (endpoint, source) =>
    match endpoint with
    | some endpoint =>
      if isBlank endpoint || out.any (fun e => e.1 == endpoint) then out
      else out ++ [(endpoint, source)]
    | none => out) []

def observedEndpointSupersededByAnnouncement (endpoint : String) (tracked : TrackedPeerPath)
    (announced : List (String × PeerPathSource)) (seenAt : Nat) : Bool :=
  if tracked.source ≠ .Observed ∨ endpointIsLocalOnly endpoint then false
  else if tracked.lastSuccessAt.any fun at' => seenAt - at' ≤ observedPublicEndpointStickySecs then
    false
  else match endpointHost endpoint with
    | none => false
    | some observedHost => announced.any fun (other, source) =>
      source != .Observed && !endpointIsLocalOnly other && endpoint != other &&
        endpointHost other == some observedHost

/-- The key of the choice, compared lexicographically. -/
def candidateRank (endpoint : String) (tracked : TrackedPeerPath) (ownLocalEndpoints : List String)
    (defaultEndpoint : String) : Nat ×ₗ Nat ×ₗ Nat ×ₗ Nat :=
  let sameSubnetLocal := endpointSharesPrivateIpv4Subnet endpoint ownLocalEndpoints
  let lastSuccessAt := if pathSuccessStillApplies endpoint tracked sameSubnetLocal then
    tracked.lastSuccessAt.getD 0 else 0
  toLex (lastSuccessAt, toLex (tracked.source.rank sameSubnetLocal,
    toLex ((endpoint == defaultEndpoint).toNat, tracked.announcedAt)))

end Paths

open Paths

namespace PeerPathState

/-- Forget the current endpoint when it is no longer tracked. -/
def dropStaleCurrent (state : PeerPathState) : PeerPathState :=
  { state with currentEndpoint := state.currentEndpoint.filter fun e => state.endpoints.keys.contains e }

/-- `retain` on the endpoints, followed by the check of the current one. -/
def retainPaths (state : PeerPathState) (keep : String → TrackedPeerPath → Bool) : PeerPathState :=
  ({ state with endpoints := state.endpoints.retain keep } : PeerPathState).dropStaleCurrent

def refreshEndpoint (state : PeerPathState) (endpoint : String) (source : PeerPathSource)
    (seenAt : Nat) : PeerPathState :=
  let entry := (state.endpoints.lookup endpoint).getD ⟨source, seenAt, none, none⟩
  let entry := { entry with
    source := entry.source.merge source
    announcedAt := max entry.announcedAt seenAt }
  { state with endpoints := state.endpoints.insert endpoint entry }

/-- The body of `refresh_from_announcement` on one participant. -/
def refresh (state : PeerPathState) (a : PeerAnnouncement) (seenAt : Nat) : PeerPathState :=
  let announced := announcementEndpoints a
  let relays := (announced.filter fun e => e.2 == PeerPathSource.Relay).map Prod.fst
  let keep (endpoint : String) (tracked : TrackedPeerPath) : Bool :=
    (tracked.source != .Relay || relays.contains endpoint) &&
      !observedEndpointSupersededByAnnouncement endpoint tracked announced seenAt
  let kept := { state with endpoints := state.endpoints.retain keep }
  announced.foldl (fun state (endpoint, source) => state.refreshEndpoint endpoint source seenAt)
    kept.dropStaleCurrent

def noteSelected (state : PeerPathState) (endpoint : String) (selectedAt : Nat) : PeerPathState :=
  let entry := (state.endpoints.lookup endpoint).getD ⟨.Observed, selectedAt, none, none⟩
  { currentEndpoint := some endpoint
    endpoints := state.endpoints.insert endpoint { entry with lastSelectedAt := some selectedAt } }

def noteSuccess (state : PeerPathState) (endpoint : String) (successAt : Nat) : PeerPathState :=
  let entry := (state.endpoints.lookup endpoint).getD ⟨.Observed, successAt, none, none⟩
  let lastSuccessAt := if successAt ≤ entry.lastSuccessAt.getD 0 then entry.lastSuccessAt
    else some successAt
  { state with endpoints := state.endpoints.insert endpoint { entry with lastSuccessAt } }

/-- `select_endpoint_for_local_endpoints` below the lookup of the participant. The two lookups that
`expect` an entry are of tracked endpoints. -/
def selectEndpoint (state : PeerPathState) (ownLocalEndpoints : List String)
    (defaultEndpoint : String) (now retryAfterSecs : Nat) : Option String := do
  let (preferred, preferredState) ← maxByKey
    (fun (endpoint, tracked) => candidateRank endpoint tracked ownLocalEndpoints defaultEndpoint)
    state.endpoints.toList
  match state.currentEndpoint with
  | none => return preferred
  | some currentEndpoint =>
    match state.endpoints.lookup currentEndpoint with
    | none => return preferred
    | some current =>
      let currentLocal := endpointSharesPrivateIpv4Subnet currentEndpoint ownLocalEndpoints
      let preferredLocal := endpointSharesPrivateIpv4Subnet preferred ownLocalEndpoints
      if currentEndpoint = preferred then return preferred
      if endpointIsLocalOnly currentEndpoint && !currentLocal then return preferred
      let currentSuccessAt := if pathSuccessStillApplies currentEndpoint current currentLocal then
        current.lastSuccessAt.getD 0 else 0
      let preferredSuccessAt := if pathSuccessStillApplies preferred preferredState preferredLocal
        then preferredState.lastSuccessAt.getD 0 else 0
      if 0 < currentSuccessAt then
        return if currentSuccessAt < preferredSuccessAt then preferred else currentEndpoint
      let canRotate := current.lastSelectedAt.all fun at' => retryAfterSecs ≤ now - at'
      return if canRotate then preferred else currentEndpoint

end PeerPathState

namespace PeerPathBook

def refreshFromAnnouncement (book : PeerPathBook) (participant : String) (a : PeerAnnouncement)
    (seenAt : Nat) : PeerPathBook :=
  ⟨book.peers.upsert participant .default fun state => state.refresh a seenAt⟩

def noteSelected (book : PeerPathBook) (participant endpoint : String) (selectedAt : Nat) :
    PeerPathBook :=
  ⟨book.peers.upsert participant .default fun state => state.noteSelected endpoint selectedAt⟩

def noteSuccess (book : PeerPathBook) (participant endpoint : String) (successAt : Nat) :
    PeerPathBook :=
  ⟨book.peers.upsert participant .default fun state => state.noteSuccess endpoint successAt⟩

def pruneStale (book : PeerPathBook) (now staleAfterSecs : Nat) : PeerPathBook :=
  if staleAfterSecs = 0 then book
  else
    let states := book.peers.mapValues fun state => state.retainPaths fun _ tracked =>
      decide (now - staleAfterSecs < tracked.freshnessAt)
    ⟨states.retain fun _ state => !state.endpoints.entries.isEmpty⟩

def removeRelayPathsForParticipant (book : PeerPathBook) (participant : String) : PeerPathBook :=
  match book.peers.lookup participant with
  | none => book
  | some state =>
    let state := state.retainPaths fun _ tracked => tracked.source != .Relay
    if state.endpoints.entries.isEmpty then ⟨book.peers.erase participant⟩
    else ⟨book.peers.insert participant state⟩

def retainParticipants (book : PeerPathBook) (participants : List String) : PeerPathBook :=
  ⟨book.peers.retain fun participant _ => participants.contains participant⟩

def endpointHasRecentSuccessForLocalEndpoints (book : PeerPathBook) (participant endpoint : String)
    (ownLocalEndpoints : List String) (now staleAfterSecs : Nat) : Bool :=
  if staleAfterSecs = 0 then false
  else match (book.peers.lookup participant).bind fun state => state.endpoints.lookup endpoint with
    | none => false
    | some tracked =>
      pathSuccessStillApplies endpoint tracked
        (endpointSharesPrivateIpv4Subnet endpoint ownLocalEndpoints) &&
      tracked.lastSuccessAt.any fun at' => now - at' ≤ staleAfterSecs

def selectEndpointForLocalEndpoints (book : PeerPathBook) (participant : String)
    (a : PeerAnnouncement) (ownLocalEndpoints : List String) (now retryAfterSecs : Nat) :
    Option String :=
  let defaultEndpoint := selectPeerEndpointFromLocalEndpoints a ownLocalEndpoints
  match book.peers.lookup participant with
  | none => some defaultEndpoint
  | some state =>
    if state.endpoints.entries = [] then some defaultEndpoint
    else state.selectEndpoint ownLocalEndpoints defaultEndpoint now retryAfterSecs

def selectEndpoint (book : PeerPathBook) (participant : String) (a : PeerAnnouncement)
    (ownLocalEndpoint : Option String) (now retryAfterSecs : Nat) : Option String :=
  book.selectEndpointForLocalEndpoints participant a ownLocalEndpoint.toList now retryAfterSecs

/-- The selection reads only the entry of the participant. -/
theorem selectEndpoint_congr {book book' : PeerPathBook} {participant : String}
    (h : book.peers.lookup participant = book'.peers.lookup participant) (a : PeerAnnouncement)
    (ownLocalEndpoints : List String) (now retryAfterSecs : Nat) :
    book.selectEndpointForLocalEndpoints participant a ownLocalEndpoints now retryAfterSecs =
      book'.selectEndpointForLocalEndpoints participant a ownLocalEndpoints now retryAfterSecs := by
  simp only [selectEndpointForLocalEndpoints, h]

theorem lookup_refresh (book : PeerPathBook) (participant : String) (a : PeerAnnouncement)
    (seenAt : Nat) :
    (book.refreshFromAnnouncement participant a seenAt).peers.lookup participant =
      some (((book.peers.lookup participant).getD .default).refresh a seenAt) := by
  simp only [refreshFromAnnouncement, HashMap.lookup_upsert]

theorem lookup_refresh_ne {book : PeerPathBook} {participant other : String} (h : other ≠ participant)
    (a : PeerAnnouncement) (seenAt : Nat) :
    (book.refreshFromAnnouncement participant a seenAt).peers.lookup other =
      book.peers.lookup other := by
  simp only [refreshFromAnnouncement, HashMap.lookup_upsert_ne h]

theorem lookup_retainParticipants (book : PeerPathBook) {participants : List String}
    {participant : String} (h : participant ∈ participants) :
    (book.retainParticipants participants).peers.lookup participant =
      book.peers.lookup participant := by
  cases eq : book.peers.lookup participant <;> simp [retainParticipants, eq, h, Option.filter]

end PeerPathBook

end NostrVpn.Core
