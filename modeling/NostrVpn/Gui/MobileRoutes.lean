import NostrVpn.Cli.RouteAssignment

/-!
# The route assignment of the mobile sessions

`android_session_planning.rs`, `android_session_runtime.rs` and `ios_tunnel_planning.rs` each carry
the text of the assignment of the command line; the mobile exit node needs no platform support.
-/
namespace NostrVpn.Gui

open Rust Rust.Net NostrVpn.Core
open NostrVpn.Cli (Announcements stripCidr FollowsPolicy groupRoutes routeOwners)

def isExitNodeRoute (route : String) : Bool := route == "0.0.0.0/0" || route == "::/0"

def normalizedPeerIpv4Routes (a : PeerAnnouncement) : List String :=
  (a.advertisedRoutes.filterMap fun route =>
    match normalizeAdvertisedRoute route with
    | none => none
    | some route => if (Ipv4Addr.parse (stripCidr route)).isNone then none else some route).foldl
      pushUnique []

def selectedExitNodeParticipant (config : AppConfig) (ownPubkey : Option String)
    (announcements : Announcements) : Option String :=
  if config.exitNode = "" ∨ some config.exitNode = ownPubkey then none
  else do
    let a ← announcements.lookup config.exitNode
    if (normalizedPeerIpv4Routes a).any (· == "0.0.0.0/0") then some config.exitNode else none

/-- The inner loop of the assignment: the routes of a participant that have no owner yet. -/
def claimRoutes (selectedExitNode : Option String) (participant : String) (a : PeerAnnouncement)
    (routeOwner : HashMap String String) : HashMap String String :=
  (normalizedPeerIpv4Routes a).foldl (fun routeOwner route =>
    if isExitNodeRoute route && selectedExitNode != some participant then routeOwner
    else routeOwner.orInsert route participant) routeOwner

def advertisedRouteAssignments (config : AppConfig) (ownPubkey : Option String)
    (announcements : Announcements) : HashMap String (List String) :=
  let selectedExitNode := selectedExitNodeParticipant config ownPubkey announcements
  let participants := config.participantPubkeysHex.filter fun participant =>
    some participant ≠ ownPubkey
  let routeOwner : HashMap String String := participants.foldl (fun routeOwner participant =>
    match announcements.lookup participant with
    | none => routeOwner
    | some a => claimRoutes selectedExitNode participant a routeOwner) ∅
  let assignments : HashMap String (List String) :=
    routeOwner.toList.foldl (fun assignments (route, participant) =>
      assignments.upsert participant [] fun routes => routes ++ [route]) ∅
  assignments.mapValues sortDedup

/-! ## Agreement with the command line -/

theorem normalizedPeerIpv4Routes_eq (a : PeerAnnouncement) :
    normalizedPeerIpv4Routes a = Cli.normalizedPeerIpv4Routes a := by
  have same (route : String) : (match normalizeAdvertisedRoute route with
      | none => none
      | some route => if (Ipv4Addr.parse (stripCidr route)).isNone then none else some route) =
        (normalizeAdvertisedRoute route).filter Cli.isIpv4Route := by
    cases normalizeAdvertisedRoute route with
    | none => rfl
    | some normal =>
      cases parsed : Ipv4Addr.parse (stripCidr normal) <;>
        simp [Option.filter, Cli.isIpv4Route, parsed]
  simp only [normalizedPeerIpv4Routes, same]
  rfl

theorem selectedExitNodeParticipant_eq (config : AppConfig) (ownPubkey : Option String)
    (announcements : Announcements) :
    selectedExitNodeParticipant config ownPubkey announcements =
      Cli.selectedExitNodeParticipant config ownPubkey announcements := by
  unfold selectedExitNodeParticipant Cli.selectedExitNodeParticipant
  split_ifs
  · rfl
  · cases announcements.lookup config.exitNode with
    | none => rfl
    | some a => simp [normalizedPeerIpv4Routes_eq]

/-- A round of the loop leaves the owners that the one of the command line leaves. -/
theorem claimRoutes_eq (config : AppConfig) (ownPubkey : Option String)
    {announcements : Announcements} {participant : String} {a : PeerAnnouncement}
    (found : announcements.lookup participant = some a) (routeOwner : HashMap String String) :
    claimRoutes (selectedExitNodeParticipant config ownPubkey announcements) participant a
        routeOwner =
      (Cli.claimedRoutes config ownPubkey announcements participant).foldl
        (fun routeOwner route => routeOwner.orInsert route participant) routeOwner := by
  rw [claimRoutes, Cli.claimedRoutes, found, List.foldl_filter, normalizedPeerIpv4Routes_eq,
    selectedExitNodeParticipant_eq]
  congr 1
  funext owners route
  rw [isExitNodeRoute, Core.isExitNodeRoute]
  cases (route == "0.0.0.0/0" || route == "::/0") &&
    Cli.selectedExitNodeParticipant config ownPubkey announcements != some participant <;> rfl

theorem advertisedRouteAssignments_eq (config : AppConfig) (ownPubkey : Option String)
    (announcements : Announcements) :
    advertisedRouteAssignments config ownPubkey announcements =
      Cli.advertisedRouteAssignments config ownPubkey announcements := by
  have rounds : (fun (routeOwner : HashMap String String) participant =>
      match announcements.lookup participant with
      | none => routeOwner
      | some a => claimRoutes (selectedExitNodeParticipant config ownPubkey announcements)
          participant a routeOwner) = fun routeOwner participant =>
        (Cli.claimedRoutes config ownPubkey announcements participant).foldl
          (fun owners route => owners.orInsert route participant) routeOwner := by
    funext routeOwner participant
    cases found : announcements.lookup participant with
    | none => simp [Cli.claimedRoutes, found]
    | some a => exact claimRoutes_eq config ownPubkey found routeOwner
  unfold advertisedRouteAssignments
  dsimp only
  rw [rounds]
  rfl

/-- The assignment is the policy, whatever order the hash maps are enumerated in, and the mobile
sessions compute the same one. -/
theorem route_assignment_policy (app : AppConfig) (own : Option String)
    (announcements : Announcements) :
    FollowsPolicy app own announcements (Cli.advertisedRouteAssignments app own announcements) ∧
      (∀ (announcements' : Announcements) (owners : HashMap String String),
        (∀ participant, announcements'.lookup participant = announcements.lookup participant) →
        (∀ route, owners.lookup route = (routeOwners app own announcements').lookup route) →
        ∀ participant, (groupRoutes owners).lookup participant =
          (Cli.advertisedRouteAssignments app own announcements).lookup participant) ∧
      advertisedRouteAssignments app own announcements =
        Cli.advertisedRouteAssignments app own announcements :=
  ⟨Cli.advertisedRouteAssignments_followsPolicy app own announcements,
    fun _ _ same sameOwners participant =>
      Cli.lookup_assignments_congr app own announcements same sameOwners participant,
    advertisedRouteAssignments_eq app own announcements⟩

end NostrVpn.Gui
