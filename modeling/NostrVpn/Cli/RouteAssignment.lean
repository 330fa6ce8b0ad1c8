import NostrVpn.Cli.TunnelPlanFacts

/-!
# Who gets an advertised route

The route assignment as a policy on participants: the least advertiser owns a route, and the default
route belongs to the configured exit node alone.
-/
namespace Rust

/-- On a sorted list the first element that the predicate selects is the least one. -/
theorem find?_eq_some_iff_of_sorted {l : List String} (sorted : l.Pairwise (· ≤ ·))
    {p : String → Bool} {a : String} :
    l.find? p = some a ↔ a ∈ l ∧ p a ∧ ∀ b ∈ l, p b → a ≤ b := by
  induction l with
  | nil => simp
  | cons c l ih =>
    obtain ⟨least, rest⟩ := List.pairwise_cons.mp sorted
    by_cases selected : p c
    · rw [List.find?_cons_of_pos selected, Option.some.injEq]
      constructor
      · rintro rfl
        refine ⟨by simp, selected, fun b hb _ => ?_⟩
        rcases List.mem_cons.mp hb with rfl | hb
        · exact String.le_refl b
        · exact least b hb
      · rintro ⟨mem, -, below⟩
        rcases List.mem_cons.mp mem with rfl | mem
        · rfl
        · exact String.le_antisymm (least a mem) (below c (by simp) selected)
    · rw [List.find?_cons_of_neg selected, ih rest]
      grind

/-- The groups of `lookup_groupBy`, on an empty map: a key without entries is no key of the map. -/
theorem HashMap.lookup_groupBy_empty {κ ι : Type} [DecidableEq κ] (l : List (ι × κ)) (k : κ) :
    (l.foldl (fun m e => m.upsert e.2 [] fun items => items ++ [e.1])
      (∅ : HashMap κ (List ι))).lookup k =
      match (l.filter fun e => e.2 = k).map Prod.fst with
      | [] => none
      | items => some items := by
  suffices all : ∀ m : HashMap κ (List ι),
      (l.foldl (fun m e => m.upsert e.2 [] fun items => items ++ [e.1]) m).lookup k =
        match (l.filter fun e => e.2 = k).map Prod.fst with
        | [] => m.lookup k
        | items => some ((m.lookup k).getD [] ++ items) by
    have grouped := all ∅
    revert grouped
    cases (l.filter fun e => e.2 = k).map Prod.fst <;> exact id
  induction l with
  | nil => exact fun m => rfl
  | cons e l ih =>
    intro m
    rw [List.foldl_cons, ih]
    by_cases eq : e.2 = k
    · subst eq
      cases rest : (l.filter fun e' => e'.2 = e.2).map Prod.fst <;>
        simp [rest]
    · simp [eq, HashMap.lookup_upsert_ne (Ne.symm eq)]

end Rust

namespace NostrVpn.Cli

open Rust Rust.Net NostrVpn.Core

/-- The participant announces this normalised IPv4 route. -/
def Advertises (announcements : Announcements) (participant route : String) : Prop :=
  isIpv4Route route ∧ ∃ a, announcements.lookup participant = some a ∧
    ∃ value ∈ a.advertisedRoutes, normalizeAdvertisedRoute value = some route

/-- A member of the active network other than oneself. -/
def IsOther (app : AppConfig) (own : Option String) (participant : String) : Prop :=
  participant ∈ app.activeNetwork.participants ∧ some participant ≠ own

/-- The policy: the configured exit node owns the default route if it is another participant that
advertises it, and the least other participant that advertises any other route owns that. -/
def OwnsRoute (app : AppConfig) (own : Option String) (announcements : Announcements)
    (participant route : String) : Prop :=
  IsOther app own participant ∧ Advertises announcements participant route ∧
    if route = "0.0.0.0/0" then app.exitNode ≠ "" ∧ participant = app.exitNode
    else ∀ other, IsOther app own other → Advertises announcements other route → participant ≤ other

/-- The participants of a route assignment own what the policy gives them, once and in order, and
nothing that an other participant advertises is left out. -/
structure FollowsPolicy (app : AppConfig) (own : Option String) (announcements : Announcements)
    (assignments : HashMap String (List String)) : Prop where
  owner : ∀ participant route, (∃ routes, assignments.lookup participant = some routes ∧
    route ∈ routes) ↔ OwnsRoute app own announcements participant route
  unique : ∀ route, route ≠ "0.0.0.0/0" →
    (∃ participant, IsOther app own participant ∧ Advertises announcements participant route) →
    ∃! participant, ∃ routes, assignments.lookup participant = some routes ∧ route ∈ routes
  sorted : ∀ participant routes, assignments.lookup participant = some routes →
    routes.Pairwise (· < ·)

section Policy
variable {app : AppConfig} {own : Option String} {announcements : Announcements}

theorem mem_otherParticipants {participant : String} :
    participant ∈ otherParticipants app own ↔ IsOther app own participant := by
  simp [otherParticipants, AppConfig.participantPubkeysHex, mem_sortDedup, IsOther]

theorem sorted_otherParticipants : (otherParticipants app own).Pairwise (· ≤ ·) :=
  (sorted_sortDedup _).filter _

theorem mem_normalizedPeerIpv4Routes {a : PeerAnnouncement} {participant route : String}
    (found : announcements.lookup participant = some a) :
    route ∈ normalizedPeerIpv4Routes a ↔ Advertises announcements participant route := by
  simp [normalizedPeerIpv4Routes, mem_normalizeRoutes, Advertises, found]

theorem isExitNodeRoute_of_ipv4 {route : String} (v4 : isIpv4Route route) :
    isExitNodeRoute route ↔ route = "0.0.0.0/0" := by
  have six : isIpv4Route "::/0" = false := by decide
  simp only [isExitNodeRoute, Bool.or_eq_true, beq_iff_eq, or_iff_left_iff_imp]
  rintro rfl
  rw [six] at v4
  cases v4

theorem selectedExitNodeParticipant_eq_some {participant : String} :
    selectedExitNodeParticipant app own announcements = some participant ↔
      app.exitNode ≠ "" ∧ participant = app.exitNode ∧ some participant ≠ own ∧
        Advertises announcements participant "0.0.0.0/0" := by
  unfold selectedExitNodeParticipant
  by_cases none' : app.exitNode = "" ∨ some app.exitNode = own
  · rw [if_pos none']
    grind
  · rw [if_neg none']
    obtain ⟨chosen, other⟩ := not_or.mp none'
    cases found : announcements.lookup app.exitNode with
    | none =>
      simp only [Advertises, reduceCtorEq, false_iff]
      rintro ⟨-, rfl, -, -, a, found', -⟩
      rw [found] at found'
      cases found'
    | some a =>
      have mem : "0.0.0.0/0" ∈ normalizedPeerIpv4Routes a ↔ _ := mem_normalizedPeerIpv4Routes found
      by_cases advertised : "0.0.0.0/0" ∈ normalizedPeerIpv4Routes a
      · simp only [if_pos advertised, Option.some.injEq]
        constructor
        · rintro rfl
          exact ⟨chosen, rfl, other, mem.mp advertised⟩
        · rintro ⟨-, rfl, -, -⟩
          rfl
      · simp only [if_neg advertised, reduceCtorEq, false_iff]
        rintro ⟨-, rfl, -, adv⟩
        exact advertised (mem.mpr adv)

/-- The loop of the assignment skips the default route unless its participant is the exit node. -/
theorem mem_claimedRoutes {participant route : String} (other : some participant ≠ own) :
    route ∈ claimedRoutes app own announcements participant ↔
      Advertises announcements participant route ∧
        (route = "0.0.0.0/0" → app.exitNode ≠ "" ∧ participant = app.exitNode) := by
  unfold claimedRoutes
  cases found : announcements.lookup participant with
  | none => simp [Advertises, found]
  | some a =>
    rw [List.mem_filter, mem_normalizedPeerIpv4Routes found]
    refine and_congr_right fun adv => ?_
    have exit := isExitNodeRoute_of_ipv4 adv.1
    have selected := @selectedExitNodeParticipant_eq_some app own announcements participant
    by_cases default : route = "0.0.0.0/0"
    · subst default
      simp [exit.mpr rfl, selected, other, adv]
    · have skip : isExitNodeRoute route = false := Bool.eq_false_iff.mpr fun h => default (exit.mp h)
      simp [skip, default]

theorem routeOwner_eq_some_iff {participant route : String} :
    routeOwner app own announcements route = some participant ↔
      OwnsRoute app own announcements participant route := by
  rw [routeOwner, find?_eq_some_iff_of_sorted sorted_otherParticipants,
    mem_otherParticipants, OwnsRoute]
  refine and_congr_right fun other => ?_
  have claims (p : String) (h : IsOther app own p) := @mem_claimedRoutes app own announcements p route h.2
  simp only [decide_eq_true_eq, mem_otherParticipants, claims participant other]
  by_cases default : route = "0.0.0.0/0"
  · subst default
    simp only [if_true, true_imp_iff]
    constructor
    · exact fun h => h.1
    · rintro ⟨adv, chosen, rfl⟩
      refine ⟨⟨adv, chosen, rfl⟩, fun p hp claimed => ?_⟩
      have same : p = app.exitNode := (((claims p hp).mp claimed).2 rfl).2
      exact same ▸ String.le_refl p
  · simp only [default, if_false, false_imp_iff, and_true]
    refine and_congr_right fun adv => forall_congr' fun p => imp_congr_right fun hp => ?_
    rw [claims p hp]
    simp [default]

theorem exists_routeOwner {route : String} (default : route ≠ "0.0.0.0/0")
    (h : ∃ participant, IsOther app own participant ∧
      Advertises announcements participant route) :
    ∃ participant, routeOwner app own announcements route = some participant := by
  obtain ⟨participant, other, adv⟩ := h
  refine Option.isSome_iff_exists.mp (List.find?_isSome.mpr ⟨participant,
    mem_otherParticipants.mpr other, ?_⟩)
  exact decide_eq_true ((mem_claimedRoutes other.2).mpr ⟨adv, fun eq => absurd eq default⟩)

end Policy

/-! ## Grouping by owner -/

/-- The second half of the assignment: the routes grouped by their owner, each group sorted. -/
def groupRoutes (routeOwner : HashMap String String) : HashMap String (List String) :=
  let assignments : HashMap String (List String) :=
    routeOwner.toList.foldl (fun assignments (route, participant) =>
      assignments.upsert participant [] fun routes => routes ++ [route]) ∅
  assignments.mapValues sortDedup

theorem advertisedRouteAssignments_eq (app : AppConfig) (own : Option String)
    (announcements : Announcements) :
    advertisedRouteAssignments app own announcements =
      groupRoutes (routeOwners app own announcements) := rfl

/-- Every participant with a route is a key of the groups, and no other. -/
theorem lookup_groupRoutes (owners : HashMap String String) (participant : String) :
    (groupRoutes owners).lookup participant =
      match (owners.toList.filter fun e => e.2 = participant).map Prod.fst with
      | [] => none
      | routes => some (sortDedup routes) := by
  rw [groupRoutes, HashMap.lookup_mapValues, HashMap.lookup_groupBy_empty]
  cases (owners.toList.filter fun e => e.2 = participant).map Prod.fst <;> rfl

/-- The groups depend on the contents of the map alone. -/
theorem groupRoutes_congr {owners owners' : HashMap String String}
    (same : ∀ route, owners.lookup route = owners'.lookup route) (participant : String) :
    (groupRoutes owners).lookup participant = (groupRoutes owners').lookup participant := by
  have mem (o : HashMap String String) (route : String) :
      route ∈ (o.toList.filter fun e => e.2 = participant).map Prod.fst ↔
        o.lookup route = some participant := by simp
  have perm : sortDedup ((owners.toList.filter fun e => e.2 = participant).map Prod.fst) =
      sortDedup ((owners'.toList.filter fun e => e.2 = participant).map Prod.fst) := by
    refine sortDedup_congr fun route => ?_
    rw [mem, mem, same]
  have empty : (owners.toList.filter fun e => e.2 = participant).map Prod.fst = [] ↔
      (owners'.toList.filter fun e => e.2 = participant).map Prod.fst = [] := by
    simp only [List.eq_nil_iff_forall_not_mem, mem, same]
  rw [lookup_groupRoutes, lookup_groupRoutes]
  cases first : (owners.toList.filter fun e => e.2 = participant).map Prod.fst with
  | nil => rw [empty.mp first]
  | cons route routes =>
    rw [first] at perm empty
    cases second : (owners'.toList.filter fun e => e.2 = participant).map Prod.fst with
    | nil => exact absurd (empty.mpr second) (by simp)
    | cons route' routes' =>
      rw [second] at perm
      exact congrArg some perm

section Assignment
variable (app : AppConfig) (own : Option String) (announcements : Announcements)

/-- The routes of an owner are there, and are what the plan reads. -/
theorem exists_lookup_assignments {participant route : String} :
    (∃ routes, (advertisedRouteAssignments app own announcements).lookup participant = some routes ∧
      route ∈ routes) ↔ routeOwner app own announcements route = some participant := by
  rw [← mem_assignedRoutes, assignedRoutes]
  cases (advertisedRouteAssignments app own announcements).lookup participant <;> simp

theorem advertisedRouteAssignments_followsPolicy :
    FollowsPolicy app own announcements (advertisedRouteAssignments app own announcements) where
  owner participant route := by
    rw [exists_lookup_assignments, routeOwner_eq_some_iff]
  unique route default advertised := by
    obtain ⟨participant, owner⟩ := exists_routeOwner default advertised
    simp only [exists_lookup_assignments]
    exact ⟨participant, owner, fun other owner' => Option.some.inj (owner'.symm.trans owner)⟩
  sorted participant routes found := by
    have eq : assignedRoutes app own announcements participant = routes := by
      rw [assignedRoutes, found, Option.getD_some]
    have le := sorted_assignedRoutes app own announcements participant
    have ne := nodup_assignedRoutes app own announcements participant
    rw [eq] at le ne
    exact (le.and ne).imp fun h =>
      by_contra fun ge => h.2 (String.le_antisymm h.1 (String.not_lt.mp ge))

/-- Another enumeration order of the announcements or of the owners gives the same assignment. -/
theorem lookup_assignments_congr {announcements' : Announcements} {owners : HashMap String String}
    (same : ∀ participant, announcements'.lookup participant = announcements.lookup participant)
    (sameOwners : ∀ route, owners.lookup route = (routeOwners app own announcements').lookup route)
    (participant : String) :
    (groupRoutes owners).lookup participant =
      (advertisedRouteAssignments app own announcements).lookup participant := by
  have advertises (p route : String) :
      Advertises announcements' p route ↔ Advertises announcements p route := by
    simp [Advertises, same]
  rw [advertisedRouteAssignments_eq]
  refine groupRoutes_congr (fun route => ?_) participant
  rw [sameOwners, lookup_routeOwners, lookup_routeOwners]
  refine Option.ext fun p => ?_
  rw [routeOwner_eq_some_iff, routeOwner_eq_some_iff]
  simp only [OwnsRoute, advertises]

end Assignment

end NostrVpn.Cli
