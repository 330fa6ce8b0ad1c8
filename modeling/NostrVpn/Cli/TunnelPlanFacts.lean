import NostrVpn.Cli.TunnelPlan

/-!
# What a plan holds

The planning of a participant reads only its own entry of the path book, so the loop is a
`filterMap` over the participants that stops at the first error. A route goes to the first
participant that claims it.
-/
namespace NostrVpn.Cli

open Rust Rust.Net NostrVpn.Core

/-! ## Route assignment -/

section Routes
variable (app : AppConfig) (own : Option String) (announcements : Announcements)

/-- The first participant, in key order, that claims the route. -/
def routeOwner (route : String) : Option String :=
  (otherParticipants app own).find? fun participant =>
    decide (route ∈ claimedRoutes app own announcements participant)

theorem lookup_foldl_routeOwners (participants : List String) (owners : HashMap String String)
    (route : String) :
    (participants.foldl (fun owners participant =>
      (claimedRoutes app own announcements participant).foldl (fun owners route =>
        owners.orInsert route participant) owners) owners).lookup route =
    (owners.lookup route).or (participants.find? fun participant =>
      decide (route ∈ claimedRoutes app own announcements participant)) := by
  induction participants generalizing owners with
  | nil => simp
  | cons participant rest ih =>
    rw [List.foldl_cons, ih, HashMap.lookup_foldl_orInsert, Option.or_assoc]
    by_cases mem : route ∈ claimedRoutes app own announcements participant <;> simp [mem]

theorem lookup_routeOwners (route : String) :
    (routeOwners app own announcements).lookup route = routeOwner app own announcements route := by
  simp [routeOwners, lookup_foldl_routeOwners, routeOwner]

def assignedRoutes (participant : String) : List String :=
  ((advertisedRouteAssignments app own announcements).lookup participant).getD []

theorem assignedRoutes_eq (participant : String) : ∃ routes : List String,
    assignedRoutes app own announcements participant = sortDedup routes ∧
      ∀ route, route ∈ routes ↔ routeOwner app own announcements route = some participant := by
  refine ⟨((routeOwners app own announcements).toList.filter fun e => e.2 = participant).map
    Prod.fst, ?_, ?_⟩
  · have group := HashMap.lookup_groupBy (routeOwners app own announcements).toList ∅ participant
    rw [AList.lookup_empty, Option.getD_none, List.nil_append] at group
    rw [← group, assignedRoutes, advertisedRouteAssignments, HashMap.lookup_mapValues]
    cases AList.lookup participant _ <;> rfl
  · intro route
    rw [← lookup_routeOwners]
    simp

theorem mem_assignedRoutes {participant route : String} :
    route ∈ assignedRoutes app own announcements participant ↔
      routeOwner app own announcements route = some participant := by
  obtain ⟨routes, eq, mem⟩ := assignedRoutes_eq app own announcements participant
  rw [eq, mem_sortDedup, mem]

theorem nodup_assignedRoutes (participant : String) :
    (assignedRoutes app own announcements participant).Nodup := by
  obtain ⟨routes, eq, -⟩ := assignedRoutes_eq app own announcements participant
  exact eq ▸ nodup_sortDedup routes

theorem sorted_assignedRoutes (participant : String) :
    (assignedRoutes app own announcements participant).Pairwise (· ≤ ·) := by
  obtain ⟨routes, eq, -⟩ := assignedRoutes_eq app own announcements participant
  exact eq ▸ sorted_sortDedup routes

variable {app own announcements}

theorem mem_claimedRoutes_of_owner {participant route : String}
    (h : routeOwner app own announcements route = some participant) :
    route ∈ claimedRoutes app own announcements participant := by
  simpa using List.find?_some h

theorem mem_others_of_owner {participant route : String}
    (h : routeOwner app own announcements route = some participant) :
    participant ∈ otherParticipants app own :=
  List.mem_of_find?_eq_some h

theorem exists_announcement_of_claimed {participant route : String}
    (h : route ∈ claimedRoutes app own announcements participant) :
    ∃ a, announcements.lookup participant = some a ∧ route ∈ normalizedPeerIpv4Routes a := by
  unfold claimedRoutes at h
  cases eq : announcements.lookup participant with
  | none => simp [eq] at h
  | some a =>
    rw [eq] at h
    exact ⟨a, rfl, (List.mem_filter.mp h).1⟩

/-- An assigned route is the printed form of the prefix it denotes. -/
theorem exists_prefix_of_owner {participant route : String}
    (h : routeOwner app own announcements route = some participant) :
    ∃ p : IpPrefix, route = p.fmt := by
  obtain ⟨a, -, mem⟩ := exists_announcement_of_claimed (mem_claimedRoutes_of_owner h)
  obtain ⟨-, value, -, normal⟩ := mem_normalizeRoutes.mp mem
  exact exists_prefix_of_normalizeAdvertisedRoute normal

end Routes

/-! ## The loop -/

/-- What the loop pushes for a participant. -/
def plannedPeer (ctx : PlanContext) (assignments : HashMap String (List String))
    (book : PeerPathBook) (participant : String) : Option PlannedTunnelPeer :=
  (planParticipant ctx assignments book participant).1.toOption.join

variable {ctx : PlanContext} {assignments : HashMap String (List String)}
  {book book' : PeerPathBook} {participant : String}

theorem lookup_planParticipant_ne {other : String} (h : other ≠ participant) :
    (planParticipant ctx assignments book participant).2.peers.lookup other =
      book.peers.lookup other := by
  unfold planParticipant
  split
  · rfl
  · dsimp only
    split_ifs <;> exact PeerPathBook.lookup_refresh_ne h ..

theorem selectPlannedEndpoint_congr
    (h : book.peers.lookup participant = book'.peers.lookup participant) (a : PeerAnnouncement)
    (locals : List String) (now : Nat) :
    selectPlannedEndpoint book participant a locals now =
      selectPlannedEndpoint book' participant a locals now := by
  simp only [selectPlannedEndpoint, PeerPathBook.selectEndpoint_congr h]

theorem planParticipant_congr
    (h : book.peers.lookup participant = book'.peers.lookup participant) :
    (planParticipant ctx assignments book participant).1 =
      (planParticipant ctx assignments book' participant).1 := by
  unfold planParticipant
  split
  · rfl
  · rename_i a _
    have same : (book.refreshFromAnnouncement participant (a.withoutExpiredRelay ctx.now)
        ctx.now).peers.lookup participant = (book'.refreshFromAnnouncement participant
        (a.withoutExpiredRelay ctx.now) ctx.now).peers.lookup participant := by
      rw [PeerPathBook.lookup_refresh, PeerPathBook.lookup_refresh, h]
    dsimp only
    rw [selectPlannedEndpoint_congr same]
    split_ifs <;> rfl

/-- The loop succeeds when every round does, and then pushes what each round pushes. -/
theorem planParticipants_eq_ok {participants : List String} (nodup : participants.Nodup)
    {peers : List PlannedTunnelPeer} :
    (planParticipants ctx assignments book participants).1 = .ok peers ↔
      (∀ p ∈ participants, ∃ planned, (planParticipant ctx assignments book p).1 = .ok planned) ∧
        peers = participants.filterMap (plannedPeer ctx assignments book) := by
  induction participants generalizing book peers with
  | nil => simp [planParticipants, eq_comm]
  | cons participant rest ih =>
    obtain ⟨fresh, restNodup⟩ := List.nodup_cons.mp nodup
    have same : ∀ p ∈ rest, (planParticipant ctx assignments
        (planParticipant ctx assignments book participant).2 p).1 =
          (planParticipant ctx assignments book p).1 := fun p hp =>
      planParticipant_congr (lookup_planParticipant_ne fun eq => fresh (eq ▸ hp))
    have sameList : rest.filterMap (plannedPeer ctx assignments
        (planParticipant ctx assignments book participant).2) =
          rest.filterMap (plannedPeer ctx assignments book) :=
      List.filterMap_congr fun p hp => by simp only [plannedPeer, same p hp]
    rw [planParticipants, List.forall_mem_cons, List.filterMap_cons]
    cases out : planParticipant ctx assignments book participant with | mk result book₁
    rw [out] at same sameList
    have first : plannedPeer ctx assignments book participant = result.toOption.join := by
      rw [plannedPeer, out]
    cases result with
    | error e => simp
    | ok planned =>
      have tail := @ih book₁ restNodup
      have rounds : (∀ p ∈ rest, ∃ o, (planParticipant ctx assignments book₁ p).1 = .ok o) ↔
          ∀ p ∈ rest, ∃ o, (planParticipant ctx assignments book p).1 = .ok o :=
        forall₂_congr fun p hp => by rw [same p hp]
      rw [sameList, rounds] at tail
      rw [first]
      cases planned <;> cases loop : (planParticipants ctx assignments book₁ rest).1 with
      | error e =>
        have fails : ¬ ∀ p ∈ rest, ∃ o, (planParticipant ctx assignments book p).1 = .ok o := by
          intro all
          have ok := tail.mpr ⟨all, rfl⟩
          rw [loop] at ok
          cases ok
        simp [loop, fails, Except.map]
      | ok peers' =>
        obtain ⟨all, rfl⟩ := (@tail peers').mp loop
        simp only [loop, Except.map, Except.ok.injEq]
        exact ⟨fun h => ⟨⟨⟨_, rfl⟩, all⟩, h.symm⟩, fun h => h.2.symm⟩

theorem nodup_otherParticipants (app : AppConfig) (own : Option String) :
    (otherParticipants app own).Nodup :=
  app.nodup_participantPubkeysHex.filter _

/-- The endpoint at which the loop would plan an announced participant, from the inputs alone. -/
def endpointOf (ctx : PlanContext) (book : PeerPathBook) (participant : String)
    (a : PeerAnnouncement) : String :=
  let effective := a.withoutExpiredRelay ctx.now
  selectPlannedEndpoint (book.refreshFromAnnouncement participant effective ctx.now) participant
    effective ctx.ownLocalEndpoints ctx.now

/-- The announcement has no endpoint that can be used without a public signal. -/
def Withheld (ctx : PlanContext) (book : PeerPathBook) (participant : String)
    (a : PeerAnnouncement) : Prop :=
  peerEndpointRequiresPublicSignal ctx.app (a.withoutExpiredRelay ctx.now)
    (endpointOf ctx book participant a) ctx.ownLocalEndpoints = true

instance (ctx : PlanContext) (book : PeerPathBook) (participant : String) (a : PeerAnnouncement) :
    Decidable (Withheld ctx book participant a) := inferInstanceAs (Decidable (_ = _))

abbrev PlanContext.routesOf (ctx : PlanContext) (participant : String) : List String :=
  assignedRoutes ctx.app ctx.ownPubkey ctx.announcements participant

abbrev PlanContext.others (ctx : PlanContext) : List String :=
  otherParticipants ctx.app ctx.ownPubkey

/-- The peer of a participant, or the error that its announcement raises. -/
def PlanContext.peerOf (ctx : PlanContext) (book : PeerPathBook) (participant : String)
    (a : PeerAnnouncement) : Except String TunnelPeer :=
  tunnelPeerFromEndpoint ctx.codec (a.withoutExpiredRelay ctx.now) (endpointOf ctx book participant a)
    (ctx.routesOf participant)

/-- A round of the loop, as a function of the inputs. -/
theorem planParticipant_fst (participant : String) :
    (planParticipant ctx (advertisedRouteAssignments ctx.app ctx.ownPubkey ctx.announcements) book
      participant).1 =
    match ctx.announcements.lookup participant with
    | none => .ok none
    | some a =>
      if Withheld ctx book participant a then .ok none
      else (ctx.peerOf book participant a).map fun peer =>
        some ⟨participant, endpointOf ctx book participant a, peer⟩ := by
  unfold planParticipant
  cases ctx.announcements.lookup participant with
  | none => rfl
  | some a =>
    by_cases withheld : Withheld ctx book participant a
    · have held := withheld
      unfold Withheld endpointOf at held
      simp only [held, if_true, withheld]
    · have free := withheld
      unfold Withheld endpointOf at free
      simp only [if_neg free, withheld, if_false]
      rfl

/-- The round of this participant does not fail. -/
def Plannable (ctx : PlanContext) (book : PeerPathBook) (participant : String) : Prop :=
  ∀ a, ctx.announcements.lookup participant = some a → ¬ Withheld ctx book participant a →
    ∃ peer, ctx.peerOf book participant a = .ok peer

/-- The participant is planned as this peer. -/
def PlannedAs (ctx : PlanContext) (book : PeerPathBook) (participant : String)
    (planned : PlannedTunnelPeer) : Prop :=
  ∃ a peer, ctx.announcements.lookup participant = some a ∧ ¬ Withheld ctx book participant a ∧
    ctx.peerOf book participant a = .ok peer ∧
    planned = ⟨participant, endpointOf ctx book participant a, peer⟩

theorem exists_round_ok :
    (∃ planned, (planParticipant ctx (advertisedRouteAssignments ctx.app ctx.ownPubkey
      ctx.announcements) book participant).1 = .ok planned) ↔ Plannable ctx book participant := by
  rw [planParticipant_fst, Plannable]
  cases ctx.announcements.lookup participant with
  | none => simp
  | some a =>
    by_cases withheld : Withheld ctx book participant a
    · simp [withheld]
    · cases result : ctx.peerOf book participant a <;> simp [withheld, Except.map, result]

theorem plannedPeer_eq_some {planned : PlannedTunnelPeer} :
    plannedPeer ctx (advertisedRouteAssignments ctx.app ctx.ownPubkey ctx.announcements) book
      participant = some planned ↔ PlannedAs ctx book participant planned := by
  rw [plannedPeer, planParticipant_fst, PlannedAs]
  cases ctx.announcements.lookup participant with
  | none => simp [Except.toOption]
  | some a =>
    by_cases withheld : Withheld ctx book participant a
    · simp [withheld, Except.toOption]
    · cases result : ctx.peerOf book participant a <;>
        simp [withheld, Except.map, Except.toOption, result, eq_comm]

/-- Success of a plan, and the peers it then holds. -/
theorem planned_eq_ok {plan : List PlannedTunnelPeer} :
    (plannedTunnelPeersForLocalEndpoints ctx book).1 = .ok plan ↔
      (∀ p ∈ ctx.others, Plannable ctx book p) ∧
        plan = sortByKey (fun planned => planned.peer.pubkeyHex) (ctx.others.filterMap
          (plannedPeer ctx (advertisedRouteAssignments ctx.app ctx.ownPubkey ctx.announcements)
            book)) := by
  have same : ∀ p ∈ ctx.others, (planParticipant ctx (advertisedRouteAssignments ctx.app
      ctx.ownPubkey ctx.announcements) (book.retainParticipants ctx.others) p).1 =
        (planParticipant ctx (advertisedRouteAssignments ctx.app ctx.ownPubkey ctx.announcements)
          book p).1 := fun p hp =>
    planParticipant_congr (PeerPathBook.lookup_retainParticipants book hp)
  have loop := @planParticipants_eq_ok ctx (advertisedRouteAssignments ctx.app ctx.ownPubkey
    ctx.announcements) (book.retainParticipants ctx.others) ctx.others (nodup_otherParticipants ..)
  have rounds : (∀ p ∈ ctx.others, ∃ o, (planParticipant ctx (advertisedRouteAssignments ctx.app
      ctx.ownPubkey ctx.announcements) (book.retainParticipants ctx.others) p).1 = .ok o) ↔
        ∀ p ∈ ctx.others, Plannable ctx book p :=
    forall₂_congr fun p hp => by rw [same p hp, exists_round_ok]
  have pushed : ctx.others.filterMap (plannedPeer ctx (advertisedRouteAssignments ctx.app
      ctx.ownPubkey ctx.announcements) (book.retainParticipants ctx.others)) =
        ctx.others.filterMap (plannedPeer ctx (advertisedRouteAssignments ctx.app
          ctx.ownPubkey ctx.announcements) book) :=
    List.filterMap_congr fun p hp => by simp only [plannedPeer, same p hp]
  rw [rounds, pushed] at loop
  unfold plannedTunnelPeersForLocalEndpoints
  cases result : (planParticipants ctx (advertisedRouteAssignments ctx.app ctx.ownPubkey
    ctx.announcements) (book.retainParticipants ctx.others) ctx.others).1 with
  | error e =>
    have fails : ¬ ∀ p ∈ ctx.others, Plannable ctx book p := by
      intro all
      have ok := loop.mpr ⟨all, rfl⟩
      rw [result] at ok
      cases ok
    simp [result, fails, Except.map]
  | ok peers =>
    obtain ⟨all, rfl⟩ := (@loop peers).mp result
    simp only [result, Except.map, Except.ok.injEq]
    exact ⟨fun h => ⟨all, h.symm⟩, fun h => h.2.symm⟩

theorem exists_plan_iff :
    (∃ plan, (plannedTunnelPeersForLocalEndpoints ctx book).1 = .ok plan) ↔
      ∀ p ∈ ctx.others, Plannable ctx book p := by
  constructor
  · rintro ⟨plan, h⟩
    exact (planned_eq_ok.mp h).1
  · intro all
    exact ⟨_, planned_eq_ok.mpr ⟨all, rfl⟩⟩

theorem mem_plan {plan : List PlannedTunnelPeer}
    (h : (plannedTunnelPeersForLocalEndpoints ctx book).1 = .ok plan) {planned : PlannedTunnelPeer} :
    planned ∈ plan ↔ ∃ p ∈ ctx.others, PlannedAs ctx book p planned := by
  obtain ⟨-, rfl⟩ := planned_eq_ok.mp h
  simp only [mem_sortByKey, List.mem_filterMap, plannedPeer_eq_some]

theorem PlannedAs.participant_eq {planned : PlannedTunnelPeer}
    (h : PlannedAs ctx book participant planned) : planned.participant = participant := by
  obtain ⟨a, peer, -, -, -, rfl⟩ := h
  rfl

/-- Different entries of a plan are for different participants. -/
theorem nodup_participants_plan {plan : List PlannedTunnelPeer}
    (h : (plannedTunnelPeersForLocalEndpoints ctx book).1 = .ok plan) :
    (plan.map PlannedTunnelPeer.participant).Nodup := by
  obtain ⟨-, rfl⟩ := planned_eq_ok.mp h
  have perm := (perm_sortByKey (fun planned : PlannedTunnelPeer => planned.peer.pubkeyHex)
    (ctx.others.filterMap (plannedPeer ctx (advertisedRouteAssignments ctx.app ctx.ownPubkey
      ctx.announcements) book))).map PlannedTunnelPeer.participant
  rw [perm.nodup_iff, List.map_filterMap]
  refine (nodup_otherParticipants ..).filterMap fun p p' name hp hp' => ?_
  obtain ⟨x, hx, rfl⟩ := Option.map_eq_some_iff.mp hp
  obtain ⟨x', hx', same⟩ := Option.map_eq_some_iff.mp hp'
  rw [← (plannedPeer_eq_some.mp hx).participant_eq, ← (plannedPeer_eq_some.mp hx').participant_eq,
    same]

/-! ## The peer of a participant -/

def announcedIp (a : PeerAnnouncement) : String := stripCidr a.tunnelIp ++ "/32"

/-- What building a peer checks, and what the peer then is. -/
theorem tunnelPeerFromEndpoint_eq_ok {codec : KeyCodec} {a : PeerAnnouncement} {endpoint : String}
    {routedIps : List String} {peer : TunnelPeer} :
    tunnelPeerFromEndpoint codec a endpoint routedIps = .ok peer ↔
      ∃ addr hex, SocketAddr.parse endpoint = some addr ∧ keyB64ToHex codec a.publicKey = .ok hex ∧
        peer = ⟨hex, addr.fmt, routedIps.foldl pushUnique [announcedIp a]⟩ := by
  unfold tunnelPeerFromEndpoint
  cases SocketAddr.parse endpoint with
  | none => simp [throw, throwThe, MonadExceptOf.throw, bind, Except.bind]
  | some addr =>
    cases keyB64ToHex codec a.publicKey with
    | error e => simp [bind, Except.bind, pure, Except.pure]
    | ok hex => simp [bind, Except.bind, pure, Except.pure, announcedIp, eq_comm]

theorem mem_allowedIps {a : PeerAnnouncement} {peer : TunnelPeer}
    (h : ctx.peerOf book participant a = .ok peer) {ip : String} :
    ip ∈ peer.allowedIps ↔ ip = announcedIp a ∨
      routeOwner ctx.app ctx.ownPubkey ctx.announcements ip = some participant := by
  obtain ⟨addr, hex, -, -, rfl⟩ := tunnelPeerFromEndpoint_eq_ok.mp h
  rw [mem_foldl_pushUnique, mem_assignedRoutes]
  simp [announcedIp]

end NostrVpn.Cli
