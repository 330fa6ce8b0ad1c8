import NostrVpn.Cli.CryptokeyRouting

/-!
# Isolation of a malformed announcement

What one participant announces changes the plan of the others only through the routes it claims,
unless it raises an error: `?` in the loop then ends the whole plan.
-/
namespace NostrVpn.Cli

open Rust Rust.Net NostrVpn.Core

/-- The inputs with the announcement of `m` absent. -/
def PlanContext.without (ctx : PlanContext) (m : String) : PlanContext :=
  { ctx with announcements := ctx.announcements.erase m }

/-- The inputs with the announcement of `m` replaced. -/
def PlanContext.announcing (ctx : PlanContext) (m : String) (a : PeerAnnouncement) : PlanContext :=
  { ctx with announcements := ctx.announcements.insert m a }

variable {ctx : PlanContext} {book : PeerPathBook} {m : String} {bad : PeerAnnouncement}

/-! ## Routes -/

theorem lookup_without_ne {p : String} (h : p ≠ m) :
    (ctx.without m).announcements.lookup p = ctx.announcements.lookup p :=
  AList.lookup_erase_ne h

theorem lookup_announcing_ne {p : String} (h : p ≠ m) :
    (ctx.announcing m bad).announcements.lookup p = ctx.announcements.lookup p :=
  AList.lookup_insert_ne h

theorem eq_exitNode_of_selected {app : AppConfig} {own : Option String}
    {announcements : Announcements} {p : String}
    (h : selectedExitNodeParticipant app own announcements = some p) : p = app.exitNode := by
  unfold selectedExitNodeParticipant at h
  split_ifs at h
  split at h
  · cases h
  · split_ifs at h
    exact (Option.some.inj h).symm

/-- A participant other than `m` is the selected exit node whatever `m` announces. -/
theorem selected_iff {p : String} (h : p ≠ m) :
    selectedExitNodeParticipant ctx.app ctx.ownPubkey (ctx.announcing m bad).announcements = some p ↔
      selectedExitNodeParticipant ctx.app ctx.ownPubkey (ctx.without m).announcements = some p := by
  by_cases exit : ctx.app.exitNode = m
  · have no {announcements} :
        selectedExitNodeParticipant ctx.app ctx.ownPubkey announcements ≠ some p :=
      fun selected => h ((eq_exitNode_of_selected selected).trans exit)
    exact iff_of_false no no
  · unfold selectedExitNodeParticipant
    rw [lookup_without_ne exit, lookup_announcing_ne exit]

theorem claimedRoutes_ne {p : String} (h : p ≠ m) :
    claimedRoutes ctx.app ctx.ownPubkey (ctx.announcing m bad).announcements p =
      claimedRoutes ctx.app ctx.ownPubkey (ctx.without m).announcements p := by
  have selected := @selected_iff ctx m bad p h
  have same : (selectedExitNodeParticipant ctx.app ctx.ownPubkey
      (ctx.announcing m bad).announcements != some p) = (selectedExitNodeParticipant ctx.app
        ctx.ownPubkey (ctx.without m).announcements != some p) := by
    rw [Bool.eq_iff_iff, bne_iff_ne, bne_iff_ne]
    exact not_congr selected
  simp only [claimedRoutes, lookup_without_ne h, lookup_announcing_ne h, same]

/-- A route that `m` does not advertise keeps its owner. -/
theorem routeOwner_of_notMem {route : String} (h : route ∉ normalizedPeerIpv4Routes bad) :
    routeOwner ctx.app ctx.ownPubkey (ctx.announcing m bad).announcements route =
      routeOwner ctx.app ctx.ownPubkey (ctx.without m).announcements route := by
  unfold routeOwner
  congr 1
  funext p
  by_cases eq : p = m
  · subst eq
    have absent : (ctx.without p).announcements.lookup p = none :=
      AList.lookup_erase ..
    have present : (ctx.announcing p bad).announcements.lookup p = some bad :=
      AList.lookup_insert ..
    have new : route ∉ claimedRoutes ctx.app ctx.ownPubkey (ctx.announcing p bad).announcements p := by
      intro mem
      obtain ⟨a, found, adv⟩ := exists_announcement_of_claimed mem
      rw [present] at found
      exact h (Option.some.inj found ▸ adv)
    have old : route ∉ claimedRoutes ctx.app ctx.ownPubkey (ctx.without p).announcements p := by
      simp [claimedRoutes, absent]
    simp only [new, old]
  · rw [claimedRoutes_ne eq]

/-! ## Peers -/

/-- The allowed IPs agree in the tunnel address, which comes first, and in every route that is not
among the excepted ones. -/
def SameAllowedIps (except xs ys : List String) : Prop :=
  xs.head? = ys.head? ∧ (xs.filter fun ip => ip ∉ except) = ys.filter fun ip => ip ∉ except

/-- The allowed IPs are the tunnel address followed by the other assigned routes. -/
theorem foldl_pushUnique_singleton {own : String} {routes : List String} (h : routes.Nodup) :
    routes.foldl pushUnique [own] = own :: routes.filter (· ≠ own) := by
  suffices all : ∀ out : List String, routes.foldl pushUnique out =
      out ++ routes.filter fun route => route ∉ out by
    simpa using all [own]
  induction routes with
  | nil => simp
  | cons route routes ih =>
    intro out
    obtain ⟨fresh, rest⟩ := List.nodup_cons.mp h
    rw [List.foldl_cons, ih rest, pushUnique]
    split_ifs with old
    · simp [old]
    · have same : (routes.filter fun r => r ∉ out ++ [route]) = routes.filter fun r => r ∉ out :=
        List.filter_congr fun r hr => by
          have ne : r ≠ route := fun eq => fresh (eq ▸ hr)
          simp [ne]
      rw [same, List.filter_cons_of_pos (by simpa using old), List.append_assoc,
        List.singleton_append]

theorem sameRoutes {p : String} :
    ((ctx.announcing m bad).routesOf p).filter (fun r => r ∉ normalizedPeerIpv4Routes bad) =
      ((ctx.without m).routesOf p).filter fun r => r ∉ normalizedPeerIpv4Routes bad := by
  have sorted (c : PlanContext) :
      ((c.routesOf p).filter fun r => r ∉ normalizedPeerIpv4Routes bad).Pairwise (· ≤ ·) :=
    (sorted_assignedRoutes ..).filter _
  have nodup (c : PlanContext) :
      ((c.routesOf p).filter fun r => r ∉ normalizedPeerIpv4Routes bad).Nodup :=
    (nodup_assignedRoutes ..).filter _
  refine List.Perm.eq_of_pairwise (fun _ _ _ _ => String.le_antisymm) (sorted _) (sorted _) ?_
  refine (List.perm_ext_iff_of_nodup (nodup _) (nodup _)).mpr fun route => ?_
  simp only [List.mem_filter, decide_eq_true_eq, PlanContext.routesOf, mem_assignedRoutes]
  exact and_congr_left fun kept => iff_of_eq (congrArg (· = some p) (routeOwner_of_notMem kept))

/-- The peer of another participant when `m` announces something. -/
theorem sameAllowedIps {a : PeerAnnouncement} {p : String} {x y : TunnelPeer}
    (okx : (ctx.without m).peerOf book p a = .ok x)
    (oky : (ctx.announcing m bad).peerOf book p a = .ok y) :
    SameAllowedIps (normalizedPeerIpv4Routes bad) y.allowedIps x.allowedIps := by
  obtain ⟨addr, hex, -, -, rfl⟩ := tunnelPeerFromEndpoint_eq_ok.mp okx
  obtain ⟨addr', hex', -, -, rfl⟩ := tunnelPeerFromEndpoint_eq_ok.mp oky
  have routes := @sameRoutes ctx m bad p
  rw [SameAllowedIps, foldl_pushUnique_singleton (nodup_assignedRoutes ..),
    foldl_pushUnique_singleton (nodup_assignedRoutes ..)]
  refine ⟨rfl, ?_⟩
  have swap (own : String) (l : List String) :
      ((l.filter (· ≠ own)).filter fun r => r ∉ normalizedPeerIpv4Routes bad) =
        (l.filter fun r => r ∉ normalizedPeerIpv4Routes bad).filter (· ≠ own) := by
    rw [List.filter_filter, List.filter_filter]
    exact List.filter_congr fun r _ => Bool.and_comm ..
  simp only [List.filter_cons, swap, routes]
  rfl

/-! ## The plan -/

/-- The announcement has a usable endpoint and a key of 32 bytes. -/
def WellFormed (ctx : PlanContext) (book : PeerPathBook) (participant : String)
    (a : PeerAnnouncement) : Prop :=
  (∃ addr, SocketAddr.parse (endpointOf ctx book participant a) = some addr) ∧
    ∃ bytes, ctx.codec.decodeBase64 a.publicKey = .ok bytes ∧ bytes.length = 32

theorem keyB64ToHex_eq_ok {codec : KeyCodec} {value hex : String} :
    keyB64ToHex codec value = .ok hex ↔
      ∃ bytes, codec.decodeBase64 value = .ok bytes ∧ bytes.length = 32 ∧
        hex = codec.encodeHex bytes := by
  unfold keyB64ToHex
  cases codec.decodeBase64 value with
  | error e => simp [Except.mapError, bind, Except.bind]
  | ok bytes =>
    by_cases len : bytes.length = 32
    · simp [Except.mapError, bind, Except.bind, pure, Except.pure, len, eq_comm]
    · simp [Except.mapError, bind, Except.bind, throw, throwThe, MonadExceptOf.throw, len]

theorem exists_peerOf_iff {p : String} {a : PeerAnnouncement} :
    (∃ peer, ctx.peerOf book p a = .ok peer) ↔ WellFormed ctx book p a := by
  simp only [PlanContext.peerOf, tunnelPeerFromEndpoint_eq_ok, keyB64ToHex_eq_ok, WellFormed,
    PeerAnnouncement.publicKey_withoutExpiredRelay]
  constructor
  · rintro ⟨peer, addr, hex, parsed, ⟨bytes, decoded, len, -⟩, -⟩
    exact ⟨⟨addr, parsed⟩, bytes, decoded, len⟩
  · rintro ⟨⟨addr, parsed⟩, bytes, decoded, len⟩
    exact ⟨_, addr, _, parsed, ⟨bytes, decoded, len, rfl⟩, rfl⟩

/-- The announcement of `m` is not planned, or does not raise an error. -/
def Harmless (ctx : PlanContext) (book : PeerPathBook) (m : String) (bad : PeerAnnouncement) :
    Prop :=
  m ∉ ctx.others ∨ Withheld ctx book m bad ∨ WellFormed ctx book m bad

theorem plannable_announcing_ne {p : String} (h : p ≠ m) :
    Plannable (ctx.announcing m bad) book p ↔ Plannable (ctx.without m) book p := by
  simp only [Plannable, lookup_without_ne h, lookup_announcing_ne h, exists_peerOf_iff]
  rfl

theorem plannable_announcing_self :
    Plannable (ctx.announcing m bad) book m ↔ Withheld ctx book m bad ∨ WellFormed ctx book m bad := by
  have found : (ctx.announcing m bad).announcements.lookup m = some bad := AList.lookup_insert ..
  simp only [Plannable, found, Option.some.injEq, forall_eq', exists_peerOf_iff]
  exact (or_iff_not_imp_left).symm

theorem exists_plan_announcing_iff (rest : ∀ p ∈ ctx.others, Plannable (ctx.without m) book p) :
    (∃ plan, (plannedTunnelPeersForLocalEndpoints (ctx.announcing m bad) book).1 = .ok plan) ↔
      Harmless ctx book m bad := by
  rw [exists_plan_iff]
  constructor
  · intro all
    by_cases mem : m ∈ ctx.others
    · exact Or.inr (plannable_announcing_self.mp (all m mem))
    · exact Or.inl mem
  · intro harmless p hp
    by_cases eq : p = m
    · subst eq
      exact plannable_announcing_self.mpr (harmless.resolve_left fun out => out hp)
    · exact (plannable_announcing_ne eq).mpr (rest p hp)

/-- The peer keeps its endpoint, its key and its allowed IPs but for the excepted routes. -/
structure SamePeer (except : List String) (y x : PlannedTunnelPeer) : Prop where
  participant : y.participant = x.participant
  endpoint : y.endpoint = x.endpoint
  configured : y.peer.endpoint = x.peer.endpoint
  key : y.peer.pubkeyHex = x.peer.pubkeyHex
  allowedIps : SameAllowedIps except y.peer.allowedIps x.peer.allowedIps

theorem exists_samePeer {p : String} {x : PlannedTunnelPeer}
    (h : PlannedAs (ctx.without m) book p x) :
    ∃ y, PlannedAs (ctx.announcing m bad) book p y ∧
      SamePeer (normalizedPeerIpv4Routes bad) y x := by
  obtain ⟨a, peer, announced, free, ok, rfl⟩ := h
  have ne : p ≠ m := by
    rintro rfl
    rw [show (ctx.without p).announcements.lookup p = none from AList.lookup_erase ..] at announced
    cases announced
  have wellFormed := exists_peerOf_iff.mp ⟨peer, ok⟩
  obtain ⟨peer', ok'⟩ := (@exists_peerOf_iff (ctx.announcing m bad) _ _ _).mpr wellFormed
  rw [lookup_without_ne ne] at announced
  refine ⟨_, ⟨a, peer', (lookup_announcing_ne ne).trans announced, free, ok', rfl⟩, ?_⟩
  have ips := sameAllowedIps ok ok'
  obtain ⟨addr, hex, parsed, key, rfl⟩ := tunnelPeerFromEndpoint_eq_ok.mp ok
  obtain ⟨addr', hex', parsed', key', rfl⟩ := tunnelPeerFromEndpoint_eq_ok.mp ok'
  obtain rfl : addr' = addr := Option.some.inj (parsed'.symm.trans parsed)
  obtain rfl : hex' = hex := Except.ok.inj (key'.symm.trans key)
  exact ⟨rfl, rfl, rfl, rfl, ips⟩

/-- With this announcement of `m` the plan succeeds and keeps every peer it has without. -/
def FaultIsolated (ctx : PlanContext) (book : PeerPathBook) (m : String) (bad : PeerAnnouncement)
    (plan : List PlannedTunnelPeer) : Prop :=
  ∃ plan', (plannedTunnelPeersForLocalEndpoints (ctx.announcing m bad) book).1 = .ok plan' ∧
    ∀ x ∈ plan, ∃ y ∈ plan', SamePeer (normalizedPeerIpv4Routes bad) y x

/-- An announcement is isolated exactly when the loop skips it or finds nothing wrong with it. -/
theorem faultIsolated_iff {plan : List PlannedTunnelPeer}
    (h : (plannedTunnelPeersForLocalEndpoints (ctx.without m) book).1 = .ok plan) :
    FaultIsolated ctx book m bad plan ↔ Harmless ctx book m bad := by
  have rest := (planned_eq_ok.mp h).1
  rw [← exists_plan_announcing_iff rest]
  constructor
  · rintro ⟨plan', ok, -⟩
    exact ⟨plan', ok⟩
  · rintro ⟨plan', ok⟩
    refine ⟨plan', ok, fun x hx => ?_⟩
    obtain ⟨p, hp, planned⟩ := (mem_plan h).mp hx
    obtain ⟨y, planned', same⟩ := exists_samePeer planned
    exact ⟨y, (mem_plan ok).mpr ⟨p, hp, planned'⟩, same⟩

/-! ## A key that is not base64 -/

def firstSample : String := "79be667ef9dcbbac55a06295ce870b07029bfcdb2dce28d959f2815b16f81798"

def twoAnnounced : PlanContext :=
  sampleContext [sampleAnnouncement 0 "10.44.7.7/32" [], sampleAnnouncement 1 "10.44.8.8/32" []]

def badKey : PeerAnnouncement :=
  { sampleAnnouncement 0 "10.44.7.7/32" [] with publicKey := "not a key" }

/-- One key that does not decode takes the plan of everyone. -/
theorem not_faultIsolated_of_bad_key :
    ∃ plan, (plannedTunnelPeersForLocalEndpoints (twoAnnounced.without firstSample)
      sampleBook).1 = .ok plan ∧ ¬ FaultIsolated twoAnnounced sampleBook firstSample badKey plan := by
  refine ⟨planOf (twoAnnounced.without firstSample) sampleBook, by decide +kernel, ?_⟩
  rintro ⟨plan', ok, -⟩
  have failed : (plannedTunnelPeersForLocalEndpoints (twoAnnounced.announcing firstSample badKey)
      sampleBook).1 = .error "invalid base64 key encoding" := by decide +kernel
  rw [failed] at ok
  cases ok

theorem faultIsolated_iff_of_bad_key :
    FaultIsolated twoAnnounced sampleBook firstSample badKey
        (planOf (twoAnnounced.without firstSample) sampleBook) ↔
      Harmless twoAnnounced sampleBook firstSample badKey :=
  faultIsolated_iff (by decide +kernel)

end NostrVpn.Cli
