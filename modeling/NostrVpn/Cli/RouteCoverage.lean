import NostrVpn.Cli.RouteAssignment
import NostrVpn.Cli.CryptokeyRouting

/-!
# Routes of the peers that a plan leaves out

The assignment chooses the owner of a route among all announced participants, and the plan then
leaves out those that need a public signal, with the routes they own.
-/
namespace NostrVpn.Cli

open Rust Rust.Net NostrVpn.Core

/-- Every route but the default one that a planned peer advertises is carried by one planned peer. -/
def RoutesCovered (ctx : PlanContext) (plan : List PlannedTunnelPeer) : Prop :=
  ∀ route, route ≠ "0.0.0.0/0" →
    (∃ x ∈ plan, Advertises ctx.announcements x.participant route) →
      ∃! x, x ∈ plan ∧ route ∈ x.peer.allowedIps

/-- The participant has announced itself and does not need a public signal. -/
def IsPlanned (ctx : PlanContext) (book : PeerPathBook) (participant : String) : Prop :=
  IsOther ctx.app ctx.ownPubkey participant ∧
    ∃ a, ctx.announcements.lookup participant = some a ∧ ¬ Withheld ctx book participant a

/-- The route is the tunnel address that the participant announces. -/
def HasTunnelAddress (ctx : PlanContext) (participant route : String) : Prop :=
  ∃ a, ctx.announcements.lookup participant = some a ∧ route = announcedIp a

/-- The owner of the route is planned and no other planned participant has it as its tunnel address,
or the owner is left out and one planned participant happens to have that address. -/
def RouteReachable (ctx : PlanContext) (book : PeerPathBook) (owner route : String) : Prop :=
  (IsPlanned ctx book owner ∧
      ∀ p, IsPlanned ctx book p → HasTunnelAddress ctx p route → p = owner) ∨
    (¬ IsPlanned ctx book owner ∧ ∃! p, IsPlanned ctx book p ∧ HasTunnelAddress ctx p route)

section Coverage
variable {ctx : PlanContext} {book : PeerPathBook} {plan : List PlannedTunnelPeer}

/-- The planned participants carry their tunnel address and the routes they own. -/
def Carries (ctx : PlanContext) (book : PeerPathBook) (participant route : String) : Prop :=
  IsPlanned ctx book participant ∧ (HasTunnelAddress ctx participant route ∨
    OwnsRoute ctx.app ctx.ownPubkey ctx.announcements participant route)

theorem isPlanned_iff (h : (plannedTunnelPeersForLocalEndpoints ctx book).1 = .ok plan)
    {participant : String} :
    IsPlanned ctx book participant ↔ ∃ x ∈ plan, x.participant = participant := by
  constructor
  · rintro ⟨other, a, found, free⟩
    have mem := mem_otherParticipants.mpr other
    obtain ⟨peer, ok⟩ := (planned_eq_ok.mp h).1 participant mem a found free
    exact ⟨_, (mem_plan h).mpr ⟨participant, mem, a, peer, found, free, ok, rfl⟩, rfl⟩
  · rintro ⟨x, hx, rfl⟩
    obtain ⟨p, mem, a, peer, found, free, -, rfl⟩ := (mem_plan h).mp hx
    exact ⟨mem_otherParticipants.mp mem, a, found, free⟩

theorem mem_allowedIps_iff_carries
    (h : (plannedTunnelPeersForLocalEndpoints ctx book).1 = .ok plan) {x : PlannedTunnelPeer}
    (hx : x ∈ plan) {route : String} :
    route ∈ x.peer.allowedIps ↔ Carries ctx book x.participant route := by
  have planned := (isPlanned_iff h).mpr ⟨x, hx, rfl⟩
  obtain ⟨p, mem, a, peer, found, free, ok, rfl⟩ := (mem_plan h).mp hx
  rw [mem_allowedIps ok, routeOwner_eq_some_iff, Carries, and_iff_right planned]
  simp [HasTunnelAddress, found]

theorem existsUnique_carrier_iff
    (h : (plannedTunnelPeersForLocalEndpoints ctx book).1 = .ok plan) {route : String} :
    (∃! x, x ∈ plan ∧ route ∈ x.peer.allowedIps) ↔ ∃! p, Carries ctx book p route := by
  constructor
  · rintro ⟨x, ⟨hx, mem⟩, only⟩
    refine ⟨x.participant, (mem_allowedIps_iff_carries h hx).mp mem, fun p carries => ?_⟩
    obtain ⟨y, hy, rfl⟩ := (isPlanned_iff h).mp carries.1
    rw [only y ⟨hy, (mem_allowedIps_iff_carries h hy).mpr carries⟩]
  · rintro ⟨p, carries, only⟩
    obtain ⟨x, hx, rfl⟩ := (isPlanned_iff h).mp carries.1
    refine ⟨x, ⟨hx, (mem_allowedIps_iff_carries h hx).mpr carries⟩, fun y ⟨hy, mem⟩ => ?_⟩
    have same := only y.participant ((mem_allowedIps_iff_carries h hy).mp mem)
    exact List.inj_on_of_nodup_map (nodup_participants_plan h) hy hx same

/-- One owner settles who carries a route. -/
theorem existsUnique_carries_iff {owner route : String}
    (owns : OwnsRoute ctx.app ctx.ownPubkey ctx.announcements owner route) :
    (∃! p, Carries ctx book p route) ↔ RouteReachable ctx book owner route := by
  have sole (p : String) (h : OwnsRoute ctx.app ctx.ownPubkey ctx.announcements p route) :
      p = owner :=
    Option.some.inj ((routeOwner_eq_some_iff.mpr h).symm.trans (routeOwner_eq_some_iff.mpr owns))
  by_cases planned : IsPlanned ctx book owner
  · have carries : Carries ctx book owner route := ⟨planned, Or.inr owns⟩
    simp only [RouteReachable, planned, true_and, not_true_eq_false, false_and, or_false]
    constructor
    · rintro ⟨q, -, only⟩ p hp address
      exact (only p ⟨hp, Or.inl address⟩).trans (only owner carries).symm
    · intro alone
      refine ⟨owner, carries, fun p hp => ?_⟩
      exact hp.2.elim (alone p hp.1) (sole p)
  · simp only [RouteReachable, planned, false_and, not_false_eq_true, true_and, false_or]
    refine existsUnique_congr fun p => and_congr_right fun hp => or_iff_left fun h => ?_
    exact planned (sole p h ▸ hp)

end Coverage

/-- A plan covers its routes exactly when the owner of each of them is planned, or its address
stands in for it. -/
theorem routesCovered_iff {ctx : PlanContext} {book : PeerPathBook} {plan : List PlannedTunnelPeer}
    (h : (plannedTunnelPeersForLocalEndpoints ctx book).1 = .ok plan) :
    RoutesCovered ctx plan ↔
      ∀ route, route ≠ "0.0.0.0/0" →
        (∃ p, IsPlanned ctx book p ∧ Advertises ctx.announcements p route) →
          ∀ owner, OwnsRoute ctx.app ctx.ownPubkey ctx.announcements owner route →
            RouteReachable ctx book owner route := by
  refine forall_congr' fun route => imp_congr_right fun default => ?_
  have advertised : (∃ x ∈ plan, Advertises ctx.announcements x.participant route) ↔
      ∃ p, IsPlanned ctx book p ∧ Advertises ctx.announcements p route := by
    simp only [isPlanned_iff h]
    exact ⟨fun ⟨x, hx, adv⟩ => ⟨_, ⟨x, hx, rfl⟩, adv⟩, fun ⟨_, ⟨x, hx, rfl⟩, adv⟩ => ⟨x, hx, adv⟩⟩
  rw [advertised]
  refine imp_congr_right fun ⟨p, planned, adv⟩ => ?_
  obtain ⟨owner, owns⟩ := exists_routeOwner default ⟨p, planned.1, adv⟩
  have owns := routeOwner_eq_some_iff.mp owns
  rw [existsUnique_carrier_iff h, existsUnique_carries_iff owns]
  refine ⟨fun reachable other owns' => ?_, fun all => all owner owns⟩
  obtain rfl : other = owner := Option.some.inj
    ((routeOwner_eq_some_iff.mpr owns').symm.trans (routeOwner_eq_some_iff.mpr owns))
  exact reachable

/-! ## A route behind a foreign local network -/

/-- The first participant sits on a foreign local network, and the second advertises its route too. -/
def sharedRoute (first : String) : PlanContext :=
  sampleContext [{ sampleAnnouncement 0 "10.44.7.7/32" ["10.1.0.0/16"] with endpoint := first },
    sampleAnnouncement 1 "10.44.8.8/32" ["10.1.0.0/16"]]

theorem sharedRoute_advertised (first : String) :
    Advertises (sharedRoute first).announcements (sampleParticipants[1]) "10.1.0.0/16" :=
  ⟨by decide, sampleAnnouncement 1 "10.44.8.8/32" ["10.1.0.0/16"], rfl, "10.1.0.0/16", by decide,
    by decide⟩

/-- The route of the peer left out is carried by nobody. -/
theorem shared_route_lost :
    ∃ plan, (plannedTunnelPeersForLocalEndpoints (sharedRoute "192.168.1.7:51820")
      sampleBook).1 = .ok plan ∧ ¬ RoutesCovered (sharedRoute "192.168.1.7:51820") plan := by
  refine ⟨planOf (sharedRoute "192.168.1.7:51820") sampleBook, by decide +kernel, fun covered => ?_⟩
  have second : ∃ x ∈ planOf (sharedRoute "192.168.1.7:51820") sampleBook,
      x.participant = sampleParticipants[1] := by decide +kernel
  have nobody : ∀ x ∈ planOf (sharedRoute "192.168.1.7:51820") sampleBook,
      "10.1.0.0/16" ∉ x.peer.allowedIps := by decide +kernel
  obtain ⟨x, hx, name⟩ := second
  obtain ⟨y, ⟨hy, mem⟩, -⟩ := covered "10.1.0.0/16" (by decide)
    ⟨x, hx, name ▸ sharedRoute_advertised _⟩
  exact nobody y hy mem

theorem routesCovered_iff_of_public_peers :
    RoutesCovered (sharedRoute "203.0.113.20:51820")
        (planOf (sharedRoute "203.0.113.20:51820") sampleBook) ↔
      ∀ route, route ≠ "0.0.0.0/0" →
        (∃ p, IsPlanned (sharedRoute "203.0.113.20:51820") sampleBook p ∧
          Advertises (sharedRoute "203.0.113.20:51820").announcements p route) →
          ∀ owner, OwnsRoute sampleConfig none
              (sharedRoute "203.0.113.20:51820").announcements owner route →
            RouteReachable (sharedRoute "203.0.113.20:51820") sampleBook owner route :=
  routesCovered_iff (by decide +kernel)

end NostrVpn.Cli
