import NostrVpn.Cli.TunnelPlanFacts

/-!
# Cryptokey routing

WireGuard sends a packet to the peer that owns the longest matching prefix, so a prefix must belong
to one peer. Advertised routes have one owner each; the announced tunnel address of a peer is
checked against nothing.
-/
namespace NostrVpn.Cli

open Rust Rust.Net NostrVpn.Core

variable {ctx : PlanContext} {book : PeerPathBook}

/-- The prefixes that the allowed IPs of a peer denote. -/
def peerPrefixes (peer : TunnelPeer) : List IpPrefix := peer.allowedIps.filterMap IpPrefix.ofText

def SharesNoPrefix (x y : PlannedTunnelPeer) : Prop :=
  ∀ p ∈ peerPrefixes x.peer, p ∉ peerPrefixes y.peer

instance : Std.Symm SharesNoPrefix := ⟨fun _ _ apart p inY inX => apart p inX inY⟩

instance : DecidableRel SharesNoPrefix := fun x y =>
  inferInstanceAs (Decidable (∀ p ∈ peerPrefixes x.peer, p ∉ peerPrefixes y.peer))

/-- No prefix occurs in the allowed IPs of two different peers of the plan. -/
def Unambiguous (plan : List PlannedTunnelPeer) : Prop := plan.Pairwise SharesNoPrefix

instance (plan : List PlannedTunnelPeer) : Decidable (Unambiguous plan) :=
  inferInstanceAs (Decidable (plan.Pairwise SharesNoPrefix))

def announcedPrefix (a : PeerAnnouncement) : Option IpPrefix := IpPrefix.ofText (announcedIp a)

/-- An announced participant other than this node that is not held back. -/
def Reachable (ctx : PlanContext) (book : PeerPathBook) (participant : String)
    (a : PeerAnnouncement) : Prop :=
  participant ∈ ctx.others ∧ ctx.announcements.lookup participant = some a ∧
    ¬ Withheld ctx book participant a

/-- The announced address of a reachable participant is neither the announced address of another
one nor a route that another one owns. -/
def AddressesDisjoint (ctx : PlanContext) (book : PeerPathBook) : Prop :=
  ∀ p q a b, Reachable ctx book p a → Reachable ctx book q b → p ≠ q →
    ∀ x, announcedPrefix a = some x → announcedPrefix b ≠ some x ∧
      routeOwner ctx.app ctx.ownPubkey ctx.announcements x.fmt ≠ some q

theorem PlannedAs.reachable {p : String} {planned : PlannedTunnelPeer} (mem : p ∈ ctx.others)
    (h : PlannedAs ctx book p planned) :
    ∃ a, Reachable ctx book p a ∧ ctx.peerOf book p a = .ok planned.peer := by
  obtain ⟨a, peer, announced, free, ok, rfl⟩ := h
  exact ⟨a, ⟨mem, announced, free⟩, ok⟩

/-- A prefix of a peer is its announced address or a route it owns. -/
theorem mem_peerPrefixes {p : String} {a : PeerAnnouncement} {peer : TunnelPeer}
    (ok : ctx.peerOf book p a = .ok peer) {x : IpPrefix} :
    x ∈ peerPrefixes peer ↔ announcedPrefix a = some x ∨
      routeOwner ctx.app ctx.ownPubkey ctx.announcements x.fmt = some p := by
  simp only [peerPrefixes, List.mem_filterMap, mem_allowedIps ok, announcedPrefix]
  constructor
  · rintro ⟨ip, rfl | owned, denotes⟩
    · exact Or.inl denotes
    · obtain ⟨y, rfl⟩ := exists_prefix_of_owner owned
      obtain rfl : y = x := by simpa [IpPrefix.ofText_fmt] using denotes
      exact Or.inr owned
  · rintro (announced | owned)
    · exact ⟨_, Or.inl rfl, announced⟩
    · exact ⟨_, Or.inr owned, IpPrefix.ofText_fmt x⟩

theorem sharesNoPrefix_of_disjoint (disjoint : AddressesDisjoint ctx book) {p q : String}
    {a b : PeerAnnouncement} {x y : PlannedTunnelPeer} (ne : p ≠ q) (hp : Reachable ctx book p a)
    (hq : Reachable ctx book q b) (okp : ctx.peerOf book p a = .ok x.peer)
    (okq : ctx.peerOf book q b = .ok y.peer) : SharesNoPrefix x y := by
  intro r inX inY
  rcases (mem_peerPrefixes okp).mp inX with own | owned
  · obtain ⟨other, route⟩ := disjoint p q a b hp hq ne r own
    rcases (mem_peerPrefixes okq).mp inY with own' | owned'
    · exact other own'
    · exact route owned'
  · rcases (mem_peerPrefixes okq).mp inY with own' | owned'
    · exact (disjoint q p b a hq hp (Ne.symm ne) r own').2 owned
    · exact ne (Option.some.inj (owned.symm.trans owned'))

/-- A plan is unambiguous exactly when the announced addresses collide with nothing. -/
theorem plan_unambiguous_iff {plan : List PlannedTunnelPeer}
    (h : (plannedTunnelPeersForLocalEndpoints ctx book).1 = .ok plan) :
    Unambiguous plan ↔ AddressesDisjoint ctx book := by
  have distinct := nodup_participants_plan h
  constructor
  · intro unambiguous p q a b hp hq ne x own
    have planned {p a} (hp : Reachable ctx book p a) :
        ∃ z ∈ plan, z.participant = p ∧ ctx.peerOf book p a = .ok z.peer := by
      obtain ⟨mem, announced, free⟩ := hp
      obtain ⟨peer, ok⟩ := (planned_eq_ok.mp h).1 p mem a announced free
      exact ⟨_, (mem_plan h).mpr ⟨p, mem, a, peer, announced, free, ok, rfl⟩, rfl, ok⟩
    obtain ⟨y, memY, rfl, okY⟩ := planned hp
    obtain ⟨z, memZ, rfl, okZ⟩ := planned hq
    have apart : SharesNoPrefix y z := unambiguous.forall memY memZ fun eq => ne (congrArg _ eq)
    have inY : x ∈ peerPrefixes y.peer := (mem_peerPrefixes okY).mpr (Or.inl own)
    have notZ := apart x inY
    rw [mem_peerPrefixes okZ, not_or] at notZ
    exact notZ
  · intro disjoint
    have apart : ∀ y ∈ plan, ∀ z ∈ plan, y.participant ≠ z.participant →
        SharesNoPrefix y z := by
      intro y memY z memZ ne
      obtain ⟨p, memP, asY⟩ := (mem_plan h).mp memY
      obtain ⟨q, memQ, asZ⟩ := (mem_plan h).mp memZ
      rw [asY.participant_eq, asZ.participant_eq] at ne
      obtain ⟨a, hp, okp⟩ := asY.reachable memP
      obtain ⟨b, hq, okq⟩ := asZ.reachable memQ
      exact sharesNoPrefix_of_disjoint disjoint ne hp hq okp okq
    rw [List.Nodup, List.pairwise_map] at distinct
    exact distinct.imp_of_mem fun memY memZ ne => apart _ memY _ memZ ne

/-! ## Two peers that announce one address -/

def sampleParticipants : List String :=
  ["79be667ef9dcbbac55a06295ce870b07029bfcdb2dce28d959f2815b16f81798",
   "c6047f9441ed7d6d3045406e95c07cd85c778e4b8cef3ca7abac09b95c709ee5",
   "f9308a019258c31049344f85f89d5229b531c845836f99b08601f113bce036f9"]

def sampleConfig : AppConfig where
  networks := [{ id := "network-1", name := "Home", networkId := "mesh-home",
                 participants := sampleParticipants }]
  node := { id := "node-1" }

/-- A public peer with the sample key of the given index. -/
def sampleAnnouncement (key : Nat) (tunnelIp : String) (routes : List String) : PeerAnnouncement where
  nodeId := "peer"
  publicKey := ((sampleKeys.map Prod.fst)[key]?).getD ""
  endpoint := "203.0.113.2" ++ fmtNat key ++ ":51820"
  tunnelIp := tunnelIp
  advertisedRoutes := routes
  timestamp := 100

/-- The plan of a node outside the sample participants, for announcements in their order. -/
def sampleContext (announcements : List PeerAnnouncement) : PlanContext where
  codec := sampleCodec
  app := sampleConfig
  ownPubkey := none
  announcements := HashMap.ofList (sampleParticipants.zip announcements)
  ownLocalEndpoints := []
  now := 100

def sampleBook : PeerPathBook := ⟨∅⟩

/-- The peers of a planning call that succeeds. -/
def planOf (ctx : PlanContext) (book : PeerPathBook) : List PlannedTunnelPeer :=
  (plannedTunnelPeersForLocalEndpoints ctx book).1.toOption.getD []

/-- Two participants that announce one tunnel address. -/
def doubledAddress : PlanContext :=
  sampleContext [sampleAnnouncement 0 "10.44.7.7/32" [], sampleAnnouncement 1 "10.44.7.7/32" []]

/-- The second participant announces the address that the first one routes. -/
def routedAddress : PlanContext :=
  sampleContext [sampleAnnouncement 0 "10.44.7.7/32" ["10.44.8.8/32"],
    sampleAnnouncement 1 "10.44.8.8/32" []]

/-- Both peers get the /32 of the doubled address. -/
theorem plan_ambiguous_of_doubled_address :
    ∃ plan, (plannedTunnelPeersForLocalEndpoints doubledAddress sampleBook).1 = .ok plan ∧
      ¬ Unambiguous plan :=
  ⟨planOf doubledAddress sampleBook, by decide +kernel, by decide +kernel⟩

theorem plan_unambiguous_iff_of_routed_address :
    Unambiguous (planOf routedAddress sampleBook) ↔ AddressesDisjoint routedAddress sampleBook :=
  plan_unambiguous_iff (by decide +kernel)

end NostrVpn.Cli
