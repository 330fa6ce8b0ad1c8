import Mathlib.Combinatorics.Pigeonhole
import NostrVpn.Cli.RouteCoverage
import NostrVpn.Core.MagicDnsRecords
import NostrVpn.Core.PathChoice
import NostrVpn.Invite.AliasInvariant

/-!
# Derived tunnel addresses

`derive_mesh_tunnel_ip` chooses one of 254² addresses by a digest of the key. No operation on a configuration
compares the addresses of two members, and a plan takes over the addresses that they announce.
-/
namespace NostrVpn.Cli

open Rust Rust.Net NostrVpn.Core NostrVpn.Invite Transition

section Definitions
variable (sdk : NostrSdk) (sha256 : Sha256) (config : AppConfig)

/-- The node and the participants of its active network. -/
def meshMembers : List String := (config.ownPubkey sdk).toList ++ config.participantPubkeysHex

/-- The members have different addresses. -/
def AddressesApart : Prop :=
  ∀ p ∈ meshMembers sdk config, ∀ q ∈ meshMembers sdk config, p ≠ q → ∀ tunnelIp,
    deriveMeshTunnelIp sha256 config.effectiveNetworkId p = some tunnelIp →
      deriveMeshTunnelIp sha256 config.effectiveNetworkId q ≠ some tunnelIp

/-- A plan of the node for members that announce the addresses derived for them. -/
structure PlansDerived (ctx : PlanContext) : Prop where
  app : ctx.app = config
  own : ctx.ownPubkey = config.ownPubkey sdk
  derived : ∀ p a, ctx.announcements.lookup p = some a →
    deriveMeshTunnelIp sha256 config.effectiveNetworkId p = some a.tunnelIp

/-- The member is the node itself or a peer with the route. -/
def Holds (ctx : PlanContext) (plan : List PlannedTunnelPeer) (member route : String) : Prop :=
  ctx.ownPubkey = some member ∨ ∃ x ∈ plan, x.participant = member ∧ route ∈ x.peer.allowedIps

/-- No plan has two members with one address. -/
def KeepsApart : Prop :=
  ∀ ctx book plan, PlansDerived sdk sha256 config ctx →
    (plannedTunnelPeersForLocalEndpoints ctx book).1 = .ok plan →
    ∀ p ∈ meshMembers sdk config, ∀ q ∈ meshMembers sdk config, p ≠ q → ∀ tunnelIp,
      deriveMeshTunnelIp sha256 config.effectiveNetworkId p = some tunnelIp →
      deriveMeshTunnelIp sha256 config.effectiveNetworkId q = some tunnelIp →
        ¬ (Holds ctx plan p tunnelIp ∧ Holds ctx plan q tunnelIp)

/-- The digest of a member of the network. -/
def memberDigest (networkId pubkeyHex : String) : List UInt8 :=
  sha256 ((trim (normalizeRuntimeNetworkId networkId)).toUTF8.data.toList ++ "\n".toUTF8.data.toList ++
    (trim pubkeyHex).toUTF8.data.toList)

/-- The first or the second bytes of the digests differ modulo 254. -/
def DigestsDiffer (networkId p q : String) : Prop :=
  ((memberDigest sha256 networkId p)[0]?.getD 0).toNat % 254 ≠
      ((memberDigest sha256 networkId q)[0]?.getD 0).toNat % 254 ∨
    ((memberDigest sha256 networkId p)[1]?.getD 0).toNat % 254 ≠
      ((memberDigest sha256 networkId q)[1]?.getD 0).toNat % 254

end Definitions

/-! ## The address of a digest -/

section Address
variable {sha256 : Sha256} {networkId p q : String}

theorem meshTunnelIp_eq_iff {digest digest' : List UInt8} : meshTunnelIp digest = meshTunnelIp digest' ↔
    (digest[0]?.getD 0).toNat % 254 = (digest'[0]?.getD 0).toNat % 254 ∧
      (digest[1]?.getD 0).toNat % 254 = (digest'[1]?.getD 0).toNat % 254 := by
  unfold meshTunnelIp meshOctet
  generalize (digest[0]?.getD 0).toNat = a, (digest[1]?.getD 0).toNat = b, (digest'[0]?.getD 0).toNat = a',
    (digest'[1]?.getD 0).toNat = b'
  constructor
  · intro same
    have bits := congrArg (fun ip : Ipv4Addr => ip.bits.toNat) same
    simp only [Ipv4Addr.ofOctets, BitVec.toNat_ofNat] at bits
    omega
  · rintro ⟨third, fourth⟩
    rw [third, fourth]

theorem deriveMeshTunnelIp_of_filled (network : trim (normalizeRuntimeNetworkId networkId) ≠ "")
    (key : trim p ≠ "") : deriveMeshTunnelIp sha256 networkId p =
      some ((IpAddr.v4 (meshTunnelIp (memberDigest sha256 networkId p))).fmt ++ "/32") := by
  rw [deriveMeshTunnelIp, if_neg (not_or.mpr ⟨network, key⟩), memberDigest]

/-- Two members of a network have one address unless their digests differ. -/
theorem derive_eq_iff (network : trim (normalizeRuntimeNetworkId networkId) ≠ "") (left : trim p ≠ "")
    (right : trim q ≠ "") :
    deriveMeshTunnelIp sha256 networkId p = deriveMeshTunnelIp sha256 networkId q ↔
      ¬ DigestsDiffer sha256 networkId p q := by
  have texts (a b : Ipv4Addr) : (IpAddr.v4 a).fmt ++ "/32" = (IpAddr.v4 b).fmt ++ "/32" ↔ a = b := by
    refine ⟨fun same => ?_, fun same => by rw [same]⟩
    have fmt : (IpAddr.v4 a).fmt = (IpAddr.v4 b).fmt := by simpa using same
    have parsed := IpAddr.parse_fmt (.v4 a)
    rw [fmt, IpAddr.parse_fmt] at parsed
    simpa [eq_comm] using parsed
  rw [deriveMeshTunnelIp_of_filled network left, deriveMeshTunnelIp_of_filled network right, Option.some_inj,
    texts, meshTunnelIp_eq_iff, DigestsDiffer, not_or, not_not, not_not]

/-- A network with more members than there are addresses has two members with one address. -/
theorem digests_collide (sha256 : Sha256) (networkId : String) {members : List String} (distinct : members.Nodup)
    (many : 254 ^ 2 < members.length) :
    ∃ p ∈ members, ∃ q ∈ members, p ≠ q ∧ ¬ DigestsDiffer sha256 networkId p q := by
  let octets (p : String) : ℕ × ℕ := (((memberDigest sha256 networkId p)[0]?.getD 0).toNat % 254,
    ((memberDigest sha256 networkId p)[1]?.getD 0).toNat % 254)
  have room : (Finset.range 254 ×ˢ Finset.range 254).card < members.toFinset.card := by
    rw [List.toFinset_card_of_nodup distinct, Finset.card_product, Finset.card_range]
    omega
  obtain ⟨p, mem, q, mem', differ, same⟩ := Finset.exists_ne_map_eq_of_card_lt_of_maps_to room
    (f := octets) (fun p _ => by simp [octets, Nat.mod_lt])
  refine ⟨p, List.mem_toFinset.mp mem, q, List.mem_toFinset.mp mem', differ, ?_⟩
  obtain ⟨first, second⟩ := Prod.mk.inj same
  exact not_or.mpr ⟨not_not.mpr first, not_not.mpr second⟩

end Address

/-! ## A plan with two members that have one address -/

section Plan
variable {sdk : NostrSdk} {sha256 : Sha256} {config : AppConfig} {p q : String}

/-- A context of the node in which two members have announced one address. -/
def sharedAddress (sdk : NostrSdk) (config : AppConfig) (p q tunnelIp : String) : PlanContext where
  codec := sampleCodec
  app := config
  ownPubkey := config.ownPubkey sdk
  announcements := (AList.insert p (sampleAnnouncement 0 tunnelIp []) ∅).insert q (sampleAnnouncement 1 tunnelIp [])
  ownLocalEndpoints := []
  now := 100

theorem lookup_sharedAddress {tunnelIp member : String} {a : PeerAnnouncement}
    (found : (sharedAddress sdk config p q tunnelIp).announcements.lookup member = some a) :
    (member = p ∨ member = q) ∧ ∃ key < 2, a = sampleAnnouncement key tunnelIp [] := by
  simp only [sharedAddress] at found
  by_cases second : member = q
  · subst second
    rw [AList.lookup_insert] at found
    exact ⟨Or.inr rfl, 1, by omega, (Option.some.inj found).symm⟩
  · rw [AList.lookup_insert_ne second] at found
    by_cases first : member = p
    · subst first
      rw [AList.lookup_insert] at found
      exact ⟨Or.inl rfl, 0, by omega, (Option.some.inj found).symm⟩
    · rw [AList.lookup_insert_ne first] at found
      simp at found

/-- The first selection of a node that knows nothing of the announcer. -/
def firstSelection (a : PeerAnnouncement) : String :=
  let state := PeerPathState.default.refresh a 100
  let default' := selectPeerEndpointFromLocalEndpoints a []
  (if state.endpoints.entries = [] then some default'
    else state.selectEndpoint [] default' 100 peerPathRetryAfterSecs).getD default'

theorem firstSelection_sampleAnnouncement : ∀ key < 2,
    firstSelection (sampleAnnouncement key "" []) = "203.0.113.2" ++ fmtNat key ++ ":51820" := by
  decide +kernel

/-- Neither the participant nor its tunnel address decides the endpoint of a sample announcement. -/
theorem endpointOf_sampleAnnouncement (tunnelIp address member : String) {key : Nat} (small : key < 2) :
    endpointOf (sharedAddress sdk config p q address) sampleBook member (sampleAnnouncement key tunnelIp []) =
      "203.0.113.2" ++ fmtNat key ++ ":51820" := by
  have unrelayed (tunnelIp : String) (now : Nat) :
      (sampleAnnouncement key tunnelIp []).withoutExpiredRelay now = sampleAnnouncement key tunnelIp [] := by
    simp [PeerAnnouncement.withoutExpiredRelay, sampleAnnouncement]
  have refreshed (state : PeerPathState) (now : Nat) : state.refresh (sampleAnnouncement key tunnelIp []) now =
      state.refresh (sampleAnnouncement key "" []) now := by
    simp only [PeerPathState.refresh, Paths.announcementEndpoints, sampleAnnouncement]
  have default' (locals : List String) : selectPeerEndpointFromLocalEndpoints (sampleAnnouncement key tunnelIp [])
      locals = selectPeerEndpointFromLocalEndpoints (sampleAnnouncement key "" []) locals := by
    simp only [selectPeerEndpointFromLocalEndpoints, PeerAnnouncement.directEndpoint, sampleAnnouncement]
  have unknown : sampleBook.stateOf member = .default := by
    rw [PeerPathBook.stateOf, sampleBook, AList.lookup_empty, Option.getD_none]
  have now : (sharedAddress sdk config p q address).now = 100 := rfl
  have locals : (sharedAddress sdk config p q address).ownLocalEndpoints = [] := rfl
  rw [← firstSelection_sampleAnnouncement key small, endpointOf, selectPlannedEndpoint, select_eq, stateOf_refresh,
    unknown, unrelayed, refreshed, default', now, locals]
  rfl

/-- A member that has announced itself so is planned. -/
theorem plannedAs_sharedAddress {tunnelIp member : String} {a : PeerAnnouncement}
    (found : (sharedAddress sdk config p q tunnelIp).announcements.lookup member = some a) :
    ¬ Withheld (sharedAddress sdk config p q tunnelIp) sampleBook member a ∧
      ∃ peer, (sharedAddress sdk config p q tunnelIp).peerOf sampleBook member a = .ok peer := by
  obtain ⟨-, key, small, rfl⟩ := lookup_sharedAddress found
  have endpoint := @endpointOf_sampleAnnouncement sdk config p q tunnelIp tunnelIp member key small
  constructor
  · have far : ∀ key < 2, endpointIsLocalOnly ("203.0.113.2" ++ fmtNat key ++ ":51820") = false := by
      decide +kernel
    rw [Withheld, endpoint, peerEndpointRequiresPublicSignal, far key small]
    split_ifs <;> simp
  · have parsed : ∀ key < 2, (SocketAddr.parse ("203.0.113.2" ++ fmtNat key ++ ":51820")).isSome := by
      decide +kernel
    have decoded : ∀ key < 2,
        (keyB64ToHex sampleCodec (sampleAnnouncement key "" []).publicKey).toOption.isSome := by
      decide +kernel
    obtain ⟨addr, addr'⟩ := Option.isSome_iff_exists.mp (parsed key small)
    obtain ⟨hex, hex'⟩ := Option.isSome_iff_exists.mp (decoded key small)
    refine ⟨_, tunnelPeerFromEndpoint_eq_ok.mpr ⟨addr, hex, endpoint ▸ addr', ?_, rfl⟩⟩
    rw [PeerAnnouncement.publicKey_withoutExpiredRelay]
    cases key' : keyB64ToHex sampleCodec (sampleAnnouncement key "" []).publicKey with
    | error e => rw [key'] at hex'; cases hex'
    | ok hex'' =>
      rw [key'] at hex'
      obtain rfl : hex'' = hex := Option.some.inj hex'
      exact key'

theorem stripCidr_derived {networkId tunnelIp : String}
    (derived : deriveMeshTunnelIp sha256 networkId p = some tunnelIp) : stripCidr tunnelIp ++ "/32" = tunnelIp := by
  obtain ⟨ip, -, rfl⟩ := address_of_derive derived
  rw [stripCidr, splitFirst_fmt]

/-- Two members with one address are not kept apart. -/
theorem not_keepsApart (mem : p ∈ meshMembers sdk config) (mem' : q ∈ meshMembers sdk config) (differ : p ≠ q)
    {tunnelIp : String} (left : deriveMeshTunnelIp sha256 config.effectiveNetworkId p = some tunnelIp)
    (right : deriveMeshTunnelIp sha256 config.effectiveNetworkId q = some tunnelIp) :
    ¬ KeepsApart sdk sha256 config := by
  intro keeps
  have derived : PlansDerived sdk sha256 config (sharedAddress sdk config p q tunnelIp) := by
    refine ⟨rfl, rfl, fun member a found => ?_⟩
    obtain ⟨rfl | rfl, key, -, rfl⟩ := lookup_sharedAddress found
    · exact left
    · exact right
  obtain ⟨plan, planned⟩ : ∃ plan,
      (plannedTunnelPeersForLocalEndpoints (sharedAddress sdk config p q tunnelIp) sampleBook).1 = .ok plan :=
    ⟨_, planned_eq_ok.mpr ⟨fun member _ a found _ => (plannedAs_sharedAddress found).2, rfl⟩⟩
  have holds (member : String) (listed : member ∈ meshMembers sdk config)
      (found : ∃ a, (sharedAddress sdk config p q tunnelIp).announcements.lookup member = some a) :
      Holds (sharedAddress sdk config p q tunnelIp) plan member tunnelIp := by
    by_cases own : config.ownPubkey sdk = some member
    · exact Or.inl own
    · obtain ⟨a, found⟩ := found
      obtain ⟨free, peer, ok⟩ := plannedAs_sharedAddress found
      have other : member ∈ (sharedAddress sdk config p q tunnelIp).others := by
        have participant := (List.mem_append.mp listed).resolve_left fun mine => own (Option.mem_toList.mp mine)
        exact List.mem_filter.mpr ⟨participant, decide_eq_true (Ne.symm own)⟩
      refine Or.inr ⟨_, (mem_plan planned).mpr ⟨member, other, a, peer, found, free, ok, rfl⟩, rfl, ?_⟩
      refine (mem_allowedIps ok).mpr (Or.inl ?_)
      obtain ⟨-, key, -, rfl⟩ := lookup_sharedAddress found
      exact (stripCidr_derived left).symm
  refine keeps _ _ plan derived planned p mem q mem' differ tunnelIp left right ⟨holds p mem ?_, holds q mem' ?_⟩
  · exact ⟨_, (AList.lookup_insert_ne differ).trans (AList.lookup_insert _)⟩
  · exact ⟨_, AList.lookup_insert _⟩

/-- The members in normal form are kept apart exactly when their digests do that. -/
theorem apart_iff_of_normal (hex : sdk.HexKeys)
    (normal : ∀ p ∈ meshMembers sdk config, normalPubkey? sdk p = some p) :
    AddressesApart sdk sha256 config ∨ KeepsApart sdk sha256 config ↔
      trim (normalizeRuntimeNetworkId config.effectiveNetworkId) = "" ∨
        ∀ p ∈ meshMembers sdk config, ∀ q ∈ meshMembers sdk config, p ≠ q →
          DigestsDiffer sha256 config.effectiveNetworkId p q := by
  have same (network : trim (normalizeRuntimeNetworkId config.effectiveNetworkId) ≠ "") (p : String)
      (mem : p ∈ meshMembers sdk config) (q : String) (mem' : q ∈ meshMembers sdk config) :=
    @derive_eq_iff sha256 config.effectiveNetworkId p q network (trim_ne_of_normal hex (normal p mem))
      (trim_ne_of_normal hex (normal q mem'))
  constructor
  · refine fun apart => or_iff_not_imp_left.mpr fun network p mem q mem' differ => ?_
    by_contra collide
    have shared := (same network p mem q mem').mpr collide
    have left := @deriveMeshTunnelIp_of_filled sha256 _ p network (trim_ne_of_normal hex (normal p mem))
    have right := shared.symm.trans left
    rcases apart with apart | keeps
    · exact apart p mem q mem' differ _ left right
    · exact not_keepsApart mem mem' differ left right keeps
  · rintro (blank | digests)
    · refine Or.inl fun p _ q _ _ tunnelIp left => ?_
      rw [deriveMeshTunnelIp, if_pos (Or.inl blank)] at left
      cases left
    · by_cases blank : trim (normalizeRuntimeNetworkId config.effectiveNetworkId) = ""
      · refine Or.inl fun p _ q _ _ tunnelIp left => ?_
        rw [deriveMeshTunnelIp, if_pos (Or.inl blank)] at left
        cases left
      · refine Or.inl fun p mem q mem' differ tunnelIp left right => ?_
        exact (same blank p mem q mem').mp (left.trans right.symm) (digests p mem q mem' differ)

end Plan

/-! ## Runs -/

/-- In every configuration that the operations reach, the members are kept apart exactly when the network id
gives no addresses or the digests of the members differ. -/
theorem mesh_addresses_apart_iff {sdk : NostrSdk} (lawful : sdk.Lawful) (hex : sdk.HexKeys) (sha256 : Sha256)
    (generated : Generated) (fields : AppConfig) (networks : List NetworkConfig) (ops : List ConfigOp)
    {config : AppConfig} (reached : config =
      (run (ConfigOp.apply sdk sha256) (.load sdk sha256 generated fields networks) ops).config) :
    AddressesApart sdk sha256 config ∨ KeepsApart sdk sha256 config ↔
      trim (normalizeRuntimeNetworkId config.effectiveNetworkId) = "" ∨
        ∀ p ∈ meshMembers sdk config, ∀ q ∈ meshMembers sdk config, p ≠ q →
          DigestsDiffer sha256 config.effectiveNetworkId p q := by
  have loaded : ∀ network ∈ (LoadedConfig.load sdk sha256 generated fields networks).config.networks,
      NormalMembers sdk network := by
    obtain ⟨pre, -, eq⟩ := @load_eq sdk sha256 generated fields networks
    have eq' : (LoadedConfig.load sdk sha256 generated fields networks).config =
        pre.ensureDefaults sdk sha256 generated := by rw [← eq, LoadedConfig.load]
    rw [eq']
    exact normalMembers_ensureDefaults lawful generated pre
  have normal := @run_invariant _ _ (ConfigOp.apply sdk sha256)
    (fun s => ∀ network ∈ s.config.networks, NormalMembers sdk network)
    (fun _ _ => normalMembers_apply lawful) _ loaded ops
  rw [← reached] at normal
  refine apart_iff_of_normal hex fun p mem => ?_
  rcases List.mem_append.mp mem with own | participant
  · exact normal_ownPubkey lawful (Option.mem_toList.mp own)
  · exact normal _ config.activeNetwork_mem p (Or.inl (mem_sortDedup.mp participant))

/-! ## Equal digests -/

def equalDigests : Sha256 := fun _ => List.replicate 32 0

/-- A network to which two participants have been added. -/
def twoAdded : AppConfig :=
  (run (ConfigOp.apply sampleSdk equalDigests)
    (.load sampleSdk equalDigests sampleGenerated sampleRosterConfig twoNetworks)
    ((sampleParticipants.take 2).map (.editRoster 200 "network-2" .AddParticipant))).config

theorem mesh_addresses_apart_of_twoAdded :
    AddressesApart sampleSdk equalDigests twoAdded ∨ KeepsApart sampleSdk equalDigests twoAdded ↔
      trim (normalizeRuntimeNetworkId twoAdded.effectiveNetworkId) = "" ∨
        ∀ p ∈ meshMembers sampleSdk twoAdded, ∀ q ∈ meshMembers sampleSdk twoAdded, p ≠ q →
          DigestsDiffer equalDigests twoAdded.effectiveNetworkId p q :=
  mesh_addresses_apart_iff sampleSdk_lawful sampleSdk_hexKeys equalDigests sampleGenerated sampleRosterConfig
    twoNetworks ((sampleParticipants.take 2).map (.editRoster 200 "network-2" .AddParticipant)) rfl

/-- Both participants have been accepted and get one address, and a plan has both. -/
theorem two_members_share_address :
    sampleParticipants.take 2 ⊆ meshMembers sampleSdk twoAdded ∧
      ¬ (AddressesApart sampleSdk equalDigests twoAdded ∨ KeepsApart sampleSdk equalDigests twoAdded) := by
  have accepted : ∀ p ∈ sampleParticipants.take 2, p ∈ meshMembers sampleSdk twoAdded ∧
      deriveMeshTunnelIp equalDigests twoAdded.effectiveNetworkId p = some "10.44.1.1/32" := by
    decide +kernel
  obtain ⟨mem, left⟩ := accepted "79be667ef9dcbbac55a06295ce870b07029bfcdb2dce28d959f2815b16f81798" (by decide)
  obtain ⟨mem', right⟩ := accepted "c6047f9441ed7d6d3045406e95c07cd85c778e4b8cef3ca7abac09b95c709ee5" (by decide)
  refine ⟨fun p listed => (accepted p listed).1, ?_⟩
  rintro (apart | keeps)
  · exact apart _ mem _ mem' (by decide) _ left right
  · exact not_keepsApart mem mem' (by decide) left right keeps

end NostrVpn.Cli
