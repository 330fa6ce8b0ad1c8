import NostrVpn.Cli.EndpointAuthenticity

/-!
# Cryptokey routing of outgoing packets

The peer that a packet goes to holds a longest route to its destination. A route is a text
`address/length`, and it covers the addresses that agree with its own in the first `length` bits.
-/
namespace Rust

/-- What the rounds of a fallible map preserve, seen on the whole list. -/
theorem map_of_mapM_ok {α β γ ε : Type} {f : α → Except ε β} {l : List α} {out : List β}
    (h : l.mapM f = .ok out) (view : β → γ) (source : α → γ)
    (round : ∀ x ∈ l, ∀ y, f x = .ok y → view y = source x) : out.map view = l.map source := by
  obtain ⟨all, rfl⟩ := mapM_eq_ok.mp h
  induction l with
  | nil => rfl
  | cons x l ih =>
    obtain ⟨first, rest⟩ := List.forall_mem_cons.mp all
    cases result : f x with
    | error e => simp [result] at first
    | ok y =>
      have tail := ih (fun x' mem => round x' (by simp [mem])) rest (mapM_eq_ok.mpr ⟨rest, rfl⟩)
      simp [result, tail, round x (by simp) y result]

end Rust

namespace NostrVpn.Cli

open Rust Rust.Net Transition

/-- The text is an IPv4 route of this length, and the address has its first bits. -/
def Covers (value : String) (ip : Ipv4Addr) (len : Nat) : Prop :=
  len ≤ 32 ∧ ∃ addr lenText addrText, splitOnce '/' (trim value) = some (addrText, lenText) ∧
    parseUnsigned 255 lenText = some len ∧ Ipv4Addr.parse addrText = some addr ∧
    ∀ i < len, ip.bits.getMsbD i = addr.bits.getMsbD i

/-- A longest of the routes that cover the address is among those of the peer at the index. -/
def IsLongestPrefix (allowedIps : List (List String)) (ip : Ipv4Addr) (index : Nat) : Prop :=
  ∃ routes value len, allowedIps[index]? = some routes ∧ value ∈ routes ∧ Covers value ip len ∧
    ∀ others ∈ allowedIps, ∀ other ∈ others, ∀ otherLen, Covers other ip otherLen → otherLen ≤ len

/-! ## Masks -/

theorem getMsbD_prefixMask {len : Nat} (fits : len ≤ 32) (i : Nat) :
    (prefixMask len).getMsbD i = decide (i < len) := by
  unfold prefixMask
  split_ifs with zero
  · simp [zero]
  · simp only [BitVec.getMsbD_shiftLeft, BitVec.getMsbD_allOnes]
    congr 1
    exact propext (by omega)

/-- Addresses agree under the mask of a prefix exactly when they agree in its bits. -/
theorem and_prefixMask_eq_iff {len : Nat} (fits : len ≤ 32) (x y : BitVec 32) :
    x &&& prefixMask len = y &&& prefixMask len ↔ ∀ i < len, x.getMsbD i = y.getMsbD i := by
  constructor
  · intro same i inside
    have bit := congrArg (fun word => word.getMsbD i) same
    simpa [getMsbD_prefixMask fits, inside] using bit
  · intro agree
    refine BitVec.eq_of_getMsbD_eq fun i _ => ?_
    by_cases inside : i < len
    · simp [getMsbD_prefixMask fits, inside, agree i inside]
    · simp [getMsbD_prefixMask fits, inside]

theorem parse_eq_some_iff {value : String} {route : Ipv4Route} :
    Ipv4Route.parse value = some route ↔ route.prefixLen ≤ 32 ∧
      ∃ addr lenText addrText, splitOnce '/' (trim value) = some (addrText, lenText) ∧
        parseUnsigned 255 lenText = some route.prefixLen ∧ Ipv4Addr.parse addrText = some addr ∧
        route.network = addr.bits &&& prefixMask route.prefixLen := by
  obtain ⟨network, prefixLen⟩ := route
  simp only [Ipv4Route.parse, Option.bind_eq_bind, Option.bind_eq_some_iff, Option.pure_def]
  constructor
  · rintro ⟨⟨addrText, lenText⟩, split, len, parsed, h⟩
    split_ifs at h with tooLong
    · simp at h
    · obtain ⟨addr, address, h⟩ := Option.bind_eq_some_iff.mp h
      cases h
      exact ⟨Nat.not_lt.mp tooLong, addr, lenText, addrText, split, parsed, address, rfl⟩
  · rintro ⟨fits, addr, lenText, addrText, split, parsed, address, rfl⟩
    refine ⟨(addrText, lenText), split, prefixLen, parsed, ?_⟩
    rw [if_neg (Nat.not_lt.mpr fits)]
    exact Option.bind_eq_some_iff.mpr ⟨addr, address, rfl⟩

/-- A parsed route matches the addresses that its text covers. -/
theorem exists_matching_route_iff {value : String} {ip : Ipv4Addr} {len : Nat} :
    (∃ route, Ipv4Route.parse value = some route ∧ route.matches' ip ∧ route.prefixLen = len) ↔
      Covers value ip len := by
  constructor
  · rintro ⟨route, parsed, hit, rfl⟩
    obtain ⟨fits, addr, lenText, addrText, split, len, address, network⟩ := parse_eq_some_iff.mp parsed
    rw [Ipv4Route.matches', beq_iff_eq, network, and_prefixMask_eq_iff fits] at hit
    exact ⟨fits, addr, lenText, addrText, split, len, address, hit⟩
  · rintro ⟨fits, addr, lenText, addrText, split, parsed, address, agree⟩
    refine ⟨⟨addr.bits &&& prefixMask len, len⟩, parse_eq_some_iff.mpr ⟨fits, addr, lenText,
      addrText, split, parsed, address, rfl⟩, ?_, rfl⟩
    rw [Ipv4Route.matches', beq_iff_eq]
    exact (and_prefixMask_eq_iff fits ip.bits addr.bits).mpr agree

/-! ## The choice among all routes -/

/-- The routes of all peers that match the address, each with its peer and its length. -/
def matchingRoutes (tables : List (List Ipv4Route)) (ip : Ipv4Addr) : List (Nat × Nat) :=
  tables.zipIdx.flatMap fun (routes, index) =>
    (routes.filter fun route => route.matches' ip).map fun route => (index, route.prefixLen)

theorem mem_matchingRoutes {tables : List (List Ipv4Route)} {ip : Ipv4Addr} {index len : Nat} :
    (index, len) ∈ matchingRoutes tables ip ↔ ∃ routes route, tables[index]? = some routes ∧
      route ∈ routes ∧ route.matches' ip ∧ route.prefixLen = len := by
  simp only [matchingRoutes, List.mem_flatMap, List.mem_map, List.mem_filter, Prod.exists,
    List.mem_zipIdx_iff_getElem?, Prod.mk.injEq]
  constructor
  · rintro ⟨routes, i, at', route, ⟨mem, hit⟩, rfl, rfl⟩
    exact ⟨routes, route, at', mem, hit, rfl⟩
  · rintro ⟨routes, route, at', mem, hit, rfl⟩
    exact ⟨routes, index, at', route, ⟨mem, hit⟩, rfl, rfl⟩

/-- The routes that the peers' allowed IPs are parsed to. -/
def parsedRoutes (allowedIps : List (List String)) : List (List Ipv4Route) :=
  allowedIps.map fun routes => routes.filterMap Ipv4Route.parse

theorem mem_matchingRoutes_parsed {allowedIps : List (List String)} {ip : Ipv4Addr}
    {index len : Nat} :
    (index, len) ∈ matchingRoutes (parsedRoutes allowedIps) ip ↔
      ∃ routes value, allowedIps[index]? = some routes ∧ value ∈ routes ∧ Covers value ip len := by
  simp only [mem_matchingRoutes, parsedRoutes, List.getElem?_map, Option.map_eq_some_iff]
  constructor
  · rintro ⟨_, route, ⟨routes, at', rfl⟩, mem, hit, rfl⟩
    obtain ⟨value, listed, parsed⟩ := List.mem_filterMap.mp mem
    exact ⟨routes, value, at', listed, exists_matching_route_iff.mp ⟨route, parsed, hit, rfl⟩⟩
  · rintro ⟨routes, value, at', listed, covers⟩
    obtain ⟨route, parsed, hit, rfl⟩ := exists_matching_route_iff.mpr covers
    exact ⟨_, route, ⟨routes, at', rfl⟩, List.mem_filterMap.mpr ⟨value, listed, parsed⟩, hit, rfl⟩

/-- `max_by_key` over the matching routes, and the peer of the route it returns. -/
def selectRoute (found : List (Nat × Nat)) : Option Nat := (maxByKey Prod.snd found).map Prod.fst

theorem selectRoute_eq_none {found : List (Nat × Nat)} : selectRoute found = none ↔ found = [] := by
  cases found <;> simp [selectRoute, maxByKey]

theorem selectRoute_eq_some {found : List (Nat × Nat)} {index : Nat}
    (h : selectRoute found = some index) :
    ∃ len, (index, len) ∈ found ∧ ∀ other ∈ found, other.2 ≤ len := by
  obtain ⟨⟨_, len⟩, longest, rfl⟩ := Option.map_eq_some_iff.mp h
  exact ⟨len, mem_of_maxByKey longest, le_of_maxByKey longest⟩

/-- No route of any peer covers the address. -/
def NoneCovers (allowedIps : List (List String)) (ip : Ipv4Addr) : Prop :=
  ∀ routes ∈ allowedIps, ∀ value ∈ routes, ∀ len, ¬ Covers value ip len

theorem selectRoute_parsed_eq_none {allowedIps : List (List String)} {ip : Ipv4Addr} :
    selectRoute (matchingRoutes (parsedRoutes allowedIps) ip) = none ↔ NoneCovers allowedIps ip := by
  rw [selectRoute_eq_none, List.eq_nil_iff_forall_not_mem]
  constructor
  · intro empty routes mem value listed len covers
    obtain ⟨index, at'⟩ := List.mem_iff_getElem?.mp mem
    exact empty (index, len) (mem_matchingRoutes_parsed.mpr ⟨routes, value, at', listed, covers⟩)
  · rintro none' ⟨index, len⟩ mem
    obtain ⟨routes, value, at', listed, covers⟩ := mem_matchingRoutes_parsed.mp mem
    exact none' routes (List.mem_of_getElem? at') value listed len covers

theorem selectRoute_parsed_eq_some {allowedIps : List (List String)} {ip : Ipv4Addr} {index : Nat}
    (h : selectRoute (matchingRoutes (parsedRoutes allowedIps) ip) = some index) :
    IsLongestPrefix allowedIps ip index := by
  obtain ⟨len, mem, longest⟩ := selectRoute_eq_some h
  obtain ⟨routes, value, at', listed, covers⟩ := mem_matchingRoutes_parsed.mp mem
  refine ⟨routes, value, len, at', listed, covers, fun others memOthers other hOther otherLen h => ?_⟩
  obtain ⟨i, atI⟩ := List.mem_iff_getElem?.mp memOthers
  exact longest (i, otherLen) (mem_matchingRoutes_parsed.mpr ⟨others, other, atI, hOther, h⟩)

/-! ## The routes of a runtime -/

variable {ω σ : Type}

namespace UserspaceWireGuardPeerRuntime

variable {tunn : Tunn ω σ} {w : ω}

@[simp] theorem routes_process (peer : UserspaceWireGuardPeerRuntime σ) (call : TunnResult × σ) :
    (peer.process call).2.routes = peer.routes := rfl

@[simp] theorem routes_flushQueued (peer : UserspaceWireGuardPeerRuntime σ) :
    (peer.flushQueued tunn w).2.routes = peer.routes := by
  induction peer using flushQueued.induct tunn w with
  | case1 peer next done => rw [flushQueued_eq, if_pos done]; rfl
  | case2 peer next done ih => rw [flushQueued_eq, if_neg done]; exact ih

@[simp] theorem routes_tick (peer : UserspaceWireGuardPeerRuntime σ) :
    (peer.tick tunn w).2.routes = peer.routes := by
  simp [tick]

@[simp] theorem routes_tryDatagram (source : SocketAddr) (datagram : List UInt8)
    (peer : UserspaceWireGuardPeerRuntime σ) :
    (peer.tryDatagram tunn w source datagram).2.routes = peer.routes := by
  unfold tryDatagram
  dsimp only
  split_ifs <;> rfl

@[simp] theorem routes_acceptDatagram (source : SocketAddr)
    (tried : DatagramProcessingResult × UserspaceWireGuardPeerRuntime σ) :
    (acceptDatagram tunn w source tried).2.routes = tried.2.routes := by
  simp [acceptDatagram]

end UserspaceWireGuardPeerRuntime

namespace UserspaceWireGuardRuntime

variable {tunn : Tunn ω σ} {rt : UserspaceWireGuardRuntime σ}

def routes (rt : UserspaceWireGuardRuntime σ) : List (List Ipv4Route) :=
  rt.peers.map UserspaceWireGuardPeerRuntime.routes

theorem routes_set {index : Nat} {before after : UserspaceWireGuardPeerRuntime σ}
    (at' : rt.peers[index]? = some before) (same : after.routes = before.routes) :
    routes ⟨rt.peers.set index after⟩ = rt.routes := by
  obtain ⟨known, rfl⟩ := List.getElem?_eq_some_iff.mp at'
  rw [routes, List.map_set, same, ← List.getElem_map UserspaceWireGuardPeerRuntime.routes]
  exact List.set_getElem_self (by simpa using known)

theorem routes_receiveFrom {w : ω} {source : SocketAddr} {datagram : List UInt8}
    (indices : List Nat) (rt : UserspaceWireGuardRuntime σ) :
    (receiveFrom tunn w source datagram rt indices).2.routes = rt.routes := by
  induction indices generalizing rt with
  | nil => rfl
  | cons index rest ih =>
    rw [receiveFrom]
    cases at' : rt.peers[index]? with
    | none => rfl
    | some peer =>
      dsimp only
      split_ifs
      · exact (ih _).trans (routes_set at' (by simp))
      · exact routes_set at' (by simp)

/-- No call changes the routes. -/
theorem routes_step (e : WireGuardEvent ω) : (rt.step tunn e).routes = rt.routes := by
  cases e with
  | datagram w source datagram => exact routes_receiveFrom _ rt
  | packet w packet =>
    simp only [step, queueTunnelPacket]
    split
    · rfl
    · split
      · rfl
      · rename_i at'
        exact routes_set at' (by simp)
  | timers w => simp [step, tickTimers, routes, Function.comp_def]
  | handshakes w => simp [step, initiateHandshakes, routes, Function.comp_def]

theorem routes_run (rt : UserspaceWireGuardRuntime σ) (es : List (WireGuardEvent ω)) :
    (run (step tunn) rt es).routes = rt.routes :=
  @run_invariant _ _ (step tunn) (fun rt' => rt'.routes = rt.routes)
    (fun _ e same => (routes_step e).trans same) rt rfl es

theorem routes_new {codec : KeyCodec} {privateKey : String}
    {configs : List UserspaceWireGuardPeerConfig}
    (built : UserspaceWireGuardRuntime.new tunn codec privateKey configs = .ok rt) :
    rt.routes = parsedRoutes (configs.map UserspaceWireGuardPeerConfig.allowedIps) := by
  unfold UserspaceWireGuardRuntime.new at built
  cases own : decodeKey codec privateKey with
  | error e => rw [own] at built; cases built
  | ok key =>
    rw [own] at built
    simp only [bind, Except.bind, pure, Except.pure] at built
    split at built
    · cases built
    · rename_i peers made
      obtain rfl := Except.ok.inj built
      rw [routes, parsedRoutes, List.map_map]
      refine (map_of_mapM_ok made _ (fun e => e.1.allowedIps.filterMap Ipv4Route.parse) ?_).trans ?_
      · intro e _ peer round
        split at round
        · cases round
        · obtain rfl := Except.ok.inj round
          rfl
      · conv_rhs => rw [← List.zipIdx_map_fst 0 configs, List.map_map]
        rfl

/-- The choice depends on the routes alone. -/
theorem selectPeerForPacket_eq {packet : List UInt8} {destination : Ipv4Addr}
    (ipv4 : tunn.dstAddress packet = some (.v4 destination)) :
    rt.selectPeerForPacket tunn packet = selectRoute (matchingRoutes rt.routes destination) := by
  simp only [selectPeerForPacket, ipv4, matchingRoutes, routes, List.zipIdx_map, List.flatMap_map]
  rfl

/-! ## Packets -/

/-- The packet goes through the tunnel of the peer at the index, whose queue is then flushed. -/
def Hands (tunn : Tunn ω σ) (w : ω) (rt : UserspaceWireGuardRuntime σ) (packet : List UInt8)
    (index : Nat) : Prop :=
  rt.selectPeerForPacket tunn packet = some index ∧ ∃ peer, rt.peers[index]? = some peer ∧
    rt.queueTunnelPacket tunn w packet =
      (.ok ((peer.process (tunn.encapsulate w peer.tunnel packet)).1.outgoing ++
          ((peer.process (tunn.encapsulate w peer.tunnel packet)).2.flushQueued tunn w).1.outgoing),
        ⟨rt.peers.set index
          ((peer.process (tunn.encapsulate w peer.tunnel packet)).2.flushQueued tunn w).2⟩)

/-- No peer is chosen, nothing is sent and no tunnel is called. -/
def Drops (tunn : Tunn ω σ) (w : ω) (rt : UserspaceWireGuardRuntime σ) (packet : List UInt8) : Prop :=
  rt.selectPeerForPacket tunn packet = none ∧ rt.queueTunnelPacket tunn w packet = (.ok [], rt)

theorem drops_iff {w : ω} {packet : List UInt8} :
    rt.Drops tunn w packet ↔ rt.selectPeerForPacket tunn packet = none :=
  and_iff_left_of_imp fun none' => by rw [queueTunnelPacket, none']

/-- A chosen index is the one of a peer. -/
theorem hands_of_selected {w : ω} {packet : List UInt8} {index : Nat}
    (selected : rt.selectPeerForPacket tunn packet = some index)
    (known : index < rt.peers.length) : rt.Hands tunn w packet index := by
  refine ⟨selected, rt.peers[index], List.getElem?_eq_getElem known, ?_⟩
  rw [queueTunnelPacket, selected]
  simp only [List.getElem?_eq_getElem known]

/-- A runtime of these peers, after any calls, hands a packet to a peer with a longest route to its
destination, and drops it when there is no route. -/
theorem hands_or_drops {codec : KeyCodec} {privateKey : String}
    {configs : List UserspaceWireGuardPeerConfig}
    (built : UserspaceWireGuardRuntime.new tunn codec privateKey configs = .ok rt)
    (es : List (WireGuardEvent ω)) (w : ω) {packet : List UInt8} {destination : Ipv4Addr}
    (ipv4 : tunn.dstAddress packet = some (.v4 destination)) :
    ((run (step tunn) rt es).Drops tunn w packet ↔
        NoneCovers (configs.map UserspaceWireGuardPeerConfig.allowedIps) destination) ∧
      (¬ (run (step tunn) rt es).Drops tunn w packet →
        ∃ index, (run (step tunn) rt es).Hands tunn w packet index ∧
          IsLongestPrefix (configs.map UserspaceWireGuardPeerConfig.allowedIps) destination
            index) := by
  have held : (run (step tunn) rt es).routes =
      parsedRoutes (configs.map UserspaceWireGuardPeerConfig.allowedIps) :=
    (routes_run rt es).trans (routes_new built)
  have chosen := @selectPeerForPacket_eq _ _ tunn (run (step tunn) rt es) packet destination ipv4
  rw [held] at chosen
  rw [drops_iff, chosen, selectRoute_parsed_eq_none]
  refine ⟨Iff.rfl, fun covered => ?_⟩
  obtain ⟨index, selected⟩ := Option.ne_none_iff_exists'.mp
    (mt selectRoute_parsed_eq_none.mp covered)
  have longest := selectRoute_parsed_eq_some selected
  obtain ⟨_, -, -, at', -⟩ := id longest
  have known : index < (run (step tunn) rt es).peers.length := by
    have lengths := congrArg List.length held
    simp only [UserspaceWireGuardRuntime.routes, parsedRoutes, List.length_map] at lengths
    have inside := (List.getElem?_eq_some_iff.mp at').1
    simp only [List.length_map] at inside
    omega
  exact ⟨index, hands_of_selected (chosen.trans selected) known, longest⟩

/-! ### Two overlapping routes -/

/-- A tunnel without sessions that reads the destination of an IPv4 header. -/
def headerTunn : Tunn Unit Unit :=
  { idleTunn with
    dstAddress := fun packet => match packet with
      | version :: _ => match packet.drop 16 with
        | a :: b :: c :: d :: _ =>
          if version.toNat / 16 = 4 then some (.v4 (.ofOctets a.toNat b.toNat c.toNat d.toNat))
          else none
        | _ => none
      | [] => none }

/-- A packet from 10.44.10.1 to 10.44.22.44. -/
def sampleRoutedPacket : List UInt8 :=
  [0x45, 0, 0, 20, 0, 0, 0, 0, 64, 17, 0, 0, 10, 44, 10, 1, 10, 44, 22, 44]

def sampleRoutePeers : List UserspaceWireGuardPeerConfig :=
  [{ participantPubkey := "general", publicKeyBase64 := "AgICAgICAgICAgICAgICAgICAgICAgICAgICAgICAgI="
     endpoint := .v4 (.ofOctets 127 0 0 1) 40101, allowedIps := ["10.44.0.0/16"] },
   { participantPubkey := "specific", publicKeyBase64 := "AwMDAwMDAwMDAwMDAwMDAwMDAwMDAwMDAwMDAwMDAwM="
     endpoint := .v4 (.ofOctets 127 0 0 1) 40102, allowedIps := ["10.44.22.44/32"] }]

/-- The runtime of the two peers. -/
def sampleRouteRuntime : UserspaceWireGuardRuntime Unit where
  peers := sampleRoutePeers.map fun peer =>
    { participantPubkey := peer.participantPubkey, endpoint := peer.endpoint, tunnel := ()
      routes := peer.allowedIps.filterMap Ipv4Route.parse }

example : sampleRouteRuntime.selectPeerForPacket headerTunn sampleRoutedPacket = some 1 := by
  decide +kernel

end UserspaceWireGuardRuntime

end NostrVpn.Cli
