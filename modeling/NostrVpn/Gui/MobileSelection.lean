import NostrVpn.Cli.LongestPrefix
import NostrVpn.Gui.MobileWg

/-!
# Cryptokey routing on Android and iOS

The mobile runtime keeps its routes through every call and chooses the peer that the runtime of the
command line chooses for the same allowed IPs.
-/
namespace NostrVpn.Gui

open Rust Rust.Net Transition
open NostrVpn.Cli (KeyCodec matchingRoutes parsedRoutes selectRoute prefixMask)

/-! ## Two forms of a mask -/

theorem toNat_and_prefixMask (len : Nat) (ip : Ipv4Addr) :
    (ip.bits &&& prefixMask len).toNat = maskedBy len ip := by
  have low : ip.bits.toNat < 2 ^ 32 := ip.bits.isLt
  unfold prefixMask maskedBy
  split_ifs with zero
  · simpa [zero] using low
  · have shifted : ip.bits &&& (BitVec.allOnes 32 <<< (32 - len)) =
        (ip.bits >>> (32 - len)) <<< (32 - len) := by
      refine BitVec.eq_of_getLsbD_eq fun i inside => ?_
      simp only [BitVec.getLsbD_and, BitVec.getLsbD_shiftLeft, BitVec.getLsbD_allOnes,
        BitVec.getLsbD_ushiftRight]
      by_cases below : i < 32 - len
      · simp [below]
      · have back : 32 - len + (i - (32 - len)) = i := by omega
        have inWord : i - (32 - len) < 32 := by omega
        simp [below, inside, back, inWord]
    have small : ip.bits.toNat / 2 ^ (32 - len) * 2 ^ (32 - len) < 2 ^ 32 :=
      Nat.lt_of_le_of_lt (Nat.div_mul_le_self ..) low
    rw [shifted, BitVec.toNat_shiftLeft, BitVec.toNat_ushiftRight, Nat.shiftRight_eq_div_pow,
      Nat.shiftLeft_eq, Nat.mod_eq_of_lt small]

theorem parse_eq (value : String) : Ipv4Route.parse value =
    (Cli.Ipv4Route.parse value).map fun route => ⟨route.network.toNat, route.prefixLen⟩ := by
  unfold Ipv4Route.parse Cli.Ipv4Route.parse
  cases splitOnce '/' (trim value) with
  | none => rfl
  | some parts =>
    cases parsed : parseUnsigned 255 parts.2 with
    | none => simp [parsed]
    | some len =>
      by_cases tooLong : 32 < len
      · simp [parsed, tooLong]
      · cases address : Ipv4Addr.parse parts.1 with
        | none => simp [parsed, address]
        | some ip => simp [parsed, tooLong, address, ← toNat_and_prefixMask]

theorem matchesIp_eq (route : Cli.Ipv4Route) (ip : Ipv4Addr) :
    (⟨route.network.toNat, route.prefixLen⟩ : Ipv4Route).matchesIp ip = route.matches' ip := by
  rw [Ipv4Route.matchesIp, Cli.Ipv4Route.matches', ← toNat_and_prefixMask, Bool.eq_iff_iff,
    beq_iff_eq, beq_iff_eq, BitVec.toNat_inj]

namespace MobileWireGuardRuntime

variable {Tunn : Type} {boringtun : Boringtun Tunn} {runtime : MobileWireGuardRuntime Tunn}
  {peerIndex : Nat}

/-! ## The routes of a runtime -/

/-- The calls that the session makes under the lock of the runtime. -/
inductive Call where
  | datagram (source : SocketAddr) (datagram : Packet)
  | packet (packet : Packet)
  | handshakes
  | timers

def step (boringtun : Boringtun Tunn) (runtime : MobileWireGuardRuntime Tunn) :
    Call → MobileWireGuardRuntime Tunn
  | .datagram source datagram => (runtime.receiveDatagram boringtun source datagram).2
  | .packet packet => (runtime.queueTunnelPacket boringtun packet).2
  | .handshakes => (runtime.initiateHandshakes boringtun).2
  | .timers => (runtime.tickTimers boringtun).2

def routes (runtime : MobileWireGuardRuntime Tunn) : List (List Ipv4Route) :=
  runtime.peers.map WireGuardPeerRuntime.routes

theorem routes_callPeer (call : Tunn → TunnResult × Tunn)
    (read : String → SocketAddr → TunnResult → DatagramProcessingResult) :
    (runtime.callPeer call read peerIndex).2.routes = runtime.routes := by
  unfold callPeer
  cases at' : runtime.peers[peerIndex]? with
  | none => rfl
  | some peer =>
    obtain ⟨known, rfl⟩ := List.getElem?_eq_some_iff.mp at'
    simp only [routes, List.map_set]
    rw [← List.getElem_map WireGuardPeerRuntime.routes]
    exact List.set_getElem_self (by simpa using known)

theorem routes_flushRounds (rounds : Nat) :
    (flushRounds boringtun peerIndex rounds runtime).2.routes = runtime.routes := by
  induction rounds generalizing runtime with
  | zero => rfl
  | succ rounds ih =>
    have same := @routes_callPeer _ runtime peerIndex (boringtun.decapsulate none []) processTunnResult
    rw [flushRounds]
    generalize runtime.callPeer (boringtun.decapsulate none []) processTunnResult peerIndex =
      called at same
    obtain ⟨_ | next, after⟩ := called
    · exact same
    · by_cases last : next.isEmpty
      · simpa [last] using same
      · simpa [last, ih] using same

@[simp] theorem routes_flushQueued :
    (runtime.flushQueued boringtun peerIndex).2.routes = runtime.routes :=
  routes_flushRounds _

theorem routes_queueTunnelPacket (packet : Packet) :
    (runtime.queueTunnelPacket boringtun packet).2.routes = runtime.routes := by
  unfold queueTunnelPacket
  cases runtime.selectPeerForPacket boringtun packet with
  | none => rfl
  | some peerIndex =>
    have same := @routes_callPeer _ runtime peerIndex (boringtun.encapsulate packet) processTunnResult
    dsimp only
    generalize runtime.callPeer (boringtun.encapsulate packet) processTunnResult peerIndex =
      called at same
    obtain ⟨_ | processed, after⟩ := called
    · exact same
    · exact (@routes_flushQueued Tunn boringtun _ _).trans same

theorem routes_offerDatagram (source : SocketAddr) (datagram : Packet) (candidates : List Nat) :
    (offerDatagram boringtun source datagram candidates runtime).2.routes = runtime.routes := by
  induction candidates generalizing runtime with
  | nil => rfl
  | cons peerIndex candidates ih =>
    have same := @routes_callPeer _ runtime peerIndex
      (boringtun.decapsulate (some source.ip) datagram) readDatagram
    rw [offerDatagram]
    generalize runtime.callPeer (boringtun.decapsulate (some source.ip) datagram) readDatagram
      peerIndex = called at same
    obtain ⟨_ | processed, after⟩ := called
    · exact same
    · dsimp only at same ⊢
      split_ifs
      · exact ih.trans same
      · have moved : routes ⟨after.peers.modify peerIndex fun peer =>
            { peer with endpoint := source }⟩ = after.routes := by
          refine List.ext_getElem? fun i => ?_
          simp only [routes, List.getElem?_map, List.getElem?_modify]
          cases after.peers[i]? with
          | none => rfl
          | some peer => by_cases here : peerIndex = i <;> simp [here]
        exact (@routes_flushQueued Tunn boringtun _ _).trans (moved.trans same)

theorem routes_forEachPeer {call : Nat → MobileWireGuardRuntime Tunn →
      DatagramProcessingResult × MobileWireGuardRuntime Tunn}
    (keeps : ∀ peerIndex runtime, (call peerIndex runtime).2.routes = runtime.routes)
    (indices : List Nat) : (forEachPeer call indices runtime).2.routes = runtime.routes := by
  induction indices generalizing runtime with
  | nil => rfl
  | cons peerIndex rest ih => exact ih.trans (keeps peerIndex runtime)

theorem routes_step (call : Call) : (runtime.step boringtun call).routes = runtime.routes := by
  cases call with
  | datagram source datagram => exact routes_offerDatagram source datagram _
  | packet packet => exact routes_queueTunnelPacket packet
  | handshakes => exact routes_forEachPeer (fun _ _ => routes_callPeer ..) _
  | timers =>
    refine routes_forEachPeer (fun peerIndex runtime => ?_) _
    exact routes_flushQueued.trans (routes_callPeer ..)

theorem routes_run (runtime : MobileWireGuardRuntime Tunn) (calls : List Call) :
    (run (step boringtun) runtime calls).routes = runtime.routes :=
  @run_invariant _ _ (step boringtun) (fun runtime' => runtime'.routes = runtime.routes)
    (fun _ call same => (routes_step call).trans same) runtime rfl calls

theorem routes_new {codec : KeyCodec} {privateKey : String} {configs : List WireGuardPeerConfig}
    (built : new boringtun codec privateKey configs = .ok runtime) :
    runtime.routes = (configs.map WireGuardPeerConfig.allowedIps).map fun values =>
      values.filterMap Ipv4Route.parse := by
  unfold new at built
  cases own : decodeKey codec privateKey with
  | error e => rw [own] at built; cases built
  | ok key =>
    rw [own] at built
    simp only [bind, Except.bind, pure, Except.pure] at built
    split at built
    · cases built
    · rename_i peers made
      obtain rfl := Except.ok.inj built
      rw [routes, List.map_map]
      refine (map_of_mapM_ok made _ (fun e => e.1.allowedIps.filterMap Ipv4Route.parse) ?_).trans ?_
      · intro e _ peer round
        simp only [peerRuntime] at round
        cases decoded : decodeKey codec e.1.publicKey with
        | error e => rw [decoded] at round; cases round
        | ok publicKey =>
          rw [decoded] at round
          obtain rfl := Except.ok.inj round
          rfl
      · conv_rhs => rw [← List.zipIdx_map_fst 0 configs, List.map_map]
        rfl

/-! ## The chosen peer -/

theorem matching_eq (values : List String) (ip : Ipv4Addr) (index : Nat) :
    (((values.filterMap Ipv4Route.parse).filter fun route => route.matchesIp ip).map
      fun route => (index, route.prefixLen)) =
    (((values.filterMap Cli.Ipv4Route.parse).filter fun route => route.matches' ip).map
      fun route => (index, route.prefixLen)) := by
  have parsed : values.filterMap Ipv4Route.parse = (values.filterMap Cli.Ipv4Route.parse).map
      fun route => ⟨route.network.toNat, route.prefixLen⟩ := by
    rw [List.map_filterMap]
    exact List.filterMap_congr fun value _ => parse_eq value
  rw [parsed, List.filter_map, List.map_map]
  congr 1
  exact List.filter_congr fun route _ => matchesIp_eq route ip

theorem selectPeerForPacket_eq {packet : Packet} {destination : Ipv4Addr}
    {allowedIps : List (List String)}
    (held : runtime.routes = allowedIps.map fun values => values.filterMap Ipv4Route.parse)
    (ipv4 : boringtun.dstAddress packet = some (.v4 destination)) :
    runtime.selectPeerForPacket boringtun packet =
      selectRoute (matchingRoutes (parsedRoutes allowedIps) destination) := by
  have tables : (runtime.peers.zipIdx.flatMap fun entry =>
      (entry.1.routes.filter fun route => route.matchesIp destination).map fun route =>
        (entry.2, route.prefixLen)) = runtime.routes.zipIdx.flatMap fun entry =>
      (entry.1.filter fun route => route.matchesIp destination).map fun route =>
        (entry.2, route.prefixLen) := by
    simp only [routes, List.zipIdx_map, List.flatMap_map]
    rfl
  have same : (runtime.routes.zipIdx.flatMap fun entry =>
      (entry.1.filter fun route => route.matchesIp destination).map fun route =>
        (entry.2, route.prefixLen)) = matchingRoutes (parsedRoutes allowedIps) destination := by
    rw [held, matchingRoutes, parsedRoutes, List.zipIdx_map, List.zipIdx_map, List.flatMap_map,
      List.flatMap_map]
    exact List.flatMap_congr fun e _ => matching_eq e.1 destination e.2
  simp only [selectPeerForPacket, ipv4]
  exact congrArg selectRoute (tables.trans same)

end MobileWireGuardRuntime

open Cli (UserspaceWireGuardRuntime UserspaceWireGuardPeerConfig WireGuardEvent IsLongestPrefix
  NoneCovers)

/-- Outgoing packets take a longest prefix on the command line, and the mobile runtime of the same
allowed IPs chooses the same peer, whatever calls came before on either side. -/
theorem cryptokey_routing_longest_match {ω σ : Type} (tunn : Cli.Tunn ω σ) (codec : KeyCodec)
    (privateKey : String) (configs : List UserspaceWireGuardPeerConfig)
    (rt : UserspaceWireGuardRuntime σ)
    (built : UserspaceWireGuardRuntime.new tunn codec privateKey configs = .ok rt)
    (es : List (WireGuardEvent ω)) (w : ω) (packet : List UInt8) (destination : Ipv4Addr)
    (ipv4 : tunn.dstAddress packet = some (.v4 destination)) :
    ((run (UserspaceWireGuardRuntime.step tunn) rt es).Drops tunn w packet ↔
        NoneCovers (configs.map UserspaceWireGuardPeerConfig.allowedIps) destination) ∧
      (¬ (run (UserspaceWireGuardRuntime.step tunn) rt es).Drops tunn w packet →
        ∃ index, (run (UserspaceWireGuardRuntime.step tunn) rt es).Hands tunn w packet index ∧
          IsLongestPrefix (configs.map UserspaceWireGuardPeerConfig.allowedIps) destination
            index) ∧
      ∀ (Tunn : Type) (boringtun : Boringtun Tunn) (mobileKey : String)
        (mobileConfigs : List WireGuardPeerConfig) (runtime : MobileWireGuardRuntime Tunn),
        boringtun.dstAddress packet = tunn.dstAddress packet →
        mobileConfigs.map WireGuardPeerConfig.allowedIps =
          configs.map UserspaceWireGuardPeerConfig.allowedIps →
        MobileWireGuardRuntime.new boringtun codec mobileKey mobileConfigs = .ok runtime →
        ∀ calls, (run (MobileWireGuardRuntime.step boringtun) runtime calls).selectPeerForPacket
            boringtun packet =
          (run (UserspaceWireGuardRuntime.step tunn) rt es).selectPeerForPacket tunn packet := by
  obtain ⟨drops, hands⟩ := UserspaceWireGuardRuntime.hands_or_drops built es w ipv4
  refine ⟨drops, hands, fun Tunn boringtun mobileKey mobileConfigs runtime crate same made calls => ?_⟩
  have held := (@MobileWireGuardRuntime.routes_run Tunn boringtun runtime calls).trans
    (MobileWireGuardRuntime.routes_new made)
  have routes := (@UserspaceWireGuardRuntime.routes_run ω σ tunn rt es).trans
    (UserspaceWireGuardRuntime.routes_new built)
  rw [MobileWireGuardRuntime.selectPeerForPacket_eq held (crate.trans ipv4),
    UserspaceWireGuardRuntime.selectPeerForPacket_eq ipv4, routes, same]

/-- A packet to the address of the second peer. -/
theorem cryptokey_routing_longest_match_of_two_peers :
    ((run (UserspaceWireGuardRuntime.step UserspaceWireGuardRuntime.headerTunn)
          UserspaceWireGuardRuntime.sampleRouteRuntime []).Drops
        UserspaceWireGuardRuntime.headerTunn () UserspaceWireGuardRuntime.sampleRoutedPacket ↔
      NoneCovers [["10.44.0.0/16"], ["10.44.22.44/32"]] (.ofOctets 10 44 22 44)) :=
  (cryptokey_routing_longest_match UserspaceWireGuardRuntime.headerTunn Cli.sampleCodec
    "AQEBAQEBAQEBAQEBAQEBAQEBAQEBAQEBAQEBAQEBAQE=" UserspaceWireGuardRuntime.sampleRoutePeers
    UserspaceWireGuardRuntime.sampleRouteRuntime rfl [] () UserspaceWireGuardRuntime.sampleRoutedPacket
    (.ofOctets 10 44 22 44) (by decide +kernel)).1

end NostrVpn.Gui
