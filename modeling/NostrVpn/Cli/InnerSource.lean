import NostrVpn.Cli.EndpointAuthenticity

/-!
# The inner source of a received packet

The routes of a peer select the packets that go to it. A packet that comes from it reaches the tunnel
device as `boringtun` hands it over: `process_tunn_result` drops the source address that comes with it.
-/
namespace NostrVpn.Cli

open Rust Rust.Net Transition

variable {ω σ : Type}

/-! ## What a tunnel hands over -/

def TunnResult.tunnelPacket : TunnResult → Option (List UInt8)
  | .WriteToTunnelV4 packet _ | .WriteToTunnelV6 packet _ => some packet
  | .Done | .Err _ | .WriteToNetwork _ => none

namespace Tunn

variable (tunn : Tunn ω σ) (w : ω)

/-- The packets of the repeated calls with an empty datagram. -/
def flushed (tunnel : σ) : List (List UInt8) :=
  if _writes : (tunn.decapsulate w tunnel none []).1.writes = true then
    (tunn.decapsulate w tunnel none []).1.tunnelPacket.toList ++
      flushed (tunn.decapsulate w tunnel none []).2
  else []
  termination_by tunn.queued tunnel
  decreasing_by exact tunn.drains w tunnel _writes

/-- The packets that a datagram releases under a key. -/
def received (tunnel : σ) (source : SocketAddr) (datagram : List UInt8) : List (List UInt8) :=
  (tunn.decapsulate w tunnel (some source.ip) datagram).1.tunnelPacket.toList ++
    tunn.flushed w (tunn.decapsulate w tunnel (some source.ip) datagram).2

/-- The packets that a timer call releases. -/
def ticked (tunnel : σ) : List (List UInt8) :=
  (tunn.updateTimers w tunnel).1.tunnelPacket.toList ++
    tunn.flushed w (tunn.updateTimers w tunnel).2

end Tunn

@[simp] theorem tunnelPackets_processTunnResult (participantPubkey : String) (endpoint : SocketAddr)
    (result : TunnResult) :
    (processTunnResult participantPubkey endpoint result).tunnelPackets =
      result.tunnelPacket.toList := by
  cases result <;> rfl

@[simp] theorem isEmpty_processTunnResult (participantPubkey : String) (endpoint : SocketAddr)
    (result : TunnResult) :
    (processTunnResult participantPubkey endpoint result).isEmpty = !result.writes := by
  cases result <;> rfl

namespace UserspaceWireGuardPeerRuntime

variable {tunn : Tunn ω σ} {w : ω}

/-- Flushing emits every packet that the tunnel hands over. -/
@[simp] theorem tunnelPackets_flushQueued (peer : UserspaceWireGuardPeerRuntime σ) :
    (peer.flushQueued tunn w).1.tunnelPackets = tunn.flushed w peer.tunnel := by
  induction peer using flushQueued.induct tunn w with
  | case1 peer next done =>
    have silent : (tunn.decapsulate w peer.tunnel none []).1.writes = false := by
      simpa [next, process] using done
    rw [flushQueued_eq, if_pos done, Tunn.flushed, dif_neg (by simp [silent])]
  | case2 peer next done ih =>
    have writes : (tunn.decapsulate w peer.tunnel none []).1.writes = true := by
      simpa [next, process] using done
    rw [flushQueued_eq, if_neg done, Tunn.flushed, dif_pos writes]
    simp only [DatagramProcessingResult.extend]
    rw [show (peer.process (tunn.decapsulate w peer.tunnel none [])).2 = next.2 from rfl, ih]
    simp [next, process]

theorem tunnelPackets_tick (peer : UserspaceWireGuardPeerRuntime σ) :
    (peer.tick tunn w).1.tunnelPackets = tunn.ticked w peer.tunnel := by
  simp [tick, process, DatagramProcessingResult.extend, Tunn.ticked]

/-- A datagram that does not pass emits what the tunnel releases for it. -/
theorem tunnelPackets_accept {peer : UserspaceWireGuardPeerRuntime σ} {source : SocketAddr}
    {datagram : List UInt8}
    (h : (peer.tryDatagram tunn w source datagram).1.isNonmatching = false) :
    (acceptDatagram tunn w source (peer.tryDatagram tunn w source datagram)).1.tunnelPackets =
      tunn.received w peer.tunnel source datagram := by
  have matching : matchesNonmatchingPeer
      (tunn.decapsulate w peer.tunnel (some source.ip) datagram).1 = false := by
    by_contra nonmatching
    rw [Bool.not_eq_false] at nonmatching
    simp [tryDatagram, nonmatching, DatagramProcessingResult.isNonmatching] at h
  simp [tryDatagram, matching, acceptDatagram, process, DatagramProcessingResult.extend,
    Tunn.received]

end UserspaceWireGuardPeerRuntime

/-! ## Allowed sources -/

/-- The source address in the header of an IP packet. -/
def packetSource (packet : List UInt8) : Option IpAddr :=
  match packet.head?.map fun byte => byte.toNat / 16 with
  | some 4 => if packet.length < 20 then none
    else some (.v4 ⟨.ofNat 32 (Nat.ofDigits 256 (((packet.drop 12).take 4).reverse.map UInt8.toNat))⟩)
  | some 6 => if packet.length < 40 then none
    else some (.v6 ⟨.ofNat 128 (Nat.ofDigits 256 (((packet.drop 8).take 16).reverse.map UInt8.toNat))⟩)
  | _ => none

/-- The source of the packet lies in one of the prefixes. -/
def sourceAllowed (allowedIps : List String) (packet : List UInt8) : Bool :=
  allowedIps.any fun text => match IpPrefix.ofText text, packetSource packet with
    | some allowed, some ip => IpPrefix.ofIp ip allowed.bits == some allowed
    | _, _ => false

namespace UserspaceWireGuardRuntime

variable (tunn : Tunn ω σ)

/-- The packets that a step emits to the device, each with the index of the peer it comes from. -/
def emits (rt : UserspaceWireGuardRuntime σ) : WireGuardEvent ω → List (Nat × List UInt8)
  | .datagram w source datagram =>
    match rt.taker tunn w source datagram, (rt.receiveDatagram tunn w source datagram).1 with
    | some index, .ok processed => processed.tunnelPackets.map fun packet => (index, packet)
    | _, _ => []
  | .timers w => rt.peers.zipIdx.flatMap fun (peer, index) =>
    (peer.tick tunn w).1.tunnelPackets.map fun packet => (index, packet)
  | .packet .. | .handshakes _ => []

/-- The packets that the source returns for the device in a step. -/
def tunnelPackets (rt : UserspaceWireGuardRuntime σ) : WireGuardEvent ω → List (List UInt8)
  | .datagram w source datagram =>
    ((rt.receiveDatagram tunn w source datagram).1.toOption.map
      DatagramProcessingResult.tunnelPackets).getD []
  | .timers w => (rt.tickTimers tunn w).1.tunnelPackets
  | .packet .. | .handshakes _ => []

variable {tunn} {w : ω} {source : SocketAddr} {datagram : List UInt8}
  {rt : UserspaceWireGuardRuntime σ}

/-- A taken datagram emits what the taker's tunnel releases for it. -/
theorem result_receiveDatagram {index : Nat} (takes : rt.taker tunn w source datagram = some index) :
    ∃ peer processed, rt.peers[index]? = some peer ∧
      (rt.receiveDatagram tunn w source datagram).1 = .ok processed ∧
      processed.tunnelPackets = tunn.received w peer.tunnel source datagram := by
  obtain ⟨before, -, ⟨none, -⟩ | ⟨index', peer, found, at', result⟩⟩ :=
    @receiveFrom_cases _ _ tunn w source datagram rt (rt.candidates source) nodup_candidates
      fun _ => lt_of_mem_candidates
  · rw [taker, none] at takes
    cases takes
  · obtain rfl : index' = index := Option.some.inj (found.symm.trans takes)
    refine ⟨peer, _, at', by rw [receiveDatagram, result], ?_⟩
    apply UserspaceWireGuardPeerRuntime.tunnelPackets_accept
    simpa [passes, at'] using List.find?_some found

/-- A datagram that no peer takes emits nothing. -/
theorem result_receiveDatagram_none (takes : rt.taker tunn w source datagram = none) :
    (rt.receiveDatagram tunn w source datagram).1 = .ok {} := by
  obtain ⟨before, -, ⟨-, result⟩ | ⟨index', peer, found, -⟩⟩ :=
    @receiveFrom_cases _ _ tunn w source datagram rt (rt.candidates source) nodup_candidates
      fun _ => lt_of_mem_candidates
  · rw [receiveDatagram, result]
  · rw [taker, found] at takes
    cases takes

theorem tunnelPackets_foldl_extend {τ : Type} (ps : List (DatagramProcessingResult × τ))
    (all : DatagramProcessingResult) :
    (ps.foldl (fun all p => all.extend p.1) all).tunnelPackets =
      all.tunnelPackets ++ ps.flatMap fun p => p.1.tunnelPackets := by
  induction ps generalizing all with
  | nil => simp
  | cons p ps ih =>
    rw [List.foldl_cons, ih, List.flatMap_cons, ← List.append_assoc]
    rfl

/-- The attributed packets are those that the source returns. -/
theorem emits_map_snd (rt : UserspaceWireGuardRuntime σ) (e : WireGuardEvent ω) :
    (rt.emits tunn e).map Prod.snd = rt.tunnelPackets tunn e := by
  cases e with
  | datagram w source datagram =>
    cases takes : rt.taker tunn w source datagram with
    | none => simp [emits, tunnelPackets, takes, result_receiveDatagram_none takes, Except.toOption]
    | some index =>
      obtain ⟨peer, processed, -, result, -⟩ := result_receiveDatagram takes
      simp [emits, tunnelPackets, takes, result, Except.toOption, Function.comp_def]
  | timers w =>
    have perPeer (peers : List (UserspaceWireGuardPeerRuntime σ)) (n : Nat) :
        ((peers.zipIdx n).flatMap fun (peer, index) =>
          (peer.tick tunn w).1.tunnelPackets.map fun packet => (index, packet)).map Prod.snd =
        (peers.map fun peer => peer.tick tunn w).flatMap fun p => p.1.tunnelPackets := by
      induction peers generalizing n with
      | nil => rfl
      | cons peer peers ih => simp [List.zipIdx_cons, ih, Function.comp_def]
    rw [emits, perPeer, tunnelPackets, tickTimers, tunnelPackets_foldl_extend]
    rfl
  | packet w packet => rfl
  | handshakes w => rfl

variable (tunn) (allowed : Nat → List String)

/-- Every packet emitted from a peer has a source in the allowed IPs of the peer. -/
def SourcesChecked (rt : UserspaceWireGuardRuntime σ) (e : WireGuardEvent ω) : Prop :=
  ∀ index packet, (index, packet) ∈ rt.emits tunn e → sourceAllowed (allowed index) packet = true

/-- What a tunnel releases under a peer's key has a source in the allowed IPs of the peer. -/
def PeersKeepToAllowed (rt : UserspaceWireGuardRuntime σ) : WireGuardEvent ω → Prop
  | .datagram w source datagram => ∀ index peer, rt.taker tunn w source datagram = some index →
    rt.peers[index]? = some peer → ∀ packet ∈ tunn.received w peer.tunnel source datagram,
      sourceAllowed (allowed index) packet = true
  | .timers w => ∀ index peer, rt.peers[index]? = some peer →
    ∀ packet ∈ tunn.ticked w peer.tunnel, sourceAllowed (allowed index) packet = true
  | _ => True

variable {tunn allowed}

theorem sourcesChecked_iff (e : WireGuardEvent ω) :
    rt.SourcesChecked tunn allowed e ↔ rt.PeersKeepToAllowed tunn allowed e := by
  cases e with
  | datagram w source datagram =>
    unfold SourcesChecked PeersKeepToAllowed
    cases takes : rt.taker tunn w source datagram with
    | none => simp [emits, takes]
    | some index =>
      obtain ⟨peer, processed, at', result, packets⟩ := result_receiveDatagram takes
      have taken : rt.emits tunn (.datagram w source datagram) =
          (tunn.received w peer.tunnel source datagram).map fun packet => (index, packet) := by
        simp [emits, takes, result, packets]
      rw [taken]
      constructor
      · intro checked index' peer' takes' there packet mem
        obtain rfl : index = index' := Option.some.inj (takes.symm.trans takes')
        obtain rfl := Option.some.inj (at'.symm.trans there)
        exact checked _ packet (List.mem_map_of_mem mem)
      · intro kept index packet mem
        obtain ⟨packet', released, same⟩ := List.mem_map.mp mem
        obtain ⟨rfl, rfl⟩ := Prod.mk.inj same
        exact kept _ peer takes at' packet' released
  | timers w =>
    constructor
    · intro checked index peer at' packet mem
      refine checked index packet (List.mem_flatMap.mpr ⟨(peer, index), ?_, ?_⟩)
      · exact List.mem_zipIdx_iff_getElem?.mpr at'
      · rw [← UserspaceWireGuardPeerRuntime.tunnelPackets_tick] at mem
        exact List.mem_map_of_mem mem
    · intro kept index packet mem
      obtain ⟨⟨peer, index'⟩, listed, mem⟩ := List.mem_flatMap.mp mem
      obtain ⟨packet', emitted, same⟩ := List.mem_map.mp mem
      obtain ⟨rfl, rfl⟩ := Prod.mk.inj same
      rw [UserspaceWireGuardPeerRuntime.tunnelPackets_tick] at emitted
      exact kept index' peer (List.mem_zipIdx_iff_getElem?.mp listed) packet' emitted
  | packet w packet => simp [SourcesChecked, PeersKeepToAllowed, emits]
  | handshakes w => simp [SourcesChecked, PeersKeepToAllowed, emits]

/-- In every run the packets emitted from each peer have allowed sources just when the tunnels release
no other ones. -/
theorem inner_sources_checked_iff (tunn : Tunn ω σ) (allowed : Nat → List String)
    (rt : UserspaceWireGuardRuntime σ) (es : List (WireGuardEvent ω)) :
    Along (step tunn) (SourcesChecked tunn allowed) rt es ↔
      Along (step tunn) (PeersKeepToAllowed tunn allowed) rt es :=
  ⟨Along.mono fun _ e => (sourcesChecked_iff e).mp, Along.mono fun _ e => (sourcesChecked_iff e).mpr⟩

/-! ### A packet with the source of another peer -/

/-- A tunnel with a session, whose datagrams carry their packet as it is. -/
def clearTunn : Tunn Unit Unit where
  new _ _ _ := ()
  dstAddress _ := none
  encapsulate _ _ packet := (.WriteToNetwork packet, ())
  decapsulate _ _ _ datagram :=
    (if datagram = [] then .Done else .WriteToTunnelV4 datagram (.ofOctets 10 44 9 9), ())
  formatHandshakeInitiation _ _ := (.Done, ())
  updateTimers _ _ := (.Done, ())
  queued _ := 0
  drains _ _ writes := by simp [TunnResult.writes] at writes

/-- An IPv4 header from 10.44.9.9 to 10.44.10.1. -/
def samplePacket : List UInt8 :=
  [0x45, 0, 0, 20, 0, 0, 0, 0, 64, 17, 0, 0, 10, 44, 9, 9, 10, 44, 10, 1]

/-- A peer that may send from 10.44.7.7 alone sends from 10.44.9.9. -/
theorem inner_source_unchecked :
    ¬∀ (allowed : Nat → List String) (es : List (WireGuardEvent Unit)),
      Along (step clearTunn) (SourcesChecked clearTunn allowed)
        ⟨[{ idlePeer with routes := (allowed 0).filterMap Ipv4Route.parse }]⟩ es := by
  intro checked
  obtain ⟨emitted, -⟩ := checked (fun _ => ["10.44.7.7/32"])
    [.datagram () (.v4 (.ofOctets 203 0 113 7) 51820) samplePacket]
  have spoofed := (sourcesChecked_iff _).mp emitted 0 _ (by decide +kernel) rfl samplePacket
    (List.mem_append_left _ (by decide))
  exact absurd spoofed (by decide +kernel)

end UserspaceWireGuardRuntime
end NostrVpn.Cli
