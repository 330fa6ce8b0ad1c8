import NostrVpn.Gui.MobilePlan

/-!
# WireGuard on Android and iOS

`nostr-vpn-gui/src-tauri/src/mobile_wg.rs`: a list of peers, each with a `boringtun` tunnel of its own. The
tunnel is a parameter.
-/
namespace NostrVpn.Gui

open Rust Rust.Net NostrVpn.Core
open NostrVpn.Cli (KeyCodec)

abbrev Packet := List UInt8

/-- `boringtun::noise::errors::WireGuardError`. -/
inductive WireGuardError where
  | DestinationBufferTooSmall | IncorrectPacketLength | UnexpectedPacket | WrongPacketType
  | WrongIndex | WrongKey | InvalidTai64nTimestamp | WrongTai64nTimestamp | InvalidMac
  | InvalidAeadTag | InvalidCounter | DuplicateCounter | InvalidPacket | NoCurrentSession
  | LockFailed | ConnectionExpired | UnderLoad
  deriving DecidableEq, Repr

inductive TunnResult where
  | Done
  | Err (error : WireGuardError)
  | WriteToNetwork (packet : Packet)
  | WriteToTunnelV4 (packet : Packet)
  | WriteToTunnelV6 (packet : Packet)
  deriving DecidableEq, Repr

/-- `boringtun::noise::Tunn`. A call with an empty datagram sends what was queued, so a tunnel answers
only so many of them in a row. -/
structure Boringtun (Tunn : Type) where
  new : (privateKey publicKey : List UInt8) → (index : Nat) → Tunn
  encapsulate : Packet → Tunn → TunnResult × Tunn
  decapsulate : Option IpAddr → Packet → Tunn → TunnResult × Tunn
  formatHandshakeInitiation : Tunn → TunnResult × Tunn
  updateTimers : Tunn → TunnResult × Tunn
  dstAddress : Packet → Option IpAddr
  lastHandshakeAge : Tunn → Option Nat
  queued : Tunn → Nat
  drains : ∀ tunn, (∀ error, (decapsulate none [] tunn).1 ≠ .Err error) →
    (decapsulate none [] tunn).1 ≠ .Done → queued (decapsulate none [] tunn).2 < queued tunn

/-! ## Routes -/

structure Ipv4Route where
  network : Nat
  prefixLen : Nat
  deriving DecidableEq, Repr

/-- `prefix_mask`, applied to an address. -/
def maskedBy (prefixLen : Nat) (ip : Ipv4Addr) : Nat :=
  ip.bits.toNat / 2 ^ (32 - prefixLen) * 2 ^ (32 - prefixLen)

namespace Ipv4Route

def parse (value : String) : Option Ipv4Route := do
  let (addr, prefixLen) ← splitOnce '/' (trim value)
  let prefixLen ← parseUnsigned 255 prefixLen
  if 32 < prefixLen then none
  let ip ← Ipv4Addr.parse addr
  return { network := maskedBy prefixLen ip, prefixLen }

def matchesIp (route : Ipv4Route) (ip : Ipv4Addr) : Bool := maskedBy route.prefixLen ip == route.network

end Ipv4Route

/-! ## The runtime -/

structure WireGuardPeerConfig where
  participantPubkey : String
  publicKey : String
  endpoint : SocketAddr
  allowedIps : List String
  deriving DecidableEq, Repr

structure OutgoingDatagram where
  participantPubkey : String
  endpoint : SocketAddr
  payload : Packet
  deriving DecidableEq, Repr

structure DatagramProcessingResult where
  outgoing : List OutgoingDatagram := []
  tunnelPackets : List Packet := []
  deriving DecidableEq, Repr

namespace DatagramProcessingResult

def extend (processed next : DatagramProcessingResult) : DatagramProcessingResult where
  outgoing := processed.outgoing ++ next.outgoing
  tunnelPackets := processed.tunnelPackets ++ next.tunnelPackets

/-- All outgoing datagrams go to the endpoint. -/
def redirect (endpoint : SocketAddr) (processed : DatagramProcessingResult) : DatagramProcessingResult where
  outgoing := processed.outgoing.map fun datagram => ⟨datagram.participantPubkey, endpoint, datagram.payload⟩
  tunnelPackets := processed.tunnelPackets

def isEmpty (processed : DatagramProcessingResult) : Bool :=
  processed.outgoing.isEmpty && processed.tunnelPackets.isEmpty

end DatagramProcessingResult

structure PeerRuntimeStatus where
  participantPubkey : String
  endpoint : SocketAddr
  lastHandshakeAge : Option Nat
  deriving DecidableEq, Repr

structure WireGuardPeerRuntime (Tunn : Type) where
  participantPubkey : String
  endpoint : SocketAddr
  tunnel : Tunn
  routes : List Ipv4Route

structure MobileWireGuardRuntime (Tunn : Type) where
  peers : List (WireGuardPeerRuntime Tunn)

inductive CryptoError where
  | InvalidEncoding | InvalidLength
  deriving DecidableEq, Repr

/-- `decode_private_key` and `decode_public_key`. -/
def decodeKey (codec : KeyCodec) (encoded : String) : Except CryptoError (List UInt8) :=
  match codec.decodeBase64 encoded with
  | .error _ => .error .InvalidEncoding
  | .ok raw => if raw.length = 32 then .ok raw else .error .InvalidLength

def processTunnResult (participantPubkey : String) (endpoint : SocketAddr) :
    TunnResult → DatagramProcessingResult
  | .Done | .Err _ => {}
  | .WriteToNetwork payload => { outgoing := [{ participantPubkey, endpoint, payload }] }
  | .WriteToTunnelV4 packet | .WriteToTunnelV6 packet => { tunnelPackets := [packet] }

def matchesNonmatchingPeer : TunnResult → Bool
  | .Err error => error ∈ [.WrongKey, .WrongIndex, .InvalidMac, .InvalidAeadTag, .UnexpectedPacket,
      .WrongPacketType, .NoCurrentSession, .InvalidPacket, .InvalidCounter, .DuplicateCounter]
  | _ => false

/-- The mark of a datagram that is not for the peer. -/
def nonmatching (endpoint : SocketAddr) : DatagramProcessingResult where
  outgoing := [{ participantPubkey := "", endpoint, payload := [] }]

def DatagramProcessingResult.isNonmatching (processed : DatagramProcessingResult) : Bool :=
  match processed.outgoing with
  | [outgoing] => outgoing.participantPubkey == "" && outgoing.payload.isEmpty
  | _ => false

def readDatagram (participantPubkey : String) (endpoint : SocketAddr) (result : TunnResult) :
    DatagramProcessingResult :=
  if matchesNonmatchingPeer result then nonmatching endpoint
  else processTunnResult participantPubkey endpoint result

namespace MobileWireGuardRuntime

variable {Tunn : Type} (boringtun : Boringtun Tunn)

/-- One call of the tunnel of a peer. -/
def callPeer (call : Tunn → TunnResult × Tunn)
    (read : String → SocketAddr → TunnResult → DatagramProcessingResult) (peerIndex : Nat)
    (runtime : MobileWireGuardRuntime Tunn) :
    Except String DatagramProcessingResult × MobileWireGuardRuntime Tunn :=
  match runtime.peers[peerIndex]? with
  | none => (.error "selected peer index out of range", runtime)
  | some peer =>
    let (result, tunnel) := call peer.tunnel
    (.ok (read peer.participantPubkey peer.endpoint result),
      ⟨runtime.peers.set peerIndex { peer with tunnel }⟩)

def peerRuntime (codec : KeyCodec) (privateKey : List UInt8) (index : Nat) (peer : WireGuardPeerConfig) :
    Except CryptoError (WireGuardPeerRuntime Tunn) :=
  (decodeKey codec peer.publicKey).map fun publicKey => {
    participantPubkey := peer.participantPubkey
    endpoint := peer.endpoint
    tunnel := boringtun.new privateKey publicKey (index + 1)
    routes := peer.allowedIps.filterMap Ipv4Route.parse }

def new (codec : KeyCodec) (privateKey : String) (peers : List WireGuardPeerConfig) :
    Except CryptoError (MobileWireGuardRuntime Tunn) := do
  let privateKey ← decodeKey codec privateKey
  let peers ← peers.zipIdx.mapM fun (peer, index) => peerRuntime boringtun codec privateKey index peer
  return ⟨peers⟩

/-- The rounds of `flush_queued` until the tunnel has no answer. -/
def flushRounds (peerIndex : Nat) :
    Nat → MobileWireGuardRuntime Tunn → DatagramProcessingResult × MobileWireGuardRuntime Tunn
  | 0, runtime => ({}, runtime)
  | rounds + 1, runtime =>
    match runtime.callPeer (boringtun.decapsulate none []) processTunnResult peerIndex with
    | (.error _, runtime) => ({}, runtime)
    | (.ok next, runtime) =>
      if next.isEmpty then ({}, runtime)
      else
        let (processed, runtime) := flushRounds peerIndex rounds runtime
        (next.extend processed, runtime)

def flushQueued (peerIndex : Nat) (runtime : MobileWireGuardRuntime Tunn) :
    DatagramProcessingResult × MobileWireGuardRuntime Tunn :=
  let rounds := (runtime.peers[peerIndex]?).elim 0 fun peer => boringtun.queued peer.tunnel
  flushRounds boringtun peerIndex (rounds + 1) runtime

/-- The routes of all peers that hold the address, with their peers; the last of the longest is taken. -/
def selectPeerForPacket (packet : Packet) (runtime : MobileWireGuardRuntime Tunn) : Option Nat :=
  match boringtun.dstAddress packet with
  | some (.v4 destination) =>
    let found := runtime.peers.zipIdx.flatMap fun (peer, index) =>
      (peer.routes.filter fun route => route.matchesIp destination).map fun route =>
        (index, route.prefixLen)
    (maxByKey Prod.snd found).map Prod.fst
  | _ => none

def queueTunnelPacket (packet : Packet) (runtime : MobileWireGuardRuntime Tunn) :
    Except String (List OutgoingDatagram) × MobileWireGuardRuntime Tunn :=
  match runtime.selectPeerForPacket boringtun packet with
  | none => (.ok [], runtime)
  | some peerIndex =>
    match runtime.callPeer (boringtun.encapsulate packet) processTunnResult peerIndex with
    | (.error e, runtime) => (.error e, runtime)
    | (.ok processed, runtime) =>
      let (flushed, runtime) := runtime.flushQueued boringtun peerIndex
      (.ok (processed.outgoing ++ flushed.outgoing), runtime)

/-- A datagram is offered to the peers in turn, until one takes it. -/
def offerDatagram (source : SocketAddr) (datagram : Packet) :
    List Nat → MobileWireGuardRuntime Tunn →
      Except String DatagramProcessingResult × MobileWireGuardRuntime Tunn
  | [], runtime => (.ok {}, runtime)
  | peerIndex :: candidates, runtime =>
    match runtime.callPeer (boringtun.decapsulate (some source.ip) datagram) readDatagram peerIndex with
    | (.error e, runtime) => (.error e, runtime)
    | (.ok processed, runtime) =>
      if processed.isNonmatching then offerDatagram source datagram candidates runtime
      else
        let runtime : MobileWireGuardRuntime Tunn :=
          ⟨runtime.peers.modify peerIndex fun peer => { peer with endpoint := source }⟩
        let (flushed, runtime) := runtime.flushQueued boringtun peerIndex
        (.ok ((processed.redirect source).extend flushed), runtime)

/-- The peers at the source of the datagram come first. -/
def candidates (source : SocketAddr) (runtime : MobileWireGuardRuntime Tunn) : List Nat :=
  let indexed := runtime.peers.zipIdx
  ((indexed.filter fun entry => entry.1.endpoint == source) ++
    indexed.filter fun entry => entry.1.endpoint != source).map Prod.snd

def receiveDatagram (source : SocketAddr) (datagram : Packet) (runtime : MobileWireGuardRuntime Tunn) :
    Except String DatagramProcessingResult × MobileWireGuardRuntime Tunn :=
  offerDatagram boringtun source datagram (runtime.candidates source) runtime

/-- One call for each peer; what the source expects of an index in range is an error otherwise. -/
def forEachPeer (call : Nat → MobileWireGuardRuntime Tunn →
      DatagramProcessingResult × MobileWireGuardRuntime Tunn) :
    List Nat → MobileWireGuardRuntime Tunn → DatagramProcessingResult × MobileWireGuardRuntime Tunn
  | [], runtime => ({}, runtime)
  | peerIndex :: rest, runtime =>
    let (processed, runtime) := call peerIndex runtime
    let (others, runtime) := forEachPeer call rest runtime
    (processed.extend others, runtime)

def initiateHandshakes (runtime : MobileWireGuardRuntime Tunn) :
    List OutgoingDatagram × MobileWireGuardRuntime Tunn :=
  let (processed, runtime) := forEachPeer (fun peerIndex runtime =>
    let (processed, runtime) := runtime.callPeer boringtun.formatHandshakeInitiation processTunnResult peerIndex
    (processed.toOption.getD {}, runtime)) (List.range runtime.peers.length) runtime
  (processed.outgoing, runtime)

def tickTimers (runtime : MobileWireGuardRuntime Tunn) :
    DatagramProcessingResult × MobileWireGuardRuntime Tunn :=
  forEachPeer (fun peerIndex runtime =>
    let (processed, runtime) := runtime.callPeer boringtun.updateTimers processTunnResult peerIndex
    let (flushed, runtime) := runtime.flushQueued boringtun peerIndex
    ((processed.toOption.getD {}).extend flushed, runtime)) (List.range runtime.peers.length) runtime

def peerStatuses (runtime : MobileWireGuardRuntime Tunn) : List PeerRuntimeStatus :=
  runtime.peers.map fun peer =>
    { participantPubkey := peer.participantPubkey
      endpoint := peer.endpoint
      lastHandshakeAge := boringtun.lastHandshakeAge peer.tunnel }

/-! ## The queue of a peer is flushed -/

theorem isEmpty_processTunnResult {participantPubkey : String} {endpoint : SocketAddr} {result : TunnResult}
    (some' : (processTunnResult participantPubkey endpoint result).isEmpty = false) :
    (∀ error, result ≠ .Err error) ∧ result ≠ .Done := by
  cases result <;> simp_all [processTunnResult, DatagramProcessingResult.isEmpty]

/-- More rounds than the tunnel has answers change nothing: the loop of the source ends. -/
theorem flushRounds_eq {peerIndex : Nat} {rounds : Nat} {runtime : MobileWireGuardRuntime Tunn}
    (enough : ∀ peer ∈ runtime.peers[peerIndex]?, boringtun.queued peer.tunnel < rounds) :
    flushRounds boringtun peerIndex (rounds + 1) runtime =
      flushRounds boringtun peerIndex rounds runtime := by
  induction rounds generalizing runtime with
  | zero =>
    cases found : runtime.peers[peerIndex]? with
    | none => simp [flushRounds, callPeer, found]
    | some peer => exact absurd (enough peer (by simp [found])) (by omega)
  | succ rounds ih =>
    rw [flushRounds, flushRounds]
    cases found : runtime.peers[peerIndex]? with
    | none => simp [callPeer, found]
    | some peer =>
      have few := enough peer (by simp [found])
      obtain ⟨inRange, -⟩ := List.getElem?_eq_some_iff.mp found
      simp only [callPeer, found]
      by_cases last : (processTunnResult peer.participantPubkey peer.endpoint
          (boringtun.decapsulate none [] peer.tunnel).1).isEmpty
      · simp only [last, if_true]
      · obtain ⟨noError, answered⟩ := isEmpty_processTunnResult (by simpa using last)
        have fewer := boringtun.drains peer.tunnel noError answered
        rw [if_neg last, if_neg last, ih]
        intro peer' here
        obtain rfl : _ = peer' := by
          simpa [List.getElem?_set_self inRange] using here
        exact Nat.lt_of_lt_of_le fewer (by omega)

/-! ## No call fails -/

variable {boringtun} {runtime : MobileWireGuardRuntime Tunn} {peerIndex : Nat}

section Calls
variable (call : Tunn → TunnResult × Tunn)
  (read : String → SocketAddr → TunnResult → DatagramProcessingResult)

theorem length_callPeer :
    (runtime.callPeer call read peerIndex).2.peers.length = runtime.peers.length := by
  unfold callPeer
  split <;> simp

theorem callPeer_ok (inRange : peerIndex < runtime.peers.length) :
    ∃ processed, (runtime.callPeer call read peerIndex).1 = .ok processed := by
  simp [callPeer, List.getElem?_eq_getElem inRange]

end Calls

theorem length_flushRounds (rounds : Nat) :
    (flushRounds boringtun peerIndex rounds runtime).2.peers.length = runtime.peers.length := by
  induction rounds generalizing runtime with
  | zero => rfl
  | succ rounds ih =>
    have same := @length_callPeer _ runtime peerIndex (boringtun.decapsulate none []) processTunnResult
    rw [flushRounds]
    generalize runtime.callPeer (boringtun.decapsulate none []) processTunnResult peerIndex = called at same
    obtain ⟨_ | next, after⟩ := called
    · exact same
    · by_cases last : next.isEmpty
      · simpa [last] using same
      · simpa [last, ih] using same

@[simp] theorem length_flushQueued :
    (runtime.flushQueued boringtun peerIndex).2.peers.length = runtime.peers.length :=
  length_flushRounds _

theorem lt_of_selectPeerForPacket {packet : Packet}
    (selected : runtime.selectPeerForPacket boringtun packet = some peerIndex) :
    peerIndex < runtime.peers.length := by
  unfold selectPeerForPacket at selected
  split at selected
  · obtain ⟨entry, longest, rfl⟩ := Option.map_eq_some_iff.mp selected
    obtain ⟨⟨peer, index⟩, listed, found⟩ := List.mem_flatMap.mp (mem_of_maxByKey longest)
    obtain ⟨route, -, rfl⟩ := List.mem_map.mp found
    exact List.snd_lt_of_mem_zipIdx listed
  · cases selected

theorem queueTunnelPacket_ok (packet : Packet) :
    ∃ outgoing, (runtime.queueTunnelPacket boringtun packet).1 = .ok outgoing := by
  unfold queueTunnelPacket
  cases selected : runtime.selectPeerForPacket boringtun packet with
  | none => exact ⟨[], rfl⟩
  | some peerIndex =>
    obtain ⟨processed, ok⟩ := callPeer_ok (boringtun.encapsulate packet) processTunnResult
      (lt_of_selectPeerForPacket selected)
    dsimp only
    generalize runtime.callPeer (boringtun.encapsulate packet) processTunnResult peerIndex = called at ok ⊢
    obtain ⟨result, after⟩ := called
    obtain rfl : result = .ok processed := ok
    exact ⟨_, rfl⟩

theorem offerDatagram_ok (source : SocketAddr) (datagram : Packet) (candidates : List Nat)
    (inRange : ∀ peerIndex ∈ candidates, peerIndex < runtime.peers.length) :
    ∃ processed, (offerDatagram boringtun source datagram candidates runtime).1 = .ok processed := by
  induction candidates generalizing runtime with
  | nil => exact ⟨{}, rfl⟩
  | cons peerIndex candidates ih =>
    rw [offerDatagram]
    obtain ⟨processed, ok⟩ := callPeer_ok (boringtun.decapsulate (some source.ip) datagram) readDatagram
      (inRange peerIndex (by simp))
    have same := @length_callPeer _ runtime peerIndex (boringtun.decapsulate (some source.ip) datagram) readDatagram
    generalize runtime.callPeer (boringtun.decapsulate (some source.ip) datagram) readDatagram peerIndex =
      called at ok same ⊢
    obtain ⟨result, after⟩ := called
    obtain rfl : result = .ok processed := ok
    by_cases other : processed.isNonmatching
    · simp only [other, if_true]
      exact ih fun index mem => by rw [same]; exact inRange index (by simp [mem])
    · simp only [other, Bool.false_eq_true, if_false]
      exact ⟨_, rfl⟩

theorem receiveDatagram_ok (source : SocketAddr) (datagram : Packet) :
    ∃ processed, (runtime.receiveDatagram boringtun source datagram).1 = .ok processed := by
  refine offerDatagram_ok source datagram _ fun peerIndex mem => ?_
  simp only [candidates, List.map_append, List.mem_append, List.mem_map, List.mem_filter] at mem
  rcases mem with ⟨entry, ⟨listed, -⟩, rfl⟩ | ⟨entry, ⟨listed, -⟩, rfl⟩ <;>
    exact List.snd_lt_of_mem_zipIdx listed

/-- A runtime is made of a key of its own and keys of the peers. -/
theorem new_ok {codec : KeyCodec} {privateKey : String} {peers : List WireGuardPeerConfig}
    (own : ∃ key, decodeKey codec privateKey = .ok key)
    (keys : ∀ peer ∈ peers, ∃ key, decodeKey codec peer.publicKey = .ok key) :
    ∃ runtime, new boringtun codec privateKey peers = .ok runtime := by
  obtain ⟨key, own⟩ := own
  have made : ∀ entry ∈ peers.zipIdx,
      ((peerRuntime boringtun codec key entry.2 entry.1).toOption).isSome := by
    intro entry listed
    obtain ⟨publicKey, read⟩ := keys entry.1 (List.fst_mem_of_mem_zipIdx listed)
    simp [peerRuntime, read, Except.map]
  have all := mapM_eq_ok.mpr ⟨made, rfl⟩
  simp only [new, own]
  exact ⟨_, congrArg (·.map MobileWireGuardRuntime.mk) all⟩

end MobileWireGuardRuntime

end NostrVpn.Gui
