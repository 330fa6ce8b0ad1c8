import NostrVpn.Cli.TunnelPlan
import NostrVpn.Rust.Prefix

/-!
# The userspace WireGuard runtime

`nostr-vpn-cli/src/userspace_wg.rs`: the peers of an interface, each with its own `boringtun` tunnel, and
what becomes of the packets that a tunnel writes. `nostr-vpn-gui/src-tauri/src/mobile_wg.rs` holds the
same functions under other type names. The `boringtun` crate is a parameter.
-/
namespace NostrVpn.Cli

open Rust Rust.Net

/-! ## The `boringtun` crate -/

inductive WireGuardError where
  | DestinationBufferTooSmall | IncorrectPacketLength | UnexpectedPacket | WrongPacketType | WrongIndex
  | WrongKey | InvalidTai64nTimestamp | WrongTai64nTimestamp | InvalidMac | InvalidAeadTag
  | InvalidCounter | DuplicateCounter | InvalidPacket | NoCurrentSession | LockFailed
  | ConnectionExpired | UnderLoad
  deriving DecidableEq, Repr

inductive TunnResult where
  | Done
  | Err (error : WireGuardError)
  | WriteToNetwork (packet : List UInt8)
  | WriteToTunnelV4 (packet : List UInt8) (addr : Ipv4Addr)
  | WriteToTunnelV6 (packet : List UInt8) (addr : Ipv6Addr)
  deriving DecidableEq

def TunnResult.writes : TunnResult → Bool
  | .Done | .Err _ => false
  | .WriteToNetwork _ | .WriteToTunnelV4 .. | .WriteToTunnelV6 .. => true

/-- `Tunn` on states `σ`. A call also reads its clock and random source `ω`. Decapsulating an empty
datagram writes what is queued, and a caller repeats it until nothing is left. -/
structure Tunn (ω σ : Type) where
  new : List UInt8 → List UInt8 → Nat → σ
  dstAddress : List UInt8 → Option IpAddr
  encapsulate : ω → σ → List UInt8 → TunnResult × σ
  decapsulate : ω → σ → Option IpAddr → List UInt8 → TunnResult × σ
  formatHandshakeInitiation : ω → σ → TunnResult × σ
  updateTimers : ω → σ → TunnResult × σ
  queued : σ → Nat
  drains : ∀ w t, (decapsulate w t none []).1.writes = true →
    queued (decapsulate w t none []).2 < queued t

/-! ## Routes -/

structure Ipv4Route where
  network : BitVec 32
  prefixLen : Nat
  deriving DecidableEq, Repr

def prefixMask (prefixLen : Nat) : BitVec 32 :=
  if prefixLen = 0 then 0 else BitVec.allOnes 32 <<< (32 - prefixLen)

namespace Ipv4Route

def parse (value : String) : Option Ipv4Route := do
  let (addr, prefixLen) ← splitOnce '/' (trim value)
  let prefixLen ← parseUnsigned 255 prefixLen
  if 32 < prefixLen then none
  let ip ← Ipv4Addr.parse addr
  return { network := ip.bits &&& prefixMask prefixLen, prefixLen }

def matches' (route : Ipv4Route) (ip : Ipv4Addr) : Bool :=
  (ip.bits &&& prefixMask route.prefixLen) == route.network

end Ipv4Route

/-! ## The runtime -/

structure UserspaceWireGuardPeerConfig where
  participantPubkey : String
  publicKeyBase64 : String
  endpoint : SocketAddr
  allowedIps : List String
  deriving DecidableEq

structure OutgoingDatagram where
  participantPubkey : String
  endpoint : SocketAddr
  payload : List UInt8
  deriving DecidableEq

structure DatagramProcessingResult where
  outgoing : List OutgoingDatagram := []
  tunnelPackets : List (List UInt8) := []
  deriving DecidableEq

namespace DatagramProcessingResult

def extend (processed next : DatagramProcessingResult) : DatagramProcessingResult where
  outgoing := processed.outgoing ++ next.outgoing
  tunnelPackets := processed.tunnelPackets ++ next.tunnelPackets

def isEmpty (processed : DatagramProcessingResult) : Bool :=
  processed.outgoing.isEmpty && processed.tunnelPackets.isEmpty

/-- What stands for a datagram of another peer: one outgoing datagram of nobody, with no payload. -/
def isNonmatching (processed : DatagramProcessingResult) : Bool :=
  match processed.outgoing with
  | [outgoing] => outgoing.participantPubkey.isEmpty && outgoing.payload.isEmpty
  | _ => false

end DatagramProcessingResult

structure UserspaceWireGuardPeerRuntime (σ : Type) where
  participantPubkey : String
  endpoint : SocketAddr
  tunnel : σ
  routes : List Ipv4Route

structure UserspaceWireGuardRuntime (σ : Type) where
  peers : List (UserspaceWireGuardPeerRuntime σ)

def matchesNonmatchingPeer : TunnResult → Bool
  | .Err error => match error with
    | .WrongKey | .WrongIndex | .InvalidMac | .InvalidAeadTag | .UnexpectedPacket | .WrongPacketType
    | .NoCurrentSession | .InvalidPacket | .InvalidCounter | .DuplicateCounter => true
    | .DestinationBufferTooSmall | .IncorrectPacketLength | .InvalidTai64nTimestamp
    | .WrongTai64nTimestamp | .LockFailed | .ConnectionExpired | .UnderLoad => false
  | _ => false

def processTunnResult (participantPubkey : String) (endpoint : SocketAddr) :
    TunnResult → DatagramProcessingResult
  | .Done | .Err _ => {}
  | .WriteToNetwork payload => { outgoing := [{ participantPubkey, endpoint, payload }] }
  | .WriteToTunnelV4 packet _ | .WriteToTunnelV6 packet _ => { tunnelPackets := [packet] }

theorem writes_of_not_isEmpty {participantPubkey : String} {endpoint : SocketAddr}
    {result : TunnResult} (h : (processTunnResult participantPubkey endpoint result).isEmpty = false) :
    result.writes = true := by
  cases result <;>
    simp_all [processTunnResult, DatagramProcessingResult.isEmpty, TunnResult.writes]

/-- `decode_private_key` and `decode_public_key`. -/
def decodeKey (codec : KeyCodec) (encoded : String) : Except String (List UInt8) := do
  let raw ← (codec.decodeBase64 encoded).mapError fun _ => "invalid key encoding"
  if raw.length ≠ 32 then throw "invalid key length"
  return raw

variable {ω σ : Type}

namespace UserspaceWireGuardPeerRuntime

/-- A call of the peer's tunnel and its processed result. -/
def process (peer : UserspaceWireGuardPeerRuntime σ) (call : TunnResult × σ) :
    DatagramProcessingResult × UserspaceWireGuardPeerRuntime σ :=
  (processTunnResult peer.participantPubkey peer.endpoint call.1, { peer with tunnel := call.2 })

def flushQueued (tunn : Tunn ω σ) (w : ω) (peer : UserspaceWireGuardPeerRuntime σ) :
    DatagramProcessingResult × UserspaceWireGuardPeerRuntime σ :=
  let next := peer.process (tunn.decapsulate w peer.tunnel none [])
  if _done : next.1.isEmpty = true then ({}, next.2)
  else
    let rest := flushQueued tunn w next.2
    (next.1.extend rest.1, rest.2)
  termination_by tunn.queued peer.tunnel
  decreasing_by
    exact tunn.drains w peer.tunnel (writes_of_not_isEmpty (Bool.eq_false_iff.mpr _done))

/-- The body of `tick_timers` for one peer. -/
def tick (tunn : Tunn ω σ) (w : ω) (peer : UserspaceWireGuardPeerRuntime σ) :
    DatagramProcessingResult × UserspaceWireGuardPeerRuntime σ :=
  let processed := peer.process (tunn.updateTimers w peer.tunnel)
  let flushed := processed.2.flushQueued tunn w
  (processed.1.extend flushed.1, flushed.2)

/-- One candidate of `receive_datagram`. -/
def tryDatagram (tunn : Tunn ω σ) (w : ω) (source : SocketAddr) (datagram : List UInt8)
    (peer : UserspaceWireGuardPeerRuntime σ) :
    DatagramProcessingResult × UserspaceWireGuardPeerRuntime σ :=
  let call := tunn.decapsulate w peer.tunnel (some source.ip) datagram
  if matchesNonmatchingPeer call.1 then
    ({ outgoing := [⟨"", peer.endpoint, []⟩] }, { peer with tunnel := call.2 })
  else peer.process call

/-- What follows when the candidate matches: the peer roams to the source and its queue is flushed. -/
def acceptDatagram (tunn : Tunn ω σ) (w : ω) (source : SocketAddr)
    (tried : DatagramProcessingResult × UserspaceWireGuardPeerRuntime σ) :
    DatagramProcessingResult × UserspaceWireGuardPeerRuntime σ :=
  let processed : DatagramProcessingResult := { tried.1 with
    outgoing := tried.1.outgoing.map fun outgoing => { outgoing with endpoint := source } }
  let roamed : UserspaceWireGuardPeerRuntime σ := { tried.2 with endpoint := source }
  let flushed := flushQueued tunn w roamed
  (processed.extend flushed.1, flushed.2)

end UserspaceWireGuardPeerRuntime

namespace UserspaceWireGuardRuntime

def new (tunn : Tunn ω σ) (codec : KeyCodec) (privateKeyBase64 : String)
    (peers : List UserspaceWireGuardPeerConfig) : Except String (UserspaceWireGuardRuntime σ) := do
  let privateKey ← decodeKey codec privateKeyBase64
  let runtimes ← peers.zipIdx.mapM fun (peer, index) => do
    let peerPublicKey ← decodeKey codec peer.publicKeyBase64
    return { participantPubkey := peer.participantPubkey, endpoint := peer.endpoint
             tunnel := tunn.new privateKey peerPublicKey (min (index % 2 ^ 32 + 1) (2 ^ 32 - 1))
             routes := peer.allowedIps.filterMap Ipv4Route.parse }
  return ⟨runtimes⟩

def selectPeerForPacket (tunn : Tunn ω σ) (rt : UserspaceWireGuardRuntime σ) (packet : List UInt8) :
    Option Nat :=
  match tunn.dstAddress packet with
  | none | some (.v6 _) => none
  | some (.v4 destination) =>
    let routes := rt.peers.zipIdx.flatMap fun (peer, index) =>
      (peer.routes.filter fun route => route.matches' destination).map fun route =>
        (index, route.prefixLen)
    (maxByKey Prod.snd routes).map Prod.fst

def queueTunnelPacket (tunn : Tunn ω σ) (w : ω) (rt : UserspaceWireGuardRuntime σ)
    (packet : List UInt8) : Except String (List OutgoingDatagram) × UserspaceWireGuardRuntime σ :=
  match rt.selectPeerForPacket tunn packet with
  | none => (.ok [], rt)
  | some index => match rt.peers[index]? with
    | none => (.error "selected peer index out of range", rt)
    | some peer =>
      let processed := peer.process (tunn.encapsulate w peer.tunnel packet)
      let flushed := processed.2.flushQueued tunn w
      (.ok (processed.1.outgoing ++ flushed.1.outgoing), ⟨rt.peers.set index flushed.2⟩)

/-- The peers at the source address first. -/
def candidates (rt : UserspaceWireGuardRuntime σ) (source : SocketAddr) : List Nat :=
  ((rt.peers.zipIdx.filter fun e => e.1.endpoint = source) ++
    rt.peers.zipIdx.filter fun e => e.1.endpoint ≠ source).map Prod.snd

def receiveFrom (tunn : Tunn ω σ) (w : ω) (source : SocketAddr) (datagram : List UInt8) :
    UserspaceWireGuardRuntime σ → List Nat →
      Except String DatagramProcessingResult × UserspaceWireGuardRuntime σ
  | rt, [] => (.ok {}, rt)
  | rt, index :: rest => match rt.peers[index]? with
    | none => (.error "selected peer index out of range", rt)
    | some peer =>
      let tried := peer.tryDatagram tunn w source datagram
      if tried.1.isNonmatching then
        receiveFrom tunn w source datagram ⟨rt.peers.set index tried.2⟩ rest
      else
        let accepted := UserspaceWireGuardPeerRuntime.acceptDatagram tunn w source tried
        (.ok accepted.1, ⟨rt.peers.set index accepted.2⟩)

def receiveDatagram (tunn : Tunn ω σ) (w : ω) (rt : UserspaceWireGuardRuntime σ)
    (source : SocketAddr) (datagram : List UInt8) :
    Except String DatagramProcessingResult × UserspaceWireGuardRuntime σ :=
  receiveFrom tunn w source datagram rt (rt.candidates source)

def initiateHandshakes (tunn : Tunn ω σ) (w : ω) (rt : UserspaceWireGuardRuntime σ) :
    List OutgoingDatagram × UserspaceWireGuardRuntime σ :=
  let processed := rt.peers.map fun peer =>
    peer.process (tunn.formatHandshakeInitiation w peer.tunnel)
  (processed.flatMap fun p => p.1.outgoing, ⟨processed.map Prod.snd⟩)

def tickTimers (tunn : Tunn ω σ) (w : ω) (rt : UserspaceWireGuardRuntime σ) :
    DatagramProcessingResult × UserspaceWireGuardRuntime σ :=
  let processed := rt.peers.map fun peer => peer.tick tunn w
  (processed.foldl (fun all p => all.extend p.1) {}, ⟨processed.map Prod.snd⟩)

end UserspaceWireGuardRuntime

/-! ## Runs -/

/-- The calls that the reader, device and timer threads make under the lock of the runtime. -/
inductive WireGuardEvent (ω : Type) where
  | datagram (w : ω) (source : SocketAddr) (datagram : List UInt8)
  | packet (w : ω) (packet : List UInt8)
  | timers (w : ω)
  | handshakes (w : ω)

def UserspaceWireGuardRuntime.step (tunn : Tunn ω σ) (rt : UserspaceWireGuardRuntime σ) :
    WireGuardEvent ω → UserspaceWireGuardRuntime σ
  | .datagram w source datagram => (rt.receiveDatagram tunn w source datagram).2
  | .packet w packet => (rt.queueTunnelPacket tunn w packet).2
  | .timers w => (rt.tickTimers tunn w).2
  | .handshakes w => (rt.initiateHandshakes tunn w).2

/-- The runtime of `mobile_wg.rs`. -/
abbrev MobileWireGuardRuntime := UserspaceWireGuardRuntime

end NostrVpn.Cli
