import NostrVpn.Gui.AndroidSession

/-!
# The iOS packet tunnel

`run_ios_packet_tunnel` of `ios_packet_tunnel.rs`, from the point where the signaling client is connected.
One task does what the session and the tunnel task do on Android. `update_settings` fails on no payload:
a JSON text has no NUL.
-/
namespace NostrVpn.Gui

open Rust Rust.Net NostrVpn.Core

inductive IosEnd where
  | stopRequested
  | packetsClosed
  | signalingClosed
  | udpRecv
  | planning (error : String)
  | wireguard (error : String)
  | runtime (error : CryptoError)
  | send (endpoint : SocketAddr)
  deriving DecidableEq, Repr

/-- The local variables of the loop, and its end. -/
structure IosSession (Tunn : Type) where
  config : AppConfig
  listenPort : UInt16
  presence : PeerPresenceBook := {}
  pathBook : PeerPathBook := ⟨∅⟩
  currentRuntime : Option (MobileWireGuardRuntime Tunn) := none
  currentFingerprint : Option String := none
  currentRouteTargets : List String := []
  ended : Option IosEnd := none

namespace IosSession

variable {Tunn : Type} (env : MobileEnv Tunn)

inductive Event where
  | stopChanged
  | packet (packet : Packet) (sent : Nat → Bool)
  | packetsClosed
  | received (sender : String) (payload : SignalPayload) (detected : Option Ipv4Addr) (now : Nat)
      (sent : Nat → Bool)
  | closed
  | datagram (source : SocketAddr) (datagram : Packet) (sent : Nat → Bool)
  | udpRecvFailed
  | timer (sent : Nat → Bool)
  | statusTick (now : Nat)

def planContext (session : IosSession Tunn) (detected : Option Ipv4Addr) (now : Nat) : PlanContext where
  app := session.config
  ownPubkey := session.config.ownPubkey env.sdk
  announcements := session.presence.known
  ownLocalEndpoint := some (runtimeLocalSignalEndpoint detected session.config.node.endpoint
    session.listenPort)
  now := now

def endWith (session : IosSession Tunn) (reason : IosEnd) : IosSession Tunn :=
  { session with ended := some reason }

/-- `send_outgoing_datagrams(..).await?`. -/
def send (session : IosSession Tunn) (sent : Nat → Bool) (datagrams : List OutgoingDatagram) :
    IosSession Tunn :=
  match sendOutgoingDatagrams sent datagrams with
  | some endpoint => session.endWith (.send endpoint)
  | none => session

/-- `reconcile_runtime`. -/
def reconcileRuntime (detected : Option Ipv4Addr) (now : Nat) (sent : Nat → Bool)
    (session : IosSession Tunn) : IosSession Tunn :=
  match iosPlannedTunnelPeers (session.planContext env detected now) session.pathBook with
  | (.error e, _) => session.endWith (.planning e)
  | (.ok planned, pathBook) =>
    let session := { session with
      pathBook := noteSelectedPeers planned pathBook now
      currentRouteTargets := routeTargetsForTunnelPeers planned }
    let fingerprint := tunnelFingerprint session.config session.listenPort planned
    if planned = [] then { session with currentRuntime := none, currentFingerprint := none }
    else if session.currentFingerprint = some fingerprint then session
    else match MobileWireGuardRuntime.new env.boringtun env.codec session.config.node.privateKey
        (wireGuardPeerConfigs planned) with
    | .error e => session.endWith (.runtime e)
    | .ok runtime =>
      let (outgoing, runtime) := runtime.initiateHandshakes env.boringtun
      { session with
        currentRuntime := some runtime
        currentFingerprint := some fingerprint }.send sent outgoing

/-- An arm that runs a call of the runtime, if there is one, and sends what it leaves. -/
def withRuntime (call : MobileWireGuardRuntime Tunn →
    Except String (List OutgoingDatagram) × MobileWireGuardRuntime Tunn) (sent : Nat → Bool)
    (session : IosSession Tunn) : IosSession Tunn :=
  match session.currentRuntime with
  | none => session
  | some runtime =>
    match call runtime with
    | (.error e, _) => session.endWith (.wireguard e)
    | (.ok outgoing, runtime) => { session with currentRuntime := some runtime }.send sent outgoing

def step (session : IosSession Tunn) (event : Event) : IosSession Tunn :=
  if session.ended.isSome then session
  else match event with
    | .stopChanged => session.endWith .stopRequested
    | .packet packet sent => session.withRuntime (·.queueTunnelPacket env.boringtun packet) sent
    | .packetsClosed => session.endWith .packetsClosed
    | .received sender payload detected now sent =>
      { session with presence := (session.presence.applySignal sender payload now).2
        }.reconcileRuntime env detected now sent
    | .closed => session.endWith .signalingClosed
    | .datagram source datagram sent =>
      session.withRuntime (fun runtime =>
        let (processed, runtime) := runtime.receiveDatagram env.boringtun source datagram
        (processed.map DatagramProcessingResult.outgoing, runtime)) sent
    | .udpRecvFailed => session.endWith .udpRecv
    | .timer sent =>
      session.withRuntime (fun runtime =>
        let (processed, runtime) := runtime.tickTimers env.boringtun
        (.ok processed.outgoing, runtime)) sent
    | .statusTick now =>
      let statuses := (session.currentRuntime.map fun runtime => runtime.peerStatuses env.boringtun).getD []
      { session with
        presence := (session.presence.pruneStale now iosSignalStaleAfterSecs).2
        pathBook := noteSuccessfulRuntimePaths statuses session.pathBook now }

end IosSession

end NostrVpn.Gui
