import NostrVpn.Core.Presence
import NostrVpn.Gui.MobileWg

/-!
# The Android session

`android_session.rs` and `android_session_tunnel.rs`: the manager, the session task it spawns, and the
tunnel tasks that the session spawns. A step of the model lasts until a task waits for its next event; to
wait for another task's end is to run that task to its end. Messages are sent at best effort, so sending
is not a part of the state. A session starts with the configuration that `ensure_defaults` and
`maybe_autoconfigure_node` return.
-/
namespace NostrVpn.Gui

open Rust Rust.Net NostrVpn.Core
open NostrVpn.Cli (KeyCodec stripCidr otherParticipants)

structure MobileEnv (Tunn : Type) where
  sdk : NostrSdk
  codec : KeyCodec
  boringtun : Boringtun Tunn
  /-- The VPN service takes the text as an address or a route of its interface. -/
  vpnAccepts : String → Bool

/-! ## What a plan asks of the device -/

def routeTargetsForTunnelPeers (peers : List PlannedTunnelPeer) : List String :=
  sortDedup (peers.flatMap fun planned => planned.peer.allowedIps)

def localInterfaceAddressForTunnel (tunnelIp : String) : String :=
  if '/' ∈ tunnelIp.toList then tunnelIp else stripCidr tunnelIp ++ "/32"

def peerEntry (peer : TunnelPeer) : String :=
  let allowedIps := join "," peer.allowedIps
  s!"{peer.participant}|{peer.pubkeyB64}|{peer.endpoint.fmt}|{allowedIps}"

def tunnelFingerprint (config : AppConfig) (listenPort : UInt16) (peers : List PlannedTunnelPeer) :
    String :=
  let localAddress := localInterfaceAddressForTunnel config.node.tunnelIp
  let peerEntries := join ";" (sort (peers.map fun planned => peerEntry planned.peer))
  let port := fmtNat listenPort.toNat
  s!"{config.node.privateKey}|{config.node.tunnelIp}|{port}|{localAddress}|{peerEntries}"

def setPort (port : UInt16) : SocketAddr → SocketAddr
  | .v4 ip _ => .v4 ip port
  | .v6 ip _ scopeId => .v6 ip port scopeId

/-- `detected` is the answer of `detect_runtime_primary_ipv4`. -/
def runtimeLocalSignalEndpoint (detected : Option Ipv4Addr) (endpoint : String) (listenPort : UInt16) :
    String :=
  let unset := ["", "127.0.0.1:51820", "127.0.0.1", "0.0.0.0"].contains (trim endpoint)
  match if unset then detected else none with
  | some ip => (SocketAddr.v4 ip listenPort).fmt
  | none => ((SocketAddr.parse endpoint).map fun addr => (setPort listenPort addr).fmt).getD endpoint

def wireGuardPeerConfigs (planned : List PlannedTunnelPeer) : List WireGuardPeerConfig :=
  planned.map fun planned =>
    { participantPubkey := planned.participant
      publicKey := planned.peer.pubkeyB64
      endpoint := planned.peer.endpoint
      allowedIps := planned.peer.allowedIps }

def peerOnlineGraceSecs : Nat := 180

/-- `note_successful_runtime_paths` on the statuses of a tunnel; ages are in nanoseconds. -/
def noteSuccessfulRuntimePaths (statuses : List PeerRuntimeStatus) (book : PeerPathBook) (now : Nat) :
    PeerPathBook :=
  statuses.foldl (fun book status =>
    match status.lastHandshakeAge with
    | none => book
    | some age =>
      if peerOnlineGraceSecs * 10 ^ 9 < age then book
      else book.noteSuccess status.participantPubkey status.endpoint.fmt (now - age / 10 ^ 9)) book

def noteSelectedPeers (planned : List PlannedTunnelPeer) (book : PeerPathBook) (now : Nat) :
    PeerPathBook :=
  planned.foldl (fun book peer => book.noteSelected peer.participant peer.endpoint now) book

/-! ## Tunnel tasks -/

inductive TunnelEnd where
  | stopRequested
  | send (endpoint : SocketAddr)
  | wireguard (error : String)
  | tunRead | tunWrite | udpRecv
  deriving DecidableEq, Repr

/-- `owner` is the session that spawned the task. A task whose stop channel is dropped goes on: its loop
breaks at a change of the channel, and a dropped channel is an error of `changed`. -/
structure TunnelTask (Tunn : Type) where
  owner : Nat
  runtime : MobileWireGuardRuntime Tunn
  peerStatuses : List PeerRuntimeStatus
  handshakesSent : Bool := false
  ended : Option TunnelEnd := none

/-- What a tunnel task waits for; `sent` is the outcome of the sends of the step, in their order. -/
inductive TunnelEvent where
  | initiate (sent : Nat → Bool)
  | tunPacket (packet : Packet) (sent : Nat → Bool)
  | tunReadFailed
  | datagram (source : SocketAddr) (datagram : Packet) (written : Bool) (sent : Nat → Bool)
  | udpRecvFailed
  | timer (written : Bool) (sent : Nat → Bool)

/-- The endpoint at which `send_outgoing_datagrams` fails. -/
def sendOutgoingDatagrams (sent : Nat → Bool) (datagrams : List OutgoingDatagram) : Option SocketAddr :=
  (datagrams.zipIdx.find? fun entry => !sent entry.2).map fun entry => entry.1.endpoint

namespace TunnelTask

variable {Tunn : Type} (boringtun : Boringtun Tunn)

/-- The end of an arm: the packets are written, then the datagrams are sent, then the status is set. -/
def finish (task : TunnelTask Tunn) (runtime : MobileWireGuardRuntime Tunn)
    (processed : DatagramProcessingResult) (written : Bool) (sent : Nat → Bool) : TunnelTask Tunn :=
  if !processed.tunnelPackets.isEmpty && !written then { task with runtime, ended := some .tunWrite }
  else match sendOutgoingDatagrams sent processed.outgoing with
    | some endpoint => { task with runtime, ended := some (.send endpoint) }
    | none => { task with runtime, peerStatuses := runtime.peerStatuses boringtun }

def step (task : TunnelTask Tunn) (event : TunnelEvent) : TunnelTask Tunn :=
  if task.ended.isSome then task
  else match task.handshakesSent, event with
    | false, .initiate sent =>
      let (outgoing, runtime) := task.runtime.initiateHandshakes boringtun
      { task with handshakesSent := true }.finish boringtun runtime { outgoing } true sent
    | true, .tunPacket packet sent =>
      match task.runtime.queueTunnelPacket boringtun packet with
      | (.ok outgoing, runtime) => task.finish boringtun runtime { outgoing } true sent
      | (.error e, runtime) => { task with runtime, ended := some (.wireguard e) }
    | true, .tunReadFailed => { task with ended := some .tunRead }
    | true, .datagram source datagram written sent =>
      match task.runtime.receiveDatagram boringtun source datagram with
      | (.ok processed, runtime) => task.finish boringtun runtime processed written sent
      | (.error e, runtime) => { task with runtime, ended := some (.wireguard e) }
    | true, .udpRecvFailed => { task with ended := some .udpRecv }
    | true, .timer written sent =>
      let (processed, runtime) := task.runtime.tickTimers boringtun
      task.finish boringtun runtime processed written sent
    | _, _ => task

def stop (task : TunnelTask Tunn) : TunnelTask Tunn :=
  { task with ended := some (task.ended.getD .stopRequested) }

end TunnelTask

/-! ## The session task -/

structure ActiveTunnelTask where
  listenPort : UInt16
  task : Nat
  deriving DecidableEq, Repr

/-- The local variables of `run_android_session` in its loop. -/
structure AndroidSession where
  config : AppConfig
  presence : PeerPresenceBook := {}
  pathBook : PeerPathBook := ⟨∅⟩
  currentTunnel : Option ActiveTunnelTask := none
  currentListenPort : UInt16
  currentFingerprint : Option String := none

inductive SessionTask where
  | none
  | connecting (config : AppConfig)
  | running (session : AndroidSession)

inductive TunnelStartError where
  | socket
  | vpnRefused
  | vpnFailed
  | tunFd
  | tunIo
  | udp
  | wireguard (error : CryptoError)
  deriving DecidableEq, Repr

inductive SessionEnd where
  | stopRequested
  | connectFailed
  | signalingClosed
  | planning (error : String)
  | tunnelStart (error : TunnelStartError)
  deriving DecidableEq, Repr

inductive VpnCall where
  | start (localAddress : String) (routes : List String)
  | stop
  deriving DecidableEq, Repr

/-- What the device answers while a tunnel is started: the port of a bound socket, the descriptor from
the VPN service, and whether the two can be used. -/
structure StartOutcome where
  listenPort : Option UInt16
  tunFd : Option Int
  tunIo : Bool
  udp : Bool
  deriving DecidableEq, Repr

/-- The manager waits for the end of a session task, to return or to start the next one. -/
inductive ManagerState where
  | idle
  | stopping (next : Option AppConfig)

/-- All tasks; `tunnels` are the tunnel tasks ever spawned, `vpn` the calls to the VPN service and `ends`
the ends of session tasks, in their order. -/
structure AndroidState (Tunn : Type) where
  manager : ManagerState := .idle
  session : SessionTask := .none
  stopRequested : Bool := false
  tunnels : List (TunnelTask Tunn) := []
  vpn : List VpnCall := []
  ends : List SessionEnd := []

namespace AndroidState

variable {Tunn : Type} (env : MobileEnv Tunn)

/-- The number of the session task that runs, or of the next one. -/
def sessionId (state : AndroidState Tunn) : Nat := state.ends.length

def stopVpn (state : AndroidState Tunn) : AndroidState Tunn := { state with vpn := state.vpn ++ [.stop] }

def stopTunnelTask (state : AndroidState Tunn) (tunnel : ActiveTunnelTask) : AndroidState Tunn :=
  { state with tunnels := state.tunnels.modify tunnel.task TunnelTask.stop }.stopVpn

/-- A tunnel that is there is stopped, which stops the VPN service too. -/
def stopTunnelOrVpn (state : AndroidState Tunn) : Option ActiveTunnelTask → AndroidState Tunn
  | some tunnel => state.stopTunnelTask tunnel
  | none => state.stopVpn

def startTunnelTask (planned : List PlannedTunnelPeer) (config : AppConfig) (outcome : StartOutcome)
    (state : AndroidState Tunn) : Except TunnelStartError ActiveTunnelTask × AndroidState Tunn :=
  match outcome.listenPort with
  | none => (.error .socket, state)
  | some listenPort =>
    let localAddress := localInterfaceAddressForTunnel config.node.tunnelIp
    let routes := routeTargetsForTunnelPeers planned
    let state := { state with vpn := state.vpn ++ [.start localAddress routes] }
    if !(localAddress :: routes).all env.vpnAccepts then (.error .vpnRefused, state)
    else match outcome.tunFd with
    | none => (.error .vpnFailed, state)
    | some tunFd =>
      if tunFd < 0 then (.error .tunFd, state)
      else if !outcome.tunIo then (.error .tunIo, state)
      else if !outcome.udp then (.error .udp, state)
      else match MobileWireGuardRuntime.new env.boringtun env.codec config.node.privateKey
          (wireGuardPeerConfigs planned) with
      | .error e => (.error (.wireguard e), state)
      | .ok runtime =>
        let task : TunnelTask Tunn :=
          { owner := state.sessionId, runtime, peerStatuses := runtime.peerStatuses env.boringtun }
        (.ok { listenPort, task := state.tunnels.length }, { state with tunnels := state.tunnels ++ [task] })

def planContext (session : AndroidSession) (detected : Option Ipv4Addr) (now : Nat) : PlanContext where
  app := session.config
  ownPubkey := session.config.ownPubkey env.sdk
  announcements := session.presence.known
  ownLocalEndpoint := some (runtimeLocalSignalEndpoint detected session.config.node.endpoint
    session.currentListenPort)
  now := now

/-- `reconcile_tunnel`; an error ends the session. -/
def reconcileTunnel (detected : Option Ipv4Addr) (now : Nat) (outcome : StartOutcome)
    (session : AndroidSession) (state : AndroidState Tunn) :
    Except SessionEnd AndroidSession × AndroidState Tunn :=
  match androidPlannedTunnelPeers (planContext env session detected now) session.pathBook with
  | (.error e, _) => (.error (.planning e), state)
  | (.ok planned, pathBook) =>
    let session := { session with pathBook := noteSelectedPeers planned pathBook now }
    if planned = [] then
      (.ok { session with
        currentTunnel := none
        currentListenPort := session.config.node.listenPort
        currentFingerprint := none }, state.stopTunnelOrVpn session.currentTunnel)
    else if session.currentFingerprint =
        some (tunnelFingerprint session.config session.currentListenPort planned) then
      (.ok session, state)
    else
      let stopped := (session.currentTunnel.map state.stopTunnelTask).getD state
      match stopped.startTunnelTask env planned session.config outcome with
      | (.error e, state) => (.error (.tunnelStart e), state)
      | (.ok tunnel, state) =>
        (.ok { session with
          currentTunnel := some tunnel
          currentListenPort := tunnel.listenPort
          currentFingerprint := some (tunnelFingerprint session.config tunnel.listenPort planned) }, state)

/-- The task returns; the channel and the handle of a tunnel that it still holds are dropped. -/
def endSession (state : AndroidState Tunn) (reason : SessionEnd) : AndroidState Tunn :=
  { state with session := .none, stopRequested := false, ends := state.ends ++ [reason] }

def applySignal (session : AndroidSession) (sender : String) (payload : SignalPayload) (now : Nat) :
    AndroidSession :=
  { session with presence := (session.presence.applySignal sender payload now).2 }

def receive (sender : String) (payload : SignalPayload) (detected : Option Ipv4Addr) (now : Nat)
    (outcome : StartOutcome) (session : AndroidSession) (state : AndroidState Tunn) :
    AndroidState Tunn :=
  match state.reconcileTunnel env detected now outcome (applySignal session sender payload now) with
  | (.error reason, state) => state.endSession reason
  | (.ok session, state) => { state with session := .running session }

def statusTick (now : Nat) (session : AndroidSession) (state : AndroidState Tunn) : AndroidState Tunn :=
  let statuses := ((session.currentTunnel.bind fun tunnel => state.tunnels[tunnel.task]?).map
    TunnelTask.peerStatuses).getD []
  { state with session := .running { session with
      presence := (session.presence.pruneStale now androidSignalStaleAfterSecs).2
      pathBook := noteSuccessfulRuntimePaths statuses session.pathBook now } }

/-! ## Steps -/

inductive Event where
  | start (config : AppConfig)
  | reload (config : AppConfig)
  | stop
  /-- The manager goes on after the end of the old session task. -/
  | proceed (prepared : Bool)
  | connect (connected : Bool)
  | stopChanged
  | received (sender : String) (payload : SignalPayload) (detected : Option Ipv4Addr) (now : Nat)
      (outcome : StartOutcome)
  | closed
  | statusTick (now : Nat)
  | tunnel (task : Nat) (event : TunnelEvent)

/-- `AndroidSessionManager::stop`, and `start` up to the end of the old session; other calls wait. -/
def call (state : AndroidState Tunn) (next : Option AppConfig) : AndroidState Tunn :=
  match state.manager with
  | .idle => { state with manager := .stopping next, stopRequested := true }
  | .stopping _ => state

def proceed (state : AndroidState Tunn) (prepared : Bool) : AndroidState Tunn :=
  match state.manager, state.session with
  | .stopping (some config), .none =>
    if prepared then { state with manager := .idle, session := .connecting config, stopRequested := false }
    else { state with manager := .idle, stopRequested := false }
  | .stopping none, .none => { state with manager := .idle, stopRequested := false }
  | _, _ => state

def step (state : AndroidState Tunn) : Event → AndroidState Tunn
  | .start config | .reload config => state.call (some config)
  | .stop => state.call none
  | .proceed prepared => state.proceed prepared
  | .connect connected =>
    match state.session with
    | .connecting config =>
      if connected then
        { state with session := .running { config, currentListenPort := config.node.listenPort } }
      else state.endSession .connectFailed
    | _ => state
  | .stopChanged =>
    match state.session with
    | .running session =>
      if state.stopRequested then
        (state.stopTunnelOrVpn session.currentTunnel).endSession .stopRequested
      else state
    | _ => state
  | .received sender payload detected now outcome =>
    match state.session with
    | .running session => state.receive env sender payload detected now outcome session
    | _ => state
  | .closed =>
    match state.session with
    | .running _ => state.endSession .signalingClosed
    | _ => state
  | .statusTick now =>
    match state.session with
    | .running session => state.statusTick now session
    | _ => state
  | .tunnel task event =>
    { state with tunnels := state.tunnels.modify task fun task => task.step env.boringtun event }

end AndroidState

end NostrVpn.Gui
