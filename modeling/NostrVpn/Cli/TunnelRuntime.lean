import NostrVpn.Cli.UapiBodies
import NostrVpn.Linux.IpTables

/-!
# The tunnel runtime

`nostr-vpn-cli/src/main.rs` and `platform_routing.rs`: `CliTunnelRuntime::apply` and `stop` on Linux,
with the WireGuard device and the kernel tables they drive. What the operating system and the
device answer in a call is in its environment. The exit-node forwarding rules and the flush of the
route cache change neither the device nor the tables and are left out.
-/
namespace NostrVpn.Cli

open Rust Rust.Net NostrVpn.Core WireGuard Linux

/-! ## Peer status -/

structure WireGuardPeerStatus where
  endpoint : Option String := none
  lastHandshakeSec : Option Nat := none
  lastHandshakeNsec : Option Nat := none
  txBytes : Nat := 0
  rxBytes : Nat := 0
  deriving DecidableEq, Repr

namespace WireGuardPeerStatus

def hasHandshake (status : WireGuardPeerStatus) : Bool :=
  0 < status.lastHandshakeSec.getD 0 || 0 < status.lastHandshakeNsec.getD 0

def absoluteHandshakeTimestampFloor : Nat := 946684800

def lastHandshakeAt (status : WireGuardPeerStatus) (now : Nat) : Option Nat :=
  if !status.hasHandshake then none
  else (status.lastHandshakeSec.filter (0 < ·)).map fun raw =>
    if raw < absoluteHandshakeTimestampFloor then now - raw else raw

end WireGuardPeerStatus

def runtimeEndpointIsViableForPeer (runtimeEndpoint : String) (a : PeerAnnouncement)
    (ownLocalEndpoints : List String) : Bool :=
  let shared := ownLocalEndpoints.any fun own =>
    endpointsShareLocalOnlyIpv4Subnet runtimeEndpoint own
  if !endpointIsLocalOnly runtimeEndpoint then true
  else if a.relayEndpoint = some runtimeEndpoint then true
  else if a.publicEndpoint = some runtimeEndpoint then true
  else if a.endpoint = runtimeEndpoint then shared
  else a.localEndpoint == some runtimeEndpoint && shared

def SocketAddr.port : SocketAddr → UInt16
  | .v4 _ port => port
  | .v6 _ port _ => port

def runtimeEndpointIsSameSubnetTranslationForPeer (runtimeEndpoint : String) (a : PeerAnnouncement)
    (ownLocalEndpoints : List String) : Bool :=
  if !endpointIsLocalOnly runtimeEndpoint then false
  else if !ownLocalEndpoints.any (endpointsShareLocalOnlyIpv4Subnet runtimeEndpoint) then false
  else match SocketAddr.parse runtimeEndpoint with
    | none => false
    | some runtimeAddr =>
      let announced := (a.publicEndpoint.bind SocketAddr.parse).or
        (if endpointIsLocalOnly a.endpoint then none else SocketAddr.parse a.endpoint)
      announced.any fun publicAddr => SocketAddr.port runtimeAddr == SocketAddr.port publicAddr

def runtimeEndpointRequiresRefresh (runtimeEndpoint plannedEndpoint : String)
    (a : PeerAnnouncement) (ownLocalEndpoints : List String) : Bool :=
  runtimeEndpoint != plannedEndpoint &&
    !runtimeEndpointIsSameSubnetTranslationForPeer runtimeEndpoint a ownLocalEndpoints &&
    !runtimeEndpointIsViableForPeer runtimeEndpoint a ownLocalEndpoints

abbrev PeerStatuses := HashMap String WireGuardPeerStatus

def runtimePeerEndpointsRequireRefresh (plan : List PlannedTunnelPeer)
    (announcements : Announcements) (runtimePeers : Option PeerStatuses)
    (ownLocalEndpoints : List String) : Bool :=
  match runtimePeers with
  | none => false
  | some runtimePeers => plan.any fun planned =>
    match announcements.lookup planned.participant, runtimePeers.lookup planned.peer.pubkeyHex with
    | some a, some runtime => runtime.endpoint.any fun runtimeEndpoint =>
      (!runtime.hasHandshake && !endpointIsLocalOnly runtimeEndpoint &&
        runtimeEndpoint != planned.endpoint) ||
      runtimeEndpointRequiresRefresh runtimeEndpoint planned.endpoint a ownLocalEndpoints
    | _, _ => false

/-- The entries of different participants do not touch each other, so the order does not matter. -/
def recordSuccessfulRuntimePaths (codec : KeyCodec) (announcements : Announcements)
    (runtimePeers : Option PeerStatuses) (book : PeerPathBook) (ownLocalEndpoints : List String)
    (now : Nat) : PeerPathBook :=
  match runtimePeers with
  | none => book
  | some runtimePeers => announcements.toList.foldl (fun book (participant, a) =>
    match (keyB64ToHex codec a.publicKey).toOption.bind fun hex => runtimePeers.lookup hex with
    | none => book
    | some runtimePeer =>
      if !runtimePeer.hasHandshake then book
      else match runtimePeer.endpoint with
        | none => book
        | some endpoint =>
          if !runtimeEndpointIsViableForPeer endpoint a ownLocalEndpoints then book
          else book.noteSuccess participant endpoint ((runtimePeer.lastHandshakeAt now).getD now))
    book

/-! ## What a plan asks of the device and the kernel -/

def localInterfaceAddressForTunnel (tunnelIp : String) : String :=
  let tunnelIp := trim tunnelIp
  if tunnelIp = "" then ""
  else if '/' ∈ tunnelIp.toList then tunnelIp
  else stripCidr tunnelIp ++ "/32"

def routeTargetsForTunnelPeers (peers : List TunnelPeer) : List String :=
  sortDedup (peers.flatMap TunnelPeer.allowedIps)

def peerEntry (peer : TunnelPeer) : String :=
  let allowedIps := join "," peer.allowedIps
  s!"{peer.pubkeyHex}|{peer.endpoint}|{allowedIps}"

def tunnelFingerprint (iface privateKey : String) (listenPort : UInt16) (localAddress : String)
    (peers : List TunnelPeer) : String :=
  let peerEntries := join ";" (sort (peers.map peerEntry))
  s!"{iface}|{privateKey}|{fmtNat listenPort.toNat}|{localAddress}|{peerEntries}"

def tunnelRuntimeFingerprint (base : String) (routeTargets : List String) : String :=
  let routeEntries := join "," (sort routeTargets)
  s!"{base}|routes={routeEntries}"

def routeIsHostRoute (route : String) : Bool :=
  match splitOnce '/' route with
  | none => true
  | some (host, bits) =>
    match parseUnsigned 255 bits, IpAddr.parse host with
    | some bits, some (.v4 _) => bits == 32
    | some bits, some (.v6 _) => bits == 128
    | _, _ => false

def routeTargetsRequireEndpointBypass (routeTargets : List String) : Bool :=
  routeTargets.any fun route => !routeIsHostRoute route

/-! ## The state and the environment of a call -/

/-- The device handle and the socket path are set and cleared together; the handle stands for the
device it drives. -/
structure CliTunnelRuntime where
  iface : String
  handle : Option Device := none
  lastFingerprint : Option String := none
  activeListenPort : Option UInt16 := none
  endpointBypassRoutes : List String := []
  originalDefaultRoute : Option Route := none

structure TunnelSystem where
  runtime : CliTunnelRuntime
  kernel : Kernel

inductive WgOutcome where
  | answered
  | failed (lines : Nat) (error : String)

/-- What a call meets: what its machine and its network answer, which `wg_set` calls fail and after
how many lines, and which `ip` commands fail. -/
structure ApplyEnv where
  codec : KeyCodec
  localSignalEndpoints : AppConfig → UInt16 → List String
  peerStatus : Option PeerStatuses
  createDevice : String → Option String
  socketAppears : Bool
  availablePorts : List UInt16
  wg : Nat → WgOutcome
  controlPlaneHosts : AppConfig → List Ipv4Addr
  routeGet : Ipv4Addr → Except String (Option Route)
  ipFails : IpCommand → Bool

structure ApplyCall where
  app : AppConfig
  ownPubkey : Option String
  announcements : Announcements
  book : PeerPathBook
  now : Nat

def ApplyEnv.ip (env : ApplyEnv) (kernel : Kernel) (command : IpCommand) : Bool × Kernel :=
  if env.ipFails command then (false, kernel) else (true, kernel.run command)

/-! ## The device socket -/

structure UapiSession where
  device : Device
  sent : Nat := 0

def wgSet (env : ApplyEnv) (session : UapiSession) (body : String) :
    Except String Unit × UapiSession :=
  match env.wg session.sent with
  | .failed lines error =>
    (.error error, ⟨session.device.afterLines (wgSetText body) lines, session.sent + 1⟩)
  | .answered =>
    match session.device.set (wgSetText body) with
    | .ok device => (.ok (), ⟨device, session.sent + 1⟩)
    | .error device => (.error "uapi set failed", ⟨device, session.sent + 1⟩)

def sendAll (env : ApplyEnv) : UapiSession → List String → Except String Unit × UapiSession
  | session, [] => (.ok (), session)
  | session, body :: bodies =>
    match wgSet env session body with
    | (.ok (), session) => sendAll env session bodies
    | failed => failed

/-! ## The listen port -/

def primaryListenPortRetryAttempts : Nat := 40

def isUapiAddrInUseError (message : String) : Bool :=
  let lower := toAsciiLowercase message
  contains "errno=48" lower || contains "errno=98" lower || contains "address in use" lower

def canReuseActiveListenPort (handleRunning configApplied : Bool)
    (activeListenPort : Option UInt16) (requestedListenPort : UInt16) : Bool :=
  handleRunning && configApplied && activeListenPort == some requestedListenPort

namespace CliTunnelRuntime

variable (env : ApplyEnv) (runtime : CliTunnelRuntime) (privateKeyHex : String)

def listenPort (configured : UInt16) : UInt16 := runtime.activeListenPort.getD configured

def isRunning : Bool := runtime.handle.isSome

/-- A port that is in use is `none`. -/
def tryListenPort (port : UInt16) (session : UapiSession) :
    Except String (Option UInt16) × UapiSession :=
  if canReuseActiveListenPort runtime.isRunning runtime.lastFingerprint.isSome
      runtime.activeListenPort port then
    (.ok (some port), session)
  else
    match wgSet env session s!"private_key={privateKeyHex}\nlisten_port={fmtNat port.toNat}" with
    | (.ok (), session) => (.ok (some port), session)
    | (.error error, session) =>
      if isUapiAddrInUseError error then (.ok none, session) else (.error error, session)

def tryPrimaryPort (port : UInt16) : Nat → UapiSession → Except String (Option UInt16) × UapiSession
  | 0, session => (.ok none, session)
  | attempts + 1, session =>
    match tryListenPort env runtime privateKeyHex port session with
    | (.ok none, session) => tryPrimaryPort port attempts session
    | tried => tried

def tryFallbackPorts (primary : UInt16) :
    List UInt16 → List UInt16 → UapiSession → Except String (Option UInt16) × UapiSession
  | _, [], session => (.ok none, session)
  | attempted, port :: ports, session =>
    if port ∈ attempted ∨ port = primary then
      tryFallbackPorts primary (port :: attempted) ports session
    else
      match tryListenPort env runtime privateKeyHex port session with
      | (.ok none, session) => tryFallbackPorts primary (port :: attempted) ports session
      | tried => tried

/-- Forty attempts at the primary port, then sixteen ports the system offers. When all are in use
the last conflict is the cause of the error. -/
def selectListenPort (configured : UInt16) (session : UapiSession) :
    Except String UInt16 × UapiSession :=
  let primary := runtime.listenPort configured
  let (tried, session) :=
    match tryPrimaryPort env runtime privateKeyHex primary primaryListenPortRetryAttempts session with
    | (.ok none, session) =>
      tryFallbackPorts env runtime privateKeyHex primary [] (env.availablePorts.take 16) session
    | tried => tried
  match tried with
  | .error error => (.error error, session)
  | .ok none => (.error "failed to allocate available wireguard listen port", session)
  | .ok (some port) => (.ok port, session)

end CliTunnelRuntime

/-! ## The interface -/

def isResourceBusyMessage (message : String) : Bool :=
  let lower := toAsciiLowercase message
  contains "resource busy" lower || contains "address already in use" lower

def utunInterfaceCandidates (preferred : String) : List String :=
  match stripPrefix "utun" preferred with
  | none => [preferred]
  | some suffix =>
    if suffix = "" ∨ !suffix.toList.all Char.isDigit then [preferred]
    else match parseUnsigned 0xffff suffix with
      | none => [preferred]
      | some base => (List.range 16).map fun offset => s!"utun{fmtNat (min (base + offset) 0xffff)}"

namespace TunnelSystem

def setRuntime (sys : TunnelSystem) (f : CliTunnelRuntime → CliTunnelRuntime) : TunnelSystem :=
  { sys with runtime := f sys.runtime }

def setDevice (sys : TunnelSystem) (device : Device) : TunnelSystem :=
  sys.setRuntime fun runtime => { runtime with handle := some device }

/-- A new device has no peers, and its interface neither routes nor addresses. -/
def start (sys : TunnelSystem) (iface : String) : TunnelSystem where
  runtime := { sys.runtime with iface, handle := some { peers := ∅ } }
  kernel := sys.kernel.dropInterface iface

def startOn (env : ApplyEnv) (sys : TunnelSystem) :
    List String → List String → Except String Device × TunnelSystem
  | [], [] => (.error s!"failed to create boringtun interface {sys.runtime.iface}", sys)
  | busy, [] =>
    let busy := join ", " busy
    (.error s!"failed to create boringtun interface {sys.runtime.iface}; busy interfaces: {busy}", sys)
  | busy, candidate :: candidates =>
    match env.createDevice candidate with
    | some error =>
      if isResourceBusyMessage error then startOn env sys (busy ++ [candidate]) candidates
      else (.error s!"failed to create boringtun interface {candidate}: {error}", sys)
    | none =>
      if env.socketAppears then (.ok { peers := ∅ }, sys.start candidate)
      else (.error s!"timed out waiting for uapi socket at /var/run/wireguard/{candidate}.sock", sys)

def ensureStarted (env : ApplyEnv) (sys : TunnelSystem) : Except String Device × TunnelSystem :=
  match sys.runtime.handle with
  | some device => (.ok device, sys)
  | none => startOn env sys [] (utunInterfaceCandidates sys.runtime.iface)

/-! ## Routes -/

def captureLinuxOriginalDefaultRoute (env : ApplyEnv) (sys : TunnelSystem) : TunnelSystem :=
  if sys.runtime.originalDefaultRoute.isSome || env.ipFails .routeShowDefault then sys
  else match sys.kernel.routes.lookup defaultTarget with
    | none => sys
    | some route =>
      if route.dev = sys.runtime.iface then sys
      else sys.setRuntime fun runtime => { runtime with originalDefaultRoute := some route }

def restoreLinuxOriginalDefaultRoute (env : ApplyEnv) (sys : TunnelSystem) : TunnelSystem :=
  match sys.runtime.originalDefaultRoute with
  | none => sys
  | some route =>
    match env.ip sys.kernel (.routeReplace defaultTarget route) with
    | (false, _) => sys
    | (true, kernel) => ⟨{ sys.runtime with originalDefaultRoute := none }, kernel⟩

def reconcileLinuxEndpointBypassRoutes (env : ApplyEnv) (sys : TunnelSystem)
    (routes : List (String × Route)) : TunnelSystem :=
  let desired := routes.map Prod.fst
  let stale := sys.runtime.endpointBypassRoutes.filter fun route => route ∉ desired
  let kernel := stale.foldl (fun kernel route => (env.ip kernel (.routeDel route)).2) sys.kernel
  let kernel := routes.foldl (fun kernel (target, route) =>
    (env.ip kernel (.routeReplace target route)).2) kernel
  ⟨{ sys.runtime with endpointBypassRoutes := sortDedup desired }, kernel⟩

end TunnelSystem

def linuxBypassRouteSpecs (env : ApplyEnv) (app : AppConfig) (peers : List TunnelPeer)
    (tunnelIface : String) (originalDefaultRoute : Option Route) :
    Except String (List (String × Route)) :=
  let endpoints := peers.filterMap fun peer =>
    match endpointHostIp peer.endpoint with
    | some (.v4 ip) => some ip
    | _ => none
  let hosts := (sortByKey (fun ip : Ipv4Addr => ip.bits.toNat)
    (endpoints ++ env.controlPlaneHosts app)).dedup
  hosts.mapM fun host => do
    let found ← env.routeGet host
    let outside (route : Option Route) := route.filter fun route => route.dev ≠ tunnelIface
    match (outside found).or (outside originalDefaultRoute) with
    | some route => return ((IpAddr.v4 host).fmt ++ "/32", route)
    | none => throw s!"failed to resolve bypass route for {(IpAddr.v4 host).fmt}"

def linuxIpv4RouteSource (address : String) : Option String :=
  (Ipv4Addr.parse (stripCidr address)).map fun ip => (IpAddr.v4 ip).fmt

def linuxRouteTargetIsIpv4 (target : String) : Bool := (Ipv4Addr.parse (stripCidr target)).isSome

def applyRoutes (env : ApplyEnv) (iface : String) (source : Option String) :
    List String → Kernel → Except String Unit × Kernel
  | [], kernel => (.ok (), kernel)
  | target :: targets, kernel =>
    let kernel := if target = defaultTarget ∨ target = "::/0" then
      (env.ip kernel (.routeDel target)).2 else kernel
    let src := if linuxRouteTargetIsIpv4 target then source else none
    match env.ip kernel (.routeReplace target { dev := iface, src }) with
    | (false, kernel) => (.error s!"command failed: ip route replace {target} dev {iface}", kernel)
    | (true, kernel) => applyRoutes env iface source targets kernel

def applyLocalInterfaceNetwork (env : ApplyEnv) (iface address : String)
    (routeTargets : List String) (kernel : Kernel) : Except String Unit × Kernel :=
  match env.ip kernel (.addressReplace address iface) with
  | (false, kernel) => (.error s!"command failed: ip address replace {address} dev {iface}", kernel)
  | (true, kernel) =>
    match env.ip kernel (.linkUp iface) with
    | (false, kernel) => (.error s!"command failed: ip link set mtu 1380 up dev {iface}", kernel)
    | (true, kernel) => applyRoutes env iface (linuxIpv4RouteSource address) routeTargets kernel

/-! ## Apply and stop -/

/-- Where `apply` returns: an error before `replace_peers=true` is sent or from there on, or `Ok` for an
empty plan, at the fingerprint check or at the end. -/
inductive ApplyReturn where
  | failed (error : String)
  | interrupted (error : String)
  | stopped
  | unchanged
  | applied
  deriving DecidableEq, Repr

def ApplyReturn.result : ApplyReturn → Except String Unit
  | .failed error | .interrupted error => .error error
  | .stopped | .unchanged | .applied => .ok ()

structure ApplyOutcome where
  returned : ApplyReturn
  book : PeerPathBook
  system : TunnelSystem

namespace TunnelSystem

def stop (env : ApplyEnv) (sys : TunnelSystem) : TunnelSystem :=
  let sys := (sys.reconcileLinuxEndpointBypassRoutes env []).restoreLinuxOriginalDefaultRoute env
  let kernel := if sys.runtime.isRunning then sys.kernel.dropInterface sys.runtime.iface
    else sys.kernel
  ⟨{ sys.runtime with handle := none, lastFingerprint := none, activeListenPort := none }, kernel⟩

end TunnelSystem

namespace ApplyCall

variable (call : ApplyCall) (env : ApplyEnv) (runtime : CliTunnelRuntime)

def ownLocalEndpoints : List String :=
  env.localSignalEndpoints call.app (runtime.listenPort call.app.node.listenPort)

/-- `peer_status().ok()`. -/
def runtimePeers : Option PeerStatuses := if runtime.isRunning then env.peerStatus else none

def context : PlanContext where
  codec := env.codec
  app := call.app
  ownPubkey := call.ownPubkey
  announcements := call.announcements
  ownLocalEndpoints := call.ownLocalEndpoints env runtime
  now := call.now

def recordedBook : PeerPathBook :=
  recordSuccessfulRuntimePaths env.codec call.announcements (runtimePeers env runtime) call.book
    (call.ownLocalEndpoints env runtime) call.now

def plan : Except String (List PlannedTunnelPeer) × PeerPathBook :=
  plannedTunnelPeersForLocalEndpoints (call.context env runtime) (call.recordedBook env runtime)

def localAddress : String := localInterfaceAddressForTunnel call.app.node.tunnelIp

def fingerprint (peers : List TunnelPeer) : String :=
  tunnelRuntimeFingerprint (tunnelFingerprint runtime.iface call.app.node.privateKey
    (runtime.listenPort call.app.node.listenPort) call.localAddress peers)
    (routeTargetsForTunnelPeers peers)

/-- What `apply` does once the port is selected: device, routes, fingerprint. -/
def configure (peers : List TunnelPeer) (specs : List (String × Route)) (session : UapiSession)
    (sys : TunnelSystem) : ApplyReturn × TunnelSystem :=
  match sendAll env session (uapiBodies peers) with
  | (.error error, session) => (.interrupted error, sys.setDevice session.device)
  | (.ok (), session) =>
    let sys := (sys.setDevice session.device).reconcileLinuxEndpointBypassRoutes env specs
    match applyLocalInterfaceNetwork env sys.runtime.iface call.localAddress
        (routeTargetsForTunnelPeers peers) sys.kernel with
    | (.error error, kernel) => (.interrupted error, ⟨sys.runtime, kernel⟩)
    | (.ok (), kernel) => (.applied,
        ⟨{ sys.runtime with lastFingerprint := some (call.fingerprint sys.runtime peers) }, kernel⟩)

/-- What `apply` does behind the fingerprint check. -/
def reconfigure (peers : List TunnelPeer) (specs : List (String × Route)) (sys : TunnelSystem) :
    ApplyReturn × TunnelSystem :=
  match sys.ensureStarted env with
  | (.error error, sys) => (.failed error, sys)
  | (.ok device, sys) =>
    match keyB64ToHex env.codec call.app.node.privateKey with
    | .error error => (.failed error, sys)
    | .ok privateKeyHex =>
      match sys.runtime.selectListenPort env privateKeyHex call.app.node.listenPort ⟨device, 0⟩ with
      | (.error error, session) => (.failed error, sys.setDevice session.device)
      | (.ok port, session) =>
        call.configure env peers specs session
          (sys.setRuntime fun runtime => { runtime with activeListenPort := some port })

/-- The default route is remembered while the plan has one of its own, and put back otherwise. -/
def keepDefaultRoute (peers : List TunnelPeer) (sys : TunnelSystem) : TunnelSystem :=
  if defaultTarget ∈ routeTargetsForTunnelPeers peers then sys.captureLinuxOriginalDefaultRoute env
  else sys.restoreLinuxOriginalDefaultRoute env

def bypassSpecs (peers : List TunnelPeer) (sys : TunnelSystem) :
    Except String (List (String × Route)) :=
  if routeTargetsRequireEndpointBypass (routeTargetsForTunnelPeers peers) then
    linuxBypassRouteSpecs env call.app peers sys.runtime.iface sys.runtime.originalDefaultRoute
  else .ok []

/-- `apply` for a plan that is not empty. -/
def update (plan : List PlannedTunnelPeer) (sys : TunnelSystem) : ApplyReturn × TunnelSystem :=
  let peers := plan.map PlannedTunnelPeer.peer
  let needsEndpointRefresh := runtimePeerEndpointsRequireRefresh plan call.announcements
    (runtimePeers env sys.runtime) (call.ownLocalEndpoints env sys.runtime)
  let fingerprint := call.fingerprint sys.runtime peers
  let sys := keepDefaultRoute env peers sys
  match call.bypassSpecs env peers sys with
  | .error error => (.failed error, sys)
  | .ok specs =>
    if sys.runtime.lastFingerprint = some fingerprint ∧ sys.runtime.isRunning ∧
        ¬needsEndpointRefresh then
      (.unchanged, sys)
    else call.reconfigure env peers specs sys

def apply (sys : TunnelSystem) : ApplyOutcome :=
  match call.plan env sys.runtime with
  | (.error error, book) => ⟨.failed error, book, sys⟩
  | (.ok [], book) => ⟨.stopped, book, sys.stop env⟩
  | (.ok plan, book) =>
    let (returned, sys) := call.update env plan sys
    let book := if returned = .applied then
      plan.foldl (fun book planned => book.noteSelected planned.participant planned.endpoint call.now)
        book
    else book
    ⟨returned, book, sys⟩

end ApplyCall

/-! ## A sample machine -/

/-- A machine on which every request and command succeeds. -/
def sampleEnv : ApplyEnv where
  codec := sampleCodec
  localSignalEndpoints _ _ := []
  peerStatus := none
  createDevice _ := none
  socketAppears := true
  availablePorts := []
  wg _ := .answered
  controlPlaneHosts _ := []
  routeGet _ := .ok none
  ipFails _ := false

end NostrVpn.Cli
