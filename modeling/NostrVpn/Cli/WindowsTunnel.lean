import NostrVpn.Cli.EndpointAuthenticity
import NostrVpn.Cli.TunnelRuntime
import NostrVpn.Rust.TryEach

/-!
# Starting the Windows tunnel

`nostr-vpn-cli/src/windows_tunnel.rs`: `WindowsTunnelBackend::start` with the two groups of routes it
installs, and `apply_windows_runtime` of `main.rs`, which starts again on a busy port. What Windows, the
adapter and the sockets answer in one attempt is in the attempt's environment. A start that fails is atomic
when the routing tables hold nothing that it put there.
-/
namespace NostrVpn.Cli

open Rust Rust.Net

-- Terms with texts are compared without reading the texts.
attribute [local irreducible] String.toList

/-! ## Addresses and prefixes -/

structure WindowsInterfaceAddress where
  address : Ipv4Addr
  mask : Ipv4Addr
  deriving DecidableEq

def ipv4Netmask (prefixLen : Nat) : Ipv4Addr := ⟨prefixMask prefixLen⟩

def windowsInterfaceAddress (address : String) : Except String WindowsInterfaceAddress :=
  match splitOnce '/' (trim address) with
  | none => .error "windows interface address must be IPv4 CIDR"
  | some (ip, prefixLen) => match Ipv4Addr.parse ip with
    | none => .error s!"invalid IPv4 interface address {ip}"
    | some address => match parseUnsigned 255 prefixLen with
      | none => .error s!"invalid IPv4 prefix length {prefixLen}"
      | some len =>
        if 32 < len then .error s!"invalid IPv4 prefix length {fmtNat len}"
        else .ok ⟨address, ipv4Netmask len⟩

def validateWindowsRoutePrefix (target : String) : Except String Unit :=
  match splitOnce '/' (trim target) with
  | none => .error "windows route prefix must be IPv4 CIDR"
  | some (ip, prefixLen) => match Ipv4Addr.parse ip with
    | none => .error s!"invalid windows route IPv4 prefix {ip}"
    | some _ => match parseUnsigned 255 prefixLen with
      | none => .error s!"invalid windows route prefix length {prefixLen}"
      | some len =>
        if 32 < len then .error s!"invalid windows route prefix length {fmtNat len}" else .ok ()

/-- What a `netsh` route command names: the prefix as it stands and the interface. -/
structure WindowsTunnelRoute where
  target : String
  interfaceIndex : UInt32
  deriving DecidableEq

/-- The route of `windows_add_route_args` and of `windows_delete_route_args`. -/
def windowsRouteArgs (target : String) (interfaceIndex : UInt32) : Except String WindowsTunnelRoute :=
  match validateWindowsRoutePrefix target with
  | .error error => .error error
  | .ok () => .ok ⟨trim target, interfaceIndex⟩

/-! ## The routing tables -/

structure WindowsEndpointBypassRoute where
  target : Ipv4Addr
  gateway : Ipv4Addr
  interfaceIndex : UInt32
  deriving DecidableEq

/-- The host routes, and the routes on interfaces. -/
structure WindowsRoutes where
  host : List WindowsEndpointBypassRoute := []
  tunnel : List WindowsTunnelRoute := []
  deriving DecidableEq

namespace WindowsRoutes

def addHost (routes : WindowsRoutes) (route : WindowsEndpointBypassRoute) : WindowsRoutes :=
  { routes with host := pushUnique routes.host route }

/-- `route change` finds the routes to replace by their target. -/
def changeHost (routes : WindowsRoutes) (route : WindowsEndpointBypassRoute) : WindowsRoutes :=
  { routes with host := routes.host.map fun row => if row.target = route.target then route else row }

def deleteHost (routes : WindowsRoutes) (target : Ipv4Addr) : WindowsRoutes :=
  { routes with host := routes.host.filter fun row => row.target ≠ target }

def addTunnel (routes : WindowsRoutes) (route : WindowsTunnelRoute) : WindowsRoutes :=
  { routes with tunnel := pushUnique routes.tunnel route }

def deleteTunnel (routes : WindowsRoutes) (route : WindowsTunnelRoute) : WindowsRoutes :=
  { routes with tunnel := routes.tunnel.filter fun row => row ≠ route }

/-- The routes on an interface go with it. -/
def dropInterface (routes : WindowsRoutes) (interfaceIndex : UInt32) : WindowsRoutes :=
  { routes with tunnel := routes.tunnel.filter fun row => row.interfaceIndex ≠ interfaceIndex }

/-- No route that the other tables lack. -/
def Within (routes other : WindowsRoutes) : Prop :=
  routes.host ⊆ other.host ∧ routes.tunnel ⊆ other.tunnel

instance (routes other : WindowsRoutes) : Decidable (routes.Within other) :=
  inferInstanceAs (Decidable (_ ∧ _))

theorem Within.refl (routes : WindowsRoutes) : routes.Within routes :=
  ⟨List.Subset.refl _, List.Subset.refl _⟩

theorem Within.trans {a b c : WindowsRoutes} (h : a.Within b) (h' : b.Within c) : a.Within c :=
  ⟨List.Subset.trans h.1 h'.1, List.Subset.trans h.2 h'.2⟩

theorem within_dropInterface (routes : WindowsRoutes) (interfaceIndex : UInt32) :
    (routes.dropInterface interfaceIndex).Within routes :=
  ⟨List.Subset.refl _, List.filter_subset_self _⟩

end WindowsRoutes

/-! ## One attempt's environment -/

structure NetworkInterface where
  name : String
  index : UInt32
  default : Bool
  isUp : Bool
  isLoopback : Bool
  isTun : Bool
  gateway : Option (List Ipv4Addr)

/-- What the system answers while one `start` runs. The targets of the host routes differ, so an answer to
`route` is one for each target; a prefix may occur twice, so an answer to `netsh` is one for each position.
`adapterGone`: closing the adapter after a failure takes the interface away. -/
structure WindowsEnv (ω σ : Type) where
  tunn : Tunn ω σ
  random : ω
  codec : KeyCodec
  encodeBase64 : List UInt8 → String
  loadWintun : Except String Unit
  openAdapter : Except String Unit
  createAdapter : Except String Unit
  setMtu : Except String Unit
  setNetworkAddresses : WindowsInterfaceAddress → Except String Unit
  interfaceIndex : UInt32
  getAdapterIndex : Except String Unit
  interfaces : List NetworkInterface
  routeAdd : Ipv4Addr → Except String Unit
  routeChange : Ipv4Addr → Except String Unit
  routeDelete : Ipv4Addr → Except String Unit
  netshAdd : Nat → Except String Unit
  netshDelete : WindowsTunnelRoute → Except String Unit
  startSession : Except String Unit
  bind : UInt16 → Except String Unit
  setReadTimeout : Except String Unit
  cloneSendSocket : Except String Unit
  sendTo : Nat → Except String Unit
  cloneReaderSocket : Except String Unit
  cloneTunnelSocket : Except String Unit
  adapterGone : Bool

variable {ω σ : Type}

/-- `with_context`: the error of the outermost context is the one that is shown. -/
def withContext {α : Type} (context : String) (result : Except String α) : Except String α :=
  result.mapError fun _ => context

@[simp] theorem isOk_withContext {α : Type} (context : String) (result : Except String α) :
    (withContext context result).isOk = result.isOk := by
  cases result <;> rfl

/-! ## Bypass routes -/

def windowsDefaultUnderlayInterfaceFromInterfaces (interfaces : List NetworkInterface) :
    Except String (UInt32 × Ipv4Addr) :=
  match interfaces.find? fun i => i.default && i.isUp && !i.isLoopback && !i.isTun with
  | none => .error "failed to resolve Windows underlay interface"
  | some interface => match interface.gateway.bind List.head? with
    | none => .error s!"failed to resolve Windows underlay gateway for {interface.name}"
    | some gateway => .ok (interface.index, gateway)

/-- The IPv4 endpoints, sorted and each once. -/
def windowsBypassTargets (peers : List TunnelPeer) : List Ipv4Addr :=
  let targets := peers.filterMap fun peer => match SocketAddr.parse peer.endpoint with
    | some endpoint => match endpoint.ip with
      | .v4 ip => some ip
      | .v6 _ => none
    | none => none
  (sortByKey (fun ip : Ipv4Addr => ip.bits.toNat) targets).dedup

def windowsEndpointBypassRoutesFromInterfaces (peers : List TunnelPeer)
    (interfaces : List NetworkInterface) : Except String (List WindowsEndpointBypassRoute) :=
  match windowsDefaultUnderlayInterfaceFromInterfaces interfaces with
  | .error error => .error error
  | .ok (interfaceIndex, gateway) =>
    .ok ((windowsBypassTargets peers).map fun target => ⟨target, gateway, interfaceIndex⟩)

theorem nodup_bypass_targets {peers : List TunnelPeer} {interfaces : List NetworkInterface}
    {bypass : List WindowsEndpointBypassRoute}
    (h : windowsEndpointBypassRoutesFromInterfaces peers interfaces = .ok bypass) :
    (bypass.map fun route => route.target).Nodup := by
  unfold windowsEndpointBypassRoutesFromInterfaces at h
  split at h
  · cases h
  · obtain rfl := Except.ok.inj h
    simp only [List.map_map, Function.comp_def, List.map_id']
    exact List.nodup_dedup _

namespace WindowsEnv

variable (env : WindowsEnv ω σ)

def addHostRoute (route : WindowsEndpointBypassRoute) (routes : WindowsRoutes) :
    Except String Unit × WindowsRoutes :=
  match env.routeAdd route.target with
  | .error error => (.error error, routes)
  | .ok () => (.ok (), routes.addHost route)

def changeHostRoute (route : WindowsEndpointBypassRoute) (routes : WindowsRoutes) :
    Except String Unit × WindowsRoutes :=
  match env.routeChange route.target with
  | .error error => (.error error, routes)
  | .ok () => (.ok (), routes.changeHost route)

def deleteHostRoute (route : WindowsEndpointBypassRoute) (routes : WindowsRoutes) :
    Except String Unit × WindowsRoutes :=
  match env.routeDelete route.target with
  | .error error => (.error error, routes)
  | .ok () => (.ok (), routes.deleteHost route.target)

def addTunnelRoute (position : Nat) (route : WindowsTunnelRoute) (routes : WindowsRoutes) :
    Except String Unit × WindowsRoutes :=
  match env.netshAdd position with
  | .error error => (.error error, routes)
  | .ok () => (.ok (), routes.addTunnel route)

def deleteTunnelRoute (route : WindowsTunnelRoute) (routes : WindowsRoutes) :
    Except String Unit × WindowsRoutes :=
  match env.netshDelete route with
  | .error error => (.error error, routes)
  | .ok () => (.ok (), routes.deleteTunnel route)

/-- The first of two errors. -/
def firstError (first : Option String) (result : Except String Unit) : Option String :=
  match first, result with
  | some error, _ => some error
  | none, .error error => some error
  | none, .ok () => none

def removeWindowsEndpointBypassRoutes : Option String → List WindowsEndpointBypassRoute →
    WindowsRoutes → Except String Unit × WindowsRoutes
  | first, [], routes => (first.elim (.ok ()) .error, routes)
  | first, route :: rest, routes =>
    let (deleted, routes) := env.deleteHostRoute route routes
    removeWindowsEndpointBypassRoutes (firstError first deleted) rest routes

def applyWindowsEndpointBypassRoutes : List WindowsEndpointBypassRoute →
    List WindowsEndpointBypassRoute → WindowsRoutes →
    Except String (List WindowsEndpointBypassRoute) × WindowsRoutes
  | applied, [], routes => (.ok applied, routes)
  | applied, route :: rest, routes =>
    match env.addHostRoute route routes with
    | (.ok (), routes) => applyWindowsEndpointBypassRoutes (applied ++ [route]) rest routes
    | (.error _, routes) => match env.changeHostRoute route routes with
      | (.ok (), routes) => applyWindowsEndpointBypassRoutes (applied ++ [route]) rest routes
      | (.error _, routes) =>
        (.error s!"failed to install Windows endpoint bypass route {(IpAddr.v4 route.target).fmt}",
          (env.removeWindowsEndpointBypassRoutes none applied routes).2)

/-! ## Tunnel routes -/

/-- A prefix that is no IPv4 CIDR ends the removal. -/
def removeWindowsRoutes (interfaceIndex : UInt32) : Option String → List String → WindowsRoutes →
    Except String Unit × WindowsRoutes
  | first, [], routes => (first.elim (.ok ()) .error, routes)
  | first, target :: rest, routes => match windowsRouteArgs target interfaceIndex with
    | .error error => (.error error, routes)
    | .ok route =>
      let (deleted, routes) := env.deleteTunnelRoute route routes
      removeWindowsRoutes interfaceIndex (firstError first deleted) rest routes

/-- A prefix that is no IPv4 CIDR ends the loop with the routes before it in place. -/
def applyWindowsRoutes (interfaceIndex : UInt32) : Nat → List String → List String → WindowsRoutes →
    Except String (List String) × WindowsRoutes
  | _, applied, [], routes => (.ok applied, routes)
  | position, applied, target :: rest, routes => match windowsRouteArgs target interfaceIndex with
    | .error error => (.error error, routes)
    | .ok route => match env.addTunnelRoute position route routes with
      | (.error error, routes) =>
        (.error error, (env.removeWindowsRoutes interfaceIndex none applied routes).2)
      | (.ok (), routes) =>
        applyWindowsRoutes interfaceIndex (position + 1) (applied ++ [target]) rest routes

/-! ## Starting -/

def openWintun (iface : String) : Except String Unit := do
  env.loadWintun
  withContext s!"failed to open or create wintun adapter {iface}" <|
    match env.openAdapter with
    | .ok () => .ok ()
    | .error _ => env.createAdapter

/-- The steps between the adapter and the first route. -/
def configure (iface localAddress : String) (peers : List TunnelPeer) :
    Except String (List WindowsEndpointBypassRoute) := do
  withContext s!"failed to set MTU on wintun adapter {iface}" env.setMtu
  let parsedAddress ← windowsInterfaceAddress localAddress
  withContext s!"failed to set address on wintun adapter {iface}"
    (env.setNetworkAddresses parsedAddress)
  withContext s!"failed to resolve interface index for {iface}" env.getAdapterIndex
  windowsEndpointBypassRoutesFromInterfaces peers env.interfaces

def userspacePeerConfigFromTunnelPeer (peer : TunnelPeer) :
    Except String UserspaceWireGuardPeerConfig :=
  match WireGuard.decodeHex peer.pubkeyHex.toList with
  | none => .error s!"invalid peer public key hex {peer.pubkeyHex}"
  | some bytes =>
    if bytes.length ≠ 32 then
      .error s!"invalid peer public key length {fmtNat bytes.length}; expected 32 bytes"
    else match SocketAddr.parse peer.endpoint with
      | none => .error s!"invalid peer endpoint {peer.endpoint}"
      | some endpoint => .ok
        { participantPubkey := peer.pubkeyHex, publicKeyBase64 := env.encodeBase64 bytes, endpoint
          allowedIps := peer.allowedIps }

def sendDatagrams (outgoing : List OutgoingDatagram) : Except String Unit :=
  (tryEach (fun (datagram, position) => withContext
    s!"failed to send WireGuard datagram to {datagram.endpoint.fmt}"
    (env.sendTo position)) outgoing.zipIdx).2

/-- The steps after the last route. -/
def startRuntime (iface privateKeyBase64 : String) (listenPort : UInt16) (peers : List TunnelPeer) :
    Except String (UserspaceWireGuardRuntime σ) := do
  withContext s!"failed to start wintun session for {iface}" env.startSession
  withContext s!"failed to bind Windows WireGuard socket on {fmtNat listenPort.toNat}"
    (env.bind listenPort)
  withContext "failed to configure Windows WireGuard socket timeout" env.setReadTimeout
  let configs ← peers.mapM env.userspacePeerConfigFromTunnelPeer
  let runtime ← UserspaceWireGuardRuntime.new env.tunn env.codec privateKeyBase64 configs
  withContext "failed to clone Windows WireGuard send socket" env.cloneSendSocket
  let (outgoing, runtime) := runtime.initiateHandshakes env.tunn env.random
  env.sendDatagrams outgoing
  withContext "failed to clone UDP socket for Windows reader" env.cloneReaderSocket
  withContext "failed to clone UDP socket for Windows tunnel reader" env.cloneTunnelSocket
  return runtime

/-- What a failure after the adapter is open leaves of the tables. -/
def abandon (routes : WindowsRoutes) : WindowsRoutes :=
  if env.adapterGone then routes.dropInterface env.interfaceIndex else routes

end WindowsEnv

structure WindowsTunnelBackend (σ : Type) where
  runtime : UserspaceWireGuardRuntime σ
  interfaceIndex : UInt32
  endpointBypassRoutes : List WindowsEndpointBypassRoute
  routeTargets : List String

/-- The arguments of `start` but the port. -/
structure WindowsStart where
  iface : String
  privateKeyBase64 : String
  localAddress : String
  peers : List TunnelPeer

def WindowsStart.routeTargets (call : WindowsStart) : List String :=
  call.peers.flatMap fun peer => peer.allowedIps

namespace WindowsTunnelBackend

def start (env : WindowsEnv ω σ) (call : WindowsStart) (listenPort : UInt16) (routes : WindowsRoutes) :
    Except String (WindowsTunnelBackend σ) × WindowsRoutes :=
  match env.openWintun call.iface with
  | .error error => (.error error, routes)
  | .ok () => match env.configure call.iface call.localAddress call.peers with
    | .error error => (.error error, env.abandon routes)
    | .ok bypass => match env.applyWindowsEndpointBypassRoutes [] bypass routes with
      | (.error error, routes) => (.error error, env.abandon routes)
      | (.ok appliedBypass, routes) =>
        match env.applyWindowsRoutes env.interfaceIndex 0 [] call.routeTargets routes with
        | (.error error, routes) => (.error error, env.abandon routes)
        | (.ok appliedRoutes, routes) =>
          match env.startRuntime call.iface call.privateKeyBase64 listenPort call.peers with
          | .error error => (.error error, env.abandon routes)
          | .ok runtime =>
            (.ok ⟨runtime, env.interfaceIndex, appliedBypass, appliedRoutes⟩, routes)

def stop (env : WindowsEnv ω σ) (backend : WindowsTunnelBackend σ) (routes : WindowsRoutes) :
    WindowsRoutes :=
  let routes := (env.removeWindowsEndpointBypassRoutes none backend.endpointBypassRoutes routes).2
  (env.removeWindowsRoutes backend.interfaceIndex none backend.routeTargets routes).2

end WindowsTunnelBackend

/-! ## What the two groups of routes leave -/

namespace WindowsEnv

structure UndoSucceeds (env : WindowsEnv ω σ) : Prop where
  routeDelete : ∀ target, env.routeDelete target = .ok ()
  netshDelete : ∀ route, env.netshDelete route = .ok ()

variable (env : WindowsEnv ω σ)

/-- The system refuses to add the route and to change one in its place. -/
def refuses (route : WindowsEndpointBypassRoute) : Bool :=
  !(env.routeAdd route.target).isOk && !(env.routeChange route.target).isOk

/-- The table holds the route once it is applied. -/
def Lands (routes : WindowsRoutes) (route : WindowsEndpointBypassRoute) : Prop :=
  (env.routeAdd route.target).isOk = true ∨ ∃ row ∈ routes.host, row.target = route.target

instance (routes : WindowsRoutes) (route : WindowsEndpointBypassRoute) :
    Decidable (env.Lands routes route) :=
  inferInstanceAs (Decidable (_ ∨ _))

/-- The table after a route that is not refused. -/
def install (route : WindowsEndpointBypassRoute) (routes : WindowsRoutes) : WindowsRoutes :=
  if (env.routeAdd route.target).isOk then routes.addHost route else routes.changeHost route

theorem applyWindowsEndpointBypassRoutes_cons (applied : List WindowsEndpointBypassRoute)
    (route : WindowsEndpointBypassRoute) (rest : List WindowsEndpointBypassRoute)
    (routes : WindowsRoutes) :
    env.applyWindowsEndpointBypassRoutes applied (route :: rest) routes =
      if env.refuses route then
        (.error s!"failed to install Windows endpoint bypass route {(IpAddr.v4 route.target).fmt}",
          (env.removeWindowsEndpointBypassRoutes none applied routes).2)
      else env.applyWindowsEndpointBypassRoutes (applied ++ [route]) rest (env.install route routes) := by
  cases added : env.routeAdd route.target with
  | ok u =>
    simp [applyWindowsEndpointBypassRoutes, addHostRoute, refuses, install, added, Except.isOk,
      Except.toBool]
  | error e =>
    cases changed : env.routeChange route.target with
    | ok u =>
      simp [applyWindowsEndpointBypassRoutes, addHostRoute, changeHostRoute, refuses, install, added,
        changed, Except.isOk, Except.toBool]
    | error e =>
      simp [applyWindowsEndpointBypassRoutes, addHostRoute, changeHostRoute, refuses, added, changed,
        Except.isOk, Except.toBool]

@[simp] theorem tunnel_install (route : WindowsEndpointBypassRoute) (routes : WindowsRoutes) :
    (env.install route routes).tunnel = routes.tunnel := by
  unfold install
  split <;> rfl

theorem mem_install {route row : WindowsEndpointBypassRoute} {routes : WindowsRoutes}
    (h : row ∈ (env.install route routes).host) :
    row ∈ routes.host ∨ row = route ∧ env.Lands routes route := by
  unfold install at h
  split at h
  · next added =>
    rcases mem_pushUnique.mp h with old | rfl
    · exact .inl old
    · exact .inr ⟨rfl, .inl added⟩
  · obtain ⟨old, mem, rfl⟩ := List.mem_map.mp h
    split
    · next same => exact .inr ⟨rfl, .inr ⟨old, mem, same⟩⟩
    · exact .inl mem

theorem mem_install_of_lands {route : WindowsEndpointBypassRoute} {routes : WindowsRoutes}
    (lands : env.Lands routes route) : route ∈ (env.install route routes).host := by
  unfold install
  split
  · exact mem_pushUnique.mpr (.inr rfl)
  · next refused =>
    obtain ⟨row, mem, same⟩ := lands.resolve_left refused
    exact List.mem_map.mpr ⟨row, mem, if_pos same⟩

theorem mem_install_of_mem {route row : WindowsEndpointBypassRoute} {routes : WindowsRoutes}
    (mem : row ∈ routes.host) (ne : row.target ≠ route.target) :
    row ∈ (env.install route routes).host := by
  unfold install
  split
  · exact mem_pushUnique.mpr (.inl mem)
  · exact List.mem_map.mpr ⟨row, mem, if_neg ne⟩

/-- The routes to other targets decide whether a route lands. -/
theorem lands_install {route other : WindowsEndpointBypassRoute} {routes : WindowsRoutes}
    (ne : other.target ≠ route.target) :
    env.Lands (env.install route routes) other ↔ env.Lands routes other := by
  refine or_congr_right ⟨fun ⟨row, mem, same⟩ => ?_, fun ⟨row, mem, same⟩ => ?_⟩
  · rcases env.mem_install mem with old | ⟨rfl, -⟩
    · exact ⟨row, old, same⟩
    · exact absurd same.symm ne
  · exact ⟨row, env.mem_install_of_mem mem (same ▸ ne), same⟩

theorem removeWindowsEndpointBypassRoutes_routes (undo : env.UndoSucceeds) (first : Option String)
    (applied : List WindowsEndpointBypassRoute) (routes : WindowsRoutes) :
    (env.removeWindowsEndpointBypassRoutes first applied routes).2 =
      { routes with host := routes.host.filter fun row => row.target ∉ applied.map (·.target) } := by
  induction applied generalizing first routes with
  | nil => simp [removeWindowsEndpointBypassRoutes]
  | cons route rest ih =>
    simp only [removeWindowsEndpointBypassRoutes, deleteHostRoute, undo.routeDelete, ih,
      WindowsRoutes.deleteHost, List.filter_filter]
    congr 2
    ext row
    by_cases same : row.target = route.target <;> simp [same]

@[simp] theorem tunnel_applyWindowsEndpointBypassRoutes (undo : env.UndoSucceeds)
    (applied bypass : List WindowsEndpointBypassRoute) (routes : WindowsRoutes) :
    (env.applyWindowsEndpointBypassRoutes applied bypass routes).2.tunnel = routes.tunnel := by
  induction bypass generalizing applied routes with
  | nil => rfl
  | cons route rest ih =>
    rw [applyWindowsEndpointBypassRoutes_cons]
    split
    · rw [removeWindowsEndpointBypassRoutes_routes env undo]
    · rw [ih, tunnel_install]

theorem isOk_applyWindowsEndpointBypassRoutes (applied bypass : List WindowsEndpointBypassRoute)
    (routes : WindowsRoutes) :
    (env.applyWindowsEndpointBypassRoutes applied bypass routes).1.isOk = true ↔
      ∀ route ∈ bypass, env.refuses route = false := by
  induction bypass generalizing applied routes with
  | nil => simp [applyWindowsEndpointBypassRoutes, Except.isOk, Except.toBool]
  | cons route rest ih =>
    rw [applyWindowsEndpointBypassRoutes_cons]
    split
    · next refused => simp [refused, Except.isOk, Except.toBool]
    · next accepted => simp [ih, accepted]

/-- When a route is refused the routes before it are taken out again. -/
theorem host_of_refused (undo : env.UndoSucceeds) {applied bypass : List WindowsEndpointBypassRoute}
    {routes : WindowsRoutes}
    (failed : (env.applyWindowsEndpointBypassRoutes applied bypass routes).1.isOk = false) :
    ∀ row ∈ (env.applyWindowsEndpointBypassRoutes applied bypass routes).2.host,
      row ∈ routes.host ∧ row.target ∉ applied.map (·.target) := by
  induction bypass generalizing applied routes with
  | nil => simp [applyWindowsEndpointBypassRoutes, Except.isOk, Except.toBool] at failed
  | cons route rest ih =>
    intro row mem
    rw [applyWindowsEndpointBypassRoutes_cons] at failed mem
    split at mem
    · rw [removeWindowsEndpointBypassRoutes_routes env undo] at mem
      simpa using mem
    · next accepted =>
      rw [if_neg accepted] at failed
      obtain ⟨installed, other⟩ := ih failed row mem
      simp only [List.map_append, List.mem_append, not_or] at other
      rcases env.mem_install installed with old | ⟨rfl, -⟩
      · exact ⟨old, other.1⟩
      · simp at other

/-- When none is refused the table holds besides what it held exactly the routes that land. -/
theorem host_of_accepted {applied bypass : List WindowsEndpointBypassRoute} {routes : WindowsRoutes}
    (distinct : (bypass.map (·.target)).Nodup) (accepted : ∀ route ∈ bypass, env.refuses route = false) :
    (∀ row ∈ (env.applyWindowsEndpointBypassRoutes applied bypass routes).2.host,
      row ∈ routes.host ∨ row ∈ bypass ∧ env.Lands routes row) ∧
    (∀ row ∈ bypass, env.Lands routes row →
      row ∈ (env.applyWindowsEndpointBypassRoutes applied bypass routes).2.host) ∧
    ∀ row ∈ routes.host, row.target ∉ bypass.map (·.target) →
      row ∈ (env.applyWindowsEndpointBypassRoutes applied bypass routes).2.host := by
  induction bypass generalizing applied routes with
  | nil => simp [applyWindowsEndpointBypassRoutes]
  | cons route rest ih =>
    obtain ⟨passes, others⟩ := List.forall_mem_cons.mp accepted
    obtain ⟨fresh, distinct⟩ := List.nodup_cons.mp distinct
    rw [applyWindowsEndpointBypassRoutes_cons, if_neg (by simp [passes])]
    obtain ⟨source, landed, kept⟩ :=
      @ih (applied ++ [route]) (env.install route routes) distinct others
    have apart : ∀ row ∈ rest, row.target ≠ route.target := fun row mem same =>
      fresh (List.mem_map.mpr ⟨row, mem, same⟩)
    refine ⟨fun row mem => ?_, fun row mem lands => ?_, fun row mem other => ?_⟩
    · rcases source row mem with installed | ⟨mem, lands⟩
      · rcases env.mem_install installed with old | ⟨rfl, lands⟩
        · exact .inl old
        · exact .inr ⟨List.mem_cons_self, lands⟩
      · exact .inr ⟨List.mem_cons_of_mem _ mem, (env.lands_install (apart row mem)).mp lands⟩
    · rcases List.mem_cons.mp mem with rfl | mem
      · exact kept row (env.mem_install_of_lands lands) fresh
      · exact landed row mem ((env.lands_install (apart row mem)).mpr lands)
    · simp only [List.map_cons, List.mem_cons, not_or] at other
      exact kept row (env.mem_install_of_mem mem other.1) other.2

theorem windowsRouteArgs_eq (target : String) (interfaceIndex : UInt32) :
    windowsRouteArgs target interfaceIndex =
      (validateWindowsRoutePrefix target).map fun _ => ⟨trim target, interfaceIndex⟩ := by
  unfold windowsRouteArgs
  cases validateWindowsRoutePrefix target <;> rfl

/-- The prefix at a position is an IPv4 CIDR and `netsh` adds it. -/
def accepts (entry : String × Nat) : Bool :=
  (validateWindowsRoutePrefix entry.1).isOk && (env.netshAdd entry.2).isOk

/-- The routes before the first prefix that is not accepted. -/
def acceptedRoutes (interfaceIndex : UInt32) (position : Nat) (targets : List String) :
    List WindowsTunnelRoute :=
  ((targets.zipIdx position).takeWhile env.accepts).map fun entry => ⟨trim entry.1, interfaceIndex⟩

/-- The first prefix that is not accepted. -/
def firstUnaccepted (position : Nat) (targets : List String) : Option (String × Nat) :=
  ((targets.zipIdx position).dropWhile env.accepts).head?

/-- `netsh` is the one that refuses the first prefix that is not accepted. -/
def netshRefuses (position : Nat) (targets : List String) : Bool :=
  (env.firstUnaccepted position targets).any fun entry => (validateWindowsRoutePrefix entry.1).isOk

theorem applyWindowsRoutes_cons (interfaceIndex : UInt32) (position : Nat) (applied : List String)
    (target : String) (rest : List String) (routes : WindowsRoutes) :
    env.accepts (target, position) = true ∧
        env.applyWindowsRoutes interfaceIndex position applied (target :: rest) routes =
          env.applyWindowsRoutes interfaceIndex (position + 1) (applied ++ [target]) rest
            (routes.addTunnel ⟨trim target, interfaceIndex⟩) ∨
      env.accepts (target, position) = false ∧
        (env.applyWindowsRoutes interfaceIndex position applied (target :: rest) routes).1.isOk = false ∧
        (env.applyWindowsRoutes interfaceIndex position applied (target :: rest) routes).2 =
          if (validateWindowsRoutePrefix target).isOk then
            (env.removeWindowsRoutes interfaceIndex none applied routes).2
          else routes := by
  cases valid : validateWindowsRoutePrefix target with
  | error e =>
    refine .inr ⟨?_, ?_, ?_⟩ <;>
      simp [applyWindowsRoutes, windowsRouteArgs_eq, accepts, valid, Except.map, Except.isOk,
        Except.toBool]
  | ok u =>
    cases added : env.netshAdd position with
    | error e =>
      refine .inr ⟨?_, ?_, ?_⟩ <;>
        simp [applyWindowsRoutes, windowsRouteArgs_eq, accepts, addTunnelRoute, valid, added, Except.map,
          Except.isOk, Except.toBool]
    | ok u =>
      refine .inl ⟨?_, ?_⟩ <;>
        simp [applyWindowsRoutes, windowsRouteArgs_eq, accepts, addTunnelRoute, valid, added, Except.map,
          Except.isOk, Except.toBool]

theorem removeWindowsRoutes_routes (undo : env.UndoSucceeds) (interfaceIndex : UInt32)
    (first : Option String) {applied : List String} (routes : WindowsRoutes)
    (valid : ∀ target ∈ applied, (validateWindowsRoutePrefix target).isOk = true) :
    (env.removeWindowsRoutes interfaceIndex first applied routes).2 =
      { routes with tunnel := routes.tunnel.filter fun row =>
          row ∉ applied.map fun target => (⟨trim target, interfaceIndex⟩ : WindowsTunnelRoute) } := by
  induction applied generalizing first routes with
  | nil => simp [removeWindowsRoutes]
  | cons target rest ih =>
    obtain ⟨head, tail⟩ := List.forall_mem_cons.mp valid
    cases ok : validateWindowsRoutePrefix target with
    | error e => simp [ok, Except.isOk, Except.toBool] at head
    | ok u =>
      simp only [removeWindowsRoutes, windowsRouteArgs_eq, ok, Except.map, deleteTunnelRoute,
        undo.netshDelete, ih _ _ tail, WindowsRoutes.deleteTunnel, List.filter_filter]
      congr 2
      ext row
      by_cases same : row = ⟨trim target, interfaceIndex⟩ <;> simp [same]

theorem isOk_applyWindowsRoutes (interfaceIndex : UInt32) (position : Nat)
    (applied targets : List String) (routes : WindowsRoutes) :
    (env.applyWindowsRoutes interfaceIndex position applied targets routes).1.isOk = true ↔
      env.firstUnaccepted position targets = none := by
  induction targets generalizing position applied routes with
  | nil => simp [applyWindowsRoutes, firstUnaccepted, Except.isOk, Except.toBool]
  | cons target rest ih =>
    rcases env.applyWindowsRoutes_cons interfaceIndex position applied target rest routes with
      ⟨accepted, next⟩ | ⟨refused, failed, -⟩
    · rw [next, ih]
      simp [firstUnaccepted, List.zipIdx_cons, accepted]
    · simp [failed, firstUnaccepted, List.zipIdx_cons, refused]

theorem applyWindowsRoutes_routes (undo : env.UndoSucceeds) (interfaceIndex : UInt32) (position : Nat)
    {applied : List String} (targets : List String) (routes : WindowsRoutes)
    (valid : ∀ target ∈ applied, (validateWindowsRoutePrefix target).isOk = true) :
    (env.applyWindowsRoutes interfaceIndex position applied targets routes).2.host = routes.host ∧
    (env.netshRefuses position targets = true →
      ∀ row ∈ (env.applyWindowsRoutes interfaceIndex position applied targets routes).2.tunnel,
        row ∈ routes.tunnel ∧ row ∉ applied.map fun target =>
          (⟨trim target, interfaceIndex⟩ : WindowsTunnelRoute)) ∧
    (env.netshRefuses position targets = false →
      ∀ row, row ∈ (env.applyWindowsRoutes interfaceIndex position applied targets routes).2.tunnel ↔
        row ∈ routes.tunnel ∨ row ∈ env.acceptedRoutes interfaceIndex position targets) := by
  induction targets generalizing position applied routes with
  | nil => simp [applyWindowsRoutes, netshRefuses, firstUnaccepted, acceptedRoutes]
  | cons target rest ih =>
    rcases env.applyWindowsRoutes_cons interfaceIndex position applied target rest routes with
      ⟨accepted, next⟩ | ⟨refused, -, after⟩
    · have passes : (validateWindowsRoutePrefix target).isOk = true := by
        simp only [accepts, Bool.and_eq_true] at accepted
        exact accepted.1
      have extended : ∀ t ∈ applied ++ [target], (validateWindowsRoutePrefix t).isOk = true := by
        simpa [or_imp, forall_and] using ⟨valid, passes⟩
      obtain ⟨host, taken, added⟩ := ih (position + 1)
        (routes.addTunnel ⟨trim target, interfaceIndex⟩) extended
      have same : env.netshRefuses position (target :: rest) = env.netshRefuses (position + 1) rest := by
        simp [netshRefuses, firstUnaccepted, List.zipIdx_cons, accepted]
      rw [next, same]
      refine ⟨host, fun refuses row mem => ?_, fun passes row => ?_⟩
      · obtain ⟨installed, other⟩ := taken refuses row mem
        simp only [List.map_append, List.mem_append, not_or] at other
        rcases mem_pushUnique.mp installed with old | rfl
        · exact ⟨old, other.1⟩
        · simp at other
      · rw [added passes row]
        simp [WindowsRoutes.addTunnel, mem_pushUnique, acceptedRoutes, List.zipIdx_cons, accepted,
          or_assoc]
    · rw [after]
      split
      · next passes =>
        rw [removeWindowsRoutes_routes env undo interfaceIndex none routes valid]
        refine ⟨rfl, fun _ row mem => by simpa using mem, fun passed => ?_⟩
        simp [netshRefuses, firstUnaccepted, List.zipIdx_cons, refused, passes] at passed
      · next invalid =>
        refine ⟨rfl, fun refuses => ?_, fun _ row => ?_⟩
        · simp [netshRefuses, firstUnaccepted, List.zipIdx_cons, refused, invalid] at refuses
        · simp [acceptedRoutes, List.zipIdx_cons, refused]

theorem within_abandon (routes : WindowsRoutes) : (env.abandon routes).Within routes := by
  unfold abandon
  split
  · exact routes.within_dropInterface _
  · exact .refl routes

/-- What stays when a start fails after its bypass routes are in. -/
theorem abandon_within_iff (undo : env.UndoSucceeds) {bypass : List WindowsEndpointBypassRoute}
    {targets : List String} {routes : WindowsRoutes} (distinct : (bypass.map (·.target)).Nodup)
    (accepted : ∀ route ∈ bypass, env.refuses route = false) :
    (env.abandon (env.applyWindowsRoutes env.interfaceIndex 0 [] targets
      (env.applyWindowsEndpointBypassRoutes [] bypass routes).2).2).Within routes ↔
    (∀ route ∈ bypass, env.Lands routes route → route ∈ routes.host) ∧
      (env.adapterGone = true ∨ env.netshRefuses 0 targets = true ∨
        ∀ route ∈ env.acceptedRoutes env.interfaceIndex 0 targets, route ∈ routes.tunnel) := by
  obtain ⟨source, landed, -⟩ := @host_of_accepted _ _ env [] bypass routes distinct accepted
  obtain ⟨host, taken, added⟩ := @applyWindowsRoutes_routes _ _ env undo env.interfaceIndex 0 [] targets
    (env.applyWindowsEndpointBypassRoutes [] bypass routes).2 (by simp)
  rw [env.tunnel_applyWindowsEndpointBypassRoutes undo] at taken added
  generalize (env.applyWindowsEndpointBypassRoutes [] bypass routes).2 = installed at *
  generalize (env.applyWindowsRoutes env.interfaceIndex 0 [] targets installed).2 = after at *
  have hosts : (env.abandon after).host = installed.host := by
    unfold abandon
    split <;> exact host
  refine and_congr ?_ ?_
  · rw [hosts]
    constructor
    · exact fun within route mem lands => within (landed route mem lands)
    · intro old row mem
      exact (source row mem).elim id fun new => old row new.1 new.2
  · constructor
    · intro within
      by_contra none
      simp only [not_or, Bool.not_eq_true] at none
      obtain ⟨stays, passed, new⟩ := none
      refine new fun route mem => within ?_
      simpa [abandon, stays] using (added passed route).mpr (.inr mem)
    · rintro (gone | refused | old) row mem
      · simp only [abandon, gone, if_true, WindowsRoutes.dropInterface, List.mem_filter,
          decide_eq_true_eq] at mem
        cases refused : env.netshRefuses 0 targets with
        | true => exact (taken refused row mem.1).1
        | false =>
          rcases (added refused row).mp mem.1 with old | new
          · exact old
          · obtain ⟨entry, -, rfl⟩ := List.mem_map.mp new
            exact absurd rfl mem.2
      · exact (taken refused row ((env.within_abandon after).2 mem)).1
      · cases refused : env.netshRefuses 0 targets with
        | true => exact (taken refused row ((env.within_abandon after).2 mem)).1
        | false =>
          exact ((added refused row).mp ((env.within_abandon after).2 mem)).elim id (old row)

end WindowsEnv

/-- A failed start leaves no route that was not there before. -/
def FailsClean (env : WindowsEnv ω σ) (call : WindowsStart) (listenPort : UInt16)
    (routes : WindowsRoutes) : Prop :=
  (WindowsTunnelBackend.start env call listenPort routes).1.isOk = false →
    (WindowsTunnelBackend.start env call listenPort routes).2.Within routes

/-- A step before the first route fails, or a bypass route is refused, or no step fails, or everything that
is to be installed is there already, where the tunnel routes may also go by themselves: with the adapter,
or because `netsh` refuses one of them. -/
def StartMeets (env : WindowsEnv ω σ) (call : WindowsStart) (listenPort : UInt16)
    (routes : WindowsRoutes) : Prop :=
  (env.openWintun call.iface).isOk = false ∨
  match env.configure call.iface call.localAddress call.peers with
  | .error _ => True
  | .ok bypass =>
    (∃ route ∈ bypass, env.refuses route = true) ∨
    (env.firstUnaccepted 0 call.routeTargets = none ∧
      (env.startRuntime call.iface call.privateKeyBase64 listenPort call.peers).isOk = true) ∨
    (∀ route ∈ bypass, env.Lands routes route → route ∈ routes.host) ∧
      (env.adapterGone = true ∨ env.netshRefuses 0 call.routeTargets = true ∨
        ∀ route ∈ env.acceptedRoutes env.interfaceIndex 0 call.routeTargets, route ∈ routes.tunnel)

theorem distinct_of_configure {env : WindowsEnv ω σ} {iface localAddress : String}
    {peers : List TunnelPeer} {bypass : List WindowsEndpointBypassRoute}
    (h : env.configure iface localAddress peers = .ok bypass) : (bypass.map (·.target)).Nodup := by
  simp only [WindowsEnv.configure, bind, Except.bind] at h
  split at h
  · cases h
  split at h
  · cases h
  split at h
  · cases h
  split at h
  · cases h
  exact nodup_bypass_targets h

theorem failsClean_iff {env : WindowsEnv ω σ} (undo : env.UndoSucceeds) (call : WindowsStart)
    (listenPort : UInt16) (routes : WindowsRoutes) :
    FailsClean env call listenPort routes ↔ StartMeets env call listenPort routes := by
  unfold FailsClean StartMeets WindowsTunnelBackend.start
  cases opened : env.openWintun call.iface with
  | error e => simp [Except.isOk, Except.toBool, WindowsRoutes.Within.refl]
  | ok u =>
    cases configured : env.configure call.iface call.localAddress call.peers with
    | error e => simp [env.within_abandon routes]
    | ok bypass =>
      have distinct := distinct_of_configure configured
      have bypassed := env.isOk_applyWindowsEndpointBypassRoutes [] bypass routes
      have within := @WindowsEnv.abandon_within_iff _ _ env undo bypass call.routeTargets routes distinct
      have clean := @WindowsEnv.host_of_refused _ _ env undo [] bypass routes
      have tunnel := env.tunnel_applyWindowsEndpointBypassRoutes undo [] bypass routes
      rcases applied : env.applyWindowsEndpointBypassRoutes [] bypass routes with ⟨result, after⟩
      rw [applied] at bypassed within clean tunnel
      cases result with
      | error e =>
        have failed : ¬ ∀ route ∈ bypass, env.refuses route = false := by
          rw [← bypassed]
          simp [Except.isOk, Except.toBool]
        have refused : ∃ route ∈ bypass, env.refuses route = true := by simpa using failed
        have back : after.Within routes :=
          ⟨fun row mem => (clean rfl row mem).1, by rw [tunnel]; exact List.Subset.refl _⟩
        simp only [applied, refused, true_or, or_true, iff_true]
        exact fun _ => (env.within_abandon after).trans back
      | ok appliedBypass =>
        have accepted := bypassed.mp rfl
        have unrefused : ¬ ∃ route ∈ bypass, env.refuses route = true := by simpa using accepted
        have routed := env.isOk_applyWindowsRoutes env.interfaceIndex 0 [] call.routeTargets after
        have within := within accepted
        rcases added : env.applyWindowsRoutes env.interfaceIndex 0 [] call.routeTargets after with
          ⟨result, final⟩
        rw [added] at routed within
        cases result with
        | error e =>
          have unaccepted : env.firstUnaccepted 0 call.routeTargets ≠ none := by
            rw [Ne, ← routed]
            simp [Except.isOk, Except.toBool]
          simp [applied, added, Except.isOk, Except.toBool, unrefused, unaccepted, ← within]
        | ok appliedRoutes =>
          have all := routed.mp rfl
          cases started : env.startRuntime call.iface call.privateKeyBase64 listenPort call.peers with
          | error e => simp [applied, added, Except.isOk, Except.toBool, unrefused, ← within]
          | ok runtime => simp [applied, added, Except.isOk, Except.toBool, all]

/-! ## Attempts -/

/-- The attempts of a run, each with its port and the tables it began with, and how the run ended. -/
structure WindowsRun (β : Type) where
  result : Except String β
  attempts : List (UInt16 × WindowsRoutes)
  routes : WindowsRoutes

/-- The loop over the ports: a busy port is passed over, and when all are busy the last conflict is the
cause of the error. -/
def tryWindowsPorts {β : Type} (start : Nat → UInt16 → WindowsRoutes → Except String β × WindowsRoutes) :
    Nat → List UInt16 → Option String → WindowsRoutes → WindowsRun (UInt16 × β)
  | _, [], conflict, routes =>
    { result := .error (conflict.elim "failed to configure Windows WireGuard runtime" fun _ =>
        "failed to allocate available Windows WireGuard listen port")
      attempts := [], routes }
  | attempt, port :: ports, _, routes => match start attempt port routes with
    | (.ok backend, after) => ⟨.ok (port, backend), [(port, routes)], after⟩
    | (.error error, after) =>
      if isResourceBusyMessage error then
        let rest := tryWindowsPorts start (attempt + 1) ports (some error) after
        { rest with attempts := (port, routes) :: rest.attempts }
      else ⟨.error error, [(port, routes)], after⟩

/-- The candidates that `attempted_ports` lets through. -/
def unattemptedPorts : List UInt16 → List UInt16 → List UInt16
  | _, [] => []
  | attempted, port :: ports =>
    if port ∈ attempted then unattemptedPorts attempted ports
    else port :: unattemptedPorts (port :: attempted) ports

structure CliWindowsRuntime (σ : Type) where
  activeListenPort : Option UInt16
  windowsRuntime : Option (WindowsTunnelBackend σ)

/-- `self.stop()`: a backend stops when it is told to and again when it is dropped. -/
def CliWindowsRuntime.stop (env : WindowsEnv ω σ) (runtime : CliWindowsRuntime σ)
    (routes : WindowsRoutes) : WindowsRoutes :=
  match runtime.windowsRuntime with
  | none => routes
  | some backend => backend.stop env (backend.stop env routes)

/-- Forty attempts at the primary port, then the candidates that the system offers. -/
def CliWindowsRuntime.applyWindowsRuntime (stopEnv : WindowsEnv ω σ) (env : Nat → WindowsEnv ω σ)
    (runtime : CliWindowsRuntime σ) (configuredPort : UInt16) (candidatePorts : List UInt16)
    (call : WindowsStart) (routes : WindowsRoutes) :
    WindowsRun (UInt16 × WindowsTunnelBackend σ) × CliWindowsRuntime σ :=
  let primary := runtime.activeListenPort.getD configuredPort
  let ports := List.replicate primaryListenPortRetryAttempts primary ++
    unattemptedPorts [primary] (candidatePorts.take 16)
  let run := tryWindowsPorts (fun attempt => WindowsTunnelBackend.start (env attempt) call) 0 ports none
    (runtime.stop stopEnv routes)
  (run, match run.result with
    | .ok (port, backend) => ⟨some port, some backend⟩
    | .error _ => ⟨none, none⟩)

/-! ## Runs -/

namespace WindowsRun

variable {β : Type}

/-- The tables at every attempt's begin, and those that a failed run leaves. -/
def tables (run : WindowsRun β) : List WindowsRoutes :=
  run.attempts.map Prod.snd ++ match run.result with
    | .ok _ => []
    | .error _ => [run.routes]

/-- Nothing that a failed attempt added is in the tables of a later one, nor in the last. -/
def LeavesNothing (run : WindowsRun β) : Prop :=
  run.tables.Pairwise fun earlier later => later.Within earlier

end WindowsRun

theorem tables_tryWindowsPorts {β : Type}
    (start : Nat → UInt16 → WindowsRoutes → Except String β × WindowsRoutes) (attempt : Nat)
    (ports : List UInt16) (conflict : Option String) (routes : WindowsRoutes) :
    (tryWindowsPorts start attempt ports conflict routes).tables.head? = some routes := by
  cases ports with
  | nil => rfl
  | cons port ports =>
    unfold tryWindowsPorts
    split
    · rfl
    · split <;> rfl

/-- The tables of one attempt follow from those of the one before, so that each has only to be compared
with the next. -/
theorem leavesNothing_tryWindowsPorts {β : Type}
    (start : Nat → UInt16 → WindowsRoutes → Except String β × WindowsRoutes) (attempt : Nat)
    (ports : List UInt16) (conflict : Option String) (routes : WindowsRoutes) :
    (tryWindowsPorts start attempt ports conflict routes).LeavesNothing ↔
      ∀ i port before, (tryWindowsPorts start attempt ports conflict routes).attempts[i]? =
          some (port, before) →
        (start (attempt + i) port before).1.isOk = false →
          (start (attempt + i) port before).2.Within before := by
  have : IsTrans WindowsRoutes fun earlier later => later.Within earlier :=
    ⟨fun _ _ _ h h' => h'.trans h⟩
  simp only [WindowsRun.LeavesNothing, ← List.isChain_iff_pairwise]
  induction ports generalizing attempt conflict routes with
  | nil => simp [tryWindowsPorts, WindowsRun.tables]
  | cons port ports ih =>
    have first := tables_tryWindowsPorts start (attempt + 1) ports
    unfold tryWindowsPorts
    rcases started : start attempt port routes with ⟨_ | backend, after⟩
    · next error =>
      dsimp only
      split
      · have later := ih (attempt + 1) (some error) after
        obtain ⟨tail, tables⟩ := List.head?_eq_some_iff.mp (first (some error) after)
        generalize tryWindowsPorts start (attempt + 1) ports (some error) after = rest at later tables ⊢
        change List.IsChain _ (routes :: rest.tables) ↔ _
        rw [tables] at later ⊢
        rw [List.isChain_cons_cons, ← Nat.and_forall_add_one]
        refine and_congr ?_ (later.trans ?_)
        · simp [started, Except.isOk, Except.toBool]
        · simp [Nat.add_assoc, Nat.add_comm 1]
      · rw [← Nat.and_forall_add_one]
        simp [WindowsRun.tables, started, Except.isOk, Except.toBool]
    · rw [← Nat.and_forall_add_one]
      simp [WindowsRun.tables, started, Except.isOk, Except.toBool]

/-- Start is atomic exactly when its condition holds, and a run of `apply_windows_runtime` leaves nothing
exactly when it holds of every attempt. -/
theorem windows_tunnel_start_is_atomic_iff (stopEnv : WindowsEnv ω σ) (env : Nat → WindowsEnv ω σ)
    (undo : ∀ attempt, (env attempt).UndoSucceeds) (runtime : CliWindowsRuntime σ)
    (configuredPort : UInt16) (candidatePorts : List UInt16) (call : WindowsStart)
    (routes : WindowsRoutes) :
    (∀ attempt port before, FailsClean (env attempt) call port before ↔
      StartMeets (env attempt) call port before) ∧
    let run := (runtime.applyWindowsRuntime stopEnv env configuredPort candidatePorts call routes).1
    run.LeavesNothing ↔ ∀ i port before, run.attempts[i]? = some (port, before) →
      StartMeets (env i) call port before := by
  have once := fun attempt port before => failsClean_iff (undo attempt) call port before
  refine ⟨once, ?_⟩
  simp only [CliWindowsRuntime.applyWindowsRuntime, leavesNothing_tryWindowsPorts, Nat.zero_add, ← once]
  rfl

/-- An adapter that was there before, and a session that does not start. -/
def sessionlessWindows : WindowsEnv Unit Unit where
  tunn := UserspaceWireGuardRuntime.idleTunn
  random := ()
  codec := ⟨fun _ => .ok (List.replicate 32 0), fun _ => ""⟩
  encodeBase64 _ := ""
  loadWintun := .ok ()
  openAdapter := .ok ()
  createAdapter := .ok ()
  setMtu := .ok ()
  setNetworkAddresses _ := .ok ()
  interfaceIndex := 21
  getAdapterIndex := .ok ()
  interfaces := [⟨"Ethernet", 7, true, true, false, false, some [⟨0xc0a80101⟩]⟩]
  routeAdd _ := .ok ()
  routeChange _ := .error "command failed"
  routeDelete _ := .ok ()
  netshAdd _ := .ok ()
  netshDelete _ := .ok ()
  startSession := .error "session refused"
  bind _ := .ok ()
  setReadTimeout := .ok ()
  cloneSendSocket := .ok ()
  sendTo _ := .ok ()
  cloneReaderSocket := .ok ()
  cloneTunnelSocket := .ok ()
  adapterGone := false

theorem sessionlessWindows_undoes : sessionlessWindows.UndoSucceeds := ⟨fun _ => rfl, fun _ => rfl⟩

def onePeerStart : WindowsStart where
  iface := "nvpn"
  privateKeyBase64 := "yAnz5TF+lXXJte14tji3zlMNq+hd2rYUIgJBgB3fBmk="
  localAddress := "10.44.0.1/32"
  peers := [⟨"1b1b1b1b1b1b1b1b1b1b1b1b1b1b1b1b1b1b1b1b1b1b1b1b1b1b1b1b1b1b1b1b", "203.0.113.7:51820", ["10.44.0.2/32"]⟩]

/-- The session does not start, and the host route of the peer's endpoint and the route to the peer stay. -/
theorem failed_start_leaves_routes :
    (WindowsTunnelBackend.start sessionlessWindows onePeerStart 51820 {}).1.isOk = false ∧
    (WindowsTunnelBackend.start sessionlessWindows onePeerStart 51820 {}).2 =
      ⟨[⟨⟨0xcb007107⟩, ⟨0xc0a80101⟩, 7⟩], [⟨"10.44.0.2/32", 21⟩]⟩ ∧
    ¬ FailsClean sessionlessWindows onePeerStart 51820 {} := by
  have failed : (WindowsTunnelBackend.start sessionlessWindows onePeerStart 51820 {}).1.isOk = false := by
    decide +kernel
  have left : (WindowsTunnelBackend.start sessionlessWindows onePeerStart 51820 {}).2 =
      ⟨[⟨⟨0xcb007107⟩, ⟨0xc0a80101⟩, 7⟩], [⟨"10.44.0.2/32", 21⟩]⟩ := by
    decide +kernel
  refine ⟨failed, left, fun clean => ?_⟩
  have within := clean failed
  rw [left] at within
  exact absurd within (by decide)

/-- Two peers with endpoints of their own. -/
def twoPeerStart : WindowsStart := { onePeerStart with
  peers := onePeerStart.peers ++
    [⟨"2c2c2c2c2c2c2c2c2c2c2c2c2c2c2c2c2c2c2c2c2c2c2c2c2c2c2c2c2c2c2c2c", "198.51.100.9:51820", ["10.44.0.3/32"]⟩] }

/-- `route` refuses both to add and to change the host route to 203.0.113.7. -/
def refusingWindows : WindowsEnv Unit Unit := { sessionlessWindows with
  routeAdd := fun target => if target = ⟨0xcb007107⟩ then .error "command failed" else .ok ()
  routeChange := fun _ => .error "command failed" }

def firstBypassRoute : WindowsEndpointBypassRoute := ⟨⟨0xc6336409⟩, ⟨0xc0a80101⟩, 7⟩

/-- Closing the adapter takes the interface away. -/
def vanishingWindows : WindowsEnv Unit Unit := { sessionlessWindows with adapterGone := true }

def hostRouteThere : WindowsRoutes := { host := [⟨⟨0xcb007107⟩, ⟨0xc0a80101⟩, 7⟩] }

/-- The host route to 198.51.100.9 is added, the next one is refused, and the first one is removed again. Where the
host route was there before, a session that does not start takes the tunnel route with the interface. -/
theorem windows_tunnel_start_is_atomic_of_two_failures :
    (let run := (CliWindowsRuntime.applyWindowsRuntime sessionlessWindows (fun _ => refusingWindows) ⟨none, none⟩
        51820 [51821] twoPeerStart {}).1
     run.result.isOk = false ∧ run.routes = {} ∧ run.LeavesNothing ∧
      (refusingWindows.addHostRoute firstBypassRoute {}).2.host = [firstBypassRoute]) ∧
    let run := (CliWindowsRuntime.applyWindowsRuntime sessionlessWindows (fun _ => vanishingWindows) ⟨none, none⟩
      51820 [51821] onePeerStart hostRouteThere).1
    run.result.isOk = false ∧ run.routes = hostRouteThere ∧ run.LeavesNothing ∧
      (vanishingWindows.applyWindowsRoutes 21 0 [] onePeerStart.routeTargets hostRouteThere).2.tunnel =
        [⟨"10.44.0.2/32", 21⟩] := by
  have refused : (refusingWindows.addHostRoute firstBypassRoute {}).2.host = [firstBypassRoute] ∧
      (CliWindowsRuntime.applyWindowsRuntime sessionlessWindows (fun _ => refusingWindows) ⟨none, none⟩
        51820 [51821] twoPeerStart {}).1.result.isOk = false ∧
      (CliWindowsRuntime.applyWindowsRuntime sessionlessWindows (fun _ => refusingWindows) ⟨none, none⟩
        51820 [51821] twoPeerStart {}).1.routes = {} ∧
      refusingWindows.configure twoPeerStart.iface twoPeerStart.localAddress twoPeerStart.peers =
        .ok [firstBypassRoute, ⟨⟨0xcb007107⟩, ⟨0xc0a80101⟩, 7⟩] ∧
      refusingWindows.refuses ⟨⟨0xcb007107⟩, ⟨0xc0a80101⟩, 7⟩ = true := by decide +kernel
  have gone : (vanishingWindows.applyWindowsRoutes 21 0 [] onePeerStart.routeTargets hostRouteThere).2.tunnel =
        [⟨"10.44.0.2/32", 21⟩] ∧
      (CliWindowsRuntime.applyWindowsRuntime sessionlessWindows (fun _ => vanishingWindows) ⟨none, none⟩
        51820 [51821] onePeerStart hostRouteThere).1.result.isOk = false ∧
      (CliWindowsRuntime.applyWindowsRuntime sessionlessWindows (fun _ => vanishingWindows) ⟨none, none⟩
        51820 [51821] onePeerStart hostRouteThere).1.routes = hostRouteThere ∧
      (CliWindowsRuntime.applyWindowsRuntime sessionlessWindows (fun _ => vanishingWindows) ⟨none, none⟩
        51820 [51821] onePeerStart hostRouteThere).1.attempts = [(51820, hostRouteThere)] ∧
      vanishingWindows.configure onePeerStart.iface onePeerStart.localAddress onePeerStart.peers =
        .ok hostRouteThere.host := by decide +kernel
  obtain ⟨added, failed, clean, configured, refuses⟩ := refused
  obtain ⟨routed, failed', clean', attempts, configured'⟩ := gone
  refine ⟨⟨failed, clean, ?_, added⟩, failed', clean', ?_, routed⟩
  · refine (windows_tunnel_start_is_atomic_iff sessionlessWindows (fun _ => refusingWindows)
      (fun _ => ⟨fun _ => rfl, fun _ => rfl⟩) ⟨none, none⟩ 51820 [51821] twoPeerStart {}).2.mpr fun _ _ _ _ => .inr ?_
    rw [configured]
    exact .inl ⟨_, by simp, refuses⟩
  · refine (windows_tunnel_start_is_atomic_iff sessionlessWindows (fun _ => vanishingWindows)
      (fun _ => ⟨fun _ => rfl, fun _ => rfl⟩) ⟨none, none⟩ 51820 [51821] onePeerStart hostRouteThere).2.mpr
      fun i port before attempted => .inr ?_
    rw [configured']
    rw [attempts] at attempted
    obtain rfl : before = hostRouteThere := (Prod.mk.inj (List.mem_singleton.mp (List.mem_of_getElem? attempted))).2
    exact .inr (.inr ⟨fun route mem _ => mem, .inl rfl⟩)

end NostrVpn.Cli
