import NostrVpn.Cli.TunnelRuntimeFacts

/-!
# A machine on which everything succeeds

When no request to the device and no `ip` command fails, an apply that gets to the device is completed, and the
kernel is left as the commands for the interface and its routes leave it.
-/
namespace NostrVpn.Cli

open Rust Rust.Net NostrVpn.Core WireGuard Linux

/-- Every request and command succeeds. -/
structure ApplyEnv.Willing (env : ApplyEnv) : Prop where
  wg : ∀ sent, env.wg sent = .answered
  ip : ∀ command, env.ipFails command = false
  createDevice : ∀ iface, env.createDevice iface = none
  socketAppears : env.socketAppears = true

variable {env : ApplyEnv} {privateKeyHex : String} {peers : List TunnelPeer}

/-! ## Requests -/

theorem sendAll_willing (willing : env.Willing) {bodies : List String} {session : UapiSession} {device : Device}
    (sets : setAll session.device bodies = .ok device) :
    ∃ sent, sendAll env session bodies = (.ok (), ⟨device, sent⟩) := by
  induction bodies generalizing session with
  | nil =>
    obtain rfl : session.device = device := Except.ok.inj sets
    exact ⟨session.sent, rfl⟩
  | cons body bodies ih =>
    rw [setAll, List.foldlM_cons] at sets
    cases result : session.device.set (wgSetText body) with
    | error stopped =>
      rw [result] at sets
      cases sets
    | ok next =>
      rw [result] at sets
      obtain ⟨sent, rest⟩ := @ih ⟨next, session.sent + 1⟩ sets
      exact ⟨sent, by simp [sendAll, wgSet, willing.wg, result, rest]⟩

/-- The device with its private key and port. -/
def portDevice (privateKeyHex : String) (port : UInt16) (device : Device) : Device :=
  { device with privateKey := Key.parse privateKeyHex, listenPort := port.toNat }

theorem set_portBody (clean : '\n' ∉ privateKeyHex.toList) {key : Key} (parsed : Key.parse privateKeyHex = some key)
    (port : UInt16) (device : Device) :
    device.set (wgSetText (portBody privateKeyHex port)) = .ok (portDevice privateKeyHex port device) := by
  have number : parseUnsigned 0xffff (fmtNat port.toNat) = some port.toNat :=
    parseUnsigned_fmtNat (by have := port.toNat_lt; omega)
  have lines : (["private_key=" ++ privateKeyHex, "listen_port=" ++ fmtNat port.toNat, "", ""] :
      List String).takeWhile (· ≠ "") = ["private_key=" ++ privateKeyHex, "listen_port=" ++ fmtNat port.toNat] := by
    simp
  simp only [Device.set, split_portBody clean, lines]
  simp [Device.applyLine, parse_private_key, parse_listen_port, parsed, number, Device.apply, bind, Except.bind,
    Except.map, pure, Except.pure, portDevice]

/-- The device once its port is selected; a port that is in use by the device is not set again. -/
def selectedDevice (runtime : CliTunnelRuntime) (privateKeyHex : String) (configured : UInt16) (device : Device) :
    Device :=
  if canReuseActiveListenPort runtime.isRunning runtime.lastFingerprint.isSome runtime.activeListenPort
      (runtime.listenPort configured) then device
  else portDevice privateKeyHex (runtime.listenPort configured) device

theorem selectListenPort_willing (willing : env.Willing) (clean : '\n' ∉ privateKeyHex.toList) {key : Key}
    (parsed : Key.parse privateKeyHex = some key) (runtime : CliTunnelRuntime) (configured : UInt16)
    (session : UapiSession) : ∃ sent, runtime.selectListenPort env privateKeyHex configured session =
      (.ok (runtime.listenPort configured), ⟨selectedDevice runtime privateKeyHex configured session.device, sent⟩) := by
  have tried : ∃ sent, runtime.tryListenPort env privateKeyHex (runtime.listenPort configured) session =
      (.ok (some (runtime.listenPort configured)),
        ⟨selectedDevice runtime privateKeyHex configured session.device, sent⟩) := by
    unfold CliTunnelRuntime.tryListenPort selectedDevice
    split_ifs with reuse
    · exact ⟨session.sent, rfl⟩
    · have set := set_portBody clean parsed (runtime.listenPort configured) session.device
      rw [portBody] at set
      exact ⟨session.sent + 1, by simp [wgSet, willing.wg, set]⟩
  obtain ⟨sent, tried⟩ := tried
  refine ⟨sent, ?_⟩
  simp [CliTunnelRuntime.selectListenPort, primaryListenPortRetryAttempts, CliTunnelRuntime.tryPrimaryPort, tried]

/-! ## The kernel -/

theorem applyRoutes_willing (willing : env.Willing) (iface : String) (source : Option String) (targets : List String)
    (kernel : Kernel) : (applyRoutes env iface source targets kernel).1 = .ok () := by
  induction targets generalizing kernel with
  | nil => rfl
  | cons target targets ih => simp [applyRoutes, ApplyEnv.ip, willing.ip, ih]

theorem applyLocalInterfaceNetwork_willing (willing : env.Willing) (iface address : String) (targets : List String)
    (kernel : Kernel) : (applyLocalInterfaceNetwork env iface address targets kernel).1 = .ok () := by
  simp [applyLocalInterfaceNetwork, ApplyEnv.ip, willing.ip, applyRoutes_willing willing]

/-! ## The apply -/

section Apply
variable {call : ApplyCall} {sys mid : TunnelSystem} {device : Device} {plan : List PlannedTunnelPeer}

/-- The system once the port is selected and the device has its peers. -/
def configured (call : ApplyCall) (privateKeyHex : String) (device : Device) (plan : List PlannedTunnelPeer)
    (mid : TunnelSystem) : TunnelSystem :=
  (mid.setRuntime fun runtime =>
    { runtime with activeListenPort := some (mid.runtime.listenPort call.app.node.listenPort) }).setDevice
    (({ selectedDevice mid.runtime privateKeyHex call.app.node.listenPort device with peers := ∅ } : Device).putPeers
      (plan.filterMap configOf) 5)

/-- The system with its interface and the fingerprint of the peers. -/
def completed (env : ApplyEnv) (call : ApplyCall) (plan : List PlannedTunnelPeer) (sys : TunnelSystem) :
    TunnelSystem where
  runtime := { sys.runtime with
    lastFingerprint := some (call.fingerprint sys.runtime (plan.map PlannedTunnelPeer.peer)) }
  kernel := (applyLocalInterfaceNetwork env sys.runtime.iface call.localAddress
    (routeTargetsForTunnelPeers (plan.map PlannedTunnelPeer.peer)) sys.kernel).2

/-- The port is selected, so all is left to the bodies, the routes and the interface. -/
theorem reconfigure_eq_configure (willing : env.Willing) (codec : env.codec.Lawful)
    (started : sys.ensureStarted env = (.ok device, mid)) {hex : String}
    (decoded : keyB64ToHex env.codec call.app.node.privateKey = .ok hex) (peers : List TunnelPeer)
    (specs : List (String × Route)) : ∃ sent, call.reconfigure env peers specs sys = call.configure env peers specs
      ⟨selectedDevice mid.runtime hex call.app.node.listenPort device, sent⟩
      (mid.setRuntime fun runtime =>
        { runtime with activeListenPort := some (mid.runtime.listenPort call.app.node.listenPort) }) := by
  obtain ⟨key, parsed⟩ : ∃ key, Key.parse hex = some key := by
    obtain ⟨bytes, -, length, rfl⟩ := keyB64ToHex_eq_ok.mp decoded
    rw [codec.encode_hex]
    exact ⟨⟨bytes, length⟩, Key.parse_fmt ⟨bytes, length⟩⟩
  obtain ⟨sent, selected⟩ := selectListenPort_willing willing (newline_notMem_privateKeyHex codec decoded) parsed
    mid.runtime call.app.node.listenPort ⟨device, 0⟩
  exact ⟨sent, by simp only [ApplyCall.reconfigure, started, decoded, selected]⟩

/-- What is left is done when the device takes the bodies. -/
theorem configure_willing (willing : env.Willing) {peers : List TunnelPeer} {session : UapiSession} {taken : Device}
    (sets : setAll session.device (uapiBodies peers) = .ok taken) (specs : List (String × Route))
    (sys : TunnelSystem) :
    let next := (sys.setDevice taken).reconcileLinuxEndpointBypassRoutes env specs
    call.configure env peers specs session sys = (.applied,
      ⟨{ next.runtime with lastFingerprint := some (call.fingerprint next.runtime peers) },
        (applyLocalInterfaceNetwork env next.runtime.iface call.localAddress (routeTargetsForTunnelPeers peers)
          next.kernel).2⟩) := by
  intro next
  obtain ⟨sent, sends⟩ := sendAll_willing willing sets
  have done := applyLocalInterfaceNetwork_willing willing next.runtime.iface call.localAddress
    (routeTargetsForTunnelPeers peers) next.kernel
  simp only [ApplyCall.configure, sends]
  generalize applyLocalInterfaceNetwork env _ _ _ _ = outcome at done ⊢
  obtain ⟨result, kernel⟩ := outcome
  obtain rfl : result = .ok () := done
  rfl

/-- It is given up when the device refuses a body. -/
theorem configure_refused {peers : List TunnelPeer} {session : UapiSession}
    (refuses : ∀ taken, setAll session.device (uapiBodies peers) ≠ .ok taken) (specs : List (String × Route))
    (sys : TunnelSystem) : ∃ error, (call.configure env peers specs session sys).1 = .interrupted error := by
  rcases sends : sendAll env session (uapiBodies peers) with ⟨error | _, session'⟩
  · exact ⟨error, by simp only [ApplyCall.configure, sends]⟩
  · exact absurd (sendAll_ok sends) (refuses _)

/-- An apply that gets to a device is completed when the device takes the bodies. -/
theorem reconfigure_willing (willing : env.Willing) (codec : env.codec.Lawful) {runtime : CliTunnelRuntime}
    (planned : (call.plan env runtime).1 = .ok plan)
    (parses : ∀ peer ∈ plan.map PlannedTunnelPeer.peer, ∀ ip ∈ peer.allowedIps, (IpPrefix.ofText ip).isSome)
    (started : sys.ensureStarted env = (.ok device, mid)) {hex : String}
    (decoded : keyB64ToHex env.codec call.app.node.privateKey = .ok hex) (specs : List (String × Route)) :
    call.reconfigure env (plan.map PlannedTunnelPeer.peer) specs sys = (.applied, completed env call plan
      ((configured call hex device plan mid).reconcileLinuxEndpointBypassRoutes env specs)) := by
  obtain ⟨sent, same⟩ := reconfigure_eq_configure willing codec started decoded
    (plan.map PlannedTunnelPeer.peer) specs
  have sets := (setAll_uapiBodies (shaped_plan codec planned)
    (selectedDevice mid.runtime hex call.app.node.listenPort device) _).mpr ⟨parses, rfl⟩
  rw [same]
  exact @configure_willing env call willing _
    ⟨selectedDevice mid.runtime hex call.app.node.listenPort device, sent⟩ _ sets specs _

/-- An apply of a plan whose routes need no bypass, on a node that has none. -/
theorem apply_willing (willing : env.Willing) (codec : env.codec.Lawful) {book : PeerPathBook}
    (planned : call.plan env sys.runtime = (.ok plan, book)) (ne : plan ≠ [])
    (parses : ∀ peer ∈ plan.map PlannedTunnelPeer.peer, ∀ ip ∈ peer.allowedIps, (IpPrefix.ofText ip).isSome)
    (inside : routeTargetsRequireEndpointBypass (routeTargetsForTunnelPeers (plan.map PlannedTunnelPeer.peer)) = false)
    (noDefault : defaultTarget ∉ routeTargetsForTunnelPeers (plan.map PlannedTunnelPeer.peer))
    (original : sys.runtime.originalDefaultRoute = none)
    (other : sys.runtime.lastFingerprint ≠
      some (call.fingerprint sys.runtime (plan.map PlannedTunnelPeer.peer)))
    (started : sys.ensureStarted env = (.ok device, mid)) {hex : String}
    (decoded : keyB64ToHex env.codec call.app.node.privateKey = .ok hex) :
    (call.apply env sys).returned = .applied ∧ (call.apply env sys).system = completed env call plan
      ((configured call hex device plan mid).reconcileLinuxEndpointBypassRoutes env []) := by
  have kept : ApplyCall.keepDefaultRoute env (plan.map PlannedTunnelPeer.peer) sys = sys := by
    simp [ApplyCall.keepDefaultRoute, noDefault, TunnelSystem.restoreLinuxOriginalDefaultRoute, original]
  have specs (sys : TunnelSystem) : call.bypassSpecs env (plan.map PlannedTunnelPeer.peer) sys = .ok [] := by
    simp [ApplyCall.bypassSpecs, inside]
  have done := reconfigure_willing willing codec (congrArg Prod.fst planned) parses started decoded []
  have update : call.update env plan sys = (.applied, completed env call plan
      ((configured call hex device plan mid).reconcileLinuxEndpointBypassRoutes env [])) := by
    simp only [ApplyCall.update, kept, specs, done, other, false_and, if_false]
  obtain ⟨first, rest, rfl⟩ := List.exists_cons_of_ne_nil ne
  simp [ApplyCall.apply, planned, update]

end Apply

end NostrVpn.Cli
