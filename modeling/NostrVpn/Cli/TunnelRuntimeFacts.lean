import NostrVpn.Cli.TunnelRuntime

/-!
# What each stage of an apply does

One lemma for each stage: which part of the runtime, the device and the kernel it leaves alone, and in
which states it can end.
-/
namespace NostrVpn.Cli

open Rust Rust.Net NostrVpn.Core WireGuard Linux

variable {env : ApplyEnv}

/-! ## The device socket -/

theorem sendAll_ok {bodies : List String} {session session' : UapiSession}
    (h : sendAll env session bodies = (.ok (), session')) :
    setAll session.device bodies = .ok session'.device := by
  induction bodies generalizing session with
  | nil =>
    obtain rfl : session = session' := (Prod.mk.inj h).2
    rfl
  | cons body bodies ih =>
    rw [sendAll] at h
    cases sent : wgSet env session body with
    | mk outcome next =>
      rw [sent] at h
      cases outcome with
      | error error => cases h
      | ok _ =>
        have rest := ih h
        unfold wgSet at sent
        cases answer : env.wg session.sent with
        | failed lines error => simp [answer] at sent
        | answered =>
          simp only [answer] at sent
          cases set : session.device.set (wgSetText body) with
          | error stopped => simp [set] at sent
          | ok device =>
            simp only [set, Prod.mk.injEq, true_and] at sent
            subst sent
            simpa [setAll, set, bind, Except.bind] using rest

/-- The body that sets the private key and the listen port. -/
def portBody (privateKeyHex : String) (port : UInt16) : String :=
  s!"private_key={privateKeyHex}\nlisten_port={fmtNat port.toNat}"

theorem split_portBody {privateKeyHex : String} (clean : '\n' ∉ privateKeyHex.toList)
    (port : UInt16) : split '\n' (wgSetText (portBody privateKeyHex port)) = "set=1" ::
      ["private_key=" ++ privateKeyHex, "listen_port=" ++ fmtNat port.toNat, "", ""] := by
  have digits : '\n' ∉ (fmtNat port.toNat).toList := by
    intro mem
    have digit := toDigit_of_mem_fmtRadix (by omega : 2 ≤ 10) (by omega : 10 ≤ 16)
      (by simpa [fmtNat] using mem)
    exact absurd digit (by decide)
  have lines : ∀ line ∈ ["set=1", "private_key=" ++ privateKeyHex,
      "listen_port=" ++ fmtNat port.toNat, "", ""], '\n' ∉ line.toList := by
    simp [clean, digits]
  refine Eq.trans (congrArg (split '\n') (String.toList_inj.mp ?_)) (split_join (by simp) lines)
  simp [wgSetText, portBody, join, toString]

theorem peers_wgSet_portBody {privateKeyHex : String} (clean : '\n' ∉ privateKeyHex.toList)
    (port : UInt16) (session : UapiSession) :
    (wgSet env session (portBody privateKeyHex port)).2.device.peers = session.device.peers := by
  have keeps : ∀ line ∈ ["private_key=" ++ privateKeyHex, "listen_port=" ++ fmtNat port.toNat,
      "", ""], ∀ setting, Setting.parse line = some setting → Device.KeepsPeers setting := by
    intro line mem setting parsed
    simp only [List.mem_cons, List.not_mem_nil, or_false] at mem
    rcases mem with rfl | rfl | rfl | rfl
    · rw [parse_private_key] at parsed
      obtain ⟨key, -, rfl⟩ := Option.map_eq_some_iff.mp parsed
      exact Or.inl ⟨key, rfl⟩
    · rw [parse_listen_port] at parsed
      obtain ⟨port, -, rfl⟩ := Option.map_eq_some_iff.mp parsed
      exact Or.inr ⟨port, rfl⟩
    all_goals
      have empty : Setting.parse "" = none := by decide
      rw [empty] at parsed
      cases parsed
  obtain ⟨whole, part⟩ := @Device.peers_set session.device _ _ (split_portBody clean port) keeps
  unfold wgSet
  cases env.wg session.sent with
  | failed lines error => exact part lines
  | answered =>
    cases result : session.device.set (wgSetText (portBody privateKeyHex port)) with
    | ok device => exact whole device (Or.inl result)
    | error device => exact whole device (Or.inr result)

/-! ## The listen port -/

section ListenPort

variable {runtime : CliTunnelRuntime} {privateKeyHex : String}

theorem peers_tryListenPort (clean : '\n' ∉ privateKeyHex.toList) (port : UInt16)
    (session : UapiSession) :
    (runtime.tryListenPort env privateKeyHex port session).2.device.peers = session.device.peers := by
  have sent := @peers_wgSet_portBody env _ clean port session
  unfold CliTunnelRuntime.tryListenPort
  split_ifs
  · rfl
  · rw [← portBody]
    generalize wgSet env session (portBody privateKeyHex port) = answer at sent ⊢
    rcases answer with ⟨error | _, next⟩
    · simp only at sent ⊢
      split_ifs <;> exact sent
    · exact sent

theorem peers_tryPrimaryPort (clean : '\n' ∉ privateKeyHex.toList) (port : UInt16)
    (attempts : Nat) (session : UapiSession) :
    (runtime.tryPrimaryPort env privateKeyHex port attempts session).2.device.peers =
      session.device.peers := by
  induction attempts generalizing session with
  | zero => rfl
  | succ attempts ih =>
    have tried := @peers_tryListenPort env runtime _ clean port session
    rw [CliTunnelRuntime.tryPrimaryPort]
    generalize runtime.tryListenPort env privateKeyHex port session = outcome at tried ⊢
    rcases outcome with ⟨error | _ | _, next⟩
    · exact tried
    · exact (ih next).trans tried
    · exact tried

theorem peers_tryFallbackPorts (clean : '\n' ∉ privateKeyHex.toList) (primary : UInt16)
    (attempted ports : List UInt16) (session : UapiSession) :
    (runtime.tryFallbackPorts env privateKeyHex primary attempted ports session).2.device.peers =
      session.device.peers := by
  induction ports generalizing attempted session with
  | nil => rfl
  | cons port ports ih =>
    have tried := @peers_tryListenPort env runtime _ clean port session
    rw [CliTunnelRuntime.tryFallbackPorts]
    split_ifs
    · exact ih _ session
    · generalize runtime.tryListenPort env privateKeyHex port session = outcome at tried ⊢
      rcases outcome with ⟨error | _ | _, next⟩
      · exact tried
      · exact (ih _ next).trans tried
      · exact tried

/-- The search for a port leaves the peers of the device alone. -/
theorem peers_selectListenPort (clean : '\n' ∉ privateKeyHex.toList) (configured : UInt16)
    (session : UapiSession) :
    (runtime.selectListenPort env privateKeyHex configured session).2.device.peers =
      session.device.peers := by
  have primary := @peers_tryPrimaryPort env runtime _ clean (runtime.listenPort configured)
    primaryListenPortRetryAttempts session
  unfold CliTunnelRuntime.selectListenPort
  dsimp only
  generalize runtime.tryPrimaryPort env privateKeyHex (runtime.listenPort configured)
    primaryListenPortRetryAttempts session = outcome at primary ⊢
  rcases outcome with ⟨error | _ | _, next⟩
  · exact primary
  · have fallback := @peers_tryFallbackPorts env runtime _ clean (runtime.listenPort configured) []
      (env.availablePorts.take 16) next
    dsimp only
    generalize runtime.tryFallbackPorts env privateKeyHex (runtime.listenPort configured) []
      (env.availablePorts.take 16) next = outcome at fallback ⊢
    rcases outcome with ⟨error | _ | _, last⟩ <;> exact fallback.trans primary
  · exact primary

end ListenPort

theorem newline_notMem_privateKeyHex (codec : env.codec.Lawful) {text hex : String}
    (h : keyB64ToHex env.codec text = .ok hex) : '\n' ∉ hex.toList := by
  obtain ⟨bytes, -, -, rfl⟩ := keyB64ToHex_eq_ok.mp h
  rw [codec.encode_hex, String.toList_ofList]
  intro mem
  exact absurd (hexDigit_of_mem_encodeHex mem) (by decide)

/-! ## The default route -/

section DefaultRoute

variable (env) (peers : List TunnelPeer) (sys : TunnelSystem)

/-- Keeping the default route touches nothing of the runtime but the remembered route. -/
theorem runtime_keepDefaultRoute : ∃ route, (ApplyCall.keepDefaultRoute env peers sys).runtime =
    { sys.runtime with originalDefaultRoute := route } := by
  unfold ApplyCall.keepDefaultRoute
  split_ifs
  · unfold TunnelSystem.captureLinuxOriginalDefaultRoute
    split_ifs
    · exact ⟨_, rfl⟩
    · split
      · exact ⟨_, rfl⟩
      · split_ifs
        · exact ⟨_, rfl⟩
        · exact ⟨_, rfl⟩
  · unfold TunnelSystem.restoreLinuxOriginalDefaultRoute
    split
    · exact ⟨_, rfl⟩
    · split <;> exact ⟨_, rfl⟩

end DefaultRoute

/-! ## The interface -/

/-- The runtime goes on with the device it has, or has started a new one. -/
structure Resumes (env : ApplyEnv) (sys mid : TunnelSystem) : Prop where
  lastFingerprint : mid.runtime.lastFingerprint = sys.runtime.lastFingerprint
  endpointBypassRoutes : mid.runtime.endpointBypassRoutes = sys.runtime.endpointBypassRoutes
  originalDefaultRoute : mid.runtime.originalDefaultRoute = sys.runtime.originalDefaultRoute
  device : (∃ device device', sys.runtime.handle = some device ∧ mid.runtime.handle = some device' ∧
      device'.peers = device.peers ∧ mid.runtime.iface = sys.runtime.iface ∧
      mid.kernel = sys.kernel) ∨
    (sys.runtime.handle = none ∧ mid.runtime.handle.isSome ∧
      env.createDevice mid.runtime.iface = none ∧
      mid.kernel = sys.kernel.dropInterface mid.runtime.iface)

/-- With a device of the same peers and a port the runtime still goes on. -/
theorem Resumes.setDevice {sys mid : TunnelSystem} (h : Resumes env sys mid) {device device' : Device}
    (handle : mid.runtime.handle = some device) (peers : device'.peers = device.peers) :
    Resumes env sys (mid.setDevice device') where
  lastFingerprint := h.lastFingerprint
  endpointBypassRoutes := h.endpointBypassRoutes
  originalDefaultRoute := h.originalDefaultRoute
  device := by
    rcases h.device with ⟨before, after, had, has, same, iface, kernel⟩ |
      ⟨had, -, created, kernel⟩
    · obtain rfl := Option.some.inj (has.symm.trans handle)
      exact Or.inl ⟨before, device', had, rfl, peers.trans same, iface, kernel⟩
    · exact Or.inr ⟨had, rfl, created, kernel⟩

theorem Resumes.setPort {sys mid : TunnelSystem} (h : Resumes env sys mid) (port : UInt16) :
    Resumes env sys (mid.setRuntime fun runtime => { runtime with activeListenPort := some port }) where
  lastFingerprint := h.lastFingerprint
  endpointBypassRoutes := h.endpointBypassRoutes
  originalDefaultRoute := h.originalDefaultRoute
  device := h.device

theorem startOn_cases (env : ApplyEnv) (sys : TunnelSystem) (busy candidates : List String) :
    (∃ error, sys.startOn env busy candidates = (.error error, sys)) ∨
      ∃ iface, sys.startOn env busy candidates = (.ok { peers := ∅ }, sys.start iface) ∧
        env.createDevice iface = none := by
  induction candidates generalizing busy with
  | nil => cases busy <;> exact Or.inl ⟨_, rfl⟩
  | cons candidate candidates ih =>
    rw [TunnelSystem.startOn]
    cases created : env.createDevice candidate with
    | some error =>
      dsimp only
      split_ifs
      · exact ih _
      · exact Or.inl ⟨_, rfl⟩
    | none =>
      dsimp only
      split_ifs
      · exact Or.inr ⟨_, rfl, created⟩
      · exact Or.inl ⟨_, rfl⟩

theorem ensureStarted_cases (env : ApplyEnv) (sys : TunnelSystem) :
    (∃ error, sys.ensureStarted env = (.error error, sys)) ∨
      ∃ device mid, sys.ensureStarted env = (.ok device, mid) ∧
        mid.runtime.handle = some device ∧ Resumes env sys mid := by
  unfold TunnelSystem.ensureStarted
  cases handle : sys.runtime.handle with
  | some device =>
    exact Or.inr ⟨device, sys, rfl, handle, rfl, rfl, rfl,
      Or.inl ⟨device, device, handle, handle, rfl, rfl, rfl⟩⟩
  | none =>
    rcases startOn_cases env sys [] (utunInterfaceCandidates sys.runtime.iface) with
      ⟨error, failed⟩ | ⟨iface, started, created⟩
    · exact Or.inl ⟨error, failed⟩
    · exact Or.inr ⟨_, _, started, rfl, rfl, rfl, rfl, Or.inr ⟨handle, rfl, created, rfl⟩⟩

/-! ## Reconfiguration and update -/

section Update

variable {call : ApplyCall} {peers : List TunnelPeer} {specs : List (String × Route)}

/-- Where `configure` ends: every request and command has succeeded, or it was interrupted. -/
theorem configure_cases (env : ApplyEnv) (call : ApplyCall) (peers : List TunnelPeer)
    (specs : List (String × Route)) (session : UapiSession) (sys : TunnelSystem) :
    (∃ error next, sendAll env session (uapiBodies peers) = (.error error, next) ∧
      call.configure env peers specs session sys =
        (.interrupted error, sys.setDevice next.device)) ∨
    ∃ next : UapiSession, setAll session.device (uapiBodies peers) = .ok next.device ∧
      ∃ mid : TunnelSystem, mid = (sys.setDevice next.device).reconcileLinuxEndpointBypassRoutes env specs ∧
      ((∃ error kernel, applyLocalInterfaceNetwork env mid.runtime.iface call.localAddress
          (routeTargetsForTunnelPeers peers) mid.kernel = (.error error, kernel) ∧
        call.configure env peers specs session sys = (.interrupted error, ⟨mid.runtime, kernel⟩)) ∨
      ∃ kernel, applyLocalInterfaceNetwork env mid.runtime.iface call.localAddress
          (routeTargetsForTunnelPeers peers) mid.kernel = (.ok (), kernel) ∧
        call.configure env peers specs session sys = (.applied, ⟨{ mid.runtime with
          lastFingerprint := some (call.fingerprint mid.runtime peers) }, kernel⟩)) := by
  unfold ApplyCall.configure
  cases sent : sendAll env session (uapiBodies peers) with
  | mk outcome next =>
    cases outcome with
    | error error => exact Or.inl ⟨error, next, rfl, rfl⟩
    | ok _ =>
      refine Or.inr ⟨next, sendAll_ok sent, _, rfl, ?_⟩
      dsimp only
      generalize (sys.setDevice next.device).reconcileLinuxEndpointBypassRoutes env specs = mid
      cases network : applyLocalInterfaceNetwork env mid.runtime.iface call.localAddress
          (routeTargetsForTunnelPeers peers) mid.kernel with
      | mk outcome kernel =>
        cases outcome with
        | error error => exact Or.inl ⟨error, kernel, rfl, rfl⟩
        | ok _ => exact Or.inr ⟨kernel, rfl, rfl⟩

/-- Where `reconfigure` ends: before or after a device was there, or in `configure`. -/
theorem reconfigure_cases (codec : env.codec.Lawful) (call : ApplyCall) (peers : List TunnelPeer)
    (specs : List (String × Route)) (sys : TunnelSystem) :
    (∃ error, call.reconfigure env peers specs sys = (.failed error, sys)) ∨
    (∃ error mid, call.reconfigure env peers specs sys = (.failed error, mid) ∧
      Resumes env sys mid) ∨
    ∃ session mid, call.reconfigure env peers specs sys =
      call.configure env peers specs session mid ∧ Resumes env sys mid ∧
      ∃ hex, keyB64ToHex env.codec call.app.node.privateKey = .ok hex := by
  unfold ApplyCall.reconfigure
  rcases ensureStarted_cases env sys with ⟨error, failed⟩ | ⟨device, mid, started, handle, resumes⟩
  · exact Or.inl ⟨error, by rw [failed]⟩
  · rw [started]
    dsimp only
    cases key : keyB64ToHex env.codec call.app.node.privateKey with
    | error error => exact Or.inr (Or.inl ⟨error, mid, rfl, resumes⟩)
    | ok privateKeyHex =>
      have same := @peers_selectListenPort env mid.runtime _ (newline_notMem_privateKeyHex codec key)
        call.app.node.listenPort ⟨device, 0⟩
      dsimp only
      generalize mid.runtime.selectListenPort env privateKeyHex call.app.node.listenPort ⟨device, 0⟩ =
        selected at same ⊢
      rcases selected with ⟨error | port, session⟩
      · exact Or.inr (Or.inl ⟨error, _, rfl, resumes.setDevice handle same⟩)
      · exact Or.inr (Or.inr ⟨session, _, rfl, resumes.setPort port, privateKeyHex, rfl⟩)

/-- The check at which `update` returns early; the route specs are looked up before it. -/
def FingerprintMatches (call : ApplyCall) (env : ApplyEnv) (sys : TunnelSystem)
    (plan : List PlannedTunnelPeer) : Prop :=
  let peers := plan.map PlannedTunnelPeer.peer
  (call.bypassSpecs env peers (ApplyCall.keepDefaultRoute env peers sys)).isOk ∧
    sys.runtime.lastFingerprint = some (call.fingerprint sys.runtime peers) ∧
    sys.runtime.isRunning ∧
    ¬runtimePeerEndpointsRequireRefresh plan call.announcements
      (ApplyCall.runtimePeers env sys.runtime) (call.ownLocalEndpoints env sys.runtime)

instance (call : ApplyCall) (env : ApplyEnv) (sys : TunnelSystem) (plan : List PlannedTunnelPeer) :
    Decidable (FingerprintMatches call env sys plan) := by
  unfold FingerprintMatches
  infer_instance

/-- Where `update` ends. -/
theorem update_cases (env : ApplyEnv) (call : ApplyCall) (plan : List PlannedTunnelPeer)
    (sys : TunnelSystem) :
    let base := ApplyCall.keepDefaultRoute env (plan.map PlannedTunnelPeer.peer) sys
    (∃ error, call.update env plan sys = (.failed error, base)) ∨
    (call.update env plan sys = (.unchanged, base) ∧ FingerprintMatches call env sys plan) ∨
    ∃ specs, call.bypassSpecs env (plan.map PlannedTunnelPeer.peer) base = .ok specs ∧
      ¬FingerprintMatches call env sys plan ∧
      call.update env plan sys =
        call.reconfigure env (plan.map PlannedTunnelPeer.peer) specs base := by
  intro base
  obtain ⟨route, kept⟩ := runtime_keepDefaultRoute env (plan.map PlannedTunnelPeer.peer) sys
  have runtime : base.runtime = { sys.runtime with originalDefaultRoute := route } := kept
  unfold ApplyCall.update
  dsimp only
  rw [← show base = ApplyCall.keepDefaultRoute env (plan.map PlannedTunnelPeer.peer) sys from rfl]
  cases found : call.bypassSpecs env (plan.map PlannedTunnelPeer.peer) base with
  | error error => exact Or.inl ⟨error, rfl⟩
  | ok specs =>
    have matches_iff : FingerprintMatches call env sys plan ↔
        (base.runtime.lastFingerprint = some (call.fingerprint sys.runtime
          (plan.map PlannedTunnelPeer.peer)) ∧ base.runtime.isRunning ∧
        ¬runtimePeerEndpointsRequireRefresh plan call.announcements
          (ApplyCall.runtimePeers env sys.runtime) (call.ownLocalEndpoints env sys.runtime)) := by
      have ok : (call.bypassSpecs env (plan.map PlannedTunnelPeer.peer) base).isOk := by
        rw [found]
        rfl
      rw [runtime]
      exact and_iff_right ok
    dsimp only
    split_ifs with check
    · exact Or.inr (Or.inl ⟨rfl, matches_iff.mpr check⟩)
    · exact Or.inr (Or.inr ⟨specs, rfl, fun h => check (matches_iff.mp h), rfl⟩)

end Update

end NostrVpn.Cli
