import NostrVpn.Cli.AppliedPeers

/-!
# Kernel routes and the plan

Over every sequence of `apply` and `stop` calls whose `ip` commands succeed: the routes through the tunnel
interface are those of the plan after every apply that returns `Ok`, as long as every route and address
that an apply leaves behind is still wanted, and no failed apply has put the default route back
under a fingerprint that is then trusted.
-/
namespace NostrVpn.Cli

open Rust Rust.Net NostrVpn.Core WireGuard Linux Transition

variable {env : ApplyEnv}

/-! ## Commands that succeed -/

theorem ip_of_succeeds (succeeds : ∀ command, env.ipFails command = false) (kernel : Kernel)
    (command : IpCommand) : env.ip kernel command = (true, kernel.run command) := by
  simp [ApplyEnv.ip, succeeds]

theorem routesInto_applyRoutes (succeeds : ∀ command, env.ipFails command = false) (iface : String)
    (source : Option String) (targets : List String) (kernel : Kernel) :
    ∃ kernel', applyRoutes env iface source targets kernel = (.ok (), kernel') ∧
      kernel'.addresses = kernel.addresses ∧
      ∀ target, kernel'.RoutesInto iface target ↔
        target ∈ targets ∨ kernel.RoutesInto iface target := by
  induction targets generalizing kernel with
  | nil => exact ⟨kernel, rfl, rfl, by simp⟩
  | cons first targets ih =>
    rw [applyRoutes]
    simp only [ip_of_succeeds succeeds]
    obtain ⟨kernel', result, addresses, routes⟩ := ih ((if first = defaultTarget ∨ first = "::/0" then
      kernel.run (.routeDel first) else kernel).run (.routeReplace first { dev := iface, src :=
        (if linuxRouteTargetIsIpv4 first = true then source else none) }))
    refine ⟨kernel', result, ?_, fun target => ?_⟩
    · rw [addresses]
      split_ifs <;> rfl
    · rw [routes, Kernel.routesInto_replace, List.mem_cons]
      by_cases same : target = first
      · simp [same]
      · have kept : Kernel.RoutesInto (if first = defaultTarget ∨ first = "::/0" then
            kernel.run (.routeDel first) else kernel) iface target ↔
              kernel.RoutesInto iface target := by
          split_ifs
          · rw [Kernel.routesInto_del, and_iff_right same]
          · exact Iff.rfl
        simp only [same, if_false, false_or, kept]

theorem applyLocalInterfaceNetwork_spec (succeeds : ∀ command, env.ipFails command = false)
    (iface address : String) (targets : List String) (kernel : Kernel) :
    ∃ kernel', applyLocalInterfaceNetwork env iface address targets kernel = (.ok (), kernel') ∧
      (∀ target, kernel'.RoutesInto iface target ↔
        target ∈ targets ∨ kernel.RoutesInto iface target) ∧
      ∀ other, kernel'.HasAddress iface other ↔ other = address ∨ kernel.HasAddress iface other := by
  obtain ⟨kernel', result, addresses, routes⟩ := routesInto_applyRoutes succeeds iface
    (linuxIpv4RouteSource address) targets ((kernel.run (.addressReplace address iface)).run (.linkUp iface))
  refine ⟨kernel', ?_, routes, fun other => ?_⟩
  · rw [applyLocalInterfaceNetwork]
    simp only [ip_of_succeeds succeeds]
    exact result
  · have before := @Kernel.hasAddress_replace kernel iface address iface other
    rw [and_iff_right rfl] at before
    rw [Kernel.HasAddress, addresses]
    exact before

/-- Reconciling the bypass routes takes their targets, old and new, out of the tunnel. -/
theorem reconcile_spec (succeeds : ∀ command, env.ipFails command = false) (sys : TunnelSystem)
    {specs : List (String × Route)} {iface : String} (outside : ∀ spec ∈ specs, spec.2.dev ≠ iface) :
    (∀ target, (sys.reconcileLinuxEndpointBypassRoutes env specs).kernel.RoutesInto iface target ↔
      sys.kernel.RoutesInto iface target ∧ target ∉ sys.runtime.endpointBypassRoutes ∧
        target ∉ specs.map Prod.fst) ∧
    (sys.reconcileLinuxEndpointBypassRoutes env specs).kernel.addresses = sys.kernel.addresses := by
  have deleted (stale : List String) (kernel : Kernel) :
      (∀ target, (stale.foldl (fun kernel route => (env.ip kernel (.routeDel route)).2)
        kernel).RoutesInto iface target ↔ kernel.RoutesInto iface target ∧ target ∉ stale) ∧
      (stale.foldl (fun kernel route => (env.ip kernel (.routeDel route)).2) kernel).addresses =
        kernel.addresses := by
    induction stale generalizing kernel with
    | nil => simp
    | cons route stale ih =>
      simp only [List.foldl_cons, ip_of_succeeds succeeds]
      simp only [ip_of_succeeds succeeds] at ih
      obtain ⟨routes, addresses⟩ := ih (kernel.run (.routeDel route))
      refine ⟨fun target => ?_, addresses⟩
      rw [routes, Kernel.routesInto_del, List.mem_cons]
      tauto
  have replaced (specs : List (String × Route)) (outside : ∀ spec ∈ specs, spec.2.dev ≠ iface)
      (kernel : Kernel) :
      (∀ target, (specs.foldl (fun kernel spec =>
        (env.ip kernel (.routeReplace spec.1 spec.2)).2) kernel).RoutesInto iface target ↔
          kernel.RoutesInto iface target ∧ target ∉ specs.map Prod.fst) ∧
      (specs.foldl (fun kernel spec =>
        (env.ip kernel (.routeReplace spec.1 spec.2)).2) kernel).addresses = kernel.addresses := by
    induction specs generalizing kernel with
    | nil => simp
    | cons spec specs ih =>
      obtain ⟨here, rest⟩ := List.forall_mem_cons.mp outside
      simp only [List.foldl_cons, ip_of_succeeds succeeds]
      simp only [ip_of_succeeds succeeds] at ih
      obtain ⟨routes, addresses⟩ := ih rest (kernel.run (.routeReplace spec.1 spec.2))
      refine ⟨fun target => ?_, addresses⟩
      rw [routes, Kernel.routesInto_replace, List.map_cons, List.mem_cons]
      by_cases same : target = spec.1 <;> simp [same, here]
  unfold TunnelSystem.reconcileLinuxEndpointBypassRoutes
  dsimp only
  obtain ⟨deletedRoutes, deletedAddresses⟩ := deleted (sys.runtime.endpointBypassRoutes.filter
    fun route => route ∉ specs.map Prod.fst) sys.kernel
  obtain ⟨routes, addresses⟩ := replaced specs outside ((sys.runtime.endpointBypassRoutes.filter
    fun route => route ∉ specs.map Prod.fst).foldl (fun kernel route =>
      (env.ip kernel (.routeDel route)).2) sys.kernel)
  refine ⟨fun target => ?_, addresses.trans deletedAddresses⟩
  rw [routes, deletedRoutes, List.mem_filter]
  simp only [decide_eq_true_eq]
  tauto

/-- A bypass route leaves the tunnel, and was found in the tables or is the remembered one. -/
theorem linuxBypassRouteSpecs_outside {app : AppConfig} {peers : List TunnelPeer} {iface : String}
    {original : Option Route} {specs : List (String × Route)}
    (h : linuxBypassRouteSpecs env app peers iface original = .ok specs) :
    ∀ spec ∈ specs, spec.2.dev ≠ iface ∧
      ((∃ host, env.routeGet host = .ok (some spec.2)) ∨ original = some spec.2) := by
  intro spec mem
  obtain ⟨host, -, eq⟩ := mem_of_mapM_ok h spec mem
  cases got : env.routeGet host with
  | error error => rw [got] at eq; cases eq
  | ok found =>
    rw [got] at eq
    simp only [bind, Except.bind] at eq
    cases first : found.filter fun route => route.dev ≠ iface with
    | some route =>
      rw [first] at eq
      obtain rfl := Except.ok.inj eq
      obtain ⟨rfl, ne⟩ := Option.filter_eq_some_iff.mp first
      exact ⟨by simpa using ne, Or.inl ⟨host, got⟩⟩
    | none =>
      cases second : original.filter fun route => route.dev ≠ iface with
      | none => rw [first, second] at eq; cases eq
      | some route =>
        rw [first, second] at eq
        obtain rfl := Except.ok.inj eq
        obtain ⟨rfl, ne⟩ := Option.filter_eq_some_iff.mp second
        exact ⟨by simpa using ne, Or.inr rfl⟩

/-- Keeping the default route: with a default route in the plan the one outside is remembered,
otherwise a remembered one is put back. -/
theorem keepDefaultRoute_cases (succeeds : ∀ command, env.ipFails command = false)
    (peers : List TunnelPeer) (sys : TunnelSystem) :
    (defaultTarget ∈ routeTargetsForTunnelPeers peers ∧
      (ApplyCall.keepDefaultRoute env peers sys).kernel = sys.kernel ∧
      ∃ kept, (ApplyCall.keepDefaultRoute env peers sys).runtime =
          { sys.runtime with originalDefaultRoute := kept } ∧
        ∀ route ∈ kept, route ∈ sys.runtime.originalDefaultRoute ∨
          (route ∈ sys.kernel.routes.lookup defaultTarget ∧ route.dev ≠ sys.runtime.iface)) ∨
    (defaultTarget ∉ routeTargetsForTunnelPeers peers ∧
      (ApplyCall.keepDefaultRoute env peers sys).runtime =
        { sys.runtime with originalDefaultRoute := none } ∧
      (ApplyCall.keepDefaultRoute env peers sys).kernel = match sys.runtime.originalDefaultRoute with
        | none => sys.kernel
        | some route => sys.kernel.run (.routeReplace defaultTarget route)) := by
  unfold ApplyCall.keepDefaultRoute
  split_ifs with listed
  · refine Or.inl ⟨listed, ?_⟩
    unfold TunnelSystem.captureLinuxOriginalDefaultRoute
    split_ifs
    · exact ⟨rfl, _, rfl, fun route mem => Or.inl mem⟩
    · cases found : sys.kernel.routes.lookup defaultTarget with
      | none => exact ⟨rfl, _, rfl, fun route mem => Or.inl mem⟩
      | some route =>
        dsimp only
        split_ifs with own
        · exact ⟨rfl, _, rfl, fun route mem => Or.inl mem⟩
        · refine ⟨rfl, some route, rfl, fun other mem => ?_⟩
          obtain rfl := Option.some.inj mem
          exact Or.inr ⟨rfl, own⟩
  · refine Or.inr ⟨listed, ?_⟩
    unfold TunnelSystem.restoreLinuxOriginalDefaultRoute
    cases remembered : sys.runtime.originalDefaultRoute with
    | none =>
      refine ⟨?_, rfl⟩
      dsimp only
      rw [← remembered]
    | some route =>
      dsimp only
      rw [ip_of_succeeds succeeds]
      exact ⟨rfl, rfl⟩

/-! ## What the fingerprint says about the kernel -/

/-- The fingerprint is of the routes and the address of the tunnel interface; the default route is
excepted when it has been lost. -/
def Routed (sys : TunnelSystem) (lost : Bool) (fingerprint : String) : Prop :=
  ∃ privateKey port address peers, peers ≠ [] ∧ (∀ peer ∈ peers, Entry peer) ∧
    (∀ peer ∈ peers, Readable peer) ∧ '|' ∉ privateKey.toList ∧ '|' ∉ address.toList ∧
    fingerprint = tunnelRuntimeFingerprint (tunnelFingerprint sys.runtime.iface privateKey port
      address peers) (routeTargetsForTunnelPeers peers) ∧
    (∀ target, sys.kernel.RoutesInto sys.runtime.iface target →
      target ∈ routeTargetsForTunnelPeers peers) ∧
    (∀ target ∈ routeTargetsForTunnelPeers peers,
      sys.kernel.RoutesInto sys.runtime.iface target ∨ (lost ∧ target = defaultTarget)) ∧
    ∀ other, sys.kernel.HasAddress sys.runtime.iface other ↔ other = address

structure KernelSound (sys : TunnelSystem) (lost : Bool) : Prop where
  started : sys.runtime.lastFingerprint.isSome → sys.runtime.handle.isSome
  idle : sys.runtime.handle = none → ∀ route ∈ sys.runtime.originalDefaultRoute,
    route ∈ sys.kernel.routes.lookup defaultTarget
  outside : sys.runtime.handle.isSome → ∀ route ∈ sys.runtime.originalDefaultRoute,
    route.dev ≠ sys.runtime.iface
  routed : ∀ fingerprint ∈ sys.runtime.lastFingerprint, Routed sys lost fingerprint

/-- The default route that this update puts back. -/
def putsBack (sys : TunnelSystem) (peers : List TunnelPeer) : Bool :=
  sys.runtime.originalDefaultRoute.isSome && defaultTarget ∉ routeTargetsForTunnelPeers peers

theorem Routed.mono {sys : TunnelSystem} {lost lost' : Bool} {fingerprint : String}
    (h : Routed sys lost fingerprint) (le : lost → lost') : Routed sys lost' fingerprint := by
  obtain ⟨privateKey, port, address, peers, ne, entries, readable, keyClean, addressClean, eq, into,
    outOf, addresses⟩ := h
  exact ⟨privateKey, port, address, peers, ne, entries, readable, keyClean, addressClean, eq, into,
    fun target mem => (outOf target mem).imp_right fun h => ⟨le h.1, h.2⟩, addresses⟩

/-- Keeping the default route loses it at most when it is put back. -/
theorem KernelSound.keepDefaultRoute (succeeds : ∀ command, env.ipFails command = false)
    {sys : TunnelSystem} {lost : Bool} (sound : KernelSound sys lost) (peers : List TunnelPeer) :
    KernelSound (ApplyCall.keepDefaultRoute env peers sys) (lost || putsBack sys peers) := by
  rcases keepDefaultRoute_cases succeeds peers sys with
    ⟨listed, kernel, kept, runtime, origin⟩ | ⟨unlisted, runtime, kernel⟩
  · have same : ∀ fingerprint, Routed sys lost fingerprint →
        Routed (ApplyCall.keepDefaultRoute env peers sys) (lost || putsBack sys peers) fingerprint := by
      intro fingerprint routed
      have weaker : Routed sys (lost || putsBack sys peers) fingerprint :=
        routed.mono (by simp +contextual)
      unfold Routed at weaker ⊢
      rw [kernel, runtime]
      exact weaker
    refine ⟨?_, ?_, ?_, ?_⟩
    · rw [runtime]
      exact sound.started
    · rw [runtime, kernel]
      intro none route mem
      rcases origin route mem with old | ⟨new, -⟩
      · exact sound.idle none route old
      · exact new
    · rw [runtime]
      intro some route mem
      rcases origin route mem with old | ⟨-, ne⟩
      · exact sound.outside some route old
      · exact ne
    · rw [runtime]
      exact fun fingerprint mem => same fingerprint (sound.routed fingerprint mem)
  · refine ⟨?_, ?_, ?_, ?_⟩
    · rw [runtime]
      exact sound.started
    · rw [runtime]
      exact fun _ route mem => nomatch mem
    · rw [runtime]
      exact fun _ route mem => nomatch mem
    · intro fingerprint mem
      rw [runtime] at mem
      have routed := sound.routed fingerprint mem
      cases remembered : sys.runtime.originalDefaultRoute with
      | none =>
        rw [remembered] at kernel
        have weaker : Routed sys (lost || putsBack sys peers) fingerprint :=
          routed.mono (by simp +contextual)
        unfold Routed at weaker ⊢
        rw [kernel, runtime]
        exact weaker
      | some route =>
        rw [remembered] at kernel
        have isLost : (lost || putsBack sys peers) = true := by simp [putsBack, remembered, unlisted]
        have running := sound.started (by rw [Option.mem_def.mp mem]; rfl)
        have ne : route.dev ≠ sys.runtime.iface := sound.outside running route remembered
        obtain ⟨privateKey, port, address, old, neOld, entries, readable, keyClean, addressClean, eq,
          into, outOf, addresses⟩ := routed
        refine ⟨privateKey, port, address, old, neOld, entries, readable, keyClean, addressClean, ?_,
          ?_, ?_, ?_⟩
        · rw [runtime]
          exact eq
        · rw [runtime, kernel]
          intro target
          rw [Kernel.routesInto_replace]
          split_ifs with same
          · exact fun back => absurd back ne
          · exact into target
        · rw [runtime, kernel, isLost]
          intro target mem
          rw [Kernel.routesInto_replace]
          split_ifs with same
          · exact Or.inr ⟨rfl, same⟩
          · exact (outOf target mem).imp_right fun h => ⟨rfl, h.2⟩
        · rw [runtime, kernel]
          exact addresses

/-! ## The head of a fingerprint -/

theorem split_eq_singleton {sep : Char} {s : String} (h : (split sep s).length = 1) :
    split sep s = [s] := by
  obtain ⟨piece, eq⟩ := List.length_eq_one_iff.mp h
  have joined := join_split sep s
  rw [eq] at joined
  rw [eq, show piece = s from joined]

/-- A key and an address without bars are read back from the head. -/
theorem address_of_fingerprintHead {iface privateKey privateKey' address address' : String}
    {port port' : UInt16} (keyClean : '|' ∉ privateKey.toList) (addressClean : '|' ∉ address.toList)
    (eq : fingerprintHead iface privateKey port address =
      fingerprintHead iface privateKey' port' address') : address = address' := by
  have text (privateKey : String) (port : UInt16) (address : String) :
      fingerprintHead iface privateKey port address = (iface ++ "|") ++
        (privateKey ++ "|" ++ (fmtNat port.toNat ++ "|" ++ address)) := by
    refine String.toList_inj.mp ?_
    simp [fingerprintHead, toString]
  have bar (head tail : String) : split '|' (head ++ "|" ++ tail) = split '|' head ++ split '|' tail :=
    split_append_append head tail
  have portClean : '|' ∉ (fmtNat port.toNat).toList := by
    intro mem
    have digit := toDigit_of_mem_fmtRadix (by omega : 2 ≤ 10) (by omega : 10 ≤ 16)
      (by simpa [fmtNat] using mem)
    exact absurd digit (by decide)
  rw [text, text, String.append_right_inj] at eq
  have pieces := congrArg (split '|') eq
  rw [bar, bar, bar, bar, split_of_notMem keyClean, split_of_notMem portClean,
    split_of_notMem addressClean] at pieces
  have some_piece (s : String) : 1 ≤ (split '|' s).length := by
    rw [Nat.one_le_iff_ne_zero, Ne, List.length_eq_zero_iff, split, List.map_eq_nil_iff]
    exact splitChars_ne_nil _
  have lengths := congrArg List.length pieces
  simp only [List.length_append, List.length_singleton] at lengths
  have key' := some_piece privateKey'
  have port'' := some_piece (fmtNat port'.toNat)
  have last := some_piece address'
  rw [split_eq_singleton (by omega : (split '|' privateKey').length = 1),
    split_eq_singleton (by omega : (split '|' (fmtNat port'.toNat)).length = 1),
    split_eq_singleton (by omega : (split '|' address').length = 1)] at pieces
  simpa using (List.cons.inj (List.cons.inj pieces).2).2

/-! ## Runs -/

/-- The system, and whether a failed apply has put the default route back since the last one that
completed. -/
structure RouteHistory where
  system : TunnelSystem
  defaultLost : Bool := false

namespace RouteHistory

def new (iface : String) (kernel : Kernel) : RouteHistory where
  system := ⟨{ iface }, kernel⟩

def step (history : RouteHistory) : TunnelEvent → RouteHistory
  | .stop env => ⟨history.system.stop env, false⟩
  | .apply env call =>
    let outcome := call.apply env history.system
    ⟨outcome.system, match outcome.returned with
      | .failed _ | .interrupted _ => history.defaultLost ||
        match (call.plan env history.system.runtime).1 with
        | .ok plan => putsBack history.system (plan.map PlannedTunnelPeer.peer)
        | .error _ => false
      | .unchanged => history.defaultLost
      | .stopped | .applied => false⟩

/-- Every `ip` command succeeds, so the address it was given is one; a new interface has a name of its
own; and base64 has no bars. -/
def Lawful (history : RouteHistory) : TunnelEvent → Prop
  | .stop env => ∀ command, env.ipFails command = false
  | .apply env call => env.codec.Lawful ∧
    (∀ text bytes, env.codec.decodeBase64 text = .ok bytes → '|' ∉ text.toList) ∧
    (∀ command, env.ipFails command = false) ∧ '|' ∉ call.localAddress.toList ∧
    (history.system.runtime.handle = none → ∀ iface, env.createDevice iface = none →
      (∀ target, ¬history.system.kernel.RoutesInto iface target) ∧
      ∀ host route, env.routeGet host = .ok (some route) → route.dev ≠ iface)

end RouteHistory

/-- Whatever the tunnel interface has from before is wanted, or is taken away on the way: the
remembered default route is put back, and bypass routes leave the tunnel. -/
def NothingStale (call : ApplyCall) (env : ApplyEnv) (sys : TunnelSystem) (peers : List TunnelPeer) :
    Prop :=
  (∀ target, sys.kernel.RoutesInto sys.runtime.iface target →
    target ∈ routeTargetsForTunnelPeers peers ∨
    (target = defaultTarget ∧ sys.runtime.originalDefaultRoute.isSome) ∨
    target ∈ sys.runtime.endpointBypassRoutes ∨
    ∃ specs, call.bypassSpecs env peers (ApplyCall.keepDefaultRoute env peers sys) = .ok specs ∧
      target ∈ specs.map Prod.fst) ∧
  ∀ address, sys.kernel.HasAddress sys.runtime.iface address → address = call.localAddress

/-- The tunnel interface has exactly the routes of the peers and the address. -/
def KernelFollows (sys : TunnelSystem) (peers : List TunnelPeer) (address : String) : Prop :=
  (∀ target, sys.kernel.RoutesInto sys.runtime.iface target ↔
    target ∈ routeTargetsForTunnelPeers peers) ∧
  ∀ other, sys.kernel.HasAddress sys.runtime.iface other ↔ other = address

namespace RouteHistory

/-- An apply that returns `Ok` finds nothing stale, and trusts the fingerprint of a plan with a default
route only if that route has not been lost. -/
def Condition (history : RouteHistory) : TunnelEvent → Prop
  | .stop _ => True
  | .apply env call => ∀ plan, (call.plan env history.system.runtime).1 = .ok plan → plan ≠ [] →
    (call.apply env history.system).returned.result = .ok () →
      (FingerprintMatches call env history.system plan → history.defaultLost →
        defaultTarget ∉ routeTargetsForTunnelPeers (plan.map PlannedTunnelPeer.peer)) ∧
      (¬FingerprintMatches call env history.system plan → history.system.runtime.handle.isSome →
        NothingStale call env history.system (plan.map PlannedTunnelPeer.peer))

/-- After an apply of a nonempty plan with `Ok` the kernel follows the plan. -/
def RoutesPlan (history : RouteHistory) : TunnelEvent → Prop
  | .stop _ => True
  | .apply env call => ∀ plan, (call.plan env history.system.runtime).1 = .ok plan → plan ≠ [] →
    (call.apply env history.system).returned.result = .ok () →
      KernelFollows (call.apply env history.system).system (plan.map PlannedTunnelPeer.peer)
        call.localAddress

end RouteHistory

/-! ## One apply -/

section Apply

variable {call : ApplyCall} {sys base mid : TunnelSystem} {peers : List TunnelPeer} {lost : Bool}

/-- The name of a new interface is that of no route, nor of the remembered one. -/
theorem keepDefaultRoute_unrouted (succeeds : ∀ command, env.ipFails command = false)
    (sound : KernelSound sys lost) (idle : sys.runtime.handle = none) {iface : String}
    (unused : ∀ target, ¬sys.kernel.RoutesInto iface target) (peers : List TunnelPeer) :
    (∀ target, ¬(ApplyCall.keepDefaultRoute env peers sys).kernel.RoutesInto iface target) ∧
      ∀ route ∈ (ApplyCall.keepDefaultRoute env peers sys).runtime.originalDefaultRoute,
        route.dev ≠ iface := by
  have remembered : ∀ route ∈ sys.kernel.routes.lookup defaultTarget, route.dev ≠ iface :=
    fun route found dev => unused defaultTarget ⟨route, found, dev⟩
  rcases keepDefaultRoute_cases succeeds peers sys with
    ⟨-, kernel, kept, runtime, origin⟩ | ⟨-, runtime, kernel⟩
  · refine ⟨kernel ▸ unused, ?_⟩
    rw [runtime]
    intro route mem
    rcases origin route mem with old | ⟨new, -⟩
    · exact remembered route (sound.idle idle route old)
    · exact remembered route new
  · refine ⟨?_, by rw [runtime]; exact fun route mem => nomatch mem⟩
    rw [kernel]
    cases found : sys.runtime.originalDefaultRoute with
    | none => exact unused
    | some route =>
      intro target
      rw [Kernel.routesInto_replace]
      split_ifs
      · exact remembered route (sound.idle idle route found)
      · exact unused target

theorem KernelSound.resumes (sound : KernelSound base lost) (resumes : Resumes env base mid)
    (outside : base.runtime.handle = none → env.createDevice mid.runtime.iface = none →
      ∀ route ∈ base.runtime.originalDefaultRoute, route.dev ≠ mid.runtime.iface) :
    KernelSound mid lost := by
  rcases resumes.device with ⟨device, device', had, has, -, iface, kernel⟩ | ⟨had, has, created, kernel⟩
  · refine ⟨fun _ => by simp [has], fun none => ?_, fun _ => ?_, ?_⟩
    · rw [has] at none
      cases none
    · rw [resumes.originalDefaultRoute, iface]
      exact sound.outside (by simp [had])
    · rw [resumes.lastFingerprint]
      intro fingerprint mem
      have routed := sound.routed fingerprint mem
      unfold Routed at routed ⊢
      rw [iface, kernel]
      exact routed
  · refine ⟨fun _ => has, fun none => ?_, fun _ => ?_, ?_⟩
    · rw [none] at has
      cases has
    · rw [resumes.originalDefaultRoute]
      exact outside had created
    · rw [resumes.lastFingerprint]
      intro fingerprint mem
      have running := sound.started (by rw [Option.mem_def.mp mem]; rfl)
      rw [had] at running
      cases running

/-- What an apply leaves behind, for the kernel. -/
structure UpdateRouted (before after : Bool) (peers : List TunnelPeer) (address : String)
    (update : ApplyReturn × TunnelSystem) : Prop where
  sound : KernelSound update.2 (match update.1 with
    | .failed _ | .interrupted _ => after
    | .unchanged => before
    | .stopped | .applied => false)
  follows : update.1.result = .ok () → KernelFollows update.2 peers address

theorem configure_routed {specs : List (String × Route)} {session : UapiSession} {before : Bool}
    (succeeds : ∀ command, env.ipFails command = false) (ne : peers ≠ [])
    (entries : ∀ peer ∈ peers, Entry peer) (running : mid.runtime.handle.isSome)
    (readable : ∀ device', setAll session.device (uapiBodies peers) = .ok device' →
      ∀ peer ∈ peers, Readable peer)
    (keyClean : '|' ∉ call.app.node.privateKey.toList) (addressClean : '|' ∉ call.localAddress.toList)
    (sound : KernelSound mid lost) (outside : ∀ spec ∈ specs, spec.2.dev ≠ mid.runtime.iface)
    (clean : (call.configure env peers specs session mid).1.result = .ok () →
      (∀ target, mid.kernel.RoutesInto mid.runtime.iface target →
        target ∈ routeTargetsForTunnelPeers peers ∨ target ∈ mid.runtime.endpointBypassRoutes ∨
        target ∈ specs.map Prod.fst) ∧
      ∀ other, mid.kernel.HasAddress mid.runtime.iface other → other = call.localAddress) :
    UpdateRouted before lost peers call.localAddress (call.configure env peers specs session mid) := by
  rcases configure_cases env call peers specs session mid with
    ⟨error, next, -, result⟩ | ⟨next, sent, reconciled, eq, failed | ⟨kernel, network, result⟩⟩
  · rw [result]
    exact ⟨⟨fun _ => rfl, fun none => (nomatch none), fun _ => sound.outside running, sound.routed⟩,
      fun ok => nomatch ok⟩
  · obtain ⟨error, kernel, network, -⟩ := failed
    obtain ⟨kernel', works, -⟩ := applyLocalInterfaceNetwork_spec succeeds
      reconciled.runtime.iface call.localAddress (routeTargetsForTunnelPeers peers) reconciled.kernel
    rw [works] at network
    cases network
  · obtain ⟨wanted, addressWanted⟩ := clean (by rw [result]; rfl)
    obtain ⟨kernel', works, routes, addresses⟩ := applyLocalInterfaceNetwork_spec succeeds
      reconciled.runtime.iface call.localAddress (routeTargetsForTunnelPeers peers) reconciled.kernel
    rw [works] at network
    obtain rfl : kernel' = kernel := (Prod.mk.inj network).2
    have iface : reconciled.runtime.iface = mid.runtime.iface := by rw [eq]; rfl
    have original : reconciled.runtime.originalDefaultRoute = mid.runtime.originalDefaultRoute := by
      rw [eq]; rfl
    have handle : reconciled.runtime.handle.isSome := by rw [eq]; rfl
    obtain ⟨takenOut, sameAddresses⟩ := reconcile_spec succeeds (mid.setDevice next.device) outside
    rw [← eq] at takenOut sameAddresses
    have follows : KernelFollows ⟨{ reconciled.runtime with
        lastFingerprint := some (call.fingerprint reconciled.runtime peers) }, kernel'⟩ peers
          call.localAddress := by
      refine ⟨fun target => ?_, fun other => ?_⟩
      · rw [routes, or_iff_left_iff_imp, iface]
        intro before
        obtain ⟨into, notBypass, notSpec⟩ := (takenOut target).mp before
        rcases wanted target into with listed | bypass | spec
        · exact listed
        · exact absurd bypass notBypass
        · exact absurd spec notSpec
      · rw [addresses, or_iff_left_iff_imp, iface, Kernel.HasAddress, sameAddresses]
        exact addressWanted other
    rw [result]
    refine ⟨⟨fun _ => handle, fun none => ?_, fun _ => ?_, ?_⟩, fun _ => follows⟩
    · dsimp only at none
      rw [none] at handle
      cases handle
    · rw [original, iface]
      exact sound.outside running
    · intro fingerprint mem
      obtain rfl := Option.some.inj mem
      exact ⟨call.app.node.privateKey, _, call.localAddress, peers, ne, entries,
        readable next.device sent, keyClean, addressClean, rfl, fun target => (follows.1 target).mp,
        fun target listed => Or.inl ((follows.1 target).mpr listed), follows.2⟩

/-- With a fingerprint that the plan reproduces only the default route of the plan can be lost. -/
theorem Routed.restrict {lost' : Bool} {runtime : CliTunnelRuntime}
    (h : Routed base lost' (call.fingerprint runtime peers)) (ne : peers ≠ [])
    (entries : ∀ peer ∈ peers, Entry peer)
    (kept : lost' → defaultTarget ∈ routeTargetsForTunnelPeers peers → lost) :
    Routed base lost (call.fingerprint runtime peers) := by
  obtain ⟨privateKey, port, address, old, neOld, entriesOld, readable, keyClean, addressClean, eq, into,
    outOf, addresses⟩ := h
  have heads := eq
  rw [ApplyCall.fingerprint, tunnelFingerprint_eq, tunnelFingerprint_eq] at heads
  obtain ⟨-, same⟩ := peers_of_fingerprint_eq neOld ne entriesOld entries readable heads.symm
  refine ⟨privateKey, port, address, old, neOld, entriesOld, readable, keyClean, addressClean, eq, into,
    fun target listed => ?_, addresses⟩
  rcases outOf target listed with routed | ⟨isLost, rfl⟩
  · exact Or.inl routed
  · refine Or.inr ⟨kept isLost ?_, rfl⟩
    obtain ⟨peer, mem, ip⟩ := mem_routeTargets.mp listed
    exact mem_routeTargets.mpr ⟨peer, (same peer).mp mem, ip⟩

/-- A fingerprint that the plan reproduces says that the kernel has the plan's routes. -/
theorem Routed.follows {runtime : CliTunnelRuntime}
    (h : Routed base false (call.fingerprint runtime peers)) (iface : runtime.iface = base.runtime.iface)
    (ne : peers ≠ []) (entries : ∀ peer ∈ peers, Entry peer) :
    KernelFollows base peers call.localAddress := by
  obtain ⟨privateKey, port, address, old, neOld, entriesOld, readable, keyClean, addressClean, eq, into,
    outOf, addresses⟩ := h
  rw [ApplyCall.fingerprint, iface, tunnelFingerprint_eq, tunnelFingerprint_eq] at eq
  obtain ⟨head, same⟩ := peers_of_fingerprint_eq neOld ne entriesOld entries readable eq.symm
  have targets (target : String) : target ∈ routeTargetsForTunnelPeers old ↔
      target ∈ routeTargetsForTunnelPeers peers := by
    simp only [mem_routeTargets, same]
  refine ⟨fun target => ⟨fun routed => (targets target).mp (into target routed), fun listed => ?_⟩, ?_⟩
  · simpa using outOf target ((targets target).mpr listed)
  · rw [← address_of_fingerprintHead keyClean addressClean head]
    exact addresses

/-- Keeping the default route takes nothing out of the tunnel but the default route. -/
theorem routesInto_keepDefaultRoute (succeeds : ∀ command, env.ipFails command = false)
    (outside : ∀ route ∈ sys.runtime.originalDefaultRoute, route.dev ≠ sys.runtime.iface)
    {target : String}
    (h : (ApplyCall.keepDefaultRoute env peers sys).kernel.RoutesInto sys.runtime.iface target) :
    sys.kernel.RoutesInto sys.runtime.iface target ∧
      (sys.runtime.originalDefaultRoute.isSome → target = defaultTarget →
        target ∈ routeTargetsForTunnelPeers peers) := by
  rcases keepDefaultRoute_cases succeeds peers sys with
    ⟨listed, kernel, -⟩ | ⟨unlisted, runtime, kernel⟩
  · rw [kernel] at h
    exact ⟨h, fun _ same => same ▸ listed⟩
  · rw [kernel] at h
    cases remembered : sys.runtime.originalDefaultRoute with
    | none =>
      rw [remembered] at h
      exact ⟨h, fun some => nomatch some⟩
    | some route =>
      rw [remembered] at h
      dsimp only at h
      rw [Kernel.routesInto_replace] at h
      split_ifs at h with same
      · exact absurd h (outside route remembered)
      · exact ⟨h, fun _ eq => absurd eq same⟩

theorem addresses_keepDefaultRoute (succeeds : ∀ command, env.ipFails command = false) :
    (ApplyCall.keepDefaultRoute env peers sys).kernel.addresses = sys.kernel.addresses := by
  rcases keepDefaultRoute_cases succeeds peers sys with ⟨-, kernel, -⟩ | ⟨-, -, kernel⟩
  · rw [kernel]
  · rw [kernel]
    cases sys.runtime.originalDefaultRoute <;> rfl

theorem update_routed {plan : List PlannedTunnelPeer} {history : RouteHistory}
    (lawful : history.Lawful (.apply env call))
    (planned : (call.plan env history.system.runtime).1 = .ok plan) (ne : plan ≠ [])
    (sound : KernelSound history.system history.defaultLost)
    (condition : history.Condition (.apply env call)) :
    UpdateRouted history.defaultLost
      (history.defaultLost || putsBack history.system (plan.map PlannedTunnelPeer.peer))
      (plan.map PlannedTunnelPeer.peer) call.localAddress (call.update env plan history.system) := by
  obtain ⟨codec, alphabet, succeeds, addressClean, newName⟩ := lawful
  have condition := condition plan planned ne
  rw [(apply_of_plan planned ne).1] at condition
  have ne : plan.map PlannedTunnelPeer.peer ≠ [] := by simpa using ne
  have codec' : (call.context env history.system.runtime).codec.Lawful := codec
  have entries := entry_of_planned codec' planned
  have base := sound.keepDefaultRoute succeeds (plan.map PlannedTunnelPeer.peer)
  obtain ⟨route, kept⟩ := runtime_keepDefaultRoute env (plan.map PlannedTunnelPeer.peer) history.system
  rcases update_cases env call plan history.system with
    ⟨error, result⟩ | ⟨result, check⟩ | ⟨specs, found, differs, result⟩
  · rw [result]
    exact ⟨base, fun ok => nomatch ok⟩
  · rw [result] at condition ⊢
    have ⟨_, last, running, _⟩ := check
    have wanted := (condition rfl).1 check
    have routed := base.routed _ (by rw [kept]; exact last)
    refine ⟨⟨base.started, base.idle, base.outside, fun fingerprint mem => ?_⟩, fun _ => ?_⟩
    · rw [kept] at mem
      obtain rfl := Option.some.inj (last.symm.trans mem)
      refine routed.restrict ne entries fun isLost listed => ?_
      simpa [putsBack, listed] using isLost
    · refine (routed.restrict ne entries fun isLost listed => ?_).follows (by rw [kept]) ne entries
      have before : history.defaultLost = true := by simpa [putsBack, listed] using isLost
      exact absurd listed (wanted before)
  · rw [result] at condition ⊢
    rcases reconfigure_cases codec call (plan.map PlannedTunnelPeer.peer) specs _ with
      ⟨error, failed⟩ | ⟨error, mid, failed, resumes⟩ |
      ⟨session, mid, configured, resumes, hex, key⟩
    · rw [failed]
      exact ⟨base, fun ok => nomatch ok⟩
    · rw [failed]
      refine ⟨base.resumes resumes fun idle created => ?_, fun ok => nomatch ok⟩
      rw [kept] at idle
      exact (keepDefaultRoute_unrouted succeeds sound idle (newName idle _ created).1 _).2
    · rw [configured] at condition ⊢
      have unrouted (idle : (ApplyCall.keepDefaultRoute env (plan.map PlannedTunnelPeer.peer)
          history.system).runtime.handle = none) (created : env.createDevice mid.runtime.iface = none) :=
        keepDefaultRoute_unrouted succeeds sound (by rw [kept] at idle; exact idle)
          (newName (by rw [kept] at idle; exact idle) _ created).1 (plan.map PlannedTunnelPeer.peer)
      obtain ⟨bytes, decoded, -, -⟩ := keyB64ToHex_eq_ok.mp key
      refine configure_routed succeeds ne entries ?_ ?_ (alphabet _ _ decoded) addressClean
        (base.resumes resumes fun idle created => (unrouted idle created).2) ?_ fun ok => ?_
      · rcases resumes.device with ⟨device, device', -, has, -⟩ | ⟨-, has, -⟩
        · simp [has]
        · exact has
      · exact fun device' sent => ((setAll_uapiBodies (shaped_plan codec' planned) _ _).mp sent).1
      · intro spec mem
        have origin : spec.2.dev ≠ (ApplyCall.keepDefaultRoute env (plan.map PlannedTunnelPeer.peer)
            history.system).runtime.iface ∧ ((∃ host, env.routeGet host = .ok (some spec.2)) ∨
              (ApplyCall.keepDefaultRoute env (plan.map PlannedTunnelPeer.peer)
                history.system).runtime.originalDefaultRoute = some spec.2) := by
          unfold ApplyCall.bypassSpecs at found
          split_ifs at found
          · exact linuxBypassRouteSpecs_outside found spec mem
          · obtain rfl := Except.ok.inj found
            cases mem
        rcases resumes.device with ⟨device, device', -, -, -, iface, -⟩ | ⟨idle, -, created, -⟩
        · rw [iface]
          exact origin.1
        · rcases origin.2 with ⟨host, got⟩ | remembered
          · rw [kept] at idle
            exact (newName idle _ created).2 host spec.2 got
          · exact (unrouted idle created).2 spec.2 remembered
      · rcases resumes.device with ⟨device, device', had, -, -, iface, kernel⟩ | ⟨-, -, -, kernel⟩
        · have running : history.system.runtime.handle.isSome := by
            rw [kept] at had
            exact Option.isSome_iff_exists.mpr ⟨device, had⟩
          obtain ⟨wanted, addressWanted⟩ := (condition ok).2 differs running
          rw [resumes.endpointBypassRoutes, iface, kernel, kept]
          refine ⟨fun target routed => ?_, fun other has => ?_⟩
          · obtain ⟨into, default⟩ := routesInto_keepDefaultRoute succeeds (sound.outside running) routed
            rcases wanted target into with listed | ⟨same, some⟩ | bypass | ⟨specs', found', mem⟩
            · exact Or.inl listed
            · exact Or.inl (default some same)
            · exact Or.inr (Or.inl bypass)
            · obtain rfl := Except.ok.inj (found.symm.trans found')
              exact Or.inr (Or.inr mem)
          · rw [Kernel.HasAddress, addresses_keepDefaultRoute succeeds] at has
            exact addressWanted other has
        · rw [kernel]
          refine ⟨fun target routed => ?_, fun other has => ?_⟩
          · exact absurd rfl (Kernel.routesInto_dropInterface _ |>.mp routed).1
          · exact absurd rfl (Kernel.hasAddress_dropInterface _ _ |>.mp has).1

theorem kernelSound_stop (succeeds : ∀ command, env.ipFails command = false) (sys : TunnelSystem)
    (lost : Bool) : KernelSound (sys.stop env) lost := by
  have none : (sys.stop env).runtime.originalDefaultRoute = none := by
    unfold TunnelSystem.stop TunnelSystem.restoreLinuxOriginalDefaultRoute
    dsimp only
    cases remembered : (sys.reconcileLinuxEndpointBypassRoutes env []).runtime.originalDefaultRoute with
    | none => exact remembered
    | some route =>
      dsimp only
      rw [ip_of_succeeds succeeds]
  refine ⟨fun last => (nomatch last), fun _ => ?_, fun _ => ?_, fun _ mem => nomatch mem⟩
  · rw [none]
    exact fun route mem => nomatch mem
  · rw [none]
    exact fun route mem => nomatch mem

end Apply

/-! ## Runs -/

namespace RouteHistory

theorem step_routed {history : RouteHistory} {event : TunnelEvent}
    (sound : KernelSound history.system history.defaultLost) (lawful : history.Lawful event)
    (condition : history.Condition event) :
    KernelSound (history.step event).system (history.step event).defaultLost ∧
      history.RoutesPlan event := by
  cases event with
  | stop env => exact ⟨kernelSound_stop lawful _ _, trivial⟩
  | apply env call =>
    cases planned : (call.plan env history.system.runtime).1 with
    | error error =>
      obtain ⟨returned, system⟩ := apply_of_error planned
      refine ⟨?_, fun plan ok => ?_⟩
      · simp only [step, returned, system, planned, Bool.or_false]
        exact sound
      · rw [planned] at ok
        cases ok
    | ok plan =>
      by_cases ne : plan = []
      · subst ne
        obtain ⟨returned, system⟩ := apply_of_nil planned
        refine ⟨?_, fun plan ok ne => ?_⟩
        · simp only [step, returned, system]
          exact kernelSound_stop lawful.2.2.1 _ _
        · rw [planned] at ok
          exact absurd (Except.ok.inj ok).symm ne
      · have update := update_routed lawful planned ne sound condition
        obtain ⟨returned, system⟩ := apply_of_plan planned ne
        refine ⟨?_, fun plan ok _ result => ?_⟩
        · simp only [step, returned, system, planned]
          exact update.sound
        · obtain rfl := Except.ok.inj (planned.symm.trans ok)
          rw [returned] at result
          rw [system]
          exact update.follows result

/-- Along every run in which no apply leaves a stale route or address behind, or trusts a fingerprint
whose default route was lost, the kernel follows the plan after every apply that returns `Ok`. -/
theorem routesPlan_along (iface : String) (kernel : Kernel) {events : List TunnelEvent}
    (lawful : Along step Lawful (new iface kernel) events)
    (condition : Along step Condition (new iface kernel) events) :
    Along step RoutesPlan (new iface kernel) events := by
  have initial : KernelSound (new iface kernel).system (new iface kernel).defaultLost :=
    ⟨fun last => (nomatch last), fun _ _ mem => (nomatch mem), fun some => (nomatch some),
      fun _ mem => nomatch mem⟩
  exact @Along.strengthen _ _ step (fun history => KernelSound history.system history.defaultLost) _ _
    (fun history event sound guard => (step_routed sound guard.1 guard.2).1)
    (fun history event sound guard => (step_routed sound guard.1 guard.2).2) _ _ initial
    (lawful.and condition)

end RouteHistory

/-! ## A removed peer -/

def removedPeer : List PeerAnnouncement := onePeer ++ [sampleAnnouncement 1 "10.44.8.8/32" []]

/-- The call of a node whose second peer may be there or not. -/
def peersCall (both : Bool) : ApplyCall :=
  sampleCall "10.44.0.1/32" (if both then removedPeer else onePeer)

def freshRoutes : RouteHistory := RouteHistory.new "utun100" ⟨∅, []⟩

def bothRouted : RouteHistory := freshRoutes.step (.apply sampleEnv (peersCall true))

theorem lawful_peersCall {history : RouteHistory} (both : Bool)
    (empty : history.system.runtime.handle = none → history.system.kernel.routes = ∅) :
    history.Lawful (.apply sampleEnv (peersCall both)) := by
  refine ⟨sampleCodec_lawful, ?_, fun _ => rfl, ?_, fun idle iface _ => ⟨?_, fun host route found => ?_⟩⟩
  · intro text bytes decoded bar
    have keys : ∀ entry ∈ sampleKeys, '|' ∉ entry.1.toList := by decide +kernel
    have unknown : sampleKeys.lookup text = none := by
      rw [List.lookup_eq_none_iff]
      intro entry mem
      refine bne_iff_ne.mpr ?_
      rintro rfl
      exact keys entry mem bar
    simp [sampleEnv, sampleCodec, unknown] at decoded
  · cases both <;> decide +kernel
  · rintro target ⟨route, found, -⟩
    rw [empty idle] at found
    cases found
  · cases found

theorem RouteHistory.system_step_apply (history : RouteHistory) (env : ApplyEnv) (call : ApplyCall) :
    (history.step (.apply env call)).system = (call.apply env history.system).system := rfl

/-- The plan with both peers. -/
def bothPeersPlan : List PlannedTunnelPeer :=
  [⟨"79be667ef9dcbbac55a06295ce870b07029bfcdb2dce28d959f2815b16f81798", "203.0.113.20:51820",
    ⟨"0101010101010101010101010101010101010101010101010101010101010101", "203.0.113.20:51820",
      ["10.44.7.7/32"]⟩⟩,
    ⟨"c6047f9441ed7d6d3045406e95c07cd85c778e4b8cef3ca7abac09b95c709ee5", "203.0.113.21:51820",
      ⟨"0202020202020202020202020202020202020202020202020202020202020202", "203.0.113.21:51820",
        ["10.44.8.8/32"]⟩⟩]

def bothKernel : Kernel := sampleKernel ["10.44.7.7/32", "10.44.8.8/32"] ⟨∅, []⟩

/-- What is computed for the plan with both peers, and what the kernel keeps when one of them goes. -/
theorem bothPeersPlan_facts :
    (plannedTunnelPeersForLocalEndpoints ((peersCall true).context sampleEnv { iface := "utun100" }) sampleBook).1 =
      .ok bothPeersPlan ∧
    routeTargetsForTunnelPeers (bothPeersPlan.map PlannedTunnelPeer.peer) = ["10.44.7.7/32", "10.44.8.8/32"] ∧
    (routeTargetsRequireEndpointBypass ["10.44.7.7/32", "10.44.8.8/32"] = false ∧
      defaultTarget ∉ ["10.44.7.7/32", "10.44.8.8/32"]) ∧
    (∀ peer ∈ bothPeersPlan.map PlannedTunnelPeer.peer, ∀ ip ∈ peer.allowedIps, (IpPrefix.ofText ip).isSome) ∧
    (addressCall false).fingerprint { iface := "utun100", activeListenPort := some 51820 }
      (bothPeersPlan.map PlannedTunnelPeer.peer) ≠ addressFingerprint false ∧
    (sampleKernel ["10.44.7.7/32"] bothKernel).RoutesInto "utun100" "10.44.8.8/32" := by
  rw [addressFingerprint, onePeerPlan_eq]
  decide +kernel

theorem plan_bothPeers (runtime : CliTunnelRuntime) :
    ((peersCall true).plan sampleEnv runtime).1 = .ok bothPeersPlan := by
  have peers : ApplyCall.runtimePeers sampleEnv runtime = none := by
    simp [ApplyCall.runtimePeers, sampleEnv]
  rw [ApplyCall.plan, ApplyCall.recordedBook, peers]
  exact bothPeersPlan_facts.1

section BothRouted

-- The apply is known by what it does on a machine where everything succeeds.
attribute [local irreducible] onePeerPlan ApplyCall.plan ApplyCall.apply tunnelFingerprint

theorem routeTargets_bothPeersPlan : routeTargetsForTunnelPeers (bothPeersPlan.map PlannedTunnelPeer.peer) =
    ["10.44.7.7/32", "10.44.8.8/32"] :=
  bothPeersPlan_facts.2.1

/-- The runtime with both peers. -/
def bothRuntime (device : Device) : CliTunnelRuntime :=
  { appliedRuntime device with
    lastFingerprint := some ((addressCall false).fingerprint { iface := "utun100", activeListenPort := some 51820 }
      (bothPeersPlan.map PlannedTunnelPeer.peer)) }

theorem bothRouted_system : ∃ device, bothRouted.system = ⟨bothRuntime device, bothKernel⟩ := by
  obtain ⟨hex, decoded⟩ := privateKeyHex_addressCall false
  have decoded : keyB64ToHex sampleCodec (peersCall true).app.node.privateKey = .ok hex := decoded
  obtain ⟨-, -, inside, parses, -⟩ := bothPeersPlan_facts
  rw [← routeTargets_bothPeersPlan] at inside
  have planned : (peersCall true).plan sampleEnv freshRoutes.system.runtime = (.ok bothPeersPlan, _) :=
    Prod.ext (plan_bothPeers _) rfl
  have started : freshRoutes.system.ensureStarted sampleEnv =
      (.ok { peers := ∅ }, freshRoutes.system.start "utun100") := rfl
  obtain ⟨-, system⟩ := apply_willing sampleEnv_willing sampleCodec_lawful planned (by simp [bothPeersPlan])
    parses inside.1 inside.2 rfl (fun last => by cases last) started decoded
  rw [completed, routeTargets_bothPeersPlan] at system
  rw [bothRouted, RouteHistory.system_step_apply, system]
  exact ⟨_, rfl⟩

theorem bothFingerprint_ne : (addressCall false).fingerprint { iface := "utun100", activeListenPort := some 51820 }
    (bothPeersPlan.map PlannedTunnelPeer.peer) ≠ addressFingerprint false :=
  bothPeersPlan_facts.2.2.2.2.1

/-- Without the second peer, an apply leaves the kernel its route. -/
theorem apply_removedPeer (device : Device) :
    ((peersCall false).apply sampleEnv ⟨bothRuntime device, bothKernel⟩).returned = .applied ∧
      ∃ device', ((peersCall false).apply sampleEnv ⟨bothRuntime device, bothKernel⟩).system =
        ⟨appliedRuntime device', sampleKernel ["10.44.7.7/32"] bothKernel⟩ := by
  obtain ⟨hex, decoded⟩ := privateKeyHex_addressCall false
  have decoded : keyB64ToHex sampleCodec (peersCall false).app.node.privateKey = .ok hex := decoded
  have inside := inside_onePeerPlan
  rw [← routeTargets_onePeerPlan] at inside
  have planned : (peersCall false).plan sampleEnv (bothRuntime device) = (.ok onePeerPlan, _) :=
    Prod.ext (plan_addressCall false sampleEnv.wg _) rfl
  obtain ⟨returned, system⟩ := @apply_willing sampleEnv (peersCall false) ⟨bothRuntime device, bothKernel⟩ _ _ _
    sampleEnv_willing sampleCodec_lawful _ planned onePeerPlan_ne
    parses_onePeerPlan inside.1 inside.2 rfl (fun same => bothFingerprint_ne (Option.some.inj same)) rfl _ decoded
  rw [completed, routeTargets_onePeerPlan] at system
  exact ⟨returned, _, system⟩

theorem bothRouted_facts : (bothRouted.system.runtime.handle.isSome ∧
    ((peersCall false).plan sampleEnv bothRouted.system.runtime).1 = .ok onePeerPlan ∧ onePeerPlan ≠ []) ∧
    ((peersCall false).apply sampleEnv bothRouted.system).returned = .applied ∧
    ((peersCall false).apply sampleEnv bothRouted.system).system.kernel.RoutesInto
      ((peersCall false).apply sampleEnv bothRouted.system).system.runtime.iface "10.44.8.8/32" ∧
    "10.44.8.8/32" ∉ routeTargetsForTunnelPeers (onePeerPlan.map PlannedTunnelPeer.peer) := by
  obtain ⟨device, both⟩ := bothRouted_system
  obtain ⟨returned, device', system⟩ := apply_removedPeer device
  have into : (sampleKernel ["10.44.7.7/32"] bothKernel).RoutesInto "utun100" "10.44.8.8/32" :=
    bothPeersPlan_facts.2.2.2.2.2
  rw [both]
  refine ⟨⟨rfl, plan_addressCall false sampleEnv.wg _, onePeerPlan_ne⟩, returned, ?_, ?_⟩
  · rw [system]
    exact into
  · rw [routeTargets_onePeerPlan]
    decide

/-- The route of the peer that is gone still points into the tunnel. -/
theorem stale_route_of_removed_peer : ∃ events,
    Along RouteHistory.step RouteHistory.Lawful freshRoutes events ∧
      ¬Along RouteHistory.step RouteHistory.RoutesPlan freshRoutes events := by
  obtain ⟨⟨running, planned, ne⟩, returned, into, unwanted⟩ := bothRouted_facts
  have lawful : bothRouted.Lawful (.apply sampleEnv (peersCall false)) := by
    refine lawful_peersCall _ fun idle => ?_
    rw [idle] at running
    cases running
  refine ⟨[.apply sampleEnv (peersCall true), .apply sampleEnv (peersCall false)],
    ⟨lawful_peersCall _ fun _ => rfl, lawful, trivial⟩, ?_⟩
  rintro ⟨-, follows, -⟩
  have stale : bothRouted.RoutesPlan (.apply sampleEnv (peersCall false)) := follows
  have routes := (stale onePeerPlan planned ne (congrArg ApplyReturn.result returned)).1
  exact unwanted ((routes _).mp into)

/-- The tunnel of one peer. -/
def oneRouted : RouteHistory := freshRoutes.step (.apply sampleEnv (peersCall false))

theorem oneRouted_eq : ∃ device, oneRouted =
    ⟨⟨appliedRuntime device, sampleKernel ["10.44.7.7/32"] ⟨∅, []⟩⟩, false⟩ := by
  obtain ⟨returned, device, system⟩ := apply_addressCall
  have returned : ((peersCall false).apply sampleEnv freshRoutes.system).returned = .applied := returned
  have system : ((peersCall false).apply sampleEnv freshRoutes.system).system =
      ⟨appliedRuntime device, sampleKernel ["10.44.7.7/32"] ⟨∅, []⟩⟩ := system
  refine ⟨device, ?_⟩
  rw [oneRouted, RouteHistory.step]
  simp only [returned, system]

/-- With the second peer in the plan, an apply is completed on the running interface. -/
theorem apply_addedPeer (device : Device) (kernel : Kernel) :
    ((peersCall true).apply sampleEnv ⟨appliedRuntime device, kernel⟩).returned = .applied := by
  obtain ⟨hex, decoded⟩ := privateKeyHex_addressCall false
  have decoded : keyB64ToHex sampleCodec (peersCall true).app.node.privateKey = .ok hex := decoded
  obtain ⟨-, -, inside, parses, -⟩ := bothPeersPlan_facts
  rw [← routeTargets_bothPeersPlan] at inside
  have planned : (peersCall true).plan sampleEnv (appliedRuntime device) = (.ok bothPeersPlan, _) :=
    Prod.ext (plan_bothPeers _) rfl
  have other : (appliedRuntime device).lastFingerprint ≠ some ((peersCall true).fingerprint (appliedRuntime device)
      (bothPeersPlan.map PlannedTunnelPeer.peer)) :=
    fun same => bothFingerprint_ne (Option.some.inj same).symm
  exact (@apply_willing sampleEnv (peersCall true) ⟨appliedRuntime device, kernel⟩ _ _ _ sampleEnv_willing
    sampleCodec_lawful _ planned (by simp [bothPeersPlan]) parses inside.1 inside.2 rfl other rfl _ decoded).1

/-- The one route and the address that the interface has are wanted with both peers, too. -/
theorem nothingStale_bothPeersPlan (device : Device) : NothingStale (peersCall true) sampleEnv
    ⟨appliedRuntime device, sampleKernel ["10.44.7.7/32"] ⟨∅, []⟩⟩ (bothPeersPlan.map PlannedTunnelPeer.peer) := by
  obtain ⟨kernel, applied, routes, addresses⟩ := applyLocalInterfaceNetwork_spec (fun _ => rfl : ∀ command,
    sampleEnv.ipFails command = false) "utun100" (addressCall false).localAddress ["10.44.7.7/32"] ⟨∅, []⟩
  have same : sampleKernel ["10.44.7.7/32"] ⟨∅, []⟩ = kernel := by rw [sampleKernel, applied]
  rw [same]
  refine ⟨fun target routed => Or.inl ?_, fun address has => ?_⟩
  · rw [routeTargets_bothPeersPlan]
    rcases (routes target).mp routed with first | ⟨route, found, -⟩
    · obtain rfl := List.mem_singleton.mp first
      exact List.mem_cons_self
    · cases found
  · rcases (addresses address).mp has with here | before
    · exact here
    · cases before

/-- The second peer comes while the tunnel of the first one runs: both applies are completed, and the kernel
follows each plan. -/
theorem routesPlan_along_of_addedPeer :
    Along RouteHistory.step RouteHistory.RoutesPlan freshRoutes
        [.apply sampleEnv (peersCall false), .apply sampleEnv (peersCall true)] ∧
      oneRouted.system.runtime.handle.isSome ∧
      ((peersCall true).apply sampleEnv oneRouted.system).returned = .applied := by
  obtain ⟨device, one⟩ := oneRouted_eq
  have running : oneRouted.system.runtime.handle.isSome := by rw [one]; rfl
  have lawful : oneRouted.Lawful (.apply sampleEnv (peersCall true)) := by
    refine lawful_peersCall _ fun idle => ?_
    rw [idle] at running
    cases running
  have condition : oneRouted.Condition (.apply sampleEnv (peersCall true)) := by
    rw [one]
    intro plan planned _ _
    obtain rfl := Except.ok.inj (planned.symm.trans (plan_bothPeers _))
    exact ⟨fun _ lost => (nomatch lost), fun _ _ => nothingStale_bothPeersPlan device⟩
  refine ⟨RouteHistory.routesPlan_along _ _ ⟨lawful_peersCall _ fun _ => rfl, lawful, trivial⟩
    ⟨fun _ _ _ _ => ⟨fun _ lost => (nomatch lost), fun _ some => nomatch some⟩, condition, trivial⟩, running, ?_⟩
  rw [one]
  exact apply_addedPeer device _

end BothRouted

end NostrVpn.Cli
