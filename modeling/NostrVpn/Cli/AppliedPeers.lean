import NostrVpn.Cli.TunnelFingerprint
import NostrVpn.Cli.TunnelRuntimeFacts
import NostrVpn.Cli.WillingMachine
import NostrVpn.Transition

/-!
# Soundness of the applied fingerprint

Over every sequence of `apply` and `stop` calls: the device has exactly the peers of the plan after every
apply that returns `Ok`, as long as the fingerprint check is not trusted after an apply that failed
once it had begun to replace the peers.
-/
namespace NostrVpn.Cli

open Rust Rust.Net NostrVpn.Core WireGuard Linux Transition

/-- The device has exactly the given peers with their allowed IPs. -/
structure DeviceCarries (device : Device) (peers : List TunnelPeer) : Prop where
  readable : ∀ peer ∈ peers, Readable peer
  complete : ∀ peer ∈ peers, ∃ key entry, Key.parse peer.pubkeyHex = some key ∧
    device.peers.lookup key = some entry ∧ ∀ ip, ip ∈ entry.allowedIps ↔ ip ∈ peerPrefixes peer
  sole : ∀ key entry, device.peers.lookup key = some entry →
    ∃ peer ∈ peers, Key.parse peer.pubkeyHex = some key

theorem DeviceCarries.congr {device device' : Device} {peers peers' : List TunnelPeer}
    (h : DeviceCarries device peers) (table : device'.peers = device.peers)
    (same : ∀ peer, peer ∈ peers ↔ peer ∈ peers') : DeviceCarries device' peers' where
  readable peer mem := h.readable peer ((same peer).mpr mem)
  complete := by
    intro peer mem
    rw [table]
    exact h.complete peer ((same peer).mpr mem)
  sole := by
    intro key entry found
    rw [table] at found
    obtain ⟨peer, mem, parsed⟩ := h.sole key entry found
    exact ⟨peer, (same peer).mp mem, parsed⟩

/-- Distinct public keys and disjoint prefixes. -/
structure PlanLawful (plan : List PlannedTunnelPeer) : Prop where
  keys : (plan.map fun planned => planned.peer.pubkeyHex).Nodup
  prefixes : Unambiguous plan

section Plan

variable {ctx : PlanContext} {book : PeerPathBook} {plan : List PlannedTunnelPeer}

/-- A planned peer makes a fingerprint entry. -/
theorem entry_of_planned (codec : ctx.codec.Lawful)
    (h : (plannedTunnelPeersForLocalEndpoints ctx book).1 = .ok plan) :
    ∀ peer ∈ plan.map PlannedTunnelPeer.peer, Entry peer := by
  rw [List.forall_mem_map]
  intro planned mem
  obtain ⟨a, config, routes, -, shape, -⟩ := exists_reachable codec h mem
  refine ⟨?_, ?_, ?_, ?_, ?_⟩
  · rw [shape.pubkeyHex, Key.fmt, String.toList_ofList]
    exact fun c mem => hexDigit_of_mem_encodeHex mem
  · rw [shape.endpoint]
    exact isAddressChar_of_socketAddr (SocketAddr.parse_fmt config.addr)
  · rw [shape.endpoint]
    exact colon_mem_socketAddr config.addr
  · simp [shape.allowedIps]
  · rw [shape.allowedIps, List.forall_mem_cons]
    exact ⟨slashed_slash32 shape.slash, fun r listed => slashed_of_prefix (shape.route r listed)⟩

/-- The requests of a lawful plan that all succeed leave the device with its peers. -/
theorem deviceCarries_of_setAll (codec : ctx.codec.Lawful)
    (h : (plannedTunnelPeersForLocalEndpoints ctx book).1 = .ok plan) (lawful : PlanLawful plan)
    {device device' : Device}
    (sent : setAll device (uapiBodies (plan.map PlannedTunnelPeer.peer)) = .ok device') :
    DeviceCarries device' (plan.map PlannedTunnelPeer.peer) := by
  obtain ⟨readable, rfl⟩ := (setAll_uapiBodies (shaped_plan codec h) device device').mp sent
  have keys : KeysApart plan := fun x memX y memY same =>
    List.inj_on_of_nodup_map lawful.keys memX memY same
  have holds : (({ device with peers := ∅ } : Device).putPeers (plan.filterMap configOf) 5).Holds
      (plan.filterMap configOf) :=
    ((Device.Took.nil device).putPeers 5).holds (compatible_plan codec h lawful.prefixes keys)
  refine ⟨readable, ?_, ?_⟩
  · rw [List.forall_mem_map]
    intro planned mem
    obtain ⟨a, config, routes, -, shape, -⟩ := exists_reachable codec h mem
    have listed : config ∈ plan.filterMap configOf :=
      List.mem_filterMap.mpr ⟨planned, mem, shape.configOf_eq⟩
    obtain ⟨entry, found, -, members⟩ := holds.complete config listed
    refine ⟨config.key, entry, ?_, found, fun ip => ?_⟩
    · rw [shape.pubkeyHex, Key.parse_fmt]
    · rw [members, shape.prefixes]
  · intro key entry found
    obtain ⟨config, listed, rfl⟩ := holds.sole key entry found
    obtain ⟨planned, mem, eq⟩ := List.mem_filterMap.mp listed
    obtain ⟨a, config', routes, -, shape, -⟩ := exists_reachable codec h mem
    obtain rfl := Option.some.inj (shape.configOf_eq.symm.trans eq)
    refine ⟨planned.peer, List.mem_map_of_mem mem, ?_⟩
    rw [shape.pubkeyHex, Key.parse_fmt]

end Plan

/-! ## Runs -/

inductive TunnelEvent where
  | apply (env : ApplyEnv) (call : ApplyCall)
  | stop (env : ApplyEnv)

/-- The system, and whether an apply failed from `replace_peers=true` on since the last one that
completed. -/
structure TunnelHistory where
  system : TunnelSystem
  interrupted : Bool := false

namespace TunnelHistory

/-- `CliTunnelRuntime::new`. -/
def new (iface : String) (kernel : Kernel) : TunnelHistory where
  system := ⟨{ iface }, kernel⟩

def step (history : TunnelHistory) : TunnelEvent → TunnelHistory
  | .stop env => ⟨history.system.stop env, false⟩
  | .apply env call =>
    let outcome := call.apply env history.system
    ⟨outcome.system, match outcome.returned with
      | .failed _ | .unchanged => history.interrupted
      | .interrupted _ => true
      | .stopped | .applied => false⟩

/-- The plans of an event are lawful. -/
def Lawful (history : TunnelHistory) : TunnelEvent → Prop
  | .stop _ => True
  | .apply env call => env.codec.Lawful ∧
    ∀ plan, (call.plan env history.system.runtime).1 = .ok plan → PlanLawful plan

/-- The fingerprint check is not trusted while an apply is interrupted. -/
def Trusts (history : TunnelHistory) : TunnelEvent → Prop
  | .stop _ => True
  | .apply env call => history.interrupted →
    ∀ plan, (call.plan env history.system.runtime).1 = .ok plan →
      ¬FingerprintMatches call env history.system plan

/-- After an event that is an apply of a nonempty plan with `Ok`, the device has the plan's peers. -/
def CarriesPlan (history : TunnelHistory) : TunnelEvent → Prop
  | .stop _ => True
  | .apply env call => ∀ plan, (call.plan env history.system.runtime).1 = .ok plan → plan ≠ [] →
    (call.apply env history.system).returned.result = .ok () →
      ∃ device, (call.apply env history.system).system.runtime.handle = some device ∧
        DeviceCarries device (plan.map PlannedTunnelPeer.peer)

end TunnelHistory

/-- The fingerprint is that of peers the device has. -/
def Cached (fingerprint : String) (device : Device) : Prop :=
  ∃ head peers, peers ≠ [] ∧ (∀ peer ∈ peers, Entry peer) ∧ DeviceCarries device peers ∧
    fingerprint = tunnelRuntimeFingerprint (head ++ "|" ++ join ";" (sort (peers.map peerEntry)))
      (routeTargetsForTunnelPeers peers)

/-- A fingerprint is of a device that is there and, unless an apply was interrupted, has its peers. -/
structure FingerprintSound (runtime : CliTunnelRuntime) (interrupted : Bool) : Prop where
  started : runtime.lastFingerprint.isSome → runtime.handle.isSome
  cached : ∀ fingerprint device, runtime.lastFingerprint = some fingerprint →
    runtime.handle = some device → interrupted = false → Cached fingerprint device

theorem Cached.congr {fingerprint : String} {device device' : Device} (h : Cached fingerprint device)
    (table : device'.peers = device.peers) : Cached fingerprint device' := by
  obtain ⟨head, peers, ne, entries, carries, eq⟩ := h
  exact ⟨head, peers, ne, entries, carries.congr table fun _ => Iff.rfl, eq⟩

theorem fingerprint_eq (call : ApplyCall) (runtime : CliTunnelRuntime) (peers : List TunnelPeer) :
    ∃ head, call.fingerprint runtime peers = tunnelRuntimeFingerprint
      (head ++ "|" ++ join ";" (sort (peers.map peerEntry))) (routeTargetsForTunnelPeers peers) :=
  ⟨_, congrArg (tunnelRuntimeFingerprint · _) (tunnelFingerprint_eq ..)⟩

/-- A cached fingerprint that the plan reproduces says that the device has the plan's peers. -/
theorem Cached.carries {call : ApplyCall} {runtime : CliTunnelRuntime} {device : Device}
    {peers : List TunnelPeer} (h : Cached (call.fingerprint runtime peers) device) (ne : peers ≠ [])
    (entries : ∀ peer ∈ peers, Entry peer) : DeviceCarries device peers := by
  obtain ⟨head, old, neOld, entriesOld, carries, eq⟩ := h
  obtain ⟨head', eq'⟩ := fingerprint_eq call runtime peers
  rw [eq'] at eq
  obtain ⟨-, same⟩ := peers_of_fingerprint_eq neOld ne entriesOld entries carries.readable eq.symm
  exact carries.congr rfl same

theorem FingerprintSound.congr {runtime runtime' : CliTunnelRuntime} {interrupted : Bool}
    (h : FingerprintSound runtime interrupted)
    (last : runtime'.lastFingerprint = runtime.lastFingerprint)
    (handle : runtime'.handle = runtime.handle) : FingerprintSound runtime' interrupted where
  started := by
    rw [last, handle]
    exact h.started
  cached := by
    rw [last, handle]
    exact h.cached

theorem FingerprintSound.resumes {env : ApplyEnv} {sys mid : TunnelSystem} {interrupted : Bool}
    (h : FingerprintSound sys.runtime interrupted) (resumes : Resumes env sys mid) :
    FingerprintSound mid.runtime interrupted := by
  rcases resumes.device with ⟨device, device', had, has, table, -⟩ | ⟨had, has, -⟩
  · refine ⟨fun _ => by simp [has], fun fingerprint other last handle clear => ?_⟩
    obtain rfl := Option.some.inj (has.symm.trans handle)
    exact (h.cached fingerprint device (resumes.lastFingerprint ▸ last) had clear).congr table
  · have never : sys.runtime.lastFingerprint = none := by
      by_contra some
      simpa [had] using h.started (Option.isSome_iff_ne_none.mpr some)
    refine ⟨fun _ => has, fun fingerprint other last => ?_⟩
    rw [resumes.lastFingerprint, never] at last
    cases last

/-! ## One apply -/

section Apply

variable {env : ApplyEnv} {call : ApplyCall} {sys : TunnelSystem} {plan : List PlannedTunnelPeer}

/-- What an apply leaves behind: whether the fingerprint still stands for the device, and with `Ok` the
peers of the plan. -/
structure UpdateSound (interrupted : Bool) (peers : List TunnelPeer)
    (update : ApplyReturn × TunnelSystem) : Prop where
  sound : FingerprintSound update.2.runtime (match update.1 with
    | .failed _ | .unchanged => interrupted
    | .interrupted _ => true
    | .stopped | .applied => false)
  carries : update.1.result = .ok () →
    ∃ device, update.2.runtime.handle = some device ∧ DeviceCarries device peers

theorem configure_sound {peers : List TunnelPeer} {specs : List (String × Route)}
    {session : UapiSession} (interrupted : Bool) (ne : peers ≠ [])
    (entries : ∀ peer ∈ peers, Entry peer)
    (carries : ∀ device', setAll session.device (uapiBodies peers) = .ok device' →
      DeviceCarries device' peers) :
    UpdateSound interrupted peers (call.configure env peers specs session sys) := by
  have unsound {runtime : CliTunnelRuntime} (handle : runtime.handle.isSome) :
      FingerprintSound runtime true := ⟨fun _ => handle, fun _ _ _ _ clear => nomatch clear⟩
  rcases configure_cases env call peers specs session sys with
    ⟨error, next, -, result⟩ | ⟨next, sent, mid, eq, ⟨error, kernel, -, result⟩ | ⟨kernel, -, result⟩⟩
  · rw [result]
    exact ⟨unsound rfl, fun ok => nomatch ok⟩
  · rw [result, eq]
    exact ⟨unsound rfl, fun ok => nomatch ok⟩
  · have handle : mid.runtime.handle = some next.device := by rw [eq]; rfl
    have holds := carries next.device sent
    obtain ⟨head, fingerprint⟩ := fingerprint_eq call mid.runtime peers
    rw [result]
    refine ⟨⟨fun _ => by simp [handle], ?_⟩, fun _ => ⟨next.device, handle, holds⟩⟩
    intro found device last has _
    obtain rfl := Option.some.inj last
    obtain rfl := Option.some.inj (handle.symm.trans has)
    exact ⟨head, peers, ne, entries, holds, fingerprint⟩

theorem update_sound {interrupted : Bool} (codec : env.codec.Lawful)
    (planned : (call.plan env sys.runtime).1 = .ok plan) (ne : plan ≠ []) (lawful : PlanLawful plan)
    (sound : FingerprintSound sys.runtime interrupted)
    (trusts : interrupted → ¬FingerprintMatches call env sys plan) :
    UpdateSound interrupted (plan.map PlannedTunnelPeer.peer) (call.update env plan sys) := by
  have ne : plan.map PlannedTunnelPeer.peer ≠ [] := by simpa using ne
  have codec' : (call.context env sys.runtime).codec.Lawful := codec
  have entries := entry_of_planned codec' planned
  obtain ⟨route, kept⟩ := runtime_keepDefaultRoute env (plan.map PlannedTunnelPeer.peer) sys
  have base : FingerprintSound (ApplyCall.keepDefaultRoute env
      (plan.map PlannedTunnelPeer.peer) sys).runtime interrupted := by
    rw [kept]
    exact sound.congr rfl rfl
  rcases update_cases env call plan sys with ⟨error, result⟩ | ⟨result, check⟩ | ⟨specs, -, -, result⟩
  · rw [result]
    exact ⟨base, fun ok => nomatch ok⟩
  · rw [result]
    refine ⟨base, fun _ => ?_⟩
    have ⟨_, last, running, _⟩ := check
    obtain ⟨device, handle⟩ := Option.isSome_iff_exists.mp running
    have clear : interrupted = false := by
      by_contra set
      exact trusts (by simpa using set) check
    refine ⟨device, by rw [kept]; exact handle, ?_⟩
    exact (sound.cached _ device last handle clear).carries ne entries
  · rw [result]
    rcases reconfigure_cases codec call (plan.map PlannedTunnelPeer.peer) specs _ with
      ⟨error, failed⟩ | ⟨error, mid, failed, resumes⟩ | ⟨session, mid, configured, resumes, -⟩
    · rw [failed]
      exact ⟨base, fun ok => nomatch ok⟩
    · rw [failed]
      exact ⟨base.resumes resumes, fun ok => nomatch ok⟩
    · rw [configured]
      exact configure_sound interrupted ne entries fun device' sent =>
        deviceCarries_of_setAll codec' planned lawful sent

theorem fingerprintSound_stop (env : ApplyEnv) (sys : TunnelSystem) (interrupted : Bool) :
    FingerprintSound (sys.stop env).runtime interrupted :=
  ⟨fun last => (nomatch last), fun _ _ last => nomatch last⟩

/-- An apply with a plan is its update, for a plan that is not empty. -/
theorem apply_of_plan (planned : (call.plan env sys.runtime).1 = .ok plan) (ne : plan ≠ []) :
    (call.apply env sys).returned = (call.update env plan sys).1 ∧
      (call.apply env sys).system = (call.update env plan sys).2 := by
  unfold ApplyCall.apply
  rcases result : call.plan env sys.runtime with ⟨outcome, book⟩
  rw [result] at planned
  obtain rfl : outcome = .ok plan := planned
  cases plan with
  | nil => exact absurd rfl ne
  | cons first rest => exact ⟨rfl, rfl⟩

theorem apply_of_error {error : String} (planned : (call.plan env sys.runtime).1 = .error error) :
    (call.apply env sys).returned = .failed error ∧ (call.apply env sys).system = sys := by
  unfold ApplyCall.apply
  rcases result : call.plan env sys.runtime with ⟨outcome, book⟩
  rw [result] at planned
  obtain rfl : outcome = .error error := planned
  exact ⟨rfl, rfl⟩

theorem apply_of_nil (planned : (call.plan env sys.runtime).1 = .ok []) :
    (call.apply env sys).returned = .stopped ∧ (call.apply env sys).system = sys.stop env := by
  unfold ApplyCall.apply
  rcases result : call.plan env sys.runtime with ⟨outcome, book⟩
  rw [result] at planned
  obtain rfl : outcome = .ok [] := planned
  exact ⟨rfl, rfl⟩

/-- Where everything succeeds, an apply that gets to the device is completed exactly when every address of the plan
is one, and is given up with the peers half replaced otherwise. -/
theorem completed_iff_addresses_parse (willing : env.Willing) (codec : env.codec.Lawful)
    (planned : (call.plan env sys.runtime).1 = .ok plan) (ne : plan ≠ []) {specs : List (String × Route)}
    (routes : call.bypassSpecs env (plan.map PlannedTunnelPeer.peer)
      (ApplyCall.keepDefaultRoute env (plan.map PlannedTunnelPeer.peer) sys) = .ok specs)
    (changed : ¬FingerprintMatches call env sys plan) {device : Device} {mid : TunnelSystem}
    (started : (ApplyCall.keepDefaultRoute env (plan.map PlannedTunnelPeer.peer) sys).ensureStarted env =
      (.ok device, mid)) {hex : String}
    (decoded : keyB64ToHex env.codec call.app.node.privateKey = .ok hex) :
    ((call.apply env sys).returned = .applied ↔
      ∀ peer ∈ plan.map PlannedTunnelPeer.peer, ∀ ip ∈ peer.allowedIps, (IpPrefix.ofText ip).isSome) ∧
    ((call.apply env sys).returned ≠ .applied → ∃ error, (call.apply env sys).returned = .interrupted error) := by
  have update : call.update env plan sys = call.reconfigure env (plan.map PlannedTunnelPeer.peer) specs
      (ApplyCall.keepDefaultRoute env (plan.map PlannedTunnelPeer.peer) sys) := by
    obtain ⟨route, kept⟩ := runtime_keepDefaultRoute env (plan.map PlannedTunnelPeer.peer) sys
    have found : (call.bypassSpecs env (plan.map PlannedTunnelPeer.peer)
        (ApplyCall.keepDefaultRoute env (plan.map PlannedTunnelPeer.peer) sys)).isOk := by
      rw [routes]
      rfl
    simp only [ApplyCall.update, routes]
    rw [if_neg]
    rintro ⟨last, running, fresh⟩
    rw [kept] at last running
    exact changed ⟨found, last, running, fresh⟩
  obtain ⟨sent, configured⟩ := reconfigure_eq_configure willing codec started decoded
    (plan.map PlannedTunnelPeer.peer) specs
  rw [(apply_of_plan planned ne).1, update, configured]
  have taken := setAll_uapiBodies (shaped_plan codec planned)
    (selectedDevice mid.runtime hex call.app.node.listenPort device)
  by_cases parses : ∀ peer ∈ plan.map PlannedTunnelPeer.peer, ∀ ip ∈ peer.allowedIps, (IpPrefix.ofText ip).isSome
  · have done := @configure_willing env call willing _
      ⟨selectedDevice mid.runtime hex call.app.node.listenPort device, sent⟩ _ ((taken _).mpr ⟨parses, rfl⟩) specs
      (mid.setRuntime fun runtime =>
        { runtime with activeListenPort := some (mid.runtime.listenPort call.app.node.listenPort) })
    rw [done]
    exact ⟨iff_of_true rfl parses, fun other => absurd rfl other⟩
  · obtain ⟨error, refused⟩ := @configure_refused env call _
      ⟨selectedDevice mid.runtime hex call.app.node.listenPort device, sent⟩
      (fun device' sets => parses ((taken device').mp sets).1) specs
      (mid.setRuntime fun runtime =>
        { runtime with activeListenPort := some (mid.runtime.listenPort call.app.node.listenPort) })
    rw [refused]
    exact ⟨iff_of_false (by simp) parses, fun _ => ⟨error, rfl⟩⟩

end Apply

/-! ## Runs -/

namespace TunnelHistory

/-- One step keeps the fingerprint sound and, with `Ok`, the device on the plan. -/
theorem step_sound {history : TunnelHistory} {event : TunnelEvent}
    (sound : FingerprintSound history.system.runtime history.interrupted)
    (lawful : history.Lawful event) (trusts : history.Trusts event) :
    FingerprintSound (history.step event).system.runtime (history.step event).interrupted ∧
      history.CarriesPlan event := by
  cases event with
  | stop env => exact ⟨fingerprintSound_stop env _ _, trivial⟩
  | apply env call =>
    obtain ⟨codec, lawful⟩ := lawful
    cases planned : (call.plan env history.system.runtime).1 with
    | error error =>
      obtain ⟨returned, system⟩ := apply_of_error planned
      refine ⟨?_, fun plan ok => ?_⟩
      · simp only [step, returned, system]
        exact sound
      · rw [planned] at ok
        cases ok
    | ok plan =>
      by_cases ne : plan = []
      · subst ne
        obtain ⟨returned, system⟩ := apply_of_nil planned
        refine ⟨?_, fun plan ok ne => ?_⟩
        · simp only [step, returned, system]
          exact fingerprintSound_stop env _ _
        · rw [planned] at ok
          exact absurd (Except.ok.inj ok).symm ne
      · have update := update_sound codec planned ne (lawful _ planned) sound
          fun interrupted => trusts interrupted _ planned
        obtain ⟨returned, system⟩ := apply_of_plan planned ne
        refine ⟨?_, fun plan ok _ result => ?_⟩
        · simp only [step, returned, system]
          exact update.sound
        · obtain rfl := Except.ok.inj (planned.symm.trans ok)
          rw [returned] at result
          rw [system]
          exact update.carries result

/-- Along every run that trusts no fingerprint after an interrupted apply, an apply that returns `Ok`
for a nonempty plan leaves the device with exactly the peers of the plan. -/
theorem carriesPlan_along (iface : String) (kernel : Kernel) {events : List TunnelEvent}
    (lawful : Along step Lawful (new iface kernel) events)
    (trusts : Along step Trusts (new iface kernel) events) :
    Along step CarriesPlan (new iface kernel) events := by
  have initial : FingerprintSound (new iface kernel).system.runtime (new iface kernel).interrupted :=
    ⟨fun last => (nomatch last), fun _ _ last => nomatch last⟩
  exact @Along.strengthen _ _ step (fun history => FingerprintSound history.system.runtime
    history.interrupted) _ _ (fun history event sound guard => (step_sound sound guard.1 guard.2).1)
    (fun history event sound guard => (step_sound sound guard.1 guard.2).2) _ _ initial
    (lawful.and trusts)

end TunnelHistory

/-! ## An interrupted run -/

/-- The device takes the empty peer table and not the peer. -/
def interruptedEnv : ApplyEnv :=
  { sampleEnv with
    wg := fun n => if n = 1 then .failed 0 "failed to read uapi response" else .answered }

/-- The call of a node with the given address, for the announcements of the sample participants. -/
def sampleCall (tunnelIp : String) (announcements : List PeerAnnouncement) : ApplyCall where
  app := { sampleConfig with
    node := { id := "node-1", privateKey := ((sampleKeys.map Prod.fst)[2]?).getD "", tunnelIp } }
  ownPubkey := none
  announcements := HashMap.ofList (sampleParticipants.zip announcements)
  book := sampleBook
  now := 100

def onePeer : List PeerAnnouncement := [sampleAnnouncement 0 "10.44.7.7/32" []]

/-- The call on one of two addresses. -/
def addressCall (second : Bool) : ApplyCall :=
  sampleCall (if second then "10.44.0.2/32" else "10.44.0.1/32") onePeer

def onePeerPlan : List PlannedTunnelPeer :=
  planOf ((addressCall false).context sampleEnv { iface := "utun100" }) sampleBook

theorem planned_addressCall (second : Bool) : (plannedTunnelPeersForLocalEndpoints ((addressCall second).context
    sampleEnv { iface := "utun100" }) sampleBook).1 = .ok
      [⟨"79be667ef9dcbbac55a06295ce870b07029bfcdb2dce28d959f2815b16f81798", "203.0.113.20:51820",
        ⟨"0101010101010101010101010101010101010101010101010101010101010101", "203.0.113.20:51820",
          ["10.44.7.7/32"]⟩⟩] := by
  cases second <;> decide +kernel

theorem onePeerPlan_eq : onePeerPlan =
    [⟨"79be667ef9dcbbac55a06295ce870b07029bfcdb2dce28d959f2815b16f81798", "203.0.113.20:51820",
      ⟨"0101010101010101010101010101010101010101010101010101010101010101", "203.0.113.20:51820",
        ["10.44.7.7/32"]⟩⟩] := by
  rw [onePeerPlan, planOf, planned_addressCall]
  rfl

-- From here on the plan is known by its lemmas.
attribute [local irreducible] onePeerPlan plannedTunnelPeersForLocalEndpoints

theorem onePeerPlan_ne : onePeerPlan ≠ [] := by simp [onePeerPlan_eq]

theorem plan_addressCall (second : Bool) (wg : Nat → WgOutcome) (runtime : CliTunnelRuntime) :
    ((addressCall second).plan { sampleEnv with wg } runtime).1 = .ok onePeerPlan := by
  have peers : ApplyCall.runtimePeers { sampleEnv with wg } runtime = none := by
    simp [ApplyCall.runtimePeers, sampleEnv]
  rw [ApplyCall.plan, ApplyCall.recordedBook, peers, onePeerPlan_eq]
  exact planned_addressCall second

theorem lawful_addressCall (history : TunnelHistory) (second : Bool) (wg : Nat → WgOutcome) :
    history.Lawful (.apply { sampleEnv with wg } (addressCall second)) := by
  refine ⟨sampleCodec_lawful, fun plan planned => ?_⟩
  rw [plan_addressCall] at planned
  obtain rfl := Except.ok.inj planned
  rw [onePeerPlan_eq]
  exact ⟨by decide +kernel, by decide +kernel⟩

def freshTunnel : TunnelHistory := TunnelHistory.new "utun100" ⟨∅, []⟩

def appliedHistory : TunnelHistory := freshTunnel.step (.apply sampleEnv (addressCall false))

/-- A second apply, with a new address, is interrupted. -/
def interruptedHistory : TunnelHistory :=
  appliedHistory.step (.apply interruptedEnv (addressCall true))

theorem sampleEnv_willing : sampleEnv.Willing where
  wg _ := rfl
  ip _ := rfl
  createDevice _ := rfl
  socketAppears := rfl

/-- The fingerprint of the sample node with one of its addresses. -/
def addressFingerprint (second : Bool) : String :=
  (addressCall second).fingerprint { iface := "utun100", activeListenPort := some 51820 }
    (onePeerPlan.map PlannedTunnelPeer.peer)

/-- The private key of the sample node is one, its peer has one route, which needs no bypass and parses, and its two
addresses have two fingerprints. -/
theorem onePeerPlan_facts :
    (∀ second, (keyB64ToHex sampleCodec (addressCall second).app.node.privateKey).isOk) ∧
    routeTargetsForTunnelPeers (onePeerPlan.map PlannedTunnelPeer.peer) = ["10.44.7.7/32"] ∧
    (routeTargetsRequireEndpointBypass ["10.44.7.7/32"] = false ∧ defaultTarget ∉ ["10.44.7.7/32"]) ∧
    (∀ peer ∈ onePeerPlan.map PlannedTunnelPeer.peer, ∀ ip ∈ peer.allowedIps, (IpPrefix.ofText ip).isSome) ∧
    addressFingerprint false ≠ addressFingerprint true := by
  rw [addressFingerprint, addressFingerprint, onePeerPlan_eq]
  decide +kernel

theorem privateKeyHex_addressCall (second : Bool) :
    ∃ hex, keyB64ToHex sampleCodec (addressCall second).app.node.privateKey = .ok hex := by
  have ok := onePeerPlan_facts.1 second
  cases result : keyB64ToHex sampleCodec (addressCall second).app.node.privateKey with
  | ok hex => exact ⟨hex, rfl⟩
  | error error =>
    rw [result] at ok
    cases ok

theorem routeTargets_onePeerPlan :
    routeTargetsForTunnelPeers (onePeerPlan.map PlannedTunnelPeer.peer) = ["10.44.7.7/32"] :=
  onePeerPlan_facts.2.1

theorem inside_onePeerPlan : routeTargetsRequireEndpointBypass ["10.44.7.7/32"] = false ∧
    defaultTarget ∉ ["10.44.7.7/32"] :=
  onePeerPlan_facts.2.2.1

theorem parses_onePeerPlan : ∀ peer ∈ onePeerPlan.map PlannedTunnelPeer.peer, ∀ ip ∈ peer.allowedIps,
    (IpPrefix.ofText ip).isSome :=
  onePeerPlan_facts.2.2.2.1

theorem addressFingerprint_ne : addressFingerprint false ≠ addressFingerprint true := onePeerPlan_facts.2.2.2.2

/-- The runtime of the sample node once the apply with the first address is completed. -/
def appliedRuntime (device : Device) : CliTunnelRuntime where
  iface := "utun100"
  handle := some device
  lastFingerprint := some (addressFingerprint false)
  activeListenPort := some 51820

theorem fingerprint_appliedRuntime (second : Bool) (device : Device) :
    (addressCall second).fingerprint (appliedRuntime device) (onePeerPlan.map PlannedTunnelPeer.peer) =
      addressFingerprint second := rfl

/-- The kernel once the interface of the sample node has the routes. -/
def sampleKernel (targets : List String) (kernel : Kernel) : Kernel :=
  (applyLocalInterfaceNetwork sampleEnv "utun100" (addressCall false).localAddress targets kernel).2

theorem apply_addressCall : ((addressCall false).apply sampleEnv freshTunnel.system).returned = .applied ∧
    ∃ device, ((addressCall false).apply sampleEnv freshTunnel.system).system =
      ⟨appliedRuntime device, sampleKernel ["10.44.7.7/32"] ⟨∅, []⟩⟩ := by
  obtain ⟨hex, decoded⟩ := privateKeyHex_addressCall false
  have inside := inside_onePeerPlan
  rw [← routeTargets_onePeerPlan] at inside
  have planned : (addressCall false).plan sampleEnv freshTunnel.system.runtime = (.ok onePeerPlan, _) :=
    Prod.ext (plan_addressCall false sampleEnv.wg _) rfl
  obtain ⟨returned, system⟩ := apply_willing sampleEnv_willing sampleCodec_lawful planned onePeerPlan_ne
    parses_onePeerPlan inside.1 inside.2 rfl (fun last => by cases last) rfl decoded
  rw [completed, routeTargets_onePeerPlan] at system
  exact ⟨returned, _, system⟩

theorem appliedHistory_eq : ∃ device kernel, appliedHistory = ⟨⟨appliedRuntime device, kernel⟩, false⟩ := by
  obtain ⟨returned, device, system⟩ := apply_addressCall
  rw [appliedHistory, TunnelHistory.step]
  simp only [returned, system]
  exact ⟨_, _, rfl⟩

section Interrupted
variable (env : ApplyEnv) (call : ApplyCall) (device : Device) (kernel : Kernel)

theorem keepDefaultRoute_onePeerPlan {sys : TunnelSystem} (none : sys.runtime.originalDefaultRoute = none) :
    ApplyCall.keepDefaultRoute env (onePeerPlan.map PlannedTunnelPeer.peer) sys = sys := by
  rw [ApplyCall.keepDefaultRoute, routeTargets_onePeerPlan, if_neg inside_onePeerPlan.2,
    TunnelSystem.restoreLinuxOriginalDefaultRoute, none]

theorem bypassSpecs_onePeerPlan (sys : TunnelSystem) :
    call.bypassSpecs env (onePeerPlan.map PlannedTunnelPeer.peer) sys = .ok [] := by
  rw [ApplyCall.bypassSpecs, routeTargets_onePeerPlan, if_neg (by simp [inside_onePeerPlan.1])]

/-- The peers are replaced by none before the request that fails. -/
theorem update_interrupted : (addressCall true).update interruptedEnv onePeerPlan
    ⟨appliedRuntime device, kernel⟩ = (.interrupted "failed to read uapi response",
      ⟨appliedRuntime { device with peers := ∅ }, kernel⟩) := by
  obtain ⟨hex, decoded⟩ := privateKeyHex_addressCall true
  have codec : keyB64ToHex interruptedEnv.codec (addressCall true).app.node.privateKey = .ok hex := decoded
  have first : wgSet interruptedEnv ⟨device, 0⟩ "replace_peers=true" =
      (.ok (), ⟨{ device with peers := ∅ }, 1⟩) := by
    have answered : interruptedEnv.wg 0 = .answered := rfl
    simp [wgSet, answered, set_replacePeers]
  have second (device : Device) (body : String) : wgSet interruptedEnv ⟨device, 1⟩ body =
      (.error "failed to read uapi response", ⟨device, 2⟩) := by
    have failed : interruptedEnv.wg 1 = .failed 0 "failed to read uapi response" := rfl
    simp [wgSet, failed, Device.afterLines]
  have sends : sendAll interruptedEnv ⟨device, 0⟩ (uapiBodies (onePeerPlan.map PlannedTunnelPeer.peer)) =
      (.error "failed to read uapi response", ⟨{ device with peers := ∅ }, 2⟩) := by
    rw [uapiBodies, onePeerPlan_eq]
    simp only [List.map_cons, sendAll, first, second]
  have started : (⟨appliedRuntime device, kernel⟩ : TunnelSystem).ensureStarted interruptedEnv =
      (.ok device, ⟨appliedRuntime device, kernel⟩) := rfl
  have reused : (appliedRuntime device).selectListenPort interruptedEnv hex
      (addressCall true).app.node.listenPort ⟨device, 0⟩ = (.ok 51820, ⟨device, 0⟩) := rfl
  have last : (appliedRuntime device).lastFingerprint = some (addressFingerprint false) := rfl
  have kept := @keepDefaultRoute_onePeerPlan interruptedEnv ⟨appliedRuntime device, kernel⟩ rfl
  simp only [ApplyCall.update, kept, bypassSpecs_onePeerPlan, fingerprint_appliedRuntime, last, Option.some.injEq,
    addressFingerprint_ne, false_and, if_false, ApplyCall.reconfigure, started, codec, reused, ApplyCall.configure,
    sends]
  rfl

theorem update_unchanged : (addressCall false).update sampleEnv onePeerPlan ⟨appliedRuntime device, kernel⟩ =
    (.unchanged, ⟨appliedRuntime device, kernel⟩) := by
  have last : (appliedRuntime device).lastFingerprint = some (addressFingerprint false) := rfl
  have running : (appliedRuntime device).isRunning = true := rfl
  have peers : ApplyCall.runtimePeers sampleEnv (appliedRuntime device) = none := rfl
  have kept := @keepDefaultRoute_onePeerPlan sampleEnv ⟨appliedRuntime device, kernel⟩ rfl
  simp [ApplyCall.update, kept, bypassSpecs_onePeerPlan, fingerprint_appliedRuntime, last, running, peers,
    runtimePeerEndpointsRequireRefresh]

end Interrupted

theorem system_step_apply (history : TunnelHistory) (env : ApplyEnv) (call : ApplyCall) :
    (history.step (.apply env call)).system = (call.apply env history.system).system := rfl

theorem interruptedHistory_eq : ∃ device kernel, device.peers = ∅ ∧
    interruptedHistory.system = ⟨appliedRuntime device, kernel⟩ := by
  obtain ⟨device, kernel, applied⟩ := appliedHistory_eq
  have planned : ((addressCall true).plan interruptedEnv (appliedRuntime device)).1 = .ok onePeerPlan :=
    plan_addressCall true interruptedEnv.wg _
  obtain ⟨-, system⟩ := @apply_of_plan _ _ ⟨appliedRuntime device, kernel⟩ _ planned onePeerPlan_ne
  rw [update_interrupted] at system
  refine ⟨{ device with peers := ∅ }, kernel, rfl, ?_⟩
  rw [interruptedHistory, applied, system_step_apply, system]

/-- With the first address the fingerprint matches, with the second it does not; the device is empty. -/
theorem interruptedHistory_facts : appliedHistory.interrupted = false ∧
    (((addressCall false).apply sampleEnv interruptedHistory.system).returned = .unchanged ∧
      ((addressCall false).apply sampleEnv interruptedHistory.system).system.runtime.handle.map
        (fun device => device.peers.entries.length) = some 0) ∧
      ¬FingerprintMatches (addressCall true) sampleEnv interruptedHistory.system onePeerPlan := by
  obtain ⟨device, kernel, empty, interrupted⟩ := interruptedHistory_eq
  obtain ⟨returned, system⟩ := apply_of_plan (plan_addressCall false _ interruptedHistory.system.runtime)
    onePeerPlan_ne
  refine ⟨?_, ⟨?_, ?_⟩, ?_⟩
  · obtain ⟨_, _, applied⟩ := appliedHistory_eq
    rw [applied]
  · rw [returned, interrupted, update_unchanged]
  · rw [system, interrupted, update_unchanged]
    simp [appliedRuntime, empty]
  · rw [interrupted]
    exact fun same => addressFingerprint_ne (Option.some.inj same.2.1)

theorem applied_of_addresses : ((addressCall false).apply sampleEnv freshTunnel.system).returned = .applied := by
  obtain ⟨hex, decoded⟩ := privateKeyHex_addressCall false
  have kept := @keepDefaultRoute_onePeerPlan sampleEnv freshTunnel.system rfl
  have started : (ApplyCall.keepDefaultRoute sampleEnv (onePeerPlan.map PlannedTunnelPeer.peer)
      freshTunnel.system).ensureStarted sampleEnv = (.ok { peers := ∅ }, freshTunnel.system.start "utun100") := by
    rw [kept]
    rfl
  have changed : ¬FingerprintMatches (addressCall false) sampleEnv freshTunnel.system onePeerPlan :=
    fun same => by cases same.2.1
  exact (completed_iff_addresses_parse sampleEnv_willing sampleCodec_lawful
    (plan_addressCall false sampleEnv.wg _) onePeerPlan_ne (bypassSpecs_onePeerPlan _ _ _) changed started
    decoded).1.mpr parses_onePeerPlan

/-- Going back to the first address finds its fingerprint, and the device has no peer. -/
theorem stale_fingerprint_of_interrupted : ∃ events,
    Along TunnelHistory.step TunnelHistory.Lawful freshTunnel events ∧
      ¬Along TunnelHistory.step TunnelHistory.CarriesPlan freshTunnel events := by
  refine ⟨[.apply sampleEnv (addressCall false), .apply interruptedEnv (addressCall true),
    .apply sampleEnv (addressCall false)],
    ⟨lawful_addressCall _ _ _, lawful_addressCall _ _ _, lawful_addressCall _ _ _, trivial⟩, ?_⟩
  rintro ⟨-, -, carries, -⟩
  have stale : interruptedHistory.CarriesPlan (.apply sampleEnv (addressCall false)) := carries
  obtain ⟨-, ⟨returned, empty⟩, -⟩ := interruptedHistory_facts
  obtain ⟨device, handle, follows⟩ := stale onePeerPlan (plan_addressCall _ _ _) onePeerPlan_ne
    (congrArg ApplyReturn.result returned)
  have has : onePeerPlan.map PlannedTunnelPeer.peer ≠ [] := by simpa using onePeerPlan_ne
  obtain ⟨peer, mem⟩ := List.exists_mem_of_ne_nil _ has
  obtain ⟨key, entry, -, found, -⟩ := follows.complete peer mem
  rw [handle] at empty
  have none : device.peers.entries = [] := by simpa using empty
  simp [AList.lookup, none] at found

/-- An interrupted run that goes on with the new address, whose fingerprint is not the one kept. -/
theorem carriesPlan_along_of_retry :
    Along TunnelHistory.step TunnelHistory.CarriesPlan freshTunnel
      [.apply sampleEnv (addressCall false), .apply interruptedEnv (addressCall true),
        .apply sampleEnv (addressCall true)] := by
  refine TunnelHistory.carriesPlan_along _ _
    ⟨lawful_addressCall _ _ _, lawful_addressCall _ _ _, lawful_addressCall _ _ _, trivial⟩
    ⟨fun interrupted => (nomatch interrupted), fun interrupted => ?_, fun _ plan planned => ?_, trivial⟩
  · have clear := interruptedHistory_facts.1.symm.trans interrupted
    cases clear
  · obtain rfl := Except.ok.inj (planned.symm.trans (plan_addressCall _ _ _))
    exact interruptedHistory_facts.2.2

end NostrVpn.Cli
