import NostrVpn.Cli.AppliedPeers

/-!
# The peer table of the runtime

What an apply leaves in the peer table of the device for any plan, also one whose peers overlap: the peers of the
plan, or, at the fingerprint check, the table as it was.
-/
namespace NostrVpn.Cli

open Rust Rust.Net NostrVpn.Core WireGuard Linux

/-! ## Tables -/

/-- The peer table of the device, which is empty without one. -/
def CliTunnelRuntime.peers (runtime : CliTunnelRuntime) : HashMap Key Peer :=
  runtime.handle.elim ∅ Device.peers

/-- Two peers have neither the key nor a prefix in common. -/
def TunnelPeer.Apart (x y : TunnelPeer) : Prop :=
  Key.parse x.pubkeyHex ≠ Key.parse y.pubkeyHex ∧ ∀ ip ∈ peerPrefixes x, ip ∉ peerPrefixes y

/-- A table of exactly the given peers: an entry for the key of each and no other, with prefixes of peers with
that key only. A peer that is apart from the other ones has all its prefixes. -/
structure HasPeers (table : HashMap Key Peer) (peers : List TunnelPeer) : Prop where
  readable : ∀ peer ∈ peers, Readable peer
  listed : ∀ key, (table.lookup key).isSome ↔ ∃ peer ∈ peers, Key.parse peer.pubkeyHex = some key
  routed : ∀ key entry, table.lookup key = some entry → ∀ ip ∈ entry.allowedIps,
    ∃ peer ∈ peers, Key.parse peer.pubkeyHex = some key ∧ ip ∈ peerPrefixes peer
  given : ∀ peer ∈ peers, (∀ other ∈ peers, other ≠ peer → TunnelPeer.Apart other peer) →
    ∀ key entry, Key.parse peer.pubkeyHex = some key → table.lookup key = some entry →
      ∀ ip ∈ peerPrefixes peer, ip ∈ entry.allowedIps

section Tables
variable {table : HashMap Key Peer} {peers peers' : List TunnelPeer}

theorem HasPeers.congr (h : HasPeers table peers) (same : ∀ peer, peer ∈ peers ↔ peer ∈ peers') :
    HasPeers table peers' where
  readable := by simpa only [same] using h.readable
  listed := by simpa only [same] using h.listed
  routed := by simpa only [same] using h.routed
  given := by simpa only [same] using h.given

theorem hasPeers_nil : HasPeers table [] ↔ ∀ key, table.lookup key = none := by
  constructor
  · intro h key
    simpa using h.listed key
  · intro empty
    exact ⟨by simp, by simp [empty], by simp [empty], by simp⟩

end Tables

/-- The requests of a plan that all succeed leave the peers of the plan. -/
theorem hasPeers_of_setAll {ctx : PlanContext} {book : PeerPathBook} {plan : List PlannedTunnelPeer}
    (codec : ctx.codec.Lawful) (h : (plannedTunnelPeersForLocalEndpoints ctx book).1 = .ok plan)
    {device device' : Device}
    (sent : setAll device (uapiBodies (plan.map PlannedTunnelPeer.peer)) = .ok device') :
    HasPeers device'.peers (plan.map PlannedTunnelPeer.peer) := by
  obtain ⟨readable, rfl⟩ := (setAll_uapiBodies (shaped_plan codec h) device device').mp sent
  have took : Device.Took _ (plan.filterMap configOf) := (Device.Took.nil device).putPeers 5
  -- A configuration is that of a planned peer, with its key and its prefixes.
  have peerOf {config : PeerConfig} (listed : config ∈ plan.filterMap configOf) :
      ∃ peer ∈ plan.map PlannedTunnelPeer.peer, Key.parse peer.pubkeyHex = some config.key ∧
        peerPrefixes peer = config.allowedIps := by
    obtain ⟨planned, mem, eq⟩ := List.mem_filterMap.mp listed
    obtain ⟨a, config', routes, -, shape, -⟩ := exists_reachable codec h mem
    obtain rfl := Option.some.inj (shape.configOf_eq.symm.trans eq)
    exact ⟨planned.peer, List.mem_map_of_mem mem, by rw [shape.pubkeyHex, Key.parse_fmt],
      shape.prefixes.symm⟩
  refine ⟨readable, fun key => (took.listed key).trans ⟨?_, ?_⟩, ?_, ?_⟩
  · rintro ⟨config, listed, rfl⟩
    obtain ⟨peer, mem, parsed, -⟩ := peerOf listed
    exact ⟨peer, mem, parsed⟩
  · rintro ⟨peer, mem, parsed⟩
    obtain ⟨planned, inPlan, rfl⟩ := List.mem_map.mp mem
    obtain ⟨a, config, routes, -, shape, -⟩ := exists_reachable codec h inPlan
    rw [shape.pubkeyHex, Key.parse_fmt] at parsed
    exact ⟨config, List.mem_filterMap.mpr ⟨planned, inPlan, shape.configOf_eq⟩, Option.some.inj parsed⟩
  · intro key entry found ip held
    obtain ⟨config, listed, rfl, put⟩ := took.routed key entry found ip held
    obtain ⟨peer, mem, parsed, prefixes⟩ := peerOf listed
    exact ⟨peer, mem, parsed, prefixes ▸ put⟩
  · intro peer mem alone key entry parsed found
    obtain ⟨planned, inPlan, rfl⟩ := List.mem_map.mp mem
    obtain ⟨a, config, routes, -, shape, -⟩ := exists_reachable codec h inPlan
    rw [shape.pubkeyHex, Key.parse_fmt] at parsed
    obtain rfl := Option.some.inj parsed
    rw [← shape.prefixes]
    refine (took.given config (List.mem_filterMap.mpr ⟨planned, inPlan, shape.configOf_eq⟩) ?_ entry found).2
    intro other listed ne
    obtain ⟨otherPlanned, memOther, eq⟩ := List.mem_filterMap.mp listed
    obtain ⟨b, other', routes', -, shape', -⟩ := exists_reachable codec h memOther
    obtain rfl := Option.some.inj (shape'.configOf_eq.symm.trans eq)
    have differ : otherPlanned.peer ≠ planned.peer := by
      intro same
      have configs : configOf otherPlanned = configOf planned := by simp only [configOf, same]
      rw [shape'.configOf_eq, shape.configOf_eq] at configs
      exact ne (Option.some.inj configs)
    obtain ⟨keys, disjoint⟩ := alone otherPlanned.peer (List.mem_map_of_mem memOther) differ
    rw [shape'.pubkeyHex, shape.pubkeyHex, Key.parse_fmt, Key.parse_fmt] at keys
    rw [← shape'.prefixes, ← shape.prefixes] at disjoint
    exact ⟨fun same => keys (congrArg some same), disjoint⟩

/-! ## One apply -/

/-- The fingerprint that the runtime keeps, if any, is of peers that the device has. -/
def FingerprintStands (runtime : CliTunnelRuntime) : Prop :=
  ∀ fingerprint, runtime.lastFingerprint = some fingerprint → ∃ head peers, peers ≠ [] ∧
    (∀ peer ∈ peers, Entry peer) ∧ HasPeers runtime.peers peers ∧
      fingerprint = tunnelRuntimeFingerprint (head ++ "|" ++ join ";" (sort (peers.map peerEntry)))
        (routeTargetsForTunnelPeers peers)

/-- The apply has a plan with peers and returns at the fingerprint check. -/
def ApplyCall.Skips (call : ApplyCall) (env : ApplyEnv) (sys : TunnelSystem) : Prop :=
  ∃ plan, (call.plan env sys.runtime).1 = .ok plan ∧ plan ≠ [] ∧ FingerprintMatches call env sys plan

section Apply
variable {env : ApplyEnv} {call : ApplyCall} {sys : TunnelSystem} {plan : List PlannedTunnelPeer}

theorem fingerprintStands_congr {runtime runtime' : CliTunnelRuntime} (handle : runtime'.handle = runtime.handle)
    (last : runtime'.lastFingerprint = runtime.lastFingerprint) :
    FingerprintStands runtime' ↔ FingerprintStands runtime := by
  simp only [FingerprintStands, CliTunnelRuntime.peers, handle, last]

/-- Where an apply with a plan ends: it fails and keeps the fingerprint, it returns at the fingerprint check and
keeps the device as well, or it leaves the peers of the plan and a fingerprint that stands for them. -/
theorem apply_cases (codec : env.codec.Lawful) (planned : (call.plan env sys.runtime).1 = .ok plan) :
    ((∃ error, (call.apply env sys).returned.result = .error error) ∧
      (call.apply env sys).system.runtime.lastFingerprint = sys.runtime.lastFingerprint) ∨
    (plan ≠ [] ∧ FingerprintMatches call env sys plan ∧
      (call.apply env sys).system.runtime.handle = sys.runtime.handle ∧
      (call.apply env sys).system.runtime.lastFingerprint = sys.runtime.lastFingerprint) ∨
    (¬call.Skips env sys ∧
      HasPeers (call.apply env sys).system.runtime.peers (plan.map PlannedTunnelPeer.peer) ∧
      FingerprintStands (call.apply env sys).system.runtime) := by
  by_cases none : plan = []
  · subst none
    refine .inr (.inr ⟨?_, ?_, ?_⟩)
    · rintro ⟨other, same, ne, -⟩
      exact ne (Except.ok.inj (same.symm.trans planned))
    · rw [(apply_of_nil planned).2]
      exact hasPeers_nil.mpr fun key => rfl
    · rw [(apply_of_nil planned).2]
      exact fun fingerprint last => nomatch last
  · obtain ⟨returned, system⟩ := apply_of_plan planned none
    obtain ⟨route, kept⟩ := runtime_keepDefaultRoute env (plan.map PlannedTunnelPeer.peer) sys
    rw [returned, system]
    rcases update_cases env call plan sys with ⟨error, result⟩ | ⟨result, check⟩ |
      ⟨specs, -, changed, result⟩
    · rw [result]
      exact .inl ⟨⟨error, rfl⟩, by rw [kept]⟩
    · rw [result]
      exact .inr (.inl ⟨none, check, by rw [kept], by rw [kept]⟩)
    · have applies : ¬call.Skips env sys := by
        rintro ⟨other, same, -, check⟩
        obtain rfl := Except.ok.inj (same.symm.trans planned)
        exact changed check
      rw [result]
      rcases reconfigure_cases codec call (plan.map PlannedTunnelPeer.peer) specs _ with
        ⟨error, failed⟩ | ⟨error, mid, failed, resumes⟩ | ⟨next, mid, configured, resumes, -⟩
      · rw [failed]
        exact .inl ⟨⟨error, rfl⟩, by rw [kept]⟩
      · rw [failed]
        exact .inl ⟨⟨error, rfl⟩, resumes.lastFingerprint.trans (by rw [kept])⟩
      · have last : mid.runtime.lastFingerprint = sys.runtime.lastFingerprint :=
          resumes.lastFingerprint.trans (by rw [kept])
        rw [configured]
        rcases configure_cases env call (plan.map PlannedTunnelPeer.peer) specs next mid with
          ⟨error, session, -, result⟩ |
          ⟨session, sent, after, eq, ⟨error, kernel, -, result⟩ | ⟨kernel, -, result⟩⟩
        · rw [result]
          exact .inl ⟨⟨error, rfl⟩, last⟩
        · rw [result, eq]
          exact .inl ⟨⟨error, rfl⟩, last⟩
        · have codec' : (call.context env sys.runtime).codec.Lawful := codec
          have has := hasPeers_of_setAll codec' planned sent
          have table : after.runtime.peers = session.device.peers := by
            rw [eq]
            rfl
          rw [result]
          refine .inr (.inr ⟨applies, table ▸ has, fun fingerprint stored => ?_⟩)
          obtain ⟨head, shape⟩ := fingerprint_eq call after.runtime (plan.map PlannedTunnelPeer.peer)
          exact ⟨head, _, by simpa using none, entry_of_planned codec' planned, table ▸ has,
            (Option.some.inj stored).symm.trans shape⟩

theorem not_skips_of_applied (applied : (call.apply env sys).returned = .applied) : ¬call.Skips env sys := by
  rintro ⟨plan, planned, ne, check⟩
  rw [(apply_of_plan planned ne).1] at applied
  rcases update_cases env call plan sys with ⟨error, result⟩ | ⟨result, -⟩ | ⟨specs, -, changed, -⟩
  · rw [result] at applied
    cases applied
  · rw [result] at applied
    cases applied
  · exact changed check

/-- An apply that is completed notes the endpoints of its plan. -/
theorem book_apply_of_applied {book : PeerPathBook} (planned : call.plan env sys.runtime = (.ok plan, book))
    (applied : (call.apply env sys).returned = .applied) : (call.apply env sys).book =
      plan.foldl (fun book planned => book.noteSelected planned.participant planned.endpoint call.now) book := by
  unfold ApplyCall.apply at applied ⊢
  rw [planned] at applied ⊢
  cases plan with
  | nil => cases applied
  | cons first rest =>
    dsimp only at applied ⊢
    rw [if_pos applied]

/-- At the fingerprint check the device has the peers of the plan exactly when the fingerprint stands. -/
theorem hasPeers_iff_of_matches (codec : env.codec.Lawful) (planned : (call.plan env sys.runtime).1 = .ok plan)
    (ne : plan ≠ []) (check : FingerprintMatches call env sys plan) :
    HasPeers sys.runtime.peers (plan.map PlannedTunnelPeer.peer) ↔ FingerprintStands sys.runtime := by
  have codec' : (call.context env sys.runtime).codec.Lawful := codec
  have entries := entry_of_planned codec' planned
  have ne' : plan.map PlannedTunnelPeer.peer ≠ [] := by simpa using ne
  obtain ⟨head, fingerprint⟩ := fingerprint_eq call sys.runtime (plan.map PlannedTunnelPeer.peer)
  obtain ⟨-, last, -⟩ := check
  constructor
  · intro has stored same
    rw [last] at same
    exact ⟨head, _, ne', entries, has, (Option.some.inj same).symm.trans fingerprint⟩
  · intro stands
    obtain ⟨head', old, neOld, entriesOld, has, eq⟩ := stands _ last
    obtain ⟨-, same⟩ := peers_of_fingerprint_eq neOld ne' entriesOld entries has.readable
      (eq.symm.trans fingerprint)
    exact has.congr same

/-- Without a kept fingerprint an apply leaves one that stands, however it ends. -/
theorem fingerprintStands_of_fresh (codec : env.codec.Lawful) (fresh : sys.runtime.lastFingerprint = none) :
    FingerprintStands (call.apply env sys).system.runtime := by
  have kept {runtime : CliTunnelRuntime} (last : runtime.lastFingerprint = sys.runtime.lastFingerprint) :
      FingerprintStands runtime := by
    intro fingerprint stored
    rw [last, fresh] at stored
    cases stored
  cases planned : (call.plan env sys.runtime).1 with
  | error error =>
    rw [(apply_of_error planned).2]
    exact kept rfl
  | ok plan =>
    rcases apply_cases codec planned with ⟨-, last⟩ | ⟨-, -, -, last⟩ | ⟨-, -, stands⟩
    · exact kept last
    · exact kept last
    · exact stands

end Apply

/-! ## An update that is completed -/

section Completed
variable {call : ApplyCall} {sys mid : TunnelSystem} {device : Device} {plan : List PlannedTunnelPeer}
  {book : PeerPathBook}

/-- Every prefix of the peers is one, and none needs a route around the tunnel. -/
def Plain (peers : List TunnelPeer) : Prop :=
  (∀ peer ∈ peers, ∀ ip ∈ peer.allowedIps, (IpPrefix.ofText ip).isSome) ∧
    routeTargetsRequireEndpointBypass (routeTargetsForTunnelPeers peers) = false ∧
    defaultTarget ∉ routeTargetsForTunnelPeers peers

instance (peers : List TunnelPeer) : Decidable (Plain peers) := inferInstanceAs (Decidable (_ ∧ _ ∧ _))

/-- The sample machine does not say what its peers are, so a plan does not depend on the runtime. -/
theorem plan_sampleEnv (call : ApplyCall) (runtime runtime' : CliTunnelRuntime) :
    call.plan sampleEnv runtime = call.plan sampleEnv runtime' := by
  have peers (runtime : CliTunnelRuntime) : ApplyCall.runtimePeers sampleEnv runtime = none := by
    simp [ApplyCall.runtimePeers, sampleEnv]
  simp only [ApplyCall.plan, ApplyCall.recordedBook, peers]
  rfl

/-- The runtime on the interface of the sample machine with the sample port. -/
def portRuntime : CliTunnelRuntime := { iface := "utun100", activeListenPort := some 51820 }

/-- The tunnel of the sample machine with a device and the fingerprint. -/
structure RunsWith (sys : TunnelSystem) (fingerprint : String) : Prop where
  iface : sys.runtime.iface = "utun100"
  port : sys.runtime.activeListenPort = some 51820
  original : sys.runtime.originalDefaultRoute = none
  handle : sys.runtime.handle.isSome = true
  last : sys.runtime.lastFingerprint = some fingerprint

theorem fingerprint_of_runsWith {fingerprint : String} (runs : RunsWith sys fingerprint) (peers : List TunnelPeer) :
    call.fingerprint sys.runtime peers = call.fingerprint portRuntime peers := by
  rw [ApplyCall.fingerprint, CliTunnelRuntime.listenPort, runs.port, runs.iface]
  rfl

theorem runsWith_completed {hex : String} (iface : mid.runtime.iface = "utun100")
    (port : mid.runtime.listenPort call.app.node.listenPort = 51820)
    (original : mid.runtime.originalDefaultRoute = none) :
    RunsWith (completed sampleEnv call plan
      ((configured call hex device plan mid).reconcileLinuxEndpointBypassRoutes sampleEnv []))
      (call.fingerprint portRuntime (plan.map PlannedTunnelPeer.peer)) where
  iface := iface
  port := congrArg some port
  original := original
  handle := rfl
  last := by
    have active : (some (mid.runtime.listenPort call.app.node.listenPort)).getD call.app.node.listenPort = 51820 :=
      port
    refine congrArg some ?_
    simp only [ApplyCall.fingerprint, CliTunnelRuntime.listenPort, portRuntime, Option.getD_some]
    change tunnelRuntimeFingerprint (tunnelFingerprint mid.runtime.iface _
      ((some (mid.runtime.listenPort call.app.node.listenPort)).getD call.app.node.listenPort) _ _) _ = _
    rw [active, iface]

/-- An update with a plain plan is completed on a tunnel that is not up yet or keeps another fingerprint. -/
theorem apply_of_plain (planned : call.plan sampleEnv sys.runtime = (.ok plan, book)) (ne : plan ≠ [])
    (plain : Plain (plan.map PlannedTunnelPeer.peer))
    (privateKey : call.app.node.privateKey = ((sampleKeys.map Prod.fst)[2]?).getD "")
    (port : call.app.node.listenPort = 51820)
    (tunnel : sys = ⟨{ iface := "utun100" }, ⟨∅, []⟩⟩ ∨ ∃ fingerprint, RunsWith sys fingerprint ∧
      fingerprint ≠ call.fingerprint portRuntime (plan.map PlannedTunnelPeer.peer)) :
    (call.apply sampleEnv sys).returned = .applied ∧
      RunsWith (call.apply sampleEnv sys).system
        (call.fingerprint portRuntime (plan.map PlannedTunnelPeer.peer)) := by
  obtain ⟨parses, inside, noDefault⟩ := plain
  obtain ⟨hex, decoded⟩ : ∃ hex, keyB64ToHex sampleCodec call.app.node.privateKey = .ok hex := by
    rw [privateKey]
    exact ⟨_, rfl⟩
  rcases tunnel with rfl | ⟨fingerprint, runs, other⟩
  · have started : (⟨{ iface := "utun100" }, ⟨∅, []⟩⟩ : TunnelSystem).ensureStarted sampleEnv =
        (.ok { peers := ∅ }, TunnelSystem.start ⟨{ iface := "utun100" }, ⟨∅, []⟩⟩ "utun100") := rfl
    obtain ⟨returned, system⟩ := apply_willing sampleEnv_willing sampleCodec_lawful planned ne parses inside noDefault
      rfl (fun last => by cases last) started decoded
    rw [system]
    exact ⟨returned, runsWith_completed rfl port rfl⟩
  · obtain ⟨device, handle⟩ := Option.isSome_iff_exists.mp runs.handle
    have started : sys.ensureStarted sampleEnv = (.ok device, sys) := by
      simp [TunnelSystem.ensureStarted, handle]
    have active : sys.runtime.listenPort call.app.node.listenPort = 51820 := by
      rw [CliTunnelRuntime.listenPort, runs.port]
      rfl
    obtain ⟨returned, system⟩ := apply_willing sampleEnv_willing sampleCodec_lawful planned ne parses inside noDefault
      runs.original (by rw [runs.last, fingerprint_of_runsWith runs]; exact fun eq => other (Option.some.inj eq)) started decoded
    rw [system]
    exact ⟨returned, runsWith_completed runs.iface active runs.original⟩

end Completed

end NostrVpn.Cli
