import NostrVpn.Gui.AndroidLifecycle
import NostrVpn.Gui.TunnelFingerprint

/-!
# The cached fingerprint of the Android tunnel

`reconcile_tunnel` keeps its tunnel when the fingerprint of the new plan is the cached one. A tunnel task that
ends by itself leaves the fingerprint and its handle: the fingerprint tells what the tunnel was started with, but
not that it runs.
-/
namespace NostrVpn.Gui

open Rust Rust.Net NostrVpn.Core Transition
open NostrVpn.Cli (stripCidr otherParticipants)

/-- The decoder of keys takes no separators, and neither does the VPN service in a host address. -/
structure MobileEnv.Lawful {Tunn : Type} (env : MobileEnv Tunn) : Prop where
  base64 : ∀ text bytes, env.codec.decodeBase64 text = .ok bytes → Separable text
  vpn : ∀ host, '/' ∉ host.toList → env.vpnAccepts (host ++ "/32") = true → Separable host

/-! ## Plans with one fingerprint -/

/-- Two plans ask for the same peers and routes. -/
def SamePlan (plan plan' : List PlannedTunnelPeer) : Prop :=
  (wireGuardPeerConfigs plan).Perm (wireGuardPeerConfigs plan') ∧
    routeTargetsForTunnelPeers plan = routeTargetsForTunnelPeers plan'

theorem samePlan_refl (plan : List PlannedTunnelPeer) : SamePlan plan plan := ⟨.refl _, rfl⟩

theorem samePlan_of_perm {plan plan' : List PlannedTunnelPeer}
    (named : ∀ p ∈ plan, p.peer.participant = p.participant)
    (named' : ∀ p ∈ plan', p.peer.participant = p.participant)
    (perm : (plan.map PlannedTunnelPeer.peer).Perm (plan'.map PlannedTunnelPeer.peer)) : SamePlan plan plan' := by
  have configs {plan : List PlannedTunnelPeer} (named : ∀ p ∈ plan, p.peer.participant = p.participant) :
      wireGuardPeerConfigs plan = (plan.map PlannedTunnelPeer.peer).map fun peer =>
        { participantPubkey := peer.participant, publicKey := peer.pubkeyB64, endpoint := peer.endpoint,
          allowedIps := peer.allowedIps } := by
    rw [List.map_map]
    exact List.map_congr_left fun p mem => by simp [named p mem]
  refine ⟨?_, sortDedup_congr fun route => ?_⟩
  · rw [configs named, configs named']
    exact perm.map _
  · have routes (plan : List PlannedTunnelPeer) : (plan.flatMap fun planned => planned.peer.allowedIps) =
        (plan.map PlannedTunnelPeer.peer).flatMap TunnelPeer.allowedIps := by rw [List.flatMap_map]
    rw [routes, routes]
    exact (perm.flatMap_right _).mem_iff

/-- The plan has no separators in its texts, and neither have the announcements, of which there are as many. -/
structure Settled (others : List String) (known : HashMap String PeerAnnouncement)
    (plan : List PlannedTunnelPeer) : Prop where
  ne : plan ≠ []
  named : ∀ p ∈ plan, p.peer.participant = p.participant
  clean : ∀ p ∈ plan, p.peer.Separable
  routed : ∀ p ∈ plan, p.peer.Routed
  length : plan.length = (others.filter fun participant => (known.lookup participant).isSome).length
  known : ∀ participant ∈ others, ∀ a, known.lookup participant = some a →
    Separable a.publicKey ∧ Separable (stripCidr a.tunnelIp)

theorem separable_append {s t : String} : Separable (s ++ t) ↔ Separable s ∧ Separable t := by
  simp only [Separable, String.toList_append, List.mem_append, not_or]
  exact ⟨fun h => ⟨fun c mem => (h c mem).1, fun c mem => (h c mem).2⟩, fun h c mem => ⟨h.1 c mem, h.2 c mem⟩⟩

section Plans
variable {ctx : PlanContext} {book : PeerPathBook} {plan : List PlannedTunnelPeer}

theorem separable_of_announcement {planned : PlannedTunnelPeer} {a : PeerAnnouncement}
    (source : AnnouncedAs ctx planned a) (name : Separable planned.participant) (key : Separable a.publicKey)
    (host : Separable (stripCidr a.tunnelIp)) : planned.peer.Separable where
  participant := source.participant ▸ name
  pubkeyB64 := source.pubkeyB64 ▸ key
  allowedIps ip mem := by
    obtain ⟨routes, clean, eq⟩ := source.allowedIps
    rw [eq, List.mem_cons] at mem
    rcases mem with rfl | mem
    · exact separable_append.mpr ⟨host, by decide⟩
    · exact clean ip mem

/-- A plan without separators in its texts, and the announcements that it was made from. -/
theorem settled_of_plan (made : (androidPlannedTunnelPeers ctx book).1 = .ok plan) (ne : plan ≠ [])
    (clean : ∀ p ∈ plan, p.peer.Separable) :
    Settled (otherParticipants ctx.app ctx.ownPubkey) ctx.announcements plan := by
  obtain ⟨source, perm⟩ := plan_of_androidPlannedTunnelPeers made
  refine ⟨ne, fun p mem => (source p mem).elim fun _ s => s.participant, clean,
    fun p mem => (source p mem).elim fun _ s => s.routed, ?_, fun participant other a found => ?_⟩
  · rw [← perm.length_eq, List.length_map]
  · have listed := perm.mem_iff.mpr (List.mem_filter.mpr ⟨other, by simp [found]⟩)
    obtain ⟨p, mem, rfl⟩ := List.mem_map.mp listed
    obtain ⟨a', from'⟩ := source p mem
    obtain rfl := Option.some.inj (found.symm.trans from'.announced)
    refine ⟨from'.pubkeyB64 ▸ (clean p mem).pubkeyB64, ?_⟩
    obtain ⟨routes, -, eq⟩ := from'.allowedIps
    exact (separable_append.mp ((clean p mem).allowedIps _ (by rw [eq]; exact List.mem_cons_self))).1

/-- No announcement is lost, or none is new. -/
theorem known_kept_or_old (presence : PeerPresenceBook) (sender : String) (payload : SignalPayload) (now : Nat) :
    (∀ p, (presence.known.lookup p).isSome → ((presence.applySignal sender payload now).2.known.lookup p).isSome) ∨
    ∀ p a, (presence.applySignal sender payload now).2.known.lookup p = some a →
      presence.known.lookup p = some a := by
  cases payload with
  | Announce announcement =>
    refine .inl fun p known => ?_
    simp only [PeerPresenceBook.applySignal, PeerPresenceBook.known_applyAnnounce]
    split_ifs
    · rfl
    · exact known
  | Disconnect node =>
    refine .inr fun p a found => ?_
    simp only [PeerPresenceBook.applySignal] at found
    by_cases same : p = sender
    · rw [same, AList.lookup_erase] at found
      cases found
    · rwa [AList.lookup_erase_ne same] at found
  | Hello => exact .inl fun p known => known
  | Roster roster => exact .inl fun p known => known
  | JoinRequest at' request => exact .inl fun p known => known

/-- A plan with the fingerprint of the plan before, made after one more signal, asks for the same. -/
theorem Settled.hit {config : AppConfig} {port : UInt16} {presence : PeerPresenceBook} {sender : String}
    {payload : SignalPayload} {now : Nat} {planned : List PlannedTunnelPeer}
    (settled : Settled (otherParticipants ctx.app ctx.ownPubkey) presence.known plan)
    (heard : ctx.announcements = (presence.applySignal sender payload now).2.known)
    (names : ∀ p ∈ ctx.app.participantPubkeysHex, Separable p)
    (made : (androidPlannedTunnelPeers ctx book).1 = .ok planned) (ne : planned ≠ [])
    (eq : tunnelFingerprint config port plan = tunnelFingerprint config port planned) :
    SamePlan plan planned ∧ Settled (otherParticipants ctx.app ctx.ownPubkey) ctx.announcements planned := by
  obtain ⟨source, perm⟩ := plan_of_androidPlannedTunnelPeers made
  have routed : ∀ p ∈ planned, p.peer.Routed := fun p mem => (source p mem).elim fun _ s => s.routed
  have clean : ∀ p ∈ planned, p.peer.Separable := by
    rcases known_kept_or_old presence sender payload now with kept | old
    · refine separable_of_tunnelFingerprint settled.ne settled.clean settled.routed routed ?_ eq
      have count := perm.length_eq
      rw [List.length_map] at count
      rw [settled.length, count, heard]
      exact (List.Sublist.length_le (List.monotone_filter_right _ fun p known => kept p known))
    · intro p mem
      obtain ⟨a, from'⟩ := source p mem
      have announced := from'.announced
      rw [heard] at announced
      obtain ⟨key, host⟩ := settled.known p.participant from'.other a (old _ _ announced)
      exact separable_of_announcement from' (names _ (List.mem_filter.mp from'.other).1) key host
  refine ⟨samePlan_of_perm settled.named (fun p mem => (source p mem).elim fun _ s => s.participant) ?_,
    settled_of_plan made ne clean⟩
  exact perm_peers_of_tunnelFingerprint settled.ne ne settled.clean clean settled.routed routed eq

end Plans

namespace AndroidState

variable {Tunn : Type} (env : MobileEnv Tunn)

/-- What `reconcile_tunnel` plans. -/
def planOf (session : AndroidSession) (detected : Option Ipv4Addr) (now : Nat) :
    Except String (List PlannedTunnelPeer) :=
  (androidPlannedTunnelPeers (planContext env session detected now) session.pathBook).1

/-- The held tunnel task has not ended. -/
def Alive (state : AndroidState Tunn) : Prop :=
  ∃ tunnel task, state.held = some tunnel ∧ state.tunnels[tunnel.task]? = some task ∧ task.ended = none

/-- The event does not end the held tunnel task. -/
def Spares (state : AndroidState Tunn) : Event → Prop
  | .tunnel index event => state.held.map ActiveTunnelTask.task = some index →
    ∀ task ∈ state.tunnels[index]?, (task.step env.boringtun event).ended = none
  | _ => True

/-- The plan has the cached fingerprint. -/
def CacheHit (session : AndroidSession) (planned : List PlannedTunnelPeer) : Prop :=
  session.currentFingerprint = some (tunnelFingerprint session.config session.currentListenPort planned)

/-- What a call of `reconcile_tunnel` that returns leaves. -/
inductive Reconciled (state : AndroidState Tunn) (session : AndroidSession) (planned : List PlannedTunnelPeer) :
    AndroidState Tunn → AndroidSession → Prop
  | emptied {session' : AndroidSession} (empty : planned = []) (held : session'.currentTunnel = none)
      (cached : session'.currentFingerprint = none) :
      Reconciled state session planned (state.stopTunnelOrVpn session.currentTunnel) session'
  | kept {session' : AndroidSession} (ne : planned ≠ []) (hit : CacheHit session planned)
      (config : session'.config = session.config) (presence : session'.presence = session.presence)
      (held : session'.currentTunnel = session.currentTunnel)
      (port : session'.currentListenPort = session.currentListenPort)
      (cached : session'.currentFingerprint = session.currentFingerprint) :
      Reconciled state session planned state session'
  | started {state' : AndroidState Tunn} {session' : AndroidSession} (ne : planned ≠ [])
      (miss : ¬ CacheHit session planned) {before : List (TunnelTask Tunn)} {task : TunnelTask Tunn}
      (length : before.length = state.tunnels.length) (tunnels : state'.tunnels = before ++ [task])
      (runs : task.ended = none) (config : session'.config = session.config)
      (presence : session'.presence = session.presence)
      (accepted : ∀ route ∈ routeTargetsForTunnelPeers planned, env.vpnAccepts route = true)
      (runtime : .ok task.runtime = MobileWireGuardRuntime.new env.boringtun env.codec
        session.config.node.privateKey (wireGuardPeerConfigs planned))
      (routes : state'.vpn.getLast? = some (.start (localInterfaceAddressForTunnel session.config.node.tunnelIp)
        (routeTargetsForTunnelPeers planned)))
      (held : session'.currentTunnel = some ⟨session'.currentListenPort, state.tunnels.length⟩)
      (cached : session'.currentFingerprint =
        some (tunnelFingerprint session'.config session'.currentListenPort planned)) :
      Reconciled state session planned state' session'

variable {env} {state : AndroidState Tunn} {session session' : AndroidSession}

/-- Starting a tunnel fails without a new task, or adds one that runs the plan. -/
theorem startTunnelTask_cases (planned : List PlannedTunnelPeer) (config : AppConfig) (outcome : StartOutcome)
    (state : AndroidState Tunn) :
    (∃ e, (state.startTunnelTask env planned config outcome).1 = .error e ∧
      (state.startTunnelTask env planned config outcome).2.tunnels = state.tunnels) ∨
    ∃ tunnel task, (state.startTunnelTask env planned config outcome).1 = .ok tunnel ∧
      tunnel.task = state.tunnels.length ∧ task.ended = none ∧
      (state.startTunnelTask env planned config outcome).2.tunnels = state.tunnels ++ [task] ∧
      (∀ route ∈ routeTargetsForTunnelPeers planned, env.vpnAccepts route = true) ∧
      .ok task.runtime = MobileWireGuardRuntime.new env.boringtun env.codec config.node.privateKey
        (wireGuardPeerConfigs planned) ∧
      (state.startTunnelTask env planned config outcome).2.vpn.getLast? =
        some (.start (localInterfaceAddressForTunnel config.node.tunnelIp) (routeTargetsForTunnelPeers planned)) := by
  cases bound : outcome.listenPort with
  | none => exact .inl ⟨.socket, by simp [startTunnelTask, bound]⟩
  | some listenPort =>
    unfold startTunnelTask
    rw [bound]
    dsimp only
    by_cases accepted : (localInterfaceAddressForTunnel config.node.tunnelIp ::
        routeTargetsForTunnelPeers planned).all env.vpnAccepts
    · rw [accepted, Bool.not_true, if_neg Bool.false_ne_true]
      cases outcome.tunFd with
      | none => exact .inl ⟨_, rfl, rfl⟩
      | some tunFd =>
        dsimp only
        split_ifs
        · exact .inl ⟨_, rfl, rfl⟩
        · exact .inl ⟨_, rfl, rfl⟩
        · exact .inl ⟨_, rfl, rfl⟩
        · split
          · exact .inl ⟨_, rfl, rfl⟩
          · next made => exact .inr ⟨_, _, rfl, rfl, rfl, rfl, fun route mem => List.all_eq_true.mp accepted route
              (List.mem_cons_of_mem _ mem), made.symm, by simp⟩
    · exact .inl ⟨.vpnRefused, by simp [accepted]⟩

theorem length_stopTunnel (state : AndroidState Tunn) (tunnel : Option ActiveTunnelTask) :
    ((tunnel.map state.stopTunnelTask).getD state).tunnels.length = state.tunnels.length := by
  cases tunnel <;> simp [stopTunnelTask, stopVpn]

theorem length_stopTunnelOrVpn (state : AndroidState Tunn) (tunnel : Option ActiveTunnelTask) :
    (state.stopTunnelOrVpn tunnel).tunnels.length = state.tunnels.length := by
  cases tunnel <;> simp [stopTunnelOrVpn, stopTunnelTask, stopVpn]

/-- A call that fails adds no tunnel task. -/
theorem length_reconcileTunnel {detected : Option Ipv4Addr} {now : Nat} {outcome : StartOutcome}
    {reason : SessionEnd} (failed : (state.reconcileTunnel env detected now outcome session).1 = .error reason) :
    (state.reconcileTunnel env detected now outcome session).2.tunnels.length = state.tunnels.length := by
  unfold reconcileTunnel at failed ⊢
  generalize androidPlannedTunnelPeers (planContext env session detected now) session.pathBook = plan at failed ⊢
  obtain ⟨_ | planned, pathBook⟩ := plan
  · rfl
  · dsimp only at failed ⊢
    split_ifs at failed ⊢
    rcases @startTunnelTask_cases Tunn env planned session.config outcome
      ((session.currentTunnel.map state.stopTunnelTask).getD state) with ⟨e, ended, same⟩ | ⟨tunnel, task, started, -⟩
    · generalize startTunnelTask env planned session.config outcome _ = result at ended same ⊢
      obtain ⟨result, after⟩ := result
      subst ended
      exact (congrArg List.length same).trans (length_stopTunnel state _)
    · generalize startTunnelTask env planned session.config outcome _ = result at started failed
      obtain ⟨result, after⟩ := result
      subst started
      cases failed

/-- A call that returns has planned, and leaves one of three states. -/
theorem reconciled_of_ok {detected : Option Ipv4Addr} {now : Nat} {outcome : StartOutcome}
    (ok : (state.reconcileTunnel env detected now outcome session).1 = .ok session') :
    ∃ planned, planOf env session detected now = .ok planned ∧ Reconciled env state session planned
      (state.reconcileTunnel env detected now outcome session).2 session' := by
  unfold planOf
  unfold reconcileTunnel at ok ⊢
  generalize androidPlannedTunnelPeers (planContext env session detected now) session.pathBook = plan at ok ⊢
  obtain ⟨_ | planned, pathBook⟩ := plan
  · cases ok
  · refine ⟨planned, rfl, ?_⟩
    dsimp only at ok ⊢
    split_ifs at ok ⊢ with empty same
    · obtain rfl := Except.ok.inj ok
      exact .emptied empty rfl rfl
    · obtain rfl := Except.ok.inj ok
      exact .kept empty same rfl rfl rfl rfl rfl
    · rcases @startTunnelTask_cases Tunn env planned session.config outcome
        ((session.currentTunnel.map state.stopTunnelTask).getD state) with
        ⟨e, failed, -⟩ | ⟨tunnel, task, started, index, runs, tunnels, accepted, runtime, routes⟩
      · generalize startTunnelTask env planned session.config outcome _ = result at ok failed
        obtain ⟨result, after⟩ := result
        subst failed
        cases ok
      · generalize startTunnelTask env planned session.config outcome _ = result at ok started tunnels routes ⊢
        obtain ⟨result, after⟩ := result
        subst started
        obtain rfl := Except.ok.inj ok
        rw [length_stopTunnel] at index
        exact .started empty same (length_stopTunnel state _) tunnels runs rfl rfl accepted runtime routes
          (by rw [← index]) rfl

theorem step_received_ok {sender : String} {payload : SignalPayload} {detected : Option Ipv4Addr} {now : Nat}
    {outcome : StartOutcome} (before : state.session = .running session)
    (ok : (state.reconcileTunnel env detected now outcome (applySignal session sender payload now)).1 = .ok session') :
    state.step env (.received sender payload detected now outcome) =
      { (state.reconcileTunnel env detected now outcome (applySignal session sender payload now)).2 with
        session := .running session' } := by
  simp only [step, before, receive]
  generalize state.reconcileTunnel env detected now outcome _ = result at ok
  obtain ⟨result, state⟩ := result
  subst ok
  rfl

/-- What a start that works takes has no separators. -/
theorem clean_of_started (lawful : env.Lawful) {detected : Option Ipv4Addr} {now : Nat}
    {planned : List PlannedTunnelPeer} {privateKey : String} {runtime : MobileWireGuardRuntime Tunn}
    (names : ∀ p ∈ session.config.participantPubkeysHex, Separable p)
    (plan : planOf env session detected now = .ok planned)
    (accepted : ∀ route ∈ routeTargetsForTunnelPeers planned, env.vpnAccepts route = true)
    (made : .ok runtime = MobileWireGuardRuntime.new env.boringtun env.codec privateKey
      (wireGuardPeerConfigs planned)) : ∀ p ∈ planned, p.peer.Separable := by
  intro p mem
  obtain ⟨a, source⟩ := (plan_of_androidPlannedTunnelPeers plan).1 p mem
  obtain ⟨routes, -, ips⟩ := source.allowedIps
  refine separable_of_announcement source (names _ (List.mem_filter.mp source.other).1) ?_ ?_
  · obtain ⟨raw, -, rest⟩ := bind_eq_ok.mp made.symm
    obtain ⟨peers, all, -⟩ := bind_eq_ok.mp rest
    obtain ⟨index, at'⟩ := List.getElem?_of_mem mem
    have listed := List.mk_mem_zipIdx_iff_getElem?.mpr
      (show (wireGuardPeerConfigs planned)[index]? = some _ by rw [wireGuardPeerConfigs, List.getElem?_map, at']; rfl)
    have made := (mapM_eq_ok.mp all).1 _ listed
    dsimp only [MobileWireGuardRuntime.peerRuntime, decodeKey] at made
    cases decoded : env.codec.decodeBase64 p.peer.pubkeyB64 with
    | error e => simp [decoded, Except.map] at made
    | ok bytes => exact source.pubkeyB64 ▸ lawful.base64 _ bytes decoded
  · refine lawful.vpn _ (slash_notMem_stripCidr _) (accepted _ (mem_sortDedup.mpr ?_))
    exact List.mem_flatMap.mpr ⟨p, mem, by rw [ips]; exact List.mem_cons_self⟩

end AndroidState

open AndroidState (Event planOf applySignal Reconciled Spares CacheHit)

/-- A state with the plans that its tunnel tasks were started with. -/
structure TunnelLog (Tunn : Type) where
  state : AndroidState Tunn := {}
  plans : List (List PlannedTunnelPeer) := []

namespace TunnelLog

variable {Tunn : Type} (env : MobileEnv Tunn)

/-- A signal that adds a tunnel task adds the plan of the session. -/
def step (log : TunnelLog Tunn) (event : Event) : TunnelLog Tunn :=
  let state := log.state.step env event
  match event, log.state.session with
  | .received sender payload detected now _, .running session =>
    if log.state.tunnels.length < state.tunnels.length then
      let planned := planOf env (applySignal session sender payload now) detected now
      { state, plans := log.plans ++ planned.toOption.toList }
    else { log with state }
  | _, _ => { log with state }

/-- The held tunnel runs the plan. -/
def Serves (log : TunnelLog Tunn) (planned : List PlannedTunnelPeer) : Prop :=
  ∃ tunnel task plan, log.state.held = some tunnel ∧ log.state.tunnels[tunnel.task]? = some task ∧
    task.ended = none ∧ log.plans[tunnel.task]? = some plan ∧ SamePlan plan planned

/-- The fingerprint of the session is the one of the plan of its tunnel. -/
structure Cached (log : TunnelLog Tunn) : Prop where
  length : log.plans.length = log.state.tunnels.length
  fingerprint : ∀ session, log.state.session = .running session →
    (∀ p ∈ session.config.participantPubkeysHex, Separable p) →
    session.currentFingerprint = none ∧ session.currentTunnel = none ∨
    ∃ tunnel plan, session.currentTunnel = some tunnel ∧ log.plans[tunnel.task]? = some plan ∧
      CacheHit session plan ∧ Settled (otherParticipants session.config (session.config.ownPubkey env.sdk))
        session.presence.known plan

variable {env} {log : TunnelLog Tunn}

@[simp] theorem step_state (event : Event) : (log.step env event).state = log.state.step env event := by
  unfold step
  split
  · dsimp only
    split_ifs <;> rfl
  · rfl

theorem run_state (events : List Event) :
    (run (step env) log events).state = run (AndroidState.step env) log.state events := by
  induction events generalizing log with
  | nil => rfl
  | cons event rest ih => rw [run_cons, run_cons, ih, step_state]

theorem along_state {P : AndroidState Tunn → Event → Prop} {events : List Event}
    (along : Along (AndroidState.step env) P log.state events) :
    Along (step env) (fun log => P log.state) log events := by
  induction events generalizing log with
  | nil => trivial
  | cons event rest ih => exact ⟨along.1, ih (by rw [step_state]; exact along.2)⟩

/-- An event that adds no tunnel task adds no plan. -/
theorem step_plans {event : Event} (same : (log.state.step env event).tunnels.length = log.state.tunnels.length) :
    (log.step env event).plans = log.plans := by
  unfold step
  split
  · dsimp only
    rw [if_neg (by omega)]
  · rfl

/-- The session keeps what its fingerprint is about. -/
structure Keeps (session session' : AndroidSession) : Prop where
  config : session'.config = session.config
  known : session'.presence.known = session.presence.known
  tunnel : session'.currentTunnel = session.currentTunnel
  port : session'.currentListenPort = session.currentListenPort
  fingerprint : session'.currentFingerprint = session.currentFingerprint

theorem Cached.keep (cached : log.Cached env) {event : Event}
    (length : (log.state.step env event).tunnels.length = log.state.tunnels.length)
    (same : ∀ session', (log.state.step env event).session = .running session' →
      session'.currentFingerprint = none ∧ session'.currentTunnel = none ∨
      ∃ session, log.state.session = .running session ∧ Keeps session session') :
    (log.step env event).Cached env where
  length := by rw [step_plans length, step_state, length, cached.length]
  fingerprint := by
    intro session' running names
    rw [step_state] at running
    rw [step_plans length]
    rcases same session' running with empty | ⟨session, before, keeps⟩
    · exact .inl empty
    · rw [keeps.config] at names
      simp only [CacheHit, keeps.fingerprint, keeps.tunnel, keeps.config, keeps.port, keeps.known]
      exact cached.fingerprint session before names

theorem cached_init : ({} : TunnelLog Tunn).Cached env where
  length := rfl
  fingerprint := fun _ running => by cases running

/-- What the log holds after a call that returns. -/
theorem Cached.reconciled (lawful : env.Lawful) (cached : log.Cached env) {session session' : AndroidSession}
    (before : log.state.session = .running session) {sender : String} {payload : SignalPayload}
    {detected : Option Ipv4Addr} {now : Nat} {outcome : StartOutcome}
    (ok : (log.state.reconcileTunnel env detected now outcome
      (applySignal session sender payload now)).1 = .ok session') :
    ∃ planned, planOf env (applySignal session sender payload now) detected now = .ok planned ∧
      (log.step env (.received sender payload detected now outcome)).Cached env ∧
      ((∀ p ∈ session.config.participantPubkeysHex, Separable p) → planned ≠ [] →
        ∃ tunnel plan, (log.step env (.received sender payload detected now outcome)).state.held = some tunnel ∧
        (log.step env (.received sender payload detected now outcome)).plans[tunnel.task]? = some plan ∧
        SamePlan plan planned ∧
        ((log.step env (.received sender payload detected now outcome)).state.Alive ↔
          (CacheHit session planned → log.state.Alive))) := by
  obtain ⟨planned, plan, reconciled⟩ := AndroidState.reconciled_of_ok ok
  refine ⟨planned, plan, ?_⟩
  have after := AndroidState.step_received_ok before ok
  generalize (log.state.reconcileTunnel env detected now outcome
    (applySignal session sender payload now)).2 = state' at reconciled after
  cases reconciled with
  | emptied empty held fingerprint =>
    refine ⟨cached.keep ?_ fun session'' running => .inl ?_, fun _ ne => absurd empty ne⟩
    · rw [after]
      exact AndroidState.length_stopTunnelOrVpn _ _
    · rw [after] at running
      obtain rfl := SessionTask.running.inj running
      exact ⟨fingerprint, held⟩
  | kept ne hit config presence held port fingerprint =>
    have same : (log.state.step env (.received sender payload detected now outcome)).tunnels =
        log.state.tunnels := by rw [after]
    have plans := @step_plans _ env log (.received sender payload detected now outcome) (by rw [same])
    -- the plan of the tunnel has the fingerprint that the session keeps
    have settled (names : ∀ p ∈ session.config.participantPubkeysHex, Separable p) :
        ∃ tunnel plan, session'.currentTunnel = some tunnel ∧ log.plans[tunnel.task]? = some plan ∧
          CacheHit session plan ∧ SamePlan plan planned ∧
          Settled (otherParticipants session.config (session.config.ownPubkey env.sdk))
            session'.presence.known plan := by
      rcases cached.fingerprint session before names with ⟨none', -⟩ | ⟨tunnel, plan', holds, at', hit', settled⟩
      · exact absurd (none'.symm.trans hit) (by simp)
      · have both := @Settled.hit (AndroidState.planContext env (applySignal session sender payload now) detected now)
          session.pathBook plan' session.config session.currentListenPort session.presence sender payload now planned
          settled rfl names plan ne (Option.some.inj (hit'.symm.trans hit))
        obtain ⟨samePlan, ne', -, -, -, length, known⟩ := both
        have lengths := samePlan.1.length_eq
        rw [wireGuardPeerConfigs, wireGuardPeerConfigs, List.length_map, List.length_map] at lengths
        rw [presence]
        exact ⟨tunnel, plan', held.trans holds, at', hit', samePlan, settled.ne, settled.named, settled.clean,
          settled.routed, lengths.trans length, known⟩
    refine ⟨⟨?_, fun session'' running names => .inr ?_⟩, fun names _ => ?_⟩
    · rw [plans, step_state, same, cached.length]
    · rw [step_state, after] at running
      obtain rfl := SessionTask.running.inj running
      rw [config] at names
      obtain ⟨tunnel, plan, holds, at', hit', -, settled⟩ := settled names
      refine ⟨tunnel, plan, holds, by rwa [plans], ?_, by rwa [config]⟩
      rwa [CacheHit, fingerprint, config, port]
    · obtain ⟨tunnel, plan, holds, at', -, samePlan, -⟩ := settled names
      refine ⟨tunnel, plan, by rw [step_state, after]; exact holds, by rwa [plans], samePlan, ?_⟩
      have held' : (log.state.step env (.received sender payload detected now outcome)).held = log.state.held := by
        rw [after]
        simp [AndroidState.held, before, held, applySignal]
      rw [step_state, AndroidState.Alive, held', same]
      exact ⟨fun alive _ => alive, fun alive => alive hit⟩
  | started ne miss length tunnels runs config presence accepted runtime routes held fingerprint =>
    have grown : (log.state.step env (.received sender payload detected now outcome)).tunnels.length =
        log.state.tunnels.length + 1 := by
      rw [after, tunnels, List.length_append, length]
      rfl
    have plans : (log.step env (.received sender payload detected now outcome)).plans =
        log.plans ++ [planned] := by
      simp [TunnelLog.step, before, plan, grown]
    have last : (log.plans ++ [planned])[log.state.tunnels.length]? = some planned := by
      rw [← cached.length]
      simp
    refine ⟨⟨?_, fun session'' running names => .inr ?_⟩, fun _ _ =>
      ⟨_, planned, by rw [step_state, after]; exact held, ?_, samePlan_refl _, ?_⟩⟩
    · rw [plans, step_state, grown, List.length_append, cached.length]
      rfl
    · rw [step_state, after] at running
      obtain rfl := SessionTask.running.inj running
      rw [config] at names
      have clean := AndroidState.clean_of_started lawful names plan accepted runtime
      refine ⟨_, planned, held, by rw [plans]; exact last, fingerprint, ?_⟩
      rw [config, presence]
      exact settled_of_plan plan ne clean
    · rw [plans]
      exact last
    · refine iff_of_true ?_ fun hit => absurd hit miss
      rw [step_state, after]
      exact ⟨_, _, held, by rw [tunnels, ← length]; simp, runs⟩

theorem Cached.step (lawful : env.Lawful) (cached : log.Cached env) (event : Event) :
    (log.step env event).Cached env := by
  have unchanged {state : AndroidState Tunn} (same : state.session = log.state.session)
      (session' : AndroidSession) (running : state.session = .running session') :
      session'.currentFingerprint = none ∧ session'.currentTunnel = none ∨
      ∃ session, log.state.session = .running session ∧ Keeps session session' :=
    .inr ⟨session', same ▸ running, rfl, rfl, rfl, rfl, rfl⟩
  cases event with
  | start config | reload config | stop =>
    refine cached.keep ?_ (unchanged ?_) <;>
    · simp only [AndroidState.step, AndroidState.call]
      split <;> rfl
  | proceed prepared =>
    refine cached.keep ?_ ?_ <;> simp only [AndroidState.step, AndroidState.proceed]
    · split
      · cases prepared <;> rfl
      · rfl
      · rfl
    · intro session' running
      split at running
      · next none' =>
        cases prepared
        · simp [none'] at running
        · simp at running
      · next none' => simp [none'] at running
      · exact unchanged rfl session' running
  | connect connected =>
    refine cached.keep ?_ ?_ <;> simp only [AndroidState.step]
    · split
      · cases connected <;> rfl
      · rfl
    · intro session' running
      split at running
      · cases connected
        · simp [AndroidState.endSession] at running
        · obtain rfl := SessionTask.running.inj running
          exact .inl ⟨rfl, rfl⟩
      · exact unchanged rfl session' running
  | stopChanged =>
    refine cached.keep ?_ ?_ <;> simp only [AndroidState.step]
    · split
      · split_ifs
        · exact AndroidState.length_stopTunnelOrVpn _ _
        · rfl
      · rfl
    · intro session' running
      split at running
      · split_ifs at running
        · simp [AndroidState.endSession] at running
        · exact unchanged rfl session' running
      · exact unchanged rfl session' running
  | received sender payload detected now outcome =>
    cases before : log.state.session with
    | running session =>
      cases result : (log.state.reconcileTunnel env detected now outcome
          (applySignal session sender payload now)).1 with
      | ok session' => exact (cached.reconciled lawful before result).elim fun _ all => all.2.1
      | error reason =>
        have after : log.state.step env (.received sender payload detected now outcome) =
            (log.state.reconcileTunnel env detected now outcome
              (applySignal session sender payload now)).2.endSession reason := by
          simp only [AndroidState.step, before, AndroidState.receive]
          generalize log.state.reconcileTunnel env detected now outcome _ = result' at result ⊢
          obtain ⟨result', state⟩ := result'
          subst result
          rfl
        refine cached.keep ?_ fun session' running => ?_
        · rw [after]
          exact AndroidState.length_reconcileTunnel result
        · simp [after, AndroidState.endSession] at running
    | _ =>
      have same : log.state.step env (.received sender payload detected now outcome) = log.state := by
        simp [AndroidState.step, before]
      exact cached.keep (by rw [same]) (unchanged (by rw [same]))
  | closed =>
    refine cached.keep ?_ ?_ <;> simp only [AndroidState.step]
    · split <;> rfl
    · intro session' running
      split at running
      · simp [AndroidState.endSession] at running
      · exact unchanged rfl session' running
  | statusTick now =>
    refine cached.keep ?_ ?_ <;> simp only [AndroidState.step]
    · split <;> rfl
    · intro session' running
      split at running
      · next session before =>
        obtain rfl := SessionTask.running.inj running
        exact .inr ⟨session, before, rfl, by simp, rfl, rfl, rfl⟩
      · exact unchanged rfl session' running
  | tunnel task event => exact cached.keep (List.length_modify _ _ _) (unchanged rfl)

/-! ## The end of the call -/

/-- What other tasks do while the call goes on. -/
def during (events : List (Nat × TunnelEvent)) : List Event := events.map fun event => .tunnel event.1 event.2

theorem held_during (state : AndroidState Tunn) (events : List (Nat × TunnelEvent)) :
    (run (AndroidState.step env) state (during events)).held = state.held := by
  induction events generalizing state with
  | nil => rfl
  | cons event rest ih => exact ih _

theorem plans_during (log : TunnelLog Tunn) (events : List (Nat × TunnelEvent)) :
    (run (TunnelLog.step env) log (during events)).plans = log.plans := by
  induction events generalizing log with
  | nil => rfl
  | cons event rest ih => exact ih _

/-- The held task runs at the end if it ran before and no event ended it. -/
theorem alive_tunnel (state : AndroidState Tunn) (index : Nat) (event : TunnelEvent) :
    (state.step env (.tunnel index event)).Alive ↔ state.Alive ∧ Spares env state (.tunnel index event) := by
  have changed (i : Nat) : (state.step env (.tunnel index event)).tunnels[i]? =
      (state.tunnels[i]?).map fun task => if index = i then task.step env.boringtun event else task := by
    rw [AndroidState.step, List.getElem?_modify]
    cases state.tunnels[i]? <;> rfl
  constructor
  · rintro ⟨tunnel, after, held, at', runs⟩
    rw [changed] at at'
    obtain ⟨task, before, rfl⟩ := Option.map_eq_some_iff.mp at'
    split_ifs at runs with here
    · refine ⟨⟨tunnel, task, held, before, (AndroidState.running_of_step runs).1⟩, fun _ task' mem => ?_⟩
      obtain rfl : task = task' := Option.some.inj ((here ▸ before).symm.trans mem)
      exact runs
    · refine ⟨⟨tunnel, task, held, before, runs⟩, fun same => absurd ?_ here⟩
      have held : state.held = some tunnel := held
      rw [held] at same
      exact (Option.some.inj same).symm
  · rintro ⟨⟨tunnel, task, held, before, runs⟩, spares⟩
    refine ⟨tunnel, _, held, by rw [changed, before]; rfl, ?_⟩
    split_ifs with here
    · exact spares (by rw [held]; exact congrArg some here.symm) task (here ▸ before)
    · exact runs

/-- The held task runs at the end if it ran before and no event ended it. -/
theorem alive_during (state : AndroidState Tunn) (events : List (Nat × TunnelEvent)) :
    (run (AndroidState.step env) state (during events)).Alive ↔
      state.Alive ∧ Along (AndroidState.step env) (Spares env) state (during events) := by
  induction events generalizing state with
  | nil => simp [during, Along]
  | cons event rest ih => exact (ih _).trans (by rw [alive_tunnel, and_assoc]; rfl)

/-- Tasks that have ended do not run again. -/
theorem ended_during {state : AndroidState Tunn} (ended : ∀ task ∈ state.tunnels, task.ended.isSome)
    (events : List (Nat × TunnelEvent)) :
    ∀ task ∈ (run (AndroidState.step env) state (during events)).tunnels, task.ended.isSome := by
  induction events generalizing state with
  | nil => exact ended
  | cons event rest ih =>
    refine ih fun after mem => ?_
    obtain ⟨i, at'⟩ := List.getElem?_of_mem mem
    rw [AndroidState.step, List.getElem?_modify] at at'
    obtain ⟨task, before, rfl⟩ := Option.map_eq_some_iff.mp at'
    have stopped := ended task (List.mem_of_getElem? before)
    split_ifs
    · simp [TunnelTask.step, stopped]
    · exact stopped

/-- The log when the call for a signal returns; tunnel tasks go on meanwhile. -/
def atReturn (env : MobileEnv Tunn) (events : List Event) (signal : Event)
    (meanwhile : List (Nat × TunnelEvent)) : TunnelLog Tunn :=
  run (step env) {} (events ++ signal :: during meanwhile)

/-- When a call that returns leaves the tunnel that it has planned. -/
theorem tunnel_cache_is_sound_iff (lawful : env.Lawful) (events : List Event) {sender : String}
    {payload : SignalPayload} {detected : Option Ipv4Addr} {now : Nat} {outcome : StartOutcome}
    (meanwhile : List (Nat × TunnelEvent)) {session session' : AndroidSession} {planned : List PlannedTunnelPeer}
    (running : (run (AndroidState.step env) {} events).session = .running session)
    (names : ∀ p ∈ session.config.participantPubkeysHex, Separable p)
    (plan : planOf env (applySignal session sender payload now) detected now = .ok planned)
    (returned : ((run (AndroidState.step env) {} events).reconcileTunnel env detected now outcome
      (applySignal session sender payload now)).1 = .ok session') :
    (planned ≠ [] →
      ((atReturn env events (.received sender payload detected now outcome) meanwhile).Serves planned ↔
        (CacheHit session planned → (run (AndroidState.step env) {} events).Alive) ∧
        Along (AndroidState.step env) (Spares env)
          ((run (AndroidState.step env) {} events).step env (.received sender payload detected now outcome))
          (during meanwhile))) ∧
    (planned = [] → Along (AndroidState.step env) (AndroidState.Contained env) {} events →
      ∀ task ∈ (atReturn env events (.received sender payload detected now outcome) meanwhile).state.tunnels,
        task.ended.isSome) := by
  have cached : (run (step env) ({} : TunnelLog Tunn) events).Cached env :=
    run_invariant (fun _ event cached => cached.step lawful event) cached_init events
  have state := @run_state _ env ({} : TunnelLog Tunn) events
  have atEnd : atReturn env events (.received sender payload detected now outcome) meanwhile =
      run (step env) ((run (step env) {} events).step env (.received sender payload detected now outcome))
        (during meanwhile) := by rw [atReturn, run_append, run_cons]
  rw [atEnd, ← state]
  rw [← state] at running returned
  refine ⟨fun ne => ?_, fun empty contained task mem => ?_⟩
  · obtain ⟨planned', plan', -, tell⟩ := cached.reconciled lawful running returned
    obtain rfl : planned' = planned := Except.ok.inj (plan'.symm.trans plan)
    obtain ⟨tunnel, started, held, at', same, alive⟩ := tell names ne
    rw [← step_state, ← alive, ← alive_during]
    generalize (run (step env) ({} : TunnelLog Tunn) events).step env _ = after at held at' ⊢
    rw [Serves, run_state, plans_during]
    constructor
    · rintro ⟨tunnel, task, plan, held, at', runs, -⟩
      exact ⟨tunnel, task, held, at', runs⟩
    · rintro ⟨tunnel', task, held', at'', runs⟩
      have held'' := held'
      rw [held_during, held] at held''
      obtain rfl := Option.some.inj held''
      exact ⟨tunnel, task, started, held', at'', runs, at', same⟩
  · have owned : AndroidState.Owned (run (AndroidState.step env) ({} : AndroidState Tunn) events) :=
      @invariant _ _ (AndroidState.step env) AndroidState.Owned (AndroidState.Contained env)
        (fun _ _ owned contained => owned.step contained) _ _
        (AndroidState.owned_of_allEnded (by simp) fun localAddress routes => by simp) contained
    rw [← state] at owned
    rw [run_state, step_state, AndroidState.step_received_ok running returned] at mem
    obtain ⟨planned', plan', reconciled⟩ := AndroidState.reconciled_of_ok returned
    obtain rfl : planned' = planned := Except.ok.inj (plan'.symm.trans plan)
    refine ended_during ?_ meanwhile task mem
    generalize (run (step env) ({} : TunnelLog Tunn) events).state = before at *
    generalize (before.reconcileTunnel env detected now outcome (applySignal session sender payload now)).2 = after
      at reconciled ⊢
    cases reconciled with
    | emptied =>
      have held : before.held = session.currentTunnel := by simp [AndroidState.held, running]
      have stopped := owned.stop.1
      rw [held] at stopped
      exact stopped
    | kept ne => exact absurd empty ne
    | started ne => exact absurd empty ne

end TunnelLog

/-! ## A tunnel whose device cannot be read -/

/-- The tunnel task of the sample session starts, and goes on after its handshakes. -/
def tunnelRuns : List Event := tunnelUp ++ [.tunnel 0 (.initiate fun _ => true)]

def samplePayload : SignalPayload := .Announce (Cli.sampleAnnouncement 0 "10.44.7.7/32" [])

/-- The same announcement comes again. -/
def announcedAgain : Event := .received samplePeer samplePayload none 101 workingDevice

/-- The call for the repeated announcement returns, with a plan. -/
theorem announcedAgain_returns (events : List Event) (returns : (match (phoneRun events).session with
      | .running session => match planOf phoneEnv (applySignal session samplePeer samplePayload 101) none 101,
          ((phoneRun events).reconcileTunnel phoneEnv none 101 workingDevice
            (applySignal session samplePeer samplePayload 101)).1 with
        | .ok planned, .ok _ => !planned.isEmpty && decide (∀ p ∈ session.config.participantPubkeysHex, Separable p)
        | _, _ => false
      | _ => false) = true) :
    ∃ session session' planned, (phoneRun events).session = .running session ∧
      (∀ p ∈ session.config.participantPubkeysHex, Separable p) ∧
      planOf phoneEnv (applySignal session samplePeer samplePayload 101) none 101 = .ok planned ∧ planned ≠ [] ∧
      ((phoneRun events).reconcileTunnel phoneEnv none 101 workingDevice
        (applySignal session samplePeer samplePayload 101)).1 = .ok session' := by
  split at returns
  · next session running =>
    split at returns
    · next planned session' plan returned =>
      obtain ⟨ne, names⟩ := Bool.and_eq_true_iff.mp returns
      exact ⟨session, session', planned, running, of_decide_eq_true names, plan, by simpa using ne, returned⟩
    · cases returns
  · cases returns

/-- The tunnel is read no more, and the call for the next signal keeps its task. -/
theorem dead_tunnel_is_kept : ∃ session session' planned,
    (phoneRun (tunnelRuns ++ [.tunnel 0 .tunReadFailed])).session = .running session ∧
    planOf phoneEnv (applySignal session samplePeer samplePayload 101) none 101 = .ok planned ∧ planned ≠ [] ∧
    ((phoneRun (tunnelRuns ++ [.tunnel 0 .tunReadFailed])).reconcileTunnel phoneEnv none 101 workingDevice
      (applySignal session samplePeer samplePayload 101)).1 = .ok session' ∧
    ¬ (TunnelLog.atReturn phoneEnv (tunnelRuns ++ [.tunnel 0 .tunReadFailed]) announcedAgain []).Serves planned := by
  obtain ⟨session, session', planned, running, -, plan, ne, returned⟩ :=
    announcedAgain_returns (tunnelRuns ++ [.tunnel 0 .tunReadFailed]) (by decide +kernel)
  refine ⟨session, session', planned, running, plan, ne, returned, ?_⟩
  rintro ⟨tunnel, task, -, -, at', runs, -⟩
  have ended : ((TunnelLog.atReturn phoneEnv (tunnelRuns ++ [.tunnel 0 .tunReadFailed]) announcedAgain
      []).state.tunnels.all fun task => task.ended.isSome) = true := by decide +kernel
  have stopped := List.all_eq_true.mp ended task (List.mem_of_getElem? at')
  simp [runs] at stopped

theorem lawful_phoneEnv : phoneEnv.Lawful where
  base64 text bytes decoded := by
    have keys : ∀ key ∈ Cli.sampleKeys.map Prod.fst, Separable key := by decide
    refine keys text ?_
    simp only [phoneEnv, Cli.sampleCodec] at decoded
    split at decoded
    · next byte found =>
      obtain ⟨before, after, split, -⟩ := List.lookup_eq_some_iff.mp found
      simp [split]
    · cases decoded
  vpn host slash accepted := by
    have cut : stripCidr (host ++ "/32") = host := by
      refine String.toList_inj.mp ?_
      rw [stripCidr, splitFirst, String.toList_ofList, String.toList_append, List.takeWhile_append_of_pos]
      · simp
      · intro c mem
        rw [bne_iff_ne]
        rintro rfl
        exact slash mem
    simp only [phoneEnv, Cli.isIpv4Route, cut] at accepted
    obtain ⟨ip, read⟩ := Option.isSome_iff_exists.mp accepted
    intro c mem inside
    have address := isAddressChar_of_parseWith consumes_readIpv4 read c inside
    have outside : ∀ c ∈ ['|', ';', ','], isAddressChar c = false := by decide
    simp [outside c mem] at address

theorem tunnel_cache_is_sound_sample : ∃ planned, planned ≠ [] ∧
    (TunnelLog.atReturn phoneEnv tunnelRuns announcedAgain [(0, .timer true fun _ => true)]).Serves planned := by
  obtain ⟨session, session', planned, running, names, plan, ne, returned⟩ :=
    announcedAgain_returns tunnelRuns (by decide +kernel)
  refine ⟨planned, ne, ((TunnelLog.tunnel_cache_is_sound_iff lawful_phoneEnv tunnelRuns
    [(0, .timer true fun _ => true)] running names plan returned).1 ne).mpr ⟨fun _ => ?_, ?_, trivial⟩⟩
  · have runs : ((phoneRun tunnelRuns).tunnels[0]?.any fun task => task.ended.isNone) = true := by decide +kernel
    obtain ⟨task, at', runs⟩ := (Option.any_eq_true _ _).mp runs
    exact ⟨⟨51820, 0⟩, task, by decide +kernel, at', Option.isNone_iff_eq_none.mp runs⟩
  · intro _ task mem
    have runs : (((phoneRun tunnelRuns).step phoneEnv announcedAgain).tunnels[0]?.all fun task =>
        (task.step idleTunnel (.timer true fun _ => true)).ended.isNone) = true := by decide +kernel
    exact Option.isNone_iff_eq_none.mp ((Option.all_eq_true _ _).mp runs task mem)

end NostrVpn.Gui
