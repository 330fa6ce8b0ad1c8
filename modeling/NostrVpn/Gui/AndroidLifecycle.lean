import NostrVpn.Gui.AndroidSession
import NostrVpn.Gui.ExpiredRelay
import NostrVpn.Transition

/-!
# Tunnel tasks do not outlive their session

A session holds at most one tunnel and stops it, with the VPN service, before it starts another one and
when it is asked to stop. An error that ends the session while it holds a tunnel, or after it started the
VPN service, leaves both; without such errors no tunnel task outlives its session.
-/
namespace NostrVpn.Gui

open Rust Rust.Net NostrVpn.Core Transition

/-- The condition holds of a session in its loop. -/
def SessionTask.WhenRunning (condition : AndroidSession → Prop) : SessionTask → Prop
  | .running session => condition session
  | _ => True

instance (condition : AndroidSession → Prop) [DecidablePred condition] :
    ∀ task : SessionTask, Decidable (task.WhenRunning condition)
  | .running session => inferInstanceAs (Decidable (condition session))
  | .none | .connecting _ => .isTrue trivial

namespace AndroidState

variable {Tunn : Type} {env : MobileEnv Tunn} {state : AndroidState Tunn} {session : AndroidSession}

def held (state : AndroidState Tunn) : Option ActiveTunnelTask :=
  match state.session with
  | .running session => session.currentTunnel
  | _ => none

/-- Every start of the VPN service has been followed by a stop. -/
def VpnToldToStop (state : AndroidState Tunn) : Prop :=
  ∀ localAddress routes, state.vpn.getLast? ≠ some (.start localAddress routes)

/-- At most one tunnel task runs, none whose session has ended, and after the end of a session the VPN
service has been told to stop. -/
structure Lifecycle (state : AndroidState Tunn) : Prop where
  single : (state.tunnels.filter fun task => task.ended.isNone).length ≤ 1
  stopped : ∀ task ∈ state.tunnels, task.owner < state.ends.length → task.ended.isSome
  told : state.held = none → state.VpnToldToStop

/-- The device and the keys let a tunnel start, from the call of the VPN service on. -/
structure Starts (env : MobileEnv Tunn) (config : AppConfig) (planned : List PlannedTunnelPeer)
    (outcome : StartOutcome) : Prop where
  accepted : (localInterfaceAddressForTunnel config.node.tunnelIp ::
    routeTargetsForTunnelPeers planned).all env.vpnAccepts = true
  tunFd : outcome.tunFd.any (0 ≤ ·) = true
  tunIo : outcome.tunIo = true
  udp : outcome.udp = true
  keys : (MobileWireGuardRuntime.new env.boringtun env.codec config.node.privateKey
    (wireGuardPeerConfigs planned)).toOption.isSome = true

instance (env : MobileEnv Tunn) (config : AppConfig) (planned : List PlannedTunnelPeer)
    (outcome : StartOutcome) : Decidable (Starts env config planned outcome) :=
  decidable_of_iff (_ ∧ _ ∧ _ ∧ _ ∧ _)
    ⟨fun ⟨accepted, tunFd, tunIo, udp, keys⟩ => ⟨accepted, tunFd, tunIo, udp, keys⟩,
      fun ⟨accepted, tunFd, tunIo, udp, keys⟩ => ⟨accepted, tunFd, tunIo, udp, keys⟩⟩

/-- The plan is new, and a socket is bound for it. -/
def StartsVpn (session : AndroidSession) (planned : List PlannedTunnelPeer) (outcome : StartOutcome) :
    Prop :=
  planned ≠ [] ∧ outcome.listenPort.isSome ∧ session.currentFingerprint ≠
    some (tunnelFingerprint session.config session.currentListenPort planned)

instance (session : AndroidSession) (planned : List PlannedTunnelPeer) (outcome : StartOutcome) :
    Decidable (StartsVpn session planned outcome) := inferInstanceAs (Decidable (_ ∧ _ ∧ _))

/-- No error of the plan or of the start of the VPN service ends the session. -/
def PlanContained (env : MobileEnv Tunn) (session : AndroidSession) (outcome : StartOutcome) :
    Except String (List PlannedTunnelPeer) → Prop
  | .error _ => session.currentTunnel = none
  | .ok planned => StartsVpn session planned outcome → Starts env session.config planned outcome

instance (env : MobileEnv Tunn) (session : AndroidSession) (outcome : StartOutcome) :
    ∀ plan, Decidable (PlanContained env session outcome plan)
  | .error _ => inferInstanceAs (Decidable (_ = _))
  | .ok _ => inferInstanceAs (Decidable (_ → _))

/-- No error ends a session that holds a tunnel or has started the VPN service. -/
def Contained (env : MobileEnv Tunn) (state : AndroidState Tunn) : Event → Prop
  | .closed => state.held = none
  | .received sender payload detected now outcome =>
    state.session.WhenRunning fun session => PlanContained env session outcome
      (androidPlannedTunnelPeers (planContext env (applySignal session sender payload now) detected now)
        session.pathBook).1
  | _ => True

instance (env : MobileEnv Tunn) (state : AndroidState Tunn) :
    ∀ event, Decidable (Contained env state event)
  | .closed => inferInstanceAs (Decidable (_ = _))
  | .received .. => inferInstanceAs (Decidable (SessionTask.WhenRunning _ _))
  | .start _ | .reload _ | .stop | .proceed _ | .connect _ | .stopChanged | .statusTick _ | .tunnel _ _ =>
    .isTrue trivial

/-! ## The invariant -/

/-- A tunnel task that runs is the one that the session holds. -/
structure Owned (state : AndroidState Tunn) : Prop where
  running : ∀ index task, state.tunnels[index]? = some task → task.ended = none →
    state.held.map ActiveTunnelTask.task = some index ∧ task.owner = state.sessionId
  told : state.held = none → state.VpnToldToStop

theorem Owned.allEnded (owned : Owned state) (idle : state.held = none) :
    ∀ task ∈ state.tunnels, task.ended.isSome := by
  intro task mem
  obtain ⟨index, at'⟩ := List.getElem?_of_mem mem
  by_contra running
  obtain ⟨held, -⟩ := owned.running index task at' (by simpa using running)
  simp [idle] at held

/-- A state without running tasks whose VPN service is told to stop. -/
theorem owned_of_allEnded (ended : ∀ task ∈ state.tunnels, task.ended.isSome)
    (told : state.VpnToldToStop) : Owned state := by
  refine ⟨fun index task at' running => ?_, fun _ => told⟩
  have stopped := ended task (List.mem_of_getElem? at')
  simp [running] at stopped

theorem Owned.lifecycle (owned : Owned state) : Lifecycle state where
  single := by
    refine length_filter_le_one fun index task at' running index' task' at'' running' => ?_
    obtain ⟨held, -⟩ := owned.running index task at' (by simpa using running)
    obtain ⟨held', -⟩ := owned.running index' task' at'' (by simpa using running')
    exact Option.some.inj (held.symm.trans held')
  stopped := by
    intro task mem ended
    by_contra running
    obtain ⟨index, at'⟩ := List.getElem?_of_mem mem
    obtain ⟨-, owner⟩ := owned.running index task at' (by simpa using running)
    exact absurd ended (by simp [owner, sessionId])
  told := owned.told

/-! ## Steps -/

@[simp] theorem ended_stop (task : TunnelTask Tunn) : task.stop.ended.isSome := rfl

theorem told_stopVpn : (state.stopVpn).VpnToldToStop := by
  intro localAddress routes
  simp [stopVpn]

/-- After a tunnel is stopped no task runs, and the VPN service is told to stop. -/
theorem Owned.stop (owned : Owned state) :
    (∀ task ∈ (state.stopTunnelOrVpn state.held).tunnels, task.ended.isSome) ∧
      (state.stopTunnelOrVpn state.held).VpnToldToStop := by
  cases idle : state.held with
  | none => exact ⟨owned.allEnded idle, told_stopVpn⟩
  | some tunnel =>
    refine ⟨fun task mem => ?_, told_stopVpn⟩
    obtain ⟨index, at'⟩ := List.getElem?_of_mem mem
    have changed : (state.tunnels.modify tunnel.task TunnelTask.stop)[index]? = some task := at'
    rw [List.getElem?_modify] at changed
    obtain ⟨old, found, rfl⟩ := Option.map_eq_some_iff.mp changed
    split_ifs with here
    · rfl
    · by_contra running
      obtain ⟨held, -⟩ := owned.running index old found (by simpa [here] using running)
      exact here (by simpa [idle] using held)

theorem ended_finish {task : TunnelTask Tunn} {runtime : MobileWireGuardRuntime Tunn}
    {processed : DatagramProcessingResult} {written : Bool} {sent : Nat → Bool} :
    (task.finish env.boringtun runtime processed written sent).owner = task.owner := by
  unfold TunnelTask.finish
  split_ifs
  · rfl
  · split <;> rfl

/-- A task that runs after an event ran before it, for the same session. -/
theorem running_of_step {task : TunnelTask Tunn} {event : TunnelEvent}
    (running : (task.step env.boringtun event).ended = none) :
    task.ended = none ∧ (task.step env.boringtun event).owner = task.owner := by
  unfold TunnelTask.step at running ⊢
  by_cases stopped : task.ended.isSome
  · simp [stopped] at running ⊢
    simp [running] at stopped
  · refine ⟨by simpa using stopped, ?_⟩
    simp only [stopped, Bool.false_eq_true, if_false]
    split
    · exact ended_finish
    · split
      · exact ended_finish
      · rfl
    · rfl
    · split
      · exact ended_finish
      · rfl
    · rfl
    · exact ended_finish
    · rfl

theorem Owned.tunnel (owned : Owned state) (task : Nat) (event : TunnelEvent) :
    Owned (state.step env (.tunnel task event)) := by
  refine ⟨fun index after at' running => ?_, owned.told⟩
  have changed : (state.tunnels.modify task fun task => task.step env.boringtun event)[index]? =
      some after := at'
  rw [List.getElem?_modify] at changed
  obtain ⟨before, found, rfl⟩ := Option.map_eq_some_iff.mp changed
  split_ifs at running ⊢
  · obtain ⟨ran, owner⟩ := running_of_step running
    obtain ⟨held, same⟩ := owned.running index before found ran
    exact ⟨held, owner.trans same⟩
  · exact owned.running index before found running

/-- Ending a session leaves the tasks, of which none runs. -/
theorem owned_endSession (ended : ∀ task ∈ state.tunnels, task.ended.isSome)
    (told : state.VpnToldToStop) (reason : SessionEnd) : Owned (state.endSession reason) :=
  owned_of_allEnded ended told

/-- A change of the session that leaves its tunnel. -/
theorem Owned.keep (owned : Owned state) (running : state.session = .running session)
    {session' : AndroidSession} (same : session'.currentTunnel = session.currentTunnel) :
    Owned { state with session := .running session' } := by
  have held : ({ state with session := .running session' } : AndroidState Tunn).held = state.held := by
    simp [held, running, same]
  refine ⟨fun index task at' ran => ?_, fun idle => owned.told (held ▸ idle)⟩
  rw [held]
  exact owned.running index task at' ran

/-- Starting a tunnel where none runs: the new task is held, or nothing was started. -/
theorem owned_startTunnelTask (ended : ∀ task ∈ state.tunnels, task.ended.isSome) {planned : List PlannedTunnelPeer} {config : AppConfig}
    {outcome : StartOutcome}
    (starts : outcome.listenPort.isSome → Starts env config planned outcome) :
    (∃ e, (state.startTunnelTask env planned config outcome).1 = .error e ∧
      (state.startTunnelTask env planned config outcome).2 = state) ∨
    ∃ tunnel, (state.startTunnelTask env planned config outcome).1 = .ok tunnel ∧
      ∀ session' : AndroidSession, session'.currentTunnel = some tunnel →
        Owned { (state.startTunnelTask env planned config outcome).2 with session := .running session' } := by
  cases bound : outcome.listenPort with
  | none => exact Or.inl ⟨.socket, by simp [startTunnelTask, bound]⟩
  | some listenPort =>
    obtain ⟨accepted, answered, tunIo, udp, keys⟩ := starts (by simp [bound])
    obtain ⟨tunFd, answer, valid⟩ := (Option.any_eq_true _ _).mp answered
    have nonneg : ¬ tunFd < 0 := Int.not_lt.mpr (of_decide_eq_true valid)
    obtain ⟨runtime, made⟩ : ∃ runtime, MobileWireGuardRuntime.new env.boringtun env.codec
        config.node.privateKey (wireGuardPeerConfigs planned) = .ok runtime := by
      cases made : MobileWireGuardRuntime.new env.boringtun env.codec config.node.privateKey
          (wireGuardPeerConfigs planned) with
      | error e => simp [made] at keys
      | ok runtime => exact ⟨runtime, rfl⟩
    right
    simp only [startTunnelTask, bound, accepted, answer, tunIo, udp, made, nonneg, if_false,
      Bool.not_true, Bool.false_eq_true]
    refine ⟨_, rfl, fun session' holds => ⟨fun index task at' running => ?_, fun idle => ?_⟩⟩
    · rw [List.getElem?_append] at at'
      split_ifs at at' with old
      · have stopped := ended task (List.mem_of_getElem? at')
        simp [running] at stopped
      · obtain ⟨here, only⟩ := List.getElem?_eq_some_iff.mp at'
        have last : index = state.tunnels.length := by simp at here; omega
        subst last
        obtain rfl : _ = task := by simpa using only
        simp [held, holds, sessionId]
    · simp [held, holds] at idle

theorem startsVpn_applySignal {sender : String} {payload : SignalPayload} {now : Nat}
    {planned : List PlannedTunnelPeer} {outcome : StartOutcome} :
    StartsVpn (applySignal session sender payload now) planned outcome ↔
      StartsVpn session planned outcome := Iff.rfl

theorem Owned.received (owned : Owned state) (running : state.session = .running session)
    {sender : String} {payload : SignalPayload} {detected : Option Ipv4Addr} {now : Nat}
    {outcome : StartOutcome} (contained : Contained env state (.received sender payload detected now outcome)) :
    Owned (state.receive env sender payload detected now outcome session) := by
  have held : state.held = session.currentTunnel := by simp [AndroidState.held, running]
  have contained' : PlanContained env session outcome (androidPlannedTunnelPeers
      (planContext env (applySignal session sender payload now) detected now) session.pathBook).1 := by
    simpa [Contained, running, SessionTask.WhenRunning] using contained
  generalize applied : applySignal session sender payload now = session' at contained'
  have tunnel' : session'.currentTunnel = session.currentTunnel := by rw [← applied]; rfl
  have book : session'.pathBook = session.pathBook := by rw [← applied]; rfl
  rw [← book] at contained'
  unfold receive reconcileTunnel
  rw [applied]
  generalize androidPlannedTunnelPeers (planContext env session' detected now) session'.pathBook = plan
    at contained'
  obtain ⟨_ | planned, pathBook⟩ := plan
  · -- the plan fails while no tunnel is held
    have idle : state.held = none := held.trans contained'
    exact owned_endSession (owned.allEnded idle) (owned.told idle) _
  · dsimp only at contained' ⊢
    obtain ⟨stopped, told⟩ := owned.stop
    rw [held, ← tunnel'] at stopped told
    split_ifs with empty same
    · exact owned_of_allEnded stopped told
    · exact owned.keep running tunnel'
    · have before : (∀ task ∈ ((session'.currentTunnel.map state.stopTunnelTask).getD state).tunnels,
          task.ended.isSome) ∧ ((session'.currentTunnel.map state.stopTunnelTask).getD state).VpnToldToStop := by
        cases idle : session'.currentTunnel with
        | none => exact ⟨owned.allEnded (by rw [held, ← tunnel', idle]), owned.told (by rw [held, ← tunnel', idle])⟩
        | some tunnel => simpa [idle, stopTunnelOrVpn] using And.intro stopped told
      generalize (session'.currentTunnel.map state.stopTunnelTask).getD state = stoppedState at before ⊢
      obtain ⟨ended, told⟩ := before
      have starts : outcome.listenPort.isSome → Starts env session'.config planned outcome := by
        intro bound
        rw [← applied] at same ⊢
        exact contained' ⟨empty, bound, same⟩
      rcases owned_startTunnelTask ended starts with ⟨e, failed, unchanged⟩ | ⟨tunnel, started, holds⟩
      · generalize stoppedState.startTunnelTask env planned session'.config outcome = result at failed unchanged
        obtain ⟨result, after⟩ := result
        subst failed unchanged
        exact owned_endSession ended told _
      · generalize stoppedState.startTunnelTask env planned session'.config outcome = result at started holds
        obtain ⟨result, after⟩ := result
        subst started
        exact holds _ rfl

/-- A step that touches neither tasks nor the VPN service, between states without a tunnel. -/
theorem Owned.idle (owned : Owned state) (idle : state.held = none) {state' : AndroidState Tunn}
    (tunnels : state'.tunnels = state.tunnels) (vpn : state'.vpn = state.vpn) : Owned state' := by
  refine owned_of_allEnded ?_ ?_
  · rw [tunnels]
    exact owned.allEnded idle
  · unfold VpnToldToStop
    rw [vpn]
    exact owned.told idle

theorem Owned.step (owned : Owned state) {event : Event} (contained : Contained env state event) :
    Owned (state.step env event) := by
  cases event with
  | start config | reload config | stop =>
    simp only [AndroidState.step, call]
    split
    · exact ⟨owned.running, owned.told⟩
    · exact owned
  | proceed prepared =>
    simp only [AndroidState.step, proceed]
    split
    · next config manager task =>
      have idle : state.held = none := by simp [held, task]
      cases prepared <;> exact owned.idle idle rfl rfl
    · next manager task =>
      have idle : state.held = none := by simp [held, task]
      exact owned.idle idle rfl rfl
    · exact owned
  | connect connected =>
    simp only [AndroidState.step]
    cases task : state.session with
    | connecting config =>
      have idle : state.held = none := by simp [held, task]
      cases connected <;> exact owned.idle idle rfl rfl
    | _ => exact owned
  | stopChanged =>
    simp only [AndroidState.step]
    cases task : state.session with
    | running session =>
      dsimp only
      obtain ⟨stopped, told⟩ := owned.stop
      rw [show state.held = session.currentTunnel by simp [held, task]] at stopped told
      split_ifs
      · exact owned_endSession stopped told _
      · exact owned
    | _ => exact owned
  | received sender payload detected now outcome =>
    simp only [AndroidState.step]
    cases task : state.session with
    | running session => exact owned.received task contained
    | _ => exact owned
  | closed =>
    simp only [AndroidState.step]
    cases task : state.session with
    | running session => exact owned.idle contained rfl rfl
    | _ => exact owned
  | statusTick now =>
    simp only [AndroidState.step]
    cases task : state.session with
    | running session => exact owned.keep task rfl
    | _ => exact owned
  | tunnel task event => exact owned.tunnel task event

/-- In every run whose errors are contained, every state keeps the life cycle of tunnel tasks. -/
theorem lifecycle_of_contained (env : MobileEnv Tunn) (events : List Event)
    (contained : Along (step env) (Contained env) ({} : AndroidState Tunn) events) :
    Lifecycle (run (step env) ({} : AndroidState Tunn) events) := by
  have start : Owned ({} : AndroidState Tunn) :=
    owned_of_allEnded (by simp) fun localAddress routes => by simp
  exact (@invariant _ _ (step env) Owned (Contained env)
    (fun _ _ owned contained => owned.step contained) _ _ start contained).lifecycle

end AndroidState

/-! ## A session that loses its signaling client -/

/-- A tunnel that sends nothing. -/
def idleTunnel : Boringtun Unit where
  new _ _ _ := ()
  encapsulate _ tunn := (.Done, tunn)
  decapsulate _ _ tunn := (.Done, tunn)
  formatHandshakeInitiation tunn := (.Done, tunn)
  updateTimers tunn := (.Done, tunn)
  dstAddress _ := none
  lastHandshakeAge _ := none
  queued _ := 0
  drains _ _ answered := absurd rfl answered

def phoneEnv : MobileEnv Unit where
  sdk := sampleSdk
  codec := Cli.sampleCodec
  boringtun := idleTunnel
  vpnAccepts := Cli.isIpv4Route

def tunnelConfig : AppConfig :=
  { Cli.sampleConfig with
    node := { id := "node-1", privateKey := "AwMDAwMDAwMDAwMDAwMDAwMDAwMDAwMDAwMDAwMDAwM=" } }

def workingDevice : StartOutcome where
  listenPort := some 51820
  tunFd := some 7
  tunIo := true
  udp := true

/-- A session connects, and the announcement of a participant starts its tunnel. -/
def tunnelUp : List AndroidState.Event :=
  [.start tunnelConfig, .proceed true, .connect true,
   .received samplePeer (.Announce (Cli.sampleAnnouncement 0 "10.44.7.7/32" [])) none 100 workingDevice]

def phoneRun (events : List AndroidState.Event) : AndroidState Unit :=
  run (AndroidState.step phoneEnv) {} events

/-- The signaling client closes: the tunnel task and the VPN service go on, and a restart of the session
adds a second tunnel task. -/
theorem tunnel_outlives_session :
    ¬ (phoneRun (tunnelUp ++ [.closed])).Lifecycle ∧
      ¬ (phoneRun (tunnelUp ++ [.closed] ++ tunnelUp)).Lifecycle := by
  refine ⟨fun lifecycle => ?_, fun lifecycle => ?_⟩
  · have orphan : ((phoneRun (tunnelUp ++ [.closed])).tunnels.any fun task =>
        decide (task.owner < (phoneRun (tunnelUp ++ [.closed])).ends.length) && task.ended.isNone) = true := by
      decide +kernel
    obtain ⟨task, mem, both⟩ := List.any_eq_true.mp orphan
    obtain ⟨ended, running⟩ := Bool.and_eq_true_iff.mp both
    have stopped := lifecycle.stopped task mem (of_decide_eq_true ended)
    simp [Option.isNone_iff_eq_none.mp running] at stopped
  · have two : ((phoneRun (tunnelUp ++ [.closed] ++ tunnelUp)).tunnels.filter fun task =>
        task.ended.isNone).length = 2 := by
      decide +kernel
    have single := lifecycle.single
    omega

theorem lifecycle_of_tunnelUp : (run (AndroidState.step phoneEnv) ({} : AndroidState Unit)
    (tunnelUp ++ [.stop, .stopChanged, .proceed true])).Lifecycle :=
  AndroidState.lifecycle_of_contained phoneEnv _ (by decide +kernel)

end NostrVpn.Gui
