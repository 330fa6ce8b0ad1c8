import NostrVpn.Cli.AppliedPeers
import NostrVpn.Cli.DaemonSession

/-!
# A paused daemon

From the handling of a Pause to the next Resume the daemon has no peers, no relay sessions and no WireGuard
device, and it publishes neither a Hello nor an announcement. Pausing clears the presence book and the
relay books. Every branch that fills them, and every branch that publishes, asks for an active session or
for a pending relay request.
-/
namespace NostrVpn.Cli

open Rust Rust.Net NostrVpn.Core Transition

/-! ## Plans without announcements -/

theorem planParticipants_of_no_announcements {ctx : PlanContext} (none : ctx.announcements = ∅)
    (assignments : HashMap String (List String)) (book : PeerPathBook) (participants : List String) :
    planParticipants ctx assignments book participants = (.ok [], book) := by
  induction participants with
  | nil => rfl
  | cons participant rest ih => simp [planParticipants, planParticipant, none, ih, Except.map]

/-- Without announcements nobody is planned. -/
theorem planned_of_no_announcements {ctx : PlanContext} (none : ctx.announcements = ∅)
    (book : PeerPathBook) : (plannedTunnelPeersForLocalEndpoints ctx book).1 = .ok [] := by
  simp [plannedTunnelPeersForLocalEndpoints, planParticipants_of_no_announcements none, Except.map,
    sortByKey]

/-- An update of the tunnel that knows of no peer stops the device. -/
theorem Session.applyPresence_of_unknown (m : Moment) (now : Nat) {session : Session}
    (unknown : session.presence.known = ∅) :
    ∃ book, session.applyPresence m now = (true, { session with
      pathBook := book
      tunnel := session.tunnel.stop m.tunnel
      effects := session.effects ++ [.planned (.ok [])] }) := by
  have none : effectivePeerAnnouncementsForRuntime session.presence.known session.relay.relaySessions
      now = ∅ := by rw [unknown]; rfl
  have planned : ((session.applyCall ∅ now).plan m.tunnel session.tunnel.runtime).1 = .ok [] :=
    planned_of_no_announcements rfl _
  obtain ⟨returned, system⟩ := apply_of_nil planned
  refine ⟨((session.applyCall ∅ now).apply m.tunnel session.tunnel).book, ?_⟩
  simp only [applyPresence, applyTunnel, none, returned, system, planned, record]
  rfl

/-! ## Quiet daemons -/

/-- No peer is planned, and neither a Hello nor an announcement is published. -/
def SessionEffect.Quiet : SessionEffect → Prop
  | .planned plan => plan = .ok []
  | .announced _ _ | .hello => False
  | .roster _ | .disconnect => True

def DaemonControl.Resumes : DaemonControl → Prop
  | .resume _ _ => True
  | .stop | .pause | .reload _ _ _ => False

/-- The step handles a Resume. -/
def DaemonStep.Resumes (s : DaemonStep) : Prop :=
  ∃ control restartDue, s.event = .stateTick (some control) restartDue ∧ control.Resumes

namespace Daemon

structure Paused (d : Daemon) : Prop where
  disabled : d.sessionEnabled = false
  presence : d.session.presence = {}
  pending : d.session.relay.pendingRequests = ∅
  active : d.session.relay.relaySessions = ∅
  standby : d.session.relay.standbyRelaySessions = ∅
  device : d.session.tunnel.runtime.handle = none

/-- What the second state did since the first is quiet. -/
def QuietSince (d d' : Daemon) : Prop :=
  ∃ effects, d'.session.effects = d.session.effects ++ effects ∧ ∀ effect ∈ effects, effect.Quiet

/-- If the first state is paused, so is the second, and what happened in between is quiet. -/
def StaysQuiet (d d' : Daemon) : Prop := d.Paused → d'.Paused ∧ QuietSince d d'

theorem QuietSince.refl (d : Daemon) : QuietSince d d := ⟨[], by simp, by simp⟩

theorem QuietSince.trans {d d' d'' : Daemon} (h : QuietSince d d') (h' : QuietSince d' d'') :
    QuietSince d d'' := by
  obtain ⟨effects, eq, quiet⟩ := h
  obtain ⟨effects', eq', quiet'⟩ := h'
  refine ⟨effects ++ effects', by rw [eq', eq, List.append_assoc], ?_⟩
  simp only [List.mem_append]
  exact fun effect mem => mem.elim (quiet effect) (quiet' effect)

theorem StaysQuiet.refl (d : Daemon) : StaysQuiet d d := fun paused => ⟨paused, .refl d⟩

theorem StaysQuiet.trans {d d' d'' : Daemon} (h : StaysQuiet d d') (h' : StaysQuiet d' d'') :
    StaysQuiet d d'' := by
  intro paused
  obtain ⟨mid, since⟩ := h paused
  obtain ⟨late, since'⟩ := h' mid
  exact ⟨late, since.trans since'⟩

theorem StaysQuiet.intro {d d' : Daemon} (h : d.Paused → StaysQuiet d d') : StaysQuiet d d' :=
  fun paused => h paused paused

theorem inactive_of_disabled {d : Daemon} (disabled : d.sessionEnabled = false) :
    d.sessionActive = false := by simp [sessionActive, daemonSessionActive, disabled]

/-- A step that leaves the switch, the books and the device alone. -/
theorem StaysQuiet.of_same {d d' : Daemon} (enabled : d'.sessionEnabled = d.sessionEnabled)
    (presence : d.session.presence = {} → d'.session.presence = {})
    (relay : d'.session.relay = d.session.relay)
    (device : d.session.tunnel.runtime.handle = none → d'.session.tunnel.runtime.handle = none)
    (since : QuietSince d d') : StaysQuiet d d' := by
  intro paused
  refine ⟨⟨enabled.trans paused.disabled, presence paused.presence, ?_, ?_, ?_, device paused.device⟩,
    since⟩
  · rw [relay, paused.pending]
  · rw [relay, paused.active]
  · rw [relay, paused.standby]

variable {env : SessionEnv} {m : Nat → Moment}

/-- Fields that a pause does not touch. -/
theorem stays_quiet_onSession (d : Daemon) {f : Session → Session}
    (presence : (f d.session).presence = d.session.presence) (relay : (f d.session).relay = d.session.relay)
    (tunnel : (f d.session).tunnel = d.session.tunnel)
    (effects : (f d.session).effects = d.session.effects) : StaysQuiet d (d.onSession f) :=
  .of_same rfl presence.trans relay
    (congrArg (fun tunnel => tunnel.runtime.handle) tunnel).trans
    ⟨[], effects.trans (List.append_nil _).symm, by simp⟩

theorem stays_quiet_applyPresence (m : Moment) (now : Nat) (d : Daemon) :
    StaysQuiet d (d.onSession fun session => (session.applyPresence m now).2) := by
  intro paused
  have unknown : d.session.presence.known = ∅ := by rw [paused.presence]
  obtain ⟨book, eq⟩ := Session.applyPresence_of_unknown m now unknown
  have result : (d.onSession fun session => (session.applyPresence m now).2) = { d with
      session := { d.session with
        pathBook := book
        tunnel := d.session.tunnel.stop m.tunnel
        effects := d.session.effects ++ [.planned (.ok [])] } } := by simp [onSession, eq]
  rw [result]
  exact ⟨⟨paused.disabled, paused.presence, paused.pending, paused.active, paused.standby, rfl⟩,
    [.planned (.ok [])], rfl, by simp [SessionEffect.Quiet]⟩

theorem stays_quiet_refresh (m : Moment) (now : Nat) (d : Daemon) :
    StaysQuiet d (d.onSession fun session => (session.forgetNatPunch.applyPresence m now).2) := by
  have forgotten := stays_quiet_onSession d (f := Session.forgetNatPunch) rfl rfl rfl rfl
  exact forgotten.trans (stays_quiet_applyPresence m now _)

theorem stays_quiet_roster (recipients : Option (List String)) (d : Daemon) :
    StaysQuiet d (d.onSession fun session => session.publishActiveNetworkRoster env.sdk recipients) := by
  unfold onSession Session.publishActiveNetworkRoster
  dsimp only
  split_ifs
  · exact .refl d
  · exact .of_same rfl id rfl id ⟨[.roster _], rfl, by simp [SessionEffect.Quiet]⟩

/-! ## Timers -/

theorem stays_quiet_shutdown (m : Moment) (d : Daemon) : StaysQuiet d (d.shutdown m) := by
  refine .intro fun paused => ?_
  simp only [shutdown, inactive_of_disabled paused.disabled, Bool.and_false, Bool.false_eq_true, if_false]
  exact .of_same rfl id rfl (fun _ => rfl) (.refl d)

theorem stays_quiet_reconnect (due : Bool) (outcome : ConnectOutcome) (d : Daemon) :
    StaysQuiet d (d.reconnect env m due outcome) := by
  refine .intro fun paused => ?_
  unfold reconnect
  split_ifs
  · exact .refl d
  · exact .of_same rfl id rfl id (.refl d)
  · exact .of_same rfl id rfl id (.refl d)
  · have connected : StaysQuiet d { d with
        relayConnected := true, relayServiceConnected := outcome.service } :=
      .of_same rfl id rfl id (.refl d)
    have still := (connected.trans (@stays_quiet_roster env none _)) paused
    simpa [inactive_of_disabled still.1.disabled] using connected.trans (stays_quiet_roster none _)

theorem announceTick_of_disabled {d : Daemon} (disabled : d.sessionEnabled = false)
    (outcome : FallbackOutcome) : d.announceTick m outcome = d := by
  simp [announceTick, inactive_of_disabled disabled]

theorem heartbeat_of_disabled {d : Daemon} (disabled : d.sessionEnabled = false) :
    d.heartbeat m = d := by simp [heartbeat, inactive_of_disabled disabled]

theorem housekeeping_of_disabled {d : Daemon} (disabled : d.sessionEnabled = false) :
    d.housekeeping env m = d := by simp [housekeeping, inactive_of_disabled disabled]

theorem stays_quiet_network (changed renewed : Bool) (mapped : Option String) (d : Daemon) :
    StaysQuiet d (d.network m changed renewed mapped) := by
  refine .intro fun paused => ?_
  have inactive := inactive_of_disabled paused.disabled
  cases changed with
  | false => simpa [network, inactive] using StaysQuiet.refl d
  | true =>
    have cleared := stays_quiet_onSession d
      (f := fun session => { session with publicSignalEndpoint := none }) rfl rfl rfl rfl
    simpa [network, inactive] using cleared.trans (stays_quiet_refresh (m 1) (m 1).now _)

/-! ## The state tick -/

theorem reconcileRelays_of_no_sessions {d : Daemon} (none : d.session.relay.relaySessions = ∅) :
    d.reconcileRelays m = d := by
  have unchanged (verifies : String → ActiveRelaySession → Option Nat) (now : Nat) :
      d.session.relay.reconcileActiveRelaySessions verifies now = ([], d.session.relay) := by
    simp [RelayClient.reconcileActiveRelaySessions, none, sortDedup]
  simp [reconcileRelays, unchanged, onSession]

/-- A Pause makes the daemon a paused one, quietly. -/
theorem paused_pause (d : Daemon) : (d.pause m).Paused ∧ QuietSince d (d.pause m) := by
  have left : QuietSince d (if d.relayConnected && d.sessionActive then
      d.onSession fun session => session.record [.disconnect] else d) := by
    split_ifs
    · exact ⟨[.disconnect], rfl, by simp [SessionEffect.Quiet]⟩
    · exact .refl d
  unfold pause
  dsimp only
  generalize (if d.relayConnected && d.sessionActive then
      d.onSession fun session => session.record [.disconnect] else d) = left' at left ⊢
  have unknown : { left'.session with
    publicSignalEndpoint := none
    presence := {}
    pathBook := ⟨∅⟩
    relay := .empty
    outboundAnnounces := {}
    lastNatPunchAttempt := none }.presence.known = ∅ := rfl
  obtain ⟨book, eq⟩ := Session.applyPresence_of_unknown (m 3) (m 3).now unknown
  simp only [onSession, eq]
  refine ⟨⟨rfl, rfl, rfl, rfl, rfl, rfl⟩, left.trans ⟨[.planned (.ok [])], rfl, ?_⟩⟩
  simp [SessionEffect.Quiet]

theorem stays_quiet_configure (app : AppConfig) (d : Daemon) : StaysQuiet d (d.configure env app) := by
  refine .of_same rfl (fun presence => ?_) rfl id ⟨[], (List.append_nil _).symm, by simp⟩
  simp only [configure, presence]
  rfl

theorem stays_quiet_reloadClient (connected : Bool) (d : Daemon) :
    StaysQuiet d (d.reloadClient env m connected) := by
  refine .intro fun paused => ?_
  unfold reloadClient
  split_ifs
  · exact .refl d
  · exact .of_same rfl id rfl id (.refl d)
  · exact .of_same rfl id rfl id (.refl d)
  · have joined : StaysQuiet d { d with relayConnected := true } := .of_same rfl id rfl id (.refl d)
    have still := (joined.trans (@stays_quiet_roster env none _)) paused
    simpa [inactive_of_disabled still.1.disabled] using joined.trans (stays_quiet_roster none _)

theorem stays_quiet_reload (loaded : Option AppConfig) (connected : Bool) (mapped : Option String)
    (d : Daemon) : StaysQuiet d (d.reload env m loaded connected mapped) := by
  cases loaded with
  | none => exact .refl d
  | some app =>
    have reloaded := ((@stays_quiet_configure env app d).trans
      (@stays_quiet_reloadClient env m connected _)).trans (stays_quiet_applyPresence (m 4) (m 4).now _)
    refine .intro fun paused => ?_
    have inactive := inactive_of_disabled (reloaded paused).1.disabled
    simp only [onSession] at reloaded inactive
    simpa [reload, inactive] using reloaded

/-- What follows the control request in a tick. -/
theorem stays_quiet_finish (restartDue : Bool) (d : Daemon) : StaysQuiet d (if d.stopped then d
    else if restartDue then d.shutdown (m 6) else d.housekeeping env m) := by
  refine .intro fun paused => ?_
  split_ifs
  · exact .refl d
  · exact stays_quiet_shutdown (m 6) d
  · rw [housekeeping_of_disabled paused.disabled]
    exact .refl d

theorem stays_quiet_stateTick {control : Option DaemonControl} (stays : ∀ c ∈ control, ¬c.Resumes)
    (restartDue : Bool) (d : Daemon) : StaysQuiet d (d.stateTick env m control restartDue) := by
  refine .intro fun paused => ?_
  have handled : StaysQuiet d ((control.map (d.handleControl env m)).getD d) := by
    cases control with
    | none => exact .refl d
    | some c => cases c with
      | stop => exact stays_quiet_shutdown (m 3) d
      | pause => exact fun _ => paused_pause d
      | resume cache mapped => exact absurd trivial (stays _ rfl)
      | reload loaded connected mapped => exact stays_quiet_reload loaded connected mapped d
  simp only [stateTick, reconcileRelays_of_no_sessions paused.active]
  exact handled.trans (stays_quiet_finish restartDue _)

/-! ## Messages -/

theorem stays_quiet_rosterClient (connected : Bool) (d : Daemon) :
    StaysQuiet d (d.rosterClient env m connected) := by
  refine .intro fun paused => ?_
  unfold rosterClient
  split_ifs
  · exact .of_same rfl id rfl id (.refl d)
  · exact .refl d
  · exact .of_same rfl id rfl id (.refl d)
  · have joined : StaysQuiet d { d with relayConnected := true } := .of_same rfl id rfl id (.refl d)
    have done := (joined.trans (stays_quiet_applyPresence (m 0) (m 0).now _)).trans
      (@stays_quiet_roster env none _)
    have inactive := inactive_of_disabled (done paused).1.disabled
    simp only [onSession] at done inactive
    simpa [onSession, inactive] using done

theorem stays_quiet_receiveRoster (sender networkId : String) (roster : NetworkRoster)
    (outcome : RosterOutcome) (d : Daemon) :
    StaysQuiet d (d.receiveRoster env m sender networkId roster outcome) := by
  unfold receiveRoster
  dsimp only
  split
  · exact (stays_quiet_configure _ d).trans (stays_quiet_rosterClient outcome.connected _)
  · exact stays_quiet_onSession d rfl rfl rfl rfl

theorem stays_quiet_receiveSignal (sender : String) (payload : SignalPayload) (d : Daemon) :
    StaysQuiet d (d.receiveSignal env m sender payload) := by
  refine .intro fun paused => ?_
  have answered : StaysQuiet d (if isHelloOrAnnounce payload then
      d.onSession fun session => session.publishActiveNetworkRoster env.sdk (some [sender]) else d) := by
    split_ifs
    · exact stays_quiet_roster _ d
    · exact .refl d
  have inactive := inactive_of_disabled (answered paused).1.disabled
  simpa [receiveSignal, inactive] using answered

theorem stays_quiet_message (message : Option SignalEnvelope) (outcome : RosterOutcome) (d : Daemon) :
    StaysQuiet d (d.message env m message outcome) := by
  unfold Daemon.message
  split_ifs
  · exact .refl d
  · split
    · exact .of_same rfl id rfl id (.refl d)
    · split
      · exact stays_quiet_onSession d rfl rfl rfl rfl
      · exact stays_quiet_receiveRoster _ _ _ outcome d
      · exact stays_quiet_receiveSignal _ _ d

/-- No grant and no rejection finds its request. -/
theorem stays_quiet_serviceMessage (payload : Option ServicePayload) (d : Daemon) :
    StaysQuiet d (d.serviceMessage m payload) := by
  refine .intro fun paused => ?_
  have granted (granted : RelayAllocationGranted) (now : Nat) :
      acceptRelayAllocationGrant granted d.session.relay now = (.Ignored, d.session.relay) := by
    simp [acceptRelayAllocationGrant, paused.pending]
  have rejected (rejected : RelayAllocationRejected) (now : Nat) :
      acceptRelayAllocationRejection rejected d.session.relay now = (none, d.session.relay) := by
    simp [acceptRelayAllocationRejection, paused.pending]
  unfold serviceMessage
  split_ifs
  · exact .refl d
  · split
    · exact .of_same rfl id rfl id (.refl d)
    · simpa only [granted] using StaysQuiet.refl d
    · simp only [rejected]
      exact stays_quiet_onSession d rfl rfl rfl rfl
    · exact .refl d

/-! ## Runs -/

theorem stays_quiet_step (d : Daemon) {s : DaemonStep} (stays : ¬s.Resumes) :
    StaysQuiet d (d.step env s) := by
  unfold step
  split_ifs
  · exact .refl d
  · obtain ⟨event, moments⟩ := s
    cases event with
    | terminate => exact stays_quiet_shutdown _ d
    | reconnect due outcome => exact stays_quiet_reconnect due outcome d
    | announceTick outcome =>
      exact .intro fun paused => by simpa [announceTick_of_disabled paused.disabled] using StaysQuiet.refl d
    | heartbeat =>
      exact .intro fun paused => by simpa [heartbeat_of_disabled paused.disabled] using StaysQuiet.refl d
    | network changed renewed mapped => exact stays_quiet_network changed renewed mapped d
    | stateTick control restartDue =>
      refine stays_quiet_stateTick (fun c mem resumes => ?_) restartDue d
      obtain rfl : control = some c := mem
      exact stays ⟨c, restartDue, rfl, resumes⟩
    | message message outcome => exact stays_quiet_message message outcome d
    | serviceMessage payload => exact stays_quiet_serviceMessage payload d

/-- From the state tick that handles a Pause, until a step handles a Resume, the daemon is paused, and
since the Pause it has planned no peer and published neither a Hello nor an announcement. -/
theorem paused_until_resume {d : Daemon} (running : ¬d.stopped) (restartDue : Bool)
    {steps : List DaemonStep} (stays : ∀ s ∈ steps, ¬s.Resumes) :
    let later := run (step env) (d.step env ⟨.stateTick (some .pause) restartDue, m⟩) steps
    later.Paused ∧ QuietSince (d.reconcileRelays m) later := by
  obtain ⟨paused, since⟩ := @paused_pause m (d.reconcileRelays m)
  have ticked : StaysQuiet ((d.reconcileRelays m).pause m)
      (d.step env ⟨.stateTick (some .pause) restartDue, m⟩) := by
    have tick : d.step env ⟨.stateTick (some .pause) restartDue, m⟩ =
        d.stateTick env m (some .pause) restartDue := if_neg running
    rw [tick]
    exact stays_quiet_finish restartDue _
  have later := run_related StaysQuiet.refl StaysQuiet.trans
    (fun s mem d => @stays_quiet_step env d s (stays s mem))
    (d.step env ⟨.stateTick (some .pause) restartDue, m⟩)
  obtain ⟨still, since'⟩ := (ticked.trans later) paused
  exact ⟨still, since.trans since'⟩

end Daemon

/-- A paused daemon is told to reload and receives a Hello. -/
theorem paused_until_resume_of_reload :
    let later := run (Daemon.step sampleSessionEnv)
      ((sampleDaemon (samplePubkeys.drop 1)).step sampleSessionEnv
        (sampleStep 101 (.stateTick (some .pause) false)))
      [sampleStep 102 (.stateTick (some (.reload (some (sampleDaemonConfig samplePubkeys)) true none)) false),
        sampleStep 103 .heartbeat]
    later.Paused ∧ Daemon.QuietSince ((sampleDaemon (samplePubkeys.drop 1)).reconcileRelays
      fun _ => sampleMoment 101) later := by
  refine Daemon.paused_until_resume (by decide +kernel) false ?_
  simp [DaemonStep.Resumes, DaemonControl.Resumes, sampleStep]

end NostrVpn.Cli
