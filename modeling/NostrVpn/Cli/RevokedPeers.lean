import NostrVpn.Cli.PausedDaemon
import NostrVpn.Cli.PeerTable
import NostrVpn.Cli.RelayMembership

/-!
# Revoked peers

Whether the tunnel follows a roster: the branch of `daemon_session` that applies a roster, and the tunnel
heartbeat after it. The branch updates the tunnel once the client has reached the relays, the heartbeat while a
peer is expected; a Reload updates it always. What the tunnel has is read from the peer table of its device.
-/
namespace NostrVpn.Cli

open Rust NostrVpn.Core Transition

-- Terms with texts are compared without reading the texts.
attribute [local irreducible] String.toList

/-! ## What the tunnel has -/

namespace Session

/-- The `apply` of `apply_presence_runtime_update`. -/
def presenceCall (m : Moment) (session : Session) : ApplyCall :=
  session.applyCall (effectivePeerAnnouncementsForRuntime session.presence.known session.relay.relaySessions m.now)
    m.now

/-- The runtime has exactly the peers that the session plans at the moment, and they are participants of the
configuration. -/
def FollowsPlan (m : Moment) (session : Session) (runtime : CliTunnelRuntime) : Prop :=
  ∃ plan, ((session.presenceCall m).plan m.tunnel session.tunnel.runtime).1 = .ok plan ∧
    (∀ planned ∈ plan, planned.participant ∈ session.app.participantPubkeysHex) ∧
    HasPeers runtime.peers (plan.map PlannedTunnelPeer.peer)

/-- The update of the tunnel returns at the fingerprint check. -/
def SkipsUpdate (m : Moment) (session : Session) : Prop := (session.presenceCall m).Skips m.tunnel session.tunnel

/-- The node stops and starts its tunnel to punch: there are targets, and they are new or it is time again. -/
def Punches (m : Moment) (announcements : Announcements) (session : Session) : Prop :=
  let refreshed := session.refreshForPunch m
  session.app.nat.enabled ∧ ∃ fingerprint,
    natPunchFingerprint (refreshed.natPunchTargets m announcements) refreshed.listenPort = some fingerprint ∧
      ¬(refreshed.lastNatPunchAttempt = some fingerprint ∧ !m.punchElapsed)

variable {m m' : Moment} {session : Session} {plan : List PlannedTunnelPeer}

/-- An update that succeeds has a plan, and where it is not skipped the runtime has its peers. -/
theorem applyPresence_cases (codec : m.tunnel.codec.Lawful) (ok : (session.applyPresence m m.now).1 = true) :
    ∃ plan, ((session.presenceCall m).plan m.tunnel session.tunnel.runtime).1 = .ok plan ∧
      ((session.SkipsUpdate m ∧
        (HasPeers (session.applyPresence m m.now).2.tunnel.runtime.peers (plan.map PlannedTunnelPeer.peer) ↔
          FingerprintStands session.tunnel.runtime) ∧
        (FingerprintStands (session.applyPresence m m.now).2.tunnel.runtime ↔
          FingerprintStands session.tunnel.runtime)) ∨
      (¬session.SkipsUpdate m ∧
        HasPeers (session.applyPresence m m.now).2.tunnel.runtime.peers (plan.map PlannedTunnelPeer.peer) ∧
        FingerprintStands (session.applyPresence m m.now).2.tunnel.runtime)) := by
  have tunnel : (session.applyPresence m m.now).2.tunnel =
      ((session.presenceCall m).apply m.tunnel session.tunnel).system := rfl
  have returned : ((session.presenceCall m).apply m.tunnel session.tunnel).returned.result.isOk = true := ok
  rw [tunnel]
  cases planned : ((session.presenceCall m).plan m.tunnel session.tunnel.runtime).1 with
  | error error =>
    rw [(apply_of_error planned).1] at returned
    cases returned
  | ok plan =>
    refine ⟨plan, rfl, ?_⟩
    rcases apply_cases codec planned with ⟨⟨error, failed⟩, -⟩ | ⟨ne, check, handle, last⟩ | ⟨applies, has, stands⟩
    · rw [failed] at returned
      cases returned
    · have table : ((session.presenceCall m).apply m.tunnel session.tunnel).system.runtime.peers =
          session.tunnel.runtime.peers := by rw [CliTunnelRuntime.peers, handle, CliTunnelRuntime.peers]
      refine .inl ⟨⟨plan, planned, ne, check⟩, ?_, fingerprintStands_congr handle last⟩
      rw [table]
      exact hasPeers_iff_of_matches codec planned ne check
    · exact .inr ⟨applies, has, stands⟩

/-- An update that succeeds makes the tunnel follow the plan unless it is skipped for a fingerprint that does not
stand. -/
theorem followsPlan_iff (codec : m.tunnel.codec.Lawful) (ok : (session.applyPresence m m.now).1 = true) :
    session.FollowsPlan m (session.applyPresence m m.now).2.tunnel.runtime ↔
      (session.SkipsUpdate m → FingerprintStands session.tunnel.runtime) := by
  obtain ⟨plan, planned, cases⟩ := applyPresence_cases codec ok
  have members : ∀ peer ∈ plan, peer.participant ∈ session.app.participantPubkeysHex := by
    intro peer mem
    obtain ⟨participant, other, as⟩ := (mem_plan planned).mp mem
    rw [as.participant_eq]
    exact (List.mem_filter.mp other).1
  have follows : session.FollowsPlan m (session.applyPresence m m.now).2.tunnel.runtime ↔
      HasPeers (session.applyPresence m m.now).2.tunnel.runtime.peers (plan.map PlannedTunnelPeer.peer) := by
    constructor
    · rintro ⟨other, same, -, has⟩
      obtain rfl := Except.ok.inj (same.symm.trans planned)
      exact has
    · exact fun has => ⟨plan, planned, members, has⟩
  rw [follows]
  rcases cases with ⟨skips, has, -⟩ | ⟨applies, has, -⟩
  · rw [has]
    exact ⟨fun stands _ => stands, fun h => h skips⟩
  · exact iff_of_true has fun skips => absurd skips applies

theorem fingerprintStands_applyPresence (codec : m.tunnel.codec.Lawful)
    (ok : (session.applyPresence m m.now).1 = true) :
    FingerprintStands (session.applyPresence m m.now).2.tunnel.runtime ↔
      (session.SkipsUpdate m → FingerprintStands session.tunnel.runtime) := by
  obtain ⟨plan, -, ⟨skips, -, stands⟩ | ⟨applies, -, stands⟩⟩ := applyPresence_cases codec ok
  · rw [stands]
    exact ⟨fun stands _ => stands, fun h => h skips⟩
  · exact iff_of_true stands fun skips => absurd skips applies

/-- A punch stops the tunnel, so what it applies afterwards is checked against no fingerprint. -/
theorem fingerprintStands_maybeRunNatPunch (codec : m'.tunnel.codec.Lawful) (announcements : Announcements) :
    FingerprintStands (session.maybeRunNatPunch m m' announcements).tunnel.runtime ↔
      (¬session.Punches m announcements → FingerprintStands session.tunnel.runtime) := by
  have refreshed : (session.refreshForPunch m).tunnel = session.tunnel := by
    unfold refreshForPunch
    split <;> rfl
  have app : (session.refreshForPunch m).app = session.app := by
    unfold refreshForPunch
    split <;> rfl
  -- Where nothing is punched the tunnel stays.
  have still {after : Session} (same : after.tunnel = session.tunnel) (idle : ¬session.Punches m announcements) :
      FingerprintStands after.tunnel.runtime ↔
        (¬session.Punches m announcements → FingerprintStands session.tunnel.runtime) := by
    rw [same]
    exact ⟨fun stands _ => stands, fun h => h idle⟩
  unfold maybeRunNatPunch
  split_ifs with off
  · exact still rfl fun punches => by simp [punches.1] at off
  · dsimp only
    split
    · rename_i none
      refine still refreshed ?_
      rintro ⟨-, fingerprint, found, -⟩
      simp [none] at found
    · rename_i fingerprint found
      split_ifs with recent
      · refine still refreshed ?_
        rintro ⟨-, other, same, due⟩
        obtain rfl := Option.some.inj (found.symm.trans same)
        exact due recent
      · have punches : session.Punches m announcements := ⟨by simpa using off, fingerprint, found, recent⟩
        refine iff_of_true ?_ fun idle => absurd punches idle
        unfold punch
        dsimp only
        split_ifs <;> exact fingerprintStands_of_fresh codec rfl

theorem planned_of_alone (alone : otherParticipants session.app session.ownPubkey = []) :
    ((session.presenceCall m).plan m.tunnel session.tunnel.runtime).1 = .ok [] := by
  refine planned_eq_ok.mpr ⟨fun participant other => ?_, ?_⟩
  · have listed : participant ∈ otherParticipants session.app session.ownPubkey := other
    rw [alone] at listed
    cases listed
  · have none : PlanContext.others ((session.presenceCall m).context m.tunnel session.tunnel.runtime) = [] :=
      alone
    rw [none]
    rfl

theorem plan_of_alone (alone : otherParticipants session.app session.ownPubkey = [])
    (plan : List PlannedTunnelPeer) (planned : ((session.presenceCall m).plan m.tunnel session.tunnel.runtime).1 = .ok plan) : plan = [] :=
  Except.ok.inj (planned.symm.trans (planned_of_alone alone))

/-- Without other participants the tunnel follows the plan when it has no peer. -/
theorem followsPlan_iff_of_alone (alone : otherParticipants session.app session.ownPubkey = [])
    (runtime : CliTunnelRuntime) :
    session.FollowsPlan m runtime ↔ ∀ key, runtime.peers.lookup key = none := by
  constructor
  · rintro ⟨plan, planned, -, has⟩
    rw [plan_of_alone alone plan planned] at has
    exact hasPeers_nil.mp has
  · exact fun empty => ⟨[], planned_of_alone alone, by simp, hasPeers_nil.mpr empty⟩

end Session

/-! ## The switch of the session -/

namespace Daemon

variable {env : SessionEnv} {m : Nat → Moment}

theorem enabled_onSession (f : Session → Session) (d : Daemon) :
    (d.onSession f).sessionEnabled = d.sessionEnabled := rfl

theorem enabled_reconnect (due : Bool) (outcome : ConnectOutcome) (d : Daemon) :
    (d.reconnect env m due outcome).sessionEnabled = d.sessionEnabled := by
  unfold reconnect
  dsimp only
  split_ifs <;> rfl

theorem enabled_requestFallback (m : Moment) (now : Nat) (outcome : FallbackOutcome) (d : Daemon) :
    (d.requestFallback m now outcome).sessionEnabled = d.sessionEnabled := by
  unfold requestFallback
  dsimp only
  split_ifs <;> rfl

theorem enabled_announceTick (outcome : FallbackOutcome) (d : Daemon) :
    (d.announceTick m outcome).sessionEnabled = d.sessionEnabled := by
  unfold announceTick
  dsimp only
  split_ifs
  · rfl
  · generalize eq : ((d.onSession (expireRelays (m 0))).onSession fun session =>
      session.maybeRunNatPunch (m 1) (m 2) session.presence.active) = punched
    have same : punched.sessionEnabled = d.sessionEnabled := by
      rw [← eq]
      rfl
    rw [← same, ← enabled_requestFallback (m 3) (m 0).now outcome punched]
    generalize punched.requestFallback (m 3) (m 0).now outcome = asked
    split
    · split_ifs <;> rfl
    · rfl

theorem enabled_heartbeat (d : Daemon) : (d.heartbeat m).sessionEnabled = d.sessionEnabled := by
  unfold heartbeat
  dsimp only
  split_ifs <;> rfl

theorem enabled_network (changed renewed : Bool) (mapped : Option String) (d : Daemon) :
    (d.network m changed renewed mapped).sessionEnabled = d.sessionEnabled := by
  simp only [network, apply_ite sessionEnabled, enabled_onSession, ite_self]

theorem enabled_reconcileRelays (d : Daemon) :
    (d.reconcileRelays m).sessionEnabled = d.sessionEnabled := by
  unfold reconcileRelays
  dsimp only
  split_ifs <;> rfl

theorem enabled_shutdown (m : Moment) (d : Daemon) :
    (d.shutdown m).sessionEnabled = d.sessionEnabled := by
  unfold shutdown
  dsimp only
  split_ifs <;> rfl

theorem enabled_restorePeerCache (now : Nat) (cache : Option DaemonPeerCacheState) (d : Daemon) :
    (d.restorePeerCache env now cache).2.sessionEnabled = d.sessionEnabled := by
  unfold restorePeerCache
  cases cache with
  | none => rfl
  | some cache =>
    dsimp only
    split_ifs <;> rfl

theorem enabled_resume (cache : Option DaemonPeerCacheState) (mapped : Option String) (d : Daemon) :
    (d.resume env m cache mapped).sessionEnabled = true := by
  have restored := @enabled_restorePeerCache env (m 3).now cache
    { d with sessionEnabled := true, relayConnected := false }
  unfold resume
  dsimp only
  split_ifs with enabled
  · exact enabled
  · exact restored
  · exact restored
  · exact restored

theorem enabled_reloadClient (connected : Bool) (d : Daemon) :
    (d.reloadClient env m connected).sessionEnabled = d.sessionEnabled := by
  unfold reloadClient
  dsimp only
  split_ifs <;> rfl

theorem enabled_reload (loaded : Option AppConfig) (connected : Bool) (mapped : Option String)
    (d : Daemon) : (d.reload env m loaded connected mapped).sessionEnabled = d.sessionEnabled := by
  cases loaded with
  | none => rfl
  | some app =>
    have client := @enabled_reloadClient env m connected (d.configure env app)
    unfold reload
    dsimp only
    split_ifs
    · exact client
    · exact client

theorem enabled_housekeeping (d : Daemon) :
    (d.housekeeping env m).sessionEnabled = d.sessionEnabled := by
  unfold housekeeping
  dsimp only
  split_ifs <;> rfl

theorem enabled_finish (restartDue : Bool) (d : Daemon) :
    (if d.stopped then d else if restartDue then d.shutdown (m 6)
      else d.housekeeping env m).sessionEnabled = d.sessionEnabled := by
  split_ifs
  · rfl
  · exact enabled_shutdown (m 6) d
  · exact enabled_housekeeping d

theorem enabled_rosterClient (connected : Bool) (d : Daemon) :
    (d.rosterClient env m connected).sessionEnabled = d.sessionEnabled := by
  unfold rosterClient
  dsimp only
  split_ifs <;> rfl

theorem enabled_receiveSignal (sender : String) (payload : SignalPayload) (d : Daemon) :
    (d.receiveSignal env m sender payload).sessionEnabled = d.sessionEnabled := by
  have greeted : (if isHelloOrAnnounce payload then d.onSession fun session =>
      session.publishActiveNetworkRoster env.sdk (some [sender]) else d).sessionEnabled =
        d.sessionEnabled := by
    split_ifs <;> rfl
  unfold receiveSignal
  dsimp only
  generalize (if isHelloOrAnnounce payload then d.onSession fun session =>
    session.publishActiveNetworkRoster env.sdk (some [sender]) else d) = d' at greeted ⊢
  rw [← greeted]
  split_ifs <;> rfl

theorem enabled_message (message : Option SignalEnvelope) (outcome : RosterOutcome) (d : Daemon) :
    (d.message env m message outcome).sessionEnabled = d.sessionEnabled := by
  unfold Daemon.message
  split_ifs
  · rfl
  · split
    · rfl
    · split
      · rfl
      · unfold receiveRoster
        dsimp only
        split
        · exact enabled_rosterClient outcome.connected _
        · rfl
      · exact enabled_receiveSignal _ _ d

theorem enabled_serviceMessage (payload : Option ServicePayload) (d : Daemon) :
    (d.serviceMessage m payload).sessionEnabled = d.sessionEnabled := by
  unfold serviceMessage
  dsimp only
  split_ifs
  · rfl
  · split
    · rfl
    · split <;> rfl
    · rfl
    · rfl

/-- A session is enabled, or it was paused. -/
def Settled (d : Daemon) : Prop := d.sessionEnabled = true ∨ d.Paused

theorem Settled.of_enabled {d d' : Daemon} (same : d'.sessionEnabled = d.sessionEnabled)
    (enabled : d.sessionEnabled = true) : d'.Settled := .inl (same.trans enabled)

theorem settled_stateTick {d : Daemon} (enabled : d.sessionEnabled = true)
    (control : Option DaemonControl) (restartDue : Bool) :
    (d.stateTick env m control restartDue).Settled := by
  have reconciled := (@enabled_reconcileRelays m d).trans enabled
  have handled : ((control.map ((d.reconcileRelays m).handleControl env m)).getD
      (d.reconcileRelays m)).Settled := by
    cases control with
    | none => exact .inl reconciled
    | some c => cases c with
      | stop => exact .of_enabled (enabled_shutdown (m 3) _) reconciled
      | pause => exact .inr (paused_pause _).1
      | resume cache mapped => exact .inl (enabled_resume cache mapped _)
      | reload loaded connected mapped => exact .of_enabled (enabled_reload loaded connected mapped _) reconciled
  rcases handled with on | paused
  · exact .of_enabled (enabled_finish restartDue _) on
  · exact .inr ((stays_quiet_finish restartDue _) paused).1

theorem settled_step (d : Daemon) (s : DaemonStep) (settled : d.Settled) : (d.step env s).Settled := by
  rcases settled with enabled | paused
  · unfold step
    split_ifs
    · exact .inl enabled
    · obtain ⟨event, moments⟩ := s
      cases event with
      | terminate => exact .of_enabled (enabled_shutdown _ d) enabled
      | reconnect due outcome => exact .of_enabled (enabled_reconnect due outcome d) enabled
      | announceTick outcome => exact .of_enabled (enabled_announceTick outcome d) enabled
      | heartbeat => exact .of_enabled (enabled_heartbeat d) enabled
      | network changed renewed mapped =>
        exact .of_enabled (enabled_network changed renewed mapped d) enabled
      | stateTick control restartDue => exact settled_stateTick enabled control restartDue
      | message message outcome => exact .of_enabled (enabled_message message outcome d) enabled
      | serviceMessage payload => exact .of_enabled (enabled_serviceMessage payload d) enabled
  · by_cases resumes : s.Resumes
    · obtain ⟨control, restartDue, same, resumes⟩ := resumes
      obtain ⟨event, moments⟩ := s
      obtain rfl : event = _ := same
      cases control with
      | resume cache mapped =>
        unfold step
        split_ifs
        · exact .inr paused
        · exact .inl ((enabled_finish restartDue _).trans (enabled_resume cache mapped _))
      | stop => exact resumes.elim
      | pause => exact resumes.elim
      | reload loaded connected mapped => exact resumes.elim
    · exact .inr ((stays_quiet_step d resumes) paused).1

theorem settled_start (app : AppConfig) (tunnel : TunnelSystem)
    (endpoint : Option DiscoveredPublicSignalEndpoint) (cache : Option DaemonPeerCacheState)
    (mapped : Option String) : (start env m app tunnel endpoint cache mapped).Settled := by
  refine .inl ?_
  unfold start
  dsimp only
  split_ifs <;> exact enabled_restorePeerCache _ _ _

/-! ## A roster and the heartbeat after it -/

/-- The client of the configuration that a roster made is there, has something to listen for and reaches the
relays: only then does the branch update the tunnel. -/
def RosterUpdatesTunnel (env : SessionEnv) (d : Daemon) (connected : Bool) : Prop :=
  makesClient env.sdk d.session.app ∧ d.relaySessionActive ∧ connected

instance (env : SessionEnv) (d : Daemon) (connected : Bool) : Decidable (RosterUpdatesTunnel env d connected) :=
  inferInstanceAs (Decidable (_ ∧ _ ∧ _))

/-- The session that the heartbeat plans the tunnel for. -/
def heartbeatSession (m : Nat → Moment) (d : Daemon) : Session :=
  if d.sessionActive && !d.relayConnected then
    d.session.maybeRunNatPunch (m 0) (m 1) d.directPeerAnnouncements
  else d.session

/-- The daemon has taken up the configuration of a roster with its new client. -/
def takeRoster (env : SessionEnv) (m : Nat → Moment) (app : AppConfig) (connected : Bool) (d : Daemon) : Daemon :=
  (d.configure env app).rosterClient env m connected

/-- No update of the tunnel fails, neither in the branch that puts the configuration of a roster in place nor in
the heartbeat after it. -/
structure UpdatesSucceed (env : SessionEnv) (m m' : Nat → Moment) (app : AppConfig) (connected : Bool)
    (d : Daemon) : Prop where
  roster : RosterUpdatesTunnel env (d.configure env app) connected →
    ((d.configure env app).session.applyPresence (m 0) (m 0).now).1 = true
  heartbeat : (d.takeRoster env m app connected).sessionActive →
    (((d.takeRoster env m app connected).heartbeatSession m').applyPresence (m' 2) (m' 2).now).1 = true

/-- The branch and the heartbeat leave the tunnel alone: each update that they come to returns at the fingerprint
check, and the heartbeat punches nothing. -/
structure UpdatesSkipped (env : SessionEnv) (m m' : Nat → Moment) (app : AppConfig) (connected : Bool)
    (d : Daemon) : Prop where
  roster : RosterUpdatesTunnel env (d.configure env app) connected →
    (d.configure env app).session.SkipsUpdate (m 0)
  punch : (d.takeRoster env m app connected).relayConnected = false →
    ¬(d.takeRoster env m app connected).session.Punches (m' 0)
      (d.takeRoster env m app connected).directPeerAnnouncements
  heartbeat : ((d.takeRoster env m app connected).heartbeatSession m').SkipsUpdate (m' 2)

theorem heartbeat_of_active {d : Daemon} (active : d.sessionActive = true) : d.heartbeat m =
    { d with session := ((d.heartbeatSession m).applyPresence (m 2) (m 2).now).2 } := by
  unfold heartbeat heartbeatSession
  cases connected : d.relayConnected <;> simp [active, onSession, connected]

theorem heartbeat_of_inactive {d : Daemon} (inactive : d.sessionActive = false) : d.heartbeat m = d := by
  simp [heartbeat, inactive]

theorem heartbeatSession_of_inactive {d : Daemon} (inactive : d.sessionActive = false) :
    d.heartbeatSession m = d.session := by simp [heartbeatSession, inactive]

theorem app_heartbeatSession (d : Daemon) : (d.heartbeatSession m).app = d.session.app := by
  unfold heartbeatSession
  split_ifs
  · exact (Prod.mk.inj (Session.books_maybeRunNatPunch ..)).2
  · rfl

/-- A punch before the update of the heartbeat leaves a fingerprint that stands. -/
theorem fingerprintStands_heartbeatSession {d : Daemon} (codec : (m 1).tunnel.codec.Lawful)
    (active : d.sessionActive = true) : FingerprintStands (d.heartbeatSession m).tunnel.runtime ↔
      ((d.relayConnected = false → ¬d.session.Punches (m 0) d.directPeerAnnouncements) →
        FingerprintStands d.session.tunnel.runtime) := by
  unfold heartbeatSession
  cases connected : d.relayConnected with
  | true => simp [active]
  | false =>
    simpa [active] using
      @Session.fingerprintStands_maybeRunNatPunch (m 0) (m 1) d.session codec d.directPeerAnnouncements

theorem rosterClient_of_updated {connected : Bool} {d : Daemon} (updates : RosterUpdatesTunnel env d connected) :
    ∃ effects, d.rosterClient env m connected = { d with
      relayConnected := true
      session := { (d.session.applyPresence (m 0) (m 0).now).2 with effects := effects } } := by
  obtain ⟨makes, active, reached⟩ := updates
  have published (session : Session) : ∃ effects,
      session.publishActiveNetworkRoster env.sdk none = { session with effects := effects } := by
    unfold Session.publishActiveNetworkRoster
    dsimp only
    split_ifs <;> exact ⟨_, rfl⟩
  obtain ⟨effects, same⟩ := published (d.session.applyPresence (m 0) (m 0).now).2
  unfold rosterClient
  rw [if_neg (by simp [makes]), if_neg (by simp [active]), if_neg (by simp [reached])]
  simp only [onSession, same]
  split_ifs
  · exact ⟨_, rfl⟩
  · exact ⟨_, rfl⟩

theorem session_rosterClient_of_not_updated {connected : Bool} {d : Daemon}
    (not : ¬RosterUpdatesTunnel env d connected) :
    (d.rosterClient env m connected).session = d.session := by
  unfold rosterClient
  by_cases makes : makesClient env.sdk d.session.app
  · by_cases active : d.relaySessionActive
    · cases connected with
      | true => exact absurd ⟨makes, active, rfl⟩ not
      | false => simp [makes, active]
    · simp [makes, active]
  · simp [makes]

theorem ownPubkey_rosterClient (connected : Bool) (d : Daemon) :
    (d.rosterClient env m connected).session.ownPubkey = d.session.ownPubkey := by
  have published (session : Session) :
      (session.publishActiveNetworkRoster env.sdk none).ownPubkey = session.ownPubkey := by
    unfold Session.publishActiveNetworkRoster
    dsimp only
    split_ifs <;> rfl
  unfold rosterClient
  dsimp only
  split_ifs
  · rfl
  · rfl
  · rfl
  · exact published _
  · exact published _

theorem active_rosterClient (connected : Bool) (d : Daemon) :
    (d.rosterClient env m connected).sessionActive = d.sessionActive := by
  unfold rosterClient
  dsimp only
  split_ifs <;> rfl

/-- Without expected peers nobody else takes part. -/
theorem alone_of_expectedPeerCount {sdk : NostrSdk} {app : AppConfig} (zero : expectedPeerCount sdk app = 0) :
    otherParticipants app (app.ownPubkey sdk) = [] := by
  unfold expectedPeerCount at zero
  unfold otherParticipants
  generalize app.participantPubkeysHex = participants at zero ⊢
  dsimp only at zero
  split_ifs at zero with takesPart
  · obtain ⟨own, same⟩ : ∃ own, app.ownPubkey sdk = some own := by
      cases found : app.ownPubkey sdk with
      | none => simp [found] at takesPart
      | some own => exact ⟨own, rfl⟩
    rw [same] at takesPart ⊢
    have listed : own ∈ participants := by simpa using takesPart
    match participants, zero, listed with
    | [only], _, listed => simp [List.mem_singleton.mp listed]
  · rw [List.length_eq_zero_iff.mp zero]
    rfl

/-- A paused daemon has no device and plans nobody. -/
theorem followsPlan_of_paused {d : Daemon} (paused : d.Paused) (m : Moment) :
    d.session.FollowsPlan m d.session.tunnel.runtime := by
  have none : effectivePeerAnnouncementsForRuntime d.session.presence.known d.session.relay.relaySessions
      m.now = ∅ := by
    rw [paused.presence]
    rfl
  refine ⟨[], planned_of_no_announcements none _, by simp, hasPeers_nil.mpr fun key => ?_⟩
  rw [CliTunnelRuntime.peers, paused.device]
  rfl

section Roster
variable {app : AppConfig} {connected : Bool} {d : Daemon} {m' : Nat → Moment}

theorem active_takeRoster : (d.takeRoster env m app connected).sessionActive =
    (d.sessionEnabled && decide (0 < expectedPeerCount env.sdk app)) := active_rosterClient connected _

theorem app_takeRoster : (d.takeRoster env m app connected).session.app = app :=
  (Prod.mk.inj ((books_rosterClient connected _).trans (books_configure app d))).2

/-- The branch leaves a fingerprint that stands when it updates the tunnel without skipping, and else when the one
before it stands. -/
theorem fingerprintStands_takeRoster (codec : (m 0).tunnel.codec.Lawful)
    (ok : RosterUpdatesTunnel env (d.configure env app) connected →
      ((d.configure env app).session.applyPresence (m 0) (m 0).now).1 = true) :
    FingerprintStands (d.takeRoster env m app connected).session.tunnel.runtime ↔
      ((RosterUpdatesTunnel env (d.configure env app) connected →
        (d.configure env app).session.SkipsUpdate (m 0)) → FingerprintStands d.session.tunnel.runtime) := by
  have same : (d.configure env app).session.tunnel = d.session.tunnel := rfl
  by_cases updates : RosterUpdatesTunnel env (d.configure env app) connected
  · obtain ⟨effects, taken⟩ := @rosterClient_of_updated env m connected _ updates
    rw [takeRoster, taken]
    dsimp only
    rw [Session.fingerprintStands_applyPresence codec (ok updates), same]
    simp [updates]
  · rw [takeRoster, session_rosterClient_of_not_updated updates, same]
    simp [updates]

/-- While a peer is expected the heartbeat repairs what the branch missed, unless every update is skipped for a
fingerprint that does not stand. -/
theorem followsPlan_iff_of_active (codec : ∀ i, (m i).tunnel.codec.Lawful)
    (codec' : ∀ i, (m' i).tunnel.codec.Lawful) (ok : UpdatesSucceed env m m' app connected d)
    (active : (d.takeRoster env m app connected).sessionActive = true) :
    ((d.takeRoster env m app connected).heartbeatSession m').FollowsPlan (m' 2)
        ((d.takeRoster env m app connected).heartbeat m').session.tunnel.runtime ↔
      (UpdatesSkipped env m m' app connected d → FingerprintStands d.session.tunnel.runtime) := by
  rw [heartbeat_of_active active, Session.followsPlan_iff (codec' 2) (ok.heartbeat active),
    fingerprintStands_heartbeatSession (codec' 1) active, fingerprintStands_takeRoster (codec 0) ok.roster]
  exact ⟨fun h skipped => h skipped.heartbeat skipped.punch skipped.roster,
    fun h heartbeat punch roster => h ⟨roster, punch, heartbeat⟩⟩

/-- Without expected peers the tunnel is what the branch leaves, and it follows the plan when it has no peer. -/
theorem followsPlan_iff_of_unexpected (zero : expectedPeerCount env.sdk app = 0) :
    ((d.takeRoster env m app connected).heartbeatSession m').FollowsPlan (m' 2)
        ((d.takeRoster env m app connected).heartbeat m').session.tunnel.runtime ↔
      ∀ key, (d.takeRoster env m app connected).session.tunnel.runtime.peers.lookup key = none := by
  have inactive : (d.takeRoster env m app connected).sessionActive = false := by
    rw [active_takeRoster]
    simp [zero]
  rw [heartbeat_of_inactive inactive, heartbeatSession_of_inactive inactive]
  refine Session.followsPlan_iff_of_alone ?_ _
  rw [app_takeRoster, takeRoster, ownPubkey_rosterClient]
  exact alone_of_expectedPeerCount zero

theorem rosterUpdatesTunnel_iff_of_unexpected (zero : expectedPeerCount env.sdk app = 0) :
    RosterUpdatesTunnel env (d.configure env app) connected ↔
      makesClient env.sdk app ∧ app.joinRequestsEnabled ∧ connected := by
  simp [RosterUpdatesTunnel, Daemon.relaySessionActive, Cli.relaySessionActive, daemonSessionActive,
    configure, zero]

end Roster

/-- After a Reload whose update of the tunnel succeeds the tunnel follows the plan, whatever becomes of the client,
unless the update is skipped for a fingerprint that does not stand. -/
theorem followsPlan_reload_iff (app : AppConfig) (connected : Bool) (mapped : Option String) (d : Daemon)
    (codec : (m 4).tunnel.codec.Lawful)
    (ok : (((d.configure env app).reloadClient env m connected).session.applyPresence (m 4) (m 4).now).1 =
      true) :
    ((d.configure env app).reloadClient env m connected).session.FollowsPlan (m 4)
        (d.reload env m (some app) connected mapped).session.tunnel.runtime ↔
      (((d.configure env app).reloadClient env m connected).session.SkipsUpdate (m 4) →
        FingerprintStands ((d.configure env app).reloadClient env m connected).session.tunnel.runtime) := by
  rw [← Session.followsPlan_iff codec ok]
  unfold reload
  dsimp only
  split_ifs <;> rfl

/-- The daemon takes up a roster that gives the configuration, and its heartbeat fires: the tunnel has exactly the
peers that the heartbeat plans for the configuration. -/
def FollowsRoster (env : SessionEnv) (m m' : Nat → Moment) (envelope : SignalEnvelope) (outcome : RosterOutcome)
    (app : AppConfig) (d : Daemon) : Prop :=
  let taken := d.step env ⟨.message (some envelope) outcome, m⟩
  (taken.heartbeatSession m').app = app ∧
    (taken.heartbeatSession m').FollowsPlan (m' 2)
      (taken.step env ⟨.heartbeat, m'⟩).session.tunnel.runtime

section Accepted
variable {sender networkId : String} {roster : NetworkRoster} {outcome : RosterOutcome} {app : AppConfig}
  {d : Daemon}

theorem step_of_persisted (running : d.stopped = false)
    (listening : (d.relaySessionActive && d.relayConnected) = true)
    (persisted : persistSharedNetworkRoster env outcome d.session.app
      (rosterUpdate sender networkId roster) = (true, app)) :
    d.step env ⟨.message (some ⟨networkId, sender, .Roster roster⟩) outcome, m⟩ =
      d.takeRoster env m app outcome.connected := by
  have message : d.step env ⟨.message (some ⟨networkId, sender, .Roster roster⟩) outcome, m⟩ =
      d.receiveRoster env m sender networkId roster outcome := by
    simp [step, running, Daemon.message, listening]
  rw [message]
  unfold receiveRoster
  unfold rosterUpdate at persisted
  dsimp only
  rw [persisted]
  rfl

theorem step_heartbeat_takeRoster {connected : Bool} (m' : Nat → Moment) (running : d.stopped = false) :
    (d.takeRoster env m app connected).step env ⟨.heartbeat, m'⟩ =
      (d.takeRoster env m app connected).heartbeat m' := by
  have still : (d.takeRoster env m app connected).stopped = false := by
    unfold takeRoster rosterClient
    dsimp only
    split_ifs <;> exact running
  simp [step, still]

theorem followsRoster_iff (m' : Nat → Moment) (running : d.stopped = false)
    (listening : (d.relaySessionActive && d.relayConnected) = true)
    (persisted : persistSharedNetworkRoster env outcome d.session.app
      (rosterUpdate sender networkId roster) = (true, app)) :
    d.FollowsRoster env m m' ⟨networkId, sender, .Roster roster⟩ outcome app ↔
      ((d.takeRoster env m app outcome.connected).heartbeatSession m').FollowsPlan (m' 2)
        ((d.takeRoster env m app outcome.connected).heartbeat m').session.tunnel.runtime := by
  unfold FollowsRoster
  dsimp only
  rw [step_of_persisted running listening persisted, step_heartbeat_takeRoster m' running]
  exact and_iff_right ((app_heartbeatSession _).trans app_takeRoster)

end Accepted

/-- In a daemon that has run for any time, an accepted roster reaches the peer table of the tunnel by the next
heartbeat, when no update of the tunnel fails, exactly when the following holds. With the session enabled and a
peer to expect: some update is not skipped at the fingerprint check, or the kept fingerprint is of peers that the
device has. Otherwise: the new client has something to listen for and reaches the relays, or the tunnel had no
peer. -/
theorem revocation_reaches_tunnel_iff (env : SessionEnv) (m₀ : Nat → Moment) (app₀ : AppConfig)
    (tunnel : TunnelSystem) (endpoint : Option DiscoveredPublicSignalEndpoint)
    (cache : Option DaemonPeerCacheState) (mapped : Option String) (steps : List DaemonStep) {d : Daemon}
    (reached : d = run (step env) (start env m₀ app₀ tunnel endpoint cache mapped) steps)
    (running : d.stopped = false) (listening : (d.relaySessionActive && d.relayConnected) = true)
    (sender networkId : String) (roster : NetworkRoster) (outcome : RosterOutcome) {app : AppConfig}
    (persisted : persistSharedNetworkRoster env outcome d.session.app
      (rosterUpdate sender networkId roster) = (true, app))
    (m m' : Nat → Moment) (codec : ∀ i, (m i).tunnel.codec.Lawful) (codec' : ∀ i, (m' i).tunnel.codec.Lawful)
    (ok : UpdatesSucceed env m m' app outcome.connected d) :
    d.FollowsRoster env m m' ⟨networkId, sender, .Roster roster⟩ outcome app ↔
      if d.sessionEnabled ∧ 0 < expectedPeerCount env.sdk app then
        UpdatesSkipped env m m' app outcome.connected d → FingerprintStands d.session.tunnel.runtime
      else (makesClient env.sdk app ∧ app.joinRequestsEnabled ∧ outcome.connected) ∨
        ∀ key, d.session.tunnel.runtime.peers.lookup key = none := by
  have settled : d.Settled := by
    rw [reached]
    exact run_invariant (fun d s settled => settled_step d s settled) (settled_start ..) steps
  rw [followsRoster_iff m' running listening persisted]
  rcases settled with enabled | paused
  · by_cases zero : expectedPeerCount env.sdk app = 0
    · have updates := @rosterUpdatesTunnel_iff_of_unexpected env app outcome.connected d zero
      rw [if_neg (by omega), followsPlan_iff_of_unexpected zero, ← updates]
      by_cases updated : RosterUpdatesTunnel env (d.configure env app) outcome.connected
      · refine iff_of_true ?_ (.inl updated)
        have alone : otherParticipants (d.configure env app).session.app (d.configure env app).session.ownPubkey =
            [] := alone_of_expectedPeerCount zero
        obtain ⟨effects, taken⟩ := @rosterClient_of_updated env m outcome.connected _ updated
        rw [takeRoster, taken]
        obtain ⟨plan, planned, ⟨⟨other, same, ne, -⟩, -⟩ | ⟨-, has, -⟩⟩ :=
          Session.applyPresence_cases (codec 0) (ok.roster updated)
        · exact absurd (Session.plan_of_alone alone other same) ne
        · rw [Session.plan_of_alone alone plan planned] at has
          exact hasPeers_nil.mp has
      · rw [takeRoster, session_rosterClient_of_not_updated updated, or_iff_right updated]
        rfl
    · have expected : d.sessionEnabled = true ∧ 0 < expectedPeerCount env.sdk app :=
        ⟨enabled, Nat.pos_of_ne_zero zero⟩
      rw [if_pos expected]
      refine followsPlan_iff_of_active codec codec' ok ?_
      rw [active_takeRoster]
      simp [expected]
  · have later := ((@stays_quiet_configure env app d).trans
      (@stays_quiet_rosterClient env m outcome.connected _)) paused
    have inactive : (d.takeRoster env m app outcome.connected).sessionActive = false := by
      rw [active_takeRoster, paused.disabled]
      rfl
    have empty : ∀ key, d.session.tunnel.runtime.peers.lookup key = none := fun key => by
      rw [CliTunnelRuntime.peers, paused.device]
      rfl
    rw [if_neg (by simp [paused.disabled]), heartbeat_of_inactive inactive, heartbeatSession_of_inactive inactive]
    exact iff_of_true (followsPlan_of_paused later.1 _) (.inr empty)

/-- A roster that leaves nobody to expect and nothing to listen for leaves the tunnel as it is. -/
theorem keeps_tunnel_of_unexpected {outcome : RosterOutcome} {sender networkId : String} {roster : NetworkRoster}
    {m m' : Nat → Moment} (running : d.stopped = false) (listening : (d.relaySessionActive && d.relayConnected) = true)
    (persisted : persistSharedNetworkRoster env outcome d.session.app (rosterUpdate sender networkId roster) =
      (true, app))
    (zero : expectedPeerCount env.sdk app = 0) (deaf : app.joinRequestsEnabled = false) {key : WireGuard.Key}
    (had : (d.session.tunnel.runtime.peers.lookup key).isSome = true) :
    UpdatesSucceed env m m' app outcome.connected d ∧
      ¬d.FollowsRoster env m m' ⟨networkId, sender, .Roster roster⟩ outcome app := by
  have not : ¬RosterUpdatesTunnel env (d.configure env app) outcome.connected := by
    rw [rosterUpdatesTunnel_iff_of_unexpected zero, deaf]
    simp
  have inactive : (d.takeRoster env m app outcome.connected).sessionActive = false := by
    rw [active_takeRoster]
    simp [zero]
  refine ⟨⟨fun update => absurd update not, fun active => by simp [inactive] at active⟩, fun follows => ?_⟩
  rw [followsRoster_iff m' running listening persisted, followsPlan_iff_of_unexpected zero, takeRoster,
    session_rosterClient_of_not_updated not] at follows
  have left : d.session.tunnel.runtime.peers.lookup key = none := follows key
  simp [left] at had

end Daemon

/-! ## The administrator removes peers -/

/-- The administrator and another member, each with a WireGuard key and an announcement. -/
def administrator : String := (samplePubkeys[1]?).getD ""

def member : String := (samplePubkeys[2]?).getD ""

def administratorKey : WireGuard.Key := ⟨List.replicate 32 1, by decide⟩

def memberKey : WireGuard.Key := ⟨List.replicate 32 2, by decide⟩

def administratorPeer : String × PeerAnnouncement := (administrator, sampleAnnouncement 0 "10.44.7.7/32" [])

def memberPeer : String × PeerAnnouncement := (member, sampleAnnouncement 1 "10.44.8.8/32" [])

/-- The cache of a network with the announcements of its other participants. -/
def meshCache (peers : List (String × PeerAnnouncement)) : DaemonPeerCacheState where
  version := 1
  networkId := "mesh-home"
  ownPubkey := samplePubkeys.head?
  peers := peers.map fun (participant, announcement) => ⟨participant, announcement, none, 99⟩
  pathBook := ⟨∅⟩

/-- The daemon that knows the other participants from its cache and has reached its relays. -/
def connectedDaemon (peers : List (String × PeerAnnouncement)) : Daemon := run (Daemon.step sampleSessionEnv)
  (Daemon.start sampleSessionEnv (fun _ => sampleMoment 100) (sampleDaemonConfig (peers.map Prod.fst))
    ⟨{ iface := "utun100" }, ⟨∅, []⟩⟩ none (some (meshCache peers)) none)
  [sampleStep 100 (.reconnect true ⟨true, true⟩)]

/-- The administrator names the participants. -/
def administratorRoster (participants : List String) : NetworkRoster where
  participants := participants
  admins := [administrator]
  signedAt := 1000

/-- The node has a key pair when it fills in its defaults. -/
def administratorOutcome : RosterOutcome :=
  { sampleRosterOutcome with
    generated := { sampleRosterOutcome.generated with
      keyPair := (((sampleKeys.map Prod.fst)[2]?).getD "", ((sampleKeys.map Prod.fst)[2]?).getD "") } }

theorem persisted_of_fst {persisted : Bool × AppConfig} (saved : persisted.1 = true) :
    persisted = (true, persisted.2) := by rw [← saved]

/-- A daemon that reaches its relays announces itself, and nothing else of its session changes. -/
theorem Daemon.reconnect_of_ready {env : SessionEnv} {m : Nat → Moment} {d : Daemon}
    (apart : d.relayConnected = false) (listening : d.relaySessionActive = true) (active : d.sessionActive = true)
    (client : makesClient env.sdk d.session.app = true) :
    ∃ announces effects, d.reconnect env m true ⟨true, true⟩ = { d with
      relayConnected := true
      relayServiceConnected := true
      session := { d.session with outboundAnnounces := announces, effects := effects } } := by
  have still (session : Session) : Daemon.sessionActive { d with
      relayConnected := true, relayServiceConnected := true, session := session } = true := active
  unfold Daemon.reconnect
  rw [if_neg (by simp [apart, listening]), if_neg (by simp [client]), if_neg (by simp)]
  dsimp only
  obtain ⟨effects, published⟩ : ∃ effects, d.session.publishActiveNetworkRoster env.sdk none =
      { d.session with effects := effects } := by
    unfold Session.publishActiveNetworkRoster
    dsimp only
    split_ifs <;> exact ⟨_, rfl⟩
  simp only [Daemon.onSession, published, still, Bool.not_true, Bool.false_eq_true, if_false]
  exact ⟨_, _, rfl⟩

/-- The daemon at its start, with the configuration and the interface. -/
def initialDaemon (peers : List (String × PeerAnnouncement)) : Daemon :=
  let app := sampleDaemonConfig (peers.map Prod.fst)
  { session := { app, ownPubkey := app.ownPubkey sampleSessionEnv.sdk, tunnel := ⟨{ iface := "utun100" }, ⟨∅, []⟩⟩ }
    networkId := app.effectiveNetworkId
    expectedPeers := expectedPeerCount sampleSessionEnv.sdk app }

/-- The daemon with its cache, before it configures the tunnel. -/
def loadedDaemon (peers : List (String × PeerAnnouncement)) : Bool × Daemon :=
  Daemon.restorePeerCache sampleSessionEnv 100 (some (meshCache peers))
    ((initialDaemon peers).onSession (Session.refreshEndpoint (sampleMoment 100) none))

/-- The cache is restored, and the daemon makes a client for its peers. -/
structure Loads (peers : List (String × PeerAnnouncement)) : Prop where
  restored : (initialDaemon peers).sessionActive = true ∧ (loadedDaemon peers).1 = true
  running : (loadedDaemon peers).2.stopped = false
  enabled : (loadedDaemon peers).2.sessionEnabled = true
  apart : (loadedDaemon peers).2.relayConnected = false
  listening : (loadedDaemon peers).2.relaySessionActive = true
  active : (loadedDaemon peers).2.sessionActive = true
  client : makesClient sampleSessionEnv.sdk (loadedDaemon peers).2.session.app = true
  noNat : (loadedDaemon peers).2.session.app.nat.enabled = false

/-- The daemon with its cache and its tunnel, once it has reached the relays. -/
theorem connectedDaemon_eq {peers : List (String × PeerAnnouncement)} (loads : Loads peers)
    (ok : ((loadedDaemon peers).2.session.applyPresence (sampleMoment 100) 100).1 = true) :
    ∃ announces effects, connectedDaemon peers = { (loadedDaemon peers).2 with
      relayConnected := true
      relayServiceConnected := true
      session := { ((loadedDaemon peers).2.session.applyPresence (sampleMoment 100) 100).2 with
        publicSignalEndpoint := none
        outboundAnnounces := announces
        effects := effects } } := by
  obtain ⟨⟨expects, restored⟩, running, enabled, apart, listening, active, client, noNat⟩ := loads
  have started : Daemon.start sampleSessionEnv (fun _ => sampleMoment 100) (sampleDaemonConfig (peers.map Prod.fst))
      ⟨{ iface := "utun100" }, ⟨∅, []⟩⟩ none (some (meshCache peers)) none = { (loadedDaemon peers).2 with
        session := { ((loadedDaemon peers).2.session.applyPresence (sampleMoment 100) 100).2 with
          publicSignalEndpoint := none } } := by
    have load : Daemon.restorePeerCache sampleSessionEnv 100 (some (meshCache peers))
        (if (initialDaemon peers).sessionActive then
          (initialDaemon peers).onSession (Session.refreshEndpoint (sampleMoment 100) none)
        else initialDaemon peers) = loadedDaemon peers := by rw [if_pos expects, loadedDaemon]
    have noNat' : ((loadedDaemon peers).2.session.applyPresence (sampleMoment 100) 100).2.app.nat.enabled =
        false := noNat
    unfold Daemon.start
    dsimp only
    rw [show (sampleMoment 100).now = 100 from rfl]
    erw [load]
    rw [ok, restored]
    simp [Daemon.onSession, Session.maybeRunNatPunch, noNat']
  rw [connectedDaemon, started]
  generalize (loadedDaemon peers).2 = d at running apart listening active client
  obtain ⟨announces, effects, reached⟩ := @Daemon.reconnect_of_ready sampleSessionEnv (fun _ => sampleMoment 100)
    { d with
      session := { (d.session.applyPresence (sampleMoment 100) 100).2 with publicSignalEndpoint := none } }
    apart listening active client
  refine ⟨announces, effects, Eq.trans ?_ reached⟩
  simp [Daemon.step, running, sampleStep]

-- From here on the daemon with its cache is known by its lemmas.
attribute [local irreducible] loadedDaemon

/-! ## The administrator removes a member -/

def bothPeers : List (String × PeerAnnouncement) := [administratorPeer, memberPeer]

def administratorPlanned : PlannedTunnelPeer :=
  ⟨administrator, "203.0.113.20:51820",
    ⟨"0101010101010101010101010101010101010101010101010101010101010101", "203.0.113.20:51820", ["10.44.7.7/32"]⟩⟩

def memberPlanned : PlannedTunnelPeer :=
  ⟨member, "203.0.113.21:51820",
    ⟨"0202020202020202020202020202020202020202020202020202020202020202", "203.0.113.21:51820", ["10.44.8.8/32"]⟩⟩

/-- The path book after an update that is completed. -/
def Session.notedBook (m : Moment) (plan : List PlannedTunnelPeer) (session : Session) : PeerPathBook :=
  plan.foldl (fun book planned => book.noteSelected planned.participant planned.endpoint m.now)
    ((session.presenceCall m).plan sampleEnv { iface := "utun100" }).2

/-- What persisting a roster of the administrator returns. -/
def rosterPersisted (peers : List (String × PeerAnnouncement)) (participants : List String) : Bool × AppConfig :=
  Daemon.persistSharedNetworkRoster sampleSessionEnv administratorOutcome (sampleDaemonConfig (peers.map Prod.fst))
    (Daemon.rosterUpdate administrator "mesh-home" (administratorRoster participants))

/-- The configuration of the roster without the member. -/
def memberRemoved : Bool × AppConfig := rosterPersisted bothPeers (samplePubkeys.take 2)

/-- What the roster branch plans for, and the heartbeat after it. -/
def rosterSession : Session :=
  (Daemon.configure sampleSessionEnv memberRemoved.2 { (loadedDaemon bothPeers).2 with
    session := { (loadedDaemon bothPeers).2.session with
      pathBook := (loadedDaemon bothPeers).2.session.notedBook (sampleMoment 100)
        [administratorPlanned, memberPlanned] } }).session

def laterSession : Session :=
  { rosterSession with pathBook := rosterSession.notedBook (sampleMoment 102) [administratorPlanned] }

def sampleFingerprint (call : ApplyCall) (plan : List PlannedTunnelPeer) : String :=
  call.fingerprint portRuntime (plan.map PlannedTunnelPeer.peer)

theorem bothPeers_facts :
    (((loadedDaemon bothPeers).2.session.presenceCall (sampleMoment 100)).plan sampleEnv
      { iface := "utun100" }).1 = .ok [administratorPlanned, memberPlanned] ∧
    ((rosterSession.presenceCall (sampleMoment 102)).plan sampleEnv { iface := "utun100" }).1 =
      .ok [administratorPlanned] ∧
    ((laterSession.presenceCall (sampleMoment 103)).plan sampleEnv { iface := "utun100" }).1 =
      .ok [administratorPlanned] ∧
    (Plain [administratorPlanned.peer, memberPlanned.peer] ∧ Plain [administratorPlanned.peer]) ∧
    (memberRemoved.1 = true ∧ 0 < expectedPeerCount sampleSessionEnv.sdk memberRemoved.2 ∧
      makesClient sampleSessionEnv.sdk memberRemoved.2 = true) ∧
    ((loadedDaemon bothPeers).2.session.app.node.privateKey = ((sampleKeys.map Prod.fst)[2]?).getD "" ∧
      (loadedDaemon bothPeers).2.session.app.node.listenPort = 51820) ∧
    (rosterSession.app.node.privateKey = ((sampleKeys.map Prod.fst)[2]?).getD "" ∧
      rosterSession.app.node.listenPort = 51820) ∧
    sampleFingerprint ((loadedDaemon bothPeers).2.session.presenceCall (sampleMoment 100))
      [administratorPlanned, memberPlanned] ≠
        sampleFingerprint (rosterSession.presenceCall (sampleMoment 102)) [administratorPlanned] ∧
    sampleFingerprint (rosterSession.presenceCall (sampleMoment 102)) [administratorPlanned] =
        sampleFingerprint (laterSession.presenceCall (sampleMoment 103)) [administratorPlanned] := by
  decide +kernel

/-- The daemon that knows both peers. -/
def twoPeerDaemon : Daemon := connectedDaemon bothPeers

theorem loads_facts : ∀ peers ∈ [bothPeers, [administratorPeer]],
    ((initialDaemon peers).sessionActive = true ∧ (loadedDaemon peers).1 = true) ∧
    (loadedDaemon peers).2.stopped = false ∧ (loadedDaemon peers).2.sessionEnabled = true ∧
    (loadedDaemon peers).2.relayConnected = false ∧ (loadedDaemon peers).2.relaySessionActive = true ∧
    (loadedDaemon peers).2.sessionActive = true ∧
    makesClient sampleSessionEnv.sdk (loadedDaemon peers).2.session.app = true ∧
    (loadedDaemon peers).2.session.app.nat.enabled = false := by
  decide +kernel

theorem loads_of_mem {peers : List (String × PeerAnnouncement)} (mem : peers ∈ [bothPeers, [administratorPeer]]) :
    Loads peers := by
  obtain ⟨restored, running, enabled, apart, listening, active, client, noNat⟩ := loads_facts peers mem
  exact ⟨restored, running, enabled, apart, listening, active, client, noNat⟩

theorem loads_bothPeers : Loads bothPeers := loads_of_mem (by simp)

theorem tunnel_loadedDaemon (peers : List (String × PeerAnnouncement)) :
    (loadedDaemon peers).2.session.tunnel = ⟨{ iface := "utun100" }, ⟨∅, []⟩⟩ ∧
      (loadedDaemon peers).2.session.app = sampleDaemonConfig (peers.map Prod.fst) := by
  unfold loadedDaemon Daemon.restorePeerCache
  dsimp only
  split_ifs
  · exact ⟨rfl, rfl⟩
  · unfold Session.restorePeerCache
    dsimp only
    split_ifs <;> exact ⟨rfl, rfl⟩

/-- The session on another tunnel. -/
def Session.onTunnel (tunnel : TunnelSystem) (effects : List SessionEffect) (session : Session) : Session :=
  { session with tunnel := tunnel, publicSignalEndpoint := none, effects := effects }

section Session
variable {session base : Session} {m : Moment} {plan : List PlannedTunnelPeer} {fingerprint : String}

theorem Session.presenceCall_onTunnel (tunnel : TunnelSystem) (effects : List SessionEffect) :
    (session.onTunnel tunnel effects).presenceCall m = session.presenceCall m := rfl

theorem Session.tunnel_onTunnel (tunnel : TunnelSystem) (effects : List SessionEffect) :
    (session.onTunnel tunnel effects).tunnel = tunnel := rfl

/-- An update of a session with a plain plan on the sample machine. -/
theorem Session.applyPresence_of_plain (machine : m.tunnel = sampleEnv)
    (same : session.presenceCall m = base.presenceCall m)
    (planned : ((base.presenceCall m).plan sampleEnv { iface := "utun100" }).1 = .ok plan) (ne : plan ≠ [])
    (plain : Plain (plan.map PlannedTunnelPeer.peer))
    (privateKey : base.app.node.privateKey = ((sampleKeys.map Prod.fst)[2]?).getD "")
    (port : base.app.node.listenPort = 51820)
    (tunnel : session.tunnel = ⟨{ iface := "utun100" }, ⟨∅, []⟩⟩ ∨ ∃ fingerprint, RunsWith session.tunnel fingerprint ∧
      fingerprint ≠ sampleFingerprint (base.presenceCall m) plan) :
    (session.applyPresence m m.now).1 = true ∧ ¬session.SkipsUpdate m ∧
      (session.applyPresence m m.now).2.pathBook = base.notedBook m plan ∧
      RunsWith (session.applyPresence m m.now).2.tunnel (sampleFingerprint (base.presenceCall m) plan) ∧
      HasPeers (session.applyPresence m m.now).2.tunnel.runtime.peers (plan.map PlannedTunnelPeer.peer) := by
  have planned' : (base.presenceCall m).plan sampleEnv session.tunnel.runtime = (.ok plan,
      ((base.presenceCall m).plan sampleEnv { iface := "utun100" }).2) := by
    rw [plan_sampleEnv _ _ { iface := "utun100" }]
    exact Prod.ext planned rfl
  obtain ⟨applied, runs⟩ := apply_of_plain planned' ne plain privateKey port tunnel
  have skips : ¬(base.presenceCall m).Skips sampleEnv session.tunnel := not_skips_of_applied applied
  have book := book_apply_of_applied planned' applied
  have update : session.applyPresence m m.now = (((base.presenceCall m).apply sampleEnv
      session.tunnel).returned.result.isOk, { session with
        pathBook := ((base.presenceCall m).apply sampleEnv session.tunnel).book
        tunnel := ((base.presenceCall m).apply sampleEnv session.tunnel).system }.record
          [.planned ((base.presenceCall m).plan sampleEnv session.tunnel.runtime).1]) := by
    rw [← machine, ← same]
    rfl
  have ok : (session.applyPresence m m.now).1 = true := by
    rw [update, applied]
    rfl
  rw [SkipsUpdate, machine, update, same]
  refine ⟨by rw [applied]; rfl, skips, book, runs, ?_⟩
  rcases apply_cases sampleCodec_lawful (congrArg Prod.fst planned') with ⟨⟨error, failed⟩, -⟩ | ⟨ne, check, -⟩ |
    ⟨-, has, -⟩
  · rw [applied] at failed
    cases failed
  · exact absurd ⟨plan, congrArg Prod.fst planned', ne, check⟩ skips
  · exact has

end Session

/-- An update changes the path book and the tunnel, and records its plan. -/
theorem Session.applyPresence_shape (m : Moment) (now : Nat) (session : Session) :
    (session.applyPresence m now).2 = { session with
      pathBook := (session.applyPresence m now).2.pathBook
      tunnel := (session.applyPresence m now).2.tunnel
      effects := (session.applyPresence m now).2.effects } := rfl

/-- The daemon with both peers, once it runs with the plan for them. -/
def runningDaemon (d : Daemon) (book : PeerPathBook) (tunnel : TunnelSystem) (announces : OutboundAnnounceBook)
    (effects : List SessionEffect) : Daemon :=
  { d with
    relayConnected := true
    relayServiceConnected := true
    session := { d.session with
      pathBook := book
      tunnel := tunnel
      publicSignalEndpoint := none
      outboundAnnounces := announces
      effects := effects } }

theorem runningDaemon_of_shape (d : Daemon) {after : Session} (announces : OutboundAnnounceBook)
    (effects : List SessionEffect) (shape : after = { d.session with
      pathBook := after.pathBook, tunnel := after.tunnel, effects := after.effects }) :
    ({ d with
      relayConnected := true
      relayServiceConnected := true
      session := { after with
        publicSignalEndpoint := none
        outboundAnnounces := announces
        effects := effects } } : Daemon) = runningDaemon d after.pathBook after.tunnel announces effects := by
  generalize after.pathBook = book, after.tunnel = tunnel, after.effects = recorded at shape ⊢
  rw [shape]
  rfl

section Running
variable (d : Daemon) (book : PeerPathBook) (tunnel : TunnelSystem) (announces : OutboundAnnounceBook)
  (effects : List SessionEffect)

theorem stopped_runningDaemon : (runningDaemon d book tunnel announces effects).stopped = d.stopped := rfl

theorem enabled_runningDaemon : (runningDaemon d book tunnel announces effects).sessionEnabled = d.sessionEnabled :=
  rfl

theorem app_runningDaemon : (runningDaemon d book tunnel announces effects).session.app = d.session.app := rfl

theorem tunnel_runningDaemon : (runningDaemon d book tunnel announces effects).session.tunnel = tunnel := rfl

theorem listening_runningDaemon : ((runningDaemon d book tunnel announces effects).relaySessionActive &&
    (runningDaemon d book tunnel announces effects).relayConnected) = d.relaySessionActive := Bool.and_true _

theorem session_configure_runningDaemon (env : SessionEnv) (app : AppConfig) :
    ((runningDaemon d book tunnel announces effects).configure env app).session =
      (Daemon.configure env app { d with session := { d.session with pathBook := book } }).session.onTunnel tunnel
        effects := rfl

end Running

theorem heartbeatSession_of_shape {m : Nat → Moment} (d : Daemon) (session : Session) {after : Session}
    {tunnel : TunnelSystem} {before effects : List SessionEffect}
    (shape : after = { session.onTunnel tunnel before with
      pathBook := after.pathBook, tunnel := after.tunnel, effects := after.effects }) :
    ({ d with relayConnected := true, session := { after with effects := effects } } : Daemon).heartbeatSession m =
      Session.onTunnel after.tunnel effects { session with pathBook := after.pathBook } := by
  rw [Daemon.heartbeatSession, if_neg (by simp)]
  generalize after.pathBook = book, after.tunnel = tunnel', after.effects = recorded at shape ⊢
  rw [shape]
  rfl

theorem connectedDaemon_of_plain {peers : List (String × PeerAnnouncement)} {plan : List PlannedTunnelPeer}
    (loads : Loads peers)
    (planned : (((loadedDaemon peers).2.session.presenceCall (sampleMoment 100)).plan sampleEnv
      { iface := "utun100" }).1 = .ok plan) (ne : plan ≠ []) (plain : Plain (plan.map PlannedTunnelPeer.peer))
    (privateKey : (loadedDaemon peers).2.session.app.node.privateKey = ((sampleKeys.map Prod.fst)[2]?).getD "")
    (port : (loadedDaemon peers).2.session.app.node.listenPort = 51820) :
    ∃ tunnel announces effects, connectedDaemon peers = runningDaemon (loadedDaemon peers).2
        ((loadedDaemon peers).2.session.notedBook (sampleMoment 100) plan) tunnel announces effects ∧
      RunsWith tunnel (sampleFingerprint ((loadedDaemon peers).2.session.presenceCall (sampleMoment 100)) plan) ∧
      HasPeers tunnel.runtime.peers (plan.map PlannedTunnelPeer.peer) := by
  obtain ⟨ok, -, book, runs, has⟩ := @Session.applyPresence_of_plain (loadedDaemon peers).2.session
    _ (sampleMoment 100) plan rfl rfl planned ne plain privateKey port (.inl (tunnel_loadedDaemon _).1)
  obtain ⟨announces, effects, eq⟩ := connectedDaemon_eq loads ok
  refine ⟨_, announces, effects, eq.trans ?_, runs, has⟩
  rw [← book]
  exact runningDaemon_of_shape _ announces effects (Session.applyPresence_shape ..)

/-- What the runtime of a connected daemon and the roster branch ask of it. -/
theorem connectedDaemon_ready {peers : List (String × PeerAnnouncement)} (loads : Loads peers) {book : PeerPathBook}
    {tunnel : TunnelSystem} {announces : OutboundAnnounceBook} {effects : List SessionEffect}
    (eq : connectedDaemon peers = runningDaemon (loadedDaemon peers).2 book tunnel announces effects) :
    (connectedDaemon peers).stopped = false ∧
    ((connectedDaemon peers).relaySessionActive && (connectedDaemon peers).relayConnected) = true ∧
    (connectedDaemon peers).sessionEnabled = true ∧
    (connectedDaemon peers).session.app = sampleDaemonConfig (peers.map Prod.fst) ∧
    (connectedDaemon peers).session.tunnel = tunnel := by
  rw [eq, stopped_runningDaemon, listening_runningDaemon, enabled_runningDaemon, app_runningDaemon,
    tunnel_runningDaemon]
  exact ⟨loads.running, loads.listening, loads.enabled, (tunnel_loadedDaemon peers).2, rfl⟩

theorem twoPeerDaemon_eq : ∃ tunnel announces effects, twoPeerDaemon = runningDaemon (loadedDaemon bothPeers).2
      ((loadedDaemon bothPeers).2.session.notedBook (sampleMoment 100) [administratorPlanned, memberPlanned]) tunnel
        announces effects ∧
    RunsWith tunnel (sampleFingerprint ((loadedDaemon bothPeers).2.session.presenceCall (sampleMoment 100))
      [administratorPlanned, memberPlanned]) ∧
    HasPeers tunnel.runtime.peers [administratorPlanned.peer, memberPlanned.peer] := by
  obtain ⟨planned, -, -, ⟨plain, -⟩, -, ⟨privateKey, port⟩, -⟩ := bothPeers_facts
  exact connectedDaemon_of_plain loads_bothPeers planned (by simp) plain privateKey port

section Session
variable {session base : Session} {m : Moment} {plan : List PlannedTunnelPeer}

/-- An update with the plan that the tunnel runs with succeeds. -/
theorem Session.applyPresence_of_kept (machine : m.tunnel = sampleEnv)
    (same : session.presenceCall m = base.presenceCall m)
    (planned : ((base.presenceCall m).plan sampleEnv { iface := "utun100" }).1 = .ok plan) (ne : plan ≠ [])
    (plain : Plain (plan.map PlannedTunnelPeer.peer))
    (runs : RunsWith session.tunnel (sampleFingerprint (base.presenceCall m) plan)) :
    (session.applyPresence m m.now).1 = true := by
  rw [← same] at planned runs
  obtain ⟨-, inside, noDefault⟩ := plain
  have planned' : ((session.presenceCall m).plan sampleEnv session.tunnel.runtime).1 = .ok plan := by
    rw [plan_sampleEnv _ _ { iface := "utun100" }]
    exact planned
  have kept : ApplyCall.keepDefaultRoute sampleEnv (plan.map PlannedTunnelPeer.peer) session.tunnel =
      session.tunnel := by
    simp [ApplyCall.keepDefaultRoute, noDefault, TunnelSystem.restoreLinuxOriginalDefaultRoute, runs.original]
  have specs : (session.presenceCall m).bypassSpecs sampleEnv (plan.map PlannedTunnelPeer.peer) session.tunnel =
      .ok [] := by simp [ApplyCall.bypassSpecs, inside]
  have check : session.tunnel.runtime.lastFingerprint = some ((session.presenceCall m).fingerprint
      session.tunnel.runtime (plan.map PlannedTunnelPeer.peer)) := by
    rw [runs.last, fingerprint_of_runsWith runs]
    rfl
  have update : (session.presenceCall m).update sampleEnv plan session.tunnel = (.unchanged, session.tunnel) := by
    simp only [ApplyCall.update, kept, specs]
    rw [if_pos ⟨check, runs.handle, by simp [ApplyCall.runtimePeers, sampleEnv, runtimePeerEndpointsRequireRefresh]⟩]
  change ((session.presenceCall m).apply m.tunnel session.tunnel).returned.result.isOk = true
  rw [machine, (apply_of_plan planned' ne).1, update]
  rfl

end Session

/-- The daemon has taken up the roster: the tunnel runs with the administrator only. -/
theorem takeRoster_twoPeerDaemon :
    Daemon.RosterUpdatesTunnel sampleSessionEnv (twoPeerDaemon.configure sampleSessionEnv memberRemoved.2) true ∧
    ((twoPeerDaemon.configure sampleSessionEnv memberRemoved.2).session.applyPresence (sampleMoment 102) 102).1 =
      true ∧
    ¬(twoPeerDaemon.configure sampleSessionEnv memberRemoved.2).session.SkipsUpdate (sampleMoment 102) ∧
    ∃ tunnel effects, (twoPeerDaemon.takeRoster sampleSessionEnv (fun _ => sampleMoment 102) memberRemoved.2
        true).heartbeatSession (fun _ => sampleMoment 103) = laterSession.onTunnel tunnel effects ∧
      RunsWith tunnel (sampleFingerprint (rosterSession.presenceCall (sampleMoment 102)) [administratorPlanned]) := by
  obtain ⟨-, planned, -, ⟨-, plain⟩, ⟨-, expected, client⟩, -, ⟨privateKey, port⟩, other, -⟩ := bothPeers_facts
  obtain ⟨tunnel, announces, effects, eq, runs, -⟩ := twoPeerDaemon_eq
  have configured : (twoPeerDaemon.configure sampleSessionEnv memberRemoved.2).session =
      rosterSession.onTunnel tunnel effects := by
    rw [eq, rosterSession]
    exact session_configure_runningDaemon ..
  have enabled : twoPeerDaemon.sessionEnabled = true := (connectedDaemon_ready loads_bothPeers eq).2.2.1
  have updates : Daemon.RosterUpdatesTunnel sampleSessionEnv
      (twoPeerDaemon.configure sampleSessionEnv memberRemoved.2) true := by
    refine ⟨client, ?_, rfl⟩
    simp [Daemon.relaySessionActive, relaySessionActive, daemonSessionActive, Daemon.configure, enabled, expected]
  obtain ⟨ok, applies, book, runs', -⟩ := @Session.applyPresence_of_plain (rosterSession.onTunnel tunnel effects)
    rosterSession (sampleMoment 102) _ rfl (Session.presenceCall_onTunnel ..) planned (by simp) plain privateKey port
    (.inr ⟨_, runs, other⟩)
  rw [← configured] at ok applies
  refine ⟨updates, ok, applies, ?_⟩
  obtain ⟨effects', taken⟩ := @Daemon.rosterClient_of_updated sampleSessionEnv (fun _ => sampleMoment 102) true _ updates
  refine ⟨_, effects', ?_, runs'⟩
  rw [Daemon.takeRoster, taken, configured, laterSession, ← book]
  exact heartbeatSession_of_shape _ rosterSession (Session.applyPresence_shape ..)

/-- The roster without the member reaches the tunnel, which had its key before. -/
theorem revocation_reaches_tunnel_of_removed_member :
    (twoPeerDaemon.session.tunnel.runtime.peers.lookup memberKey).isSome = true ∧
    twoPeerDaemon.FollowsRoster sampleSessionEnv (fun _ => sampleMoment 102) (fun _ => sampleMoment 103)
      ⟨"mesh-home", administrator, .Roster (administratorRoster (samplePubkeys.take 2))⟩ administratorOutcome
      memberRemoved.2 ∧
    ((twoPeerDaemon.step sampleSessionEnv ⟨.message (some ⟨"mesh-home", administrator,
      .Roster (administratorRoster (samplePubkeys.take 2))⟩) administratorOutcome, fun _ => sampleMoment 102⟩).step
        sampleSessionEnv ⟨.heartbeat, fun _ => sampleMoment 103⟩).session.tunnel.runtime.peers.lookup
          memberKey = none := by
  obtain ⟨-, -, later, ⟨-, plain⟩, ⟨saved, expected, -⟩, -, ⟨-, port⟩, -, same⟩ := bothPeers_facts
  obtain ⟨tunnel, announces, effects, eq, runs, has⟩ := twoPeerDaemon_eq
  obtain ⟨updates, ok, applies, tunnel', effects', heartbeat, runs'⟩ := takeRoster_twoPeerDaemon
  have ready := connectedDaemon_ready loads_bothPeers eq
  rw [show connectedDaemon bothPeers = twoPeerDaemon from rfl] at ready
  obtain ⟨running, listening, enabled, config, on⟩ := ready
  have persisted : Daemon.persistSharedNetworkRoster sampleSessionEnv administratorOutcome twoPeerDaemon.session.app
      (Daemon.rosterUpdate administrator "mesh-home" (administratorRoster (samplePubkeys.take 2))) =
        (true, memberRemoved.2) := by
    rw [config]
    exact persisted_of_fst saved
  have beats : ((twoPeerDaemon.takeRoster sampleSessionEnv (fun _ => sampleMoment 102) memberRemoved.2
      true).heartbeatSession fun _ => sampleMoment 103).presenceCall (sampleMoment 103) =
        laterSession.presenceCall (sampleMoment 103) := by
    rw [heartbeat, Session.presenceCall_onTunnel]
  have follows : twoPeerDaemon.FollowsRoster sampleSessionEnv (fun _ => sampleMoment 102) (fun _ => sampleMoment 103)
      ⟨"mesh-home", administrator, .Roster (administratorRoster (samplePubkeys.take 2))⟩ administratorOutcome
      memberRemoved.2 := by
    refine (Daemon.revocation_reaches_tunnel_iff sampleSessionEnv _ _ _ _ _ _
      [sampleStep 100 (.reconnect true ⟨true, true⟩)] (show twoPeerDaemon = _ from rfl) running listening _ _ _
      administratorOutcome persisted (fun _ => sampleMoment 102) (fun _ => sampleMoment 103)
      (fun _ => sampleCodec_lawful) (fun _ => sampleCodec_lawful) ⟨fun _ => ok, fun _ => ?_⟩).mpr ?_
    · rw [show administratorOutcome.connected = true from rfl, heartbeat]
      exact Session.applyPresence_of_kept rfl (Session.presenceCall_onTunnel ..) later (by simp) plain (same ▸ runs')
    · rw [if_pos ⟨enabled, expected⟩]
      exact fun skipped => absurd (skipped.roster updates) applies
  refine ⟨?_, follows, ?_⟩
  · rw [on]
    exact (has.listed memberKey).mpr ⟨memberPlanned.peer, by simp, by decide +kernel⟩
  · obtain ⟨-, plan, planned, -, table⟩ := follows
    rw [Daemon.step_of_persisted running listening persisted] at planned
    rw [show administratorOutcome.connected = true from rfl, beats] at planned
    change (ApplyCall.plan _ sampleEnv _).1 = .ok plan at planned
    rw [plan_sampleEnv _ _ { iface := "utun100" }] at planned
    obtain rfl := Except.ok.inj (planned.symm.trans later)
    by_contra found
    obtain ⟨peer, mem, parsed⟩ := (table.listed memberKey).mp (Option.isSome_iff_ne_none.mpr found)
    obtain rfl := List.mem_singleton.mp mem
    exact absurd parsed (by decide +kernel)

/-! ## The administrator removes itself -/

/-- The configuration of the roster that leaves the node alone. -/
def administratorRemoved : Bool × AppConfig := rosterPersisted [administratorPeer] (samplePubkeys.take 1)

theorem loads_administratorPeer : Loads [administratorPeer] := loads_of_mem (by simp)

/-- Without the administrator nobody is expected and no join request is listened for. -/
theorem administratorPeer_facts :
    (((loadedDaemon [administratorPeer]).2.session.presenceCall (sampleMoment 100)).plan sampleEnv
      { iface := "utun100" }).1 = .ok [administratorPlanned] ∧ Plain [administratorPlanned.peer] ∧
    ((loadedDaemon [administratorPeer]).2.session.app.node.privateKey = ((sampleKeys.map Prod.fst)[2]?).getD "" ∧
      (loadedDaemon [administratorPeer]).2.session.app.node.listenPort = 51820) ∧
    administratorRemoved.1 = true ∧ expectedPeerCount sampleSessionEnv.sdk administratorRemoved.2 = 0 ∧
    administratorRemoved.2.joinRequestsEnabled = false := by
  decide +kernel

/-- The administrator removes itself and leaves the node alone: nothing updates the tunnel, which keeps it. -/
theorem last_peer_stays_in_tunnel :
    ¬ ∀ (env : SessionEnv) (m₀ : Nat → Moment) (app₀ : AppConfig) (tunnel : TunnelSystem)
      (endpoint : Option DiscoveredPublicSignalEndpoint) (cache : Option DaemonPeerCacheState)
      (mapped : Option String) (steps : List DaemonStep) (d : Daemon),
      d = run (Daemon.step env) (Daemon.start env m₀ app₀ tunnel endpoint cache mapped) steps →
      d.stopped = false → (d.relaySessionActive && d.relayConnected) = true →
      ∀ (sender networkId : String) (roster : NetworkRoster) (outcome : RosterOutcome) (app : AppConfig),
        Daemon.persistSharedNetworkRoster env outcome d.session.app
          (Daemon.rosterUpdate sender networkId roster) = (true, app) →
        ∀ m m' : Nat → Moment, (∀ i, (m i).tunnel.codec.Lawful) → (∀ i, (m' i).tunnel.codec.Lawful) →
          Daemon.UpdatesSucceed env m m' app outcome.connected d →
          d.FollowsRoster env m m' ⟨networkId, sender, .Roster roster⟩ outcome app := by
  intro reaches
  obtain ⟨planned, plain, ⟨privateKey, port⟩, saved, zero, deaf⟩ := administratorPeer_facts
  obtain ⟨tunnel, announces, effects, eq, -, has⟩ :=
    connectedDaemon_of_plain loads_administratorPeer planned (by simp) plain privateKey port
  obtain ⟨running, listening, -, config, on⟩ := connectedDaemon_ready loads_administratorPeer eq
  have persisted : Daemon.persistSharedNetworkRoster sampleSessionEnv administratorOutcome
      (connectedDaemon [administratorPeer]).session.app (Daemon.rosterUpdate administrator "mesh-home"
        (administratorRoster (samplePubkeys.take 1))) = (true, administratorRemoved.2) := by
    rw [config]
    exact persisted_of_fst saved
  have had : ((connectedDaemon [administratorPeer]).session.tunnel.runtime.peers.lookup administratorKey).isSome =
      true := by
    rw [on]
    exact (has.listed administratorKey).mpr ⟨administratorPlanned.peer, by simp, by decide +kernel⟩
  obtain ⟨ok, stays⟩ := @Daemon.keeps_tunnel_of_unexpected _ _ _ _ _ _ _ (fun _ => sampleMoment 102)
    (fun _ => sampleMoment 103) running listening persisted zero deaf _ had
  exact stays (reaches sampleSessionEnv _ _ _ _ _ _ [sampleStep 100 (.reconnect true ⟨true, true⟩)]
    (connectedDaemon [administratorPeer]) rfl running listening _ _ _ administratorOutcome _ persisted _ _
    (fun _ => sampleCodec_lawful) (fun _ => sampleCodec_lawful) ok)

end NostrVpn.Cli
