import NostrVpn.Cli.DaemonSession
import NostrVpn.Cli.RelayFailover
import NostrVpn.Core.RosterGuards
import NostrVpn.Transition

/-!
# Relay books and membership

Which participants the relay books mention: relays are requested for configured participants alone, and
grants, failovers and expiry mention nobody new. A Reload and an applied roster replace the configuration
and prune the presence, the paths and the sent announcements, but not the relay books.
-/
namespace NostrVpn.Cli

open Rust NostrVpn.Core Transition

-- Terms with texts are compared without reading the texts.
attribute [local irreducible] String.toList

/-- The open requests and the sessions, active or waiting, are for these participants. -/
structure RelayClient.MentionsOnly (client : RelayClient) (participants : List String) : Prop where
  pending : client.pendingRequests.All fun _ request => request.participant ∈ participants
  active : client.relaySessions.All fun participant _ => participant ∈ participants
  standby : client.standbyRelaySessions.All fun participant _ => participant ∈ participants

namespace RelayClient.MentionsOnly

variable {client : RelayClient} {participants : List String}

theorem empty : RelayClient.empty.MentionsOnly participants := ⟨.empty, .empty, .empty⟩

theorem mono (only : client.MentionsOnly participants) {others : List String}
    (sub : participants ⊆ others) : client.MentionsOnly others where
  pending id request found := sub (only.pending id request found)
  active participant session found := sub (only.active participant session found)
  standby participant sessions found := sub (only.standby participant sessions found)

/-! ## Timers -/

theorem prunePending (only : client.MentionsOnly participants) (now : Nat) :
    { client with pendingRequests := prunePendingRelayRequests client.pendingRequests now }.MentionsOnly
      participants :=
  ⟨only.pending.retain _, only.active, only.standby⟩

theorem prune (only : client.MentionsOnly participants) (now : Nat) :
    (client.prune now).MentionsOnly participants where
  pending := only.pending
  active := only.active.retain _
  standby := (only.standby.mapValues fun _ _ mem => mem).retain _

theorem dropRequestsFor (only : client.MentionsOnly participants) (participant : String) :
    (client.dropRequestsFor participant).MentionsOnly participants :=
  ⟨only.pending.retain _, only.active, only.standby⟩

/-- The promoted session was one of the waiting ones. -/
theorem failover (only : client.MentionsOnly participants) (participant : String) (now : Nat) :
    (client.failover participant now).2.MentionsOnly participants := by
  rcases @popNextStandbyRelaySession_cases client.standbyRelaySessions participant client.relayFailures
    now with same | ⟨before, session, after, found, -, -, popped⟩
  · rw [RelayClient.failover, same]
    exact only
  · rw [RelayClient.failover, popped]
    have waits := only.standby participant _ found
    refine ⟨only.pending, only.active.insert waits, ?_⟩
    dsimp only
    split_ifs
    · exact only.standby.erase participant
    · exact only.standby.insert waits

theorem reconcileParticipant (only : client.MentionsOnly participants)
    (verifies : String → ActiveRelaySession → Option Nat) (now : Nat) (participant : String) :
    (client.reconcileParticipant verifies now participant).2.MentionsOnly participants := by
  unfold RelayClient.reconcileParticipant
  cases found : client.relaySessions.lookup participant with
  | none => exact only
  | some session =>
    have known := only.active participant session found
    dsimp only
    by_cases active : session.isActive now
    · rw [if_neg (by simp [active])]
      cases verifies participant session with
      | some verifiedAt => exact ⟨only.pending, only.active.insert known, only.standby⟩
      | none =>
        dsimp only
        split_ifs
        · exact only
        · have without : ({ client with
              relaySessions := client.relaySessions.erase participant
              relayFailures := noteFailedRelay client.relayFailures participant session.relayPubkey now
              relayProviderVerifications := noteFailedRelayProvider client.relayProviderVerifications
                session.relayPubkey now none } : RelayClient).MentionsOnly participants :=
            ⟨only.pending, only.active.erase participant, only.standby⟩
          exact (without.dropRequestsFor participant).failover participant now
    · rw [if_pos (by simp [active])]
      have without : ({ client with
          relaySessions := client.relaySessions.erase participant } : RelayClient).MentionsOnly
            participants :=
        ⟨only.pending, only.active.erase participant, only.standby⟩
      dsimp only
      split_ifs
      · exact without.failover participant now
      · exact (without.failover participant now).dropRequestsFor participant

theorem reconcileActive (only : client.MentionsOnly participants)
    (verifies : String → ActiveRelaySession → Option Nat) (now : Nat) :
    (client.reconcileActiveRelaySessions verifies now).2.MentionsOnly participants := by
  rw [reconcileActiveRelaySessions_snd]
  generalize client.relaySessions.keys = rounds
  induction rounds generalizing client with
  | nil => exact only
  | cons participant rest ih => exact ih (only.reconcileParticipant verifies now participant)

/-! ## Requests -/

theorem probeRelayProviders (only : client.MentionsOnly participants) (relays : List String)
    (probe : String → RelayProviderProbeOutcome) (now : Nat) :
    (client.probeRelayProviders relays probe now).MentionsOnly participants := by
  unfold RelayClient.probeRelayProviders
  generalize (relays.filter _).take _ = candidates
  induction candidates generalizing client with
  | nil => exact only
  | cons relay rest ih => exact ih ⟨only.pending, only.active, only.standby⟩

/-- Only the participants that need a relay are asked for. -/
theorem requestRelays (only : client.MentionsOnly participants) (networkId : String)
    (ownPubkey : Option String) {needing : List String} (configured : needing ⊆ participants)
    (relays : List String) (published : String → String → Bool) (now : Nat) :
    (client.requestRelays networkId ownPubkey needing relays published now).MentionsOnly participants := by
  refine ⟨?_, only.active, only.standby⟩
  unfold RelayClient.requestRelays
  dsimp only
  generalize first : List.takeWhile _ _ = sent
  have addressed : ∀ request ∈ sent, request.1 ∈ participants := by
    rw [← first]
    intro request mem
    obtain ⟨participant, needs, same⟩ := List.mem_flatMap.mp (List.takeWhile_subset _ mem)
    obtain ⟨relay, -, rfl⟩ := List.mem_map.mp same
    exact configured needs
  clear first
  have pending := only.pending
  generalize client.pendingRequests = requests at pending ⊢
  induction sent generalizing requests with
  | nil => exact pending
  | cons request rest ih =>
    exact ih (fun later mem => addressed later (by simp [mem])) _
      (pending.insert (addressed request (by simp)))

theorem requestPublicRelayFallback (only : client.MentionsOnly participants) (networkId : String)
    (ownPubkey : Option String) {silent : List String} (configured : silent ⊆ participants)
    (outcome : FallbackOutcome) (now : Nat) :
    (client.requestPublicRelayFallback networkId ownPubkey silent outcome now).MentionsOnly
      participants := by
  unfold RelayClient.requestPublicRelayFallback
  dsimp only
  split_ifs
  · exact only
  · have needing : client.participantsNeedingRelay silent now ⊆ participants :=
      fun participant mem => configured (List.filter_subset_self silent mem)
    exact (only.probeRelayProviders _ outcome.probe now).requestRelays _ _ needing _ _ _

/-! ## Answers -/

theorem takeOut (only : client.MentionsOnly participants) (requestId : String) :
    { client with pendingRequests := client.pendingRequests.erase requestId }.MentionsOnly
      participants :=
  ⟨only.pending.erase requestId, only.active, only.standby⟩

/-- A session is made for the participant of an open request. -/
theorem acceptGrant (only : client.MentionsOnly participants) (granted : RelayAllocationGranted)
    (now : Nat) : (acceptRelayAllocationGrant granted client now).2.MentionsOnly participants := by
  unfold acceptRelayAllocationGrant
  by_cases expired : granted.expiresAt ≤ now
  · rw [if_pos expired]
    exact only
  · rw [if_neg expired]
    cases found : client.pendingRequests.lookup granted.requestId with
    | none => exact only
    | some request =>
      have known := only.pending granted.requestId request found
      have taken := only.takeOut granted.requestId
      dsimp only
      split
      · exact taken
      · split
        · exact taken
        · split
          · refine ⟨taken.pending, taken.active, ?_⟩
            rcases @queueStandbyRelaySession_cases client.standbyRelaySessions request.participant
              (.ofGrant granted now) with same | ⟨-, queued⟩
            · simpa only [same] using only.standby
            · simpa only [queued] using only.standby.insert known
          · exact ⟨taken.pending, only.active.insert known, only.standby⟩

theorem acceptRejection (only : client.MentionsOnly participants) (rejected : RelayAllocationRejected)
    (now : Nat) : (acceptRelayAllocationRejection rejected client now).2.MentionsOnly participants := by
  unfold acceptRelayAllocationRejection
  cases client.pendingRequests.lookup rejected.requestId with
  | none => exact only
  | some request =>
    dsimp only
    split_ifs
    · exact only.takeOut rejected.requestId
    · exact ⟨only.pending.erase rejected.requestId, only.active, only.standby⟩

end RelayClient.MentionsOnly

/-! ## Steps that touch neither the relay books nor the configuration -/

/-- The relay books and the configuration. -/
def Session.books (session : Session) : RelayClient × AppConfig := (session.relay, session.app)

namespace Session

variable (m m' : Moment) (session : Session)

@[simp] theorem books_mk {app : AppConfig} {ownPubkey : Option String} {presence : PeerPresenceBook}
    {pathBook : PeerPathBook} {outboundAnnounces : OutboundAnnounceBook} {relay : RelayClient}
    {tunnel : TunnelSystem} {publicSignalEndpoint : Option DiscoveredPublicSignalEndpoint}
    {lastNatPunchAttempt : Option String} {effects : List SessionEffect} :
    (Session.mk app ownPubkey presence pathBook outboundAnnounces relay tunnel publicSignalEndpoint
      lastNatPunchAttempt effects).books = (relay, app) := rfl

@[simp] theorem books_pair : (session.relay, session.app) = session.books := rfl

@[simp] theorem books_record (effects : List SessionEffect) :
    (session.record effects).books = session.books := rfl

@[simp] theorem books_applyPresence (now : Nat) :
    (session.applyPresence m now).2.books = session.books := rfl

@[simp] theorem books_forgetNatPunch : session.forgetNatPunch.books = session.books := rfl

@[simp] theorem books_forgetAnnounces (participants : List String) :
    (session.forgetAnnounces participants).books = session.books := rfl

@[simp] theorem books_greet : (session.greet m).books = session.books := rfl

@[simp] theorem books_answer (sender : String) : (session.answer m sender).books = session.books := rfl

@[simp] theorem books_publishHello : session.publishHello.books = session.books := rfl

@[simp] theorem books_publishPrivateAnnounceToParticipants (participants : List String)
    (announcements : Announcements) :
    (session.publishPrivateAnnounceToParticipants m participants announcements).2.books =
      session.books := rfl

@[simp] theorem books_publishPrivateAnnounceToActivePeers :
    (session.publishPrivateAnnounceToActivePeers m).books = session.books := rfl

@[simp] theorem books_refreshEndpoint (mapped : Option String) :
    (session.refreshEndpoint m mapped).books = session.books := rfl

@[simp] theorem books_dropStale (env : SessionEnv) (now : Nat) :
    (session.dropStale env now).2.books = session.books := rfl

@[simp] theorem books_publishActiveNetworkRoster (sdk : NostrSdk)
    (recipients : Option (List String)) :
    (session.publishActiveNetworkRoster sdk recipients).books = session.books := by
  unfold publishActiveNetworkRoster
  dsimp only
  split_ifs <;> rfl

@[simp] theorem books_punch (announcements : Announcements) (targets : List Net.SocketAddr)
    (fingerprint : String) :
    (session.punch m m' announcements targets fingerprint).books = session.books := by
  unfold punch
  dsimp only
  split_ifs <;> rfl

@[simp] theorem books_maybeRunNatPunch (announcements : Announcements) :
    (session.maybeRunNatPunch m m' announcements).books = session.books := by
  have refreshed : (session.refreshForPunch m).books = session.books := by
    unfold refreshForPunch
    split <;> rfl
  unfold maybeRunNatPunch
  dsimp only
  split_ifs
  · rfl
  · split
    · exact refreshed
    · split_ifs
      · exact refreshed
      · rw [books_punch, refreshed]

@[simp] theorem books_restorePeerCache (env : SessionEnv) (networkId : String) (now : Nat)
    (cache : DaemonPeerCacheState) :
    (session.restorePeerCache env networkId now cache).2.books = session.books := by
  unfold restorePeerCache
  dsimp only
  split_ifs <;> rfl

end Session

namespace Daemon

variable {env : SessionEnv} {m : Nat → Moment}

def books (d : Daemon) : RelayClient × AppConfig := d.session.books

@[simp] theorem books_onSession (f : Session → Session) (d : Daemon) :
    (d.onSession f).books = (f d.session).books := rfl

@[simp] theorem books_mk {session : Session} {networkId : String} {expectedPeers : Nat}
    {sessionEnabled relayConnected relayServiceConnected stopped : Bool} :
    (Daemon.mk session networkId expectedPeers sessionEnabled relayConnected relayServiceConnected
      stopped).books = session.books := rfl

@[simp] theorem books_session (d : Daemon) : d.session.books = d.books := rfl

theorem books_reconnect (due : Bool) (outcome : ConnectOutcome) (d : Daemon) :
    (d.reconnect env m due outcome).books = d.books := by
  unfold reconnect
  dsimp only
  split_ifs
  · rfl
  · rfl
  · rfl
  · simp
  · simp

theorem books_heartbeat (d : Daemon) : (d.heartbeat m).books = d.books := by
  unfold heartbeat
  dsimp only
  split_ifs <;> simp

theorem books_network (changed renewed : Bool) (mapped : Option String) (d : Daemon) :
    (d.network m changed renewed mapped).books = d.books := by
  unfold network
  dsimp only
  split_ifs <;> simp

theorem books_restorePeerCache (now : Nat) (cache : Option DaemonPeerCacheState) (d : Daemon) :
    (d.restorePeerCache env now cache).2.books = d.books := by
  unfold restorePeerCache
  cases cache with
  | none => rfl
  | some cache =>
    dsimp only
    split_ifs
    · rfl
    · exact Session.books_restorePeerCache ..

theorem books_resume (cache : Option DaemonPeerCacheState) (mapped : Option String) (d : Daemon) :
    (d.resume env m cache mapped).books = d.books := by
  unfold resume
  dsimp only
  have restored := @books_restorePeerCache env (m 3).now cache
    { d with sessionEnabled := true, relayConnected := false }
  split_ifs
  · rfl
  · exact restored
  · exact restored
  · exact restored

theorem books_shutdown (m : Moment) (d : Daemon) : (d.shutdown m).books = d.books := by
  unfold shutdown
  dsimp only
  split_ifs <;> rfl

theorem books_housekeeping (d : Daemon) : (d.housekeeping env m).books = d.books := by
  unfold housekeeping
  dsimp only
  split_ifs <;> rfl

theorem books_rosterClient (connected : Bool) (d : Daemon) :
    (d.rosterClient env m connected).books = d.books := by
  unfold rosterClient
  dsimp only
  split_ifs <;> simp

theorem books_reloadClient (connected : Bool) (d : Daemon) :
    (d.reloadClient env m connected).books = d.books := by
  unfold reloadClient
  dsimp only
  split_ifs <;> simp

theorem books_receiveSignal (sender : String) (payload : SignalPayload) (d : Daemon) :
    (d.receiveSignal env m sender payload).books = d.books := by
  have greeted : (if isHelloOrAnnounce payload then d.onSession fun session =>
      session.publishActiveNetworkRoster env.sdk (some [sender]) else d).books = d.books := by
    split_ifs <;> simp
  unfold receiveSignal
  dsimp only
  generalize (if isHelloOrAnnounce payload then d.onSession fun session =>
    session.publishActiveNetworkRoster env.sdk (some [sender]) else d) = d' at greeted ⊢
  rw [← greeted]
  cases payload <;> dsimp only <;> split_ifs <;> simp

/-! ## Steps that change the relay books -/

/-- The relay books mention only configured participants. -/
def TracksMembers (d : Daemon) : Prop :=
  d.session.relay.MentionsOnly d.session.app.participantPubkeysHex

theorem TracksMembers.of_books {d d' : Daemon} (tracks : d.TracksMembers) (same : d'.books = d.books) :
    d'.TracksMembers := by
  obtain ⟨relay, app⟩ := Prod.mk.inj same
  unfold TracksMembers
  rw [relay, app]
  exact tracks

/-- A change of the relay books under the same configuration. -/
theorem TracksMembers.of_relay {d d' : Daemon} {relay : RelayClient}
    (only : relay.MentionsOnly d.session.app.participantPubkeysHex)
    (books : d'.books = (relay, d.session.app)) : d'.TracksMembers := by
  obtain ⟨relay, app⟩ := Prod.mk.inj books
  unfold TracksMembers
  rw [relay, app]
  exact only

theorem books_expireRelays (m : Moment) (session : Session) :
    (expireRelays m session).books = (session.relay.prune m.now, session.app) := by
  unfold expireRelays
  dsimp only
  split_ifs <;> rfl

theorem silentParticipants_subset (m : Moment) (now : Nat) (session : Session) :
    session.silentParticipants m now ⊆ session.app.participantPubkeysHex := fun participant mem => by
  simp only [Session.silentParticipants, otherParticipants, List.mem_filter] at mem
  exact mem.1.1

theorem tracks_requestFallback {d : Daemon} (tracks : d.TracksMembers) (m : Moment) (now : Nat)
    (outcome : FallbackOutcome) : (d.requestFallback m now outcome).TracksMembers := by
  have pruned := RelayClient.MentionsOnly.prunePending tracks now
  unfold requestFallback
  dsimp only
  split_ifs
  · exact pruned
  · exact pruned.requestPublicRelayFallback _ _ (silentParticipants_subset m now _) outcome now

theorem tracks_announceTick {d : Daemon} (tracks : d.TracksMembers) (outcome : FallbackOutcome) :
    (d.announceTick m outcome).TracksMembers := by
  unfold announceTick
  split_ifs
  · exact tracks
  · have expired : (d.onSession (expireRelays (m 0))).TracksMembers :=
      .of_relay (tracks.prune (m 0).now) (books_expireRelays (m 0) d.session)
    generalize d.onSession (expireRelays (m 0)) = pruned at expired ⊢
    have punched : (pruned.onSession fun session =>
        session.maybeRunNatPunch (m 1) (m 2) session.presence.active).TracksMembers :=
      expired.of_books (by simp)
    have requested := tracks_requestFallback punched (m 3) (m 0).now outcome
    dsimp only
    split
    · split_ifs
      · exact requested.of_books (by simp)
      · exact requested.of_books (by simp)
    · exact requested.of_books (by simp)

theorem books_reconcileRelays (d : Daemon) :
    ∃ verifies, (d.reconcileRelays m).books =
      ((d.session.relay.reconcileActiveRelaySessions verifies (m 0).now).2, d.session.app) := by
  refine ⟨runtimePeerVerifiesRelaySession (m 0).tunnel.codec d.session.presence
    (d.session.runtimePeers (m 0)) (m 0).now, ?_⟩
  unfold reconcileRelays
  dsimp only
  split_ifs <;> rfl

theorem tracks_reconcileRelays {d : Daemon} (tracks : d.TracksMembers) :
    (d.reconcileRelays m).TracksMembers := by
  obtain ⟨verifies, books⟩ := @books_reconcileRelays m d
  exact .of_relay (tracks.reconcileActive verifies (m 0).now) books

theorem tracks_pause (d : Daemon) : (d.pause m).TracksMembers := by
  have books : (d.pause m).books = (.empty, d.session.app) := by
    unfold pause
    dsimp only
    split_ifs <;> rfl
  exact .of_relay .empty books

/-- A service message leaves the configuration alone and mentions nobody new. -/
theorem books_serviceMessage {d : Daemon} (tracks : d.TracksMembers) (payload : Option ServicePayload) :
    ∃ relay, relay.MentionsOnly d.session.app.participantPubkeysHex ∧
      (d.serviceMessage m payload).books = (relay, d.session.app) := by
  unfold serviceMessage
  split_ifs
  · exact ⟨d.session.relay, tracks, rfl⟩
  · split
    · exact ⟨d.session.relay, tracks, rfl⟩
    · rename_i granted
      refine ⟨_, tracks.acceptGrant granted (m 0).now, ?_⟩
      dsimp only
      split
      · split_ifs <;> rfl
      · rfl
      · rfl
    · rename_i rejected
      exact ⟨_, tracks.acceptRejection rejected (m 0).now, rfl⟩
    · exact ⟨d.session.relay, tracks, rfl⟩

/-! ## New configurations -/

def rosterUpdate (sender networkId : String) (roster : NetworkRoster) : SharedRosterUpdate where
  networkId := networkId
  networkName := roster.networkName
  participants := roster.participants
  admins := roster.admins
  aliases := roster.aliases
  signedAt := roster.signedAt
  signedBy := sender

/-- The configuration that an applied roster makes, whether it can be saved or not. -/
def rosterConfig (env : SessionEnv) (outcome : RosterOutcome) (app : AppConfig)
    (update : SharedRosterUpdate) : Option AppConfig :=
  match app.applyAdminSignedSharedRoster env.sdk env.sha256 outcome.clock update with
  | (.ok true, app) =>
    some (app.maybeAutoconfigureNode env.sdk env.sha256 outcome.generated outcome.detected)
  | _ => none

theorem persistSharedNetworkRoster_eq (outcome : RosterOutcome) (app : AppConfig)
    (update : SharedRosterUpdate) :
    persistSharedNetworkRoster env outcome app update =
      ((rosterConfig env outcome app update).isSome && outcome.saved,
        (rosterConfig env outcome app update).getD app) := by
  have outcomes := refused_or_accepted env.sdk env.sha256 outcome.clock app update
  unfold persistSharedNetworkRoster rosterConfig
  generalize app.applyAdminSignedSharedRoster env.sdk env.sha256 outcome.clock update = result at *
  obtain ⟨verdict, after⟩ := result
  rcases outcomes with ⟨refused, same⟩ | ⟨accepted, -⟩
  · obtain rfl : after = app := same
    rcases verdict with e | _ | _
    · rfl
    · rfl
    · exact absurd rfl refused
  · obtain rfl : verdict = .ok true := accepted
    simp

/-- The configuration that a step puts in place of the old one: that of a Reload or of an applied
roster. -/
def newConfig (env : SessionEnv) (d : Daemon) (s : DaemonStep) : Option AppConfig :=
  match s.event with
  | .stateTick (some (.reload loaded _ _)) _ => if d.stopped then none else loaded
  | .message (some ⟨networkId, sender, .Roster roster⟩) outcome =>
    if d.stopped || !(d.relaySessionActive && d.relayConnected) then none
    else rosterConfig env outcome d.session.app (rosterUpdate sender networkId roster)
  | _ => none

/-- The relay books that a new configuration meets. A state tick reconciles the relay sessions before it
handles the request. -/
def relayAtConfig (d : Daemon) (s : DaemonStep) : RelayClient :=
  match s.event with
  | .stateTick _ _ => (d.reconcileRelays s.moments).session.relay
  | _ => d.session.relay

theorem books_configure (app : AppConfig) (d : Daemon) :
    (d.configure env app).books = (d.session.relay, app) := rfl

theorem books_receiveRoster (sender networkId : String) (roster : NetworkRoster) (outcome : RosterOutcome)
    (d : Daemon) : (d.receiveRoster env m sender networkId roster outcome).books = (d.session.relay,
      (rosterConfig env outcome d.session.app (rosterUpdate sender networkId roster)).getD
        d.session.app) := by
  have persisted := @persistSharedNetworkRoster_eq env outcome d.session.app
    (rosterUpdate sender networkId roster)
  unfold receiveRoster
  dsimp only
  split
  · rename_i app saved
    rw [show persistSharedNetworkRoster env outcome d.session.app
      (rosterUpdate sender networkId roster) = (true, app) from saved] at persisted
    rw [books_rosterClient, books_configure, (Prod.mk.inj persisted).2]
  · rename_i app unsaved
    rw [show persistSharedNetworkRoster env outcome d.session.app
      (rosterUpdate sender networkId roster) = (false, app) from unsaved] at persisted
    rw [← (Prod.mk.inj persisted).2]
    rfl

theorem books_reload (app : AppConfig) (connected : Bool) (mapped : Option String) (d : Daemon) :
    (d.reload env m (some app) connected mapped).books = (d.session.relay, app) := by
  have client := @books_reloadClient env m connected (d.configure env app)
  rw [books_configure] at client
  unfold reload
  dsimp only
  split_ifs
  · exact client
  · exact client

/-- What follows the control request in a tick. -/
theorem books_finish (restartDue : Bool) (d : Daemon) :
    (if d.stopped then d else if restartDue then d.shutdown (m 6) else d.housekeeping env m).books =
      d.books := by
  split_ifs
  · rfl
  · exact books_shutdown (m 6) d
  · exact books_housekeeping d

/-- A new configuration meets the relay books and leaves them as they are. -/
theorem books_step_of_newConfig {d : Daemon} {s : DaemonStep} {app : AppConfig}
    (new : newConfig env d s = some app) : (d.step env s).books = (d.relayAtConfig s, app) := by
  obtain ⟨event, moments⟩ := s
  unfold newConfig at new
  split at new
  · rename_i loaded connected mapped restartDue same
    obtain rfl : event = _ := same
    split_ifs at new with running
    subst new
    rw [step, if_neg running]
    exact (books_finish restartDue _).trans (books_reload app connected mapped _)
  · rename_i networkId sender roster outcome same
    obtain rfl : event = _ := same
    split_ifs at new with running
    simp only [Bool.or_eq_true, Bool.not_eq_true', not_or, Bool.not_eq_false] at running
    have received := @books_receiveRoster env moments sender networkId roster outcome d
    rw [new] at received
    rw [step, if_neg running.1]
    simpa [message, running.2, relayAtConfig] using received
  · cases new

/-- Every other step keeps the relay books within the membership. -/
theorem tracks_step {d : Daemon} {s : DaemonStep} (tracks : d.TracksMembers)
    (old : newConfig env d s = none) : (d.step env s).TracksMembers := by
  obtain ⟨event, moments⟩ := s
  unfold step
  split_ifs with stopped
  · exact tracks
  · cases event with
    | terminate => exact tracks.of_books (books_shutdown _ d)
    | reconnect due outcome => exact tracks.of_books (books_reconnect due outcome d)
    | announceTick outcome => exact tracks_announceTick tracks outcome
    | heartbeat => exact tracks.of_books (books_heartbeat d)
    | network changed renewed mapped => exact tracks.of_books (books_network changed renewed mapped d)
    | serviceMessage payload =>
      obtain ⟨relay, only, books⟩ := @books_serviceMessage moments d tracks payload
      exact .of_relay only books
    | stateTick control restartDue =>
      have reconciled := @tracks_reconcileRelays moments d tracks
      suffices handled : ((control.map ((d.reconcileRelays moments).handleControl env moments)).getD
          (d.reconcileRelays moments)).TracksMembers from handled.of_books (books_finish restartDue _)
      cases control with
      | none => exact reconciled
      | some control => cases control with
        | stop => exact reconciled.of_books (books_shutdown (moments 3) _)
        | pause => exact tracks_pause _
        | resume cache mapped => exact reconciled.of_books (books_resume cache mapped _)
        | reload loaded connected mapped => cases loaded with
          | none => exact reconciled
          | some app => simp [newConfig, stopped] at old
    | message message outcome =>
      unfold Daemon.message
      dsimp only
      split_ifs with listens
      · exact tracks
      · cases message with
        | none => exact tracks.of_books rfl
        | some envelope =>
          obtain ⟨networkId, sender, payload⟩ := envelope
          dsimp only
          cases payload with
          | JoinRequest requestedAt request =>
            unfold TracksMembers onSession
            dsimp only
            rw [participantPubkeysHex_recordInboundJoinRequest]
            exact tracks
          | Roster roster =>
            have received := @books_receiveRoster env moments sender networkId roster outcome d
            have refused : rosterConfig env outcome d.session.app (rosterUpdate sender networkId roster) =
                none := by simpa [newConfig, stopped, listens] using old
            rw [refused] at received
            exact tracks.of_books received
          | _ => exact tracks.of_books (books_receiveSignal sender _ d)

/-! ## Runs -/

/-- After a new configuration the relay books mention only its participants, and a grant makes or queues
a session for a configured participant only. -/
structure KeepsMembership (env : SessionEnv) (d : Daemon) (s : DaemonStep) : Prop where
  configured : ∀ app ∈ newConfig env d s,
    (d.step env s).session.relay.MentionsOnly app.participantPubkeysHex
  granted : ∀ granted, s.event = .serviceMessage (some (.RelayAllocationGranted granted)) →
    ∀ participant,
      (d.step env s).session.relay.relaySessions.lookup participant ≠
          d.session.relay.relaySessions.lookup participant ∨
        (d.step env s).session.relay.standbyRelaySessions.lookup participant ≠
          d.session.relay.standbyRelaySessions.lookup participant →
      participant ∈ d.session.app.participantPubkeysHex

/-- Whom the relay books mention when a new configuration arrives, that configuration still has. -/
def SparesMentioned (env : SessionEnv) (d : Daemon) (s : DaemonStep) : Prop :=
  ∀ app ∈ newConfig env d s, (d.relayAtConfig s).MentionsOnly app.participantPubkeysHex

theorem mem_of_lookup_ne {ν : Type} {before after : HashMap String ν} {participants : List String}
    {participant : String} (old : before.All fun participant _ => participant ∈ participants)
    (new : after.All fun participant _ => participant ∈ participants)
    (changed : after.lookup participant ≠ before.lookup participant) : participant ∈ participants := by
  cases now : after.lookup participant with
  | some value => exact new participant value now
  | none =>
    cases earlier : before.lookup participant with
    | some value => exact old participant value earlier
    | none => exact absurd (now.trans earlier.symm) changed

theorem keepsMembership_iff {d : Daemon} (tracks : d.TracksMembers) (s : DaemonStep) :
    KeepsMembership env d s ↔ SparesMentioned env d s := by
  have relay {app : AppConfig} (new : newConfig env d s = some app) :
      (d.step env s).session.relay = d.relayAtConfig s :=
    (Prod.mk.inj (books_step_of_newConfig new)).1
  constructor
  · intro keeps app new
    rw [← relay new]
    exact keeps.configured app new
  · intro spares
    refine ⟨fun app new => ?_, fun granted same participant changed => ?_⟩
    · rw [relay new]
      exact spares app new
    · obtain ⟨event, moments⟩ := s
      obtain rfl : event = _ := same
      by_cases stopped : d.stopped
      · simp [Daemon.step, stopped] at changed
      · obtain ⟨relay', only, books⟩ := @books_serviceMessage moments d tracks
          (some (.RelayAllocationGranted granted))
        simp only [Daemon.step, stopped, Bool.false_eq_true, if_false, (Prod.mk.inj books).1] at changed
        rcases changed with active | standby
        · exact mem_of_lookup_ne tracks.active only.active active
        · exact mem_of_lookup_ne tracks.standby only.standby standby

/-- A configuration that removes nobody spares everybody. -/
theorem sparesMentioned_of_subset {d : Daemon} (tracks : d.TracksMembers) {s : DaemonStep}
    (grows : ∀ app ∈ newConfig env d s,
      d.session.app.participantPubkeysHex ⊆ app.participantPubkeysHex) : SparesMentioned env d s := by
  intro app new
  have met : (d.relayAtConfig s).MentionsOnly d.session.app.participantPubkeysHex := by
    unfold relayAtConfig
    split
    · obtain ⟨verifies, books⟩ := @books_reconcileRelays s.moments d
      rw [(Prod.mk.inj books).1]
      exact tracks.reconcileActive verifies (s.moments 0).now
    · exact tracks
  exact met.mono (grows app new)

theorem TracksMembers.step {d : Daemon} (tracks : d.TracksMembers) {s : DaemonStep}
    (spares : SparesMentioned env d s) : (d.step env s).TracksMembers := by
  cases new : newConfig env d s with
  | none => exact tracks_step tracks new
  | some app =>
    obtain ⟨relay, config⟩ := Prod.mk.inj (books_step_of_newConfig new)
    unfold TracksMembers
    rw [relay, config]
    exact spares app new

theorem tracks_start (app : AppConfig) (tunnel : TunnelSystem)
    (endpoint : Option DiscoveredPublicSignalEndpoint) (cache : Option DaemonPeerCacheState)
    (mapped : Option String) : (start env m app tunnel endpoint cache mapped).TracksMembers := by
  have books : (start env m app tunnel endpoint cache mapped).books = (.empty, app) := by
    unfold start
    dsimp only
    split_ifs <;> simp [books_restorePeerCache]
  obtain ⟨relay, config⟩ := Prod.mk.inj books
  unfold TracksMembers
  rw [relay]
  exact .empty

/-- A run keeps the relay books within the membership exactly when every new configuration still has the
participants that the relay books mention when it arrives. -/
theorem membership_kept_iff (env : SessionEnv) (m : Nat → Moment) (app : AppConfig)
    (tunnel : TunnelSystem) (endpoint : Option DiscoveredPublicSignalEndpoint)
    (cache : Option DaemonPeerCacheState) (mapped : Option String) (steps : List DaemonStep) :
    Along (step env) (KeepsMembership env) (start env m app tunnel endpoint cache mapped) steps ↔
      Along (step env) (SparesMentioned env) (start env m app tunnel endpoint cache mapped) steps :=
  along_congr (fun _ s _ tracks => keepsMembership_iff tracks s)
    (fun _ _ _ tracks spares => tracks.step spares) (tracks_start app tunnel endpoint cache mapped)

end Daemon

/-! ## A participant that is removed while a relay is asked for -/

def sampleAnnounce : SignalEnvelope where
  networkId := "mesh-home"
  senderPubkey := (samplePubkeys[1]?).getD ""
  payload := .Announce (sampleAnnouncement 0 "10.44.7.7/32" [])

def removalStart : Daemon := Daemon.start sampleSessionEnv (fun _ => sampleMoment 100)
  (sampleDaemonConfig (samplePubkeys.drop 1)) ⟨{ iface := "utun100" }, ⟨∅, []⟩⟩ none none none

/-- The daemon hears of its peer and asks a relay to reach it. -/
def askingSteps : List DaemonStep :=
  [sampleStep 100 (.reconnect true ⟨true, true⟩),
    sampleStep 101 (.message (some sampleAnnounce) sampleRosterOutcome),
    sampleStep 102 (.announceTick ⟨some ["relay"], fun _ => .Verified, fun _ _ => true⟩)]

/-- A Reload removes the peer. -/
def removalStep : DaemonStep := sampleStep 103
  (.stateTick (some (.reload (some (sampleDaemonConfig (samplePubkeys.drop 2))) true none)) false)

/-- The request for the removed peer stays open. -/
theorem removed_peer_mentioned :
    ¬∀ (env : SessionEnv) (m : Nat → Moment) (app : AppConfig) (tunnel : TunnelSystem)
      (endpoint : Option DiscoveredPublicSignalEndpoint) (cache : Option DaemonPeerCacheState)
      (mapped : Option String) (steps : List DaemonStep),
      Along (Daemon.step env) (Daemon.KeepsMembership env)
        (Daemon.start env m app tunnel endpoint cache mapped) steps := by
  intro kept
  have along : Along (Daemon.step sampleSessionEnv) (Daemon.KeepsMembership sampleSessionEnv)
      removalStart (askingSteps ++ [removalStep]) := kept _ _ _ _ _ _ _ _
  have reloaded := (along_append.mp along).2.1
  have running : (run (Daemon.step sampleSessionEnv) removalStart askingSteps).stopped = false := by
    decide +kernel
  have new : Daemon.newConfig sampleSessionEnv
      (run (Daemon.step sampleSessionEnv) removalStart askingSteps) removalStep =
        some (sampleDaemonConfig (samplePubkeys.drop 2)) := by
    simp [Daemon.newConfig, removalStep, sampleStep, running]
  have asked : ((run (Daemon.step sampleSessionEnv) removalStart askingSteps).step sampleSessionEnv
      removalStep).session.relay.pendingRequests.lookup
        (RelayClient.relayRequestId "mesh-home" ((samplePubkeys[1]?).getD "") "relay" 102) =
      some ⟨(samplePubkeys[1]?).getD "", "relay", 102⟩ := by decide +kernel
  have configured := (reloaded.configured _ new).pending _ _ asked
  exact absurd configured (by decide +kernel)

end NostrVpn.Cli
