import NostrVpn.Cli.SessionState
import NostrVpn.Core.JoinRequests
import NostrVpn.Core.NodeAutoconfigure

/-!
# The daemon session

The loop of `daemon_session` in `session_runtime.rs`, one event for each branch of its `select!`. A step has
several moments, in the order in which its parts run. What the relays, the files and the port mapping
answer is in the event, as is whether the retry delay of a reconnect has passed. On Linux nothing repairs
the underlay. The state file, the peer cache file that is written, the relay operator and the MagicDNS
server do not come back into the loop and are left out.
-/
namespace NostrVpn.Cli

open Rust Rust.Net NostrVpn.Core

def persistedPeerCacheTimeoutSecs (announceIntervalSecs : Nat) : Nat :=
  max (min (max announceIntervalSecs 5 * 30) u64Max) 600

def persistedPathCacheTimeoutSecs (announceIntervalSecs : Nat) : Nat :=
  max (min (max announceIntervalSecs 5 * 90) u64Max) 1800

def expectedPeerCount (sdk : NostrSdk) (app : AppConfig) : Nat :=
  let participants := app.participantPubkeysHex
  if (app.ownPubkey sdk).any participants.contains then participants.length - 1
  else participants.length

def daemonSessionActive (sessionEnabled : Bool) (expectedPeers : Nat) : Bool :=
  sessionEnabled && 0 < expectedPeers

def relaySessionActive (sessionEnabled : Bool) (expectedPeers : Nat) (joinRequestsActive : Bool) :
    Bool :=
  daemonSessionActive sessionEnabled expectedPeers || joinRequestsActive

/-! ## Events -/

structure DaemonPeerCacheEntry where
  participantPubkey : String
  announcement : PeerAnnouncement
  lastSignalSeenAt : Option Nat
  cachedAt : Nat

structure DaemonPeerCacheState where
  version : Nat
  networkId : String
  ownPubkey : Option String
  peers : List DaemonPeerCacheEntry
  pathBook : PeerPathBook

/-- The two clients connect to the relays. -/
structure ConnectOutcome where
  signaling : Bool
  service : Bool

/-- What the search for relay providers meets; a probe that fails with an error is a failed one. -/
structure FallbackOutcome where
  discovered : Option (List String)
  probe : String → RelayProviderProbeOutcome
  published : String → String → Bool

/-- What a received roster meets: the clock of its check, what `maybe_autoconfigure_node` draws, whether
the file is saved and the relays are reached. -/
structure RosterOutcome where
  clock : UInt64
  generated : Generated
  detected : Option Ipv4Addr
  saved : Bool
  connected : Bool

inductive DaemonControl where
  | stop
  | pause
  | resume (cache : Option DaemonPeerCacheState) (mapped : Option String)
  /-- `loaded` is the configuration that the files give, unless staging or loading fails. -/
  | reload (loaded : Option AppConfig) (connected : Bool) (mapped : Option String)

inductive DaemonEvent where
  | terminate
  | reconnect (due : Bool) (outcome : ConnectOutcome)
  | announceTick (outcome : FallbackOutcome)
  | heartbeat
  | network (changed renewed : Bool) (mapped : Option String)
  | stateTick (control : Option DaemonControl) (restartDue : Bool)
  | message (message : Option SignalEnvelope) (outcome : RosterOutcome)
  | serviceMessage (payload : Option ServicePayload)

structure DaemonStep where
  event : DaemonEvent
  moments : Nat → Moment

structure Daemon where
  session : Session
  networkId : String
  expectedPeers : Nat
  sessionEnabled : Bool := true
  relayConnected : Bool := false
  relayServiceConnected : Bool := false
  stopped : Bool := false

/-! ## Relay fallback -/

/-- The participants that are present without a recent handshake. -/
def Session.silentParticipants (m : Moment) (now : Nat) (session : Session) : List String :=
  (otherParticipants session.app session.ownPubkey).filter fun participant =>
    (session.presence.announcementFor participant).any fun a =>
      !(peerRuntimeLookup m.tunnel.codec a (session.runtimePeers m)).any (peerHasRecentHandshake now)

/-- Providers that are not cooled down, the best first; equal neighbours are one. -/
def rankedRelayProviders (verifications : RelayProviderVerificationBook) (now : Nat)
    (relayPubkeys : List String) : List String :=
  (sortByKey (fun relay => relayProviderSortKey verifications relay now)
    (relayPubkeys.filter fun relay => !relayProviderInFailureCooldown verifications relay now)).destutter
    (· ≠ ·)

namespace RelayClient

/-- `proactively_probe_relay_providers`. -/
def probeRelayProviders (client : RelayClient) (relayPubkeys : List String)
    (probe : String → RelayProviderProbeOutcome) (now : Nat) : RelayClient :=
  let candidates := (relayPubkeys.filter fun relay =>
    relayProviderProbeDue client.relayProviderVerifications relay now).take
      MAX_PARALLEL_RELAY_PROVIDER_PROBES
  candidates.foldl (fun client relay =>
    ({ client with
      relayProviderVerifications := noteRelayProviderProbeAttempt client.relayProviderVerifications
        relay now } : RelayClient).noteProbeOutcome relay now (probe relay)) client

/-- `maybe_request_public_relay_fallback`. -/
def requestPublicRelayFallback (client : RelayClient) (networkId : String) (ownPubkey : Option String)
    (silent : List String) (outcome : FallbackOutcome) (now : Nat) : RelayClient :=
  let participants := client.participantsNeedingRelay silent now
  let relays := rankedRelayProviders client.relayProviderVerifications now (outcome.discovered.getD [])
  if participants = [] ∨ relays = [] then client
  else
    let client := client.probeRelayProviders relays outcome.probe now
    client.requestRelays networkId ownPubkey participants
      (rankedRelayProviders client.relayProviderVerifications now relays) outcome.published now

/-- The sizes by which an announce tick sees that something expired. -/
def sizes (client : RelayClient) : List Nat :=
  [client.relaySessions.keys.length, client.standbyRelaySessions.keys.length,
    client.relayFailures.keys.length, client.relayProviderVerifications.keys.length]

end RelayClient

/-- `restore_daemon_peer_cache`, for a file that was read. -/
def Session.restorePeerCache (env : SessionEnv) (networkId : String) (now : Nat)
    (cache : DaemonPeerCacheState) (session : Session) : Bool × Session :=
  let otherKey := cache.ownPubkey.any fun cached => session.ownPubkey.any (cached ≠ ·)
  if cache.version ≠ 1 ∨ cache.networkId ≠ networkId ∨ otherKey then (false, session)
  else
    let configured := session.app.participantPubkeysHex
    let entries := cache.peers.filter fun entry =>
      now - persistedPeerCacheTimeoutSecs env.announceIntervalSecs < entry.cachedAt &&
        configured.contains entry.participantPubkey && some entry.participantPubkey != session.ownPubkey
    if entries.isEmpty then (false, session)
    else (true, { session with
      presence := entries.foldl (fun presence entry => presence.restoreKnown entry.participantPubkey
        entry.announcement entry.lastSignalSeenAt) session.presence
      pathBook := (cache.pathBook.retainParticipants configured).pruneStale now
        (persistedPathCacheTimeoutSecs env.announceIntervalSecs) })

namespace Daemon

variable (env : SessionEnv) (m : Nat → Moment)

def sessionActive (d : Daemon) : Bool := daemonSessionActive d.sessionEnabled d.expectedPeers

def relaySessionActive (d : Daemon) : Bool :=
  Cli.relaySessionActive d.sessionEnabled d.expectedPeers d.session.app.joinRequestsEnabled

def onSession (f : Session → Session) (d : Daemon) : Daemon := { d with session := f d.session }

/-- `direct_peer_announcements`. -/
def directPeerAnnouncements (d : Daemon) : Announcements :=
  if d.relayConnected then d.session.presence.active else d.session.presence.known

/-! ## Timers -/

def reconnect (due : Bool) (outcome : ConnectOutcome) (d : Daemon) : Daemon :=
  if !d.relaySessionActive || d.relayConnected || !due then d
  else if !makesClient env.sdk d.session.app then
    { d with relayServiceConnected := false, stopped := true }
  else if !outcome.signaling then { d with relayServiceConnected := false }
  else
    let d := { d with relayConnected := true, relayServiceConnected := outcome.service }
    let d := d.onSession fun session => session.publishActiveNetworkRoster env.sdk none
    if !d.sessionActive then d
    else d.onSession fun session => { session with outboundAnnounces := {} }.greet (m 0)

/-- The relay books are pruned; when something expired, the tunnel is updated. -/
def expireRelays (m : Moment) (session : Session) : Session :=
  let pruned := session.relay.prune m.now
  let expired := pruned.sizes ≠ session.relay.sizes
  let session := { session with relay := pruned }
  if !expired then session
  else (({ session with outboundAnnounces := {} }.forgetNatPunch).applyPresence m m.now).2

def requestFallback (m : Moment) (now : Nat) (outcome : FallbackOutcome) (d : Daemon) : Daemon :=
  let session := { d.session with relay := { d.session.relay with
    pendingRequests := prunePendingRelayRequests d.session.relay.pendingRequests now } }
  if !session.app.usePublicRelayFallback || !d.relayServiceConnected then { d with session }
  else { d with
    session := { session with
      relay := session.relay.requestPublicRelayFallback session.app.effectiveNetworkId session.ownPubkey
        (session.silentParticipants m now) outcome now } }

def announceTick (outcome : FallbackOutcome) (d : Daemon) : Daemon :=
  if !d.sessionActive || !d.relayConnected then d
  else
    let d := d.onSession (expireRelays (m 0))
    let d := d.onSession fun session => session.maybeRunNatPunch (m 1) (m 2) session.presence.active
    let d := d.requestFallback (m 3) (m 0).now outcome
    let d := d.onSession fun session => (session.publishPrivateAnnounceToActivePeers (m 4)).publishHello
    match (m 4).helloPublished with
    | .error error =>
      if publishErrorRequiresReconnect error then { d with relayConnected := false } else d
    | .ok () => d

def heartbeat (d : Daemon) : Daemon :=
  if !d.sessionActive then d
  else
    let announcements := d.directPeerAnnouncements
    let d := if d.relayConnected then d
      else d.onSession fun session => session.maybeRunNatPunch (m 0) (m 1) announcements
    d.onSession fun session => (session.applyPresence (m 2) (m 2).now).2

def network (changed renewed : Bool) (mapped : Option String) (d : Daemon) : Daemon :=
  let active := d.sessionActive
  let clear (session : Session) : Session := { session with publicSignalEndpoint := none }
  let d := if active && (changed || renewed) then d.onSession (Session.refreshEndpoint (m 0) mapped)
    else if changed then d.onSession clear else d
  if !changed && !(active && renewed) then d
  else
    let d := if !changed then d
      else d.onSession fun session => (session.forgetNatPunch.applyPresence (m 1) (m 1).now).2
    if !active then d
    else
      let announcements := d.directPeerAnnouncements
      let d := d.onSession fun session => session.maybeRunNatPunch (m 2) (m 3) announcements
      if d.relayConnected then d.onSession (Session.greet (m 4)) else d

/-! ## The state tick -/

/-- `reconcile_active_relay_sessions` and what follows from it. -/
def reconcileRelays (d : Daemon) : Daemon :=
  let now := (m 0).now
  let verifies := runtimePeerVerifiesRelaySession (m 0).tunnel.codec d.session.presence
    (d.session.runtimePeers (m 0)) now
  let (changed, relay) := d.session.relay.reconcileActiveRelaySessions verifies now
  let d := d.onSession fun session => { session with relay }
  if changed = [] then d
  else
    let (ok, session) := (d.session.forgetNatPunch.forgetAnnounces changed).applyPresence (m 1) now
    let d := { d with session }
    if !(ok && d.relayConnected) then d
    else d.onSession fun session =>
      (session.publishPrivateAnnounceToParticipants (m 2) changed session.presence.known).2

def pause (d : Daemon) : Daemon :=
  let d := if d.relayConnected && d.sessionActive then
    d.onSession fun session => session.record [.disconnect] else d
  let listens := d.session.app.joinRequestsEnabled
  let d := { d with
    sessionEnabled := false
    relayConnected := d.relayConnected && listens }
  d.onSession fun session => ({ session with
    publicSignalEndpoint := none
    presence := {}
    pathBook := ⟨∅⟩
    relay := .empty
    outboundAnnounces := {}
    lastNatPunchAttempt := none }.applyPresence (m 3) (m 3).now).2

/-- An active session takes up the peers of the cache file. -/
def restorePeerCache (now : Nat) (cache : Option DaemonPeerCacheState) (d : Daemon) : Bool × Daemon :=
  match cache with
  | none => (false, d)
  | some cache =>
    if !d.sessionActive then (false, d)
    else
      let (restored, session) := d.session.restorePeerCache env d.networkId now cache
      (restored, { d with session })

def resume (cache : Option DaemonPeerCacheState) (mapped : Option String) (d : Daemon) : Daemon :=
  if d.sessionEnabled then d
  else
    let d := { d with sessionEnabled := true, relayConnected := false }
    let d := (d.restorePeerCache env (m 3).now cache).2
    let (ok, session) := d.session.applyPresence (m 4) (m 4).now
    let d := { d with session }
    if !ok then d
    else if d.sessionActive then d.onSession (Session.refreshEndpoint (m 5) mapped)
    else d.onSession fun session => { session with publicSignalEndpoint := none }

/-- A new configuration takes the place of the old one. -/
def configure (app : AppConfig) (d : Daemon) : Daemon :=
  let participants := app.participantPubkeysHex
  { d with
    networkId := app.effectiveNetworkId
    expectedPeers := expectedPeerCount env.sdk app
    session := { d.session with
      app
      ownPubkey := app.ownPubkey env.sdk
      presence := d.session.presence.retainParticipants participants
      pathBook := d.session.pathBook.retainParticipants participants
      outboundAnnounces := {}
      lastNatPunchAttempt := none } }

/-- The client of a reloaded configuration. -/
def reloadClient (connected : Bool) (d : Daemon) : Daemon :=
  if !makesClient env.sdk d.session.app then d
  else if !d.relaySessionActive then
    { d with relayConnected := false }.onSession fun session => { session with
      publicSignalEndpoint := none }
  else if !connected then { d with relayConnected := false }
  else
    let d := { d with relayConnected := true }
    let d := d.onSession fun session => session.publishActiveNetworkRoster env.sdk none
    if d.sessionActive then d.onSession (Session.greet (m 3)) else d

def reload (loaded : Option AppConfig) (connected : Bool) (mapped : Option String) (d : Daemon) :
    Daemon :=
  match loaded with
  | none => d
  | some app =>
    let d := (d.configure env app).reloadClient env m connected
    let (ok, session) := d.session.applyPresence (m 4) (m 4).now
    let d := { d with session }
    if ok && d.sessionActive then d.onSession (Session.refreshEndpoint (m 5) mapped) else d

/-- What was not heard of for long is dropped. -/
def housekeeping (d : Daemon) : Daemon :=
  if !d.sessionActive then d
  else
    let (dropped, session) := d.session.dropStale env (m 6).now
    if !dropped then { d with session }
    else { d with session := (session.forgetNatPunch.applyPresence (m 6) (m 6).now).2 }

/-- What follows the loop. -/
def shutdown (m : Moment) (d : Daemon) : Daemon :=
  let d := if d.relayConnected && d.sessionActive then
    d.onSession fun session => session.record [.disconnect] else d
  { d with stopped := true }.onSession fun session =>
    { session with tunnel := session.tunnel.stop m.tunnel }

def handleControl (d : Daemon) : DaemonControl → Daemon
  | .stop => d.shutdown (m 3)
  | .pause => d.pause m
  | .resume cache mapped => d.resume env m cache mapped
  | .reload loaded connected mapped => d.reload env m loaded connected mapped

/-- `restartDue`: the executable of a supervised daemon changed on disk. -/
def stateTick (control : Option DaemonControl) (restartDue : Bool) (d : Daemon) : Daemon :=
  let d := d.reconcileRelays m
  let d := (control.map (d.handleControl env m)).getD d
  if d.stopped then d
  else if restartDue then d.shutdown (m 6)
  else d.housekeeping env m

/-! ## Signals -/

/-- The client of the configuration that a roster made. -/
def rosterClient (connected : Bool) (d : Daemon) : Daemon :=
  if !makesClient env.sdk d.session.app then { d with relayConnected := false }
  else if !d.relaySessionActive then d
  else if !connected then { d with relayConnected := false }
  else
    let d := { d with relayConnected := true }
    let d := d.onSession fun session => ((session.applyPresence (m 0) (m 0).now).2
      |>.publishActiveNetworkRoster env.sdk none)
    if d.sessionActive then d.onSession Session.publishHello else d

/-- `persist_shared_network_roster`: the configuration it leaves, and whether it returns a network. -/
def persistSharedNetworkRoster (outcome : RosterOutcome) (app : AppConfig) (update : SharedRosterUpdate) :
    Bool × AppConfig :=
  match app.applyAdminSignedSharedRoster env.sdk env.sha256 outcome.clock update with
  | (.ok true, app) => (outcome.saved,
      app.maybeAutoconfigureNode env.sdk env.sha256 outcome.generated outcome.detected)
  | (_, app) => (false, app)

def receiveRoster (sender networkId : String) (roster : NetworkRoster) (outcome : RosterOutcome)
    (d : Daemon) : Daemon :=
  let update : SharedRosterUpdate :=
    { networkId
      networkName := roster.networkName
      participants := roster.participants
      admins := roster.admins
      aliases := roster.aliases
      signedAt := roster.signedAt
      signedBy := sender }
  match persistSharedNetworkRoster env outcome d.session.app update with
  | (true, app) => (d.configure env app).rosterClient env m outcome.connected
  | (false, app) => d.onSession fun session => { session with app }

/-- What the daemon does with a Hello, an announcement or a Disconnect. -/
def receiveSignal (sender : String) (payload : SignalPayload) (d : Daemon) : Daemon :=
  let d := if isHelloOrAnnounce payload then
    d.onSession fun session => session.publishActiveNetworkRoster env.sdk (some [sender]) else d
  if !d.sessionActive then d
  else
    let (changed, presence) := d.session.presence.applySignal sender payload (m 0).now
    let session := { d.session with presence }
    let session := match payload with
      | .Disconnect _ => session.forgetAnnounces [sender]
      | _ => session
    if !changed then
      { d with session := if isHelloOrAnnounce payload then session.answer (m 1) sender else session }
    else
      let (ok, session) := session.applyPresence (m 1) (m 1).now
      if !ok then { d with session }
      else
        let session := session.maybeRunNatPunch (m 2) (m 3) session.presence.active
        if !isHelloOrAnnounce payload then { d with session }
        else
          let book := maybeResetTargetedAnnounceCacheForHello session.outboundAnnounces sender payload
          { d with session := { session with outboundAnnounces := book }.answer (m 4) sender }

def message (message : Option SignalEnvelope) (outcome : RosterOutcome) (d : Daemon) : Daemon :=
  if !(d.relaySessionActive && d.relayConnected) then d
  else match message with
    | none => { d with relayConnected := false }
    | some envelope =>
      match envelope.payload with
      | .JoinRequest requestedAt request => d.onSession fun session => { session with
          app := (session.app.recordInboundJoinRequest env.sdk request.networkId envelope.senderPubkey
            request.requesterNodeName requestedAt).2 }
      | .Roster roster =>
        d.receiveRoster env m envelope.senderPubkey envelope.networkId roster outcome
      | payload => d.receiveSignal env m envelope.senderPubkey payload

def serviceMessage (payload : Option ServicePayload) (d : Daemon) : Daemon :=
  if !(d.relaySessionActive && d.relayConnected && d.relayServiceConnected) then d
  else match payload with
    | none => { d with relayServiceConnected := false }
    | some (.RelayAllocationGranted granted) =>
      let (action, relay) := acceptRelayAllocationGrant granted d.session.relay (m 0).now
      let session := { d.session with relay }
      match action with
      | .Activated participant =>
        let (ok, session) := (session.forgetAnnounces [participant]).applyPresence (m 1) (m 0).now
        { d with session := if ok then session.answer (m 2) participant else session }
      | .QueuedStandby _ | .Ignored => { d with session }
    | some (.RelayAllocationRejected rejected) =>
      let (participant, relay) := acceptRelayAllocationRejection rejected d.session.relay (m 0).now
      d.onSession fun session => { session with relay }.forgetAnnounces participant.toList
    | some _ => d

/-! ## The loop -/

/-- What precedes the loop; `endpoint` is the public endpoint of the state file. -/
def start (app : AppConfig) (tunnel : TunnelSystem) (endpoint : Option DiscoveredPublicSignalEndpoint)
    (cache : Option DaemonPeerCacheState) (mapped : Option String) : Daemon :=
  let d : Daemon :=
    { session := { app, ownPubkey := app.ownPubkey env.sdk, tunnel, publicSignalEndpoint := endpoint }
      networkId := app.effectiveNetworkId
      expectedPeers := expectedPeerCount env.sdk app }
  let d := if d.sessionActive then d.onSession (Session.refreshEndpoint (m 0) mapped) else d
  let (restored, d) := d.restorePeerCache env (m 0).now cache
  let (ok, session) := d.session.applyPresence (m 1) (m 1).now
  let d := { d with session }
  if !ok then { d with stopped := true }
  else if !restored then d
  else d.onSession fun session => session.maybeRunNatPunch (m 2) (m 3) session.presence.known

def step (d : Daemon) (s : DaemonStep) : Daemon :=
  if d.stopped then d
  else match s.event with
    | .terminate => d.shutdown (s.moments 0)
    | .reconnect due outcome => d.reconnect env s.moments due outcome
    | .announceTick outcome => d.announceTick s.moments outcome
    | .heartbeat => d.heartbeat s.moments
    | .network changed renewed mapped => d.network s.moments changed renewed mapped
    | .stateTick control restartDue => d.stateTick env s.moments control restartDue
    | .message message outcome => d.message env s.moments message outcome
    | .serviceMessage payload => d.serviceMessage s.moments payload

end Daemon

/-! ## A sample daemon -/

/-- The node has the secret key 1, and every other text is no secret key. -/
def sampleSessionEnv : SessionEnv where
  sdk := { sampleSdk with
    publicKeyOfSecret := fun text =>
      if text = "0000000000000000000000000000000000000000000000000000000000000001" then
        .ok (samplePubkeys.headD "")
      else .error "Invalid secret key" }
  sha256 := sampleSha256
  announceIntervalSecs := 20

/-- A network of the node with the participants, all of them admins. -/
def sampleDaemonConfig (participants : List String) : AppConfig where
  networks := [{ id := "network-1", name := "Home", networkId := "mesh-home", participants
                 admins := participants, listenForJoinRequests := false }]
  networks_ne := by simp
  nat := { enabled := false }
  nostr := { secretKey := "0000000000000000000000000000000000000000000000000000000000000001" }
  node := { id := "node-1", privateKey := ((sampleKeys.map Prod.fst)[2]?).getD "" }

/-- Everything succeeds. -/
def sampleMoment (now : Nat) : Moment where
  now := now
  tunnel := sampleEnv
  localSignalEndpoint _ _ := "192.168.1.5:51820"
  discovered := none
  punched _ := true
  punchElapsed := true
  published _ := true
  helloPublished := .ok ()

def sampleStep (now : Nat) (event : DaemonEvent) : DaemonStep := ⟨event, fun _ => sampleMoment now⟩

def sampleRosterOutcome : RosterOutcome where
  clock := 1000
  generated := { nostrIdentity := ("", ""), nodeId := "node-1", keyPair := ("", "") }
  detected := none
  saved := true
  connected := true

/-- A daemon that has just started and reached its relays. -/
def sampleDaemon (participants : List String) : Daemon :=
  let started := Daemon.start sampleSessionEnv (fun _ => sampleMoment 100) (sampleDaemonConfig participants)
    ⟨{ iface := "utun100" }, ⟨∅, []⟩⟩ none none none
  started.step sampleSessionEnv (sampleStep 100 (.reconnect true ⟨true, true⟩))

end NostrVpn.Cli
