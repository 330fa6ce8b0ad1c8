import NostrVpn.Cli.RelayGrants
import NostrVpn.Cli.TunnelRuntime
import NostrVpn.Core.ConfigOps
import NostrVpn.Core.Presence
import NostrVpn.Gui.SignalAudience

/-!
# The state of a session

The variables that `connect_session` and `daemon_session` share, and the functions of `main.rs` that both
loops call on them: the announcements to publish, the update of the tunnel and the hole punch. What is
published and what is planned is recorded. Texts that only end in a log or a status are left out.
-/
namespace NostrVpn.Cli

open Rust Rust.Net NostrVpn.Core

/-! ## What a run is given -/

structure SessionEnv where
  sdk : NostrSdk
  sha256 : Sha256
  announceIntervalSecs : Nat

def peerSignalTimeoutSecs (announceIntervalSecs : Nat) : Nat :=
  max (min (max announceIntervalSecs 5 * 3) u64Max) 20

def peerPathCacheTimeoutSecs (announceIntervalSecs : Nat) : Nat :=
  max (min (peerSignalTimeoutSecs announceIntervalSecs * 3) u64Max) 60

/-- `NostrSignalingClient::from_secret_key_with_networks` succeeds. -/
def makesClient (sdk : NostrSdk) (app : AppConfig) : Bool :=
  (NostrSignalingClient.fromSecretKeyWithNetworks sdk app.nostr.secretKey
    (signalingNetworksForApp app)).toOption.isSome

/-! ## Announcements sent -/

/-- The fingerprint of the last announcement that a participant was sent. -/
structure OutboundAnnounceBook where
  fingerprints : HashMap String String := ∅

namespace OutboundAnnounceBook

def needsSend (book : OutboundAnnounceBook) (participant fingerprint : String) : Bool :=
  book.fingerprints.lookup participant != some fingerprint

def markSent (book : OutboundAnnounceBook) (participant fingerprint : String) : OutboundAnnounceBook :=
  ⟨book.fingerprints.insert participant fingerprint⟩

def forget (book : OutboundAnnounceBook) (participant : String) : OutboundAnnounceBook :=
  ⟨book.fingerprints.erase participant⟩

def retainParticipants (book : OutboundAnnounceBook) (participants : List String) :
    OutboundAnnounceBook :=
  ⟨book.fingerprints.retain fun participant _ => participant ∈ participants⟩

@[simp] theorem needsSend_forget (book : OutboundAnnounceBook) (participant fingerprint : String) :
    (book.forget participant).needsSend participant fingerprint = true := by
  simp [needsSend, forget]

end OutboundAnnounceBook

structure DiscoveredPublicSignalEndpoint where
  listenPort : UInt16
  endpoint : String
  deriving DecidableEq, Repr

/-- What the clock, the machine and the network answer while a part of a step runs. -/
structure Moment where
  now : Nat
  tunnel : ApplyEnv
  /-- `local_signal_endpoint`. -/
  localSignalEndpoint : AppConfig → UInt16 → String
  /-- What the reflectors and STUN servers answer. -/
  discovered : Option String
  punched : SocketAddr → Bool
  /-- Ten seconds have passed since the last hole punch. -/
  punchElapsed : Bool
  /-- A private signal to the participant is published. -/
  published : String → Bool
  helloPublished : Except String Unit

/-! ## The own announcement -/

def publicEndpointForListenPort (endpoint : Option DiscoveredPublicSignalEndpoint)
    (actualListenPort : UInt16) : Option String :=
  (endpoint.filter fun endpoint => endpoint.listenPort == actualListenPort).map
    DiscoveredPublicSignalEndpoint.endpoint

def selectLocalSignalEndpointForPeer (a : PeerAnnouncement) (ownLocalEndpoints : List String) :
    Option String :=
  let peerLocalEndpoint := (a.localEndpoint.filter fun endpoint => !isBlank endpoint).or
    (if endpointIsLocalOnly a.endpoint then some a.endpoint else none)
  peerLocalEndpoint.bind fun peerLocal =>
    ownLocalEndpoints.find? fun own => endpointsShareLocalOnlyIpv4Subnet own peerLocal

def endpointCanAdvertisePublicOverride (endpoint localEndpoint : String) : Bool :=
  endpoint != localEndpoint &&
    (!endpointIsLocalOnly endpoint || !endpointsShareLocalOnlyIpv4Subnet endpoint localEndpoint)

def buildExplicitPeerAnnouncementWithRelay (node : NodeConfig) (endpoint localEndpoint : String)
    (advertisedRoutes : List String) (relay : Option ActiveRelaySession) (now : Nat) :
    PeerAnnouncement :=
  let isPublic := endpointCanAdvertisePublicOverride endpoint localEndpoint
  { nodeId := node.id
    publicKey := node.publicKey
    endpoint := if isPublic then endpoint else localEndpoint
    localEndpoint := some localEndpoint
    publicEndpoint := if isPublic then some endpoint else none
    relayEndpoint := relay.map ActiveRelaySession.advertisedIngressEndpoint
    relayPubkey := relay.map ActiveRelaySession.relayPubkey
    relayExpiresAt := relay.map ActiveRelaySession.expiresAt
    tunnelIp := node.tunnelIp
    advertisedRoutes
    timestamp := now }

def announcementFingerprint (a : PeerAnnouncement) : String :=
  join "|" [a.nodeId, a.publicKey, a.endpoint, a.localEndpoint.getD "", a.publicEndpoint.getD "",
    a.relayEndpoint.getD "", a.relayPubkey.getD "", fmtNat (a.relayExpiresAt.getD 0), a.tunnelIp,
    join "," a.advertisedRoutes]

/-- The loop over the recipients: a failed publish ends it. -/
def publishAnnouncements (announcementFor : String → PeerAnnouncement) (published : String → Bool) :
    List String → OutboundAnnounceBook →
      Bool × List (String × PeerAnnouncement) × OutboundAnnounceBook
  | [], book => (true, [], book)
  | participant :: rest, book =>
    let announcement := announcementFor participant
    let fingerprint := announcementFingerprint announcement
    if !book.needsSend participant fingerprint then
      publishAnnouncements announcementFor published rest book
    else if !published participant then (false, [], book)
    else
      let (ok, sent, book) := publishAnnouncements announcementFor published rest
        (book.markSent participant fingerprint)
      (ok, (participant, announcement) :: sent, book)

/-! ## Announcements of others -/

def effectivePeerAnnouncementForRuntime (a : PeerAnnouncement)
    (relaySession : Option ActiveRelaySession) (now : Nat) : PeerAnnouncement :=
  let a := a.withoutExpiredRelay now
  match relaySession.filter fun session => session.isActive now with
  | some session => a.withRelay (some session.localIngressEndpoint) (some session.relayPubkey)
      (some session.expiresAt)
  | none => a

def effectivePeerAnnouncementsForRuntime (announcements : Announcements) (sessions : RelaySessions)
    (now : Nat) : Announcements :=
  announcements.mapEntries fun participant a =>
    effectivePeerAnnouncementForRuntime a (sessions.lookup participant) now

def peerRuntimeLookup (codec : KeyCodec) (a : PeerAnnouncement) (runtimePeers : Option PeerStatuses) :
    Option WireGuardPeerStatus := do
  let hex ← (keyB64ToHex codec a.publicKey).toOption
  (← runtimePeers).lookup (toAsciiLowercase hex)

def peerOnlineGraceSecs : Nat := 180

def peerHasRecentHandshake (now : Nat) (status : WireGuardPeerStatus) : Bool :=
  (status.lastHandshakeAt now).any fun handshakeAt => now - handshakeAt ≤ peerOnlineGraceSecs

/-- The handshake that verifies the session. -/
def runtimePeerVerifiesRelaySession (codec : KeyCodec) (presence : PeerPresenceBook)
    (runtimePeers : Option PeerStatuses) (now : Nat) (participant : String)
    (session : ActiveRelaySession) : Option Nat := do
  let a ← presence.announcementFor participant
  let status ← peerRuntimeLookup codec a runtimePeers
  if status.endpoint ≠ some session.localIngressEndpoint then none
  else (status.lastHandshakeAt now).filter fun handshakeAt => session.grantedAt ≤ handshakeAt

/-! ## The public endpoint -/

def setPort (port : UInt16) : SocketAddr → SocketAddr
  | .v4 ip _ => .v4 ip port
  | .v6 ip _ scopeId => .v6 ip port scopeId

def endpointWithListenPort (endpoint : String) (listenPort : UInt16) : String :=
  ((SocketAddr.parse endpoint).map fun addr => (setPort listenPort addr).fmt).getD endpoint

def fallbackPublicSignalEndpoint (previous : Option DiscoveredPublicSignalEndpoint)
    (listenPort : UInt16) : Option DiscoveredPublicSignalEndpoint :=
  (previous.filter fun previous => previous.listenPort == listenPort).map fun previous =>
    ⟨listenPort, endpointWithListenPort previous.endpoint listenPort⟩

def refreshPublicSignalEndpoint (discovered : Option String) (app : AppConfig) (listenPort : UInt16)
    (previous : Option DiscoveredPublicSignalEndpoint) : Option DiscoveredPublicSignalEndpoint :=
  let found := if app.nat.enabled then discovered else none
  (found.map fun endpoint => ⟨listenPort, endpoint⟩).or (fallbackPublicSignalEndpoint previous listenPort)

/-- `sync_public_signal_endpoint_from_mapping_or_stun`; `mapped` is the endpoint of the port mapping. -/
def syncPublicSignalEndpoint (mapped discovered : Option String) (app : AppConfig)
    (listenPort : UInt16) (previous : Option DiscoveredPublicSignalEndpoint) :
    Option DiscoveredPublicSignalEndpoint :=
  if !app.nat.enabled then none
  else match mapped.filter fun endpoint => !endpointIsLocalOnly endpoint with
    | some endpoint => some ⟨listenPort, endpoint⟩
    | none => refreshPublicSignalEndpoint discovered app listenPort previous

/-! ## Hole punching -/

structure PunchContext where
  codec : KeyCodec
  app : AppConfig
  ownPubkey : Option String
  announcements : Announcements
  runtimePeers : Option PeerStatuses
  ownLocalEndpoints : List String
  now : Nat

namespace PunchContext

variable (ctx : PunchContext)

def hasRecentHandshake (a : PeerAnnouncement) : Bool :=
  (peerRuntimeLookup ctx.codec a ctx.runtimePeers).any (peerHasRecentHandshake ctx.now)

def meshHasRecentHandshakePeer : Bool :=
  (otherParticipants ctx.app ctx.ownPubkey).any fun participant =>
    (ctx.announcements.lookup participant).any ctx.hasRecentHandshake

def punchTarget (book : PeerPathBook) (participant : String) : Option SocketAddr := do
  let a ← ctx.announcements.lookup participant
  let effective := a.withoutExpiredRelay ctx.now
  let routes := ((advertisedRouteAssignments ctx.app ctx.ownPubkey ctx.announcements).lookup
    participant).getD []
  let endpoint := selectPlannedEndpoint book participant effective ctx.ownLocalEndpoints ctx.now
  if ctx.hasRecentHandshake a then none
  else if ctx.meshHasRecentHandshakePeer && routes.isEmpty then none
  else if peerEndpointRequiresPublicSignal ctx.app effective endpoint ctx.ownLocalEndpoints then none
  else if ctx.ownLocalEndpoints.any fun own => endpointsShareLocalOnlyIpv4Subnet endpoint own then none
  else SocketAddr.parse endpoint

/-- The order of `SocketAddr`: version, address, port, scope. -/
def addressOrder : SocketAddr → Nat ×ₗ Nat ×ₗ Nat ×ₗ Nat
  | .v4 ip port => toLex (4, toLex (ip.bits.toNat, toLex (port.toNat, 0)))
  | .v6 ip port scopeId => toLex (6, toLex (ip.bits.toNat, toLex (port.toNat, scopeId.toNat)))

def pendingNatPunchTargets (book : PeerPathBook) : List SocketAddr :=
  (sortByKey addressOrder
    ((otherParticipants ctx.app ctx.ownPubkey).filterMap (ctx.punchTarget book))).dedup

end PunchContext

def natPunchFingerprint (targets : List SocketAddr) (listenPort : UInt16) : Option String :=
  if targets = [] then none
  else some (fmtNat listenPort.toNat ++ "|" ++ join ";" (targets.map SocketAddr.fmt))

/-- What `prune_stale` of the path book returns. -/
def prunesStale (book : PeerPathBook) (now staleAfterSecs : Nat) : Bool :=
  staleAfterSecs != 0 && book.peers.values.any fun state =>
    let kept := state.retainPaths fun _ tracked => decide (now - staleAfterSecs < tracked.freshnessAt)
    kept.endpoints.keys.length != state.endpoints.keys.length ||
      kept.currentEndpoint != state.currentEndpoint || kept.endpoints.keys.isEmpty

def recentlySeenParticipants (presence : PeerPresenceBook) (now staleAfterSecs : Nat) : List String :=
  if staleAfterSecs = 0 then []
  else (presence.lastSeenAt.retain fun _ lastSeen => now - staleAfterSecs < lastSeen).keys

def publishErrorRequiresReconnect (message : String) : Bool :=
  ["client not connected", "relay pool shutdown", "relay not connected", "status changed",
    "recv message response timeout", "connection closed", "broken pipe"].any fun needle =>
      contains needle (toAsciiLowercase message)

/-! ## The shared variables -/

def isNetworkAdmin (sdk : NostrSdk) (app : AppConfig) (id pubkey : String) : Bool :=
  match normalizeNostrPubkey sdk pubkey with
  | .error _ => false
  | .ok normalized => (app.networkById id).any fun network => network.admins.contains normalized

/-- The recipients of `publish_active_network_roster`; only an admin publishes. -/
def rosterRecipients (sdk : NostrSdk) (app : AppConfig) (recipients : Option (List String)) :
    List String :=
  match app.ownPubkey sdk with
  | none => []
  | some own =>
    if !isNetworkAdmin sdk app app.activeNetwork.id own then []
    else
      let allowed := app.activeNetworkSignalPubkeysHex
      let recipients := (recipients.map fun recipients => recipients.filter (· ∈ allowed)).getD allowed
      sortDedup (recipients.filter (· ≠ own))

/-- What a session publishes and plans; a Hello, a roster and a Disconnect count when they are tried. -/

inductive SessionEffect where
  | planned (plan : Except String (List PlannedTunnelPeer))
  | announced (participant : String) (announcement : PeerAnnouncement)
  | hello
  | roster (recipients : List String)
  | disconnect

/-- The connect loop uses no field of `relay` but the active sessions. -/
structure Session where
  app : AppConfig
  ownPubkey : Option String
  presence : PeerPresenceBook := {}
  pathBook : PeerPathBook := ⟨∅⟩
  outboundAnnounces : OutboundAnnounceBook := {}
  relay : RelayClient := .empty
  tunnel : TunnelSystem
  publicSignalEndpoint : Option DiscoveredPublicSignalEndpoint := none
  lastNatPunchAttempt : Option String := none
  effects : List SessionEffect := []

namespace Session

variable (m : Moment) (session : Session)

def record (effects : List SessionEffect) (session : Session) : Session :=
  { session with effects := session.effects ++ effects }

def listenPort : UInt16 := session.tunnel.runtime.listenPort session.app.node.listenPort

/-- `tunnel_runtime.peer_status().ok()`. -/
def runtimePeers : Option PeerStatuses := ApplyCall.runtimePeers m.tunnel session.tunnel.runtime

def applyCall (announcements : Announcements) (now : Nat) : ApplyCall where
  app := session.app
  ownPubkey := session.ownPubkey
  announcements := announcements
  book := session.pathBook
  now := now

/-- `tunnel_runtime.apply` on the path book of the session, and whether it succeeds. -/
def applyTunnel (announcements : Announcements) (now : Nat) (session : Session) : Bool × Session :=
  let call := session.applyCall announcements now
  let outcome := call.apply m.tunnel session.tunnel
  (outcome.returned.result.isOk,
    { session with pathBook := outcome.book, tunnel := outcome.system }.record
      [.planned (call.plan m.tunnel session.tunnel.runtime).1])

/-- `apply_presence_runtime_update`. -/
def applyPresence (now : Nat) (session : Session) : Bool × Session :=
  session.applyTunnel m (effectivePeerAnnouncementsForRuntime session.presence.known
    session.relay.relaySessions now) now

/-- The announcement of `publish_private_announce_to_participants` for one recipient. -/
def announcementFor (announcements : Announcements) (participant : String) : PeerAnnouncement :=
  let endpoints := m.tunnel.localSignalEndpoints session.app session.listenPort
  let fallback := endpoints.head?.getD (m.localSignalEndpoint session.app session.listenPort)
  let localEndpoint := ((announcements.lookup participant).bind fun a =>
    selectLocalSignalEndpointForPeer a endpoints).getD fallback
  let endpoint := (publicEndpointForListenPort session.publicSignalEndpoint session.listenPort).getD
    localEndpoint
  let relay := (session.relay.relaySessions.lookup participant).filter fun relay => relay.isActive m.now
  buildExplicitPeerAnnouncementWithRelay session.app.node endpoint localEndpoint
    session.app.effectiveAdvertisedRoutes relay m.now

def publishPrivateAnnounceToParticipants (participants : List String) (announcements : Announcements)
    (session : Session) : Bool × Session :=
  let (ok, sent, book) := publishAnnouncements (session.announcementFor m announcements) m.published
    (sortDedup participants) session.outboundAnnounces
  (ok, { session with outboundAnnounces := book }.record
    (sent.map fun (participant, announcement) => .announced participant announcement))

def publishPrivateAnnounceToActivePeers (session : Session) : Session :=
  let participants := (otherParticipants session.app session.ownPubkey).filter fun participant =>
    (session.presence.active.lookup participant).isSome
  (session.publishPrivateAnnounceToParticipants m participants session.presence.active).2

def publishPrivateAnnounceToKnownPeers (session : Session) : Session :=
  let participants := (otherParticipants session.app session.ownPubkey).filter fun participant =>
    (session.presence.announcementFor participant).isSome
  (session.publishPrivateAnnounceToParticipants m participants session.presence.known).2

def publishHello (session : Session) : Session := session.record [.hello]

def publishActiveNetworkRoster (sdk : NostrSdk) (recipients : Option (List String))
    (session : Session) : Session :=
  let recipients := rosterRecipients sdk session.app recipients
  if recipients = [] then session else session.record [.roster recipients]

def natPunchTargets (announcements : Announcements) : List SocketAddr :=
  PunchContext.pendingNatPunchTargets
    { codec := m.tunnel.codec
      app := session.app
      ownPubkey := session.ownPubkey
      announcements
      runtimePeers := session.runtimePeers m
      ownLocalEndpoints := m.tunnel.localSignalEndpoints session.app session.listenPort
      now := m.now } session.pathBook

def forgetNatPunch (session : Session) : Session := { session with lastNatPunchAttempt := none }

/-- The public endpoint is discovered again unless the known one is of the listen port. -/
def refreshForPunch (session : Session) : Session :=
  match publicEndpointForListenPort session.publicSignalEndpoint session.listenPort with
  | some _ => session
  | none => { session with
      publicSignalEndpoint := refreshPublicSignalEndpoint m.discovered session.app session.listenPort
        session.publicSignalEndpoint }

/-- The tunnel is stopped for the punches and applied again on the same port, at the moment `m'`. -/
def punch (m' : Moment) (announcements : Announcements) (targets : List SocketAddr)
    (fingerprint : String) (session : Session) : Session :=
  let port := session.listenPort
  let stopped := session.tunnel.stop m.tunnel
  let session := { session with
    tunnel := stopped.setRuntime fun runtime => { runtime with activeListenPort := some port }
    publicSignalEndpoint :=
      refreshPublicSignalEndpoint m'.discovered session.app port session.publicSignalEndpoint }
  let (ok, session) := session.applyTunnel m' announcements m'.now
  if ok && targets.all m'.punched then { session with lastNatPunchAttempt := some fingerprint }
  else session

/-- `maybe_run_nat_punch`; its error is only logged. -/
def maybeRunNatPunch (m' : Moment) (announcements : Announcements) (session : Session) : Session :=
  if !session.app.nat.enabled then { session with publicSignalEndpoint := none }
  else
    let session := session.refreshForPunch m
    let targets := session.natPunchTargets m announcements
    match natPunchFingerprint targets session.listenPort with
    | none => session.forgetNatPunch
    | some fingerprint =>
      if session.lastNatPunchAttempt = some fingerprint ∧ !m.punchElapsed then session
      else session.punch m m' announcements targets fingerprint

def forgetAnnounces (participants : List String) (session : Session) : Session :=
  { session with
    outboundAnnounces := participants.foldl OutboundAnnounceBook.forget session.outboundAnnounces }

/-- The known peers and the network hear of the node again. -/
def greet (session : Session) : Session :=
  (session.publishPrivateAnnounceToKnownPeers m).publishHello

/-- The public endpoint after the tunnel was updated. -/
def refreshEndpoint (mapped : Option String) (session : Session) : Session :=
  { session with
    publicSignalEndpoint := syncPublicSignalEndpoint mapped m.discovered session.app session.listenPort
      session.publicSignalEndpoint }

/-- Peers, paths and sent announcements of which nothing was heard for long are dropped. -/
def dropStale (env : SessionEnv) (now : Nat) (session : Session) : Bool × Session :=
  let timeout := peerSignalTimeoutSecs env.announceIntervalSecs
  let pathTimeout := peerPathCacheTimeoutSecs env.announceIntervalSecs
  let (removed, presence) := session.presence.pruneStale now timeout
  let pruned := prunesStale session.pathBook now pathTimeout
  let session := { session with presence }.forgetAnnounces removed
  (!removed.isEmpty || pruned, { session with
    pathBook := session.pathBook.pruneStale now pathTimeout
    outboundAnnounces := session.outboundAnnounces.retainParticipants
      (recentlySeenParticipants presence now timeout) })

/-- The answer to a Hello or an announcement. -/
def answer (sender : String) (session : Session) : Session :=
  (session.publishPrivateAnnounceToParticipants m [sender] session.presence.known).2

end Session

/-- `maybe_reset_targeted_announce_cache_for_hello`. -/
def maybeResetTargetedAnnounceCacheForHello (book : OutboundAnnounceBook) (sender : String) :
    SignalPayload → OutboundAnnounceBook
  | .Hello => book.forget sender
  | _ => book

/-- A signal that is answered with an announcement. -/
def isHelloOrAnnounce : SignalPayload → Bool
  | .Hello | .Announce _ => true
  | _ => false

end NostrVpn.Cli
