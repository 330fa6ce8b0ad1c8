import NostrVpn.Cli.SessionState

/-!
# The connect session

The loop of `connect_session` in `session_runtime.rs`, which runs in the foreground on one configuration. An
error of a tunnel update ends it in some branches.
-/
namespace NostrVpn.Cli

open Rust Rust.Net NostrVpn.Core

inductive ConnectEvent where
  | terminate
  | reconnect (due connected : Bool)
  | heartbeat
  | network (changed renewed : Bool) (mapped : Option String)
  | announceTick
  | message (message : Option SignalEnvelope)

structure Connect where
  session : Session
  relayConnected : Bool := true
  stopped : Bool := false

namespace Connect

variable (env : SessionEnv) (m : Nat → Moment)

def onSession (f : Session → Session) (c : Connect) : Connect := { c with session := f c.session }

def directPeerAnnouncements (c : Connect) : Announcements :=
  if c.relayConnected then c.session.presence.active else c.session.presence.known

/-- `apply_presence_runtime_update(..)?`. -/
def applyOrStop (m : Moment) (now : Nat) (c : Connect) : Connect :=
  let (ok, session) := c.session.applyPresence m now
  { c with session, stopped := c.stopped || !ok }

def reconnect (due connected : Bool) (c : Connect) : Connect :=
  if c.relayConnected || !due then c
  else if !makesClient env.sdk c.session.app then { c with stopped := true }
  else if !connected then c
  else { c with
    relayConnected := (m 0).helloPublished.toOption.isSome
    session := ({ c.session with outboundAnnounces := {} }.publishActiveNetworkRoster env.sdk none).greet
      (m 0) }

def heartbeat (c : Connect) : Connect :=
  let announcements := c.directPeerAnnouncements
  let c := if c.relayConnected then c
    else c.onSession fun session => session.maybeRunNatPunch (m 0) (m 1) announcements
  c.onSession fun session => (session.applyPresence (m 2) (m 2).now).2

def network (changed renewed : Bool) (mapped : Option String) (c : Connect) : Connect :=
  if !changed && !renewed then c
  else
    let c := c.onSession (Session.refreshEndpoint (m 0) mapped)
    let c := if !changed then c
      else c.onSession fun session => (session.forgetNatPunch.applyPresence (m 1) (m 1).now).2
    let announcements := c.directPeerAnnouncements
    let c := c.onSession fun session => session.maybeRunNatPunch (m 2) (m 3) announcements
    if c.relayConnected then c.onSession (Session.greet (m 4)) else c

/-- Expired relay sessions, then stale peers; both update the tunnel. -/
def expire (c : Connect) : Connect :=
  let pruned := pruneActiveRelaySessions c.session.relay.relaySessions (m 0).now
  let expired := pruned.keys.length ≠ c.session.relay.relaySessions.keys.length
  let c := c.onSession fun session => { session with
    relay := { session.relay with relaySessions := pruned } }
  let c := if !expired then c
    else (c.onSession fun session => { session with outboundAnnounces := {} }.forgetNatPunch).applyOrStop
      (m 0) (m 0).now
  if c.stopped then c
  else
    let (dropped, session) := c.session.dropStale env (m 0).now
    let c := { c with session }
    if !dropped then c else (c.onSession Session.forgetNatPunch).applyOrStop (m 1) (m 0).now

def announceTick (c : Connect) : Connect :=
  let c := c.expire env m
  if c.stopped || !c.relayConnected then c
  else
    let c := c.onSession fun session => session.maybeRunNatPunch (m 2) (m 3) session.presence.active
    let c := c.onSession fun session => (session.publishPrivateAnnounceToActivePeers (m 4)).publishHello
    match (m 4).helloPublished with
    | .error error =>
      if publishErrorRequiresReconnect error then { c with relayConnected := false } else c
    | .ok () => c

/-- A Hello or an announcement is answered with the roster. -/
def answerWithRoster (sender : String) (payload : SignalPayload) (session : Session) : Session :=
  if isHelloOrAnnounce payload then session.publishActiveNetworkRoster env.sdk (some [sender])
  else session

def receiveSignal (sender : String) (payload : SignalPayload) (c : Connect) : Connect :=
  let (changed, presence) := c.session.presence.applySignal sender payload (m 0).now
  let session := { c.session with presence }
  let session := match payload with
    | .Disconnect _ => session.forgetAnnounces [sender]
    | _ => session
  if !changed then
    let session := answerWithRoster env sender payload session
    let session := { session with
      outboundAnnounces :=
        maybeResetTargetedAnnounceCacheForHello session.outboundAnnounces sender payload }
    { c with session := if isHelloOrAnnounce payload then session.answer (m 1) sender else session }
  else
    let c := { c with session }.applyOrStop (m 1) (m 1).now
    if c.stopped then c
    else c.onSession fun session =>
      let session := session.maybeRunNatPunch (m 2) (m 3) session.presence.active
      let session := answerWithRoster env sender payload session
      if isHelloOrAnnounce payload then session.answer (m 4) sender else session

def message (message : Option SignalEnvelope) (c : Connect) : Connect :=
  if !c.relayConnected then c
  else match message with
    | none => { c with relayConnected := false }
    | some envelope => c.receiveSignal env m envelope.senderPubkey envelope.payload

def step (c : Connect) (event : ConnectEvent) : Connect :=
  if c.stopped then c
  else match event with
    | .terminate =>
      let c := if c.relayConnected then c.onSession fun session => session.record [.disconnect] else c
      { c with stopped := true }.onSession fun session =>
        { session with tunnel := session.tunnel.stop (m 0).tunnel }
    | .reconnect due connected => c.reconnect env m due connected
    | .heartbeat => c.heartbeat m
    | .network changed renewed mapped => c.network m changed renewed mapped
    | .announceTick => c.announceTick env m
    | .message message => c.message env m message

end Connect

end NostrVpn.Cli
