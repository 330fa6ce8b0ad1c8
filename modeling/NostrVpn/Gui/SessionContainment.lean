import NostrVpn.Core.PathAddresses
import NostrVpn.Cli.TunnelPlanFacts
import NostrVpn.Gui.AndroidLifecycle
import NostrVpn.Gui.IosSession

/-!
# What ends a mobile session

Planning fails at an endpoint that is no socket address, a tunnel does not start with a key that does not
decode, and a send that fails ends the task that sends. If participants announce endpoints and keys that can
be read, and sends succeed, only a stop, the signaling client and the device end a session.
-/
namespace NostrVpn.Gui

open Rust Rust.Net NostrVpn.Core Transition
open NostrVpn.Cli (KeyCodec stripCidr otherParticipants assignedRoutes)

/-! ## Plans -/

/-- What a plan takes from an announcement can be read. -/
structure Readable (codec : KeyCodec) (a : PeerAnnouncement) : Prop where
  addressed : a.Addressed
  publicKey : (decodeKey codec a.publicKey).toOption.isSome

/-- The planned peer is the one of an announcement, at a socket address. -/
structure PlannedFrom (ctx : PlanContext) (planned : PlannedTunnelPeer) : Prop where
  endpoint : (SocketAddr.parse planned.endpoint).isSome
  announced : ∃ a, planned.participant ∈ otherParticipants ctx.app ctx.ownPubkey ∧
    ctx.announcements.lookup planned.participant = some a ∧ planned.peer.pubkeyB64 = a.publicKey ∧
    ∀ ip ∈ planned.peer.allowedIps,
      ip = stripCidr a.tunnelIp ++ "/32" ∨ ip ∈ Cli.normalizedPeerIpv4Routes a

/-- The announcements of a plan that can be read. -/
def ReadableFor (codec : KeyCodec) (ctx : PlanContext) : Prop :=
  ∀ participant ∈ otherParticipants ctx.app ctx.ownPubkey, ∀ a,
    ctx.announcements.lookup participant = some a → Readable codec a

section Plan
variable {codec : KeyCodec} {ctx : PlanContext} {book : PeerPathBook}
  (retryAfterSecs : Nat)

theorem selectPlannedEndpoint_addressed (addressed : book.Addressed) {a : PeerAnnouncement}
    (announced : a.Addressed) (participant : String) (ownLocalEndpoint : Option String) (now : Nat) :
    (SocketAddr.parse (selectPlannedEndpoint retryAfterSecs book participant a ownLocalEndpoint
      now)).isSome := by
  have fallback := announced.selectPeerEndpoint ownLocalEndpoint.toList
  unfold selectPlannedEndpoint PeerPathBook.selectEndpoint PeerPathBook.selectEndpointForLocalEndpoints
  rw [selectPeerEndpoint_eq]
  cases found : book.peers.lookup participant with
  | none => exact fallback
  | some state =>
    dsimp only
    split_ifs
    · exact fallback
    · cases selected : state.selectEndpoint ownLocalEndpoint.toList
          (selectPeerEndpointFromLocalEndpoints a ownLocalEndpoint.toList) now retryAfterSecs with
      | none => exact fallback
      | some endpoint => exact (addressed participant state found).selectEndpoint selected

theorem planParticipant_ok (readable : ReadableFor codec ctx) (addressed : book.Addressed)
    {participant : String} (other : participant ∈ otherParticipants ctx.app ctx.ownPubkey) :
    ∃ planned after, planParticipant retryAfterSecs ctx (Cli.advertisedRouteAssignments ctx.app
      ctx.ownPubkey ctx.announcements) book participant = (.ok planned, after) ∧ after.Addressed ∧
      ∀ peer ∈ planned, PlannedFrom ctx peer := by
  unfold planParticipant
  cases announced : ctx.announcements.lookup participant with
  | none => exact ⟨none, book, rfl, addressed, by simp⟩
  | some a =>
    have known := readable participant other a announced
    have refreshed := addressed.refreshFromAnnouncement known.addressed participant ctx.now
    have address := selectPlannedEndpoint_addressed retryAfterSecs refreshed
      known.addressed participant ctx.ownLocalEndpoint ctx.now
    obtain ⟨endpoint, parsed⟩ := Option.isSome_iff_exists.mp address
    simp only [parsed]
    refine ⟨_, _, rfl, refreshed, fun peer mem => ?_⟩
    obtain rfl := Option.some.inj mem
    refine ⟨address, a, other, announced, rfl, fun ip mem => ?_⟩
    rcases mem_foldl_pushUnique.mp mem with own | routed
    · exact Or.inl (List.mem_singleton.mp own)
    · have owner := (Cli.mem_assignedRoutes ctx.app ctx.ownPubkey ctx.announcements).mp routed
      obtain ⟨a', announced', route⟩ :=
        Cli.exists_announcement_of_claimed (Cli.mem_claimedRoutes_of_owner owner)
      obtain rfl := Option.some.inj (announced'.symm.trans announced)
      exact Or.inr route

theorem planParticipants_ok (readable : ReadableFor codec ctx) {participants : List String}
    (others : ∀ participant ∈ participants, participant ∈ otherParticipants ctx.app ctx.ownPubkey)
    (addressed : book.Addressed) :
    ∃ planned after, planParticipants retryAfterSecs ctx (Cli.advertisedRouteAssignments ctx.app
      ctx.ownPubkey ctx.announcements) book participants = (.ok planned, after) ∧ after.Addressed ∧
      ∀ peer ∈ planned, PlannedFrom ctx peer := by
  induction participants generalizing book with
  | nil => exact ⟨[], book, rfl, addressed, by simp⟩
  | cons participant rest ih =>
    obtain ⟨first, mid, round, addressed', from'⟩ := planParticipant_ok retryAfterSecs readable addressed (others participant (by simp))
    obtain ⟨planned, after, loop, addressed'', from''⟩ := ih (fun p mem => others p (by simp [mem])) addressed'
    simp only [planParticipants, round, loop]
    refine ⟨_, after, rfl, addressed'', fun peer mem => ?_⟩
    rcases List.mem_append.mp mem with here | later
    · exact from' peer (Option.mem_toList.mp here)
    · exact from'' peer later

/-- Announcements that can be read are planned, at socket addresses. -/
theorem plannedTunnelPeers_ok (readable : ReadableFor codec ctx) (addressed : book.Addressed) :
    ∃ planned after, plannedTunnelPeers retryAfterSecs ctx book = (.ok planned, after) ∧
      after.Addressed ∧ ∀ peer ∈ planned, PlannedFrom ctx peer := by
  obtain ⟨planned, after, loop, addressed', from'⟩ := planParticipants_ok retryAfterSecs readable
    (fun _ mem => mem) (addressed.retainParticipants (otherParticipants ctx.app ctx.ownPubkey))
  simp only [plannedTunnelPeers, loop]
  exact ⟨_, after, rfl, addressed', fun peer mem => from' peer (mem_sortByKey.mp mem)⟩

theorem addressed_noteSelectedPeers (addressed : book.Addressed) {planned : List PlannedTunnelPeer}
    (from' : ∀ peer ∈ planned, PlannedFrom ctx peer) (now : Nat) :
    (noteSelectedPeers planned book now).Addressed := by
  unfold noteSelectedPeers
  induction planned generalizing book with
  | nil => exact addressed
  | cons peer rest ih =>
    refine ih ?_ fun other mem => from' other (by simp [mem])
    exact addressed.noteSelected (from' peer (by simp)).endpoint peer.participant now

theorem addressed_noteSuccessfulRuntimePaths (addressed : book.Addressed)
    (statuses : List PeerRuntimeStatus) (now : Nat) :
    (noteSuccessfulRuntimePaths statuses book now).Addressed := by
  unfold noteSuccessfulRuntimePaths
  induction statuses generalizing book with
  | nil => exact addressed
  | cons status rest ih =>
    refine ih ?_
    dsimp only
    split
    · exact addressed
    · split_ifs
      · exact addressed
      · exact addressed.noteSuccess (by rw [SocketAddr.parse_fmt]; rfl) _ _

/-- The keys of a plan let a runtime be made. -/
theorem runtime_of_plan {Tunn : Type} (boringtun : Boringtun Tunn) (readable : ReadableFor codec ctx)
    {planned : List PlannedTunnelPeer} (from' : ∀ peer ∈ planned, PlannedFrom ctx peer)
    {privateKey : String} (own : (decodeKey codec privateKey).toOption.isSome) :
    ∃ runtime, MobileWireGuardRuntime.new boringtun codec privateKey (wireGuardPeerConfigs planned) =
      .ok runtime := by
  have decoded {encoded : String} (some' : (decodeKey codec encoded).toOption.isSome) :
      ∃ key, decodeKey codec encoded = .ok key := by
    cases read : decodeKey codec encoded with
    | error e => simp [read] at some'
    | ok key => exact ⟨key, rfl⟩
  refine MobileWireGuardRuntime.new_ok (decoded own) fun peer mem => ?_
  obtain ⟨planned, listed, rfl⟩ := List.mem_map.mp mem
  obtain ⟨a, other, announced, key, -⟩ := (from' planned listed).announced
  rw [key]
  exact decoded (readable planned.participant other a announced).publicKey

end Plan

theorem known_applySignal {book : PeerPresenceBook} {sender p : String} {payload : SignalPayload}
    {seenAt : Nat} {a : PeerAnnouncement}
    (found : (book.applySignal sender payload seenAt).2.known.lookup p = some a) :
    payload = .Announce a ∧ p = sender ∨ book.known.lookup p = some a := by
  unfold PeerPresenceBook.applySignal at found
  cases payload with
  | Announce announcement =>
    simp only [PeerPresenceBook.known_applyAnnounce] at found
    split_ifs at found with fresh
    · obtain rfl := Option.some.inj found
      exact Or.inl ⟨rfl, fresh.1⟩
    · exact Or.inr found
  | Disconnect nodeId =>
    by_cases same : p = sender
    · subst same
      simp at found
    · exact Or.inr (by simpa [AList.lookup_erase_ne same] using found)
  | Hello | Roster roster | JoinRequest requestedAt request => exact Or.inr found

/-! ## Conditions and ends -/

section Android
variable {Tunn : Type} {env : MobileEnv Tunn}

/-- The VPN service takes the address and the routes of an announcement that can be read. -/
structure Usable (env : MobileEnv Tunn) (a : PeerAnnouncement) : Prop extends Readable env.codec a where
  tunnelIp : env.vpnAccepts (stripCidr a.tunnelIp ++ "/32")
  routes : ∀ route ∈ Cli.normalizedPeerIpv4Routes a, env.vpnAccepts route

/-- The node's own key and address can be used. -/
structure ConfigUsable (env : MobileEnv Tunn) (config : AppConfig) : Prop where
  privateKey : (decodeKey env.codec config.node.privateKey).toOption.isSome
  address : env.vpnAccepts (localInterfaceAddressForTunnel config.node.tunnelIp)

def TunnelEvent.SendsSucceed : TunnelEvent → Prop
  | .initiate sent | .tunPacket _ sent | .datagram _ _ _ sent | .timer _ sent => ∀ n, sent n = true
  | .tunReadFailed | .udpRecvFailed => True

/-- A stop or the device ends the task, not a peer. -/
def TunnelEnd.Blameless : TunnelEnd → Prop
  | .stopRequested | .tunRead | .tunWrite | .udpRecv => True
  | .send _ | .wireguard _ => False

def SessionEnd.Blameless : SessionEnd → Prop
  | .stopRequested | .connectFailed | .signalingClosed => True
  | .tunnelStart error => error ∈ [.socket, .vpnFailed, .tunFd, .tunIo, .udp]
  | .planning _ => False

def IosEnd.Blameless : IosEnd → Prop
  | .stopRequested | .packetsClosed | .signalingClosed | .udpRecv => True
  | .planning _ | .wireguard _ | .runtime _ | .send _ => False

namespace AndroidState

/-- Only a stop, the signaling client or the device has ended a session task or a tunnel task. -/
structure EndsBlameless (state : AndroidState Tunn) : Prop where
  ends : ∀ reason ∈ state.ends, reason.Blameless
  tunnels : ∀ task ∈ state.tunnels, ∀ reason, task.ended = some reason → reason.Blameless

/-- Participants announce what can be used, and every send succeeds. -/
def Harmless (env : MobileEnv Tunn) (state : AndroidState Tunn) : Event → Prop
  | .start config | .reload config => ConfigUsable env config
  | .received sender payload _ _ _ => state.session.WhenRunning fun session =>
      ∀ a, payload = .Announce a →
        sender ∈ otherParticipants session.config (session.config.ownPubkey env.sdk) → Usable env a
  | .tunnel _ event => event.SendsSucceed
  | .stop | .proceed _ | .connect _ | .stopChanged | .closed | .statusTick _ => True

/-! ## Android -/

/-- What a session keeps while its participants announce what can be used. -/
structure Fed (env : MobileEnv Tunn) (session : AndroidSession) : Prop where
  config : ConfigUsable env session.config
  announced : ∀ p ∈ otherParticipants session.config (session.config.ownPubkey env.sdk), ∀ a,
    session.presence.known.lookup p = some a → Usable env a
  book : session.pathBook.Addressed

structure Healthy (env : MobileEnv Tunn) (state : AndroidState Tunn) : Prop where
  running : ∀ session, state.session = .running session → Fed env session
  connecting : ∀ config, state.session = .connecting config → ConfigUsable env config
  next : ∀ config, state.manager = .stopping (some config) → ConfigUsable env config
  ends : ∀ reason ∈ state.ends, reason.Blameless
  tunnels : ∀ task ∈ state.tunnels, ∀ reason, task.ended = some reason → reason.Blameless

theorem Healthy.blameless {state : AndroidState Tunn} (healthy : Healthy env state) : state.EndsBlameless :=
  ⟨healthy.ends, healthy.tunnels⟩

variable {state : AndroidState Tunn} {session : AndroidSession}

theorem Fed.applySignal (fed : Fed env session) {sender : String} {payload : SignalPayload} {now : Nat}
    (usable : ∀ a, payload = .Announce a →
      sender ∈ otherParticipants session.config (session.config.ownPubkey env.sdk) → Usable env a) :
    Fed env (applySignal session sender payload now) := by
  refine ⟨fed.config, fun p other a found => ?_, fed.book⟩
  rcases known_applySignal found with ⟨announced, rfl⟩ | old
  · exact usable a announced other
  · exact fed.announced p other a old

/-- A tunnel that does not start fails by the device. -/
theorem startTunnelTask_spec {planned : List PlannedTunnelPeer} {config : AppConfig}
    {outcome : StartOutcome} (address : env.vpnAccepts (localInterfaceAddressForTunnel config.node.tunnelIp))
    (routes : ∀ route ∈ routeTargetsForTunnelPeers planned, env.vpnAccepts route)
    (keys : ∃ runtime, MobileWireGuardRuntime.new env.boringtun env.codec config.node.privateKey
      (wireGuardPeerConfigs planned) = .ok runtime) :
    (∀ e, (state.startTunnelTask env planned config outcome).1 = .error e →
      SessionEnd.Blameless (.tunnelStart e)) ∧
    (state.EndsBlameless → (state.startTunnelTask env planned config outcome).2.EndsBlameless) ∧
    (state.startTunnelTask env planned config outcome).2.manager = state.manager := by
  obtain ⟨runtime, made⟩ := keys
  have accepted : (localInterfaceAddressForTunnel config.node.tunnelIp ::
      routeTargetsForTunnelPeers planned).all env.vpnAccepts = true := by
    simpa [address] using routes
  unfold startTunnelTask
  cases outcome.listenPort with
  | none => exact ⟨by simp [SessionEnd.Blameless], fun blameless => blameless, rfl⟩
  | some listenPort =>
    simp only [accepted, Bool.not_true, Bool.false_eq_true, if_false, made]
    cases outcome.tunFd with
    | none => exact ⟨by simp [SessionEnd.Blameless], fun blameless => ⟨blameless.1, blameless.2⟩, rfl⟩
    | some tunFd =>
      dsimp only
      split_ifs
      · exact ⟨by simp [SessionEnd.Blameless], fun blameless => ⟨blameless.1, blameless.2⟩, rfl⟩
      · exact ⟨by simp [SessionEnd.Blameless], fun blameless => ⟨blameless.1, blameless.2⟩, rfl⟩
      · exact ⟨by simp [SessionEnd.Blameless], fun blameless => ⟨blameless.1, blameless.2⟩, rfl⟩
      · refine ⟨by simp, fun blameless => ⟨blameless.1, fun task mem reason ended => ?_⟩, rfl⟩
        rcases List.mem_append.mp mem with old | new
        · exact blameless.2 task old reason ended
        · obtain rfl := List.mem_singleton.mp new
          cases ended

theorem EndsBlameless.stop (blameless : state.EndsBlameless) (tunnel : Option ActiveTunnelTask) :
    (state.stopTunnelOrVpn tunnel).EndsBlameless := by
  cases tunnel with
  | none => exact ⟨blameless.ends, blameless.tunnels⟩
  | some tunnel =>
    refine ⟨blameless.ends, fun task mem reason ended => ?_⟩
    rcases mem_of_mem_modify mem with old | ⟨before, old, rfl⟩
    · exact blameless.tunnels task old reason ended
    · cases ran : before.ended with
      | none =>
        obtain rfl : .stopRequested = reason := by simpa [TunnelTask.stop, ran] using ended
        trivial
      | some reason' =>
        obtain rfl : reason' = reason := by simpa [TunnelTask.stop, ran] using ended
        exact blameless.tunnels before old _ ran

theorem EndsBlameless.endSession (blameless : state.EndsBlameless) {reason : SessionEnd}
    (fair : reason.Blameless) : (state.endSession reason).EndsBlameless := by
  refine ⟨fun other mem => ?_, blameless.tunnels⟩
  rcases List.mem_append.mp mem with old | new
  · exact blameless.ends other old
  · obtain rfl := List.mem_singleton.mp new
    exact fair

/-- A step of the manager or of a session that ends. -/
theorem Healthy.ended (healthy : Healthy env state) {state' : AndroidState Tunn}
    (blameless : state'.EndsBlameless) (reason : SessionEnd) (fair : reason.Blameless)
    (manager : state'.manager = state.manager) : Healthy env (state'.endSession reason) where
  running := fun _ running => by cases running
  connecting := fun _ connecting => by cases connecting
  next := fun config next => healthy.next config (manager ▸ next)
  ends := (blameless.endSession fair).ends
  tunnels := blameless.tunnels

theorem Healthy.received (healthy : Healthy env state) (running : state.session = .running session)
    {sender : String} {payload : SignalPayload} {detected : Option Ipv4Addr} {now : Nat}
    {outcome : StartOutcome} (harmless : Harmless env state (.received sender payload detected now outcome)) :
    Healthy env (state.receive env sender payload detected now outcome session) := by
  have fed : Fed env (AndroidState.applySignal session sender payload now) := by
    refine (healthy.running session running).applySignal ?_
    simpa [Harmless, running, SessionTask.WhenRunning] using harmless
  unfold receive reconcileTunnel
  generalize AndroidState.applySignal session sender payload now = session' at fed
  have readable : ReadableFor env.codec (planContext env session' detected now) :=
    fun p other a announced => (fed.announced p other a announced).toReadable
  obtain ⟨planned, book, plan, addressed, from'⟩ :=
    plannedTunnelPeers_ok androidSignalStaleAfterSecs readable fed.book
  rw [androidPlannedTunnelPeers, plan]
  have fed' : ∀ session'' : AndroidSession, session''.config = session'.config →
      session''.presence = session'.presence → session''.pathBook = noteSelectedPeers planned book now →
      Fed env session'' := by
    intro session'' config presence pathBook
    refine ⟨config ▸ fed.config, ?_, pathBook ▸ addressed_noteSelectedPeers addressed from' now⟩
    rw [config, presence]
    exact fed.announced
  have routes : ∀ route ∈ routeTargetsForTunnelPeers planned, env.vpnAccepts route := by
    intro route mem
    obtain ⟨peer, listed, target⟩ := List.mem_flatMap.mp (mem_sortDedup.mp mem)
    obtain ⟨a, other, announced, -, shape⟩ := (from' peer listed).announced
    have usable := fed.announced peer.participant other a announced
    rcases shape route target with rfl | route'
    · exact usable.tunnelIp
    · exact usable.routes route route'
  have keys := runtime_of_plan env.boringtun readable from' fed.config.privateKey
  have keep : ∀ (session'' : AndroidSession) (state' : AndroidState Tunn), Fed env session'' →
      state'.EndsBlameless → state'.manager = state.manager →
      Healthy env { state' with session := .running session'' } := by
    intro session'' state' fed'' blameless manager
    refine ⟨fun other eq => ?_, fun _ eq => (by cases eq), fun config next => ?_, blameless.ends,
      blameless.tunnels⟩
    · obtain rfl := SessionTask.running.inj eq
      exact fed''
    · exact healthy.next config (manager ▸ next)
  dsimp only
  split_ifs with empty same
  · exact keep _ _ (fed' _ rfl rfl rfl) (healthy.blameless.stop _) (by cases session'.currentTunnel <;> rfl)
  · exact keep _ _ (fed' _ rfl rfl rfl) healthy.blameless rfl
  · have before : ((session'.currentTunnel.map state.stopTunnelTask).getD state).EndsBlameless ∧
        ((session'.currentTunnel.map state.stopTunnelTask).getD state).manager = state.manager := by
      cases session'.currentTunnel with
      | none => exact ⟨healthy.blameless, rfl⟩
      | some tunnel => exact ⟨healthy.blameless.stop (some tunnel), rfl⟩
    generalize (session'.currentTunnel.map state.stopTunnelTask).getD state = stopped at before ⊢
    obtain ⟨fair, blameless, manager⟩ :=
      @startTunnelTask_spec _ env stopped planned session'.config outcome fed.config.address routes keys
    generalize stopped.startTunnelTask env planned session'.config outcome = result at fair blameless manager ⊢
    obtain ⟨started, after⟩ := result
    cases started with
    | error e => exact healthy.ended (blameless before.1) _ (fair e rfl) (manager.trans before.2)
    | ok tunnel => exact keep _ _ (fed' _ rfl rfl rfl) (blameless before.1) (manager.trans before.2)

/-! ### Tunnel tasks -/

theorem sendOutgoingDatagrams_none {sent : Nat → Bool} (succeed : ∀ n, sent n = true)
    (datagrams : List OutgoingDatagram) : sendOutgoingDatagrams sent datagrams = none := by
  simp [sendOutgoingDatagrams, succeed]

theorem blameless_finish {task : TunnelTask Tunn} (running : task.ended = none)
    {runtime : MobileWireGuardRuntime Tunn} {processed : DatagramProcessingResult} {written : Bool}
    {sent : Nat → Bool} (succeed : ∀ n, sent n = true) :
    ∀ reason, (task.finish env.boringtun runtime processed written sent).ended = some reason →
      reason.Blameless := by
  intro reason ended
  unfold TunnelTask.finish at ended
  rw [sendOutgoingDatagrams_none succeed] at ended
  split_ifs at ended
  · obtain rfl := Option.some.inj ended
    trivial
  · simp [running] at ended

/-- Only a task whose end is the device's ends at an event without a failing send. -/
theorem blameless_step {task : TunnelTask Tunn}
    (before : ∀ reason, task.ended = some reason → reason.Blameless) {event : TunnelEvent}
    (succeed : event.SendsSucceed) :
    ∀ reason, (task.step env.boringtun event).ended = some reason → reason.Blameless := by
  unfold TunnelTask.step
  by_cases stopped : task.ended.isSome
  · simpa [stopped] using before
  · have running : task.ended = none := by simpa using stopped
    simp only [stopped, Bool.false_eq_true, if_false]
    split
    · refine blameless_finish ?_ succeed
      exact running
    · next packet sent _ =>
      obtain ⟨outgoing, ok⟩ := @MobileWireGuardRuntime.queueTunnelPacket_ok _ env.boringtun task.runtime packet
      generalize task.runtime.queueTunnelPacket env.boringtun packet = result at ok
      obtain ⟨result, runtime⟩ := result
      obtain rfl : result = .ok outgoing := ok
      exact blameless_finish running succeed
    · intro reason ended
      obtain rfl := Option.some.inj ended
      trivial
    · next source datagram written sent _ =>
      obtain ⟨processed, ok⟩ :=
        @MobileWireGuardRuntime.receiveDatagram_ok _ env.boringtun task.runtime source datagram
      generalize task.runtime.receiveDatagram env.boringtun source datagram = result at ok
      obtain ⟨result, runtime⟩ := result
      obtain rfl : result = .ok processed := ok
      exact blameless_finish running succeed
    · intro reason ended
      obtain rfl := Option.some.inj ended
      trivial
    · exact blameless_finish running succeed
    · exact before

theorem Healthy.step (healthy : Healthy env state) {event : Event} (harmless : Harmless env state event) :
    Healthy env (state.step env event) := by
  cases event with
  | start config | reload config =>
    simp only [AndroidState.step, call]
    split
    · refine ⟨healthy.running, healthy.connecting, fun config' next => ?_, healthy.ends, healthy.tunnels⟩
      obtain rfl := Option.some.inj (ManagerState.stopping.inj next)
      exact harmless
    · exact healthy
  | stop =>
    simp only [AndroidState.step, call]
    split
    · exact ⟨healthy.running, healthy.connecting, fun _ next => (by cases next), healthy.ends,
        healthy.tunnels⟩
    · exact healthy
  | proceed prepared =>
    simp only [AndroidState.step, proceed]
    split
    · next config manager task =>
      split_ifs
      · refine ⟨fun _ running => (by cases running), fun config' connecting => ?_,
          fun _ next => (by cases next), healthy.ends,
        healthy.tunnels⟩
        obtain rfl := SessionTask.connecting.inj connecting
        exact healthy.next config manager
      · exact ⟨healthy.running, healthy.connecting, fun _ next => (by cases next), healthy.ends,
        healthy.tunnels⟩
    · exact ⟨healthy.running, healthy.connecting, fun _ next => (by cases next), healthy.ends,
        healthy.tunnels⟩
    · exact healthy
  | connect connected =>
    simp only [AndroidState.step]
    cases task : state.session with
    | connecting config =>
      dsimp only
      split_ifs
      · refine ⟨fun session running => ?_, fun _ connecting => (by cases connecting), healthy.next,
          healthy.ends, healthy.tunnels⟩
        obtain rfl := SessionTask.running.inj running
        exact ⟨healthy.connecting config task, fun p other a found => by simp at found,
          PeerPathBook.addressed_empty⟩
      · exact healthy.ended healthy.blameless .connectFailed trivial rfl
    | none | running session => exact healthy
  | stopChanged =>
    simp only [AndroidState.step]
    cases task : state.session with
    | running session =>
      dsimp only
      split_ifs
      · exact healthy.ended (healthy.blameless.stop _) .stopRequested trivial
          (by cases session.currentTunnel <;> rfl)
      · exact healthy
    | none | connecting config => exact healthy
  | received sender payload detected now outcome =>
    simp only [AndroidState.step]
    cases task : state.session with
    | running session => exact healthy.received task harmless
    | none | connecting config => exact healthy
  | closed =>
    simp only [AndroidState.step]
    cases task : state.session with
    | running session => exact healthy.ended healthy.blameless .signalingClosed trivial rfl
    | none | connecting config => exact healthy
  | statusTick now =>
    simp only [AndroidState.step]
    cases task : state.session with
    | running session =>
      have fed := healthy.running session task
      refine ⟨fun session' running => ?_, fun _ connecting => (by cases connecting), healthy.next,
        healthy.ends, healthy.tunnels⟩
      obtain rfl := SessionTask.running.inj running
      refine ⟨fed.config, ?_, addressed_noteSuccessfulRuntimePaths fed.book _ now⟩
      simpa using fed.announced
    | none | connecting config => exact healthy
  | tunnel index event =>
    refine ⟨healthy.running, healthy.connecting, healthy.next, healthy.ends, fun task mem => ?_⟩
    rcases mem_of_mem_modify mem with old | ⟨before, old, rfl⟩
    · exact healthy.tunnels task old
    · exact blameless_step (healthy.tunnels before old) harmless

theorem endsBlameless_of_harmless (env : MobileEnv Tunn) (events : List Event)
    (harmless : Along (step env) (Harmless env) ({} : AndroidState Tunn) events) :
    (run (step env) ({} : AndroidState Tunn) events).EndsBlameless := by
  have start : Healthy env ({} : AndroidState Tunn) :=
    ⟨fun _ running => (by cases running), fun _ connecting => (by cases connecting),
      fun _ next => (by cases next), by simp, by simp⟩
  exact (@invariant _ _ (step env) (Healthy env) (Harmless env)
    (fun _ _ healthy harmless => healthy.step harmless) _ _ start harmless).blameless

end AndroidState

/-! ## iOS -/

namespace IosSession

def EndBlameless (session : IosSession Tunn) : Prop := ∀ reason, session.ended = some reason → reason.Blameless

/-- Participants announce what can be read, and every send succeeds. -/
def Harmless (env : MobileEnv Tunn) (session : IosSession Tunn) : Event → Prop
  | .received sender payload _ _ sent => (∀ n, sent n = true) ∧ ∀ a, payload = .Announce a →
      sender ∈ otherParticipants session.config (session.config.ownPubkey env.sdk) → Readable env.codec a
  | .packet _ sent | .datagram _ _ sent | .timer sent => ∀ n, sent n = true
  | .stopChanged | .packetsClosed | .closed | .udpRecvFailed | .statusTick _ => True

structure Fed (env : MobileEnv Tunn) (session : IosSession Tunn) : Prop where
  privateKey : (decodeKey env.codec session.config.node.privateKey).toOption.isSome
  announced : ∀ p ∈ otherParticipants session.config (session.config.ownPubkey env.sdk), ∀ a,
    session.presence.known.lookup p = some a → Readable env.codec a
  book : session.pathBook.Addressed
  blameless : ∀ reason, session.ended = some reason → reason.Blameless

variable {session : IosSession Tunn}

theorem send_eq {sent : Nat → Bool} (succeed : ∀ n, sent n = true) (datagrams : List OutgoingDatagram) :
    session.send sent datagrams = session := by
  unfold send
  rw [AndroidState.sendOutgoingDatagrams_none succeed]

theorem Fed.endWith (fed : Fed env session) {reason : IosEnd} (fair : reason.Blameless) :
    Fed env (session.endWith reason) := by
  refine ⟨fed.privateKey, fed.announced, fed.book, fun other ended => ?_⟩
  obtain rfl := Option.some.inj ended
  exact fair

/-- A call of the runtime that does not fail changes only the runtime. -/
theorem Fed.withRuntime (fed : Fed env session) {call : MobileWireGuardRuntime Tunn →
      Except String (List OutgoingDatagram) × MobileWireGuardRuntime Tunn}
    (ok : ∀ runtime, ∃ outgoing, (call runtime).1 = .ok outgoing) {sent : Nat → Bool}
    (succeed : ∀ n, sent n = true) : Fed env (session.withRuntime call sent) := by
  unfold IosSession.withRuntime
  cases session.currentRuntime with
  | none => exact fed
  | some runtime =>
    obtain ⟨outgoing, made⟩ := ok runtime
    dsimp only
    generalize call runtime = result at made ⊢
    obtain ⟨result, after⟩ := result
    subst made
    dsimp only
    rw [send_eq succeed]
    exact ⟨fed.privateKey, fed.announced, fed.book, fed.blameless⟩

theorem Fed.reconcileRuntime (fed : Fed env session) (detected : Option Ipv4Addr) (now : Nat)
    {sent : Nat → Bool} (succeed : ∀ n, sent n = true) :
    Fed env (session.reconcileRuntime env detected now sent) := by
  have readable : ReadableFor env.codec (session.planContext env detected now) := fed.announced
  obtain ⟨planned, book, plan, addressed, from'⟩ :=
    plannedTunnelPeers_ok iosSignalStaleAfterSecs readable fed.book
  obtain ⟨runtime, made⟩ := runtime_of_plan env.boringtun readable from' fed.privateKey
  have book' := addressed_noteSelectedPeers addressed from' now
  unfold IosSession.reconcileRuntime
  rw [iosPlannedTunnelPeers, plan]
  dsimp only
  rw [made]
  dsimp only
  rw [send_eq succeed]
  split_ifs <;> exact ⟨fed.privateKey, fed.announced, book', fed.blameless⟩

theorem Fed.step (fed : Fed env session) {event : Event} (harmless : Harmless env session event) :
    Fed env (session.step env event) := by
  unfold IosSession.step
  split_ifs
  · exact fed
  cases event with
  | stopChanged | packetsClosed | closed | udpRecvFailed => exact fed.endWith trivial
  | packet packet sent =>
    exact fed.withRuntime (fun runtime => MobileWireGuardRuntime.queueTunnelPacket_ok packet) harmless
  | received sender payload detected now sent =>
    obtain ⟨succeed, readable⟩ := harmless
    have applied : Fed env { session with presence := (session.presence.applySignal sender payload now).2 } := by
      refine ⟨fed.privateKey, fun p other a found => ?_, fed.book, fed.blameless⟩
      rcases known_applySignal found with ⟨announced, rfl⟩ | old
      · exact readable a announced other
      · exact fed.announced p other a old
    exact applied.reconcileRuntime detected now succeed
  | datagram source datagram sent =>
    refine fed.withRuntime (fun runtime => ?_) harmless
    obtain ⟨processed, ok⟩ :=
      @MobileWireGuardRuntime.receiveDatagram_ok _ env.boringtun runtime source datagram
    exact ⟨processed.outgoing, by dsimp only; rw [ok]; rfl⟩
  | timer sent => exact fed.withRuntime (fun runtime => ⟨_, rfl⟩) harmless
  | statusTick now =>
    refine ⟨fed.privateKey, ?_, addressed_noteSuccessfulRuntimePaths fed.book _ now, fed.blameless⟩
    simpa using fed.announced

theorem endBlameless_of_harmless (env : MobileEnv Tunn) (config : AppConfig) (listenPort : UInt16)
    (privateKey : (decodeKey env.codec config.node.privateKey).toOption.isSome) (events : List Event)
    (harmless : Along (step env) (Harmless env) { config, listenPort } events) :
    (run (step env) { config, listenPort } events).EndBlameless := by
  have start : Fed env ({ config, listenPort } : IosSession Tunn) :=
    ⟨privateKey, fun p other a found => by simp at found, PeerPathBook.addressed_empty,
      fun _ ended => (by cases ended)⟩
  exact (@invariant _ _ (step env) (Fed env) (Harmless env)
    (fun _ _ fed harmless => fed.step harmless) _ _ start harmless).blameless

end IosSession

/-- While participants announce what can be used and sends succeed, only a stop, the signaling client and
the device end a session task or a tunnel task, on Android and on iOS. -/
theorem mobile_ends_blameless (env : MobileEnv Tunn) :
    (∀ events, Along (AndroidState.step env) (AndroidState.Harmless env) {} events →
      (run (AndroidState.step env) {} events).EndsBlameless) ∧
    ∀ config listenPort, (decodeKey env.codec config.node.privateKey).toOption.isSome → ∀ events,
      Along (IosSession.step env) (IosSession.Harmless env) { config, listenPort } events →
        (run (IosSession.step env) { config, listenPort } events).EndBlameless :=
  ⟨AndroidState.endsBlameless_of_harmless env, IosSession.endBlameless_of_harmless env⟩

end Android

/-! ## A host name and an unreachable peer -/

/-- The peer announces its endpoint as a host name. -/
def namedAnnouncement : PeerAnnouncement :=
  { Cli.sampleAnnouncement 0 "10.44.7.7/32" [] with endpoint := "vpn.example.org:51820" }

/-- A tunnel that starts its handshakes. -/
def eagerTunnel : Boringtun Unit where
  new _ _ _ := ()
  encapsulate _ tunn := (.Done, tunn)
  decapsulate _ _ tunn := (.Done, tunn)
  formatHandshakeInitiation tunn := (.WriteToNetwork [1], tunn)
  updateTimers tunn := (.Done, tunn)
  dstAddress _ := none
  lastHandshakeAge _ := none
  queued _ := 0
  drains := idleTunnel.drains

def eagerEnv : MobileEnv Unit := { phoneEnv with boringtun := eagerTunnel }

def iosStart : IosSession Unit := { config := tunnelConfig, listenPort := 51820 }

def otherPeer : String := "c6047f9441ed7d6d3045406e95c07cd85c778e4b8cef3ca7abac09b95c709ee5"

/-- Two peers are planned, and the first datagram of the tunnel, to the first of them, cannot be sent. -/
def firstPeerUnreachable : List AndroidState.Event :=
  tunnelUp ++ [.received otherPeer (.Announce (Cli.sampleAnnouncement 1 "10.44.7.8/32" [])) none 101
    workingDevice, .tunnel 1 (.initiate (· != 0))]

def iosFirstPeerUnreachable : List IosSession.Event :=
  [.received samplePeer (.Announce (Cli.sampleAnnouncement 0 "10.44.7.7/32" [])) none 100 fun _ => true,
   .received otherPeer (.Announce (Cli.sampleAnnouncement 1 "10.44.7.8/32" [])) none 101 (· != 0)]

/-- One announcement ends the sessions of both platforms, and one unreachable peer of two ends the Android
tunnel task and the iOS session. -/
theorem mobile_sessions_end :
    ¬ (run (AndroidState.step eagerEnv) {} (tunnelUp.take 3 ++
      [.received samplePeer (.Announce namedAnnouncement) none 100 workingDevice])).EndsBlameless ∧
    ¬ (run (AndroidState.step eagerEnv) {} firstPeerUnreachable).EndsBlameless ∧
    ¬ (run (IosSession.step eagerEnv) iosStart
      [.received samplePeer (.Announce namedAnnouncement) none 100 fun _ => true]).EndBlameless ∧
    ¬ (run (IosSession.step eagerEnv) iosStart iosFirstPeerUnreachable).EndBlameless := by
  refine ⟨fun blameless => ?_, fun blameless => ?_, fun blameless => ?_, fun blameless => ?_⟩
  · exact blameless.ends (.planning "invalid peer endpoint vpn.example.org:51820") (by decide +kernel)
  · have lost : ((run (AndroidState.step eagerEnv) {} firstPeerUnreachable).tunnels.any fun task =>
        task.ended == some (.send (.v4 (.ofOctets 203 0 113 20) 51820))) = true := by
      decide +kernel
    obtain ⟨task, mem, ended⟩ := List.any_eq_true.mp lost
    exact blameless.tunnels task mem _ (by simpa using ended)
  · exact blameless (.planning "invalid peer endpoint vpn.example.org:51820") (by decide +kernel)
  · exact blameless (.send (.v4 (.ofOctets 203 0 113 20) 51820)) (by decide +kernel)

theorem usable_sample : Usable eagerEnv (Cli.sampleAnnouncement 0 "10.44.7.7/32" []) where
  addressed := by
    rintro endpoint (rfl | absent | absent | absent)
    · decide +kernel
    all_goals cases absent
  publicKey := by decide +kernel
  tunnelIp := by decide +kernel
  routes := by decide +kernel

theorem mobile_ends_blameless_of_one_peer :
    (run (AndroidState.step eagerEnv) {} (tunnelUp ++ [.tunnel 0 (.initiate fun _ => true)])).EndsBlameless ∧
      (run (IosSession.step eagerEnv) iosStart (iosFirstPeerUnreachable.take 1)).EndBlameless := by
  obtain ⟨android, ios⟩ := mobile_ends_blameless eagerEnv
  refine ⟨android _ (.of_forall fun event mem state => ?_), ios tunnelConfig 51820 (by decide +kernel) _
    (.of_forall fun event mem session => ?_)⟩
  · simp only [tunnelUp, List.cons_append, List.nil_append, List.mem_cons, List.not_mem_nil, or_false] at mem
    rcases mem with rfl | rfl | rfl | rfl | rfl
    · exact ⟨by decide +kernel, by decide +kernel⟩
    · trivial
    · trivial
    · show state.session.WhenRunning _
      cases state.session with
      | running session => exact fun a same _ => SignalPayload.Announce.inj same ▸ usable_sample
      | none | connecting config => trivial
    · exact fun _ => rfl
  · obtain rfl : event = _ := by simpa [iosFirstPeerUnreachable] using mem
    exact ⟨fun _ => rfl, fun a same _ => SignalPayload.Announce.inj same ▸ usable_sample.toReadable⟩

end NostrVpn.Gui
