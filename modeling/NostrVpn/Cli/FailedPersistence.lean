import NostrVpn.Cli.RelayMembership
import NostrVpn.Cli.RosterPublishing
import NostrVpn.Invite.DerivedIds

/-!
# Failed persistence

`persist_inbound_join_request` and `persist_shared_network_roster` of `main.rs` put a message into the
configuration in memory and then save the file. When the file cannot be saved the message stays in memory, and
the next delivery of it is nothing new.
-/
namespace NostrVpn.Cli

open Rust NostrVpn.Core

-- Terms with texts are compared without reading the texts.
attribute [local irreducible] String.toList

/-- Where persisting a message ends. -/
inductive Persistence where
  | failed
  | ignored
  | saved
  deriving DecidableEq

/-- `persist_inbound_join_request`. -/
def persistInboundJoinRequest (env : SessionEnv) (saved : Bool) (app : AppConfig) (senderPubkey : String)
    (requestedAt : Nat) (request : MeshJoinRequest) : Persistence × AppConfig :=
  match app.recordInboundJoinRequest env.sdk request.networkId senderPubkey request.requesterNodeName
      requestedAt with
  | (.ok (some _), app) => (if saved then .saved else .failed, app)
  | (.ok none, app) => (.ignored, app)
  | (.error _, app) => (.failed, app)

/-- `persist_shared_network_roster`, with the reason why no network is returned. -/
def persistRoster (env : SessionEnv) (outcome : RosterOutcome) (app : AppConfig)
    (update : SharedRosterUpdate) : Persistence × AppConfig :=
  match app.applyAdminSignedSharedRoster env.sdk env.sha256 outcome.clock update with
  | (.ok true, app) => (if outcome.saved then .saved else .failed,
      app.maybeAutoconfigureNode env.sdk env.sha256 outcome.generated outcome.detected)
  | (.ok false, app) => (.ignored, app)
  | (.error _, app) => (.failed, app)

/-- What persisting does with a roster or a join request; other messages are not persisted. -/
def persist (env : SessionEnv) (outcome : RosterOutcome) (app : AppConfig) (envelope : SignalEnvelope) :
    Persistence × AppConfig :=
  match envelope.payload with
  | .JoinRequest requestedAt request =>
    persistInboundJoinRequest env outcome.saved app envelope.senderPubkey requestedAt request
  | .Roster roster =>
    persistRoster env outcome app (Daemon.rosterUpdate envelope.senderPubkey envelope.networkId roster)
  | _ => (.ignored, app)

/-- The roster passes every check, and names an admin. -/
def AcceptsRoster (env : SessionEnv) (now : UInt64) (app : AppConfig) (update : SharedRosterUpdate) : Prop :=
  ∃ signer network participants, RosterPasses env.sdk now app update signer network participants ∧
    normalizeNetworkAdmins env.sdk update.admins (app.ownPubkey env.sdk) network.inviteInviter ≠ []

/-- The request is news for a network that listens, from somebody who is no participant. -/
structure AcceptsRequest (env : SessionEnv) (app : AppConfig) (senderPubkey : String) (requestedAt : Nat)
    (request : MeshJoinRequest) (network : NetworkConfig) (key : String) : Prop where
  named : normalizeRuntimeNetworkId request.networkId ≠ ""
  parsed : normalizeNostrPubkey env.sdk senderPubkey = .ok key
  found : app.networks.find?
    (NetworkConfig.listensAt (normalizeRuntimeNetworkId request.networkId)) = some network
  outside : key ∉ network.participants
  news : (recordRequest network.inboundJoinRequests key (trim request.requesterNodeName) requestedAt).isSome

/-- The configuration takes the message up. -/
def Accepts (env : SessionEnv) (now : UInt64) (app : AppConfig) (envelope : SignalEnvelope) : Prop :=
  match envelope.payload with
  | .JoinRequest requestedAt request =>
    ∃ network key, AcceptsRequest env app envelope.senderPubkey requestedAt request network key
  | .Roster roster =>
    AcceptsRoster env now app (Daemon.rosterUpdate envelope.senderPubkey envelope.networkId roster)
  | _ => False

/-! ## Messages that are not accepted -/

section Refused
variable {env : SessionEnv} {outcome : RosterOutcome} {app : AppConfig} {update : SharedRosterUpdate}
  {envelope : SignalEnvelope} {senderPubkey : String} {requestedAt : Nat} {request : MeshJoinRequest}
  {network : NetworkConfig} {key : String}

theorem persistRoster_of_refused (refused : ¬AcceptsRoster env outcome.clock app update) :
    (persistRoster env outcome app update).2 = app := by
  have kept : (app.applyAdminSignedSharedRoster env.sdk env.sha256 outcome.clock update).1 ≠ .ok true ∧
      (app.applyAdminSignedSharedRoster env.sdk env.sha256 outcome.clock update).2 = app := by
    by_cases passes : ∃ signer network participants,
        RosterPasses env.sdk outcome.clock app update signer network participants
    · obtain ⟨signer, network, participants, passes⟩ := passes
      have nobody : normalizeNetworkAdmins env.sdk update.admins (app.ownPubkey env.sdk)
          network.inviteInviter = [] := by
        by_contra named
        exact refused ⟨signer, network, participants, passes, named⟩
      rw [apply_of_passes passes, if_pos nobody]
      exact ⟨nofun, rfl⟩
    · simp only [not_exists] at passes
      exact apply_of_not_passes passes
  unfold persistRoster
  generalize app.applyAdminSignedSharedRoster env.sdk env.sha256 outcome.clock update = result at kept ⊢
  obtain ⟨verdict, after⟩ := result
  obtain rfl : after = app := kept.2
  rcases verdict with e | _ | _
  · rfl
  · rfl
  · exact absurd rfl kept.1

theorem record_of_accepts (accepts : AcceptsRequest env app senderPubkey requestedAt request network key) :
    ∃ requests, recordRequest network.inboundJoinRequests key (trim request.requesterNodeName) requestedAt =
        some requests ∧
      app.recordInboundJoinRequest env.sdk request.networkId senderPubkey request.requesterNodeName
          requestedAt = (.ok (some network.name), { app with
        networks := modifyFirst (NetworkConfig.listensAt (normalizeRuntimeNetworkId request.networkId))
          (fun network => { network with inboundJoinRequests := requests }) app.networks
        networks_ne := modifyFirst_ne_nil app.networks_ne }) := by
  obtain ⟨requests, recorded⟩ := Option.isSome_iff_exists.mp accepts.news
  refine ⟨requests, recorded, ?_⟩
  simp only [AppConfig.recordInboundJoinRequest, if_neg accepts.named, accepts.parsed, accepts.found,
    if_neg accepts.outside, recorded]

theorem persistInboundJoinRequest_of_refused {saved : Bool}
    (refused : ∀ network key, ¬AcceptsRequest env app senderPubkey requestedAt request network key) :
    (persistInboundJoinRequest env saved app senderPubkey requestedAt request).2 = app := by
  unfold persistInboundJoinRequest AppConfig.recordInboundJoinRequest
  dsimp only
  by_cases named : normalizeRuntimeNetworkId request.networkId = ""
  · rw [if_pos named]
  rw [if_neg named]
  cases parsed : normalizeNostrPubkey env.sdk senderPubkey with
  | error e => rfl
  | ok key =>
    cases found : app.networks.find?
        (NetworkConfig.listensAt (normalizeRuntimeNetworkId request.networkId)) with
    | none => rfl
    | some network =>
      dsimp only
      by_cases inside : key ∈ network.participants
      · rw [if_pos inside]
      rw [if_neg inside]
      cases recorded : recordRequest network.inboundJoinRequests key (trim request.requesterNodeName)
          requestedAt with
      | none => rfl
      | some requests =>
        exact absurd ⟨named, parsed, found, inside, by rw [recorded]; rfl⟩ (refused network key)

theorem persist_of_refused (refused : ¬Accepts env outcome.clock app envelope) :
    (persist env outcome app envelope).2 = app := by
  obtain ⟨networkId, senderPubkey, payload⟩ := envelope
  cases payload with
  | JoinRequest requestedAt request =>
    exact persistInboundJoinRequest_of_refused fun network key accepts => refused ⟨network, key, accepts⟩
  | Roster roster => exact persistRoster_of_refused refused
  | _ => rfl

end Refused

/-! ## Messages that are accepted -/

theorem recordRequest_ne {requests requests' : List PendingInboundJoinRequest} {requester name : String}
    {requestedAt : Nat} (recorded : recordRequest requests requester name requestedAt = some requests') :
    requests' ≠ requests := by
  unfold recordRequest at recorded
  cases found : requests.find? fun request => request.requester == requester with
  | none =>
    rw [found] at recorded
    obtain rfl := Option.some.inj recorded
    intro same
    have longer := congrArg List.length same
    rw [(perm_sortByKey _ _).length_eq, List.length_append] at longer
    simp at longer
  | some existing =>
    rw [found] at recorded
    dsimp only at recorded
    split_ifs at recorded with news
    obtain rfl := Option.some.inj recorded
    intro same
    obtain ⟨i, -, at', changed⟩ := modifyFirst_eq_set found fun request : PendingInboundJoinRequest =>
      { request with requestedAt := max request.requestedAt requestedAt, requesterNodeName := name }
    rw [changed] at same
    have there := congrArg (fun requests => requests[i]?) same
    obtain ⟨inside, -⟩ := List.getElem?_eq_some_iff.mp at'
    simp only [List.getElem?_set_self inside, at', Option.some.injEq] at there
    have older : max existing.requestedAt requestedAt = existing.requestedAt :=
      congrArg PendingInboundJoinRequest.requestedAt there
    have other : name = existing.requesterNodeName :=
      congrArg PendingInboundJoinRequest.requesterNodeName there
    rcases news with later | renamed
    · omega
    · exact renamed other.symm

/-- What `ensure_defaults` makes of the time of the stored roster. -/
def defaultedStamp (sdk : NostrSdk) (network : NetworkConfig) : Nat :=
  if (normalPubkey? sdk network.sharedRosterSignedBy).getD "" = "" then 0 else network.sharedRosterUpdatedAt

theorem stamps_ensureNetworks (sdk : NostrSdk) (own : Option String) (ordinal : Nat) (used : List String)
    (networks : List NetworkConfig) :
    (ensureNetworks sdk own ordinal used networks).map NetworkConfig.sharedRosterUpdatedAt =
      networks.map (defaultedStamp sdk) := by
  induction networks generalizing ordinal used with
  | nil => rfl
  | cons network rest ih =>
    simp only [ensureNetworks, List.map_cons, ih]
    rfl

theorem stamps_ensureDefaults (sdk : NostrSdk) (sha256 : Sha256) (generated : Generated) (config : AppConfig) :
    (config.ensureDefaults sdk sha256 generated).networks.map NetworkConfig.sharedRosterUpdatedAt =
      config.networks.map (defaultedStamp sdk) := by
  have derived (own : Option String) : NetworkConfig.sharedRosterUpdatedAt ∘
      NetworkConfig.deriveDefaultNetworkId sha256 own = NetworkConfig.sharedRosterUpdatedAt :=
    funext (RosterWorld.stamp_deriveDefaultNetworkId sha256 own)
  have enabled (networks : List NetworkConfig) (index : Nat) :
      (enableAt index networks).map NetworkConfig.sharedRosterUpdatedAt =
        networks.map NetworkConfig.sharedRosterUpdatedAt :=
    List.ext_getElem? fun i => by simp [enableAt, List.getElem?_mapIdx, Function.comp_def]
  rw [Invite.networks_ensureDefaults, List.map_map, derived, enabled, stamps_ensureNetworks]

section Accepted
variable {env : SessionEnv} {outcome : RosterOutcome} {app : AppConfig} {update : SharedRosterUpdate}
  {envelope : SignalEnvelope} {senderPubkey : String} {requestedAt : Nat} {request : MeshJoinRequest}
  {network : NetworkConfig} {key : String}

/-- The time of the roster is in the configuration, whether that is saved or not. -/
theorem persistRoster_of_accepts (lawful : env.sdk.Lawful) (hex : env.sdk.HexKeys)
    (accepts : AcceptsRoster env outcome.clock app update) :
    (persistRoster env outcome app update).1 = (if outcome.saved then .saved else .failed) ∧
      (persistRoster env outcome app update).2 ≠ app := by
  obtain ⟨signer, network, participants, passes, named⟩ := accepts
  unfold persistRoster
  rw [apply_of_passes passes, if_neg named]
  refine ⟨rfl, fun same => ?_⟩
  dsimp only at same
  obtain ⟨i, accepted⟩ := @accepted_of_passes env.sdk env.sha256 _ _ _ _ _ _ passes
    (normalizeNetworkAdmins env.sdk update.admins (app.ownPubkey env.sdk) network.inviteInviter)
  have stamps := stamps_ensureDefaults env.sdk env.sha256 outcome.generated
    (app.acceptSharedRoster env.sdk env.sha256 (normalizeRuntimeNetworkId update.networkId)
      (network.acceptRoster env.sdk update signer participants
        (normalizeNetworkAdmins env.sdk update.admins (app.ownPubkey env.sdk) network.inviteInviter))
      update.aliases)
  rw [← AppConfig.networks_maybeAutoconfigureNode env.sdk env.sha256 outcome.generated outcome.detected,
    same] at stamps
  have there := congrArg (fun stamps => stamps[i]?) stamps
  simp only [List.getElem?_map, accepted.stored, accepted.replaced, Option.map_some, Option.some.injEq]
    at there
  have parsed := lawful.parse_hex (normalizeNostrPubkey_eq_ok.mp passes.signed)
  have signed : normalPubkey? env.sdk signer = some signer := normalPubkey?_eq_some.mpr parsed
  have filled : signer ≠ "" := by
    rintro rfl
    have length := (hex parsed).1
    simp at length
  have newer := passes.newer
  rw [there, defaultedStamp, show (network.acceptRoster env.sdk update signer participants _
    ).sharedRosterSignedBy = signer from rfl, signed, Option.getD_some, if_neg filled] at newer
  exact absurd newer (Nat.lt_irrefl _)

theorem persistInboundJoinRequest_of_accepts {saved : Bool}
    (accepts : AcceptsRequest env app senderPubkey requestedAt request network key) :
    (persistInboundJoinRequest env saved app senderPubkey requestedAt request).1 =
        (if saved then .saved else .failed) ∧
      (persistInboundJoinRequest env saved app senderPubkey requestedAt request).2 ≠ app := by
  obtain ⟨requests, recorded, taken⟩ := record_of_accepts accepts
  unfold persistInboundJoinRequest
  rw [taken]
  refine ⟨rfl, fun same => ?_⟩
  obtain ⟨i, -, at', changed⟩ := modifyFirst_eq_set accepts.found fun network : NetworkConfig =>
    { network with inboundJoinRequests := requests }
  have networks := congrArg AppConfig.networks same
  dsimp only at networks
  rw [changed] at networks
  have there := congrArg (fun networks => networks[i]?) networks
  obtain ⟨inside, -⟩ := List.getElem?_eq_some_iff.mp at'
  simp only [List.getElem?_set_self inside, at', Option.some.injEq] at there
  exact recordRequest_ne recorded (congrArg NetworkConfig.inboundJoinRequests there)

theorem persist_of_accepts (lawful : env.sdk.Lawful) (hex : env.sdk.HexKeys)
    (accepts : Accepts env outcome.clock app envelope) :
    (persist env outcome app envelope).1 = (if outcome.saved then .saved else .failed) ∧
      (persist env outcome app envelope).2 ≠ app := by
  obtain ⟨networkId, senderPubkey, payload⟩ := envelope
  cases payload with
  | JoinRequest requestedAt request =>
    obtain ⟨network, key, accepts⟩ := accepts
    exact persistInboundJoinRequest_of_accepts accepts
  | Roster roster => exact persistRoster_of_accepts lawful hex accepts
  | Hello => exact accepts.elim
  | Announce announcement => exact accepts.elim
  | Disconnect nodeId => exact accepts.elim

end Accepted

/-! ## Deliveries to the daemon -/

section Deliveries
variable {env : SessionEnv} {m : Nat → Moment} {outcome : RosterOutcome} {d : Daemon} {envelope : SignalEnvelope}

theorem persistSharedNetworkRoster_eq_persistRoster (app : AppConfig) (update : SharedRosterUpdate) :
    Daemon.persistSharedNetworkRoster env outcome app update =
      ((persistRoster env outcome app update).1 == .saved, (persistRoster env outcome app update).2) := by
  unfold Daemon.persistSharedNetworkRoster persistRoster
  generalize app.applyAdminSignedSharedRoster env.sdk env.sha256 outcome.clock update = result
  obtain ⟨verdict, after⟩ := result
  rcases verdict with e | _ | _
  · rfl
  · rfl
  · cases outcome.saved <;> rfl

/-- A message whose persisting fails leaves a daemon with the configuration that persisting leaves. -/
theorem message_of_failed (listening : (d.relaySessionActive && d.relayConnected) = true)
    (failed : (persist env outcome d.session.app envelope).1 = .failed) :
    d.message env m (some envelope) outcome =
      d.onSession fun session => { session with app := (persist env outcome d.session.app envelope).2 } := by
  obtain ⟨networkId, senderPubkey, payload⟩ := envelope
  unfold Daemon.message
  rw [if_neg (by simp [listening])]
  cases payload with
  | JoinRequest requestedAt request =>
    have stored : (persistInboundJoinRequest env outcome.saved d.session.app senderPubkey requestedAt
        request).2 = (d.session.app.recordInboundJoinRequest env.sdk request.networkId senderPubkey
          request.requesterNodeName requestedAt).2 := by
      unfold persistInboundJoinRequest
      generalize d.session.app.recordInboundJoinRequest env.sdk request.networkId senderPubkey
        request.requesterNodeName requestedAt = result
      obtain ⟨verdict, after⟩ := result
      rcases verdict with e | _ | _ <;> rfl
    simp only [persist, stored, Daemon.onSession]
  | Roster roster =>
    have persisted := @persistSharedNetworkRoster_eq_persistRoster env outcome d.session.app
      (Daemon.rosterUpdate senderPubkey networkId roster)
    have verdict : (persistRoster env outcome d.session.app
      (Daemon.rosterUpdate senderPubkey networkId roster)).1 = .failed := failed
    rw [verdict] at persisted
    change d.receiveRoster env m senderPubkey networkId roster outcome = d.onSession fun session =>
      { session with app := (persistRoster env outcome d.session.app
        (Daemon.rosterUpdate senderPubkey networkId roster)).2 }
    unfold Daemon.receiveRoster
    unfold Daemon.rosterUpdate at persisted ⊢
    dsimp only
    rw [persisted]
    rfl
  | Hello => cases failed
  | Announce announcement => cases failed
  | Disconnect nodeId => cases failed

/-- The configuration is the one before the delivery, and another delivery finds the daemon as if the first
one had not been made. -/
structure Redeliverable (env : SessionEnv) (m : Nat → Moment) (outcome : RosterOutcome) (d : Daemon)
    (envelope : SignalEnvelope) : Prop where
  unchanged : (d.message env m (some envelope) outcome).session.app = d.session.app
  again : ∀ m' outcome', (d.message env m (some envelope) outcome).message env m' (some envelope) outcome' =
    d.message env m' (some envelope) outcome'

end Deliveries

/-- A failure to persist a message leaves it to the next delivery exactly when it is not the file that could
not be saved. -/
theorem failed_message_redeliverable_iff {env : SessionEnv} (lawful : env.sdk.Lawful) (hex : env.sdk.HexKeys)
    (m : Nat → Moment) (outcome : RosterOutcome) (d : Daemon) (envelope : SignalEnvelope)
    (listening : (d.relaySessionActive && d.relayConnected) = true) :
    ((persist env outcome d.session.app envelope).1 = .failed → Redeliverable env m outcome d envelope) ↔
      outcome.saved ∨ ¬Accepts env outcome.clock d.session.app envelope := by
  constructor
  · intro redeliverable
    by_contra neither
    obtain ⟨unsaved, accepts⟩ := not_or.mp neither
    obtain ⟨verdict, stored⟩ := persist_of_accepts lawful hex (not_not.mp accepts)
    rw [if_neg unsaved] at verdict
    have unchanged := (redeliverable verdict).unchanged
    rw [message_of_failed listening verdict] at unchanged
    exact stored unchanged
  · intro either failed
    have refused : ¬Accepts env outcome.clock d.session.app envelope := by
      rcases either with saved | refused
      · intro accepts
        have verdict := (persist_of_accepts lawful hex accepts).1
        rw [if_pos saved, failed] at verdict
        cases verdict
      · exact refused
    have same : d.message env m (some envelope) outcome = d := by
      rw [message_of_failed listening failed, persist_of_refused refused]
      rfl
    exact ⟨by rw [same], fun m' outcome' => by rw [same]⟩

/-- An administrator takes the third sample key out of the network. -/
def removalRoster (signedAt : Nat) : SignalEnvelope where
  networkId := "mesh-home"
  senderPubkey := (samplePubkeys[1]?).getD ""
  payload := .Roster { participants := samplePubkeys.take 2, admins := samplePubkeys.take 2, signedAt }

theorem sampleSessionEnv_lawful : sampleSessionEnv.sdk.Lawful where
  parse_hex := sampleSdk_lawful.parse_hex
  secret_hex := by
    intro s h parsed
    have first : sampleSdk.parsePublicKey (samplePubkeys.headD "") = .ok (samplePubkeys.headD "") := by
      decide +kernel
    simp only [sampleSessionEnv] at parsed
    split_ifs at parsed
    exact Except.ok.inj parsed ▸ first
  from_hex := sampleSdk_lawful.from_hex
  from_parsed := sampleSdk_lawful.from_parsed
  parse_bech32 := sampleSdk_lawful.parse_bech32

/-- The roster of the far future is refused, and its redelivery finds the daemon as it was. -/
theorem failed_message_redeliverable_of_future_roster :
    (persist sampleSessionEnv sampleRosterOutcome (sampleDaemon (samplePubkeys.drop 1)).session.app
        (removalRoster 2000)).1 = .failed ∧
      Redeliverable sampleSessionEnv (fun _ => sampleMoment 100) sampleRosterOutcome
        (sampleDaemon (samplePubkeys.drop 1)) (removalRoster 2000) := by
  have facts : ((sampleDaemon (samplePubkeys.drop 1)).relaySessionActive &&
        (sampleDaemon (samplePubkeys.drop 1)).relayConnected) = true ∧
      (persist sampleSessionEnv sampleRosterOutcome (sampleDaemon (samplePubkeys.drop 1)).session.app
        (removalRoster 2000)).1 = .failed := by decide +kernel
  obtain ⟨listening, failed⟩ := facts
  exact ⟨failed, (failed_message_redeliverable_iff sampleSessionEnv_lawful sampleSdk_hexKeys _ _ _ _ listening).mpr
    (Or.inl rfl) failed⟩

/-- A roster whose file cannot be saved stays in memory. -/
theorem unsaved_roster_stays :
    ¬ ∀ (env : SessionEnv) (m : Nat → Moment) (outcome : RosterOutcome) (d : Daemon) (envelope : SignalEnvelope),
      (d.relaySessionActive && d.relayConnected) = true →
        (persist env outcome d.session.app envelope).1 = .failed → Redeliverable env m outcome d envelope := by
  intro redeliverable
  have facts : ((sampleDaemon (samplePubkeys.drop 1)).relaySessionActive &&
        (sampleDaemon (samplePubkeys.drop 1)).relayConnected) = true ∧
      (persist sampleSessionEnv { sampleRosterOutcome with saved := false }
        (sampleDaemon (samplePubkeys.drop 1)).session.app (removalRoster 1000)).1 = .failed ∧
      (persist sampleSessionEnv { sampleRosterOutcome with saved := false }
        (sampleDaemon (samplePubkeys.drop 1)).session.app (removalRoster 1000)).2.networks.map
          NetworkConfig.participants ≠
        (sampleDaemon (samplePubkeys.drop 1)).session.app.networks.map NetworkConfig.participants := by
    decide +kernel
  obtain ⟨listening, failed, changed⟩ := facts
  have unchanged := (redeliverable sampleSessionEnv (fun _ => sampleMoment 100) _ _ _ listening failed).unchanged
  rw [message_of_failed listening failed] at unchanged
  exact changed (congrArg (fun app => app.networks.map NetworkConfig.participants) unchanged)

end NostrVpn.Cli
