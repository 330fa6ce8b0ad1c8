import NostrVpn.Core.PendingRequests
import NostrVpn.Invite.ConfigNetworks
import NostrVpn.Invite.FailedImport
import NostrVpn.Invite.MeshRouting

/-!
# Pending requests over runs

A run that logs, for each network and requester, the times of the requests recorded since the requester
was put on the list. Participants that are added by hand or by an invite stay on the list of requests; any
other operation keeps the requests of outsiders only, in order, each at the latest of its times.
-/
namespace NostrVpn.Invite

open Rust NostrVpn.Core Transition

-- Terms with texts are compared without reading the texts.
attribute [local irreducible] String.toList

/-- The requests of the network at an index. -/
def requestsAt (config : AppConfig) (i : Nat) : List PendingInboundJoinRequest :=
  config.networks[i]?.elim [] NetworkConfig.inboundJoinRequests

/-! ## The log -/

section Log
variable (sdk : NostrSdk) (sha256 : Sha256)

/-- Where the network at an index stood before the operation. -/
def ConfigOp.position (s : LoadedConfig) : ConfigOp → Nat → Nat
  | .removeNetwork id, i =>
    match s.config.removeNetwork sdk sha256 s.distinct id with
    | .error _ => i
    | .ok _ => if i < s.config.networks.findIdx (NetworkConfig.hasEntryId id) then i else i + 1
  | _, i => i

/-- The network, the key and the time of the request that the operation records. -/
def ConfigOp.recording (s : LoadedConfig) : ConfigOp → Option (Nat × String × Nat)
  | .recordInboundJoinRequest networkId requester _ requestedAt =>
    if normalizeRuntimeNetworkId networkId = "" then none
    else do
      let key ← normalPubkey? sdk requester
      let i ← s.config.networks.findIdx?
        (NetworkConfig.listensAt (normalizeRuntimeNetworkId networkId))
      let network ← s.config.networks[i]?
      if key ∈ network.participants then none else some (i, key, requestedAt)
  | _ => none

/-- A configuration with the recorded times of the requests that are pending at each network. -/
structure RequestLog where
  state : LoadedConfig
  times : Nat → String → List Nat

def ConfigOp.log (log : RequestLog) (op : ConfigOp) : RequestLog where
  state := op.apply sdk sha256 log.state
  times i requester :=
    if HasRequest (requestsAt (op.apply sdk sha256 log.state).config i) requester then
      log.times (op.position sdk sha256 log.state i) requester ++
        ((op.recording sdk log.state).filter fun (j, key, _) => j = i ∧ key = requester).toList.map
          fun (_, _, requestedAt) => requestedAt
    else []

/-- The log after a file has been loaded holds the times of its requests. -/
def RequestLog.load (generated : Generated) (fields : AppConfig) (networks : List NetworkConfig) :
    RequestLog where
  state := .load sdk sha256 generated fields networks
  times i requester :=
    if HasRequest (requestsAt (LoadedConfig.load sdk sha256 generated fields networks).config i) requester
    then requestTimes sdk (networks[i]?.elim [] NetworkConfig.inboundJoinRequests) requester
    else []

end Log

/-- Every list of requests is orderly and without participants, and each request has the latest of its
recorded times. -/
structure RequestInvariant (log : RequestLog) : Prop where
  orderly : ∀ network ∈ log.state.config.networks, Orderly network.inboundJoinRequests
  outside : ∀ network ∈ log.state.config.networks, ∀ request ∈ network.inboundJoinRequests,
    request.requester ∉ network.participants
  latest : ∀ i, ∀ request ∈ requestsAt log.state.config i,
    (log.times i request.requester).max? = some request.requestedAt

/-- The step adds nobody to the participants of a network who has a request pending there. -/
def ConfigOp.KeepsRequests (sdk : NostrSdk) (s : LoadedConfig) : ConfigOp → Prop
  | .editRoster _ id .AddParticipant participant =>
    ∀ key ∈ normalPubkey? sdk participant, ∀ network ∈ s.config.networkById id,
      ¬ HasRequest network.inboundJoinRequests key
  | .importInvite _ invite => normalizeRuntimeNetworkId invite.networkId ≠ "" →
    ∀ keys ∈ (inviteKeys sdk invite).toOption, ∀ id ∈ configuredTarget s.config invite,
      ∀ network ∈ s.config.networkById id, ∀ participant ∈ keys.participants,
        s.config.ownPubkey sdk ≠ some participant → ¬ HasRequest network.inboundJoinRequests participant
  | _ => True

/-! ## One network -/

section Network
variable {sdk : NostrSdk} {network network' : NetworkConfig} {key : String}

/-- Requests in order, of keys in their normal form that are no participants. -/
structure TidyRequests (sdk : NostrSdk) (network : NetworkConfig) : Prop where
  orderly : Orderly network.inboundJoinRequests
  normal : ∀ request ∈ network.inboundJoinRequests,
    normalPubkey? sdk request.requester = some request.requester
  outside : ∀ request ∈ network.inboundJoinRequests, request.requester ∉ network.participants

theorem TidyRequests.of_eq (tidy : TidyRequests sdk network)
    (requests : network'.inboundJoinRequests = network.inboundJoinRequests)
    (participants : ∀ participant ∈ network'.participants, participant ∈ network.participants ∨
      ¬ HasRequest network.inboundJoinRequests participant) : TidyRequests sdk network' where
  orderly := requests ▸ tidy.orderly
  normal := requests ▸ tidy.normal
  outside request mem participant := by
    rw [requests] at mem
    rcases participants _ participant with old | new
    · exact tidy.outside request mem old
    · exact new (hasRequest_of_mem mem)

theorem TidyRequests.of_same (tidy : TidyRequests sdk network)
    (requests : network'.inboundJoinRequests = network.inboundJoinRequests)
    (participants : network'.participants = network.participants) : TidyRequests sdk network' :=
  tidy.of_eq requests fun _ mem => Or.inl (participants ▸ mem)

/-- A network whose requests are normalised for its participants. -/
theorem tidyRequests_of_normalized (lawful : sdk.Lawful) {requests : List PendingInboundJoinRequest}
    (normalized : network.inboundJoinRequests =
      normalizeInboundJoinRequests sdk requests network.participants) : TidyRequests sdk network where
  orderly := normalized ▸ orderly_normalize _ _
  normal _ mem := normal_of_mem_normalize lawful (normalized ▸ mem)
  outside _ mem := (of_mem_normalize (normalized ▸ mem)).1

theorem tidyRequests_added (id : String) : TidyRequests sdk (addedCore id) where
  orderly := List.Pairwise.nil
  normal := nofun
  outside := nofun

theorem TidyRequests.record (tidy : TidyRequests sdk network) (lawful : sdk.Lawful)
    {requester name : String} {requestedAt : Nat} {requests : List PendingInboundJoinRequest}
    (parsed : normalizeNostrPubkey sdk requester = .ok key) (outside : key ∉ network.participants)
    (recorded : recordRequest network.inboundJoinRequests key name requestedAt = some requests) :
    TidyRequests sdk { network with inboundJoinRequests := requests } := by
  have orderly := @Orderly.record _ key name requestedAt tidy.orderly
  have cases (request) (mem : request ∈ requests) :
      request.requester = key ∨ request ∈ network.inboundJoinRequests := by
    have listed : request ∈ (recordRequest network.inboundJoinRequests key name requestedAt).getD
        network.inboundJoinRequests := by rwa [recorded]
    rcases tidy.orderly.of_mem_record listed with ⟨-, old⟩ | ⟨same, -⟩
    · exact Or.inr old
    · exact Or.inl same
  rw [recorded, Option.getD_some] at orderly
  refine ⟨orderly, fun request mem => ?_, fun request mem => ?_⟩
  · rcases cases request mem with rfl | old
    · exact normalPubkey?_eq_some.mpr (lawful.parse_hex (normalizeNostrPubkey_eq_ok.mp parsed))
    · exact tidy.normal request old
  · rcases cases request mem with rfl | old
    · exact outside
    · exact tidy.outside request old

/-- An edit of a roster that adds nobody whose request is pending. -/
theorem TidyRequests.edit (tidy : TidyRequests sdk network) {action : RosterEditAction}
    (keeps : action = .AddParticipant → ¬ HasRequest network.inboundJoinRequests key)
    (changed : action.edit key network = .ok network') : TidyRequests sdk network' := by
  cases action with
  | AddParticipant =>
    obtain rfl := Except.ok.inj changed
    refine tidy.of_eq rfl fun participant mem => ?_
    rcases mem_addKey.mp mem with old | rfl
    · exact Or.inl old
    · exact Or.inr (keeps rfl)
  | RemoveParticipant =>
    simp only [RosterEditAction.edit] at changed
    split_ifs at changed
    obtain rfl := Except.ok.inj changed
    exact tidy.of_eq rfl fun participant mem => Or.inl (List.mem_of_mem_filter mem)
  | AddAdmin =>
    obtain rfl := Except.ok.inj changed
    exact tidy.of_same rfl rfl
  | RemoveAdmin =>
    simp only [RosterEditAction.edit] at changed
    split_ifs at changed
    obtain rfl := Except.ok.inj changed
    exact tidy.of_same rfl rfl

/-- An invite that names nobody whose request is pending. -/
theorem TidyRequests.merge (tidy : TidyRequests sdk network) {own : Option String} {keys : InviteKeys}
    (strangers : ∀ participant ∈ keys.participants, own ≠ some participant →
      ¬ HasRequest network.inboundJoinRequests participant) (reset : Bool) :
    TidyRequests sdk (mergeInvite own keys reset network) := by
  refine tidy.of_eq ?_ fun participant mem => ?_
  · simp only [mergeInvite, resetMembership]
    split_ifs <;> rfl
  · simp only [mergeInvite, mem_sortDedup, List.mem_append, List.mem_filter, decide_eq_true_eq] at mem
    rcases mem with old | ⟨named, other⟩
    · left
      split_ifs at old
      · cases old
      · exact old
    · exact Or.inr (strangers participant named other)

end Network

/-! ## The lists over a step -/

section Lists
variable {sdk : NostrSdk} {sha256 : Sha256} {s : LoadedConfig} {op : ConfigOp}

theorem tidyRequests_core {network : NetworkConfig} :
    TidyRequests sdk network.core ↔ TidyRequests sdk network :=
  ⟨fun tidy => tidy.of_same rfl rfl, fun tidy => tidy.of_same rfl rfl⟩

/-- A step that adds no participant with a pending request keeps the lists of every network tidy. -/
theorem tidyRequests_apply (lawful : sdk.Lawful)
    (tidy : ∀ network ∈ s.config.networks, TidyRequests sdk network) (keeps : op.KeepsRequests sdk s) :
    ∀ network ∈ (op.apply sdk sha256 s).config.networks, TidyRequests sdk network := by
  intro network listed
  obtain ⟨enabled, core, eq, which⟩ :=
    (@effect_apply sdk sha256 s op).stands_or_writes (List.mem_map_of_mem listed)
  suffices here : TidyRequests sdk core by
    refine tidyRequests_core.mp ?_
    rw [eq]
    exact here.of_same rfl rfl
  rcases which with ⟨old, -⟩ | written
  · obtain ⟨network, listed, rfl⟩ := List.mem_map.mp old
    exact tidyRequests_core.mpr (tidy network listed)
  · cases written with
    | added => exact tidyRequests_added _
    | recorded mem parsed outside recorded =>
      exact ((tidy _ mem).record lawful parsed outside recorded).of_same rfl rfl
    | edited parsed found changed =>
      refine tidyRequests_core.mpr ((tidy _ (List.mem_of_find?_eq_some found)).edit ?_ changed)
      rintro rfl
      exact keeps _ (by rw [normalPubkey?, parsed]; rfl) _ found
    | accepted passes named some' => exact tidyRequests_of_normalized lawful rfl
    | abandoned parsed unknown used unnamed => exact tidyRequests_added _
    | @merged now invite keys base id reset i network parsed target first named at' =>
      have strangers := keeps named keys (by rw [parsed]; rfl)
      rw [← core_mergeInvite, tidyRequests_core]
      rcases configuredTarget_of_target target with ⟨configured, rfl⟩ | ⟨unconfigured, -⟩
      · have found := find?_of_findIdx? first at'
        exact (tidy _ (List.mem_of_getElem? at')).merge (strangers id configured network found) reset
      · cases target with
        | known found => simp [configuredTarget, found] at unconfigured
        | adopted unknown unused =>
          rw [configuredTarget, unknown] at unconfigured
          simp [unused] at unconfigured
        | added unknown used =>
          have core := core_of_added first at'
          have tidy : TidyRequests sdk network := tidyRequests_core.mp (core ▸ tidyRequests_added _)
          refine tidy.merge (fun participant _ _ pending => ?_) true
          have none' : network.inboundJoinRequests = [] := congrArg NetworkConfig.inboundJoinRequests core
          simp [HasRequest, none'] at pending
    | defaulted mem => exact tidyRequests_of_normalized lawful rfl

/-! ## The times over a step -/

/-- A list without its request of one network. -/
theorem filter_not_hasEntryId {id : String} {networks : List NetworkConfig}
    (distinct : (networks.map NetworkConfig.id).Nodup) (present : id ∈ networks.map NetworkConfig.id) :
    networks.filter (fun network => !network.hasEntryId id) =
      networks.eraseIdx (networks.findIdx (NetworkConfig.hasEntryId id)) := by
  induction networks with
  | nil => cases present
  | cons network rest ih =>
    rw [List.map_cons, List.nodup_cons] at distinct
    by_cases here : network.id = id
    · have others : ∀ other ∈ rest, ¬ other.id = id := fun other mem same =>
        distinct.1 (List.mem_map.mpr ⟨other, mem, same.trans here.symm⟩)
      have kept : rest.filter (fun network => !network.hasEntryId id) = rest :=
        List.filter_eq_self.mpr fun other mem => by simpa [NetworkConfig.hasEntryId] using others other mem
      simp [NetworkConfig.hasEntryId, here, List.findIdx_cons]
      simpa [NetworkConfig.hasEntryId] using kept
    · have later := ih distinct.2 (by simpa [Ne.symm here] using present)
      have other : NetworkConfig.hasEntryId id network = false := by simpa [NetworkConfig.hasEntryId] using here
      simp [other, List.findIdx_cons, later]

theorem requestsAt_eq_of_map {config config' : AppConfig} {i j : Nat}
    (same : (config.networks.map NetworkConfig.inboundJoinRequests)[i]? =
      (config'.networks.map NetworkConfig.inboundJoinRequests)[j]?) :
    requestsAt config i = requestsAt config' j := by
  have seen (config : AppConfig) (i : Nat) : requestsAt config i =
      ((config.networks.map NetworkConfig.inboundJoinRequests)[i]?).getD [] := by
    rw [requestsAt, List.getElem?_map]
    cases config.networks[i]? <;> rfl
  rw [seen, seen, same]

theorem requestsAt_congr {config config' : AppConfig} (same : config.networks = config'.networks) (i : Nat) :
    requestsAt config i = requestsAt config' i := by
  rw [requestsAt, same, requestsAt]

theorem requestsAt_cores (config : AppConfig) (i : Nat) :
    requestsAt config i = config.cores[i]?.elim [] NetworkConfig.inboundJoinRequests := by
  rw [requestsAt, AppConfig.cores, List.getElem?_map]
  cases config.networks[i]? <;> rfl

theorem requestsAt_removeNetwork (s : LoadedConfig) (id : String) (i : Nat) :
    requestsAt ((ConfigOp.removeNetwork id).apply sdk sha256 s).config i =
      requestsAt s.config ((ConfigOp.removeNetwork id).position sdk sha256 s i) := by
  simp only [ConfigOp.apply, ConfigOp.outcome, ConfigOp.position]
  cases removed : s.config.removeNetwork sdk sha256 s.distinct id with
  | error e => rfl
  | ok after =>
    obtain ⟨-, present, between, -, networks, rfl⟩ := removeNetwork_spec removed
    have promoted (networks : List NetworkConfig) :
        (promoteFirst networks).map NetworkConfig.inboundJoinRequests =
          networks.map NetworkConfig.inboundJoinRequests := by
      unfold promoteFirst
      split_ifs
      · rfl
      · cases networks <;> rfl
    refine requestsAt_eq_of_map ?_
    dsimp only [toOption_ok, Option.getD_some]
    rw [AppConfig.networks_normalizePeerAliases, AppConfig.networks_normalizeSelectedExitNode, networks,
      promoted, filter_not_hasEntryId s.distinct present, List.getElem?_map, List.getElem?_eraseIdx,
      List.getElem?_map]
    split_ifs <;> rfl

/-- The request, perhaps with another name, is on the list. -/
def ComesFrom (requests : List PendingInboundJoinRequest) (request : PendingInboundJoinRequest) : Prop :=
  ∃ old ∈ requests, old.requester = request.requester ∧ old.requestedAt = request.requestedAt

theorem comesFrom_of_mem {requests : List PendingInboundJoinRequest} {request : PendingInboundJoinRequest}
    (mem : request ∈ requests) : ComesFrom requests request := ⟨request, mem, rfl, rfl⟩

theorem ComesFrom.trans {requests between : List PendingInboundJoinRequest}
    {request : PendingInboundJoinRequest} (from' : ComesFrom between request)
    (older : ∀ old ∈ between, ComesFrom requests old) : ComesFrom requests request := by
  obtain ⟨old, mem, requester, time⟩ := from'
  obtain ⟨older, mem', requester', time'⟩ := older old mem
  exact ⟨older, mem', requester'.trans requester, time'.trans time⟩

theorem requestsAt_enableAt {networks : List NetworkConfig} {i j : Nat} :
    (enableAt j networks)[i]?.elim [] NetworkConfig.inboundJoinRequests =
      networks[i]?.elim [] NetworkConfig.inboundJoinRequests := by
  rw [enableAt, List.getElem?_mapIdx]
  cases networks[i]? <;> rfl

/-- A network that is set at an index. -/
theorem comesFrom_set {networks : List NetworkConfig} {i j : Nat} {network network' : NetworkConfig}
    (at' : networks[j]? = some network) {request : PendingInboundJoinRequest}
    (kept : request ∈ network'.inboundJoinRequests → ComesFrom network.inboundJoinRequests request)
    (mem : request ∈ (networks.set j network')[i]?.elim [] NetworkConfig.inboundJoinRequests) :
    ComesFrom (networks[i]?.elim [] NetworkConfig.inboundJoinRequests) request := by
  rw [List.getElem?_set] at mem
  split_ifs at mem with here inside
  · subst here
    rw [at']
    exact kept mem
  · cases mem
  · exact comesFrom_of_mem mem

theorem requests_edit {action : RosterEditAction} {key : String} {network network' : NetworkConfig}
    (changed : action.edit key network = .ok network') :
    network'.inboundJoinRequests = network.inboundJoinRequests := by
  cases action <;> simp only [RosterEditAction.edit] at changed
  · exact (Except.ok.inj changed) ▸ rfl
  · split_ifs at changed
    exact (Except.ok.inj changed) ▸ rfl
  · exact (Except.ok.inj changed) ▸ rfl
  · split_ifs at changed
    exact (Except.ok.inj changed) ▸ rfl

theorem requests_mergeInvite (own : Option String) (keys : InviteKeys) (reset : Bool)
    (network : NetworkConfig) :
    (mergeInvite own keys reset network).inboundJoinRequests = network.inboundJoinRequests := by
  simp only [mergeInvite, resetMembership]
  split_ifs <;> rfl

theorem comesFrom_target {now : Nat} {invite : NetworkInvite} {base : AppConfig} {id : String}
    {reset : Bool} {i : Nat} {request : PendingInboundJoinRequest}
    (target : InviteTarget sdk now s.config invite base id reset)
    (mem : request ∈ base.cores[i]?.elim [] NetworkConfig.inboundJoinRequests) :
    ComesFrom (requestsAt s.config i) request := by
  rw [requestsAt_cores]
  cases target with
  | known _ => exact comesFrom_of_mem mem
  | adopted _ _ => exact comesFrom_of_mem mem
  | added _ _ =>
    rw [(addNetwork_spec s.config invite.networkName).2.1, List.getElem?_append] at mem
    split_ifs at mem
    · exact comesFrom_of_mem mem
    · generalize i - s.config.cores.length = j at mem
      cases j with
      | zero => cases mem
      | succ j => cases mem

theorem config_apply_record (s : LoadedConfig) (networkId requester name : String) (requestedAt : Nat) :
    ((ConfigOp.recordInboundJoinRequest networkId requester name requestedAt).apply sdk sha256 s).config =
      (s.config.recordInboundJoinRequest sdk networkId requester name requestedAt).2 := by
  simp only [ConfigOp.apply, ConfigOp.outcome]

/-- A request that is not recorded leaves the networks alone. -/
theorem networks_of_not_recording {networkId requester name : String} {requestedAt : Nat}
    (none' : (ConfigOp.recordInboundJoinRequest networkId requester name requestedAt).recording sdk s = none) :
    (s.config.recordInboundJoinRequest sdk networkId requester name requestedAt).2.networks =
      s.config.networks := by
  unfold AppConfig.recordInboundJoinRequest
  dsimp only
  split_ifs with unnamed
  · rfl
  · simp only [ConfigOp.recording, unnamed, if_false, normalPubkey?] at none'
    cases parsed : normalizeNostrPubkey sdk requester with
    | error e => rfl
    | ok key =>
      cases found : s.config.networks.find?
          (NetworkConfig.listensAt (normalizeRuntimeNetworkId networkId)) with
      | none => rfl
      | some network =>
        obtain ⟨i, first, at', -⟩ := modifyFirst_eq_set found fun network => network
        simp only [parsed, toOption_ok, Option.bind_eq_bind, Option.bind_some, first, at'] at none'
        split_ifs at none' with participant
        simp only [participant, if_true]

/-- A request that is recorded goes on the list of one network. -/
theorem networks_of_recording {networkId requester name key : String} {requestedAt time i : Nat}
    (recording : (ConfigOp.recordInboundJoinRequest networkId requester name requestedAt).recording sdk s =
      some (i, key, time)) :
    time = requestedAt ∧ normalPubkey? sdk requester = some key ∧ ∃ network, s.config.networks[i]? = some network ∧
      key ∉ network.participants ∧
      (s.config.recordInboundJoinRequest sdk networkId requester name requestedAt).2.networks =
        s.config.networks.set i (network.withJoinRequest key (trim name) requestedAt) := by
  simp only [ConfigOp.recording] at recording
  split_ifs at recording with unnamed
  simp only [Option.bind_eq_bind, Option.bind_eq_some_iff] at recording
  obtain ⟨key', parsed, j, first, network, at', recording⟩ := recording
  split_ifs at recording with participant
  obtain ⟨rfl, rfl, rfl⟩ := Option.some.inj recording
  have found := find?_of_findIdx? first at'
  have parsed' : normalizeNostrPubkey sdk requester = .ok key :=
    normalizeNostrPubkey_eq_ok.mpr (normalPubkey?_eq_some.mp parsed)
  obtain ⟨k, first', -, changed⟩ := modifyFirst_eq_set found
    (NetworkConfig.withJoinRequest key (trim name) requestedAt)
  obtain rfl := Option.some.inj (first'.symm.trans first)
  exact ⟨rfl, parsed, network, at', participant,
    (networks_recordInboundJoinRequest unnamed parsed' found participant).trans changed⟩

/-- Every operation that records no request only drops requests. -/
theorem comesFrom_apply (tidy : ∀ network ∈ s.config.networks, TidyRequests sdk network)
    (plain : op.recording sdk s = none) {i : Nat} {request : PendingInboundJoinRequest}
    (mem : request ∈ requestsAt (op.apply sdk sha256 s).config i) :
    ComesFrom (requestsAt s.config (op.position sdk sha256 s i)) request := by
  by_cases removes : ∃ id, op = .removeNetwork id
  · obtain ⟨id, rfl⟩ := removes
    rw [requestsAt_removeNetwork] at mem
    exact comesFrom_of_mem mem
  by_cases records : ∃ networkId requester name requestedAt,
      op = .recordInboundJoinRequest networkId requester name requestedAt
  · obtain ⟨networkId, requester, name, requestedAt, rfl⟩ := records
    rw [config_apply_record, requestsAt_congr (networks_of_not_recording plain)] at mem
    exact comesFrom_of_mem mem
  have here : op.position sdk sha256 s i = i := by
    cases op with
    | removeNetwork id => exact absurd ⟨id, rfl⟩ removes
    | _ => rfl
  rw [here]
  have effect := @effect_apply sdk sha256 s op
  rw [requestsAt_cores] at mem
  generalize (op.apply sdk sha256 s).config = after at effect mem
  rw [requestsAt_cores]
  cases effect with
  | silent _ same cores => exact comesFrom_of_mem (cores ▸ mem)
  | added same fresh cores =>
    rw [cores, List.getElem?_append] at mem
    split_ifs at mem
    · exact comesFrom_of_mem mem
    · generalize i - s.config.cores.length = j at mem
      cases j with
      | zero => cases mem
      | succ j => cases mem
  | removed several present same networks => exact absurd ⟨_, rfl⟩ removes
  | switched first same cores =>
    rw [cores, requestsAt_enableAt] at mem
    exact comesFrom_of_mem mem
  | recorded same parsed first at' outside recorded networks => exact absurd ⟨_, _, _, _, rfl⟩ records
  | edited same parsed first at' changed cores =>
    rw [cores_normalize, cores] at mem
    refine comesFrom_set (getElem?_cores at') (fun kept => ?_) mem
    exact comesFrom_of_mem (requests_edit changed ▸ kept)
  | aliased stored same cores => exact comesFrom_of_mem (cores ▸ mem)
  | accepted passes named some' =>
    obtain ⟨j, -, at', cores⟩ := @cores_acceptSharedRoster sdk sha256 s.config _ _ passes.found _ _
    rw [cores] at mem
    refine comesFrom_set (getElem?_cores at') (fun kept => ?_) mem
    exact old_of_mem_normalize (tidy _ (List.mem_of_getElem? at')).normal kept
  | importFailed parsed target first unnamed =>
    rw [cores_enableOnly, requestsAt_enableAt] at mem
    have older := comesFrom_target target mem
    rwa [requestsAt_cores] at older
  | @imported now invite keys base after id reset j network parsed target first named at' same cores =>
    rw [cores] at mem
    have at'' : (enableAt j base.cores)[j]? = some { network.core with enabled := true } := by
      rw [enableAt, List.getElem?_mapIdx, getElem?_cores at', Option.map_some, beq_self_eq_true]
    have merged := comesFrom_set at'' (fun kept => comesFrom_of_mem
      (requests_mergeInvite (s.config.ownPubkey sdk) keys reset _ ▸ kept)) mem
    rw [requestsAt_enableAt] at merged
    have older := merged.trans fun old listed => comesFrom_target target listed
    rwa [requestsAt_cores] at older
  | defaulted =>
    obtain ⟨j, cores⟩ := @cores_ensureDefaults sdk sha256 _ s.config
    rw [cores, requestsAt_enableAt, List.getElem?_map] at mem
    rw [← requestsAt_cores]
    cases made : (ensureNetworks sdk _ 1 [] s.config.networks)[i]? with
    | none =>
      rw [made] at mem
      cases mem
    | some network =>
      rw [made] at mem
      obtain ⟨old, at', ordinal, used, rfl⟩ := getElem?_ensureNetworks made
      rw [requestsAt, at']
      exact old_of_mem_normalize (tidy _ (List.mem_of_getElem? at')).normal mem

/-- A step after which no participant has a pending request has added none that had one. -/
theorem keepsRequests_of_outside
    (outside : ∀ network ∈ (op.apply sdk sha256 s).config.networks,
      ∀ request ∈ network.inboundJoinRequests, request.requester ∉ network.participants) :
    op.KeepsRequests sdk s := by
  have refuse {core : NetworkConfig} {participant : String}
      (mem : core ∈ (op.apply sdk sha256 s).config.cores) (member : participant ∈ core.participants) :
      ¬ HasRequest core.inboundJoinRequests participant := by
    obtain ⟨network, listed, rfl⟩ := List.mem_map.mp mem
    rintro pending
    obtain ⟨request, asked, rfl⟩ := List.mem_map.mp pending
    exact outside network listed request asked member
  cases op with
  | editRoster now id action participant =>
    cases action with
    | AddParticipant =>
      intro key parsed network found pending
      have parsed' : normalizeNostrPubkey sdk participant = .ok key :=
        normalizeNostrPubkey_eq_ok.mpr (normalPubkey?_eq_some.mp parsed)
      obtain ⟨between, edited⟩ := @editNetwork_eq_ok sdk now s.config id (RosterEditAction.AddParticipant.edit key)
        network _ found rfl rfl
      obtain ⟨-, i, network', network'', first, at', changed, cores⟩ := editNetwork_spec edited
      obtain rfl := Option.some.inj (found.symm.trans (find?_of_findIdx? first at'))
      have outcome : s.config.editRoster sdk sha256 now id .AddParticipant participant =
          .ok (RosterEditAction.AddParticipant.normalize sdk sha256 between) := by
        simp only [AppConfig.editRoster, parsed', AppConfig.addParticipantToNetwork]
        exact congrArg (Except.map _) edited
      have applied : ((ConfigOp.editRoster now id .AddParticipant participant).apply sdk sha256 s).config.cores =
          between.cores := by
        simp only [ConfigOp.apply, ConfigOp.outcome, outcome, toOption_ok, Option.getD_some, cores_normalize]
      obtain ⟨inside, -⟩ := List.getElem?_eq_some_iff.mp (getElem?_cores at')
      have listed : network''.core ∈
          ((ConfigOp.editRoster now id .AddParticipant participant).apply sdk sha256 s).config.cores := by
        rw [applied, cores]
        exact List.mem_set inside _
      obtain rfl := Except.ok.inj changed
      exact refuse listed (mem_addKey.mpr (Or.inr rfl)) pending
    | _ => trivial
  | importInvite now invite =>
    intro named keys parsed id configured network found participant listed other pending
    rcases import_cases sdk sha256 now s.config invite with
      ⟨e, failed, -⟩ | ⟨keys', base, id', reset, i, parsed', target, first, eq⟩
    · rw [failed] at parsed
      cases parsed
    · rw [parsed'] at parsed
      obtain rfl : keys' = keys := Option.some.inj parsed
      rcases configuredTarget_of_target target with ⟨configured', rfl⟩ | ⟨unconfigured, -⟩
      · obtain rfl : id' = id := Option.some.inj (configured'.symm.trans configured)
        obtain ⟨network', at', cores⟩ := cores_imported target first _ _
        obtain rfl := Option.some.inj (found.symm.trans (find?_of_findIdx? first at'))
        rw [if_neg named] at eq
        have applied : ((ConfigOp.importInvite now invite).apply sdk sha256 s).config.cores = _ :=
          (congrArg AppConfig.cores (congrArg Prod.snd eq)).trans cores
        have inside : i < (enableAt i s.config.cores).length := by
          simpa [enableAt] using (List.getElem?_eq_some_iff.mp (getElem?_cores at')).1
        refine @refuse _ participant (applied ▸ List.mem_set inside _) ?_ ?_
        · simp [mergeInvite, listed, other]
        · rw [requests_mergeInvite]
          exact pending
      · rw [unconfigured] at configured
        cases configured
  | _ => trivial

end Lists

/-! ## Runs -/

section Runs
variable {sdk : NostrSdk} {sha256 : Sha256}

/-- What a run keeps of the log: the times of a request that is not pending are forgotten. -/
structure LogSettled (sdk : NostrSdk) (log : RequestLog) : Prop where
  tidy : ∀ network ∈ log.state.config.networks, TidyRequests sdk network
  latest : ∀ i, ∀ request ∈ requestsAt log.state.config i,
    (log.times i request.requester).max? = some request.requestedAt
  forgotten : ∀ i requester, ¬ HasRequest (requestsAt log.state.config i) requester →
    log.times i requester = []

theorem LogSettled.requestInvariant {log : RequestLog} (settled : LogSettled sdk log) :
    RequestInvariant log where
  orderly network mem := (settled.tidy network mem).orderly
  outside network mem := (settled.tidy network mem).outside
  latest := settled.latest

/-- The latest time after one more recorded request, on the list that the request is put on. -/
theorem latest_record {log : RequestLog} (settled : LogSettled sdk log) {i : Nat} {network : NetworkConfig}
    (at' : log.state.config.networks[i]? = some network) {key name : String} {requestedAt : Nat}
    {request : PendingInboundJoinRequest}
    (mem : request ∈ (network.withJoinRequest key name requestedAt).inboundJoinRequests) :
    (log.times i request.requester ++ if key = request.requester then [requestedAt] else []).max? =
      some request.requestedAt := by
  have here : requestsAt log.state.config i = network.inboundJoinRequests := by rw [requestsAt, at']; rfl
  have latest := settled.latest i
  have forgotten := settled.forgotten i
  rw [here] at latest forgotten
  rcases (settled.tidy network (List.mem_of_getElem? at')).orderly.of_mem_record mem with
    ⟨other, old⟩ | ⟨rfl, ⟨new, time⟩ | ⟨old, listed, same, time⟩⟩
  · rw [if_neg (Ne.symm other), List.append_nil]
    exact latest request old
  · rw [if_pos rfl, forgotten _ new, time]
    rfl
  · rw [if_pos rfl, max?_append_singleton, ← same, latest old listed, Option.elim_some, time]

theorem latest_log {log : RequestLog} (settled : LogSettled sdk log) (op : ConfigOp) {i : Nat}
    {request : PendingInboundJoinRequest}
    (mem : request ∈ requestsAt (op.apply sdk sha256 log.state).config i) :
    ((op.log sdk sha256 log).times i request.requester).max? = some request.requestedAt := by
  have pending : HasRequest (requestsAt (op.apply sdk sha256 log.state).config i) request.requester :=
    hasRequest_of_mem mem
  simp only [ConfigOp.log, pending, if_true]
  cases recording : op.recording sdk log.state with
  | none =>
    obtain ⟨old, listed, requester, time⟩ := comesFrom_apply settled.tidy recording mem
    have latest := settled.latest _ old listed
    rw [requester, time] at latest
    simpa using latest
  | some recorded =>
    obtain ⟨j, key, time⟩ := recorded
    cases op with
    | recordInboundJoinRequest networkId requester name requestedAt =>
      obtain ⟨rfl, -, network, at', -, networks⟩ := networks_of_recording recording
      rw [← @config_apply_record sdk sha256] at networks
      generalize (ConfigOp.apply sdk sha256 log.state _).config = after at mem networks
      rw [requestsAt, networks, List.getElem?_set] at mem
      simp only [ConfigOp.position]
      split_ifs at mem with here inside
      · subst here
        have latest := latest_record settled at' mem
        split_ifs at latest with mine <;> simpa [Option.filter, mine] using latest
      · cases mem
      · have latest := settled.latest i request mem
        simpa [Option.filter, here] using latest
    | _ => cases recording

theorem logSettled_log (lawful : sdk.Lawful) {log : RequestLog} (settled : LogSettled sdk log)
    {op : ConfigOp} (keeps : op.KeepsRequests sdk log.state) :
    LogSettled sdk (op.log sdk sha256 log) where
  tidy := tidyRequests_apply lawful settled.tidy keeps
  latest _ _ := latest_log settled op
  forgotten _ _ absent := if_neg absent

/-- Filling in the defaults normalises the requests of every network for its participants. -/
theorem requests_ensureDefaults {generated : Generated} {config : AppConfig} {i : Nat}
    {network : NetworkConfig}
    (at' : (config.ensureDefaults sdk sha256 generated).networks[i]? = some network) :
    network.inboundJoinRequests =
      normalizeInboundJoinRequests sdk (requestsAt config i) network.participants := by
  obtain ⟨j, cores⟩ := @cores_ensureDefaults sdk sha256 generated config
  have core := getElem?_cores at'
  rw [cores, enableAt, List.getElem?_mapIdx, List.getElem?_map, Option.map_map, Option.map_eq_some_iff] at core
  obtain ⟨filled, made, eq⟩ := core
  obtain ⟨old, before, ordinal, used, rfl⟩ := getElem?_ensureNetworks made
  have participants := congrArg NetworkConfig.participants eq
  have requests := congrArg NetworkConfig.inboundJoinRequests eq
  rw [requestsAt, before]
  exact requests.symm.trans (congrArg (normalizeInboundJoinRequests sdk old.inboundJoinRequests) participants)

theorem logSettled_load (lawful : sdk.Lawful) (generated : Generated) (fields : AppConfig)
    (networks : List NetworkConfig) : LogSettled sdk (.load sdk sha256 generated fields networks) where
  tidy network listed := by
    obtain ⟨i, at'⟩ := List.getElem?_of_mem listed
    exact tidyRequests_of_normalized lawful (requests_ensureDefaults at')
  latest i request mem := by
    have raw : requestsAt { fields with
        networks := if networks = [] then [defaultNetwork] else networks
        networks_ne := by split_ifs <;> simp_all } i =
          networks[i]?.elim [] NetworkConfig.inboundJoinRequests := by
      rw [requestsAt]
      split_ifs with none'
      · subst none'
        cases i <;> rfl
      · rfl
    have state : (RequestLog.load sdk sha256 generated fields networks).state =
        .load sdk sha256 generated fields networks := rfl
    rw [requestsAt, state] at mem
    cases at' : (LoadedConfig.load sdk sha256 generated fields networks).config.networks[i]? with
    | none =>
      rw [at'] at mem
      cases mem
    | some network =>
      have pending : HasRequest (requestsAt (LoadedConfig.load sdk sha256 generated fields networks).config i)
          request.requester := by
        rw [requestsAt]
        exact hasRequest_of_mem mem
      rw [at'] at mem
      have normalized := requests_ensureDefaults at'
      rw [raw] at normalized
      rw [Option.elim_some] at mem
      simp only [RequestLog.load, pending, if_true]
      exact (of_mem_normalize (normalized ▸ mem)).2
  forgotten _ _ absent := if_neg absent

/-- In a run from a loaded file the lists of requests are orderly, without participants and with the latest
times at every state exactly when no step makes a participant of somebody whose request is pending. -/
theorem join_requests_are_tidy_iff {sdk : NostrSdk} (lawful : sdk.Lawful) (sha256 : Sha256)
    (generated : Generated) (fields : AppConfig) (networks : List NetworkConfig) (ops : List ConfigOp) :
    (RequestInvariant (.load sdk sha256 generated fields networks) ∧
      Along (ConfigOp.log sdk sha256) (fun log op => RequestInvariant (op.log sdk sha256 log))
        (.load sdk sha256 generated fields networks) ops) ↔
      Along (ConfigOp.log sdk sha256) (fun log op => op.KeepsRequests sdk log.state)
        (.load sdk sha256 generated fields networks) ops := by
  have loaded := @logSettled_load sdk sha256 lawful generated fields networks
  have steps := @along_congr _ _ (ConfigOp.log sdk sha256) (LogSettled sdk)
    (fun log op => RequestInvariant (op.log sdk sha256 log)) (fun log op => op.KeepsRequests sdk log.state)
    (.load sdk sha256 generated fields networks) ops
    (fun log op _ settled => ⟨fun invariant => keepsRequests_of_outside invariant.outside,
      fun keeps => (logSettled_log lawful settled keeps).requestInvariant⟩)
    (fun log op _ settled keeps => logSettled_log lawful settled keeps) loaded
  exact ⟨fun both => steps.mp both.2, fun keeps => ⟨loaded.requestInvariant, steps.mpr keeps⟩⟩

end Runs

/-! ## A participant with a pending request -/

/-- The second sample key asks to join the network of the first one, which then adds it. -/
def admittedOps : List ConfigOp :=
  [.recordInboundJoinRequest "mesh-work" "c6047f9441ed7d6d3045406e95c07cd85c778e4b8cef3ca7abac09b95c709ee5"
     "phone" 100,
   .editRoster 200 "network-1" .AddParticipant
     "c6047f9441ed7d6d3045406e95c07cd85c778e4b8cef3ca7abac09b95c709ee5"]

/-- After the second step a participant has a request pending. -/
theorem admitted_request_stays :
    ¬ RequestInvariant (run (ConfigOp.log sampleSdk sampleSha256)
      (.load sampleSdk sampleSha256 sampleGenerated sampleRosterConfig twoNetworks) admittedOps) := by
  intro invariant
  have kept : ¬ ∀ network ∈ (run (ConfigOp.log sampleSdk sampleSha256) (.load sampleSdk sampleSha256
      sampleGenerated sampleRosterConfig twoNetworks) admittedOps).state.config.networks,
      ∀ request ∈ network.inboundJoinRequests, request.requester ∉ network.participants := by
    decide +kernel
  exact kept invariant.outside

/-- A request is recorded twice, out of order, before the defaults are filled in. -/
def settledOps : List ConfigOp :=
  [.recordInboundJoinRequest "mesh-work" "c6047f9441ed7d6d3045406e95c07cd85c778e4b8cef3ca7abac09b95c709ee5"
     "phone" 100,
   .recordInboundJoinRequest "mesh-work" "c6047f9441ed7d6d3045406e95c07cd85c778e4b8cef3ca7abac09b95c709ee5"
     "phone" 90,
   .ensureDefaults sampleGenerated]

theorem join_requests_are_tidy_of_ops :
    RequestInvariant (.load sampleSdk sampleSha256 sampleGenerated sampleRosterConfig twoNetworks) ∧
      Along (ConfigOp.log sampleSdk sampleSha256)
        (fun log op => RequestInvariant (op.log sampleSdk sampleSha256 log))
        (.load sampleSdk sampleSha256 sampleGenerated sampleRosterConfig twoNetworks) settledOps :=
  (join_requests_are_tidy_iff sampleSdk_lawful sampleSha256 sampleGenerated sampleRosterConfig twoNetworks
    settledOps).mpr ⟨trivial, trivial, trivial, trivial⟩

end NostrVpn.Invite
