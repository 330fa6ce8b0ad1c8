import NostrVpn.Core.MeshIds
import NostrVpn.Invite.InviteImport
import NostrVpn.Transition

/-!
# Routing by mesh id

Which network of a configuration a roster and a join request reach when they are addressed to the
active network's effective id, after any sequence of operations. Nothing stops an operation from giving
two networks one mesh id, so the result is for the runs in which none does.
-/
namespace NostrVpn.Invite

open Rust NostrVpn.Core Transition

variable {sdk : NostrSdk} {sha256 : Sha256} {config : AppConfig}

/-! ## The network that a message reaches -/

/-- The position of the active network. -/
def activeIndex (config : AppConfig) : Nat :=
  (config.networks.findIdx? fun network => network.enabled).getD 0

theorem getElem?_activeIndex (config : AppConfig) :
    config.networks[activeIndex config]? = some config.activeNetwork := by
  unfold activeIndex AppConfig.activeNetwork
  cases first : config.networks.findIdx? fun network => network.enabled with
  | some i =>
    obtain ⟨inside, -⟩ := List.findIdx?_eq_some_iff_getElem.mp first
    have at' := List.getElem?_eq_getElem inside
    simp [find?_of_findIdx? first at']
  | none =>
    have none' : (config.networks.find? fun network => network.enabled) = none := by
      simpa [List.find?_eq_none, List.findIdx?_eq_none_iff] using first
    rw [none']
    simp [List.head_eq_getElem, List.getElem?_eq_getElem (List.length_pos_iff.mpr config.networks_ne)]

/-- A predicate that selects the active network, and beside it none with another mesh id, first finds
the active network. -/
theorem findIdx?_active (apart : Apart config.addresses) {p : NetworkConfig → Bool}
    (selected : p config.activeNetwork)
    (only : ∀ network, p network → network.hasMeshId config.effectiveNetworkId) :
    config.networks.findIdx? p = some (activeIndex config) := by
  obtain ⟨inside, active⟩ := List.getElem?_eq_some_iff.mp (getElem?_activeIndex config)
  refine List.findIdx?_eq_some_iff_getElem.mpr ⟨inside, by rwa [active], fun j before other => ?_⟩
  have distinct := List.pairwise_iff_getElem.mp apart.distinct j (activeIndex config)
    (by simp [AppConfig.addresses]; omega) (by simpa [AppConfig.addresses] using inside) before
  have meshId := only _ other
  simp only [AppConfig.addresses, List.getElem_map, active, Distinct, NetworkConfig.address] at distinct
  exact distinct.2 (by simpa [NetworkConfig.hasMeshId, AppConfig.effectiveNetworkId] using meshId)

/-- A roster for the effective id, signed in time by an admin of the active network and later than its
stored roster, is stored in the active network and nowhere else. -/
def RosterReaches (sdk : NostrSdk) (sha256 : Sha256) (config : AppConfig) : Prop :=
  ∀ (now : UInt64) (update : SharedRosterUpdate) (signer : String) (participants : List String),
    update.networkId = config.effectiveNetworkId →
    normalizeNostrPubkey sdk update.signedBy = .ok signer → signer ∈ config.activeNetwork.admins →
    config.activeNetwork.sharedRosterUpdatedAt < update.signedAt →
    update.signedAt ≤ saturatingAdd now.toNat maxSharedRosterFutureSecs →
    normalizeSharedRosterParticipants sdk update.participants (config.ownPubkey sdk) =
      .ok participants →
    let admins := normalizeNetworkAdmins sdk update.admins (config.ownPubkey sdk)
      config.activeNetwork.inviteInviter
    admins ≠ [] →
    let applied := config.applyAdminSignedSharedRoster sdk sha256 now update
    applied.1 = .ok true ∧ ∀ i, applied.2.networks[i]? =
      if i = activeIndex config then
        some (config.activeNetwork.acceptRoster sdk update signer participants admins)
      else config.networks[i]?

/-- A join request for the effective id, of somebody who is no participant of the active network, is on
the list of the active network if that listens, and nothing else changes. -/
def JoinRequestReaches (sdk : NostrSdk) (config : AppConfig) : Prop :=
  ∀ (requester key name : String) (requestedAt : Nat),
    config.activeNetwork.listenForJoinRequests →
    normalizeNostrPubkey sdk requester = .ok key → key ∉ config.activeNetwork.participants →
    let after := (config.recordInboundJoinRequest sdk config.effectiveNetworkId requester name
      requestedAt).2
    ∃ requests, (∃ request ∈ requests, request.requester = key ∧
        request.requesterNodeName = trim name ∧ requestedAt ≤ request.requestedAt) ∧
      ∀ i, after.networks[i]? = if i = activeIndex config then
        some { config.activeNetwork with inboundJoinRequests := requests } else config.networks[i]?

structure Routes (sdk : NostrSdk) (sha256 : Sha256) (config : AppConfig) : Prop where
  roster : RosterReaches sdk sha256 config
  joinRequest : JoinRequestReaches sdk config

/-- The effective id of a network kept apart is the one that the receiver looks for. -/
theorem plain_effectiveNetworkId (apart : Apart config.addresses) :
    PlainMeshId config.effectiveNetworkId := by
  have mem : config.activeNetwork.address ∈ config.addresses :=
    List.mem_map_of_mem config.activeNetwork_mem
  have plain := apart.plain config.activeNetwork.address mem
  simpa only [NetworkConfig.address, AppConfig.effectiveNetworkId] using plain

theorem rosterReaches_of_apart (apart : Apart config.addresses) : RosterReaches sdk sha256 config := by
  intro now update signer participants addressed signed admin newer inTime parsed admins some' applied
  obtain ⟨nonempty, plain⟩ := plain_effectiveNetworkId apart
  have first := findIdx?_active apart (p := NetworkConfig.hasMeshId config.effectiveNetworkId)
    (by simp [NetworkConfig.hasMeshId, AppConfig.effectiveNetworkId]) fun _ => id
  have found : config.networks.find? (NetworkConfig.hasMeshId config.effectiveNetworkId) =
      some config.activeNetwork := find?_of_findIdx? first (getElem?_activeIndex config)
  have stored : applied = (.ok true, config.acceptSharedRoster sdk sha256 config.effectiveNetworkId
      (config.activeNetwork.acceptRoster sdk update signer participants admins) update.aliases) := by
    simp only [applied, AppConfig.applyAdminSignedSharedRoster, addressed, plain, nonempty, if_false,
      signed, Nat.not_lt.mpr inTime, found, admin, not_true_eq_false, Nat.not_le.mpr newer, parsed]
    exact if_neg some'
  rw [stored]
  refine ⟨rfl, fun i => ?_⟩
  rw [networks_acceptSharedRoster, getElem?_modifyFirst_findIdx first]
  split_ifs with here
  · rw [here, getElem?_activeIndex]
    rfl
  · rfl

theorem joinRequestReaches_of_apart (apart : Apart config.addresses) :
    JoinRequestReaches sdk config := by
  intro requester key name requestedAt listens parsed outside after
  obtain ⟨nonempty, plain⟩ := plain_effectiveNetworkId apart
  have first := findIdx?_active apart (p := NetworkConfig.listensAt config.effectiveNetworkId)
    (by simp [NetworkConfig.listensAt, NetworkConfig.hasMeshId, AppConfig.effectiveNetworkId, listens])
    fun _ selected => (Bool.and_eq_true_iff.mp selected).2
  have found : config.networks.find? (NetworkConfig.listensAt config.effectiveNetworkId) =
      some config.activeNetwork := find?_of_findIdx? first (getElem?_activeIndex config)
  have recorded := @networks_recordInboundJoinRequest sdk config config.effectiveNetworkId
    requester key name requestedAt config.activeNetwork
    (by rwa [plain]) parsed (by rw [plain]; exact found) outside
  refine ⟨_, mem_recordRequest config.activeNetwork.inboundJoinRequests key (trim name) requestedAt,
    fun i => ?_⟩
  rw [recorded, plain, getElem?_modifyFirst_findIdx first]
  split_ifs with here
  · rw [here, getElem?_activeIndex]
    rfl
  · rfl

theorem routes_of_apart (apart : Apart config.addresses) : Routes sdk sha256 config :=
  ⟨rosterReaches_of_apart apart, joinRequestReaches_of_apart apart⟩

/-! ## An import keeps the networks apart -/

section Import
variable {now : Nat} {invite : NetworkInvite}

theorem addresses_importMembers (own : Option String) (keys : InviteKeys) (id : String)
    (reset shouldAdoptName inviterAlreadyConfigured : Bool) :
    (importMembers sdk sha256 now own keys invite id reset shouldAdoptName inviterAlreadyConfigured
      config).addresses = config.addresses := by
  have merged : (config.modifyNetwork id (mergeInvite own keys reset)).addresses = config.addresses := by
    refine addresses_modifyNetwork id fun network => ?_
    simp only [mergeInvite, resetMembership]
    split_ifs <;> rfl
  rw [← merged]
  unfold importMembers AppConfig.addresses
  dsimp only
  split_ifs
  · refine Eq.trans ?_ (@addresses_setPeerAlias sdk sha256 _ now keys.inviter
      invite.inviterNodeName)
    exact addresses_modifyNetwork id fun _ => rfl
  · exact addresses_modifyNetwork id fun _ => rfl
  · exact addresses_setPeerAlias _ _ _
  · rfl

theorem mem_ids_addresses {id : String} :
    id ∈ config.networks.map NetworkConfig.id ↔ id ∈ config.addresses.map Prod.fst := by
  simp [AppConfig.addresses, NetworkConfig.address]

/-- The network an import goes to has a name of its own: no other network has the mesh id. -/
theorem inviteTarget_cases (apart : Apart config.addresses) :
    ∃ id reset after, inviteTarget sdk now config invite = (.ok (id, reset), after) ∧
      id ∈ after.addresses.map Prod.fst ∧
      ((after.addresses = config.addresses ∧ ∀ address ∈ config.addresses, address.1 ≠ id →
          normalizeRuntimeNetworkId address.2 ≠ normalizeRuntimeNetworkId invite.networkId) ∨
        after.addresses = config.addresses ++ [(id, defaultNetworkId)] ∧
          id ∉ config.addresses.map Prod.fst ∧ ∀ address ∈ config.addresses,
            normalizeRuntimeNetworkId address.2 ≠ normalizeRuntimeNetworkId invite.networkId) := by
  unfold inviteTarget
  cases found : config.networks.find?
      (NetworkConfig.hasMeshId (normalizeRuntimeNetworkId invite.networkId)) with
  | some existing =>
    have meshId := meshId_of_find found
    have mem : existing.address ∈ config.addresses :=
      List.mem_map_of_mem (List.mem_of_find?_eq_some found)
    refine ⟨_, _, _, rfl, List.mem_map_of_mem mem, Or.inl ⟨rfl, fun address mem' other => ?_⟩⟩
    have distinct := apart.distinct.forall mem' mem fun same =>
      other (congrArg Prod.fst same)
    rw [← meshId]
    exact distinct.2
  | none =>
    have free : ∀ address ∈ config.addresses,
        normalizeRuntimeNetworkId address.2 ≠ normalizeRuntimeNetworkId invite.networkId := by
      intro address mem
      obtain ⟨network, listed, rfl⟩ := List.mem_map.mp mem
      simpa [NetworkConfig.hasMeshId, NetworkConfig.address] using
        List.find?_eq_none.mp found network listed
    by_cases adopt : networkShouldAdoptInvite config.activeNetwork
    · simp only [adopt, if_true]
      exact ⟨_, _, _, rfl, mem_ids_addresses.mp (List.mem_map_of_mem config.activeNetwork_mem),
        Or.inl ⟨rfl, fun address mem _ => free address mem⟩⟩
    · simp only [adopt, Bool.false_eq_true, if_false]
      have added := @addresses_addNetwork sdk config now invite.networkName
      have fresh := @fst_addNetwork_notMem sdk config now invite.networkName
      generalize config.addNetwork sdk now invite.networkName = entry at added fresh
      obtain ⟨id, after⟩ := entry
      have mem : id ∈ after.addresses.map Prod.fst := by simp [added]
      obtain ⟨index, enabled⟩ := AppConfig.setNetworkEnabled_true (mem_ids_addresses.mpr mem)
      simp only [enabled]
      refine ⟨_, _, _, rfl, ?_, Or.inr ⟨?_, fresh, free⟩⟩
      · rwa [addresses_enableOnly]
      · rw [addresses_enableOnly, added]

theorem Apart.applyNetworkInvite (apart : Apart config.addresses)
    (plain : PlainMeshId (normalizeRuntimeNetworkId invite.networkId)) :
    Apart (applyNetworkInviteToActiveNetwork sdk sha256 now config invite).2.addresses := by
  unfold applyNetworkInviteToActiveNetwork
  cases inviteKeys sdk invite with
  | error e => exact apart
  | ok keys =>
    obtain ⟨id, reset, target, eq, mem, which⟩ := @inviteTarget_cases sdk config now
      invite apart
    obtain ⟨index, enabled⟩ := AppConfig.setNetworkEnabled_true (mem_ids_addresses.mpr mem)
    have mem' : id ∈ (target.enableOnly index).networks.map NetworkConfig.id := by
      rw [mem_ids_addresses, addresses_enableOnly]
      exact mem
    have renamed := AppConfig.setNetworkMeshId_ok mem' plain.1
    simp only [eq, enabled, renamed, addresses_importMembers, addresses_modifyNetwork_networkId,
      addresses_enableOnly]
    rcases which with ⟨same, free⟩ | ⟨added, fresh, free⟩
    · rw [same]
      exact apart.setMeshId (by rw [plain.2]; exact plain) (by rwa [plain.2])
    · rw [added, setMeshId_concat fresh]
      exact apart.concat fresh (by rw [plain.2]; exact plain) (by rwa [plain.2])

end Import

/-! ## Sequences of operations -/

inductive ConfigCall where
  | addNetwork (now : Nat) (name : String)
  | setNetworkMeshId (id meshId : String)
  | setNetworkEnabled (id : String) (enabled : Bool)
  | importInvite (now : Nat) (invite : NetworkInvite)
  | load (generated : Generated) (fields : AppConfig) (networks : List NetworkConfig)
  | applyRoster (now : UInt64) (update : SharedRosterUpdate)
  | recordJoinRequest (networkId requester name : String) (requestedAt : Nat)

/-- The configuration after a call, whether the call succeeds or not. -/
def ConfigCall.apply (sdk : NostrSdk) (sha256 : Sha256) (config : AppConfig) : ConfigCall → AppConfig
  | .addNetwork now name => (config.addNetwork sdk now name).2
  | .setNetworkMeshId id meshId => (config.setNetworkMeshId id meshId).toOption.getD config
  | .setNetworkEnabled id enabled => (config.setNetworkEnabled id enabled).toOption.getD config
  | .importInvite now invite =>
    (applyNetworkInviteToActiveNetwork sdk sha256 now config invite).2
  | .load generated fields networks => AppConfig.load sdk sha256 generated fields networks
  | .applyRoster now update => (config.applyAdminSignedSharedRoster sdk sha256 now update).2
  | .recordJoinRequest networkId requester name requestedAt =>
    (config.recordInboundJoinRequest sdk networkId requester name requestedAt).2

def HasDistinctMeshIds (config : AppConfig) : Prop :=
  (config.networks.map fun network => normalizeRuntimeNetworkId network.networkId).Nodup ∧
    ∀ network ∈ config.networks, PlainMeshId (normalizeRuntimeNetworkId network.networkId)

instance : Decidable (HasDistinctMeshIds config) := inferInstanceAs (Decidable (_ ∧ _))

/-- No network but the one with this entry id has the mesh id. -/
def MeshIdFree (config : AppConfig) (id : String) (meshId : String) : Prop :=
  PlainMeshId meshId ∧ ∀ network ∈ config.networks, network.id ≠ id → ¬ network.hasMeshId meshId

instance (id meshId : String) : Decidable (MeshIdFree config id meshId) :=
  inferInstanceAs (Decidable (_ ∧ _))

/-- The call gives no network a mesh id that another one has, nor one that changes when it is normalised
again; a file is loaded in which that holds. -/
def ConfigCall.GivesFreshMeshId (sdk : NostrSdk) (sha256 : Sha256) (config : AppConfig) :
    ConfigCall → Prop
  | .addNetwork _ _ => ∀ network ∈ config.networks, ¬ network.hasMeshId defaultNetworkId
  | .setNetworkMeshId id meshId => normalizeRuntimeNetworkId meshId ≠ "" →
      MeshIdFree config id (normalizeRuntimeNetworkId (normalizeRuntimeNetworkId meshId))
  | .importInvite _ invite => PlainMeshId (normalizeRuntimeNetworkId invite.networkId)
  | .load generated fields networks =>
      HasDistinctMeshIds (AppConfig.load sdk sha256 generated fields networks)
  | .setNetworkEnabled _ _ | .applyRoster _ _ | .recordJoinRequest _ _ _ _ => True

theorem apart_load {generated : Generated} {fields : AppConfig} {networks : List NetworkConfig}
    (fresh : (ConfigCall.load generated fields networks).GivesFreshMeshId sdk sha256 config) :
    Apart (AppConfig.load sdk sha256 generated fields networks).addresses := by
  obtain ⟨distinct, plain⟩ := fresh
  have ids := AppConfig.nodup_ids_ensureDefaults sdk sha256 generated { fields with
    networks := if networks = [] then [defaultNetwork] else networks
    networks_ne := by split_ifs <;> simp_all }
  rw [← AppConfig.load] at ids
  constructor
  · rw [AppConfig.addresses, List.pairwise_map]
    exact (List.pairwise_map.mp ids).and (List.pairwise_map.mp distinct)
  · intro address mem
    obtain ⟨network, listed, rfl⟩ := List.mem_map.mp mem
    exact plain network listed

theorem Apart.call {call : ConfigCall} (apart : Apart config.addresses)
    (fresh : call.GivesFreshMeshId sdk sha256 config) : Apart (call.apply sdk sha256 config).addresses := by
  cases call with
  | addNetwork now name =>
    rw [ConfigCall.apply, addresses_addNetwork]
    have plain : normalizeRuntimeNetworkId defaultNetworkId = defaultNetworkId := by decide +kernel
    refine apart.concat (fst_addNetwork_notMem now name) ?_ fun address mem => ?_
    · rw [plain]
      exact ⟨by decide +kernel, plain⟩
    · obtain ⟨network, listed, rfl⟩ := List.mem_map.mp mem
      simpa [NetworkConfig.hasMeshId, NetworkConfig.address, plain] using fresh network listed
  | setNetworkMeshId id meshId =>
    rw [ConfigCall.apply]
    cases renamed : config.setNetworkMeshId id meshId with
    | error e => exact apart
    | ok after =>
      obtain ⟨named, addresses⟩ := addresses_setNetworkMeshId renamed
      obtain ⟨plain, free⟩ := fresh named
      rw [toOption_ok, Option.getD_some, addresses]
      refine apart.setMeshId plain fun address mem other => ?_
      obtain ⟨network, listed, rfl⟩ := List.mem_map.mp mem
      simpa [NetworkConfig.hasMeshId, NetworkConfig.address] using free network listed other
  | setNetworkEnabled id enabled =>
    rw [ConfigCall.apply]
    cases switched : config.setNetworkEnabled id enabled with
    | error e => exact apart
    | ok after => rwa [toOption_ok, Option.getD_some, addresses_setNetworkEnabled switched]
  | importInvite now invite => exact Apart.applyNetworkInvite apart fresh
  | load generated fields networks => exact apart_load fresh
  | applyRoster now update => rwa [ConfigCall.apply, addresses_apply]
  | recordJoinRequest networkId requester name requestedAt =>
    rwa [ConfigCall.apply, addresses_recordInboundJoinRequest]

/-- After a file with distinct mesh ids is loaded, and any calls that give out no mesh id twice, messages
for the active network reach it. -/
theorem routes_of_fresh_meshIds (sdk : NostrSdk) (sha256 : Sha256) (generated : Generated)
    (fields : AppConfig) (networks : List NetworkConfig) (config : AppConfig) (calls : List ConfigCall)
    (fresh : Along (ConfigCall.apply sdk sha256) (fun config call => call.GivesFreshMeshId sdk sha256 config)
      config (.load generated fields networks :: calls)) :
    Routes sdk sha256 (run (ConfigCall.apply sdk sha256) config (.load generated fields networks :: calls)) := by
  refine routes_of_apart ?_
  exact @invariant _ _ _ (fun config => Apart config.addresses) _ (fun _ _ => Apart.call) _ _
    (apart_load fresh.1) fresh.2

/-! ## Two networks with one mesh id -/

def sampleGenerated : Generated where
  nostrIdentity := ("nsec1", "f9308a019258c31049344f85f89d5229b531c845836f99b08601f113bce036f9")
  nodeId := "node-1"
  keyPair := ("private", "public")

/-- Two networks of the first sample key, of which the second one is active. -/
def twoNetworks : List NetworkConfig :=
  [{ id := "network-1", name := "Work", enabled := false, networkId := "mesh-work",
     admins := samplePubkeys.take 1 },
   { id := "network-2", name := "Home", networkId := "mesh-home", admins := samplePubkeys.take 1 }]

def loadTwoNetworks : ConfigCall := .load sampleGenerated sampleRosterConfig twoNetworks

/-- The inactive network gets the mesh id of the active one. -/
def sharedMeshConfig : AppConfig :=
  run (ConfigCall.apply sampleSdk sampleSha256) sampleRosterConfig
    [loadTwoNetworks, .setNetworkMeshId "network-1" "mesh-home"]

/-- A roster for the active network goes to the other one. -/
theorem roster_misses_active : ¬ Routes sampleSdk sampleSha256 sharedMeshConfig := by
  intro routes
  have reached := (routes.roster 200 (sampleRoster 100
    "c6047f9441ed7d6d3045406e95c07cd85c778e4b8cef3ca7abac09b95c709ee5")
    "79be667ef9dcbbac55a06295ce870b07029bfcdb2dce28d959f2815b16f81798" _ (by decide +kernel) rfl
    (by decide +kernel) (by decide +kernel) (by decide +kernel) rfl (by decide +kernel)).2 1
  have here : activeIndex sharedMeshConfig = 1 := by decide +kernel
  rw [here, if_pos rfl] at reached
  have stored := congrArg (Option.map NetworkConfig.sharedRosterUpdatedAt) reached
  have missed : (sharedMeshConfig.applyAdminSignedSharedRoster sampleSdk sampleSha256 200
      (sampleRoster 100 "c6047f9441ed7d6d3045406e95c07cd85c778e4b8cef3ca7abac09b95c709ee5")).2.networks[1]?.map
        NetworkConfig.sharedRosterUpdatedAt = some 0 := by decide +kernel
  rw [missed] at stored
  exact absurd (Option.some.inj stored) (by decide)

/-- Another mesh id, a new network and an import, with every mesh id given once. -/
def freshCalls : List ConfigCall :=
  [.setNetworkMeshId "network-1" "mesh-lab", .addNetwork 100 "Guests", .importInvite 100 sampleInvite]

theorem routes_of_fresh_meshIds_of_freshCalls :
    Routes sampleSdk sampleSha256 (run (ConfigCall.apply sampleSdk sampleSha256) sampleRosterConfig
      (loadTwoNetworks :: freshCalls)) :=
  routes_of_fresh_meshIds sampleSdk sampleSha256 sampleGenerated sampleRosterConfig twoNetworks
    sampleRosterConfig freshCalls
    ⟨(by decide +kernel : HasDistinctMeshIds (AppConfig.load sampleSdk sampleSha256 sampleGenerated
        sampleRosterConfig twoNetworks)),
      fun _ => (by decide +kernel : MeshIdFree _ "network-1" "mesh-lab"),
      (by decide +kernel : ∀ network ∈ AppConfig.networks _, ¬ network.hasMeshId defaultNetworkId),
      (by decide +kernel : PlainMeshId _), trivial⟩

end NostrVpn.Invite
