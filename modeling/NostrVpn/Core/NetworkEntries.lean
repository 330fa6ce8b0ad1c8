import NostrVpn.Core.EnsureDefaults
import NostrVpn.Core.JoinRequests
import NostrVpn.Core.RosterEdits
import NostrVpn.Core.RosterGuards

/-!
# The networks of a configuration

The methods of `nostr-vpn-core/src/config.rs` that rename and remove a network and switch its join
requests, and what every method does to the list of networks: `cores` is that list without names, mesh ids
and stamps.
-/
namespace NostrVpn.Core

open Rust

/-- The first network is enabled when none is. -/
def promoteFirst (networks : List NetworkConfig) : List NetworkConfig :=
  if networks.any NetworkConfig.enabled then networks
  else networks.modifyHead fun network => { network with enabled := true }

@[simp] theorem length_promoteFirst (networks : List NetworkConfig) :
    (promoteFirst networks).length = networks.length := by
  unfold promoteFirst
  split_ifs <;> simp

/-- `remove_network` on the list of networks. Nothing in it keeps the list from getting empty when two
networks share an entry id. -/
def removeNetworkEntry (id : String) (networks : List NetworkConfig) :
    Except String (List NetworkConfig) :=
  if networks.length ≤ 1 then .error "at least one network is required"
  else
    let rest := networks.filter fun network => !network.hasEntryId id
    if rest.length = networks.length then .error "network not found" else .ok (promoteFirst rest)

theorem removeNetworkEntry_eq_ok {id : String} {networks after : List NetworkConfig} :
    removeNetworkEntry id networks = .ok after ↔
      1 < networks.length ∧ id ∈ networks.map NetworkConfig.id ∧
        after = promoteFirst (networks.filter fun network => !network.hasEntryId id) := by
  have found : (networks.filter fun network => !network.hasEntryId id).length = networks.length ↔
      id ∉ networks.map NetworkConfig.id := by
    simp [List.length_filter_eq_length_iff, NetworkConfig.hasEntryId, List.mem_map]
  simp only [removeNetworkEntry, found]
  split_ifs <;> grind

theorem length_filter_hasEntryId {id : String} {networks : List NetworkConfig}
    (distinct : (networks.map NetworkConfig.id).Nodup) :
    (networks.filter (NetworkConfig.hasEntryId id)).length ≤ 1 := by
  refine length_filter_le_one fun i a at' selected j b at'' selected' => ?_
  obtain ⟨inside, -⟩ := List.getElem?_eq_some_iff.mp at'
  refine (List.getElem?_inj (by simpa using inside) distinct).mp ?_
  simp only [List.getElem?_map, at', at'', Option.map_some]
  simp only [NetworkConfig.hasEntryId, beq_iff_eq] at selected selected'
  rw [selected, selected']

/-- With distinct entry ids only one network goes, so one stays. -/
theorem removeNetworkEntry_ne_nil {id : String} {networks after : List NetworkConfig}
    (distinct : (networks.map NetworkConfig.id).Nodup)
    (removed : removeNetworkEntry id networks = .ok after) : after ≠ [] := by
  obtain ⟨several, -, rfl⟩ := removeNetworkEntry_eq_ok.mp removed
  have one := @length_filter_hasEntryId id networks distinct
  have all := networks.length_eq_length_filter_add (NetworkConfig.hasEntryId id)
  rw [← List.length_pos_iff, length_promoteFirst]
  omega

namespace AppConfig

def renameNetwork (sdk : NostrSdk) (now : Nat) (config : AppConfig) (id name : String) :
    Except String AppConfig :=
  if isBlank name then .error "network name cannot be empty"
  else config.editNetwork sdk now id fun network => .ok { network with name := trim name }

def removeNetwork (sdk : NostrSdk) (sha256 : Sha256) (config : AppConfig)
    (distinct : (config.networks.map NetworkConfig.id).Nodup) (id : String) : Except String AppConfig :=
  match removed : removeNetworkEntry id config.networks with
  | .error e => .error e
  | .ok rest =>
    let config : AppConfig := { config with
      networks := rest
      networks_ne := removeNetworkEntry_ne_nil distinct removed }
    .ok (config.normalizeSelectedExitNode.normalizePeerAliases sdk sha256)

def setNetworkJoinRequestsEnabled (config : AppConfig) (id : String) (enabled : Bool) :
    Except String AppConfig :=
  match config.networkById id with
  | none => .error "network not found"
  | some _ => .ok (config.modifyNetwork id fun network => { network with listenForJoinRequests := enabled })

def enabledNetworkCount (config : AppConfig) : Nat := config.networks.countP NetworkConfig.enabled

end AppConfig

/-! ## The networks without their names -/

/-- A network without its name, its mesh id, its stamp and whether it listens for requests. -/
def NetworkConfig.core (network : NetworkConfig) : NetworkConfig := { network with
  name := "", networkId := "", listenForJoinRequests := true, sharedRosterUpdatedAt := 0,
  sharedRosterSignedBy := "" }

def AppConfig.cores (config : AppConfig) : List NetworkConfig := config.networks.map NetworkConfig.core

/-- A network that an operation has just added. -/
def addedCore (id : String) : NetworkConfig := { id, enabled := false }

/-- The settings beside the networks that the operations on networks read and write. -/
structure SameSettings (config after : AppConfig) : Prop where
  nodeName : after.nodeName = config.nodeName
  nostr : after.nostr = config.nostr
  exitNode : after.exitNode = config.exitNode
  peerAliases : after.peerAliases = config.peerAliases

theorem SameSettings.refl (config : AppConfig) : SameSettings config config := ⟨rfl, rfl, rfl, rfl⟩

theorem SameSettings.trans {config between after : AppConfig} (first : SameSettings config between)
    (second : SameSettings between after) : SameSettings config after where
  nodeName := second.nodeName.trans first.nodeName
  nostr := second.nostr.trans first.nostr
  exitNode := second.exitNode.trans first.exitNode
  peerAliases := second.peerAliases.trans first.peerAliases

theorem SameSettings.ownPubkey {config after : AppConfig} (same : SameSettings config after)
    (sdk : NostrSdk) : after.ownPubkey sdk = config.ownPubkey sdk := by
  simp only [AppConfig.ownPubkey, AppConfig.ownNostrPubkeyHex, same.nostr]

/-! ## What the operations do to the networks -/

section Cores
variable {sdk : NostrSdk} {sha256 : Sha256} {now : Nat} {config after : AppConfig} {id : String}

theorem ids_cores (config : AppConfig) :
    config.cores.map NetworkConfig.id = config.networks.map NetworkConfig.id := by
  simp [AppConfig.cores, Function.comp_def, NetworkConfig.core]

/-- A change of the network with an entry id, at its position. -/
theorem cores_modifyNetwork {network : NetworkConfig} (found : config.networkById id = some network)
    (f : NetworkConfig → NetworkConfig) :
    ∃ i, config.networks.findIdx? (NetworkConfig.hasEntryId id) = some i ∧
      config.networks[i]? = some network ∧
      (config.modifyNetwork id f).cores = config.cores.set i (f network).core := by
  obtain ⟨i, first, at', changed⟩ := modifyFirst_eq_set found f
  refine ⟨i, first, at', ?_⟩
  rw [AppConfig.cores, AppConfig.networks_modifyNetwork, changed, List.map_set]
  rfl

/-- Putting the core of a network back in its place. -/
theorem set_core_self {i : Nat} {network : NetworkConfig} (at' : config.networks[i]? = some network) :
    config.cores.set i network.core = config.cores := by
  have here : config.cores[i]? = some network.core := by
    rw [AppConfig.cores, List.getElem?_map, at', Option.map_some]
  refine List.ext_getElem? fun j => ?_
  rw [List.getElem?_set]
  grind

theorem cores_modifyNetwork_self (id : String) {f : NetworkConfig → NetworkConfig}
    (h : ∀ network, (f network).core = network.core) : (config.modifyNetwork id f).cores = config.cores :=
  map_modifyFirst_eq_self NetworkConfig.core fun network _ => h network

theorem sameSettings_modifyNetwork (id : String) (f : NetworkConfig → NetworkConfig) :
    SameSettings config (config.modifyNetwork id f) := ⟨rfl, rfl, rfl, rfl⟩

theorem noteNetworkRosterLocalChange_spec
    (noted : config.noteNetworkRosterLocalChange sdk now id = .ok after) :
    SameSettings config after ∧ after.cores = config.cores := by
  unfold AppConfig.noteNetworkRosterLocalChange at noted
  split at noted
  · cases noted
  · split at noted
    · obtain rfl := Except.ok.inj noted
      exact ⟨.refl _, rfl⟩
    · split_ifs at noted
      · obtain rfl := Except.ok.inj noted
        exact ⟨sameSettings_modifyNetwork _ _, cores_modifyNetwork_self id fun _ => by
        simp only [NetworkConfig.core]⟩
      · obtain rfl := Except.ok.inj noted
        exact ⟨.refl _, rfl⟩

theorem noteRosterChange_spec (config : AppConfig) (id : String) :
    SameSettings config (config.noteRosterChange sdk now id) ∧
      (config.noteRosterChange sdk now id).cores = config.cores := by
  unfold AppConfig.noteRosterChange
  cases noted : config.noteNetworkRosterLocalChange sdk now id with
  | error e => exact ⟨.refl _, rfl⟩
  | ok after => exact noteNetworkRosterLocalChange_spec noted

theorem foldl_noteRosterChange_spec (ids : List String) (config : AppConfig) :
    SameSettings config (ids.foldl (AppConfig.noteRosterChange sdk now) config) ∧
      (ids.foldl (AppConfig.noteRosterChange sdk now) config).cores = config.cores := by
  induction ids generalizing config with
  | nil => exact ⟨.refl _, rfl⟩
  | cons id ids ih =>
    obtain ⟨first, cores⟩ := @noteRosterChange_spec sdk now config id
    obtain ⟨rest, cores'⟩ := ih (config.noteRosterChange sdk now id)
    exact ⟨first.trans rest, cores'.trans cores⟩

theorem addNetwork_spec (config : AppConfig) (name : String) :
    SameSettings config (config.addNetwork sdk now name).2 ∧
      (config.addNetwork sdk now name).2.cores =
        config.cores ++ [addedCore (config.addNetwork sdk now name).1] ∧
      (config.addNetwork sdk now name).1 ∉ config.networks.map NetworkConfig.id := by
  unfold AppConfig.addNetwork
  dsimp only
  refine ⟨SameSettings.trans ?_ (noteRosterChange_spec _ _).1, ?_, uniquifyNetworkEntryId_notMem _ _⟩
  · exact ⟨rfl, rfl, rfl, rfl⟩
  · rw [(noteRosterChange_spec _ _).2]
    simp [AppConfig.cores, NetworkConfig.core, addedCore]

/-- An edit changes one network, which it is given. -/
theorem editNetwork_spec {edit : NetworkConfig → Except String NetworkConfig}
    (edited : config.editNetwork sdk now id edit = .ok after) :
    SameSettings config after ∧ ∃ i network network',
      config.networks.findIdx? (NetworkConfig.hasEntryId id) = some i ∧
      config.networks[i]? = some network ∧ edit network = .ok network' ∧
      after.cores = config.cores.set i network'.core := by
  unfold AppConfig.editNetwork at edited
  cases found : config.networkById id with
  | none => rw [found] at edited; cases edited
  | some network =>
    cases changed : edit network with
    | error e => simp only [found, changed] at edited; cases edited
    | ok network' =>
      simp only [found, changed] at edited
      obtain ⟨same, cores⟩ := noteNetworkRosterLocalChange_spec edited
      obtain ⟨i, first, at', stored⟩ := cores_modifyNetwork found fun _ => network'
      exact ⟨(sameSettings_modifyNetwork _ _).trans same, i, network, network', first, at', changed,
        cores.trans stored⟩

/-- An edit that keeps the entry id succeeds when the network is there and the edit does. -/
theorem editNetwork_eq_ok {edit : NetworkConfig → Except String NetworkConfig} {network network' : NetworkConfig}
    (found : config.networkById id = some network) (changed : edit network = .ok network')
    (same : network'.id = network.id) : ∃ after, config.editNetwork sdk now id edit = .ok after := by
  have here : network.id = id := by simpa [NetworkConfig.hasEntryId] using List.find?_some found
  have stored := @AppConfig.networkById_modifyNetwork config id (fun _ => network') fun _ _ => same.trans here
  rw [found, Option.map_some] at stored
  simp only [AppConfig.editNetwork, found, changed, AppConfig.noteNetworkRosterLocalChange, stored]
  cases (config.modifyNetwork id fun _ => network').ownPubkey sdk with
  | none => exact ⟨_, rfl⟩
  | some own =>
    dsimp only
    split_ifs
    · exact ⟨_, rfl⟩
    · exact ⟨_, rfl⟩

theorem renameNetwork_spec {name : String} (renamed : config.renameNetwork sdk now id name = .ok after) :
    SameSettings config after ∧ after.cores = config.cores := by
  unfold AppConfig.renameNetwork at renamed
  split_ifs at renamed
  obtain ⟨same, i, network, network', -, at', changed, cores⟩ := editNetwork_spec renamed
  obtain rfl := Except.ok.inj changed
  have kept := set_core_self at'
  exact ⟨same, cores.trans kept⟩

theorem setNetworkMeshId_spec {meshId : String} (renamed : config.setNetworkMeshId id meshId = .ok after) :
    SameSettings config after ∧ after.cores = config.cores := by
  simp only [AppConfig.setNetworkMeshId] at renamed
  split at renamed
  · cases renamed
  · split at renamed
    · cases renamed
    · obtain rfl := Except.ok.inj renamed
      exact ⟨sameSettings_modifyNetwork _ _, cores_modifyNetwork_self id fun _ => by
        simp only [NetworkConfig.core]⟩

theorem setNetworkJoinRequestsEnabled_spec {enabled : Bool}
    (switched : config.setNetworkJoinRequestsEnabled id enabled = .ok after) :
    SameSettings config after ∧ after.cores = config.cores := by
  unfold AppConfig.setNetworkJoinRequestsEnabled at switched
  split at switched
  · cases switched
  · obtain rfl := Except.ok.inj switched
    exact ⟨sameSettings_modifyNetwork _ _, cores_modifyNetwork_self id fun _ => by
        simp only [NetworkConfig.core]⟩

/-- Enable the network at the index, and no other one. -/
def enableAt (index : Nat) (networks : List NetworkConfig) : List NetworkConfig :=
  networks.mapIdx fun i network => { network with enabled := i == index }

theorem cores_enableOnly (config : AppConfig) (index : Nat) :
    (config.enableOnly index).cores = enableAt index config.cores := by
  refine List.ext_getElem? fun i => ?_
  simp [AppConfig.cores, AppConfig.enableOnly, enableAt, List.getElem?_mapIdx, NetworkConfig.core,
    Function.comp_def]

/-- Switching to a network enables it alone; switching an inactive network off does nothing. -/
theorem setNetworkEnabled_spec {enabled : Bool}
    (switched : config.setNetworkEnabled id enabled = .ok after) :
    SameSettings config after ∧ ∃ i, config.networks.findIdx? (NetworkConfig.hasEntryId id) = some i ∧
      after.cores = if enabled then enableAt i config.cores else config.cores := by
  unfold AppConfig.setNetworkEnabled at switched
  split at switched
  · rename_i i network first found
    split_ifs at switched with on active
    · obtain rfl := Except.ok.inj switched
      exact ⟨⟨rfl, rfl, rfl, rfl⟩, i, first, by rw [cores_enableOnly, if_pos on]⟩
    · obtain rfl := Except.ok.inj switched
      obtain ⟨j, first', at', stored⟩ := cores_modifyNetwork found fun network =>
        { network with enabled := false }
      refine ⟨sameSettings_modifyNetwork _ _, i, first, ?_⟩
      have off : { network with enabled := false } = network := by
        rw [← Bool.eq_false_iff.mpr active]
      rw [if_neg on, stored]
      simp only [off]
      exact set_core_self at'
  · cases switched

theorem removeNetwork_spec {distinct : (config.networks.map NetworkConfig.id).Nodup}
    (removed : config.removeNetwork sdk sha256 distinct id = .ok after) :
    1 < config.networks.length ∧ id ∈ config.networks.map NetworkConfig.id ∧
      ∃ between, SameSettings config between ∧
        between.networks = promoteFirst (config.networks.filter fun network => !network.hasEntryId id) ∧
        after = between.normalizeSelectedExitNode.normalizePeerAliases sdk sha256 := by
  unfold AppConfig.removeNetwork at removed
  split at removed
  · cases removed
  · rename_i rest eq
    obtain ⟨several, present, rfl⟩ := removeNetworkEntry_eq_ok.mp eq
    refine ⟨several, present, _, ?_, ?_, (Except.ok.inj removed).symm⟩
    · exact ⟨rfl, rfl, rfl, rfl⟩
    · rfl

/-- A join request is put on the list of the first network that listens for it, unless it comes from a
participant of that network or is nothing new. -/
theorem recordInboundJoinRequest_spec (networkId requester name : String) (requestedAt : Nat) :
    let after := (config.recordInboundJoinRequest sdk networkId requester name requestedAt).2
    SameSettings config after ∧ (after.networks = config.networks ∨ ∃ key i network requests,
      normalizeNostrPubkey sdk requester = .ok key ∧
      config.networks.findIdx? (NetworkConfig.listensAt (normalizeRuntimeNetworkId networkId)) = some i ∧
      config.networks[i]? = some network ∧ key ∉ network.participants ∧
      recordRequest network.inboundJoinRequests key (trim name) requestedAt = some requests ∧
      after.networks = config.networks.set i { network with inboundJoinRequests := requests }) := by
  unfold AppConfig.recordInboundJoinRequest
  dsimp only
  split
  · exact ⟨.refl _, Or.inl rfl⟩
  split
  · exact ⟨.refl _, Or.inl rfl⟩
  rename_i key parsed
  split
  · exact ⟨.refl _, Or.inl rfl⟩
  rename_i network found
  split
  · exact ⟨.refl _, Or.inl rfl⟩
  rename_i outside
  split
  · exact ⟨.refl _, Or.inl rfl⟩
  rename_i requests recorded
  obtain ⟨i, first, at', changed⟩ := modifyFirst_eq_set found fun network =>
    { network with inboundJoinRequests := requests }
  exact ⟨⟨rfl, rfl, rfl, rfl⟩, Or.inr ⟨key, i, network, requests, parsed, first, at', outside, recorded,
    changed⟩⟩

/-- A roster that passes every check replaces one network. -/
theorem applyRoster_cases (sdk : NostrSdk) (sha256 : Sha256) (now : UInt64) (config : AppConfig)
    (update : SharedRosterUpdate) :
    (config.applyAdminSignedSharedRoster sdk sha256 now update).2 = config ∨
      ∃ signer network participants, RosterPasses sdk now config update signer network participants ∧
        normalizeNetworkAdmins sdk update.admins (config.ownPubkey sdk) network.inviteInviter ≠ [] ∧
        (config.applyAdminSignedSharedRoster sdk sha256 now update).2 =
          config.acceptSharedRoster sdk sha256 (normalizeRuntimeNetworkId update.networkId)
            (network.acceptRoster sdk update signer participants
              (normalizeNetworkAdmins sdk update.admins (config.ownPubkey sdk) network.inviteInviter))
            update.aliases := by
  by_cases passes : ∃ signer network participants,
      RosterPasses sdk now config update signer network participants
  · obtain ⟨signer, network, participants, passes⟩ := passes
    have outcome := @apply_of_passes sdk sha256 now config update signer network participants passes
    split_ifs at outcome with headless
    · exact Or.inl (congrArg Prod.snd outcome)
    · exact Or.inr ⟨signer, network, participants, passes, headless, congrArg Prod.snd outcome⟩
  · simp only [not_exists] at passes
    exact Or.inl (apply_of_not_passes passes).2

theorem cores_acceptSharedRoster {meshId : String} {network : NetworkConfig}
    (found : config.networks.find? (NetworkConfig.hasMeshId meshId) = some network)
    (accepted : NetworkConfig) (aliases : HashMap String String) :
    ∃ i, config.networks.findIdx? (NetworkConfig.hasMeshId meshId) = some i ∧
      config.networks[i]? = some network ∧
      (config.acceptSharedRoster sdk sha256 meshId accepted aliases).cores =
        config.cores.set i accepted.core := by
  obtain ⟨i, first, at', changed⟩ := modifyFirst_eq_set found fun _ => accepted
  refine ⟨i, first, at', ?_⟩
  rw [AppConfig.cores, networks_acceptSharedRoster, changed, List.map_set]
  rfl

/-! ## Edits of a roster and of the aliases -/

/-- What an edit of a roster does to its network. -/
def RosterEditAction.edit (key : String) : RosterEditAction → NetworkConfig → Except String NetworkConfig
  | .AddParticipant, network => .ok { network with participants := addKey key network.participants }
  | .RemoveParticipant, network =>
    if network.admins.length = 1 ∧ network.admins.contains key then .error "cannot remove the last admin"
    else .ok { network.withoutAdmin key with participants := network.participants.filter (· ≠ key) }
  | .AddAdmin, network => .ok { network with
      admins := addKey key network.admins
      inviteInviter := if network.inviteInviter = "" then key else network.inviteInviter }
  | .RemoveAdmin, network =>
    if network.admins.length ≤ 1 then .error "cannot remove the last admin"
    else .ok (network.withoutAdmin key)

/-- What follows an edit: the edits of participants also assign the aliases again. -/
def RosterEditAction.normalize (sdk : NostrSdk) (sha256 : Sha256) (config : AppConfig) :
    RosterEditAction → AppConfig
  | .AddParticipant | .RemoveParticipant =>
    config.normalizeSelectedExitNode.normalizePeerAliases sdk sha256
  | .AddAdmin | .RemoveAdmin => config.normalizeSelectedExitNode

/-- A roster edit changes one network, or it removes somebody who is no admin. -/
theorem editRoster_cases {action : RosterEditAction} {participant : String}
    (edited : config.editRoster sdk sha256 now id action participant = .ok after) :
    ∃ key, normalizeNostrPubkey sdk participant = .ok key ∧
      ((after = config ∧ action = .RemoveAdmin ∧
          ∃ network, config.networkById id = some network ∧ key ∉ network.admins) ∨
        ∃ between, config.editNetwork sdk now id (action.edit key) = .ok between ∧
          after = action.normalize sdk sha256 between) := by
  unfold AppConfig.editRoster at edited
  cases parsed : normalizeNostrPubkey sdk participant with
  | error e => rw [parsed] at edited; cases edited
  | ok key =>
    rw [parsed] at edited
    refine ⟨key, rfl, ?_⟩
    have mapped {normalize : AppConfig → AppConfig} {outcome : Except String AppConfig}
        (ok : outcome.map normalize = .ok after) : ∃ between, outcome = .ok between ∧
          after = normalize between := by
      cases outcome with
      | error e => cases ok
      | ok between => exact ⟨between, rfl, (Except.ok.inj ok).symm⟩
    cases action with
    | AddParticipant => exact Or.inr (mapped edited)
    | RemoveParticipant => exact Or.inr (mapped edited)
    | AddAdmin => exact Or.inr (mapped edited)
    | RemoveAdmin =>
      simp only [AppConfig.removeAdminFromNetwork] at edited
      split_ifs at edited with stranger
      · obtain ⟨network, found, absent⟩ := (Option.any_eq_true _ _).mp stranger
        exact Or.inl ⟨(Except.ok.inj edited).symm, rfl, network, found, by simpa using absent⟩
      · exact Or.inr (mapped edited)

/-- The alias table that `set_peer_alias` normalises, unless it refuses. -/
def AppConfig.aliasEdit (sdk : NostrSdk) (config : AppConfig) (participant alias' : String) :
    Option (HashMap String String) :=
  match normalizeNostrPubkey sdk participant with
  | .error _ => none
  | .ok hex =>
    if hex ∉ config.allNetworkMemberPubkeysHex then none
    else if isBlank alias' then some (config.peerAliases.erase (npubForPubkeyHex sdk hex))
    else (normalizeMagicDnsLabel (trim alias')).map fun label =>
      config.peerAliases.insert (npubForPubkeyHex sdk hex) label

theorem setPeerAlias_eq (config : AppConfig) (participant alias' : String) :
    ∃ ids : List String, (config.setPeerAlias sdk sha256 now participant alias').2 =
      (config.aliasEdit sdk participant alias').elim config fun aliases =>
        ids.foldl (AppConfig.noteRosterChange sdk now)
          (({ config with peerAliases := aliases } : AppConfig).normalizePeerAliases sdk sha256) := by
  unfold AppConfig.setPeerAlias AppConfig.aliasEdit
  cases normalizeNostrPubkey sdk participant with
  | error e => exact ⟨[], rfl⟩
  | ok hex =>
    dsimp only
    refine ⟨(config.networks.filter (NetworkConfig.hasMember hex)).map NetworkConfig.id, ?_⟩
    split_ifs
    · rfl
    · cases normalizeMagicDnsLabel (trim alias') <;> rfl
    · rfl

end Cores

end NostrVpn.Core
