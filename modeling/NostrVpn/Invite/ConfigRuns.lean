import NostrVpn.Core.NetworkEntries
import NostrVpn.Invite.InviteImport
import NostrVpn.Transition

/-!
# Runs of configuration operations

The operations of the configuration and the import of an invite as one machine. Its states are
configurations whose networks have distinct entry ids, which loading gives them.
-/
namespace NostrVpn.Invite

open Rust NostrVpn.Core Transition

-- Terms with texts are compared without reading the texts.
attribute [local irreducible] String.toList

/-! ## What an import does -/

/-- The configuration, the entry id and whether its members are dropped of the network an invite goes to. -/
inductive InviteTarget (sdk : NostrSdk) (now : Nat) (config : AppConfig) (invite : NetworkInvite) :
    AppConfig → String → Bool → Prop where
  | known {existing : NetworkConfig} (found : config.networks.find? (NetworkConfig.hasMeshId
      (normalizeRuntimeNetworkId invite.networkId)) = some existing) :
    InviteTarget sdk now config invite config existing.id false
  | adopted (unknown : config.networks.find? (NetworkConfig.hasMeshId
      (normalizeRuntimeNetworkId invite.networkId)) = none)
      (unused : networkShouldAdoptInvite config.activeNetwork) :
    InviteTarget sdk now config invite config config.activeNetwork.id true
  | added (unknown : config.networks.find? (NetworkConfig.hasMeshId
      (normalizeRuntimeNetworkId invite.networkId)) = none)
      (used : ¬ networkShouldAdoptInvite config.activeNetwork) :
    InviteTarget sdk now config invite (config.addNetwork sdk now invite.networkName).2
      (config.addNetwork sdk now invite.networkName).1 true

section Import
variable {sdk : NostrSdk} {sha256 : Sha256} {now : Nat} {config base : AppConfig} {invite : NetworkInvite}
  {id : String} {reset : Bool}

theorem enableOnly_enableOnly (config : AppConfig) (i j : Nat) :
    (config.enableOnly i).enableOnly j = config.enableOnly j := by
  simp [AppConfig.enableOnly, List.mapIdx_mapIdx, Function.comp_def]

theorem InviteTarget.id_mem (target : InviteTarget sdk now config invite base id reset) :
    id ∈ base.networks.map NetworkConfig.id := by
  cases target with
  | known found => exact List.mem_map_of_mem (List.mem_of_find?_eq_some found)
  | adopted _ _ => exact List.mem_map_of_mem config.activeNetwork_mem
  | added _ _ =>
    rw [← ids_cores, (addNetwork_spec config invite.networkName).2.1]
    simp [addedCore]

theorem setNetworkEnabled_of_mem (mem : id ∈ config.networks.map NetworkConfig.id) :
    ∃ i, config.networks.findIdx? (NetworkConfig.hasEntryId id) = some i ∧
      config.setNetworkEnabled id true = .ok (config.enableOnly i) := by
  obtain ⟨network, found⟩ := Option.isSome_iff_exists.mp (AppConfig.networkById_isSome.mpr mem)
  obtain ⟨i, first, -⟩ := modifyFirst_eq_set found fun network => network
  exact ⟨i, first, by simp [AppConfig.setNetworkEnabled, first, found]⟩

theorem findIdx?_hasEntryId_enableOnly (config : AppConfig) (i : Nat) (id : String) :
    (config.enableOnly i).networks.findIdx? (NetworkConfig.hasEntryId id) =
      config.networks.findIdx? (NetworkConfig.hasEntryId id) := by
  have seen : NetworkConfig.hasEntryId id = (· == id) ∘ NetworkConfig.id := rfl
  rw [seen, ← List.findIdx?_map, ← List.findIdx?_map, ids_enableOnly]

/-- A network is switched to without a change of what else is known of it. -/
theorem any_networkById_enableOnly (config : AppConfig) (i : Nat) (id : String)
    {p : NetworkConfig → Bool} (h : ∀ network, p { network with enabled := true } = p network) :
    ((config.enableOnly i).networkById id).any p = (config.networkById id).any p := by
  have enabled (networks : List NetworkConfig) : (networks.find? (NetworkConfig.hasEntryId id)).any p =
      ((networks.map fun network => { network with enabled := true }).find?
        (NetworkConfig.hasEntryId id)).any p := by
    rw [List.find?_map, Option.any_map]
    exact congrArg (Option.any · _) (funext fun network => (h network).symm)
  have same : (config.enableOnly i).networks.map (fun network => { network with enabled := true }) =
      config.networks.map fun network => { network with enabled := true } :=
    List.ext_getElem? fun j => by simp [AppConfig.enableOnly, List.getElem?_mapIdx, Function.comp_def]
  rw [AppConfig.networkById, AppConfig.networkById, enabled, same, ← enabled]

theorem inviteTarget_spec (sdk : NostrSdk) (now : Nat) (config : AppConfig) (invite : NetworkInvite) :
    ∃ base id reset i, InviteTarget sdk now config invite base id reset ∧
      base.networks.findIdx? (NetworkConfig.hasEntryId id) = some i ∧
      ∃ target, inviteTarget sdk now config invite = (.ok (id, reset), target) ∧
        (target = base ∨ target = base.enableOnly i) := by
  unfold inviteTarget
  cases found : config.networks.find? (NetworkConfig.hasMeshId
      (normalizeRuntimeNetworkId invite.networkId)) with
  | some existing =>
    have target : InviteTarget sdk now config invite config existing.id false := .known found
    obtain ⟨i, first, -⟩ := setNetworkEnabled_of_mem target.id_mem
    exact ⟨_, _, _, i, target, first, _, rfl, Or.inl rfl⟩
  | none =>
    dsimp only
    split_ifs with unused
    · have target : InviteTarget sdk now config invite config config.activeNetwork.id true :=
        .adopted found unused
      obtain ⟨i, first, -⟩ := setNetworkEnabled_of_mem target.id_mem
      exact ⟨_, _, _, i, target, first, _, rfl, Or.inl rfl⟩
    · have target := @InviteTarget.added sdk now config invite found unused
      obtain ⟨i, first, enabled⟩ := setNetworkEnabled_of_mem target.id_mem
      exact ⟨_, _, _, i, target, first, _, by rw [enabled], Or.inr rfl⟩

/-- The outcome of an import by its causes: a bad key, a blank mesh id after a network has been switched
to, or the steps of the import. -/
theorem import_cases (sdk : NostrSdk) (sha256 : Sha256) (now : Nat) (config : AppConfig)
    (invite : NetworkInvite) :
    (∃ e, inviteKeys sdk invite = .error e ∧
      applyNetworkInviteToActiveNetwork sdk sha256 now config invite = (.error e, config)) ∨
    ∃ keys base id reset i, inviteKeys sdk invite = .ok keys ∧
      InviteTarget sdk now config invite base id reset ∧
      base.networks.findIdx? (NetworkConfig.hasEntryId id) = some i ∧
      applyNetworkInviteToActiveNetwork sdk sha256 now config invite =
        if normalizeRuntimeNetworkId invite.networkId = "" then
          (.error "network id cannot be empty", base.enableOnly i)
        else (.ok (), importMembers sdk sha256 now (config.ownPubkey sdk) keys invite id reset
          ((base.networkById id).any networkShouldAdoptInvite)
          ((base.networkById id).any (NetworkConfig.hasMember keys.inviter))
          ((base.enableOnly i).modifyNetwork id fun network =>
            { network with networkId := normalizeRuntimeNetworkId invite.networkId })) := by
  cases parsed : inviteKeys sdk invite with
  | error e => exact Or.inl ⟨e, rfl, by simp [applyNetworkInviteToActiveNetwork, parsed]⟩
  | ok keys =>
    obtain ⟨base, id, reset, i, target, first, between, eq, which⟩ := inviteTarget_spec sdk now config invite
    refine Or.inr ⟨keys, base, id, reset, i, rfl, target, first, ?_⟩
    have enabled : between.setNetworkEnabled id true = .ok (base.enableOnly i) := by
      have mem : id ∈ between.networks.map NetworkConfig.id := by
        rcases which with rfl | rfl
        · exact target.id_mem
        · rw [ids_enableOnly]
          exact target.id_mem
      obtain ⟨j, first', switched⟩ := setNetworkEnabled_of_mem mem
      rcases which with rfl | rfl
      · rw [switched, Option.some.inj (first'.symm.trans first)]
      · rw [findIdx?_hasEntryId_enableOnly] at first'
        rw [switched, enableOnly_enableOnly, Option.some.inj (first'.symm.trans first)]
    have adopts : (between.networkById id).any networkShouldAdoptInvite =
        (base.networkById id).any networkShouldAdoptInvite := by
      rcases which with rfl | rfl
      · rfl
      · exact any_networkById_enableOnly base i id fun _ => rfl
    have member : (between.networkById id).any (NetworkConfig.hasMember keys.inviter) =
        (base.networkById id).any (NetworkConfig.hasMember keys.inviter) := by
      rcases which with rfl | rfl
      · rfl
      · exact any_networkById_enableOnly base i id fun _ => rfl
    simp only [applyNetworkInviteToActiveNetwork, parsed, eq, enabled, adopts, member]
    by_cases unnamed : normalizeRuntimeNetworkId invite.networkId = ""
    · simp [AppConfig.setNetworkMeshId, unnamed]
    · have renamed := AppConfig.setNetworkMeshId_ok (ids_enableOnly i ▸ target.id_mem) unnamed
      simp only [renamed, unnamed, if_false]

theorem core_mergeInvite (own : Option String) (keys : InviteKeys) (reset : Bool)
    (network : NetworkConfig) :
    (mergeInvite own keys reset network).core = mergeInvite own keys reset network.core := by
  cases reset <;> simp only [mergeInvite, resetMembership, NetworkConfig.core, if_true, if_false,
    Bool.false_eq_true]

theorem cores_setPeerAlias (config : AppConfig) (participant alias' : String) :
    (config.setPeerAlias sdk sha256 now participant alias').2.cores = config.cores := by
  obtain ⟨ids, eq⟩ := @setPeerAlias_eq sdk sha256 now config participant alias'
  rw [eq]
  cases config.aliasEdit sdk participant alias' with
  | none => rfl
  | some aliases => exact (foldl_noteRosterChange_spec ids _).2

theorem cores_importMembers_eq (own : Option String) (keys : InviteKeys)
    (reset shouldAdoptName configured : Bool) :
    (importMembers sdk sha256 now own keys invite id reset shouldAdoptName configured config).cores =
      (config.modifyNetwork id (mergeInvite own keys reset)).cores := by
  have named (config : AppConfig) (name : String) :
      (config.modifyNetwork id fun network => { network with name }).cores = config.cores :=
    cores_modifyNetwork_self id fun _ => by simp only [NetworkConfig.core]
  unfold importMembers AppConfig.cores
  dsimp only
  split_ifs
  · exact (named _ _).trans (cores_setPeerAlias _ _ _)
  · exact named _ _
  · exact cores_setPeerAlias _ _ _
  · rfl

/-- The networks after the last steps of an import: the invite is merged into the target. -/
theorem cores_importMembers {own : Option String} {keys : InviteKeys} {network : NetworkConfig}
    (found : config.networkById id = some network) (reset shouldAdoptName configured : Bool) :
    ∃ i, config.networks.findIdx? (NetworkConfig.hasEntryId id) = some i ∧
      config.networks[i]? = some network ∧
      (importMembers sdk sha256 now own keys invite id reset shouldAdoptName configured config).cores =
        config.cores.set i (mergeInvite own keys reset network.core) := by
  obtain ⟨i, first, at', merged⟩ := cores_modifyNetwork found (mergeInvite own keys reset)
  rw [core_mergeInvite] at merged
  exact ⟨i, first, at', (cores_importMembers_eq own keys reset shouldAdoptName configured).trans merged⟩

/-- The networks after an import: the target is the one enabled, with the invite merged into it. -/
theorem cores_imported {own : Option String} {keys : InviteKeys} {meshId : String} {i : Nat}
    (target : InviteTarget sdk now config invite base id reset)
    (first : base.networks.findIdx? (NetworkConfig.hasEntryId id) = some i)
    (shouldAdoptName configured : Bool) :
    ∃ network, base.networks[i]? = some network ∧
      (importMembers sdk sha256 now own keys invite id reset shouldAdoptName configured
        ((base.enableOnly i).modifyNetwork id fun network => { network with networkId := meshId })).cores =
        (enableAt i base.cores).set i
          (mergeInvite own keys reset { network.core with enabled := true }) := by
  have renamed : ((base.enableOnly i).modifyNetwork id fun network =>
      { network with networkId := meshId }).cores = enableAt i base.cores :=
    (cores_modifyNetwork_self id fun _ => by simp only [NetworkConfig.core]).trans (cores_enableOnly base i)
  generalize ((base.enableOnly i).modifyNetwork id fun network =>
    { network with networkId := meshId }) = before at renamed
  have ids : before.networks.map NetworkConfig.id = base.networks.map NetworkConfig.id := by
    rw [← ids_cores, renamed, ← cores_enableOnly, ids_cores, ids_enableOnly]
  have mem : id ∈ before.networks.map NetworkConfig.id := ids ▸ target.id_mem
  obtain ⟨enabled, found⟩ := Option.isSome_iff_exists.mp (AppConfig.networkById_isSome.mpr mem)
  obtain ⟨j, first', at', merged⟩ := @cores_importMembers sdk sha256 now before invite id own keys enabled
    found reset shouldAdoptName configured
  have seen : NetworkConfig.hasEntryId id = (· == id) ∘ NetworkConfig.id := rfl
  obtain rfl : j = i := by
    rw [seen, ← List.findIdx?_map, ids, List.findIdx?_map, ← seen] at first'
    exact Option.some.inj (first'.symm.trans first)
  obtain ⟨inside, -⟩ := List.findIdx?_eq_some_iff_getElem.mp first
  refine ⟨base.networks[j], List.getElem?_eq_getElem inside, ?_⟩
  have core : enabled.core = { base.networks[j].core with enabled := true } := by
    have here := congrArg (fun cores => cores[j]?) renamed
    simpa [AppConfig.cores, enableAt, at', List.getElem?_mapIdx, List.getElem?_eq_getElem inside] using here
  rw [merged, renamed, core]

/-- The settings that an import does not touch. -/
def SameSelection (sdk : NostrSdk) (config after : AppConfig) : Prop :=
  after.nodeName = config.nodeName ∧ after.exitNode = config.exitNode ∧
    after.ownPubkey sdk = config.ownPubkey sdk

theorem SameSelection.trans {config between after : AppConfig} (first : SameSelection sdk config between)
    (second : SameSelection sdk between after) : SameSelection sdk config after :=
  ⟨second.1.trans first.1, second.2.1.trans first.2.1, second.2.2.trans first.2.2⟩

theorem sameSelection_of_sameSettings {after : AppConfig} (same : SameSettings config after) :
    SameSelection sdk config after := ⟨same.nodeName, same.exitNode, same.ownPubkey sdk⟩

theorem sameSelection_setPeerAlias (config : AppConfig) (participant alias' : String) :
    SameSelection sdk config (config.setPeerAlias sdk sha256 now participant alias').2 := by
  obtain ⟨ids, eq⟩ := @setPeerAlias_eq sdk sha256 now config participant alias'
  rw [eq]
  cases config.aliasEdit sdk participant alias' with
  | none => exact ⟨rfl, rfl, rfl⟩
  | some aliases =>
    have stored : SameSelection sdk config
        (({ config with peerAliases := aliases } : AppConfig).normalizePeerAliases sdk sha256) :=
      ⟨rfl, rfl, rfl⟩
    exact stored.trans (sameSelection_of_sameSettings (foldl_noteRosterChange_spec ids _).1)

theorem sameSelection_importMembers (own : Option String) (keys : InviteKeys) (invite : NetworkInvite)
    (id : String) (reset shouldAdoptName configured : Bool) (config : AppConfig) :
    SameSelection sdk config
      (importMembers sdk sha256 now own keys invite id reset shouldAdoptName configured config) := by
  unfold importMembers
  dsimp only
  split_ifs
  · exact sameSelection_setPeerAlias _ _ _
  · exact ⟨rfl, rfl, rfl⟩
  · exact sameSelection_setPeerAlias _ _ _
  · exact ⟨rfl, rfl, rfl⟩

theorem InviteTarget.sameSettings (target : InviteTarget sdk now config invite base id reset) :
    SameSettings config base := by
  cases target with
  | known _ => exact .refl _
  | adopted _ _ => exact .refl _
  | added _ _ => exact (addNetwork_spec config invite.networkName).1

end Import

/-! ## The machine -/

/-- A configuration whose networks have distinct entry ids, as `load` leaves it. -/
structure LoadedConfig where
  config : AppConfig
  distinct : (config.networks.map NetworkConfig.id).Nodup

inductive ConfigOp where
  | addNetwork (now : Nat) (name : String)
  | renameNetwork (now : Nat) (id name : String)
  | removeNetwork (id : String)
  | setNetworkEnabled (id : String) (enabled : Bool)
  | setNetworkJoinRequestsEnabled (id : String) (enabled : Bool)
  | setNetworkMeshId (id meshId : String)
  | recordInboundJoinRequest (networkId requester name : String) (requestedAt : Nat)
  | editRoster (now : Nat) (id : String) (action : RosterEditAction) (participant : String)
  | setPeerAlias (now : Nat) (participant alias' : String)
  | applyRoster (now : UInt64) (update : SharedRosterUpdate)
  | importInvite (now : Nat) (invite : NetworkInvite)
  | ensureDefaults (generated : Generated)

section Machine
variable (sdk : NostrSdk) (sha256 : Sha256)

/-- The configuration that an operation leaves, whether it succeeds or not. -/
def ConfigOp.outcome (s : LoadedConfig) : ConfigOp → AppConfig
  | .addNetwork now name => (s.config.addNetwork sdk now name).2
  | .renameNetwork now id name => (s.config.renameNetwork sdk now id name).toOption.getD s.config
  | .removeNetwork id => (s.config.removeNetwork sdk sha256 s.distinct id).toOption.getD s.config
  | .setNetworkEnabled id enabled => (s.config.setNetworkEnabled id enabled).toOption.getD s.config
  | .setNetworkJoinRequestsEnabled id enabled =>
    (s.config.setNetworkJoinRequestsEnabled id enabled).toOption.getD s.config
  | .setNetworkMeshId id meshId => (s.config.setNetworkMeshId id meshId).toOption.getD s.config
  | .recordInboundJoinRequest networkId requester name requestedAt =>
    (s.config.recordInboundJoinRequest sdk networkId requester name requestedAt).2
  | .editRoster now id action participant =>
    (s.config.editRoster sdk sha256 now id action participant).toOption.getD s.config
  | .setPeerAlias now participant alias' => (s.config.setPeerAlias sdk sha256 now participant alias').2
  | .applyRoster now update => (s.config.applyAdminSignedSharedRoster sdk sha256 now update).2
  | .importInvite now invite => (applyNetworkInviteToActiveNetwork sdk sha256 now s.config invite).2
  | .ensureDefaults generated => s.config.ensureDefaults sdk sha256 generated

/-- What an operation may leave. Any of them may be refused or change only names, mesh ids and stamps. -/
inductive ConfigOp.Effect (s : LoadedConfig) : ConfigOp → AppConfig → Prop where
  | silent {op : ConfigOp} {after : AppConfig} (plain : ∀ generated, op ≠ .ensureDefaults generated)
      (same : SameSettings s.config after) (cores : after.cores = s.config.cores) : Effect s op after
  | added {now : Nat} {name id : String} {after : AppConfig} (same : SameSettings s.config after)
      (fresh : id ∉ s.config.networks.map NetworkConfig.id)
      (cores : after.cores = s.config.cores ++ [addedCore id]) : Effect s (.addNetwork now name) after
  | removed {id : String} {between : AppConfig} (several : 1 < s.config.networks.length)
      (present : id ∈ s.config.networks.map NetworkConfig.id) (same : SameSettings s.config between)
      (networks : between.networks =
        promoteFirst (s.config.networks.filter fun network => !network.hasEntryId id)) :
      Effect s (.removeNetwork id) (between.normalizeSelectedExitNode.normalizePeerAliases sdk sha256)
  | switched {id : String} {i : Nat} {after : AppConfig}
      (first : s.config.networks.findIdx? (NetworkConfig.hasEntryId id) = some i)
      (same : SameSettings s.config after) (cores : after.cores = enableAt i s.config.cores) :
      Effect s (.setNetworkEnabled id true) after
  | recorded {networkId requester name key : String} {requestedAt i : Nat} {network : NetworkConfig}
      {requests : List PendingInboundJoinRequest} {after : AppConfig}
      (same : SameSettings s.config after) (parsed : normalizeNostrPubkey sdk requester = .ok key)
      (first : s.config.networks.findIdx?
        (NetworkConfig.listensAt (normalizeRuntimeNetworkId networkId)) = some i)
      (at' : s.config.networks[i]? = some network) (outside : key ∉ network.participants)
      (recorded : recordRequest network.inboundJoinRequests key (trim name) requestedAt = some requests)
      (networks : after.networks = s.config.networks.set i { network with
        inboundJoinRequests := requests }) :
      Effect s (.recordInboundJoinRequest networkId requester name requestedAt) after
  | edited {now : Nat} {id participant key : String} {action : RosterEditAction} {i : Nat}
      {network network' : NetworkConfig} {between : AppConfig} (same : SameSettings s.config between)
      (parsed : normalizeNostrPubkey sdk participant = .ok key)
      (first : s.config.networks.findIdx? (NetworkConfig.hasEntryId id) = some i)
      (at' : s.config.networks[i]? = some network) (changed : action.edit key network = .ok network')
      (cores : between.cores = s.config.cores.set i network'.core) :
      Effect s (.editRoster now id action participant) (action.normalize sdk sha256 between)
  | aliased {now : Nat} {participant alias' : String} {aliases : HashMap String String} {after : AppConfig}
      (stored : s.config.aliasEdit sdk participant alias' = some aliases)
      (same : SameSettings (({ s.config with peerAliases := aliases } : AppConfig).normalizePeerAliases sdk
        sha256) after)
      (cores : after.cores = s.config.cores) : Effect s (.setPeerAlias now participant alias') after
  | accepted {now : UInt64} {update : SharedRosterUpdate} {signer : String} {network : NetworkConfig}
      {participants admins : List String}
      (passes : RosterPasses sdk now s.config update signer network participants)
      (named : normalizeNetworkAdmins sdk update.admins (s.config.ownPubkey sdk) network.inviteInviter =
        admins)
      (some' : admins ≠ []) :
      Effect s (.applyRoster now update)
        (s.config.acceptSharedRoster sdk sha256 (normalizeRuntimeNetworkId update.networkId)
          (network.acceptRoster sdk update signer participants admins) update.aliases)
  | importFailed {now : Nat} {invite : NetworkInvite} {keys : InviteKeys} {base : AppConfig} {id : String}
      {reset : Bool} {i : Nat} (parsed : inviteKeys sdk invite = .ok keys)
      (target : InviteTarget sdk now s.config invite base id reset)
      (first : base.networks.findIdx? (NetworkConfig.hasEntryId id) = some i)
      (unnamed : normalizeRuntimeNetworkId invite.networkId = "") :
      Effect s (.importInvite now invite) (base.enableOnly i)
  | imported {now : Nat} {invite : NetworkInvite} {keys : InviteKeys} {base after : AppConfig}
      {id : String} {reset : Bool} {i : Nat} {network : NetworkConfig}
      (parsed : inviteKeys sdk invite = .ok keys)
      (target : InviteTarget sdk now s.config invite base id reset)
      (first : base.networks.findIdx? (NetworkConfig.hasEntryId id) = some i)
      (named : normalizeRuntimeNetworkId invite.networkId ≠ "") (at' : base.networks[i]? = some network)
      (same : SameSelection sdk s.config after)
      (cores : after.cores = (enableAt i base.cores).set i
        (mergeInvite (s.config.ownPubkey sdk) keys reset { network.core with enabled := true })) :
      Effect s (.importInvite now invite) after
  | defaulted {generated : Generated} :
      Effect s (.ensureDefaults generated) (s.config.ensureDefaults sdk sha256 generated)

end Machine

section Effects
variable {sdk : NostrSdk} {sha256 : Sha256} {s : LoadedConfig}

/-- A `Result` method that changes nothing when it fails. -/
theorem effect_of_except {op : ConfigOp} {outcome : Except String AppConfig}
    (plain : ∀ generated, op ≠ .ensureDefaults generated) (ok : ∀ after, outcome = .ok after → op.Effect sdk sha256 s after) :
    op.Effect sdk sha256 s (outcome.toOption.getD s.config) := by
  cases eq : outcome with
  | error e => exact .silent plain (.refl _) rfl
  | ok after => exact ok after eq

theorem effect_outcome (s : LoadedConfig) (op : ConfigOp) :
    op.Effect sdk sha256 s (op.outcome sdk sha256 s) := by
  cases op with
  | addNetwork now name =>
    obtain ⟨same, cores, fresh⟩ := @addNetwork_spec sdk now s.config name
    exact .added same fresh cores
  | renameNetwork now id name =>
    refine effect_of_except (by simp) fun after renamed => ?_
    obtain ⟨same, cores⟩ := renameNetwork_spec renamed
    exact .silent (by simp) same cores
  | removeNetwork id =>
    refine effect_of_except (by simp) fun after removed => ?_
    obtain ⟨several, present, between, same, networks, rfl⟩ := removeNetwork_spec removed
    exact .removed several present same networks
  | setNetworkEnabled id enabled =>
    refine effect_of_except (by simp) fun after switched => ?_
    obtain ⟨same, i, first, cores⟩ := setNetworkEnabled_spec switched
    cases enabled with
    | false => exact .silent (by simp) same (by simpa using cores)
    | true => exact .switched first same (by simpa using cores)
  | setNetworkJoinRequestsEnabled id enabled =>
    refine effect_of_except (by simp) fun after switched => ?_
    obtain ⟨same, cores⟩ := setNetworkJoinRequestsEnabled_spec switched
    exact .silent (by simp) same cores
  | setNetworkMeshId id meshId =>
    refine effect_of_except (by simp) fun after renamed => ?_
    obtain ⟨same, cores⟩ := setNetworkMeshId_spec renamed
    exact .silent (by simp) same cores
  | recordInboundJoinRequest networkId requester name requestedAt =>
    have spec := @recordInboundJoinRequest_spec sdk s.config networkId requester name requestedAt
    simp only [ConfigOp.outcome]
    generalize (s.config.recordInboundJoinRequest sdk networkId requester name requestedAt).2 = after at spec ⊢
    obtain ⟨same, old | ⟨key, i, network, requests, parsed, first, at', outside, recorded, networks⟩⟩ := spec
    · exact .silent (by simp) same (congrArg (List.map NetworkConfig.core) old)
    · exact .recorded same parsed first at' outside recorded networks
  | editRoster now id action participant =>
    refine effect_of_except (by simp) fun after edited => ?_
    obtain ⟨key, parsed, ⟨rfl, -, -⟩ | ⟨between, changed, rfl⟩⟩ := editRoster_cases edited
    · exact .silent (by simp) (.refl _) rfl
    · obtain ⟨same, i, network, network', first, at', changed, cores⟩ := editNetwork_spec changed
      exact .edited same parsed first at' changed cores
  | setPeerAlias now participant alias' =>
    obtain ⟨ids, eq⟩ := @setPeerAlias_eq sdk sha256 now s.config participant alias'
    cases stored : s.config.aliasEdit sdk participant alias' with
    | none =>
      rw [stored] at eq
      simp only [ConfigOp.outcome, eq]
      exact .silent (by simp) (.refl _) rfl
    | some aliases =>
      rw [stored] at eq
      simp only [ConfigOp.outcome, eq]
      obtain ⟨same, cores⟩ := @foldl_noteRosterChange_spec sdk now ids
        (({ s.config with peerAliases := aliases } : AppConfig).normalizePeerAliases sdk sha256)
      exact .aliased stored same cores
  | applyRoster now update =>
    simp only [ConfigOp.outcome]
    rcases applyRoster_cases sdk sha256 now s.config update with
      same | ⟨signer, network, participants, passes, some', eq⟩
    · rw [same]
      exact .silent (by simp) (.refl _) rfl
    · rw [eq]
      exact .accepted passes rfl some'
  | importInvite now invite =>
    simp only [ConfigOp.outcome]
    rcases import_cases sdk sha256 now s.config invite with
      ⟨e, -, eq⟩ | ⟨keys, base, id, reset, i, parsed, target, first, eq⟩
    · rw [eq]
      exact .silent (by simp) (.refl _) rfl
    · rw [eq]
      split_ifs with unnamed
      · exact .importFailed parsed target first unnamed
      · obtain ⟨network, at', cores⟩ := cores_imported target first _ _
        have before : SameSelection sdk s.config ((base.enableOnly i).modifyNetwork id fun network =>
            { network with networkId := normalizeRuntimeNetworkId invite.networkId }) :=
          sameSelection_of_sameSettings (target.sameSettings.trans ⟨rfl, rfl, rfl, rfl⟩)
        exact .imported parsed target first unnamed at'
          (before.trans (sameSelection_importMembers _ keys invite id reset _ _ _)) cores
  | ensureDefaults generated => exact .defaulted

theorem ids_enableAt (i : Nat) (networks : List NetworkConfig) :
    (enableAt i networks).map NetworkConfig.id = networks.map NetworkConfig.id :=
  List.ext_getElem? fun j => by simp [enableAt, List.getElem?_mapIdx, Function.comp_def]

theorem ids_promoteFirst (networks : List NetworkConfig) :
    (promoteFirst networks).map NetworkConfig.id = networks.map NetworkConfig.id := by
  unfold promoteFirst
  split_ifs
  · rfl
  · cases networks <;> rfl

theorem ids_set {networks : List NetworkConfig} {i : Nat} {network' : NetworkConfig}
    (same : networks[i]?.map NetworkConfig.id = some network'.id) :
    (networks.set i network').map NetworkConfig.id = networks.map NetworkConfig.id := by
  refine List.ext_getElem? fun j => ?_
  rw [List.getElem?_map, List.getElem?_set, List.getElem?_map]
  grind

theorem getElem?_cores {config : AppConfig} {i : Nat} {network : NetworkConfig}
    (at' : config.networks[i]? = some network) : config.cores[i]? = some network.core := by
  rw [AppConfig.cores, List.getElem?_map, at', Option.map_some]

theorem id_edit {action : RosterEditAction} {key : String} {network network' : NetworkConfig}
    (changed : action.edit key network = .ok network') : network'.id = network.id := by
  cases action <;> simp only [RosterEditAction.edit] at changed
  · exact (Except.ok.inj changed) ▸ rfl
  · split_ifs at changed
    exact (Except.ok.inj changed) ▸ rfl
  · exact (Except.ok.inj changed) ▸ rfl
  · split_ifs at changed
    exact (Except.ok.inj changed) ▸ rfl

@[simp] theorem cores_normalize (action : RosterEditAction) (config : AppConfig) :
    (action.normalize sdk sha256 config).cores = config.cores := by
  cases action <;> simp [RosterEditAction.normalize, AppConfig.cores]

theorem InviteTarget.nodup_ids {now : Nat} {config base : AppConfig} {invite : NetworkInvite} {id : String}
    {reset : Bool} (target : InviteTarget sdk now config invite base id reset)
    (distinct : (config.networks.map NetworkConfig.id).Nodup) :
    (base.networks.map NetworkConfig.id).Nodup := by
  cases target with
  | known _ => exact distinct
  | adopted _ _ => exact distinct
  | added _ _ =>
    obtain ⟨-, cores, fresh⟩ := @addNetwork_spec sdk now config invite.networkName
    rw [← ids_cores, cores, List.map_append, ids_cores, List.map_singleton, ← List.concat_eq_append]
    exact distinct.concat fresh

/-- Every operation keeps the entry ids distinct. -/
theorem ConfigOp.Effect.nodup_ids {op : ConfigOp} {after : AppConfig} (effect : op.Effect sdk sha256 s after) :
    (after.networks.map NetworkConfig.id).Nodup := by
  have distinct := s.distinct
  cases effect with
  | silent plain same cores => rwa [← ids_cores, cores, ids_cores]
  | added same fresh cores =>
    rw [← ids_cores, cores, List.map_append, ids_cores, List.map_singleton, ← List.concat_eq_append]
    exact distinct.concat fresh
  | removed several present same networks =>
    rw [AppConfig.networks_normalizePeerAliases, AppConfig.networks_normalizeSelectedExitNode, networks,
      ids_promoteFirst]
    exact distinct.sublist (List.filter_sublist.map _)
  | switched first same cores => rwa [← ids_cores, cores, ids_enableAt, ids_cores]
  | recorded same parsed first at' outside recorded networks =>
    rw [networks, ids_set]
    · exact distinct
    · rw [at', Option.map_some]
  | edited same parsed first at' changed cores =>
    rw [← ids_cores, cores_normalize, cores, ids_set, ids_cores]
    · exact distinct
    · rw [getElem?_cores at', Option.map_some]
      exact congrArg some (id_edit changed).symm
  | aliased stored same cores => rwa [← ids_cores, cores, ids_cores]
  | accepted passes named some' =>
    obtain ⟨i, -, at', cores⟩ := @cores_acceptSharedRoster sdk sha256 s.config _ _ passes.found _ _
    rw [← ids_cores, cores, ids_set, ids_cores]
    · exact distinct
    · rw [getElem?_cores at', Option.map_some]
      rfl
  | importFailed parsed target first unnamed =>
    rw [ids_enableOnly]
    exact target.nodup_ids distinct
  | imported parsed target first named at' same cores =>
    rw [← ids_cores, cores, ids_set, ids_enableAt, ids_cores]
    · exact target.nodup_ids distinct
    · simp [enableAt, List.getElem?_mapIdx, getElem?_cores at', mergeInvite, resetMembership]
      split_ifs <;> rfl
  | defaulted => exact AppConfig.nodup_ids_ensureDefaults sdk sha256 _ s.config

end Effects

/-- One step of the machine. -/
def ConfigOp.apply (sdk : NostrSdk) (sha256 : Sha256) (s : LoadedConfig) (op : ConfigOp) : LoadedConfig where
  config := op.outcome sdk sha256 s
  distinct := (effect_outcome s op).nodup_ids

/-- The state after a file has been loaded. -/
def LoadedConfig.load (sdk : NostrSdk) (sha256 : Sha256) (generated : Generated) (fields : AppConfig)
    (networks : List NetworkConfig) : LoadedConfig where
  config := AppConfig.load sdk sha256 generated fields networks
  distinct := AppConfig.nodup_ids_ensureDefaults sdk sha256 generated _

theorem effect_apply {sdk : NostrSdk} {sha256 : Sha256} (s : LoadedConfig) (op : ConfigOp) :
    op.Effect sdk sha256 s (op.apply sdk sha256 s).config := effect_outcome s op

end NostrVpn.Invite
