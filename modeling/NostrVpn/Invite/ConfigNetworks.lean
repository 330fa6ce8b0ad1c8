import NostrVpn.Invite.ConfigRuns

/-!
# The networks an operation writes

What may stand in the place of a network after an operation, one case for each operation that writes one.
A rule that every network satisfies on its own is kept when the written networks satisfy it.
-/
namespace NostrVpn.Invite

open Rust NostrVpn.Core Transition

/-- A network that an operation puts into the list, without its name. -/
inductive ConfigOp.Writes (sdk : NostrSdk) (s : LoadedConfig) : ConfigOp → NetworkConfig → Prop where
  | added {now : Nat} {name id : String} : Writes sdk s (.addNetwork now name) (addedCore id)
  | recorded {networkId requester name key : String} {requestedAt : Nat} {network : NetworkConfig}
      {requests : List PendingInboundJoinRequest} (mem : network ∈ s.config.networks)
      (parsed : normalizeNostrPubkey sdk requester = .ok key) (outside : key ∉ network.participants)
      (recorded : recordRequest network.inboundJoinRequests key (trim name) requestedAt = some requests) :
      Writes sdk s (.recordInboundJoinRequest networkId requester name requestedAt)
        { network.core with inboundJoinRequests := requests }
  | edited {now : Nat} {id participant key : String} {action : RosterEditAction}
      {network network' : NetworkConfig} (parsed : normalizeNostrPubkey sdk participant = .ok key)
      (found : s.config.networkById id = some network) (changed : action.edit key network = .ok network') :
      Writes sdk s (.editRoster now id action participant) network'.core
  | accepted {now : UInt64} {update : SharedRosterUpdate} {signer : String} {network : NetworkConfig}
      {participants admins : List String}
      (passes : RosterPasses sdk now s.config update signer network participants)
      (named : normalizeNetworkAdmins sdk update.admins (s.config.ownPubkey sdk) network.inviteInviter =
        admins)
      (some' : admins ≠ []) :
      Writes sdk s (.applyRoster now update)
        (network.acceptRoster sdk update signer participants admins).core
  | abandoned {now : Nat} {invite : NetworkInvite} {keys : InviteKeys} {id : String}
      (parsed : inviteKeys sdk invite = .ok keys)
      (unknown : s.config.networks.find? (NetworkConfig.hasMeshId
        (normalizeRuntimeNetworkId invite.networkId)) = none)
      (used : ¬ networkShouldAdoptInvite s.config.activeNetwork)
      (unnamed : normalizeRuntimeNetworkId invite.networkId = "") :
      Writes sdk s (.importInvite now invite) (addedCore id)
  | merged {now : Nat} {invite : NetworkInvite} {keys : InviteKeys} {base : AppConfig} {id : String}
      {reset : Bool} {i : Nat} {network : NetworkConfig} (parsed : inviteKeys sdk invite = .ok keys)
      (target : InviteTarget sdk now s.config invite base id reset)
      (first : base.networks.findIdx? (NetworkConfig.hasEntryId id) = some i)
      (named : normalizeRuntimeNetworkId invite.networkId ≠ "") (at' : base.networks[i]? = some network) :
      Writes sdk s (.importInvite now invite)
        (mergeInvite (s.config.ownPubkey sdk) keys reset network.core)
  | defaulted {generated : Generated} {network : NetworkConfig} {ordinal : Nat} {used : List String}
      (mem : network ∈ s.config.networks) :
      Writes sdk s (.ensureDefaults generated) (network.ensureDefaults sdk
        ((s.config.ensureNostrIdentity sdk generated).ownPubkey sdk) ordinal used).core

section Networks
variable {sdk : NostrSdk} {sha256 : Sha256} {s : LoadedConfig} {op : ConfigOp}

/-- The network stands in the list, perhaps with another flag. -/
def Stands (networks : List NetworkConfig) (network : NetworkConfig) : Prop :=
  ∃ enabled, ∃ old ∈ networks, network = { old with enabled }

theorem stands_of_mem {networks : List NetworkConfig} {network : NetworkConfig} (mem : network ∈ networks) :
    Stands networks network := ⟨network.enabled, network, mem, rfl⟩

theorem stands_enableAt {i : Nat} {networks : List NetworkConfig} {network : NetworkConfig}
    (mem : network ∈ enableAt i networks) : Stands networks network := by
  obtain ⟨j, inside, rfl⟩ := List.mem_mapIdx.mp mem
  exact ⟨j == i, _, List.getElem_mem inside, rfl⟩

theorem stands_promoteFirst {networks : List NetworkConfig} {network : NetworkConfig}
    (mem : network ∈ promoteFirst networks) : Stands networks network := by
  unfold promoteFirst at mem
  split_ifs at mem
  · exact stands_of_mem mem
  · cases networks with
    | nil => cases mem
    | cons first rest =>
      rcases List.mem_cons.mp mem with rfl | later
      · exact ⟨true, first, by simp, rfl⟩
      · exact stands_of_mem (List.mem_cons_of_mem _ later)

/-- The network that an import adds is the last one. -/
theorem index_addNetwork {now : Nat} {config : AppConfig} {name : String} {i : Nat}
    (first : (config.addNetwork sdk now name).2.networks.findIdx?
      (NetworkConfig.hasEntryId (config.addNetwork sdk now name).1) = some i) : i = config.cores.length := by
  obtain ⟨-, cores, fresh⟩ := @addNetwork_spec sdk now config name
  generalize (config.addNetwork sdk now name).1 = id at first cores fresh
  have none' : (config.networks.map NetworkConfig.id).findIdx? (· == id) = none := by
    simpa [List.findIdx?_eq_none_iff, ← ne_eq] using fun network mem same =>
      fresh (List.mem_map.mpr ⟨network, mem, same⟩)
  have seen : NetworkConfig.hasEntryId id = (· == id) ∘ NetworkConfig.id := rfl
  rw [seen, ← List.findIdx?_map, ← ids_cores, cores, List.map_append, ids_cores, List.findIdx?_append,
    none'] at first
  simpa [addedCore, AppConfig.cores] using first.symm

/-- The network that an import has just added has no requests and no members. -/
theorem core_of_added {now : Nat} {config : AppConfig} {name : String} {i : Nat} {network : NetworkConfig}
    (first : (config.addNetwork sdk now name).2.networks.findIdx?
      (NetworkConfig.hasEntryId (config.addNetwork sdk now name).1) = some i)
    (at' : (config.addNetwork sdk now name).2.networks[i]? = some network) :
    network.core = addedCore (config.addNetwork sdk now name).1 := by
  obtain rfl := index_addNetwork first
  have cores := (@addNetwork_spec sdk now config name).2.1
  have here := getElem?_cores at'
  generalize (config.addNetwork sdk now name).1 = id at *
  rw [cores] at here
  simpa using here.symm

theorem InviteTarget.getElem?_other {now : Nat} {config base : AppConfig} {invite : NetworkInvite}
    {id : String} {reset : Bool} {i j : Nat} {core : NetworkConfig}
    (target : InviteTarget sdk now config invite base id reset)
    (first : base.networks.findIdx? (NetworkConfig.hasEntryId id) = some i) (other : j ≠ i)
    (at' : base.cores[j]? = some core) : config.cores[j]? = some core := by
  cases target with
  | known _ => exact at'
  | adopted _ _ => exact at'
  | added unknown used =>
    have last := index_addNetwork first
    rw [(addNetwork_spec config invite.networkName).2.1] at at'
    rcases Nat.lt_trichotomy j config.cores.length with before | rfl | beyond
    · rwa [List.getElem?_append_left before] at at'
    · exact absurd last.symm other
    · rw [List.getElem?_eq_none (by simp; omega)] at at'
      cases at'

theorem mem_cores_set {networks : List NetworkConfig} {i : Nat} {network core : NetworkConfig}
    (mem : core ∈ networks.set i network) : core = network ∨ Stands networks core := by
  rcases List.mem_or_eq_of_mem_set mem with old | new
  · exact Or.inr (stands_of_mem old)
  · exact Or.inl new

/-- Every network of `ensure_defaults` comes from the one in its place, under some ordinal and with some ids
in use. -/
theorem getElem?_ensureNetworks {own : Option String} {ordinal : Nat} {used : List String}
    {networks : List NetworkConfig} {i : Nat} {network : NetworkConfig}
    (at' : (ensureNetworks sdk own ordinal used networks)[i]? = some network) :
    ∃ old, networks[i]? = some old ∧ ∃ ordinal used, network = old.ensureDefaults sdk own ordinal used := by
  induction networks generalizing ordinal used i with
  | nil => cases at'
  | cons first rest ih =>
    cases i with
    | zero => exact ⟨first, rfl, ordinal, used, (Option.some.inj at').symm⟩
    | succ i => exact ih at'

theorem mem_ensureNetworks {own : Option String} {ordinal : Nat} {used : List String}
    {networks : List NetworkConfig} {network : NetworkConfig}
    (mem : network ∈ ensureNetworks sdk own ordinal used networks) :
    ∃ old ∈ networks, ∃ ordinal used, network = old.ensureDefaults sdk own ordinal used := by
  obtain ⟨i, at'⟩ := List.getElem?_of_mem mem
  obtain ⟨old, before, made⟩ := getElem?_ensureNetworks at'
  exact ⟨old, List.mem_of_getElem? before, made⟩

theorem core_deriveDefaultNetworkId (own : Option String) (network : NetworkConfig) :
    (network.deriveDefaultNetworkId sha256 own).core = network.core := by
  unfold NetworkConfig.deriveDefaultNetworkId
  cases own with
  | none => split_ifs <;> simp only [NetworkConfig.core]
  | some own => split_ifs <;> simp only [NetworkConfig.core]

/-- The networks after `ensure_defaults`, without their names. -/
theorem cores_ensureDefaults (generated : Generated) (config : AppConfig) :
    ∃ i, (config.ensureDefaults sdk sha256 generated).cores = enableAt i
      ((ensureNetworks sdk ((config.ensureNostrIdentity sdk generated).ownPubkey sdk) 1 []
        config.networks).map NetworkConfig.core) := by
  have identity : (config.ensureNostrIdentity sdk generated).networks = config.networks := by
    unfold AppConfig.ensureNostrIdentity
    grind
  have fields (own : Option String) (config : AppConfig) :
      (config.ensureFields sha256 generated own).networks = config.networks := by
    unfold AppConfig.ensureFields AppConfig.ensureNodeName
    grind
  have derived (own : Option String) :
      NetworkConfig.core ∘ NetworkConfig.deriveDefaultNetworkId sha256 own = NetworkConfig.core :=
    funext (core_deriveDefaultNetworkId own)
  simp only [AppConfig.ensureDefaults, AppConfig.cores, AppConfig.networks_normalizePeerAliases,
    AppConfig.networks_normalizeSelectedExitNode, AppConfig.deriveDefaultNetworkIds, List.map_map, derived,
    AppConfig.ensureSingleActiveNetwork]
  have enabled (config : AppConfig) (i : Nat) : (config.enableOnly i).networks.map NetworkConfig.core =
      enableAt i (config.networks.map NetworkConfig.core) := cores_enableOnly config i
  rw [enabled]
  refine ⟨_, congrArg (enableAt _) ?_⟩
  simp only [AppConfig.ensureNetworkList, AppConfig.ensureExitNode, fields, identity]

/-- A network after an operation stood in the list before it, or the operation has written it. -/
theorem ConfigOp.Effect.stands_or_writes {after : AppConfig} (effect : op.Effect sdk sha256 s after)
    {core : NetworkConfig} (mem : core ∈ after.cores) :
    ∃ enabled core', core = { core' with enabled } ∧
      ((core' ∈ s.config.cores ∧ ∀ generated, op ≠ .ensureDefaults generated) ∨
        op.Writes sdk s core') := by
  have old (plain : ∀ generated, op ≠ .ensureDefaults generated) (stands : Stands s.config.cores core) :
      ∃ enabled core', core = { core' with enabled } ∧
        ((core' ∈ s.config.cores ∧ ∀ generated, op ≠ .ensureDefaults generated) ∨
          op.Writes sdk s core') := by
    obtain ⟨enabled, core', listed, rfl⟩ := stands
    exact ⟨enabled, core', rfl, Or.inl ⟨listed, plain⟩⟩
  have new {core' : NetworkConfig} (same : core = core') (writes : op.Writes sdk s core') :
      ∃ enabled core', core = { core' with enabled } ∧
        ((core' ∈ s.config.cores ∧ ∀ generated, op ≠ .ensureDefaults generated) ∨
          op.Writes sdk s core') :=
    ⟨core.enabled, core', by rw [same], Or.inr writes⟩
  cases effect with
  | silent plain same cores => exact old plain (stands_of_mem (cores ▸ mem))
  | added same fresh cores =>
    rw [cores] at mem
    rcases List.mem_append.mp mem with before | added
    · exact old (by simp) (stands_of_mem before)
    · exact new (List.mem_singleton.mp added) .added
  | removed several present same networks =>
    rw [AppConfig.cores, AppConfig.networks_normalizePeerAliases,
      AppConfig.networks_normalizeSelectedExitNode, networks] at mem
    obtain ⟨network, listed, rfl⟩ := List.mem_map.mp mem
    obtain ⟨enabled, network', kept, rfl⟩ := stands_promoteFirst listed
    exact ⟨enabled, network'.core, rfl, Or.inl ⟨List.mem_map_of_mem (List.mem_of_mem_filter kept), by simp⟩⟩
  | switched first same cores => exact old (by simp) (stands_enableAt (cores ▸ mem))
  | recorded same parsed first at' outside recorded networks =>
    rw [AppConfig.cores, networks, List.map_set] at mem
    rcases mem_cores_set mem with written | before
    · exact new written (.recorded (List.mem_of_getElem? at') parsed outside recorded)
    · exact old (by simp) before
  | edited same parsed first at' changed cores =>
    rw [cores_normalize, cores] at mem
    rcases mem_cores_set mem with written | before
    · exact new written (.edited parsed (find?_of_findIdx? first at') changed)
    · exact old (by simp) before
  | aliased stored same cores => exact old (by simp) (stands_of_mem (cores ▸ mem))
  | accepted passes named some' =>
    obtain ⟨i, -, at', cores⟩ := @cores_acceptSharedRoster sdk sha256 s.config _ _ passes.found _ _
    rw [cores] at mem
    rcases mem_cores_set mem with written | before
    · exact new written (.accepted passes named some')
    · exact old (by simp) before
  | importFailed parsed target first unnamed =>
    rw [cores_enableOnly] at mem
    obtain ⟨enabled, core', listed, rfl⟩ := stands_enableAt mem
    cases target with
    | known _ => exact ⟨enabled, core', rfl, Or.inl ⟨listed, by simp⟩⟩
    | adopted _ _ => exact ⟨enabled, core', rfl, Or.inl ⟨listed, by simp⟩⟩
    | added unknown used =>
      rw [(addNetwork_spec s.config _).2.1] at listed
      rcases List.mem_append.mp listed with before | added
      · exact ⟨enabled, core', rfl, Or.inl ⟨before, by simp⟩⟩
      · refine ⟨enabled, core', rfl, Or.inr ?_⟩
        rw [List.mem_singleton.mp added]
        exact .abandoned parsed unknown used unnamed
  | imported parsed target first named at' same cores =>
    obtain ⟨j, at''⟩ := List.getElem?_of_mem (cores ▸ mem)
    rw [List.getElem?_set] at at''
    split_ifs at at'' with here inside
    · refine ⟨true, _, ?_, Or.inr (.merged parsed target first named at')⟩
      rw [← Option.some.inj at'']
      cases ‹Bool› <;> rfl
    · rw [enableAt, List.getElem?_mapIdx] at at''
      obtain ⟨core', listed, rfl⟩ := Option.map_eq_some_iff.mp at''
      have before := target.getElem?_other first (Ne.symm here) listed
      exact ⟨_, core', rfl, Or.inl ⟨List.mem_of_getElem? before, by simp⟩⟩
  | defaulted =>
    obtain ⟨i, cores⟩ := @cores_ensureDefaults sdk sha256 _ s.config
    obtain ⟨enabled, core', listed, rfl⟩ := stands_enableAt (cores ▸ mem)
    obtain ⟨network, made, rfl⟩ := List.mem_map.mp listed
    obtain ⟨network', before, ordinal, used, rfl⟩ := mem_ensureNetworks made
    exact ⟨enabled, _, rfl, Or.inr (.defaulted before)⟩

/-- The own key of a configuration with its defaults is the one of its identity. -/
theorem ownPubkey_ensureDefaults (generated : Generated) (config : AppConfig) :
    (config.ensureDefaults sdk sha256 generated).ownPubkey sdk =
      (config.ensureNostrIdentity sdk generated).ownPubkey sdk := by
  have named (own : Option String) (config : AppConfig) :
      (config.ensureNodeName sha256 generated own).nostr = config.nostr := by
    unfold AppConfig.ensureNodeName
    split_ifs <;> rfl
  simp [AppConfig.ensureDefaults, AppConfig.ownPubkey, AppConfig.ownNostrPubkeyHex,
    AppConfig.deriveDefaultNetworkIds, AppConfig.ensureSingleActiveNetwork, AppConfig.enableOnly,
    AppConfig.ensureNetworkList, AppConfig.ensureExitNode, AppConfig.ensureFields, named]

/-- Only filling in the defaults may give a node another key. -/
theorem ConfigOp.Effect.ownPubkey {after : AppConfig} (effect : op.Effect sdk sha256 s after) :
    after.ownPubkey sdk = s.config.ownPubkey sdk ∨ ∃ generated, op = .ensureDefaults generated ∧
      after.ownPubkey sdk = (s.config.ensureNostrIdentity sdk generated).ownPubkey sdk := by
  have exit (config : AppConfig) : config.normalizeSelectedExitNode.ownPubkey sdk = config.ownPubkey sdk := by
    simp [AppConfig.ownPubkey, AppConfig.ownNostrPubkeyHex]
  have aliases (config : AppConfig) :
      (config.normalizePeerAliases sdk sha256).ownPubkey sdk = config.ownPubkey sdk := rfl
  cases effect with
  | silent _ same _ => exact Or.inl (same.ownPubkey sdk)
  | added same _ _ => exact Or.inl (same.ownPubkey sdk)
  | removed _ _ same _ => exact Or.inl ((aliases _).trans ((exit _).trans (same.ownPubkey sdk)))
  | switched _ same _ => exact Or.inl (same.ownPubkey sdk)
  | recorded same _ _ _ _ _ _ => exact Or.inl (same.ownPubkey sdk)
  | @edited _ _ _ _ action _ _ _ between same _ _ _ _ _ =>
    have normalized : (action.normalize sdk sha256 between).ownPubkey sdk = between.ownPubkey sdk := by
      cases action <;> simp [RosterEditAction.normalize, aliases, exit]
    exact Or.inl (normalized.trans (same.ownPubkey sdk))
  | aliased _ same _ => exact Or.inl (same.ownPubkey sdk)
  | accepted _ _ _ => exact Or.inl (ownPubkey_acceptSharedRoster _ _ _ _)
  | importFailed _ target _ _ => exact Or.inl (target.sameSettings.ownPubkey sdk)
  | imported _ _ _ _ _ same _ => exact Or.inl same.2.2
  | defaulted => exact Or.inr ⟨_, rfl, ownPubkey_ensureDefaults _ _⟩

end Networks

end NostrVpn.Invite
