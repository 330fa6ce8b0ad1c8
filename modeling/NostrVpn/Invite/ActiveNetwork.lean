import NostrVpn.Invite.ConfigRuns

/-!
# The active network

Every operation leaves one network enabled: it enables a network alone, keeps the one that is enabled, or
promotes the first network when the one enabled is removed.
-/
namespace NostrVpn.Invite

open Rust NostrVpn.Core Transition

-- Terms with texts are compared without reading the texts.
attribute [local irreducible] String.toList

/-! ## Counting the enabled networks -/

def OneEnabled (networks : List NetworkConfig) : Prop := networks.countP NetworkConfig.enabled = 1

section Counting
variable {networks : List NetworkConfig}

theorem countP_enabled_cores (config : AppConfig) :
    config.cores.countP NetworkConfig.enabled = config.enabledNetworkCount := by
  rw [AppConfig.cores, List.countP_map, AppConfig.enabledNetworkCount]
  rfl

theorem oneEnabled_enableAt {i : Nat} (inside : i < networks.length) : OneEnabled (enableAt i networks) := by
  rw [OneEnabled, enableAt]
  induction networks generalizing i with
  | nil => simp at inside
  | cons network rest ih =>
    cases i with
    | zero =>
      simp [List.mapIdx_cons, List.countP_eq_zero, List.mem_mapIdx]
      grind
    | succ i =>
      have later := ih (i := i) (by simpa using inside)
      simpa [List.mapIdx_cons, Function.comp_def] using later

/-- Replacing a network by one with the same flag. -/
theorem countP_enabled_set {i : Nat} {network' : NetworkConfig}
    (same : networks[i]?.map NetworkConfig.enabled = some network'.enabled) :
    (networks.set i network').countP NetworkConfig.enabled = networks.countP NetworkConfig.enabled := by
  have flags : (networks.set i network').map NetworkConfig.enabled = networks.map NetworkConfig.enabled := by
    refine List.ext_getElem? fun j => ?_
    rw [List.getElem?_map, List.getElem?_set, List.getElem?_map]
    grind
  have count (networks : List NetworkConfig) :
      networks.countP NetworkConfig.enabled = (networks.map NetworkConfig.enabled).count true := by
    simp [List.count, List.countP_map, Function.comp_def]
  rw [count, flags, ← count]

theorem oneEnabled_promoteFirst (some' : networks ≠ []) (few : networks.countP NetworkConfig.enabled ≤ 1) :
    OneEnabled (promoteFirst networks) := by
  unfold promoteFirst OneEnabled
  split_ifs with active
  · have positive : 0 < networks.countP NetworkConfig.enabled :=
      List.countP_pos_iff.mpr (List.any_eq_true.mp active)
    omega
  · obtain ⟨network, rest, rfl⟩ := List.exists_cons_of_ne_nil some'
    have none' : rest.countP NetworkConfig.enabled = 0 := by
      rw [List.countP_eq_zero]
      intro other mem
      simp_all
    simp [none']

end Counting

/-! ## Every operation -/

section Operations
variable {sdk : NostrSdk} {sha256 : Sha256}

theorem enabled_edit {action : RosterEditAction} {key : String} {network network' : NetworkConfig}
    (changed : action.edit key network = .ok network') : network'.enabled = network.enabled := by
  cases action <;> simp only [RosterEditAction.edit] at changed
  · exact (Except.ok.inj changed) ▸ rfl
  · split_ifs at changed
    exact (Except.ok.inj changed) ▸ rfl
  · exact (Except.ok.inj changed) ▸ rfl
  · split_ifs at changed
    exact (Except.ok.inj changed) ▸ rfl

theorem enabled_mergeInvite (own : Option String) (keys : InviteKeys) (reset : Bool)
    (network : NetworkConfig) : (mergeInvite own keys reset network).enabled = network.enabled := by
  cases reset <;> rfl

theorem enabled_deriveDefaultNetworkId (own : Option String) (network : NetworkConfig) :
    (network.deriveDefaultNetworkId sha256 own).enabled = network.enabled := by
  unfold NetworkConfig.deriveDefaultNetworkId
  grind

theorem oneEnabled_enableOnly {config : AppConfig} {i : Nat} (inside : i < config.networks.length) :
    OneEnabled (config.enableOnly i).networks := by
  have alone := @oneEnabled_enableAt config.cores i (by simpa [AppConfig.cores])
  rwa [← cores_enableOnly, OneEnabled, countP_enabled_cores] at alone

theorem oneEnabled_ensureDefaults (generated : Generated) (config : AppConfig) :
    OneEnabled (config.ensureDefaults sdk sha256 generated).networks := by
  simp only [AppConfig.ensureDefaults, AppConfig.networks_normalizePeerAliases,
    AppConfig.networks_normalizeSelectedExitNode, AppConfig.deriveDefaultNetworkIds, OneEnabled,
    List.countP_map, AppConfig.ensureSingleActiveNetwork]
  have flags (own : Option String) : NetworkConfig.enabled ∘ NetworkConfig.deriveDefaultNetworkId sha256 own =
      NetworkConfig.enabled := funext (enabled_deriveDefaultNetworkId own)
  rw [flags]
  refine oneEnabled_enableOnly ?_
  generalize AppConfig.ensureNetworkList _ _ _ = config
  cases first : config.networks.findIdx? fun network => network.enabled with
  | none => exact List.length_pos_iff.mpr config.networks_ne
  | some i => exact (List.findIdx?_eq_some_iff_getElem.mp first).1

theorem oneEnabled_cores {config : AppConfig} : OneEnabled config.cores ↔ OneEnabled config.networks := by
  rw [OneEnabled, countP_enabled_cores]
  rfl

theorem inside_of_findIdx? {α : Type} {p : α → Bool} {l : List α} {i : Nat} (first : l.findIdx? p = some i) :
    i < l.length := (List.findIdx?_eq_some_iff_getElem.mp first).1

theorem oneEnabled_set {config : AppConfig} {i : Nat} {network network' : NetworkConfig}
    (one : OneEnabled config.networks) (at' : config.networks[i]? = some network)
    (same : network'.enabled = network.enabled) : OneEnabled (config.cores.set i network') := by
  rw [OneEnabled, countP_enabled_set]
  · exact oneEnabled_cores.mpr one
  · rw [getElem?_cores at', Option.map_some, same]
    rfl

/-- One network is enabled after any operation. -/
theorem ConfigOp.Effect.oneEnabled {s : LoadedConfig} {op : ConfigOp} {after : AppConfig}
    (one : OneEnabled s.config.networks) (effect : op.Effect sdk sha256 s after) :
    OneEnabled after.networks := by
  rw [← oneEnabled_cores]
  cases effect with
  | silent plain same cores => rwa [cores, oneEnabled_cores]
  | added same fresh cores =>
    rw [cores, OneEnabled, List.countP_append, countP_enabled_cores]
    exact one
  | removed several present same networks =>
    rw [oneEnabled_cores, AppConfig.networks_normalizePeerAliases,
      AppConfig.networks_normalizeSelectedExitNode, networks]
    refine oneEnabled_promoteFirst ?_ (List.filter_sublist.countP_le.trans (Nat.le_of_eq one))
    have left := removeNetworkEntry_ne_nil s.distinct (removeNetworkEntry_eq_ok.mpr ⟨several, present, rfl⟩)
    rwa [← List.length_pos_iff, length_promoteFirst, List.length_pos_iff] at left
  | switched first same cores =>
    rw [cores]
    exact oneEnabled_enableAt (by simpa [AppConfig.cores] using inside_of_findIdx? first)
  | recorded same parsed first at' outside recorded networks =>
    rw [oneEnabled_cores, networks, OneEnabled, countP_enabled_set]
    · exact one
    · rw [at', Option.map_some]
  | edited same parsed first at' changed cores =>
    rw [cores_normalize, cores]
    have kept := enabled_edit changed
    exact oneEnabled_set one at' kept
  | aliased stored same cores => rwa [cores, oneEnabled_cores]
  | accepted passes named some' =>
    obtain ⟨i, -, at', cores⟩ := @cores_acceptSharedRoster sdk sha256 s.config _ _ passes.found _ _
    rw [cores]
    exact oneEnabled_set one at' rfl
  | importFailed parsed target first unnamed =>
    exact oneEnabled_cores.mpr (oneEnabled_enableOnly (inside_of_findIdx? first))
  | imported parsed target first named at' same cores =>
    have inside := inside_of_findIdx? first
    rw [cores, OneEnabled, countP_enabled_set]
    · exact oneEnabled_enableAt (by simpa [AppConfig.cores] using inside)
    · rw [enabled_mergeInvite]
      simp [enableAt, List.getElem?_mapIdx, getElem?_cores at']
  | defaulted => exact oneEnabled_cores.mpr (oneEnabled_ensureDefaults _ _)

end Operations

/-! ## Runs -/

/-- There is a network, removing one leaves another one, one network is enabled, and `active_network` reads
inside the list. -/
structure ActiveNetworkInvariant (config : AppConfig) : Prop where
  some_network : config.networks ≠ []
  removal : ∀ id after, removeNetworkEntry id config.networks = .ok after → after ≠ []
  one_enabled : config.enabledNetworkCount = 1
  inside : (config.networks.findIdx? NetworkConfig.enabled).getD 0 < config.networks.length

theorem activeNetworkInvariant (s : LoadedConfig) (one : OneEnabled s.config.networks) :
    ActiveNetworkInvariant s.config where
  some_network := s.config.networks_ne
  removal _ _ := removeNetworkEntry_ne_nil s.distinct
  one_enabled := one
  inside := by
    cases first : s.config.networks.findIdx? NetworkConfig.enabled with
    | none => exact List.length_pos_iff.mpr s.config.networks_ne
    | some i => exact inside_of_findIdx? first

/-- A loaded configuration has one enabled network after any operations, failed ones included. -/
theorem one_network_is_active (sdk : NostrSdk) (sha256 : Sha256) (generated : Generated)
    (fields : AppConfig) (networks : List NetworkConfig) (ops : List ConfigOp) :
    ActiveNetworkInvariant
      (run (ConfigOp.apply sdk sha256) (.load sdk sha256 generated fields networks) ops).config := by
  refine activeNetworkInvariant _ ?_
  refine @run_invariant _ _ _ (fun s : LoadedConfig => OneEnabled s.config.networks) (fun s op one => ?_) _ ?_ ops
  · exact (effect_apply s op).oneEnabled one
  · exact oneEnabled_ensureDefaults generated _

end NostrVpn.Invite
