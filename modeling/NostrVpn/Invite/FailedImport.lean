import NostrVpn.Invite.ConfigRuns

/-!
# Imports that fail

`apply_network_invite_to_active_network` switches to a network, which it may have added, before it
normalises the mesh id of the invite. What a failed import leaves behind is that switch.
-/
namespace NostrVpn.Invite

open Rust NostrVpn.Core

/-- The entry id of the configured network that an invite goes to. -/
def configuredTarget (config : AppConfig) (invite : NetworkInvite) : Option String :=
  match config.networks.find? (NetworkConfig.hasMeshId (normalizeRuntimeNetworkId invite.networkId)) with
  | some existing => some existing.id
  | none =>
    if networkShouldAdoptInvite config.activeNetwork then some config.activeNetwork.id else none

/-- The network with the entry id is enabled, and no other one. -/
def EnabledAlone (config : AppConfig) (id : String) : Prop :=
  config.networks.map NetworkConfig.enabled = config.networks.mapIdx fun i _ =>
    some i == config.networks.findIdx? (NetworkConfig.hasEntryId id)

instance (config : AppConfig) (id : String) : Decidable (EnabledAlone config id) :=
  inferInstanceAs (Decidable (_ = _))

/-- The invite has a bad key or a mesh id that stays non-empty, or it goes to the network that is the only
one enabled already. -/
def FailsClean (sdk : NostrSdk) (config : AppConfig) (invite : NetworkInvite) : Prop :=
  (inviteKeys sdk invite).toOption = none ∨ normalizeRuntimeNetworkId invite.networkId ≠ "" ∨
    ∃ id ∈ configuredTarget config invite, EnabledAlone config id

section Import
variable {sdk : NostrSdk} {sha256 : Sha256} {now : Nat} {config base : AppConfig} {invite : NetworkInvite}
  {id : String} {reset : Bool}

theorem enableOnly_eq_self_iff {i : Nat}
    (first : config.networks.findIdx? (NetworkConfig.hasEntryId id) = some i) :
    config.enableOnly i = config ↔ EnabledAlone config id := by
  have networks : config.enableOnly i = config ↔ (config.enableOnly i).networks = config.networks := by
    refine ⟨fun same => congrArg AppConfig.networks same, fun same => ?_⟩
    obtain ⟨networks⟩ := config
    simp only [AppConfig.enableOnly] at same ⊢
    simp only [same]
  rw [networks, EnabledAlone, first, List.ext_getElem?_iff, List.ext_getElem?_iff]
  refine forall_congr' fun j => ?_
  simp only [AppConfig.enableOnly, List.getElem?_mapIdx, List.getElem?_map]
  cases config.networks[j]? with
  | none => simp
  | some network =>
    obtain ⟨⟩ := network
    simp [eq_comm]

theorem configuredTarget_of_target (target : InviteTarget sdk now config invite base id reset) :
    (configuredTarget config invite = some id ∧ base = config) ∨
      (configuredTarget config invite = none ∧ base.networks.length = config.networks.length + 1) := by
  cases target with
  | known found => exact Or.inl ⟨by rw [configuredTarget, found], rfl⟩
  | adopted unknown unused => exact Or.inl ⟨by rw [configuredTarget, unknown]; exact if_pos unused, rfl⟩
  | added unknown used =>
    have longer := congrArg List.length (@addNetwork_spec sdk now config invite.networkName).2.1
    refine Or.inr ⟨by rw [configuredTarget, unknown]; exact if_neg used, ?_⟩
    simpa [AppConfig.cores] using longer

/-- A failed import leaves the configuration as it was exactly when nothing had been switched. -/
theorem failed_import_keeps_config_iff (sdk : NostrSdk) (sha256 : Sha256) (now : Nat) (config : AppConfig)
    (invite : NetworkInvite) :
    (∀ e, (applyNetworkInviteToActiveNetwork sdk sha256 now config invite).1 = .error e →
        (applyNetworkInviteToActiveNetwork sdk sha256 now config invite).2 = config) ↔
      FailsClean sdk config invite := by
  rcases import_cases sdk sha256 now config invite with
    ⟨e, bad, eq⟩ | ⟨keys, base, id, reset, i, parsed, target, first, eq⟩
  · rw [eq]
    exact iff_of_true (fun _ _ => rfl) (Or.inl (by rw [bad]; rfl))
  · rw [eq]
    split_ifs with unnamed
    · have clean : FailsClean sdk config invite ↔ ∃ id ∈ configuredTarget config invite,
          EnabledAlone config id := by
        simp [FailsClean, parsed, unnamed]
      rw [clean]
      rcases configuredTarget_of_target target with ⟨here, rfl⟩ | ⟨nowhere, longer⟩
      · simp [here, enableOnly_eq_self_iff first]
      · have changed : base.enableOnly i ≠ config := fun same => by
          have lengths := congrArg (fun config => config.networks.length) same
          simp only [AppConfig.enableOnly, List.length_mapIdx] at lengths
          omega
        simp [nowhere, changed]
    · exact iff_of_true (fun e failed => by cases failed) (Or.inr (Or.inl unnamed))

end Import

/-! ## A mesh id that is only the legacy prefix -/

/-- The invite of the first sample key for the mesh id that is left of the legacy prefix. -/
def prefixInvite : NetworkInvite where
  v := 3
  networkId := "nostr-vpn:"
  inviterNpub := "79be667ef9dcbbac55a06295ce870b07029bfcdb2dce28d959f2815b16f81798"
  admins := samplePubkeys.take 1

/-- The normalising half of `parse_network_invite` takes the invite as it is, and the import fails after it
has added a network and switched to it. -/
theorem failed_import_adds_network :
    normalizeInvite cliFormat sampleSdk prefixInvite = .ok prefixInvite ∧
      (applyNetworkInviteToActiveNetwork sampleSdk sampleSha256 200 governedConfig prefixInvite).1 =
        .error "network id cannot be empty" ∧
      (applyNetworkInviteToActiveNetwork sampleSdk sampleSha256 200 governedConfig
        prefixInvite).2.networks.map (fun network => (network.id, network.enabled)) =
          [("network-1", false), ("network-2", true)] ∧
      ¬ ∀ e, (applyNetworkInviteToActiveNetwork sampleSdk sampleSha256 200 governedConfig
          prefixInvite).1 = .error e →
        (applyNetworkInviteToActiveNetwork sampleSdk sampleSha256 200 governedConfig prefixInvite).2 =
          governedConfig := by
  have outcome : (applyNetworkInviteToActiveNetwork sampleSdk sampleSha256 200 governedConfig
        prefixInvite).1 = .error "network id cannot be empty" ∧
      (applyNetworkInviteToActiveNetwork sampleSdk sampleSha256 200 governedConfig
        prefixInvite).2.networks.map (fun network => (network.id, network.enabled)) =
          [("network-1", false), ("network-2", true)] := by decide +kernel
  refine ⟨by decide +kernel, outcome.1, outcome.2, fun atomic => ?_⟩
  have same := congrArg (fun config => config.networks.map fun network => (network.id, network.enabled))
    (atomic _ outcome.1)
  exact absurd (outcome.2.symm.trans same) (by decide)

end NostrVpn.Invite
