import NostrVpn.Core.SharedRoster

/-!
# The guards of a shared roster

What `apply_admin_signed_shared_roster` has checked when it changes the configuration, and who may
name the administrators that it stores.
-/
namespace NostrVpn.Core

open Rust

/-- Every check of a roster that stands before the one of its administrators succeeds. -/
structure RosterPasses (sdk : NostrSdk) (now : UInt64) (config : AppConfig)
    (update : SharedRosterUpdate) (signer : String) (network : NetworkConfig)
    (participants : List String) : Prop where
  addressed : normalizeRuntimeNetworkId update.networkId ≠ ""
  signed : normalizeNostrPubkey sdk update.signedBy = .ok signer
  inTime : update.signedAt ≤ saturatingAdd now.toNat maxSharedRosterFutureSecs
  found : config.networks.find?
    (NetworkConfig.hasMeshId (normalizeRuntimeNetworkId update.networkId)) = some network
  admin : signer ∈ network.admins
  newer : network.sharedRosterUpdatedAt < update.signedAt
  parsed : normalizeSharedRosterParticipants sdk update.participants (config.ownPubkey sdk) =
    .ok participants

/-- What holds between a configuration and the one after an accepted roster: the network at
position `i` is the one the roster is for. -/
structure RosterAccepted (sdk : NostrSdk) (now : UInt64) (update : SharedRosterUpdate)
    (before after : AppConfig) (i : Nat) (network accepted : NetworkConfig) (signer : String) :
    Prop where
  first : before.networks.findIdx?
    (NetworkConfig.hasMeshId (normalizeRuntimeNetworkId update.networkId)) = some i
  stored : before.networks[i]? = some network
  replaced : after.networks[i]? = some accepted
  signed : normalizeNostrPubkey sdk update.signedBy = .ok signer
  admin : signer ∈ network.admins
  newer : network.sharedRosterUpdatedAt < update.signedAt
  inTime : update.signedAt ≤ now.toNat + 600
  stamped : accepted.sharedRosterUpdatedAt = update.signedAt
  untouched : ∀ j ≠ i, after.networks[j]? = before.networks[j]?

section Guards
variable {sdk : NostrSdk} {sha256 : Sha256} {now : UInt64} {config : AppConfig}
  {update : SharedRosterUpdate} {signer : String} {network : NetworkConfig}
  {participants : List String}

theorem apply_of_passes (passes : RosterPasses sdk now config update signer network participants)
    (enumerate : HashMap String String → HashMap String String := fun aliases => aliases) :
    config.applyAdminSignedSharedRoster sdk sha256 now update enumerate =
      if normalizeNetworkAdmins sdk update.admins (config.ownPubkey sdk) network.inviteInviter = []
      then (.error "shared roster must include at least one admin", config)
      else (.ok true,
        config.acceptSharedRoster sdk sha256 (normalizeRuntimeNetworkId update.networkId)
          (network.acceptRoster sdk update signer participants
            (normalizeNetworkAdmins sdk update.admins (config.ownPubkey sdk)
              network.inviteInviter)) update.aliases enumerate) := by
  have inTime := Nat.not_lt.mpr passes.inTime
  have newer := Nat.not_le.mpr passes.newer
  simp only [AppConfig.applyAdminSignedSharedRoster, if_neg passes.addressed, passes.signed,
    if_neg inTime, passes.found, passes.admin, not_true_eq_false, if_false, if_neg newer,
    passes.parsed]

/-- A roster that fails a check is not accepted, and nothing has been written by then. -/
theorem apply_of_not_passes
    (fails : ∀ signer network participants,
      ¬ RosterPasses sdk now config update signer network participants)
    (enumerate : HashMap String String → HashMap String String := fun aliases => aliases) :
    (config.applyAdminSignedSharedRoster sdk sha256 now update enumerate).1 ≠ .ok true ∧
      (config.applyAdminSignedSharedRoster sdk sha256 now update enumerate).2 = config := by
  unfold AppConfig.applyAdminSignedSharedRoster
  dsimp only
  split
  · simp
  rename_i addressed
  split
  · simp
  rename_i signer signed
  split
  · simp
  rename_i inTime
  split
  · simp
  rename_i network found
  split
  · simp
  rename_i admin
  split
  · simp
  rename_i newer
  split
  · simp
  rename_i participants parsed
  exact absurd ⟨addressed, signed, Nat.not_lt.mp inTime, found, not_not.mp admin,
    Nat.not_le.mp newer, parsed⟩ (fails signer network participants)

/-- What an accepted roster leaves in the networks. -/
theorem accepted_of_passes
    (passes : RosterPasses sdk now config update signer network participants)
    (admins : List String) :
    ∃ i, RosterAccepted sdk now update config
      (config.acceptSharedRoster sdk sha256 (normalizeRuntimeNetworkId update.networkId)
        (network.acceptRoster sdk update signer participants admins) update.aliases) i network
      (network.acceptRoster sdk update signer participants admins) signer := by
  obtain ⟨selected, i, hi, at', before⟩ := List.find?_eq_some_iff_getElem.mp passes.found
  have stored : config.networks[i]? = some network := by rw [List.getElem?_eq_getElem hi, at']
  have first : config.networks.findIdx?
      (NetworkConfig.hasMeshId (normalizeRuntimeNetworkId update.networkId)) = some i :=
    List.findIdx?_eq_some_iff_getElem.mpr ⟨hi, at' ▸ selected, by simpa using before⟩
  have moved (j : Nat) := getElem?_modifyFirst_findIdx
    (f := fun _ => network.acceptRoster sdk update signer participants admins) first j
  refine ⟨i, first, stored, ?_, passes.signed, passes.admin, passes.newer, ?_, rfl, ?_⟩
  · rw [networks_acceptSharedRoster, moved, if_pos rfl, stored]
    rfl
  · have inTime := passes.inTime
    simp only [saturatingAdd, maxSharedRosterFutureSecs] at inTime
    omega
  · intro j other
    rw [networks_acceptSharedRoster, moved, if_neg other]

/-- A roster is refused and nothing is written, or it is accepted. -/
theorem refused_or_accepted (sdk : NostrSdk) (sha256 : Sha256) (now : UInt64) (config : AppConfig)
    (update : SharedRosterUpdate) :
    ((config.applyAdminSignedSharedRoster sdk sha256 now update).1 ≠ .ok true ∧
      (config.applyAdminSignedSharedRoster sdk sha256 now update).2 = config) ∨
    ((config.applyAdminSignedSharedRoster sdk sha256 now update).1 = .ok true ∧
      ∃ i network accepted signer, RosterAccepted sdk now update config
        (config.applyAdminSignedSharedRoster sdk sha256 now update).2 i network accepted signer) := by
  by_cases passes : ∃ signer network participants,
      RosterPasses sdk now config update signer network participants
  · obtain ⟨signer, network, participants, passes⟩ := passes
    have outcome := @apply_of_passes sdk sha256 now config update signer network participants passes
    obtain ⟨i, accepted⟩ := @accepted_of_passes sdk sha256 now config update signer network
      participants passes (normalizeNetworkAdmins sdk update.admins (config.ownPubkey sdk)
        network.inviteInviter)
    rw [outcome]
    split_ifs
    · exact Or.inl ⟨fun eq => (by cases eq), rfl⟩
    · exact Or.inr ⟨rfl, i, network, _, signer, accepted⟩
  · simp only [not_exists] at passes
    exact Or.inl (apply_of_not_passes passes)

end Guards

/-- A roster that is not accepted changes nothing; an accepted one was signed by an administrator,
is newer than the stored one, and replaces one network. -/
theorem shared_roster_atomic (sdk : NostrSdk) (sha256 : Sha256) (now : UInt64) (config : AppConfig)
    (update : SharedRosterUpdate) :
    ((config.applyAdminSignedSharedRoster sdk sha256 now update).1 ≠ .ok true →
      (config.applyAdminSignedSharedRoster sdk sha256 now update).2 = config) ∧
    ((config.applyAdminSignedSharedRoster sdk sha256 now update).1 = .ok true →
      ∃ i network accepted signer, RosterAccepted sdk now update config
        (config.applyAdminSignedSharedRoster sdk sha256 now update).2 i network accepted signer) := by
  rcases refused_or_accepted sdk sha256 now config update with ⟨refused, same⟩ | ⟨ok, accepted⟩
  · exact ⟨fun _ => same, fun accepted => absurd accepted refused⟩
  · exact ⟨fun refused => absurd ok refused, fun _ => accepted⟩

/-! ## Who names the administrators -/

/-- The admins of a roster that are keys. -/
def SharedRosterUpdate.adminKeys (sdk : NostrSdk) (update : SharedRosterUpdate) : List String :=
  update.admins.filterMap (normalPubkey? sdk)

/-- A roster without a key among its admins is refused, and an accepted roster stores the keys among
its admins. -/
structure RosterNamesAdmins (sdk : NostrSdk) (sha256 : Sha256) (now : UInt64) (config : AppConfig)
    (update : SharedRosterUpdate) : Prop where
  refused : update.adminKeys sdk = [] →
    (config.applyAdminSignedSharedRoster sdk sha256 now update).1 ≠ .ok true ∧
      (config.applyAdminSignedSharedRoster sdk sha256 now update).2 = config
  exact : (config.applyAdminSignedSharedRoster sdk sha256 now update).1 = .ok true →
    ∃ i accepted,
      config.networks.findIdx?
        (NetworkConfig.hasMeshId (normalizeRuntimeNetworkId update.networkId)) = some i ∧
      (config.applyAdminSignedSharedRoster sdk sha256 now update).2.networks[i]? = some accepted ∧
      ∀ key, key ∈ accepted.admins ↔ key ∈ update.adminKeys sdk

/-- The normaliser has nobody to put in the place of the admins that a roster does not name. -/
def NoFallbackAdmin (sdk : NostrSdk) (config : AppConfig) (network : NetworkConfig) : Prop :=
  normalPubkey? sdk network.inviteInviter = none ∧ config.ownPubkey sdk = none

theorem normalizeNetworkAdmins_of_named {sdk : NostrSdk} {admins : List String}
    (named : admins.filterMap (normalPubkey? sdk) ≠ []) (own : Option String)
    (inviteInviter : String) :
    normalizeNetworkAdmins sdk admins own inviteInviter =
      sortDedup (admins.filterMap (normalPubkey? sdk)) := by
  obtain ⟨key, mem⟩ := List.exists_mem_of_ne_nil _ named
  rw [normalizeNetworkAdmins]
  exact if_pos (List.ne_nil_of_mem (mem_sortDedup.mpr mem))

theorem normalizeNetworkAdmins_eq_nil_iff {sdk : NostrSdk} {admins : List String}
    (unnamed : admins.filterMap (normalPubkey? sdk) = []) (config : AppConfig)
    (network : NetworkConfig) :
    normalizeNetworkAdmins sdk admins (config.ownPubkey sdk) network.inviteInviter = [] ↔
      NoFallbackAdmin sdk config network := by
  simp only [normalizeNetworkAdmins, unnamed, NoFallbackAdmin]
  cases normalPubkey? sdk network.inviteInviter <;> cases config.ownPubkey sdk <;> simp [sortDedup]

/-- The inviter and the node itself stand in for the admins that a roster does not name. -/
theorem rosterNamesAdmins_iff (sdk : NostrSdk) (sha256 : Sha256) (now : UInt64)
    (config : AppConfig) (update : SharedRosterUpdate) :
    RosterNamesAdmins sdk sha256 now config update ↔
      update.adminKeys sdk ≠ [] ∨
        ∀ signer network participants,
          RosterPasses sdk now config update signer network participants →
            NoFallbackAdmin sdk config network := by
  constructor
  · intro names
    by_cases unnamed : update.adminKeys sdk = []
    · refine Or.inr fun signer network participants passes => ?_
      have refused := (names.refused unnamed).1
      rw [apply_of_passes passes] at refused
      rw [← normalizeNetworkAdmins_eq_nil_iff unnamed]
      by_contra fallback
      simp [fallback] at refused
    · exact Or.inl unnamed
  · intro named
    by_cases passes : ∃ signer network participants,
      RosterPasses sdk now config update signer network participants
    · obtain ⟨signer, network, participants, passes⟩ := passes
      have outcome := @apply_of_passes sdk sha256 now config update signer network participants passes
      constructor
      · intro unnamed
        have none' := (named.resolve_left (not_not.mpr unnamed)) signer network participants passes
        rw [outcome, if_pos ((normalizeNetworkAdmins_eq_nil_iff unnamed config network).mpr none')]
        simp
      · intro accepted
        have keys : update.adminKeys sdk ≠ [] := by
          intro unnamed
          have none' := (named.resolve_left (not_not.mpr unnamed)) signer network participants passes
          rw [outcome, if_pos ((normalizeNetworkAdmins_eq_nil_iff unnamed config network).mpr none')]
            at accepted
          cases accepted
        have stored := normalizeNetworkAdmins_of_named keys (config.ownPubkey sdk)
          network.inviteInviter
        rw [outcome] at accepted ⊢
        split_ifs at accepted ⊢ with none'
        obtain ⟨i, h⟩ := @accepted_of_passes sdk sha256 now config update signer network
          participants passes (normalizeNetworkAdmins sdk update.admins (config.ownPubkey sdk)
            network.inviteInviter)
        refine ⟨i, _, h.first, h.replaced, fun key => ?_⟩
        rw [show (network.acceptRoster sdk update signer participants _).admins = _ from rfl, stored]
        exact mem_sortDedup
    · simp only [not_exists] at passes
      have outcome := @apply_of_not_passes sdk sha256 now config update passes
      exact ⟨fun _ => outcome, fun accepted => absurd accepted outcome.1⟩

/-- A network that was joined through an invite of its administrator. -/
def sampleJoinedConfig : AppConfig where
  networks := [{ sampleNetwork with inviteInviter := samplePubkeys.headD "" }]
  node := { id := "node-1" }

/-- A roster of the administrator that names no administrator. -/
def sampleHeadlessRoster : SharedRosterUpdate :=
  { sampleRoster 100 "c6047f9441ed7d6d3045406e95c07cd85c778e4b8cef3ca7abac09b95c709ee5" with
    admins := [] }

/-- The inviter becomes the administrator of a roster that names none. -/
theorem headless_roster_accepted :
    ¬ ∀ (sdk : NostrSdk) (sha256 : Sha256) (now : UInt64) (config : AppConfig)
      (update : SharedRosterUpdate), RosterNamesAdmins sdk sha256 now config update := by
  intro names
  have refused := ((names sampleSdk sampleSha256 200 sampleJoinedConfig sampleHeadlessRoster).refused
    (by decide +kernel)).1
  revert refused
  decide +kernel

end NostrVpn.Core
