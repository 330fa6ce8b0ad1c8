import NostrVpn.Core.ConfigOps
import NostrVpn.Core.RosterGuards

/-!
# Publishing an accepted roster

A node stores an accepted roster without itself, and `shared_network_roster` exports what is stored with the
node added to it. The export has the time of the accepted roster.
-/
namespace NostrVpn.Core

open Rust

/-- The export has the keys, the name and the time of the update; a name is stored without the blanks around
it. -/
structure Republishes (sdk : NostrSdk) (update : SharedRosterUpdate) (roster : SharedNetworkRoster) : Prop where
  participants : roster.participants = sortDedup (update.participants.filterMap (normalPubkey? sdk))
  admins : roster.admins = sortDedup (update.adminKeys sdk)
  name : isBlank update.networkName = false → roster.name = trim update.networkName
  updatedAt : roster.updatedAt = update.signedAt

section Export
variable {sdk : NostrSdk} {sha256 : Sha256} {now : UInt64} {config : AppConfig} {update : SharedRosterUpdate}
  {network : NetworkConfig} {participants : List String} {signer key own : String}

theorem sortDedup_eq_iff {l l' : List String} : sortDedup l = sortDedup l' ↔ ∀ s, s ∈ l ↔ s ∈ l' := by
  refine ⟨fun same s => ?_, sortDedup_congr⟩
  rw [← mem_sortDedup, same, mem_sortDedup]

/-- The participants that are stored are the other ones. -/
theorem mem_normalizeSharedRosterParticipants {texts : List String} {self : Option String}
    (parsed : normalizeSharedRosterParticipants sdk texts self = .ok participants) :
    key ∈ participants ↔ key ∈ texts.filterMap (normalPubkey? sdk) ∧ some key ≠ self := by
  unfold normalizeSharedRosterParticipants at parsed
  obtain ⟨keys, mapped, stored⟩ := bind_eq_ok.mp parsed
  obtain ⟨-, rfl⟩ := mapM_eq_ok.mp mapped
  obtain rfl := Except.ok.inj stored
  rw [mem_sortDedup, List.mem_filter, decide_eq_true_eq]
  rfl

/-- The node comes back into the participants that it was taken out of. -/
theorem exported_participants_iff
    (parsed : normalizeSharedRosterParticipants sdk update.participants (some own) = .ok participants) :
    sortDedup (participants ++ [own]) = sortDedup (update.participants.filterMap (normalPubkey? sdk)) ↔
      own ∈ update.participants.filterMap (normalPubkey? sdk) := by
  have stored (s : String) : s ∈ participants ++ [own] ↔
      s ∈ update.participants.filterMap (normalPubkey? sdk) ∨ s = own := by
    rw [List.mem_append, mem_normalizeSharedRosterParticipants parsed, List.mem_singleton]
    by_cases self : s = own <;> simp [self]
  rw [sortDedup_eq_iff]
  constructor
  · intro same
    exact (same own).mp ((stored own).mpr (Or.inr rfl))
  · intro listed s
    rw [stored]
    exact ⟨fun either => either.elim id (· ▸ listed), Or.inl⟩

/-- The admins that are stored are the ones of the roster when it names one. -/
theorem exported_admins_iff {self : Option String} {inviteInviter : String}
    (somebody : normalizeNetworkAdmins sdk update.admins self inviteInviter ≠ []) :
    sortDedup (normalizeNetworkAdmins sdk update.admins self inviteInviter) =
        sortDedup (update.adminKeys sdk) ↔ update.adminKeys sdk ≠ [] := by
  rw [sortDedup_eq_iff]
  constructor
  · intro same unnamed
    obtain ⟨admin, mem⟩ := List.exists_mem_of_ne_nil _ somebody
    have named := (same admin).mp mem
    rw [unnamed] at named
    cases named
  · intro named s
    rw [normalizeNetworkAdmins_of_named named, mem_sortDedup]
    rfl

/-- The network that a roster replaced is exported under its entry id when the id was the one of no network
before it. -/
theorem networkById_acceptSharedRoster {meshId : String} {accepted : NetworkConfig}
    {aliases : HashMap String String}
    (found : config.networks.find? (NetworkConfig.hasMeshId meshId) = some network)
    (entry : config.networkById network.id = some network) (same : accepted.id = network.id) :
    (config.acceptSharedRoster sdk sha256 meshId accepted aliases).networkById network.id = some accepted := by
  rw [AppConfig.networkById, networks_acceptSharedRoster]
  exact find?_modifyFirst_of_first found entry (by simp [NetworkConfig.hasEntryId, same])

/-- What the node exports once a roster has passed the checks. -/
theorem republishes_of_passes
    (passes : RosterPasses sdk now config update signer network participants)
    (entry : config.networkById network.id = some network) (self : config.ownPubkey sdk = some own)
    (somebody : normalizeNetworkAdmins sdk update.admins (some own) network.inviteInviter ≠ []) :
    (∃ roster, (config.applyAdminSignedSharedRoster sdk sha256 now update).2.sharedNetworkRoster sdk
        network.id = .ok roster ∧ Republishes sdk update roster) ↔
      own ∈ update.participants.filterMap (normalPubkey? sdk) ∧ update.adminKeys sdk ≠ [] := by
  have parsed := passes.parsed
  rw [self] at parsed
  rw [apply_of_passes passes, self, if_neg somebody]
  have exported := @networkById_acceptSharedRoster sdk sha256 config network _
    (network.acceptRoster sdk update signer participants
      (normalizeNetworkAdmins sdk update.admins (some own) network.inviteInviter)) update.aliases
    passes.found entry rfl
  rw [← exported_participants_iff parsed, ← exported_admins_iff somebody]
  simp only [AppConfig.sharedNetworkRoster, exported, ownPubkey_acceptSharedRoster, self]
  constructor
  · rintro ⟨roster, made, republished⟩
    obtain rfl := Except.ok.inj made
    exact ⟨republished.participants, republished.admins⟩
  · rintro ⟨sameParticipants, sameAdmins⟩
    refine ⟨_, rfl, sameParticipants, sameAdmins, fun named => ?_, rfl⟩
    simp [NetworkConfig.acceptRoster, named]

end Export

/-- An administrator exports the roster that it accepted when the roster has the administrator among its
participants and names an admin. -/
theorem roster_republished_iff (sdk : NostrSdk) (sha256 : Sha256) (now : UInt64) (config : AppConfig)
    (update : SharedRosterUpdate) (network : NetworkConfig) (own : String)
    (accepted : (config.applyAdminSignedSharedRoster sdk sha256 now update).1 = .ok true)
    (found : config.networks.find?
      (NetworkConfig.hasMeshId (normalizeRuntimeNetworkId update.networkId)) = some network)
    (entry : config.networkById network.id = some network) (self : config.ownPubkey sdk = some own) :
    (∃ roster, (config.applyAdminSignedSharedRoster sdk sha256 now update).2.sharedNetworkRoster sdk
        network.id = .ok roster ∧ Republishes sdk update roster) ↔
      own ∈ update.participants.filterMap (normalPubkey? sdk) ∧ update.adminKeys sdk ≠ [] := by
  by_cases passes : ∃ signer network participants,
      RosterPasses sdk now config update signer network participants
  · obtain ⟨signer, other, participants, passes⟩ := passes
    obtain rfl : other = network := Option.some.inj (passes.found.symm.trans found)
    refine republishes_of_passes passes entry self fun nobody => ?_
    rw [apply_of_passes passes, self, if_pos nobody] at accepted
    cases accepted
  · simp only [not_exists] at passes
    exact absurd accepted (apply_of_not_passes passes).1

/-- The second sample key administers the network together with the first one. -/
def sampleAdminNetwork : NetworkConfig := { sampleNetwork with admins := samplePubkeys.take 2 }

def sampleAdminConfig : AppConfig where
  networks := [sampleAdminNetwork]
  nostr := { publicKey := "npub1ccz8l9zpa47k6vz9gphftsrumpw80rjt3nhnefat4symjhrsnmjs38mnyd" }
  node := { id := "node-1" }

/-- A roster of the first administrator with these participants that keeps both administrators. -/
def sampleAdminRoster (participants : List String) : SharedRosterUpdate where
  networkId := "mesh-home"
  networkName := "Home"
  participants
  admins := samplePubkeys.take 2
  signedAt := 100
  signedBy := "npub10xlxvlhemja6c4dqv22uapctqupfhlxm9h8z3k2e72q4k9hcz7vqpkge6d"

def sampleAdministrator : String := "c6047f9441ed7d6d3045406e95c07cd85c778e4b8cef3ca7abac09b95c709ee5"

theorem sampleAdministrator_known : sampleAdminConfig.networks.find?
      (NetworkConfig.hasMeshId (normalizeRuntimeNetworkId "mesh-home")) = some sampleAdminNetwork ∧
    sampleAdminConfig.networkById sampleAdminNetwork.id = some sampleAdminNetwork ∧
    sampleAdminConfig.ownPubkey sampleSdk = some sampleAdministrator ∧
    sampleAdministrator ∈ sampleAdminNetwork.admins := by
  decide +kernel

theorem roster_with_administrator_republished :
    ∃ roster, (sampleAdminConfig.applyAdminSignedSharedRoster sampleSdk sampleSha256 200
        (sampleAdminRoster (samplePubkeys.drop 1))).2.sharedNetworkRoster sampleSdk "network-1" = .ok roster ∧
      Republishes sampleSdk (sampleAdminRoster (samplePubkeys.drop 1)) roster := by
  obtain ⟨found, entry, self, -⟩ := sampleAdministrator_known
  exact (roster_republished_iff sampleSdk sampleSha256 200 sampleAdminConfig
    (sampleAdminRoster (samplePubkeys.drop 1)) sampleAdminNetwork sampleAdministrator (by decide +kernel) found entry self).mpr (by decide +kernel)

/-- An administrator that a roster leaves out is in the roster of the same second that it publishes. -/
theorem administrator_returns_to_roster :
    ¬ ∀ (sdk : NostrSdk) (sha256 : Sha256) (now : UInt64) (config : AppConfig) (update : SharedRosterUpdate)
      (network : NetworkConfig) (own : String),
      (config.applyAdminSignedSharedRoster sdk sha256 now update).1 = .ok true →
      config.networks.find?
        (NetworkConfig.hasMeshId (normalizeRuntimeNetworkId update.networkId)) = some network →
      config.networkById network.id = some network → config.ownPubkey sdk = some own →
      own ∈ network.admins →
      ∃ roster, (config.applyAdminSignedSharedRoster sdk sha256 now update).2.sharedNetworkRoster sdk
          network.id = .ok roster ∧ Republishes sdk update roster := by
  intro republish
  have facts : (sampleAdminConfig.applyAdminSignedSharedRoster sampleSdk sampleSha256 200
        (sampleAdminRoster (samplePubkeys.drop 2))).1 = .ok true ∧
      ((sampleAdminConfig.applyAdminSignedSharedRoster sampleSdk sampleSha256 200
        (sampleAdminRoster (samplePubkeys.drop 2))).2.sharedNetworkRoster sampleSdk "network-1").toOption.map
          SharedNetworkRoster.participants = some (samplePubkeys.drop 1) ∧
      sortDedup ((sampleAdminRoster (samplePubkeys.drop 2)).participants.filterMap (normalPubkey? sampleSdk)) ≠
        samplePubkeys.drop 1 := by decide +kernel
  obtain ⟨accepted, participants, others⟩ := facts
  obtain ⟨found, entry, self, administers⟩ := sampleAdministrator_known
  obtain ⟨roster, exported, republished⟩ := republish sampleSdk sampleSha256 200 sampleAdminConfig
    (sampleAdminRoster (samplePubkeys.drop 2)) sampleAdminNetwork sampleAdministrator accepted found entry self
    administers
  have exported : (sampleAdminConfig.applyAdminSignedSharedRoster sampleSdk sampleSha256 200
      (sampleAdminRoster (samplePubkeys.drop 2))).2.sharedNetworkRoster sampleSdk "network-1" = .ok roster := exported
  rw [exported] at participants
  exact others (republished.participants.symm.trans (Option.some.inj participants))

end NostrVpn.Core
