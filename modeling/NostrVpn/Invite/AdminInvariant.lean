import NostrVpn.Invite.ConfigNetworks
import NostrVpn.Invite.FailedImport
import NostrVpn.Invite.MeshRouting

/-!
# Administrators of the networks

Whether every network has an administrator and its inviter is one of them. The edits of a roster keep that,
and a merged invite restores it; a network that has just been added, a roster that leaves out its signer and
a file whose inviter is no admin break it.
-/
namespace NostrVpn.Invite

open Rust NostrVpn.Core Transition

-- Terms with texts are compared without reading the texts.
attribute [local irreducible] String.toList

/-- A network with an administrator, whose inviter is empty or an administrator. -/
def Administered (network : NetworkConfig) : Prop :=
  network.admins ≠ [] ∧ (network.inviteInviter = "" ∨ network.inviteInviter ∈ network.admins)

instance (network : NetworkConfig) : Decidable (Administered network) :=
  inferInstanceAs (Decidable (_ ∧ (_ ∨ _)))

/-- Every network of a node with a key of its own is administered. -/
def AdminInvariant (sdk : NostrSdk) (config : AppConfig) : Prop :=
  config.ownPubkey sdk ≠ none → ∀ network ∈ config.networks, Administered network

instance (sdk : NostrSdk) (config : AppConfig) : Decidable (AdminInvariant sdk config) :=
  inferInstanceAs (Decidable (_ → ∀ _ ∈ _, _))

/-- The inviter of every network, where it is a key, is among the admins that are keys, if there are any. -/
def InvitersAdminister (sdk : NostrSdk) (networks : List NetworkConfig) : Prop :=
  ∀ network ∈ networks, ∀ inviter ∈ normalPubkey? sdk network.inviteInviter,
    network.admins.filterMap (normalPubkey? sdk) = [] ∨
      inviter ∈ network.admins.filterMap (normalPubkey? sdk)

instance (sdk : NostrSdk) (networks : List NetworkConfig) : Decidable (InvitersAdminister sdk networks) :=
  inferInstanceAs (Decidable (∀ _ ∈ _, ∀ _ ∈ _, _))

/-- The step adds no network without an admin: a roster that is accepted names its signer or the inviter
of its network among its admins, an import that has to add a network has a mesh id, and defaults are filled
in where the inviters administer. -/
def ConfigOp.KeepsAdmins (sdk : NostrSdk) (s : LoadedConfig) : ConfigOp → Prop
  | .addNetwork _ _ => s.config.ownPubkey sdk = none
  | .applyRoster now update => ∀ signer network participants,
      RosterPasses sdk now s.config update signer network participants →
        network.inviteInviter ∈ normalizeNetworkAdmins sdk update.admins (s.config.ownPubkey sdk)
            network.inviteInviter ∨
          signer ∈ normalizeNetworkAdmins sdk update.admins (s.config.ownPubkey sdk) network.inviteInviter
  | .importInvite _ invite => (inviteKeys sdk invite).toOption = none ∨
      normalizeRuntimeNetworkId invite.networkId ≠ "" ∨ configuredTarget s.config invite ≠ none
  | .ensureDefaults _ => InvitersAdminister sdk s.config.networks
  | _ => True

/-! ## One network -/

section Network
variable {sdk : NostrSdk} {network network' : NetworkConfig} {key : String}

/-- An administered network that lists every administrator once. -/
structure Settled (network : NetworkConfig) : Prop where
  administered : Administered network
  nodup : network.admins.Nodup

theorem settled_withoutAdmin (settled : Settled network)
    (other : ∃ admin ∈ network.admins, admin ≠ key) : Settled (network.withoutAdmin key) := by
  obtain ⟨⟨-, inviter⟩, nodup⟩ := settled
  obtain ⟨admin, listed, differs⟩ := other
  have left : network.admins.filter (· ≠ key) ≠ [] :=
    List.ne_nil_of_mem (List.mem_filter.mpr ⟨listed, by simpa using differs⟩)
  refine ⟨⟨left, ?_⟩, nodup.filter _⟩
  simp only [NetworkConfig.withoutAdmin]
  split_ifs with removed
  · right
    obtain ⟨first, rest, eq⟩ := List.exists_cons_of_ne_nil left
    rw [eq]
    simp
  · rcases inviter with none' | listed'
    · exact Or.inl none'
    · exact Or.inr (List.mem_filter.mpr ⟨listed', by simpa using removed⟩)

theorem exists_other_admin (nodup : network.admins.Nodup) (several : 1 < network.admins.length) :
    ∃ admin ∈ network.admins, admin ≠ key := by
  by_contra none'
  have all : ∀ admin ∈ network.admins, admin = key := by simpa using none'
  have same := List.eq_replicate_of_mem all
  rw [same] at nodup
  have one := List.nodup_replicate.mp nodup
  omega

/-- The edits of a roster. -/
theorem settled_edit {action : RosterEditAction} (settled : Settled network)
    (changed : action.edit key network = .ok network') : Settled network' := by
  obtain ⟨⟨some', inviter⟩, nodup⟩ := settled
  cases action with
  | AddParticipant =>
    obtain rfl := Except.ok.inj changed
    exact ⟨⟨some', inviter⟩, nodup⟩
  | RemoveParticipant =>
    simp only [RosterEditAction.edit] at changed
    split_ifs at changed with last
    obtain rfl := Except.ok.inj changed
    have other : ∃ admin ∈ network.admins, admin ≠ key := by
      by_cases listed : key ∈ network.admins
      · have several : network.admins.length ≠ 1 := fun one => last ⟨one, by simpa using listed⟩
        have positive := List.length_pos_iff.mpr some'
        exact exists_other_admin nodup (by omega)
      · obtain ⟨admin, mem⟩ := List.exists_mem_of_ne_nil _ some'
        exact ⟨admin, mem, fun same => listed (same ▸ mem)⟩
    obtain ⟨administered, nodup⟩ := settled_withoutAdmin ⟨⟨some', inviter⟩, nodup⟩ other
    exact ⟨administered, nodup⟩
  | AddAdmin =>
    obtain rfl := Except.ok.inj changed
    have listed : key ∈ addKey key network.admins := mem_addKey.mpr (Or.inr rfl)
    refine ⟨⟨List.ne_nil_of_mem listed, ?_⟩, nodup_addKey nodup⟩
    dsimp only
    split_ifs with none'
    · exact Or.inr listed
    · exact Or.inr (mem_addKey.mpr (Or.inl (inviter.resolve_left none')))
  | RemoveAdmin =>
    simp only [RosterEditAction.edit] at changed
    split_ifs at changed with last
    obtain rfl := Except.ok.inj changed
    exact settled_withoutAdmin ⟨⟨some', inviter⟩, nodup⟩ (exists_other_admin nodup (by omega))

theorem nodup_normalizeNetworkAdmins (admins : List String) (own : Option String) (inviter : String) :
    (normalizeNetworkAdmins sdk admins own inviter).Nodup := by
  unfold normalizeNetworkAdmins
  dsimp only
  split_ifs
  · exact nodup_sortDedup _
  · cases normalPubkey? sdk inviter with
    | some _ => simp
    | none => cases own <;> simp

theorem settled_mergeInvite (own : Option String) (keys : InviteKeys) (reset : Bool)
    (network : NetworkConfig) : Settled (mergeInvite own keys reset network) := by
  have listed (admins : List String) : keys.inviter ∈ sortDedup (pushUnique admins keys.inviter) :=
    mem_sortDedup.mpr (mem_pushUnique.mpr (Or.inr rfl))
  refine ⟨⟨List.ne_nil_of_mem (listed _), Or.inr ?_⟩, nodup_sortDedup _⟩
  simp only [mergeInvite, listed, if_true]

theorem settled_ensureDefaults (lawful : sdk.Lawful) {own : Option String} (some' : own ≠ none)
    (inviters : ∀ inviter ∈ normalPubkey? sdk network.inviteInviter,
      network.admins.filterMap (normalPubkey? sdk) = [] ∨
        inviter ∈ network.admins.filterMap (normalPubkey? sdk)) (ordinal : Nat) (used : List String) :
    Settled (network.ensureDefaults sdk own ordinal used) := by
  have admins (inviter : String) : normalizeNetworkAdmins sdk network.admins own inviter ≠ [] := by
    unfold normalizeNetworkAdmins
    dsimp only
    split_ifs with listed
    · exact listed
    · cases normalPubkey? sdk inviter with
      | some _ => simp
      | none => cases own <;> simp_all
  refine ⟨⟨admins _, ?_⟩, nodup_normalizeNetworkAdmins _ _ _⟩
  simp only [NetworkConfig.ensureDefaults]
  cases parsed : normalPubkey? sdk network.inviteInviter with
  | none => exact Or.inl rfl
  | some inviter =>
    right
    rw [Option.getD_some]
    rcases inviters inviter parsed with none' | listed
    · have again : normalPubkey? sdk inviter = some inviter :=
        normalPubkey?_eq_some.mpr (lawful.parse_hex (normalPubkey?_eq_some.mp parsed))
      simp [normalizeNetworkAdmins, none', again, sortDedup]
    · rw [normalizeNetworkAdmins_of_named (List.ne_nil_of_mem listed)]
      exact mem_sortDedup.mpr listed

end Network

/-! ## Runs -/

section Runs
variable {sdk : NostrSdk} {sha256 : Sha256}

def AdminsSettled (sdk : NostrSdk) (s : LoadedConfig) : Prop :=
  s.config.ownPubkey sdk ≠ none → ∀ network ∈ s.config.networks, Settled network

theorem settled_core {network : NetworkConfig} : Settled network.core ↔ Settled network :=
  ⟨fun settled => ⟨settled.administered, settled.nodup⟩,
    fun settled => ⟨settled.administered, settled.nodup⟩⟩

theorem adminsSettled_apply (lawful : sdk.Lawful) {s : LoadedConfig} (settled : AdminsSettled sdk s)
    {op : ConfigOp} (keeps : op.KeepsAdmins sdk s) : AdminsSettled sdk (op.apply sdk sha256 s) := by
  intro own network listed
  have effect := @effect_apply sdk sha256 s op
  obtain ⟨enabled, core, eq, which⟩ := effect.stands_or_writes (List.mem_map_of_mem listed)
  have before (plain : ∀ generated, op ≠ .ensureDefaults generated) :
      s.config.ownPubkey sdk ≠ none := by
    rcases effect.ownPubkey with same | ⟨generated, rfl, -⟩
    · rwa [same] at own
    · exact absurd rfl (plain generated)
  suffices here : Settled core by
    refine settled_core.mp ?_
    rw [eq]
    exact ⟨here.administered, here.nodup⟩
  rcases which with ⟨old, plain⟩ | written
  · obtain ⟨network, listed, rfl⟩ := List.mem_map.mp old
    exact settled_core.mpr (settled (before plain) network listed)
  · cases written with
    | added => exact absurd keeps (before nofun)
    | recorded mem parsed outside recorded =>
      have settled := settled (before nofun) _ mem
      exact ⟨settled.administered, settled.nodup⟩
    | edited parsed found changed =>
      have settled := settled (before nofun) _ (List.mem_of_find?_eq_some found)
      exact settled_core.mpr (settled_edit settled changed)
    | accepted passes named some' =>
      have inviter := keeps _ _ _ passes
      rw [named] at inviter
      refine ⟨⟨some', ?_⟩, named ▸ nodup_normalizeNetworkAdmins _ _ _⟩
      simp only [NetworkConfig.core, NetworkConfig.acceptRoster]
      split_ifs with kept
      · exact Or.inr kept
      · exact Or.inr (inviter.resolve_left kept)
    | abandoned parsed unknown used unnamed =>
      rcases keeps with bad | named | configured
      · rw [parsed] at bad
        cases bad
      · exact absurd unnamed named
      · refine absurd ?_ configured
        rw [configuredTarget, unknown]
        exact if_neg used
    | merged parsed target first named at' => exact settled_mergeInvite _ _ _ _
    | defaulted mem =>
      have some' := @ownPubkey_ensureDefaults sdk sha256 _ s.config ▸ own
      exact settled_core.mpr (settled_ensureDefaults lawful some' (keeps _ mem) _ _)

theorem settled_of_mem_ensureDefaults (lawful : sdk.Lawful) {generated : Generated} {config : AppConfig}
    (inviters : InvitersAdminister sdk config.networks)
    (own : (config.ensureDefaults sdk sha256 generated).ownPubkey sdk ≠ none) :
    ∀ network ∈ (config.ensureDefaults sdk sha256 generated).networks, Settled network := by
  intro network listed
  obtain ⟨i, cores⟩ := @cores_ensureDefaults sdk sha256 generated config
  have mem : network.core ∈ (config.ensureDefaults sdk sha256 generated).cores :=
    List.mem_map_of_mem listed
  obtain ⟨enabled, core, made, eq⟩ := stands_enableAt (cores ▸ mem)
  obtain ⟨network', filled, rfl⟩ := List.mem_map.mp made
  obtain ⟨old, before, ordinal, used, rfl⟩ := mem_ensureNetworks filled
  have settled := settled_ensureDefaults lawful (@ownPubkey_ensureDefaults sdk sha256 generated _ ▸ own)
    (inviters old before) ordinal used
  refine settled_core.mp ?_
  rw [eq]
  exact ⟨settled.administered, settled.nodup⟩

theorem adminsSettled_load (lawful : sdk.Lawful) (generated : Generated) (fields : AppConfig)
    {networks : List NetworkConfig} (file : InvitersAdminister sdk networks) :
    AdminsSettled sdk (.load sdk sha256 generated fields networks) := by
  have inviters : InvitersAdminister sdk (if networks = [] then [defaultNetwork] else networks) := by
    split_ifs
    · intro network mem _ _
      obtain rfl := List.mem_singleton.mp mem
      exact Or.inl rfl
    · exact file
  exact settled_of_mem_ensureDefaults lawful inviters

/-- In a run that adds no network without an admin, from a file whose inviters administer, every network is
administered at every state. -/
theorem every_network_is_administered {sdk : NostrSdk} (lawful : sdk.Lawful) (sha256 : Sha256)
    (generated : Generated) (fields : AppConfig) {networks : List NetworkConfig}
    (file : InvitersAdminister sdk networks) {ops : List ConfigOp}
    (keeps : Along (ConfigOp.apply sdk sha256) (fun s op => op.KeepsAdmins sdk s)
      (.load sdk sha256 generated fields networks) ops) :
    AdminInvariant sdk (LoadedConfig.load sdk sha256 generated fields networks).config ∧
      Along (ConfigOp.apply sdk sha256)
        (fun s op => AdminInvariant sdk (op.apply sdk sha256 s).config)
        (.load sdk sha256 generated fields networks) ops := by
  have administered {s : LoadedConfig} (settled : AdminsSettled sdk s) : AdminInvariant sdk s.config :=
    fun own network listed => (settled own network listed).administered
  have loaded := @adminsSettled_load sdk sha256 lawful generated fields networks file
  refine ⟨administered loaded, ?_⟩
  exact @Along.strengthen _ _ _ (AdminsSettled sdk) _ _
    (fun s op settled keeps => adminsSettled_apply lawful settled keeps)
    (fun s op settled keeps => administered (adminsSettled_apply lawful settled keeps)) _ _ loaded keeps

end Runs

/-! ## Networks without an administrator -/

/-- The two networks of the first sample key, on a node with the third one. -/
def loadedNetworks : LoadedConfig :=
  .load sampleSdk sampleSha256 sampleGenerated sampleRosterConfig twoNetworks

/-- The administrator hands its network on to the second sample key. -/
def handedOnRoster : SharedRosterUpdate :=
  { sampleRoster 100 "f9308a019258c31049344f85f89d5229b531c845836f99b08601f113bce036f9" with
    admins := ["c6047f9441ed7d6d3045406e95c07cd85c778e4b8cef3ca7abac09b95c709ee5"] }

/-- The networks of a file that names an inviter who is no admin. -/
def strangerNetworks : List NetworkConfig :=
  [{ id := "network-1", name := "Work", networkId := "mesh-work", admins := samplePubkeys.take 1
     inviteInviter := "c6047f9441ed7d6d3045406e95c07cd85c778e4b8cef3ca7abac09b95c709ee5" }]

/-- A new network has no admin; after an accepted roster, and after a file has been loaded, the inviter is
no admin. -/
theorem networks_without_admin :
    ¬ AdminInvariant sampleSdk
        (ConfigOp.apply sampleSdk sampleSha256 loadedNetworks (.addNetwork 200 "Guests")).config ∧
      ¬ AdminInvariant sampleSdk
        (ConfigOp.apply sampleSdk sampleSha256 loadedNetworks (.applyRoster 200 handedOnRoster)).config ∧
      ¬ AdminInvariant sampleSdk
        (LoadedConfig.load sampleSdk sampleSha256 sampleGenerated sampleRosterConfig
          strangerNetworks).config := by decide +kernel

/-- A second admin, a switch of the network and the defaults. -/
def administeredOps : List ConfigOp :=
  [.editRoster 200 "network-1" .AddAdmin "c6047f9441ed7d6d3045406e95c07cd85c778e4b8cef3ca7abac09b95c709ee5",
   .setNetworkEnabled "network-1" true, .ensureDefaults sampleGenerated]

theorem every_network_is_administered_of_ops :
    AdminInvariant sampleSdk loadedNetworks.config ∧
      Along (ConfigOp.apply sampleSdk sampleSha256)
        (fun s op => AdminInvariant sampleSdk (op.apply sampleSdk sampleSha256 s).config) loadedNetworks
        administeredOps :=
  every_network_is_administered sampleSdk_lawful sampleSha256 sampleGenerated sampleRosterConfig
    (by decide +kernel)
    ⟨trivial, trivial, (by decide +kernel : InvitersAdminister sampleSdk _), trivial⟩

end NostrVpn.Invite
