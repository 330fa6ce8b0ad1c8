import NostrVpn.Core.MagicDnsRecords
import NostrVpn.Invite.InviteImport
import NostrVpn.Transition

/-!
# The tunnel address of a node

A node derives its tunnel address from its network id and its key while the configured address is blank or
the default one. The address stays when the network id changes later, but the other members of the new
network look for the node where the new network id puts it.
-/
namespace NostrVpn.Invite

open Rust Rust.Net NostrVpn.Core Transition

/-- What changes the network id of a node. A loaded file is the configuration of the node, with the
networks as they have been edited. -/
inductive NetworkIdChange where
  | importInvite (now : Nat) (invite : NetworkInvite)
  | setNetworkMeshId (id meshId : String)
  | setNetworkEnabled (id : String) (enabled : Bool)
  | load (generated : Generated) (networks : List NetworkConfig)

def NetworkIdChange.apply (sdk : NostrSdk) (sha256 : Sha256) (config : AppConfig) :
    NetworkIdChange → AppConfig
  | .importInvite now invite => (applyNetworkInviteToActiveNetwork sdk sha256 now config invite).2
  | .setNetworkMeshId id meshId => (config.setNetworkMeshId id meshId).toOption.getD config
  | .setNetworkEnabled id enabled => (config.setNetworkEnabled id enabled).toOption.getD config
  | .load generated networks => AppConfig.load sdk sha256 generated config networks

/-- A change and the `maybe_autoconfigure_node` that follows it. -/
structure AddressStep where
  change : NetworkIdChange
  generated : Generated
  detected : Option Ipv4Addr

/-- The configuration before the addresses are filled in. -/
def AddressStep.changed (sdk : NostrSdk) (sha256 : Sha256) (config : AppConfig) (s : AddressStep) :
    AppConfig :=
  (s.change.apply sdk sha256 config).ensureDefaults sdk sha256 s.generated

def AddressStep.apply (sdk : NostrSdk) (sha256 : Sha256) (config : AppConfig) (s : AddressStep) :
    AppConfig :=
  (s.change.apply sdk sha256 config).maybeAutoconfigureNode sdk sha256 s.generated s.detected

/-- The address that the network id and the key of the node give. -/
def meshAddress (sdk : NostrSdk) (sha256 : Sha256) (config : AppConfig) : Option String :=
  (config.ownPubkey sdk).bind (deriveMeshTunnelIp sha256 config.effectiveNetworkId)

/-- The node has the address of its network id and key, and every configuration with this network id that
names the node leads to it. -/
structure TunnelAddressAgrees (sdk : NostrSdk) (sha256 : Sha256) (config : AppConfig) : Prop where
  derived : ∃ own, config.ownPubkey sdk = some own ∧
    deriveMeshTunnelIp sha256 config.effectiveNetworkId own = some config.node.tunnelIp
  reached : ∀ own, config.ownPubkey sdk = some own → ∀ (other : AppConfig) (name : String),
    other.effectiveNetworkId = config.effectiveNetworkId → NamesMember sdk other own name →
      ∃ ip, (buildMagicDnsRecords sdk sha256 other).lookup name = some ip ∧
        config.node.tunnelIp = (IpAddr.v4 ip).fmt ++ "/32"

/-- The node has a network id and a key to derive an address from, and unless its address is still to be
derived, the change leaves the address that they give. -/
def KeepsMeshAddress (sdk : NostrSdk) (sha256 : Sha256) (config : AppConfig) (s : AddressStep) : Prop :=
  (meshAddress sdk sha256 (s.changed sdk sha256 config)).isSome ∧
    (needsTunnelIpAutoconfig config.node.tunnelIp ∨
      meshAddress sdk sha256 (s.changed sdk sha256 config) = meshAddress sdk sha256 config)

instance (sdk : NostrSdk) (sha256 : Sha256) (config : AppConfig) (s : AddressStep) :
    Decidable (KeepsMeshAddress sdk sha256 config s) := inferInstanceAs (Decidable (_ ∧ (_ ∨ _)))

section Agreement
variable {sdk : NostrSdk} {sha256 : Sha256} {config : AppConfig}

theorem tunnelAddressAgrees_iff : TunnelAddressAgrees sdk sha256 config ↔
    meshAddress sdk sha256 config = some config.node.tunnelIp := by
  constructor
  · intro agrees
    obtain ⟨own, key, derived⟩ := agrees.derived
    rw [meshAddress, key, Option.bind_some, derived]
  · intro same
    obtain ⟨own, key, derived⟩ := Option.bind_eq_some_iff.mp same
    refine ⟨⟨own, key, derived⟩, fun own' key' other name mesh names => ?_⟩
    obtain rfl : own = own' := Option.some.inj (key.symm.trans key')
    obtain ⟨ip, expected, text⟩ := address_of_derive derived
    rw [← mesh] at expected
    exact ⟨ip, lookup_buildMagicDnsRecords names expected, text⟩

/-! ## What a change leaves of the address -/

theorem node_noteRosterChange (now : Nat) (config : AppConfig) (id : String) :
    (config.noteRosterChange sdk now id).node = config.node := by
  unfold AppConfig.noteRosterChange AppConfig.noteNetworkRosterLocalChange
  cases config.networkById id with
  | none => rfl
  | some network =>
    cases config.ownPubkey sdk with
    | none => rfl
    | some own =>
      dsimp only
      split_ifs <;> rfl

theorem node_foldl_noteRosterChange (now : Nat) (ids : List String) (config : AppConfig) :
    (ids.foldl (AppConfig.noteRosterChange sdk now) config).node = config.node := by
  induction ids generalizing config with
  | nil => rfl
  | cons id ids ih => rw [List.foldl_cons, ih, node_noteRosterChange]

theorem node_setPeerAlias (now : Nat) (config : AppConfig) (participant label : String) :
    (config.setPeerAlias sdk sha256 now participant label).2.node = config.node := by
  unfold AppConfig.setPeerAlias
  cases normalizeNostrPubkey sdk participant with
  | error e => rfl
  | ok hex =>
    dsimp only
    split_ifs
    · exact node_foldl_noteRosterChange now _ _
    · cases normalizeMagicDnsLabel (trim label) with
      | none => rfl
      | some normal => exact node_foldl_noteRosterChange now _ _
    · rfl

theorem node_setNetworkEnabled (config : AppConfig) (id : String) (enabled : Bool) :
    ((config.setNetworkEnabled id enabled).toOption.getD config).node = config.node := by
  unfold AppConfig.setNetworkEnabled
  split
  · split_ifs <;> rfl
  · rfl

theorem node_setNetworkMeshId (config : AppConfig) (id meshId : String) :
    ((config.setNetworkMeshId id meshId).toOption.getD config).node = config.node := by
  unfold AppConfig.setNetworkMeshId
  dsimp only
  split
  · rfl
  · split <;> rfl

theorem node_importMembers (now : Nat) (own : Option String) (keys : InviteKeys) (invite : NetworkInvite)
    (id : String) (reset shouldAdoptName inviterAlreadyConfigured : Bool) (config : AppConfig) :
    (importMembers sdk sha256 now own keys invite id reset shouldAdoptName inviterAlreadyConfigured
      config).node = config.node := by
  unfold importMembers
  dsimp only
  split_ifs
  · exact node_setPeerAlias now _ _ _
  · rfl
  · exact node_setPeerAlias now _ _ _
  · rfl

theorem node_inviteTarget (now : Nat) (config : AppConfig) (invite : NetworkInvite) :
    (inviteTarget sdk now config invite).2.node = config.node := by
  unfold inviteTarget
  split
  · rfl
  · split_ifs
    · rfl
    · have added : (config.addNetwork sdk now invite.networkName).2.node = config.node :=
        node_noteRosterChange now _ _
      have enabled := node_setNetworkEnabled (config.addNetwork sdk now invite.networkName).2
        (config.addNetwork sdk now invite.networkName).1 true
      dsimp only
      cases outcome : (config.addNetwork sdk now invite.networkName).2.setNetworkEnabled
          (config.addNetwork sdk now invite.networkName).1 true with
      | error e => exact added
      | ok after =>
        rw [outcome] at enabled
        exact enabled.trans added

theorem node_applyNetworkInvite (now : Nat) (config : AppConfig) (invite : NetworkInvite) :
    (applyNetworkInviteToActiveNetwork sdk sha256 now config invite).2.node = config.node := by
  have target := @node_inviteTarget sdk now config invite
  unfold applyNetworkInviteToActiveNetwork
  cases inviteKeys sdk invite with
  | error e => rfl
  | ok keys =>
    dsimp only
    generalize inviteTarget sdk now config invite = chosen at target
    obtain ⟨verdict, config'⟩ := chosen
    cases verdict with
    | error e => exact target
    | ok selected =>
      obtain ⟨id, reset⟩ := selected
      dsimp only at target ⊢
      have enabled := node_setNetworkEnabled config' id true
      cases outcome : config'.setNetworkEnabled id true with
      | error e => exact target
      | ok active =>
        rw [outcome] at enabled
        have named := node_setNetworkMeshId active id invite.networkId
        dsimp only
        cases outcome' : active.setNetworkMeshId id invite.networkId with
        | error e => exact enabled.trans target
        | ok named' =>
          rw [outcome'] at named
          dsimp only
          rw [node_importMembers]
          exact named.trans (enabled.trans target)

/-- A configuration that is filled in has the default in place of a blank address. -/
theorem tunnelIp_ensureDefaults (generated : Generated) (config : AppConfig) :
    (config.ensureDefaults sdk sha256 generated).node.tunnelIp =
      if isBlank config.node.tunnelIp then "10.44.0.1/32" else config.node.tunnelIp := by
  have identity : (config.ensureNostrIdentity sdk generated).node = config.node := by
    unfold AppConfig.ensureNostrIdentity
    cases sdk.publicKeyOfSecret config.nostr.secretKey <;> grind
  have named (own : Option String) (config : AppConfig) :
      (config.ensureNodeName sha256 generated own).node = config.node := by
    unfold AppConfig.ensureNodeName
    split_ifs <;> rfl
  have exitNode (config : AppConfig) : config.normalizeSelectedExitNode.node = config.node := by
    unfold AppConfig.normalizeSelectedExitNode
    split_ifs <;> rfl
  simp only [AppConfig.ensureDefaults, AppConfig.normalizePeerAliases, exitNode,
    AppConfig.deriveDefaultNetworkIds, AppConfig.ensureSingleActiveNetwork, AppConfig.enableOnly,
    AppConfig.ensureNetworkList, AppConfig.ensureExitNode, AppConfig.ensureFields, named, identity,
    AppConfig.ensureNode]

theorem needsTunnelIpAutoconfig_of_blank {tunnelIp : String} (blank : isBlank tunnelIp) :
    needsTunnelIpAutoconfig tunnelIp := by
  have empty : trim tunnelIp = "" := by simpa [isBlank] using blank
  simp [needsTunnelIpAutoconfig, empty]

/-- An address that is still to be derived stays so, and every other one stays as it is. -/
structure KeepsAddress (before after : String) : Prop where
  needs : needsTunnelIpAutoconfig after = needsTunnelIpAutoconfig before
  kept : ¬needsTunnelIpAutoconfig before → after = before

theorem KeepsAddress.refl (tunnelIp : String) : KeepsAddress tunnelIp tunnelIp := ⟨rfl, fun _ => rfl⟩

theorem KeepsAddress.trans {first second third : String} (h : KeepsAddress first second)
    (h' : KeepsAddress second third) : KeepsAddress first third where
  needs := h'.needs.trans h.needs
  kept no := (h'.kept (by rw [h.needs]; exact no)).trans (h.kept no)

theorem keepsAddress_ensureDefaults (generated : Generated) (config : AppConfig) :
    KeepsAddress config.node.tunnelIp
      (config.ensureDefaults sdk sha256 generated).node.tunnelIp := by
  rw [tunnelIp_ensureDefaults]
  by_cases blank : isBlank config.node.tunnelIp
  · have needs := needsTunnelIpAutoconfig_of_blank blank
    have default' : needsTunnelIpAutoconfig "10.44.0.1/32" = true := by decide
    rw [if_pos blank]
    exact ⟨default'.trans needs.symm, fun no => absurd needs no⟩
  · rw [if_neg blank]
    exact .refl _

theorem keepsAddress_changed (config : AppConfig) (s : AddressStep) :
    KeepsAddress config.node.tunnelIp (s.changed sdk sha256 config).node.tunnelIp := by
  suffices changed : KeepsAddress config.node.tunnelIp (s.change.apply sdk sha256 config).node.tunnelIp
    from changed.trans (keepsAddress_ensureDefaults s.generated _)
  cases s.change with
  | importInvite now invite =>
    rw [NetworkIdChange.apply, node_applyNetworkInvite]
    exact .refl _
  | setNetworkMeshId id meshId =>
    rw [NetworkIdChange.apply, node_setNetworkMeshId]
    exact .refl _
  | setNetworkEnabled id enabled =>
    rw [NetworkIdChange.apply, node_setNetworkEnabled]
    exact .refl _
  | load generated networks =>
    exact @keepsAddress_ensureDefaults sdk sha256 generated { config with
      networks := if networks = [] then [defaultNetwork] else networks
      networks_ne := by split_ifs <;> simp_all }

/-- Filling in the endpoint touches neither the tunnel address nor what it is derived from. -/
theorem autoconfigureEndpoint_spec (detected : Option Ipv4Addr) (config : AppConfig) :
    (config.autoconfigureEndpoint detected).node.tunnelIp = config.node.tunnelIp ∧
      meshAddress sdk sha256 (config.autoconfigureEndpoint detected) =
        meshAddress sdk sha256 config := by
  unfold AppConfig.autoconfigureEndpoint
  cases detected with
  | none => exact ⟨rfl, rfl⟩
  | some ip =>
    dsimp only
    split_ifs <;> exact ⟨rfl, rfl⟩

theorem autoconfigureTunnelIp_spec (config : AppConfig) :
    (config.autoconfigureTunnelIp sdk sha256).node.tunnelIp =
        (if needsTunnelIpAutoconfig config.node.tunnelIp then
          (meshAddress sdk sha256 config).getD config.node.tunnelIp
        else config.node.tunnelIp) ∧
      meshAddress sdk sha256 (config.autoconfigureTunnelIp sdk sha256) =
        meshAddress sdk sha256 config := by
  unfold AppConfig.autoconfigureTunnelIp
  cases derived : (config.ownPubkey sdk).bind (deriveMeshTunnelIp sha256 config.effectiveNetworkId) with
  | none => exact ⟨by simp [meshAddress, derived], rfl⟩
  | some tunnelIp =>
    dsimp only
    split_ifs
    · exact ⟨by simp [meshAddress, derived], rfl⟩
    · exact ⟨rfl, rfl⟩

theorem meshAddress_apply (config : AppConfig) (s : AddressStep) :
    meshAddress sdk sha256 (s.apply sdk sha256 config) =
      meshAddress sdk sha256 (s.changed sdk sha256 config) :=
  (autoconfigureTunnelIp_spec _).2.trans (autoconfigureEndpoint_spec s.detected _).2

theorem tunnelIp_apply (config : AppConfig) (s : AddressStep) :
    (s.apply sdk sha256 config).node.tunnelIp =
      if needsTunnelIpAutoconfig config.node.tunnelIp then
        (meshAddress sdk sha256 (s.changed sdk sha256 config)).getD
          (s.changed sdk sha256 config).node.tunnelIp
      else config.node.tunnelIp := by
  have changed := @keepsAddress_changed sdk sha256 config s
  obtain ⟨kept, same⟩ := @autoconfigureEndpoint_spec sdk sha256 s.detected (s.changed sdk sha256 config)
  have filled := (@autoconfigureTunnelIp_spec sdk sha256
    ((s.changed sdk sha256 config).autoconfigureEndpoint s.detected)).1
  rw [kept, same, changed.needs] at filled
  refine filled.trans ?_
  by_cases needs : needsTunnelIpAutoconfig config.node.tunnelIp
  · rw [if_pos needs, if_pos needs]
  · rw [if_neg needs, if_neg needs, changed.kept needs]

/-- An address that is still to be derived, or that is the one of the network id and the key. -/
def FollowsMesh (sdk : NostrSdk) (sha256 : Sha256) (config : AppConfig) : Prop :=
  needsTunnelIpAutoconfig config.node.tunnelIp ∨
    meshAddress sdk sha256 config = some config.node.tunnelIp

theorem agrees_apply_iff (follows : FollowsMesh sdk sha256 config) (s : AddressStep) :
    TunnelAddressAgrees sdk sha256 (s.apply sdk sha256 config) ↔
      KeepsMeshAddress sdk sha256 config s := by
  rw [tunnelAddressAgrees_iff, meshAddress_apply, tunnelIp_apply, KeepsMeshAddress]
  by_cases needs : needsTunnelIpAutoconfig config.node.tunnelIp
  · cases meshAddress sdk sha256 (s.changed sdk sha256 config) with
    | none => simp
    | some derived => simp [needs]
  · have before : meshAddress sdk sha256 config = some config.node.tunnelIp := follows.resolve_left needs
    rw [if_neg needs, before]
    constructor
    · intro same
      exact ⟨by simp [same], Or.inr same⟩
    · rintro ⟨-, needed | same⟩
      · exact absurd needed needs
      · exact same

theorem meshAddress_run_concat {steps : List AddressStep} {s : AddressStep}
    (along : Along (AddressStep.apply sdk sha256)
      (fun config s => TunnelAddressAgrees sdk sha256 (s.apply sdk sha256 config)) config (steps ++ [s])) :
    meshAddress sdk sha256 (run (AddressStep.apply sdk sha256) config (steps ++ [s])) =
      some (run (AddressStep.apply sdk sha256) config (steps ++ [s])).node.tunnelIp := by
  have last := tunnelAddressAgrees_iff.mp (along_append.mp along).2.1
  rwa [run_append, run_cons, run_nil]

end Agreement

/-! ## Runs -/

/-- A node that starts with an address to be derived agrees with the other members after every step of a
run exactly when no step moves the address that its network id and key give once it has one. -/
theorem tunnel_address_agrees_iff {sdk : NostrSdk} {sha256 : Sha256} {config : AppConfig}
    (auto : needsTunnelIpAutoconfig config.node.tunnelIp) (steps : List AddressStep) :
    Along (AddressStep.apply sdk sha256)
        (fun config s => TunnelAddressAgrees sdk sha256 (s.apply sdk sha256 config)) config steps ↔
      Along (AddressStep.apply sdk sha256) (KeepsMeshAddress sdk sha256) config steps :=
  along_congr (fun _ s _ follows => agrees_apply_iff follows s)
    (fun _ s _ follows keeps =>
      Or.inr (tunnelAddressAgrees_iff.mp ((agrees_apply_iff follows s).mpr keeps)))
    (Or.inl auto : FollowsMesh sdk sha256 config)

/-! ## A network id that changes twice -/

/-- The secret key 3 and no other secret key parses. -/
def homeSdk : NostrSdk := { sampleSdk with
  publicKeyOfSecret := fun secret =>
    if secret = "0000000000000000000000000000000000000000000000000000000000000003" then
      .ok "f9308a019258c31049344f85f89d5229b531c845836f99b08601f113bce036f9"
    else .error "Invalid secret key" }

/-- The digests of the network ids `mesh-home` and `mesh-work` with the own key. -/
def homeDigests : List (String × List UInt8) :=
  [("mesh-home\nf9308a019258c31049344f85f89d5229b531c845836f99b08601f113bce036f9",
    [14, 145, 125, 20, 184, 187, 190, 215, 33, 108, 138, 6, 108, 125, 186, 63, 37, 7, 189, 85, 206, 112,
     91, 17, 19, 244, 233, 74, 146, 98, 44, 201]),
   ("mesh-work\nf9308a019258c31049344f85f89d5229b531c845836f99b08601f113bce036f9",
    [39, 244, 158, 143, 117, 233, 16, 83, 163, 27, 59, 65, 148, 169, 142, 68, 177, 158, 159, 212, 159, 59,
     83, 142, 208, 220, 127, 178, 137, 17, 155, 190])]

/-- `Sha256::digest` on these texts and on the sample keys. -/
def homeSha256 : Sha256 := fun bytes =>
  ((homeDigests.map fun entry => (entry.1.toUTF8.data.toList, entry.2)).lookup bytes).getD
    (sampleSha256 bytes)

theorem homeNetworks_ne : [sampleNetwork] ≠ [] := List.cons_ne_nil _ _

/-- A node with a key, a network that the first sample key administers, and no address yet. -/
def homeConfig : AppConfig where
  networks := [sampleNetwork]
  networks_ne := homeNetworks_ne
  nodeName := "home-node"
  nostr := {
    secretKey := "0000000000000000000000000000000000000000000000000000000000000003"
    publicKey := "npub1lycg5qvjtrp3qjf5f7zl382j9x6nrjz9sdhenvyxq8c3808qxmus6gq266" }
  node := { id := "node-1", privateKey := "private", publicKey := "public" }

/-- The network gets this mesh id, on a system that reports no address. -/
def meshIdStep (meshId : String) : AddressStep where
  change := .setNetworkMeshId "network-1" meshId
  generated := { nostrIdentity := ("", ""), nodeId := "", keyPair := ("", "") }
  detected := none

/-- The node keeps the address of the first network id, and nobody in the second network finds it there. -/
theorem moved_network_keeps_address :
    (run (AddressStep.apply homeSdk homeSha256) homeConfig
        [meshIdStep "mesh-home", meshIdStep "mesh-work"]).node.tunnelIp = "10.44.15.146/32" ∧
      ¬ Along (AddressStep.apply homeSdk homeSha256)
        (fun config s => TunnelAddressAgrees homeSdk homeSha256 (s.apply homeSdk homeSha256 config))
        homeConfig [meshIdStep "mesh-home", meshIdStep "mesh-work"] := by
  have addresses : (run (AddressStep.apply homeSdk homeSha256) homeConfig
      [meshIdStep "mesh-home", meshIdStep "mesh-work"]).node.tunnelIp = "10.44.15.146/32" ∧
    meshAddress homeSdk homeSha256 (run (AddressStep.apply homeSdk homeSha256) homeConfig
      [meshIdStep "mesh-home", meshIdStep "mesh-work"]) = some "10.44.40.245/32" := by decide +kernel
  refine ⟨addresses.1, fun along => ?_⟩
  have agrees := @meshAddress_run_concat _ _ _ [meshIdStep "mesh-home"] _ along
  rw [List.singleton_append, addresses.1] at agrees
  exact absurd (addresses.2.symm.trans agrees) (by decide)

theorem tunnel_address_agrees_iff_of_one_network :
    Along (AddressStep.apply homeSdk homeSha256)
        (fun config s => TunnelAddressAgrees homeSdk homeSha256 (s.apply homeSdk homeSha256 config))
        homeConfig [meshIdStep "mesh-home", meshIdStep "mesh-home"] ↔
      Along (AddressStep.apply homeSdk homeSha256) (KeepsMeshAddress homeSdk homeSha256) homeConfig
        [meshIdStep "mesh-home", meshIdStep "mesh-home"] :=
  tunnel_address_agrees_iff (by decide +kernel) _

end NostrVpn.Invite
