import NostrVpn.Invite.ActiveNetwork
import NostrVpn.Invite.ExitNodeInvariant
import NostrVpn.Invite.MeshRouting

/-!
# Derived mesh ids

`derive_default_network_ids` of `nostr-vpn-core/src/config.rs` gives a network without a mesh id one that hashes
its members. It does so in the first `ensure_defaults` that finds a participant, and keeps the id from then on,
so two members agree when they derive it from the same members.
-/
namespace NostrVpn.Invite

open Rust NostrVpn.Core Transition

variable (sdk : NostrSdk) (sha256 : Sha256)

/-! ## Edits and their members -/

inductive MeshEdit where
  | addParticipant (now : Nat) (id participant : String)
  | removeParticipant (now : Nat) (id participant : String)
  | ensureDefaults (generated : Generated)

/-- A call that fails leaves the configuration. -/
def editMesh (config : AppConfig) : MeshEdit → AppConfig
  | .addParticipant now id participant =>
    (config.editRoster sdk sha256 now id .AddParticipant participant).toOption.getD config
  | .removeParticipant now id participant =>
    (config.editRoster sdk sha256 now id .RemoveParticipant participant).toOption.getD config
  | .ensureDefaults generated => config.ensureDefaults sdk sha256 generated

/-- The sorted members that `ensure_defaults` hashes, if there is a participant. -/
def meshMembers (generated : Generated) (config : AppConfig) : Option (List String) :=
  ((config.ensureNostrIdentity sdk generated).ownPubkey sdk).bind fun own =>
    let participants := sortDedup (config.activeNetwork.participants.filterMap (normalPubkey? sdk))
    if participants = [] then none else some (sortDedup (participants ++ [own]))

/-- The members that a step hashes if the id is still the default. -/
def derivesFrom (config : AppConfig) : MeshEdit → Option (List String)
  | .ensureDefaults generated => meshMembers sdk generated config
  | _ => none

/-- The members of the first `ensure_defaults` of a run that finds a participant. -/
def firstMembers : AppConfig → List MeshEdit → Option (List String)
  | _, [] => none
  | config, e :: es => (derivesFrom sdk config e).or (firstMembers (editMesh sdk sha256 config e) es)

def meshIdOf (members : Option (List String)) : String :=
  members.elim defaultNetworkId (deriveNetworkIdFromParticipants sha256)

/-! ## One step -/

section Step
variable {sdk sha256} {config after : AppConfig} {own : Option String}

theorem flags_noteNetworkRosterLocalChange {now : Nat} {id : String}
    (noted : config.noteNetworkRosterLocalChange sdk now id = .ok after) :
    after.networks.map (fun network => (network.enabled, network.networkId)) =
      config.networks.map fun network => (network.enabled, network.networkId) := by
  unfold AppConfig.noteNetworkRosterLocalChange at noted
  cases found : config.networkById id with
  | none =>
    rw [found] at noted
    cases noted
  | some network =>
    cases self' : config.ownPubkey sdk with
    | none =>
      simp only [found, self'] at noted
      rw [← Except.ok.inj noted]
    | some own =>
      simp only [found, self'] at noted
      split_ifs at noted
      · rw [← Except.ok.inj noted]
        exact map_modifyFirst_eq_self (fun network : NetworkConfig => (network.enabled, network.networkId))
          fun _ _ => rfl
      · rw [← Except.ok.inj noted]

/-- An edit that keeps the flag and the mesh id of the network keeps them for all. -/
theorem flags_editNetwork {now : Nat} {id : String} {edit : NetworkConfig → Except String NetworkConfig}
    (edited : config.editNetwork sdk now id edit = .ok after)
    (keeps : ∀ network network', edit network = .ok network' →
      network'.enabled = network.enabled ∧ network'.networkId = network.networkId) :
    after.networks.map (fun network => (network.enabled, network.networkId)) =
      config.networks.map fun network => (network.enabled, network.networkId) := by
  unfold AppConfig.editNetwork at edited
  cases found : config.networkById id with
  | none => simp [found] at edited
  | some network =>
    cases changed : edit network with
    | error e => simp [found, changed] at edited
    | ok network' =>
      simp only [found, changed] at edited
      rw [flags_noteNetworkRosterLocalChange edited]
      refine map_modifyFirst_eq_self (fun network : NetworkConfig => (network.enabled, network.networkId)) fun a here => ?_
      obtain rfl := Option.some.inj (found.symm.trans here)
      obtain ⟨enabled, meshId⟩ := keeps network network' changed
      rw [enabled, meshId]

theorem flags_edit {action : RosterEditAction} {key : String} {network network' : NetworkConfig}
    (changed : action.edit key network = .ok network') :
    network'.enabled = network.enabled ∧ network'.networkId = network.networkId := by
  unfold RosterEditAction.edit at changed
  split at changed
  · rw [← Except.ok.inj changed]
    exact ⟨rfl, rfl⟩
  · split_ifs at changed
    rw [← Except.ok.inj changed]
    exact ⟨rfl, rfl⟩
  · rw [← Except.ok.inj changed]
    exact ⟨rfl, rfl⟩
  · split_ifs at changed
    rw [← Except.ok.inj changed]
    exact ⟨rfl, rfl⟩

theorem networkId_editRoster {now : Nat} {id participant : String} {action : RosterEditAction}
    (edited : config.editRoster sdk sha256 now id action participant = .ok after) :
    after.activeNetwork.networkId = config.activeNetwork.networkId := by
  obtain ⟨key, -, ⟨rfl, -, -⟩ | ⟨between, changed, rfl⟩⟩ := editRoster_cases edited
  · rfl
  rw [← AppConfig.activeNetwork_congr NetworkConfig.networkId (flags_editNetwork changed fun _ _ => flags_edit)]
  refine AppConfig.activeNetwork_congr NetworkConfig.networkId ?_
  cases action <;> simp [RosterEditAction.normalize]

/-! ### Defaults -/

theorem networkId_ensured (own : Option String) (ordinal : Nat) (used : List String) (network : NetworkConfig) :
    ((network.ensureDefaults sdk own ordinal used).deriveDefaultNetworkId sha256 own).networkId =
      if usesDefaultNetworkId network.networkId then
        meshIdOf sha256 (own.bind fun own =>
          let participants := sortDedup (network.participants.filterMap (normalPubkey? sdk))
          if participants = [] then none else some (sortDedup (participants ++ [own])))
      else network.networkId := by
  have default' : usesDefaultNetworkId defaultNetworkId = true := by decide +kernel
  have same : usesDefaultNetworkId (if isBlank network.networkId then defaultNetworkId else network.networkId) =
      usesDefaultNetworkId network.networkId := by
    split_ifs with blank
    · rw [default']
      simp [usesDefaultNetworkId, blank]
    · rfl
  have derived (members : List String) : deriveNetworkIdFromParticipants sha256 (sortDedup members) =
      deriveNetworkIdFromParticipants sha256 members := by
    rw [deriveNetworkIdFromParticipants, deriveNetworkIdFromParticipants, sortDedup_congr fun _ => mem_sortDedup]
  simp only [NetworkConfig.deriveDefaultNetworkId, NetworkConfig.ensureDefaults, same]
  cases uses : usesDefaultNetworkId network.networkId with
  | false =>
    have filled : isBlank network.networkId = false := by
      simp only [usesDefaultNetworkId, Bool.or_eq_false_iff] at uses
      exact uses.1
    simp [filled]
  | true =>
    cases own with
    | none => simp [meshIdOf]
    | some own =>
      by_cases none' : sortDedup (network.participants.filterMap (normalPubkey? sdk)) = []
      · simp [none', meshIdOf]
      · simp [none', meshIdOf, derived]

theorem enabled_ensureNetworks (own : Option String) (ordinal : Nat) (used : List String)
    (networks : List NetworkConfig) :
    (ensureNetworks sdk own ordinal used networks).map NetworkConfig.enabled = networks.map NetworkConfig.enabled := by
  induction networks generalizing ordinal used with
  | nil => rfl
  | cons network rest ih => simp [ensureNetworks, ih, NetworkConfig.ensureDefaults]

theorem activeOf_networks (config : AppConfig) : activeOf config.networks = some config.activeNetwork := by
  rw [activeOf, config.networks.head?_eq_some_head config.networks_ne, AppConfig.activeNetwork]
  cases config.networks.find? NetworkConfig.enabled <;> rfl

theorem activeOf_map {f : NetworkConfig → NetworkConfig} (keeps : ∀ network, (f network).enabled = network.enabled)
    (networks : List NetworkConfig) : activeOf (networks.map f) = (activeOf networks).map f := by
  have flags : NetworkConfig.enabled ∘ f = NetworkConfig.enabled := funext keeps
  rw [activeOf, activeOf, List.find?_map, List.head?_map, flags]
  cases networks.find? NetworkConfig.enabled <;> rfl

/-- The networks behind `ensure_defaults`: the active one stays active, and every id that is still the default
is derived. -/
theorem networks_ensureDefaults (generated : Generated) (config : AppConfig) :
    (config.ensureDefaults sdk sha256 generated).networks =
      (enableAt (activeIndex config) (ensureNetworks sdk
        ((config.ensureNostrIdentity sdk generated).ownPubkey sdk) 1 [] config.networks)).map
          (NetworkConfig.deriveDefaultNetworkId sha256
            ((config.ensureNostrIdentity sdk generated).ownPubkey sdk)) := by
  generalize identity : config.ensureNostrIdentity sdk generated = known
  have networks : known.networks = config.networks := by
    rw [← identity]
    unfold AppConfig.ensureNostrIdentity
    grind
  generalize own' : known.ownPubkey sdk = own
  generalize listed : ((known.ensureFields sha256 generated own).ensureExitNode sdk).ensureNetworkList sdk own =
    ensured
  have list : ensured.networks = ensureNetworks sdk own 1 [] config.networks := by
    rw [← listed, ← networks]
    unfold AppConfig.ensureNetworkList AppConfig.ensureExitNode AppConfig.ensureFields AppConfig.ensureNodeName
    grind
  have index : activeIndex ensured = activeIndex config := by
    have flags := @enabled_ensureNetworks sdk own 1 [] config.networks
    rw [← list] at flags
    have found := congrArg (List.findIdx? id) flags
    rw [List.findIdx?_map, List.findIdx?_map] at found
    exact congrArg (Option.getD · 0) found
  have own'' : ensured.ensureSingleActiveNetwork.ownPubkey sdk = own := by
    have keys : ensured.nostr.secretKey = known.nostr.secretKey ∧ ensured.nostr.publicKey = known.nostr.publicKey := by
      rw [← listed]
      unfold AppConfig.ensureNetworkList AppConfig.ensureExitNode AppConfig.ensureFields AppConfig.ensureNodeName
      grind
    have same : ensured.ensureSingleActiveNetwork.nostr = ensured.nostr := rfl
    rw [← own', AppConfig.ownPubkey, AppConfig.ownPubkey, AppConfig.ownNostrPubkeyHex, AppConfig.ownNostrPubkeyHex,
      same, keys.1, keys.2]
  rw [← index, ← list]
  simp only [AppConfig.ensureDefaults, AppConfig.networks_normalizePeerAliases,
    AppConfig.networks_normalizeSelectedExitNode, identity, own', listed, AppConfig.deriveDefaultNetworkIds, own'']
  rfl

theorem activeIndex_congr {config config' : AppConfig}
    (same : config'.networks.map NetworkConfig.enabled = config.networks.map NetworkConfig.enabled) :
    activeIndex config' = activeIndex config := by
  have found := congrArg (List.findIdx? id) same
  rw [List.findIdx?_map, List.findIdx?_map] at found
  exact congrArg (Option.getD · 0) found

theorem activeIndex_ensureDefaults (generated : Generated) (config : AppConfig) :
    activeIndex (config.ensureDefaults sdk sha256 generated) = activeIndex config := by
  have inside := (List.getElem?_eq_some_iff.mp (getElem?_activeIndex config)).1
  have first : (config.ensureDefaults sdk sha256 generated).networks.findIdx? NetworkConfig.enabled =
      some (activeIndex config) := by
    rw [networks_ensureDefaults, List.findIdx?_eq_some_iff_getElem]
    refine ⟨by simpa [enableAt, length_ensureNetworks] using inside,
      by simp [enableAt, enabled_deriveDefaultNetworkId], fun j before => ?_⟩
    simp only [enableAt, List.getElem_map, List.getElem_mapIdx, enabled_deriveDefaultNetworkId]
    simpa using before.ne
  unfold activeIndex at first ⊢
  rw [first]
  rfl

/-- The active network behind `ensure_defaults` is the active one before, with its defaults. -/
theorem activeNetwork_ensureDefaults (generated : Generated) (config : AppConfig) :
    ∃ ordinal used, (config.ensureDefaults sdk sha256 generated).activeNetwork =
      NetworkConfig.deriveDefaultNetworkId sha256 ((config.ensureNostrIdentity sdk generated).ownPubkey sdk)
        { config.activeNetwork.ensureDefaults sdk ((config.ensureNostrIdentity sdk generated).ownPubkey sdk)
          ordinal used with enabled := true } := by
  have after := @networks_ensureDefaults sdk sha256 generated config
  generalize (config.ensureNostrIdentity sdk generated).ownPubkey sdk = own at after ⊢
  have length := length_ensureNetworks sdk own 1 [] config.networks
  have inside := (List.getElem?_eq_some_iff.mp (getElem?_activeIndex config)).1
  have active := List.getElem?_eq_getElem (length.symm ▸ inside :
    activeIndex config < (ensureNetworks sdk own 1 [] config.networks).length)
  obtain ⟨old, at', ordinal, used, made⟩ := getElem?_ensureNetworks active
  obtain rfl := Option.some.inj ((getElem?_activeIndex config).symm.trans at')
  refine ⟨ordinal, used, ?_⟩
  have result := activeOf_networks (config.ensureDefaults sdk sha256 generated)
  rw [after, activeOf_map (enabled_deriveDefaultNetworkId own), activeOf_enableAt active, made] at result
  exact (Option.some.inj result).symm

theorem networkId_ensureDefaults (generated : Generated) (config : AppConfig) :
    (config.ensureDefaults sdk sha256 generated).activeNetwork.networkId =
      if usesDefaultNetworkId config.activeNetwork.networkId then meshIdOf sha256 (meshMembers sdk generated config)
      else config.activeNetwork.networkId := by
  obtain ⟨ordinal, used, active⟩ := @activeNetwork_ensureDefaults sdk sha256 generated config
  have flag (own : Option String) (network : NetworkConfig) :
      (NetworkConfig.deriveDefaultNetworkId sha256 own { network with enabled := true }).networkId =
        (network.deriveDefaultNetworkId sha256 own).networkId := by
    unfold NetworkConfig.deriveDefaultNetworkId
    grind
  rw [active, flag, networkId_ensured, meshMembers]

/-- The members that a step hashes become the mesh id, while it is still the default. -/
theorem networkId_editMesh (config : AppConfig) (e : MeshEdit)
    (start : config.activeNetwork.networkId = defaultNetworkId) :
    (editMesh sdk sha256 config e).activeNetwork.networkId = meshIdOf sha256 (derivesFrom sdk config e) := by
  have edited (now : Nat) (id participant : String) (action : RosterEditAction) :
      ((config.editRoster sdk sha256 now id action participant).toOption.getD config).activeNetwork.networkId =
        defaultNetworkId := by
    cases outcome : config.editRoster sdk sha256 now id action participant with
    | error e => exact start
    | ok after => exact (networkId_editRoster outcome).trans start
  cases e with
  | addParticipant now id participant => exact edited now id participant .AddParticipant
  | removeParticipant now id participant => exact edited now id participant .RemoveParticipant
  | ensureDefaults generated =>
    have default' : usesDefaultNetworkId defaultNetworkId = true := by decide +kernel
    rw [editMesh, networkId_ensureDefaults, start, default', if_pos rfl]
    rfl

/-- A mesh id that is not the default stays. -/
theorem networkId_editMesh_of_set (config : AppConfig) (e : MeshEdit)
    (set : usesDefaultNetworkId config.activeNetwork.networkId = false) :
    (editMesh sdk sha256 config e).activeNetwork.networkId = config.activeNetwork.networkId := by
  have edited (now : Nat) (id participant : String) (action : RosterEditAction) :
      ((config.editRoster sdk sha256 now id action participant).toOption.getD config).activeNetwork.networkId =
        config.activeNetwork.networkId := by
    cases outcome : config.editRoster sdk sha256 now id action participant with
    | error e => rfl
    | ok after => exact networkId_editRoster outcome
  cases e with
  | addParticipant now id participant => exact edited now id participant .AddParticipant
  | removeParticipant now id participant => exact edited now id participant .RemoveParticipant
  | ensureDefaults generated => simp [editMesh, networkId_ensureDefaults, set]

end Step

/-! ## Runs -/

/-- Documented behaviour of SHA-256. -/
def Digests (sha256 : Sha256) : Prop := ∀ bytes, (sha256 bytes).length = 32

section Runs
variable {sdk sha256}

/-- A derived id has hexadecimal digits only, so it is not taken for the default again. -/
theorem usesDefaultNetworkId_derived (digests : Digests sha256) (members : List String) :
    usesDefaultNetworkId (deriveNetworkIdFromParticipants sha256 members) = false := by
  unfold deriveNetworkIdFromParticipants
  extract_lets digest
  have length : ((WireGuard.encodeHex digest).take 16).length = 16 := by
    rw [List.length_take, WireGuard.length_encodeHex, digests]
    rfl
  have digits : ∀ c ∈ (WireGuard.encodeHex digest).take 16, (toDigit 16 c).isSome :=
    fun c mem => WireGuard.hexDigit_of_mem_encodeHex (List.mem_of_mem_take mem)
  generalize (WireGuard.encodeHex digest).take 16 = text at length digits
  have trimmed : trim (String.ofList text) = String.ofList text := by
    refine trim_eq_self fun c mem => ?_
    rw [String.toList_ofList] at mem
    exact Net.isWhitespace_of_isAddressChar (Net.isAddressChar_of_digit (by decide) (digits c mem))
  have filled : String.ofList text ≠ "" := by
    intro empty
    have chars := congrArg (fun s => s.toList.length) empty
    simp [length] at chars
  have other : String.ofList text ≠ "nostr-vpn" := by
    intro same
    have chars := congrArg (fun s => s.toList.length) same
    simp [length] at chars
  simp [usesDefaultNetworkId, isBlank, trimmed, filled, other]

theorem networkId_run_of_set (es : List MeshEdit) {config : AppConfig}
    (set : usesDefaultNetworkId config.activeNetwork.networkId = false) :
    (run (editMesh sdk sha256) config es).activeNetwork.networkId = config.activeNetwork.networkId := by
  induction es generalizing config with
  | nil => rfl
  | cons e es ih =>
    have same := @networkId_editMesh_of_set sdk sha256 config e set
    rw [run_cons, ih (same ▸ set), same]

/-- The mesh id at the end of a run is that of the first members. -/
theorem networkId_run (digests : Digests sha256) (es : List MeshEdit) {config : AppConfig}
    (start : config.activeNetwork.networkId = defaultNetworkId) :
    (run (editMesh sdk sha256) config es).activeNetwork.networkId =
      meshIdOf sha256 (firstMembers sdk sha256 config es) := by
  induction es generalizing config with
  | nil => exact start
  | cons e es ih =>
    have here := @networkId_editMesh sdk sha256 config e start
    rw [run_cons, firstMembers]
    cases derived : derivesFrom sdk config e with
    | none =>
      rw [derived] at here
      exact ih here
    | some members =>
      rw [derived] at here
      have set : usesDefaultNetworkId (editMesh sdk sha256 config e).activeNetwork.networkId = false :=
        here ▸ usesDefaultNetworkId_derived digests members
      exact (networkId_run_of_set es set).trans here

/-- Two members agree on the mesh id when the first `ensure_defaults` of each that finds a participant finds the
same members, whatever they edit before and afterwards. -/
theorem derived_mesh_ids_agree (digests : Digests sha256) {config other : AppConfig} {es fs : List MeshEdit}
    (start : config.activeNetwork.networkId = defaultNetworkId)
    (start' : other.activeNetwork.networkId = defaultNetworkId)
    (same : firstMembers sdk sha256 config es = firstMembers sdk sha256 other fs) :
    (run (editMesh sdk sha256) config es).effectiveNetworkId =
      (run (editMesh sdk sha256) other fs).effectiveNetworkId := by
  rw [AppConfig.effectiveNetworkId, AppConfig.effectiveNetworkId, networkId_run digests es start,
    networkId_run digests fs start', same]

end Runs

/-! ## Members of a small mesh -/

/-- `nostr-sdk` on the sample keys, with their secret keys. -/
def memberSdk : NostrSdk := { sampleSdk with
  publicKeyOfSecret secret := match (memberSecrets.zip samplePubkeys).lookup secret with
    | some publicKey => .ok publicKey
    | none => .error "Invalid secret key" }
where
  memberSecrets : List String :=
    ["0000000000000000000000000000000000000000000000000000000000000001",
      "0000000000000000000000000000000000000000000000000000000000000002",
      "0000000000000000000000000000000000000000000000000000000000000003"]

/-- The first two sample keys and all three, as `derive_network_id_from_participants` hashes them. -/
def memberDigests : List (List UInt8 × List UInt8) :=
  [((samplePubkeys.take 2).flatMap fun key => key.toUTF8.data.toList ++ "\n".toUTF8.data.toList,
    [219, 166, 80, 108, 231, 76, 255, 231, 130, 11, 165, 87, 209, 215, 239, 29, 177, 158, 132, 36, 55, 27, 135, 189,
      121, 209, 114, 45, 195, 121, 145, 6]),
    (samplePubkeys.flatMap fun key => key.toUTF8.data.toList ++ "\n".toUTF8.data.toList,
    [216, 183, 190, 38, 16, 184, 255, 127, 221, 100, 212, 112, 91, 198, 168, 177, 206, 213, 226, 43, 114, 214, 56,
      146, 186, 91, 46, 135, 53, 35, 75, 43])]

/-- `Sha256::digest` on the sample keys, on the first two and on all three. -/
def memberSha256 : Sha256 := fun bytes =>
  ((memberDigests ++ (samplePubkeys.map fun key => key.toUTF8.data.toList).zip sampleDigests).lookup bytes).getD
    (List.replicate 32 0)

theorem digests_memberSha256 : Digests memberSha256 := by
  intro bytes
  have sizes : ∀ entry ∈ memberDigests ++ (samplePubkeys.map fun key => key.toUTF8.data.toList).zip sampleDigests,
      entry.2.length = 32 := by decide +kernel
  unfold memberSha256
  cases found : (memberDigests ++ (samplePubkeys.map fun key => key.toUTF8.data.toList).zip sampleDigests).lookup
      bytes with
  | none => rfl
  | some digest =>
    obtain ⟨front, back, entries, -⟩ := List.lookup_eq_some_iff.mp found
    exact sizes (bytes, digest) (by rw [entries]; simp)

def memberKey (i : Nat) : String := samplePubkeys[i]?.getD ""

/-- The configuration of a member that has joined nothing. -/
def memberConfig (i : Nat) : AppConfig where
  networks := [defaultNetwork]
  nodeName := "node"
  nostr := { secretKey := memberSdk.memberSecrets[i]?.getD "", publicKey := memberKey i }
  node := { id := "node", endpoint := "192.168.1.10:51820", tunnelIp := "10.44.0.1/32", privateKey := "private", publicKey := "public" }

def memberGenerated : Generated where
  nostrIdentity := ("", "")
  nodeId := "node"
  keyPair := ("private", "public")

def addMember (i : Nat) : MeshEdit := .addParticipant 100 "network-1" (memberKey i)

theorem derived_mesh_ids_agree_in_two_orders :
    (run (editMesh memberSdk memberSha256) (memberConfig 0)
      [addMember 2, addMember 1, .ensureDefaults memberGenerated]).effectiveNetworkId =
    (run (editMesh memberSdk memberSha256) (memberConfig 1)
      [.ensureDefaults memberGenerated, addMember 0, addMember 2, .ensureDefaults memberGenerated]).effectiveNetworkId :=
  derived_mesh_ids_agree digests_memberSha256 (by decide +kernel) (by decide +kernel) (by decide +kernel)

/-- One member saves between two additions, another adds both members first: their rosters are the same at the
end, their ids are not. -/
theorem early_save_freezes_another_id :
    ¬ ∀ (members : List String) (own own' : String) (config other : AppConfig) (es fs : List MeshEdit),
      own ∈ members → own' ∈ members → own ≠ own' →
      config.activeNetwork.networkId = defaultNetworkId → other.activeNetwork.networkId = defaultNetworkId →
      config.ownPubkey memberSdk = some own → other.ownPubkey memberSdk = some own' →
      (∀ key, key ∈ (run (editMesh memberSdk memberSha256) config es).activeNetwork.participants ↔
        key ∈ members ∧ key ≠ own) →
      (∀ key, key ∈ (run (editMesh memberSdk memberSha256) other fs).activeNetwork.participants ↔
        key ∈ members ∧ key ≠ own') →
      (run (editMesh memberSdk memberSha256) config es).effectiveNetworkId =
        (run (editMesh memberSdk memberSha256) other fs).effectiveNetworkId := by
  intro agree
  have roster : (run (editMesh memberSdk memberSha256) (memberConfig 0)
      [addMember 1, .ensureDefaults memberGenerated, addMember 2]).activeNetwork.participants =
        samplePubkeys.filter (· ≠ memberKey 0) := by decide +kernel
  have roster' : (run (editMesh memberSdk memberSha256) (memberConfig 1)
      [addMember 0, addMember 2, .ensureDefaults memberGenerated]).activeNetwork.participants =
        samplePubkeys.filter (· ≠ memberKey 1) := by decide +kernel
  have same := agree samplePubkeys (memberKey 0) (memberKey 1) (memberConfig 0) (memberConfig 1)
    [addMember 1, .ensureDefaults memberGenerated, addMember 2]
    [addMember 0, addMember 2, .ensureDefaults memberGenerated] (by decide) (by decide) (by decide)
    (by decide +kernel) (by decide +kernel) (by decide +kernel) (by decide +kernel)
    (fun key => by rw [roster]; simp) (fun key => by rw [roster']; simp)
  have first : firstMembers memberSdk memberSha256 (memberConfig 0)
      [addMember 1, .ensureDefaults memberGenerated, addMember 2] = some (samplePubkeys.take 2) := by decide +kernel
  have all : firstMembers memberSdk memberSha256 (memberConfig 1)
      [addMember 0, addMember 2, .ensureDefaults memberGenerated] = some samplePubkeys := by decide +kernel
  rw [AppConfig.effectiveNetworkId, AppConfig.effectiveNetworkId, networkId_run digests_memberSha256 _ (by decide +kernel),
    networkId_run digests_memberSha256 _ (by decide +kernel), first, all] at same
  exact absurd same (by decide +kernel)

end NostrVpn.Invite
