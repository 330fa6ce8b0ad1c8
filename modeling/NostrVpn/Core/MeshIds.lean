import NostrVpn.Core.EnsureDefaults
import NostrVpn.Core.JoinRequests

/-!
# Mesh ids of the networks of a configuration

A roster and a join request name a network by its mesh id, and the first network with that id takes
them. Networks are kept apart when no two of them have one mesh id, seen through the addresses (entry
id and mesh id) that the operations change.
-/
namespace NostrVpn.Core

open Rust

def NetworkConfig.address (network : NetworkConfig) : String × String :=
  (network.id, network.networkId)

def AppConfig.addresses (config : AppConfig) : List (String × String) :=
  config.networks.map NetworkConfig.address

/-- A mesh id that the receiver of a message reads as the sender wrote it. -/
def PlainMeshId (meshId : String) : Prop :=
  meshId ≠ "" ∧ normalizeRuntimeNetworkId meshId = meshId

instance (meshId : String) : Decidable (PlainMeshId meshId) := inferInstanceAs (Decidable (_ ∧ _))

/-- Two networks differ in the entry id and in the mesh id. -/
def Distinct (left right : String × String) : Prop :=
  left.1 ≠ right.1 ∧ normalizeRuntimeNetworkId left.2 ≠ normalizeRuntimeNetworkId right.2

instance (left right : String × String) : Decidable (Distinct left right) :=
  inferInstanceAs (Decidable (_ ∧ _))

instance : Std.Symm Distinct := ⟨fun _ _ apart => ⟨apart.1.symm, apart.2.symm⟩⟩

/-- No two networks share an entry id or a mesh id, and every mesh id is plain. -/
structure Apart (addresses : List (String × String)) : Prop where
  distinct : addresses.Pairwise Distinct
  plain : ∀ address ∈ addresses, PlainMeshId (normalizeRuntimeNetworkId address.2)

/-- A change of the mesh id of the first network with an entry id. -/
def setMeshId (id meshId : String) : List (String × String) → List (String × String) :=
  modifyFirst (fun address => address.1 == id) fun address => (address.1, meshId)

section Addresses
variable {addresses : List (String × String)} {id meshId : String}

theorem Apart.concat (apart : Apart addresses) (fresh : id ∉ addresses.map Prod.fst)
    (plain : PlainMeshId (normalizeRuntimeNetworkId meshId))
    (free : ∀ address ∈ addresses,
      normalizeRuntimeNetworkId address.2 ≠ normalizeRuntimeNetworkId meshId) :
    Apart (addresses ++ [(id, meshId)]) where
  distinct := by
    refine List.pairwise_append.mpr ⟨apart.distinct, List.pairwise_singleton _ _, ?_⟩
    intro address mem new mem'
    obtain rfl : new = (id, meshId) := by simpa using mem'
    exact ⟨fun same => fresh (List.mem_map.mpr ⟨address, mem, same⟩), free address mem⟩
  plain := by
    intro address mem
    rcases List.mem_append.mp mem with old | new
    · exact apart.plain address old
    · obtain rfl : address = (id, meshId) := by simpa using new
      exact plain

/-- A network keeps apart with a plain mesh id that no other network has. -/
theorem Apart.setMeshId (apart : Apart addresses)
    (plain : PlainMeshId (normalizeRuntimeNetworkId meshId))
    (free : ∀ address ∈ addresses, address.1 ≠ id →
      normalizeRuntimeNetworkId address.2 ≠ normalizeRuntimeNetworkId meshId) :
    Apart (setMeshId id meshId addresses) where
  distinct := by
    obtain ⟨distinct, -⟩ := apart
    induction addresses with
    | nil => exact List.Pairwise.nil
    | cons address rest ih =>
      obtain ⟨first, distinct⟩ := List.pairwise_cons.mp distinct
      by_cases found : address.1 = id
      · subst found
        have changed : Core.setMeshId address.1 meshId (address :: rest) =
            (address.1, meshId) :: rest := by simp [Core.setMeshId, modifyFirst]
        rw [changed]
        refine List.pairwise_cons.mpr ⟨fun other mem => ?_, distinct⟩
        have apart := first other mem
        exact ⟨apart.1, (free other (by simp [mem]) (Ne.symm apart.1)).symm⟩
      · have changed : Core.setMeshId id meshId (address :: rest) =
            address :: Core.setMeshId id meshId rest := by
          simp [Core.setMeshId, modifyFirst, found]
        rw [changed]
        refine List.pairwise_cons.mpr ⟨fun other mem => ?_, ih (fun a mem => free a (by simp [mem])) distinct⟩
        rcases mem_modifyFirst mem with old | ⟨a, old, selected, rfl⟩
        · exact first other old
        · exact ⟨(first a old).1, free address (by simp) found⟩
  plain := by
    intro address mem
    rcases mem_modifyFirst mem with old | ⟨a, old, -, rfl⟩
    · exact apart.plain address old
    · exact plain

/-- The new network at the end is the one with its entry id. -/
theorem setMeshId_concat (fresh : id ∉ addresses.map Prod.fst) (old : String) :
    setMeshId id meshId (addresses ++ [(id, old)]) = addresses ++ [(id, meshId)] := by
  induction addresses with
  | nil => simp [setMeshId, modifyFirst]
  | cons address rest ih =>
    have other : address.1 ≠ id := fun same => fresh (by simp [same])
    have rest' := ih fun mem => fresh (by simp [mem])
    simpa [setMeshId, modifyFirst, other] using rest'

end Addresses

/-! ## The operations -/

section Operations
variable {sdk : NostrSdk} {sha256 : Sha256} {config : AppConfig}

theorem addresses_modifyNetwork (id : String) {f : NetworkConfig → NetworkConfig}
    (h : ∀ network, (f network).address = network.address) :
    (config.modifyNetwork id f).addresses = config.addresses :=
  map_modifyFirst_eq_self NetworkConfig.address fun network _ => h network

theorem addresses_modifyNetwork_networkId (id meshId : String) :
    (config.modifyNetwork id fun network => { network with networkId := meshId }).addresses =
      setMeshId id meshId config.addresses :=
  map_modifyFirst NetworkConfig.address (fun _ => rfl) fun _ _ => rfl

theorem addresses_noteRosterChange (now : Nat) (id : String) :
    (config.noteRosterChange sdk now id).addresses = config.addresses := by
  unfold AppConfig.noteRosterChange AppConfig.noteNetworkRosterLocalChange
  cases config.networkById id with
  | none => rfl
  | some network =>
    cases config.ownPubkey sdk with
    | none => rfl
    | some own =>
      dsimp only
      split_ifs
      · exact addresses_modifyNetwork id fun _ => rfl
      · rfl

theorem addresses_foldl_noteRosterChange (now : Nat) (ids : List String) (config : AppConfig) :
    (ids.foldl (AppConfig.noteRosterChange sdk now) config).addresses = config.addresses := by
  induction ids generalizing config with
  | nil => rfl
  | cons id ids ih => rw [List.foldl_cons, ih, addresses_noteRosterChange]

theorem addresses_addNetwork (now : Nat) (name : String) :
    (config.addNetwork sdk now name).2.addresses =
      config.addresses ++ [((config.addNetwork sdk now name).1, defaultNetworkId)] := by
  unfold AppConfig.addNetwork
  dsimp only
  rw [addresses_noteRosterChange]
  simp [AppConfig.addresses, NetworkConfig.address]

/-- The entry id of a new network is in no other network. -/
theorem fst_addNetwork_notMem (now : Nat) (name : String) :
    (config.addNetwork sdk now name).1 ∉ config.addresses.map Prod.fst := by
  have fresh := uniquifyNetworkEntryId_notMem (defaultNetworkEntryId (config.networks.length + 1))
    (config.networks.map NetworkConfig.id)
  simpa [AppConfig.addNetwork, AppConfig.addresses, NetworkConfig.address, Function.comp_def]
    using fresh

theorem addresses_enableOnly (index : Nat) : (config.enableOnly index).addresses = config.addresses := by
  refine List.ext_getElem? fun i => ?_
  simp only [AppConfig.addresses, AppConfig.enableOnly, List.getElem?_map, List.getElem?_mapIdx,
    Option.map_map]
  rfl

theorem addresses_setNetworkEnabled {id : String} {enabled : Bool} {after : AppConfig}
    (h : config.setNetworkEnabled id enabled = .ok after) : after.addresses = config.addresses := by
  unfold AppConfig.setNetworkEnabled at h
  split at h
  · split_ifs at h
    · obtain rfl := Except.ok.inj h
      exact addresses_enableOnly _
    · obtain rfl := Except.ok.inj h
      exact addresses_modifyNetwork id fun _ => rfl
  · cases h

theorem addresses_setNetworkMeshId {id meshId : String} {after : AppConfig}
    (h : config.setNetworkMeshId id meshId = .ok after) :
    normalizeRuntimeNetworkId meshId ≠ "" ∧
      after.addresses = setMeshId id (normalizeRuntimeNetworkId meshId) config.addresses := by
  unfold AppConfig.setNetworkMeshId at h
  dsimp only at h
  split_ifs at h with unnamed
  split at h
  · cases h
  · obtain rfl := Except.ok.inj h
    exact ⟨unnamed, addresses_modifyNetwork_networkId _ _⟩

theorem addresses_setPeerAlias (now : Nat) (participant label : String) :
    (config.setPeerAlias sdk sha256 now participant label).2.addresses = config.addresses := by
  unfold AppConfig.setPeerAlias
  cases normalizeNostrPubkey sdk participant with
  | error e => rfl
  | ok hex =>
    dsimp only
    split_ifs
    · exact addresses_foldl_noteRosterChange _ _ _
    · cases normalizeMagicDnsLabel (trim label) with
      | none => rfl
      | some normal => exact addresses_foldl_noteRosterChange _ _ _
    · rfl

theorem addresses_apply (now : UInt64) (update : SharedRosterUpdate) :
    (config.applyAdminSignedSharedRoster sdk sha256 now update).2.addresses = config.addresses := by
  rcases apply_cases sdk sha256 now config update with same | ⟨network, accepted, found, id, meshId, eq⟩
  · rw [same]
  · rw [eq]
    simp only [AppConfig.addresses, networks_acceptSharedRoster]
    refine map_modifyFirst_eq_self NetworkConfig.address fun other eq => ?_
    obtain rfl : network = other := Option.some.inj (found.symm.trans eq)
    simp [NetworkConfig.address, id, meshId]

theorem addresses_recordInboundJoinRequest (networkId requester name : String) (requestedAt : Nat) :
    (config.recordInboundJoinRequest sdk networkId requester name requestedAt).2.addresses =
      config.addresses := by
  unfold AppConfig.recordInboundJoinRequest
  dsimp only
  split_ifs
  · rfl
  · split
    · rfl
    · split
      · rfl
      · split_ifs
        · rfl
        · split
          · rfl
          · exact map_modifyFirst_eq_self NetworkConfig.address fun _ _ => rfl

end Operations

end NostrVpn.Core
