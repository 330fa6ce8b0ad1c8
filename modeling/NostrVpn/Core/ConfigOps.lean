import NostrVpn.Core.NetworkRoster
import NostrVpn.Rust.NetText

/-!
# Operations on a configuration

The methods of `nostr-vpn-core/src/config.rs` that add a network, switch to it, rename its mesh and
name its members. A `&mut self` method returns the configuration it leaves; the time is an argument.
-/
namespace NostrVpn.Core

open Rust

def defaultNetworkName (ordinal : Nat) : String := "Network " ++ fmtNat ordinal

def defaultNetworkEntryId (ordinal : Nat) : String := "network-" ++ fmtNat ordinal

/-- The loop over suffixes stops at the latest behind the ids in use. -/
def uniquifyNetworkEntryId (candidate : String) (usedIds : List String) : String :=
  if candidate ∉ usedIds then candidate
  else (((List.range' 2 (usedIds.length + 1)).map fun suffix =>
    candidate ++ "-" ++ fmtNat suffix).find? fun next => decide (next ∉ usedIds)).getD candidate

/-- One more suffix is tried than there are ids in use, so a free one is found. -/
theorem uniquifyNetworkEntryId_notMem (candidate : String) (usedIds : List String) :
    uniquifyNetworkEntryId candidate usedIds ∉ usedIds := by
  unfold uniquifyNetworkEntryId
  by_cases free : candidate ∉ usedIds
  · rwa [if_pos free]
  · rw [if_neg free]
    cases found : ((List.range' 2 (usedIds.length + 1)).map fun suffix =>
        candidate ++ "-" ++ fmtNat suffix).find? fun next => decide (next ∉ usedIds) with
    | some next => simpa using List.find?_some found
    | none =>
      have taken := List.find?_eq_none.mp found
      have distinct : ((List.range' 2 (usedIds.length + 1)).map fun suffix =>
          candidate ++ "-" ++ fmtNat suffix).Nodup :=
        (List.nodup_range' 1).map fun m n same => fmtNat_injective (by simpa using same)
      have room := (distinct.subperm fun next mem => by simpa using taken next mem).length_le
      simp at room

def nextSharedRosterUpdatedAt (now previous : Nat) : Nat := max now (saturatingAdd previous 1)

structure SharedNetworkRoster where
  id : String
  networkId : String
  name : String
  participants : List String
  admins : List String
  aliases : HashMap String String
  updatedAt : Nat
  signedBy : String

structure EnabledNetworkMesh where
  id : String
  name : String
  networkId : String
  participants : List String
  deriving DecidableEq, Repr

def NetworkConfig.hasEntryId (id : String) (network : NetworkConfig) : Bool := network.id == id

def NetworkConfig.hasMember (member : String) (network : NetworkConfig) : Bool :=
  network.participants.contains member || network.admins.contains member

namespace AppConfig

def networkById (config : AppConfig) (id : String) : Option NetworkConfig :=
  config.networks.find? (NetworkConfig.hasEntryId id)

theorem networkById_isSome {config : AppConfig} {id : String} :
    (config.networkById id).isSome ↔ id ∈ config.networks.map NetworkConfig.id := by
  simp [networkById, List.find?_isSome, NetworkConfig.hasEntryId, List.mem_map]

def enabledNetworkMeshes (config : AppConfig) : List EnabledNetworkMesh :=
  let network := config.activeNetwork
  [{ id := network.id
     name := network.name
     networkId := normalizeRuntimeNetworkId network.networkId
     participants := sortDedup network.participants }]

def networkSignalPubkeysHex (config : AppConfig) (id : String) : Except String (List String) :=
  match config.networkById id with
  | none => .error "network not found"
  | some network => .ok (sortDedup (network.participants ++ network.admins))

/-- A change through `network_by_id_mut`. -/
def modifyNetwork (config : AppConfig) (id : String) (f : NetworkConfig → NetworkConfig) :
    AppConfig :=
  { config with
    networks := modifyFirst (NetworkConfig.hasEntryId id) f config.networks
    networks_ne := modifyFirst_ne_nil config.networks_ne }

@[simp] theorem networks_modifyNetwork (config : AppConfig) (id : String)
    (f : NetworkConfig → NetworkConfig) : (config.modifyNetwork id f).networks =
      modifyFirst (NetworkConfig.hasEntryId id) f config.networks := rfl

@[simp] theorem nostr_modifyNetwork (config : AppConfig) (id : String)
    (f : NetworkConfig → NetworkConfig) : (config.modifyNetwork id f).nostr = config.nostr := rfl

/-- Only a roster that the own key administers is stamped. -/
def noteNetworkRosterLocalChange (sdk : NostrSdk) (now : Nat) (config : AppConfig) (id : String) :
    Except String AppConfig :=
  match config.networkById id with
  | none => .error "network not found"
  | some network =>
    match config.ownPubkey sdk with
    | none => .ok config
    | some own =>
      if own ∉ network.admins then .ok config
      else .ok (config.modifyNetwork id fun network => { network with
        sharedRosterUpdatedAt := nextSharedRosterUpdatedAt now network.sharedRosterUpdatedAt
        sharedRosterSignedBy := own })

/-- `let _ = self.note_network_roster_local_change(..)`. -/
def noteRosterChange (sdk : NostrSdk) (now : Nat) (config : AppConfig) (id : String) : AppConfig :=
  (config.noteNetworkRosterLocalChange sdk now id).toOption.getD config

def addNetwork (sdk : NostrSdk) (now : Nat) (config : AppConfig) (name : String) :
    String × AppConfig :=
  let ordinal := config.networks.length + 1
  let id := uniquifyNetworkEntryId (defaultNetworkEntryId ordinal)
    (config.networks.map NetworkConfig.id)
  let name := if isBlank name then defaultNetworkName ordinal else trim name
  let added : NetworkConfig := { id, name, enabled := false, networkId := defaultNetworkId }
  let config : AppConfig := { config with
    networks := config.networks ++ [added]
    networks_ne := by simp }
  (id, config.noteRosterChange sdk now id)

/-- Enable the network at the index, and no other one. -/
def enableOnly (config : AppConfig) (index : Nat) : AppConfig :=
  { config with
    networks := config.networks.mapIdx fun i network => { network with enabled := i == index }
    networks_ne := by simpa using config.networks_ne }

def setNetworkEnabled (config : AppConfig) (id : String) (enabled : Bool) :
    Except String AppConfig :=
  match config.networks.findIdx? (NetworkConfig.hasEntryId id), config.networkById id with
  | some index, some network =>
    if enabled then .ok (config.enableOnly index)
    else if network.enabled then
      .error "at least one active network is required; activate another network first"
    else .ok (config.modifyNetwork id fun network => { network with enabled := false })
  | _, _ => .error "network not found"

theorem setNetworkEnabled_true {config : AppConfig} {id : String}
    (h : id ∈ config.networks.map NetworkConfig.id) :
    ∃ index, config.setNetworkEnabled id true = .ok (config.enableOnly index) := by
  obtain ⟨network, mem, rfl⟩ := List.mem_map.mp h
  have found : (config.networks.findIdx? (NetworkConfig.hasEntryId network.id)).isSome := by
    rw [List.findIdx?_isSome, List.any_eq_true]
    exact ⟨network, mem, by simp [NetworkConfig.hasEntryId]⟩
  obtain ⟨index, at'⟩ := Option.isSome_iff_exists.mp found
  obtain ⟨entry, byId⟩ := Option.isSome_iff_exists.mp (networkById_isSome.mpr h)
  exact ⟨index, by simp [setNetworkEnabled, at', byId]⟩

def setNetworkMeshId (config : AppConfig) (id meshId : String) : Except String AppConfig :=
  let normalized := normalizeRuntimeNetworkId meshId
  if normalized = "" then .error "network id cannot be empty"
  else match config.networkById id with
    | none => .error "network not found"
    | some _ => .ok (config.modifyNetwork id fun network => { network with networkId := normalized })

theorem setNetworkMeshId_ok {config : AppConfig} {id meshId : String}
    (h : id ∈ config.networks.map NetworkConfig.id)
    (named : normalizeRuntimeNetworkId meshId ≠ "") :
    config.setNetworkMeshId id meshId = .ok (config.modifyNetwork id fun network =>
      { network with networkId := normalizeRuntimeNetworkId meshId }) := by
  obtain ⟨entry, byId⟩ := Option.isSome_iff_exists.mp (networkById_isSome.mpr h)
  simp [setNetworkMeshId, named, byId]

def selfMagicDnsLabel (config : AppConfig) : Option String :=
  config.preferredSelfMagicDnsLabel.map fun preferred =>
    (uniquifyMagicDnsLabel preferred config.peerAliases.values).1

def peerAlias (sdk : NostrSdk) (config : AppConfig) (participant : String) : Option String :=
  (normalPubkey? sdk participant).bind fun hex => config.peerAliases.lookup (npubForPubkeyHex sdk hex)

/-- The alias table is normalised, the rosters with the member are stamped, and the alias that is
then stored is returned. -/
def setPeerAlias (sdk : NostrSdk) (sha256 : Sha256) (now : Nat) (config : AppConfig)
    (participant alias' : String) : Except String String × AppConfig :=
  match normalizeNostrPubkey sdk participant with
  | .error e => (.error e, config)
  | .ok hex =>
    let affected := (config.networks.filter (NetworkConfig.hasMember hex)).map NetworkConfig.id
    if hex ∉ config.allNetworkMemberPubkeysHex then (.error "participant is not configured", config)
    else
      let npub := npubForPubkeyHex sdk hex
      let store (aliases : HashMap String String) : Except String String × AppConfig :=
        let config := ({ config with peerAliases := aliases } : AppConfig).normalizePeerAliases sdk
          sha256
        let config := affected.foldl (noteRosterChange sdk now) config
        (match config.peerAliases.lookup npub with
          | some stored => .ok stored
          | none => .error "failed to persist alias", config)
      if isBlank alias' then store (config.peerAliases.erase npub)
      else match normalizeMagicDnsLabel (trim alias') with
        | none => (.error "invalid alias", config)
        | some label => store (config.peerAliases.insert npub label)

def sharedNetworkRoster (sdk : NostrSdk) (config : AppConfig) (id : String) :
    Except String SharedNetworkRoster :=
  match config.networkById id with
  | none => .error "network not found"
  | some network =>
    let own := config.ownPubkey sdk
    let participants := sortDedup (network.participants ++ own.toList)
    let admins := sortDedup network.admins
    let aliases := (sortDedup (participants ++ admins)).filterMap fun member =>
      let alias' := if own = some member then config.selfMagicDnsLabel
        else config.peerAlias sdk member
      alias'.map fun label => (member, label)
    .ok {
      id := network.id
      networkId := normalizeRuntimeNetworkId network.networkId
      name := network.name
      participants
      admins
      aliases := HashMap.ofList aliases
      updatedAt := network.sharedRosterUpdatedAt
      signedBy := network.sharedRosterSignedBy }

end AppConfig

end NostrVpn.Core
