import NostrVpn.Core.ConfigOps
import NostrVpn.Rust.Split
import NostrVpn.WireGuard.Uapi

/-!
# Loading a configuration

`AppConfig::ensure_defaults` and `AppConfig::load`. What the process draws from its environment (a
new identity, the host name, a UUID, a key pair) is an argument.
-/
namespace NostrVpn.Core

open Rust

structure Generated where
  nostrIdentity : String × String
  hostname : Option String := none
  nodeId : String
  keyPair : String × String

variable (sdk : NostrSdk) (sha256 : Sha256) (generated : Generated)

/-! ## Names -/

def legacyDefaultNodeName : String := "nostr-vpn-node"

def defaultNodeNameForPubkey (pubkeyHex : String) : String :=
  defaultMagicDnsLabelForPubkey sha256 pubkeyHex []

def usesDefaultNodeName (value : String) (own : Option String) : Bool :=
  isBlank value || trim value == legacyDefaultNodeName ||
    own.any fun own => trim value == defaultNodeNameForPubkey sha256 own

def defaultNodeNameFromHostname (hostname : String) : Option String := do
  let name := trimEndMatches '.' (trimStartMatches '.' (trim hostname))
  let firstLabel ← (split '.' name).find? fun label => !isBlank label
  let normalized ← normalizeMagicDnsLabel firstLabel
  if normalized = "localhost" then none else some normalized

def defaultNodeNameForHostnameOrPubkey (hostname : Option String) (pubkeyHex : String) : String :=
  (hostname.bind defaultNodeNameFromHostname).getD (defaultNodeNameForPubkey sha256 pubkeyHex)

def normalizeMagicDnsSuffix (value : String) : String :=
  let labels := ((split '.' (trimEndMatches '.' (trim value))).filterMap
    normalizeMagicDnsLabel).filter (· ≠ "")
  if labels = [] then "nvpn" else join "." labels

def normalizeNetworkEntryId (value : String) (ordinal : Nat) : String :=
  (normalizeMagicDnsLabel value).getD (defaultNetworkEntryId ordinal)

def deriveNetworkIdFromParticipants (participants : List String) : String :=
  let digest := sha256 ((sortDedup participants).flatMap fun participant =>
    participant.toUTF8.data.toList ++ "\n".toUTF8.data.toList)
  .ofList ((WireGuard.encodeHex digest).take 16)

/-! ## Networks -/

def defaultNetwork : NetworkConfig :=
  { id := defaultNetworkEntryId 1, name := defaultNetworkName 1, networkId := defaultNetworkId }

/-- The body of the loop over the networks; `used` holds the entry ids of those before. -/
def NetworkConfig.ensureDefaults (own : Option String) (ordinal : Nat) (used : List String)
    (network : NetworkConfig) : NetworkConfig :=
  let id := if isBlank network.id then defaultNetworkEntryId ordinal
    else normalizeNetworkEntryId network.id ordinal
  let inviteInviter := (normalPubkey? sdk network.inviteInviter).getD ""
  let participants := sortDedup (network.participants.filterMap (normalPubkey? sdk))
  let sharedRosterSignedBy := (normalPubkey? sdk network.sharedRosterSignedBy).getD ""
  { network with
    name := if isBlank network.name then defaultNetworkName ordinal else trim network.name
    id := uniquifyNetworkEntryId id used
    networkId := if isBlank network.networkId then defaultNetworkId else network.networkId
    inviteInviter
    participants
    admins := normalizeNetworkAdmins sdk network.admins own inviteInviter
    outboundJoinRequest := normalizeOutboundJoinRequest sdk network.outboundJoinRequest
    inboundJoinRequests := normalizeInboundJoinRequests sdk network.inboundJoinRequests participants
    sharedRosterSignedBy
    sharedRosterUpdatedAt :=
      if sharedRosterSignedBy = "" then 0 else network.sharedRosterUpdatedAt }

def ensureNetworks (own : Option String) : Nat → List String → List NetworkConfig → List NetworkConfig
  | _, _, [] => []
  | ordinal, used, network :: rest =>
    let network := network.ensureDefaults sdk own ordinal used
    network :: ensureNetworks own (ordinal + 1) (network.id :: used) rest

theorem length_ensureNetworks (own : Option String) (ordinal : Nat) (used : List String)
    (networks : List NetworkConfig) :
    (ensureNetworks sdk own ordinal used networks).length = networks.length := by
  induction networks generalizing ordinal used with
  | nil => rfl
  | cons network rest ih => simp [ensureNetworks, ih]

theorem ensureNetworks_ne_nil {own : Option String} {ordinal : Nat} {used : List String}
    {networks : List NetworkConfig} (h : networks ≠ []) :
    ensureNetworks sdk own ordinal used networks ≠ [] := by
  rw [← List.length_pos_iff, length_ensureNetworks]
  exact List.length_pos_iff.mpr h

def NetworkConfig.deriveDefaultNetworkId (own : Option String) (network : NetworkConfig) :
    NetworkConfig :=
  if !usesDefaultNetworkId network.networkId then network
  else match own with
    | none => { network with networkId := defaultNetworkId }
    | some own =>
      if network.participants = [] then { network with networkId := defaultNetworkId }
      else { network with
        networkId := deriveNetworkIdFromParticipants sha256 (network.participants ++ [own]) }

namespace AppConfig

/-! ## The stages -/

def ensureNostrIdentity (config : AppConfig) : AppConfig :=
  let identity : NostrConfig := { config.nostr with
    secretKey := generated.nostrIdentity.1, publicKey := generated.nostrIdentity.2 }
  if isBlank config.nostr.secretKey then { config with nostr := identity }
  else match sdk.publicKeyOfSecret config.nostr.secretKey with
    | .error _ => { config with nostr := identity }
    | .ok publicKey =>
      if isBlank config.nostr.publicKey then { config with nostr := { config.nostr with
        publicKey := (sdk.publicKeyToBech32 publicKey).getD publicKey } }
      else config

def ensureNodeName (own : Option String) (config : AppConfig) : AppConfig :=
  if !usesDefaultNodeName sha256 config.nodeName own then config
  else { config with nodeName := match own with
    | some own => defaultNodeNameForHostnameOrPubkey sha256 generated.hostname own
    | none => (generated.hostname.bind defaultNodeNameFromHostname).getD legacyDefaultNodeName }

def ensureNode (node : NodeConfig) : NodeConfig :=
  let routes := normalizeAdvertisedRoutes node.advertisedRoutes
  let keys := if isBlank node.privateKey || isBlank node.publicKey then generated.keyPair
    else (node.privateKey, node.publicKey)
  { id := if isBlank node.id then generated.nodeId else node.id
    endpoint := if isBlank node.endpoint then "127.0.0.1:51820" else node.endpoint
    tunnelIp := if isBlank node.tunnelIp then "10.44.0.1/32" else node.tunnelIp
    listenPort := if node.listenPort = 0 then 51820 else node.listenPort
    advertiseExitNode := node.advertiseExitNode || routes.any isExitNodeRoute
    advertisedRoutes := routes.filter fun route => !isExitNodeRoute route
    privateKey := keys.1
    publicKey := keys.2 }

def ensureExitNode (config : AppConfig) : AppConfig :=
  let exitNode := (normalPubkey? sdk (trim config.exitNode)).getD ""
  { config with exitNode := if config.ownPubkey sdk = some exitNode then "" else exitNode }

/-- Only the first enabled network stays enabled, or the first one is enabled. -/
def ensureSingleActiveNetwork (config : AppConfig) : AppConfig :=
  config.enableOnly ((config.networks.findIdx? fun network => network.enabled).getD 0)

def deriveDefaultNetworkIds (config : AppConfig) : AppConfig :=
  { config with
    networks := config.networks.map (NetworkConfig.deriveDefaultNetworkId sha256 (config.ownPubkey sdk))
    networks_ne := by simpa using config.networks_ne }

/-- The fields beside the networks, in the order of the source. -/
def ensureFields (own : Option String) (config : AppConfig) : AppConfig :=
  let config := { config with autoDisconnectRelaysWhenMeshReady := false }
  let config := config.ensureNodeName sha256 generated own
  { config with
    magicDnsSuffix := normalizeMagicDnsSuffix config.magicDnsSuffix
    nostr := { config.nostr with
      relays := if config.nostr.relays = [] then defaultRelays else config.nostr.relays }
    node := ensureNode generated config.node }

def ensureNetworkList (own : Option String) (config : AppConfig) : AppConfig :=
  { config with
    networks := ensureNetworks sdk own 1 [] config.networks
    networks_ne := ensureNetworks_ne_nil sdk config.networks_ne }

def ensureDefaults (config : AppConfig) : AppConfig :=
  let config := config.ensureNostrIdentity sdk generated
  let own := config.ownPubkey sdk
  let config := ((config.ensureFields sha256 generated own).ensureExitNode sdk).ensureNetworkList sdk own
  let config := config.ensureSingleActiveNetwork.deriveDefaultNetworkIds sdk sha256
  config.normalizeSelectedExitNode.normalizePeerAliases sdk sha256

/-- `AppConfig::load` of a file that parses; a file without networks gets the default one. -/
def load (fields : AppConfig) (networks : List NetworkConfig) : AppConfig :=
  ensureDefaults sdk sha256 generated { fields with
    networks := if networks = [] then [defaultNetwork] else networks
    networks_ne := by split_ifs <;> simp_all }

theorem ids_ensureNetworks (own : Option String) (ordinal : Nat) (used : List String)
    (networks : List NetworkConfig) :
    ((ensureNetworks sdk own ordinal used networks).map NetworkConfig.id).Nodup ∧
      ∀ id ∈ (ensureNetworks sdk own ordinal used networks).map NetworkConfig.id, id ∉ used := by
  induction networks generalizing ordinal used with
  | nil => simp [ensureNetworks]
  | cons network rest ih =>
    have fresh : (network.ensureDefaults sdk own ordinal used).id ∉ used :=
      uniquifyNetworkEntryId_notMem _ _
    obtain ⟨distinct, later⟩ := ih (ordinal + 1) ((network.ensureDefaults sdk own ordinal used).id :: used)
    simp only [ensureNetworks, List.map_cons, List.nodup_cons, List.mem_cons]
    grind

@[simp] theorem id_deriveDefaultNetworkId (own : Option String) (network : NetworkConfig) :
    (network.deriveDefaultNetworkId sha256 own).id = network.id := by
  unfold NetworkConfig.deriveDefaultNetworkId
  grind

/-- The entry ids of a loaded configuration are distinct. -/
theorem nodup_ids_ensureDefaults (config : AppConfig) :
    ((config.ensureDefaults sdk sha256 generated).networks.map NetworkConfig.id).Nodup := by
  simp only [ensureDefaults, networks_normalizePeerAliases, networks_normalizeSelectedExitNode]
  simp only [deriveDefaultNetworkIds, ensureSingleActiveNetwork, enableOnly, ensureNetworkList,
    List.map_map, Function.comp_def, id_deriveDefaultNetworkId]
  have ids (networks : List NetworkConfig) (index : Nat) :
      (networks.mapIdx fun i network => { network with enabled := i == index }).map
        NetworkConfig.id = networks.map NetworkConfig.id :=
    List.ext_getElem? fun i => by simp [List.getElem?_mapIdx, Function.comp_def]
  rw [ids]
  exact (ids_ensureNetworks sdk _ 1 [] _).1

end AppConfig

end NostrVpn.Core
