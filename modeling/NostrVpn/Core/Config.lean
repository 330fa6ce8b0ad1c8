import NostrVpn.Core.ConfigMagicDns
import NostrVpn.Core.NetworkRoutes
import NostrVpn.Rust.HashMap

/-!
# Application configuration

`nostr-vpn-core/src/config.rs`: the configuration record with its `serde` defaults and the functions
that read it. Every constructor of `AppConfig` goes through `ensure_defaults`, which adds a network
to an empty list, and `remove_network` keeps the last one, so the list is never empty.
-/
namespace NostrVpn.Core

open Rust

def defaultRelays : List String :=
  ["wss://temp.iris.to", "wss://relay.damus.io", "wss://relay.snort.social",
   "wss://relay.primal.net"]

structure PendingOutboundJoinRequest where
  recipient : String := ""
  requestedAt : Nat := 0
  deriving DecidableEq, Repr

structure PendingInboundJoinRequest where
  requester : String := ""
  requesterNodeName : String := ""
  requestedAt : Nat := 0
  deriving DecidableEq, Repr

structure NostrConfig where
  relays : List String := defaultRelays
  secretKey : String := ""
  publicKey : String := ""
  deriving DecidableEq, Repr

structure NatConfig where
  enabled : Bool := true
  stunServers : List String :=
    ["stun:stun.iris.to:3478", "stun:stun.l.google.com:19302", "stun:stun.cloudflare.com:3478"]
  reflectors : List String := []
  discoveryTimeoutSecs : Nat := 2
  deriving DecidableEq, Repr

/-- The default of `id` is a fresh UUID, so it has none here. -/
structure NodeConfig where
  id : String
  privateKey : String := ""
  publicKey : String := ""
  endpoint : String := "127.0.0.1:51820"
  tunnelIp : String := "10.44.0.1/32"
  listenPort : UInt16 := 51820
  advertisedRoutes : List String := []
  advertiseExitNode : Bool := false
  deriving DecidableEq, Repr

structure NetworkConfig where
  id : String := ""
  name : String := ""
  enabled : Bool := true
  networkId : String := ""
  participants : List String := []
  admins : List String := []
  listenForJoinRequests : Bool := true
  inviteInviter : String := ""
  outboundJoinRequest : Option PendingOutboundJoinRequest := none
  inboundJoinRequests : List PendingInboundJoinRequest := []
  sharedRosterUpdatedAt : Nat := 0
  sharedRosterSignedBy : String := ""
  deriving DecidableEq, Repr

structure AppConfig where
  networks : List NetworkConfig
  networks_ne : networks ≠ [] := by decide
  nodeName : String := "nostr-vpn-node"
  usePublicRelayFallback : Bool := true
  relayForOthers : Bool := false
  provideNatAssist : Bool := false
  autoDisconnectRelaysWhenMeshReady : Bool := false
  lanDiscoveryEnabled : Bool := true
  launchOnStartup : Bool := true
  autoconnect : Bool := true
  exitNode : String := ""
  closeToTrayOnClose : Bool := true
  magicDnsSuffix : String := "nvpn"
  peerAliases : HashMap String String := ∅
  nat : NatConfig := {}
  nostr : NostrConfig := {}
  node : NodeConfig

namespace AppConfig

/-- The first enabled network, or the first one. -/
def activeNetwork (config : AppConfig) : NetworkConfig :=
  (config.networks.find? fun network => network.enabled).getD (config.networks.head config.networks_ne)

def effectiveNetworkId (config : AppConfig) : String :=
  normalizeRuntimeNetworkId config.activeNetwork.networkId

def participantPubkeysHex (config : AppConfig) : List String :=
  sortDedup config.activeNetwork.participants

def allNetworkMemberPubkeysHex (config : AppConfig) : List String :=
  sortDedup (config.networks.flatMap fun network => network.participants ++ network.admins)

def activeNetworkAdminPubkeysHex (config : AppConfig) : List String :=
  sortDedup config.activeNetwork.admins

def activeNetworkSignalPubkeysHex (config : AppConfig) : List String :=
  sortDedup (config.activeNetwork.participants ++ config.activeNetwork.admins)

def joinRequestsEnabled (config : AppConfig) : Bool :=
  config.networks.any fun network => network.listenForJoinRequests

/-- The configured public key, or the one of the secret key when it does not parse. -/
def ownNostrPubkeyHex (sdk : NostrSdk) (config : AppConfig) : Except String String :=
  match normalizeNostrPubkey sdk config.nostr.publicKey with
  | .ok own => .ok own
  | .error _ =>
    (sdk.publicKeyOfSecret config.nostr.secretKey).mapError fun _ => "invalid nostr secret key"

def ownPubkey (sdk : NostrSdk) (config : AppConfig) : Option String :=
  (config.ownNostrPubkeyHex sdk).toOption

def effectiveAdvertisedRoutes (config : AppConfig) : List String :=
  Core.effectiveAdvertisedRoutes config.node.advertisedRoutes config.node.advertiseExitNode

theorem activeNetwork_mem (config : AppConfig) : config.activeNetwork ∈ config.networks := by
  unfold activeNetwork
  cases found : config.networks.find? fun network => network.enabled with
  | none => exact List.head_mem config.networks_ne
  | some network => exact List.mem_of_find?_eq_some found

theorem nodup_participantPubkeysHex (config : AppConfig) : config.participantPubkeysHex.Nodup :=
  nodup_sortDedup _

end AppConfig

end NostrVpn.Core
