import NostrVpn.Core.EnsureDefaults

/-!
# Automatic node settings

`maybe_autoconfigure_node` of `config_defaults.rs` and `derive_mesh_tunnel_ip` of `network_routes.rs`: the
endpoint and the tunnel address of a node that has the default ones. The primary address that the system
reports is an argument.
-/
namespace NostrVpn.Core

open Rust Rust.Net

variable (sdk : NostrSdk) (sha256 : Sha256) (generated : Generated)

/-- The octet of a digest byte, never 0 or 255. -/
def meshOctet (byte : UInt8) : Nat := byte.toNat % 254 + 1

/-- `digest[0]` and `digest[1]` of a digest that has 32 bytes. -/
def meshTunnelIp (digest : List UInt8) : Ipv4Addr :=
  .ofOctets 10 44 (meshOctet (digest[0]?.getD 0)) (meshOctet (digest[1]?.getD 0))

def deriveMeshTunnelIp (networkId ownPubkeyHex : String) : Option String :=
  let networkId := trim (normalizeRuntimeNetworkId networkId)
  let ownPubkeyHex := trim ownPubkeyHex
  if networkId = "" ∨ ownPubkeyHex = "" then none
  else
    let digest := sha256 (networkId.toUTF8.data.toList ++ "\n".toUTF8.data.toList ++
      ownPubkeyHex.toUTF8.data.toList)
    some ((IpAddr.v4 (meshTunnelIp digest)).fmt ++ "/32")

def needsEndpointAutoconfig (endpoint : String) : Bool :=
  let value := trim endpoint
  value == "" || ["127.0.0.1", "0.0.0.0", "localhost", "::1"].contains
    (trimEndMatches ']' (trimStartMatches '[' (trim ((rsplitOnce ':' value).elim value Prod.fst))))

def needsTunnelIpAutoconfig (tunnelIp : String) : Bool :=
  let value := trim tunnelIp
  value == "" || value == "10.44.0.1/32"

namespace AppConfig

def autoconfigureEndpoint (detected : Option Ipv4Addr) (config : AppConfig) : AppConfig :=
  match detected with
  | some ip =>
    if needsEndpointAutoconfig config.node.endpoint then
      let port := fmtNat config.node.listenPort.toNat
      { config with node := { config.node with endpoint := s!"{(IpAddr.v4 ip).fmt}:{port}" } }
    else config
  | none => config

def autoconfigureTunnelIp (config : AppConfig) : AppConfig :=
  match (config.ownPubkey sdk).bind (deriveMeshTunnelIp sha256 config.effectiveNetworkId) with
  | some tunnelIp =>
    if needsTunnelIpAutoconfig config.node.tunnelIp then
      { config with node := { config.node with tunnelIp } }
    else config
  | none => config

def maybeAutoconfigureNode (detected : Option Ipv4Addr) (config : AppConfig) : AppConfig :=
  ((config.ensureDefaults sdk sha256 generated).autoconfigureEndpoint detected).autoconfigureTunnelIp
    sdk sha256

@[simp] theorem networks_autoconfigureEndpoint (detected : Option Ipv4Addr) (config : AppConfig) :
    (config.autoconfigureEndpoint detected).networks = config.networks := by
  unfold autoconfigureEndpoint
  grind

@[simp] theorem networks_autoconfigureTunnelIp (config : AppConfig) :
    (config.autoconfigureTunnelIp sdk sha256).networks = config.networks := by
  unfold autoconfigureTunnelIp
  grind

/-- Only the defaults change the networks. -/
@[simp] theorem networks_maybeAutoconfigureNode (detected : Option Ipv4Addr) (config : AppConfig) :
    (config.maybeAutoconfigureNode sdk sha256 generated detected).networks =
      (config.ensureDefaults sdk sha256 generated).networks := by
  simp [maybeAutoconfigureNode]

end AppConfig

end NostrVpn.Core
