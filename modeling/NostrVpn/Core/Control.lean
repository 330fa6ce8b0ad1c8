import NostrVpn.Rust.Net

/-!
# Peer announcements

`nostr-vpn-core/src/control.rs`: the announcement a peer publishes and the endpoint it is reached at
when nothing else is known.
-/
namespace NostrVpn.Core

open Rust Rust.Net

structure PeerAnnouncement where
  nodeId : String
  publicKey : String
  endpoint : String
  localEndpoint : Option String := none
  publicEndpoint : Option String := none
  relayEndpoint : Option String := none
  relayPubkey : Option String := none
  relayExpiresAt : Option Nat := none
  tunnelIp : String
  advertisedRoutes : List String := []
  timestamp : Nat
  deriving DecidableEq, Repr

namespace PeerAnnouncement

def withRelay (a : PeerAnnouncement) (endpoint pubkey : Option String) (expiresAt : Option Nat) :
    PeerAnnouncement :=
  { a with
    relayEndpoint := endpoint.filter fun value => !isBlank value
    relayPubkey := pubkey.filter fun value => !isBlank value
    relayExpiresAt := expiresAt }

def withoutExpiredRelay (a : PeerAnnouncement) (now : Nat) : PeerAnnouncement :=
  if a.relayExpiresAt.any (· ≤ now) then
    { a with relayEndpoint := none, relayPubkey := none, relayExpiresAt := none }
  else a

/-- Dropping an expired relay leaves everything that a tunnel peer is built from. -/
@[simp] theorem publicKey_withoutExpiredRelay (a : PeerAnnouncement) (now : Nat) :
    (a.withoutExpiredRelay now).publicKey = a.publicKey := by
  unfold withoutExpiredRelay; split_ifs <;> rfl

@[simp] theorem tunnelIp_withoutExpiredRelay (a : PeerAnnouncement) (now : Nat) :
    (a.withoutExpiredRelay now).tunnelIp = a.tunnelIp := by
  unfold withoutExpiredRelay; split_ifs <;> rfl

end PeerAnnouncement

def isPrivateIpv4 (ip : Ipv4Addr) : Bool :=
  ip.isPrivate || ip.isLinkLocal || (ip.octet 0 == 100 && 64 ≤ ip.octet 1 && ip.octet 1 ≤ 127) ||
    (ip.octet 0 == 198 && (ip.octet 1 == 18 || ip.octet 1 == 19))

/-- Both endpoints are IPv4, both addresses satisfy `scope`, and the first three octets agree. -/
def endpointsShareIpv4Subnet (scope : Ipv4Addr → Bool) (left right : String) : Bool :=
  match SocketAddr.parse left, SocketAddr.parse right with
  | some (.v4 l _), some (.v4 r _) =>
    scope l && scope r && l.octet 0 == r.octet 0 && l.octet 1 == r.octet 1 && l.octet 2 == r.octet 2
  | _, _ => false

def endpointsSharePrivateIpv4Subnet : String → String → Bool :=
  endpointsShareIpv4Subnet isPrivateIpv4

def endpointSharesPrivateIpv4Subnet (endpoint : String) (ownLocalEndpoints : List String) : Bool :=
  ownLocalEndpoints.any fun ownLocal => endpointsSharePrivateIpv4Subnet endpoint ownLocal

/-- The announced endpoint of a peer that is on no shared subnet. -/
def PeerAnnouncement.directEndpoint (a : PeerAnnouncement) : String :=
  (a.publicEndpoint.filter fun endpoint => !isBlank endpoint).getD a.endpoint

def selectPeerEndpoint (a : PeerAnnouncement) (ownLocalEndpoint : Option String) : String :=
  match a.localEndpoint, ownLocalEndpoint with
  | some peerLocal, some ownLocal =>
    if endpointsSharePrivateIpv4Subnet peerLocal ownLocal then peerLocal else a.directEndpoint
  | _, _ => a.directEndpoint

def selectPeerEndpointFromLocalEndpoints (a : PeerAnnouncement) (ownLocalEndpoints : List String) :
    String :=
  match a.localEndpoint with
  | some peerLocal =>
    if endpointSharesPrivateIpv4Subnet peerLocal ownLocalEndpoints then peerLocal
    else a.directEndpoint
  | none => a.directEndpoint

end NostrVpn.Core
