import NostrVpn.Core.Config
import NostrVpn.Core.Paths

/-!
# Planning of tunnel peers

`nostr-vpn-cli/src/main.rs`: which participants become WireGuard peers, at which endpoint and with
which allowed IPs. The `base64` and `hex` crates are parameters.
-/
namespace NostrVpn.Cli

open Rust Rust.Net NostrVpn.Core

/-- `STANDARD.decode` and `hex::encode`. -/
structure KeyCodec where
  decodeBase64 : String → Except String (List UInt8)
  encodeHex : List UInt8 → String

structure TunnelPeer where
  pubkeyHex : String
  endpoint : String
  allowedIps : List String
  deriving DecidableEq, Repr

structure PlannedTunnelPeer where
  participant : String
  endpoint : String
  peer : TunnelPeer
  deriving DecidableEq, Repr

abbrev Announcements := HashMap String PeerAnnouncement

def peerPathRetryAfterSecs : Nat := 5

def stripCidr (value : String) : String := splitFirst '/' value

def keyB64ToHex (codec : KeyCodec) (value : String) : Except String String := do
  let bytes ← (codec.decodeBase64 value).mapError fun _ => "invalid base64 key encoding"
  if bytes.length ≠ 32 then throw "expected 32-byte key material"
  return codec.encodeHex bytes

/-! ## Local-only endpoints -/

def endpointHostIp (endpoint : String) : Option IpAddr :=
  IpAddr.parse (Paths.endpointHostText endpoint)

def ipv4IsLocalOnly (ip : Ipv4Addr) : Bool := isPrivateIpv4 ip || ip.isLoopback

def endpointIsLocalOnly (endpoint : String) : Bool :=
  match endpointHostIp endpoint with
  | some ip => Paths.ipIsLocalOnly ip
  | none => eqIgnoreAsciiCase endpoint "localhost"

def endpointsShareLocalOnlyIpv4Subnet : String → String → Bool :=
  endpointsShareIpv4Subnet ipv4IsLocalOnly

/-- A peer behind NAT whose only known endpoint is on a foreign local network is not planned. -/
def peerEndpointRequiresPublicSignal (app : AppConfig) (a : PeerAnnouncement)
    (selectedEndpoint : String) (ownLocalEndpoints : List String) : Bool :=
  if !app.nat.enabled then false
  else if a.publicEndpoint.any fun endpoint => !isBlank endpoint then false
  else if a.localEndpoint.any fun localEndpoint => localEndpoint == selectedEndpoint &&
      ownLocalEndpoints.any fun own => endpointsShareLocalOnlyIpv4Subnet localEndpoint own then false
  else endpointIsLocalOnly selectedEndpoint

/-! ## Advertised routes -/

def isIpv4Route (route : String) : Bool := (Ipv4Addr.parse (stripCidr route)).isSome

def normalizedPeerIpv4Routes (a : PeerAnnouncement) : List String :=
  normalizeRoutes isIpv4Route a.advertisedRoutes

/-- On Linux, macOS and Windows every platform supports the exit-node client. -/
def selectedExitNodeParticipant (app : AppConfig) (ownPubkey : Option String)
    (announcements : Announcements) : Option String :=
  if app.exitNode = "" ∨ some app.exitNode = ownPubkey then none
  else match announcements.lookup app.exitNode with
    | none => none
    | some a => if "0.0.0.0/0" ∈ normalizedPeerIpv4Routes a then some app.exitNode else none

/-- The participants a plan is made of. -/
def otherParticipants (app : AppConfig) (ownPubkey : Option String) : List String :=
  app.participantPubkeysHex.filter fun participant => some participant ≠ ownPubkey

/-- The routes of a participant that the loop of `advertised_route_assignments` does not skip. -/
def claimedRoutes (app : AppConfig) (ownPubkey : Option String) (announcements : Announcements)
    (participant : String) : List String :=
  match announcements.lookup participant with
  | none => []
  | some a => (normalizedPeerIpv4Routes a).filter fun route =>
    !(isExitNodeRoute route &&
      selectedExitNodeParticipant app ownPubkey announcements != some participant)

def routeOwners (app : AppConfig) (ownPubkey : Option String) (announcements : Announcements) :
    HashMap String String :=
  (otherParticipants app ownPubkey).foldl (fun owners participant =>
    (claimedRoutes app ownPubkey announcements participant).foldl (fun owners route =>
      owners.orInsert route participant) owners) ∅

def advertisedRouteAssignments (app : AppConfig) (ownPubkey : Option String)
    (announcements : Announcements) : HashMap String (List String) :=
  let assignments : HashMap String (List String) :=
    (routeOwners app ownPubkey announcements).toList.foldl (fun assignments (route, participant) =>
      assignments.upsert participant [] fun routes => routes ++ [route]) ∅
  assignments.mapValues sortDedup

/-! ## The plan -/

def tunnelPeerFromEndpoint (codec : KeyCodec) (a : PeerAnnouncement) (endpoint : String)
    (routedIps : List String) : Except String TunnelPeer := do
  let addr ← (SocketAddr.parse endpoint).elim (throw s!"invalid peer endpoint {endpoint}") pure
  let pubkeyHex ← keyB64ToHex codec a.publicKey
  return {
    pubkeyHex
    endpoint := addr.fmt
    allowedIps := routedIps.foldl pushUnique [stripCidr a.tunnelIp ++ "/32"] }

def selectPlannedEndpoint (book : PeerPathBook) (participant : String) (a : PeerAnnouncement)
    (ownLocalEndpoints : List String) (now : Nat) : String :=
  (book.selectEndpointForLocalEndpoints participant a ownLocalEndpoints now
    peerPathRetryAfterSecs).getD (selectPeerEndpointFromLocalEndpoints a ownLocalEndpoints)

/-- The inputs of a planning call that its loop only reads. -/
structure PlanContext where
  codec : KeyCodec
  app : AppConfig
  ownPubkey : Option String
  announcements : Announcements
  ownLocalEndpoints : List String
  now : Nat

/-- One round of the loop: the path book it leaves, and the peer it pushes unless the participant is
skipped. An error ends the loop. -/
def planParticipant (ctx : PlanContext) (assignments : HashMap String (List String))
    (book : PeerPathBook) (participant : String) :
    Except String (Option PlannedTunnelPeer) × PeerPathBook :=
  match ctx.announcements.lookup participant with
  | none => (.ok none, book)
  | some a =>
    let effective := a.withoutExpiredRelay ctx.now
    let book := book.refreshFromAnnouncement participant effective ctx.now
    let endpoint := selectPlannedEndpoint book participant effective ctx.ownLocalEndpoints ctx.now
    if peerEndpointRequiresPublicSignal ctx.app effective endpoint ctx.ownLocalEndpoints then
      (.ok none, book)
    else
      let peer := tunnelPeerFromEndpoint ctx.codec effective endpoint
        ((assignments.lookup participant).getD [])
      (peer.map fun peer => some { participant, endpoint, peer }, book)

def planParticipants (ctx : PlanContext) (assignments : HashMap String (List String)) :
    PeerPathBook → List String → Except String (List PlannedTunnelPeer) × PeerPathBook
  | book, [] => (.ok [], book)
  | book, participant :: rest =>
    match planParticipant ctx assignments book participant with
    | (.error e, book) => (.error e, book)
    | (.ok planned, book) =>
      let (peers, book) := planParticipants ctx assignments book rest
      (peers.map fun peers => planned.toList ++ peers, book)

def plannedTunnelPeersForLocalEndpoints (ctx : PlanContext) (book : PeerPathBook) :
    Except String (List PlannedTunnelPeer) × PeerPathBook :=
  let participants := otherParticipants ctx.app ctx.ownPubkey
  let assignments := advertisedRouteAssignments ctx.app ctx.ownPubkey ctx.announcements
  let (peers, book) :=
    planParticipants ctx assignments (book.retainParticipants participants) participants
  (peers.map fun peers => sortByKey (fun planned => planned.peer.pubkeyHex) peers, book)

/-! ## A codec on three keys -/

/-- Keys of 32 equal bytes, in their base64 form. -/
def sampleKeys : List (String × UInt8) :=
  [("AQEBAQEBAQEBAQEBAQEBAQEBAQEBAQEBAQEBAQEBAQE=", 1),
   ("AgICAgICAgICAgICAgICAgICAgICAgICAgICAgICAgI=", 2),
   ("AwMDAwMDAwMDAwMDAwMDAwMDAwMDAwMDAwMDAwMDAwM=", 3)]

/-- `base64` and `hex` on the sample keys; no other text is a key. -/
def sampleCodec : KeyCodec where
  decodeBase64 text := match sampleKeys.lookup text with
    | some byte => .ok (List.replicate 32 byte)
    | none => .error "Invalid padding"
  encodeHex bytes := .ofList (bytes.flatMap fun byte =>
    [Nat.digitChar (byte.toNat / 16), Nat.digitChar (byte.toNat % 16)])

example : keyB64ToHex sampleCodec "AgICAgICAgICAgICAgICAgICAgICAgICAgICAgICAgI=" =
    .ok "0202020202020202020202020202020202020202020202020202020202020202" := by decide

end NostrVpn.Cli
