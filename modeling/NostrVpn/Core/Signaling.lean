import NostrVpn.Core.ConfigDefaults
import NostrVpn.Core.Control
import NostrVpn.Core.ServiceSignaling
import NostrVpn.Rust.HashMap
import NostrVpn.Rust.Vec

/-!
# Private signals

`nostr-vpn-core/src/signaling.rs`: what one member of a network sends to another, and the filter of the
receiving client. Opening an event (NIP-44 decryption, then JSON) is a parameter.
-/
namespace NostrVpn.Core

open Rust

structure MeshJoinRequest where
  networkId : String
  requesterNodeName : String := ""
  deriving DecidableEq, Repr

structure NetworkRoster where
  networkName : String := ""
  participants : List String := []
  admins : List String := []
  aliases : HashMap String String := ∅
  signedAt : Nat
  deriving DecidableEq

inductive SignalPayload where
  | Hello
  | Announce (announcement : PeerAnnouncement)
  | Roster (roster : NetworkRoster)
  | Disconnect (nodeId : String)
  | JoinRequest (requestedAt : Nat) (request : MeshJoinRequest)
  deriving DecidableEq

structure SignalEnvelope where
  networkId : String
  senderPubkey : String
  payload : SignalPayload
  deriving DecidableEq

structure ReceivedMeshJoinRequest where
  senderPubkey : String
  requestedAt : Nat
  request : MeshJoinRequest
  deriving DecidableEq, Repr

/-! ## The client -/

structure SignalingNetwork where
  networkId : String
  participants : List String
  deriving DecidableEq, Repr

structure ConfiguredSignalingNetwork where
  networkId : String
  participants : List String
  deriving DecidableEq, Repr

structure NostrSignalingClient where
  defaultNetworkId : String
  networkIds : List String
  ownPubkey : String
  networks : List ConfiguredSignalingNetwork
  participantPubkeys : List String
  deriving DecidableEq, Repr

/-- One round of the loop of `normalize_signaling_networks`. -/
def addSignalingNetwork (sdk : NostrSdk) (normalized : List ConfiguredSignalingNetwork)
    (network : SignalingNetwork) : Except String (List ConfiguredSignalingNetwork) := do
  let networkId := trim network.networkId
  if networkId = "" then throw "network_id must not be empty"
  let participants ← network.participants.mapM (normalizeNostrPubkey sdk)
  if normalized.any fun existing => existing.networkId == networkId then
    return modifyFirst (fun existing => existing.networkId == networkId) (fun existing =>
      { existing with participants := existing.participants ++ participants }) normalized
  return normalized ++ [⟨networkId, participants⟩]

def normalizeSignalingNetworks (sdk : NostrSdk) (networks : List SignalingNetwork) :
    Except String (List ConfiguredSignalingNetwork) := do
  let normalized ← networks.foldlM (addSignalingNetwork sdk) []
  if normalized = [] then throw "at least one signaling network is required"
  return normalized

def NostrSignalingClient.fromSecretKeyWithNetworks (sdk : NostrSdk) (secretKey : String)
    (networks : List SignalingNetwork) : Except String NostrSignalingClient := do
  let ownPubkey ← (sdk.publicKeyOfSecret secretKey).mapError fun _ => "invalid nostr secret key"
  let networks ← normalizeSignalingNetworks sdk networks
  let networkIds := networks.map ConfiguredSignalingNetwork.networkId
  match networkIds.head? with
  | none => throw "at least one signaling network is required"
  | some defaultNetworkId => return {
      defaultNetworkId
      networkIds
      ownPubkey
      networks
      participantPubkeys := networks.flatMap ConfiguredSignalingNetwork.participants }

/-! ## The event forwarder -/

/-- Decryption and parsing of what an author sent: `openEnvelope` is `none` when decryption fails, and
`some none` when the text is no signal envelope. -/
structure SignalReader where
  openEnvelope : (author content : String) → Option (Option SignalEnvelope)
  openJoinRequest : SignedEvent → Option ReceivedMeshJoinRequest

def signalHelloTag : String := "hello"

/-- `!set.is_empty() && !set.contains(sender)` is the negation: an empty set is open to everybody. -/
def openTo (participants : List String) (sender : String) : Bool :=
  participants.isEmpty || participants.contains sender

def NostrSignalingClient.forwardHello (client : NostrSignalingClient) (sender : String) :
    List SignalEnvelope :=
  if sender = client.ownPubkey ∨ !openTo client.participantPubkeys sender then []
  else
    let matched := (client.networks.filter fun network => openTo network.participants sender).map
      ConfiguredSignalingNetwork.networkId
    (if matched = [] then [client.defaultNetworkId] else matched).map fun networkId =>
      { networkId, senderPubkey := sender, payload := .Hello }

def NostrSignalingClient.acceptEnvelope (client : NostrSignalingClient) (author : String)
    (envelope : SignalEnvelope) : Bool :=
  client.networkIds.contains envelope.networkId &&
    match client.networks.find? fun network => network.networkId == envelope.networkId with
    | none => false
    | some network =>
      envelope.senderPubkey != client.ownPubkey && envelope.senderPubkey == author &&
        openTo network.participants envelope.senderPubkey &&
        openTo client.participantPubkeys envelope.senderPubkey

/-- One round of the event forwarder: the envelopes it sends on. -/
def NostrSignalingClient.forwardEvent (client : NostrSignalingClient) (reader : SignalReader)
    (event : SignedEvent) : List SignalEnvelope :=
  if event.kind ≠ NOSTR_KIND_NOSTR_VPN then []
  else if firstTagValue event "l" = some signalHelloTag then client.forwardHello event.pubkey
  else if event.pubkey = client.ownPubkey ∨ firstTagValue event "p" ≠ some client.ownPubkey then []
  else match reader.openEnvelope event.pubkey event.content with
    | none => []
    | some (some envelope) =>
      if client.acceptEnvelope event.pubkey envelope then [envelope] else []
    | some none => (reader.openJoinRequest event).toList.map fun received =>
        { networkId := received.request.networkId
          senderPubkey := received.senderPubkey
          payload := .JoinRequest received.requestedAt received.request }

end NostrVpn.Core
