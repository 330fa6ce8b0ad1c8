import Mathlib.Data.List.Basic

/-!
# Relay service messages

`nostr-vpn-core/src/relay.rs` and `service_signaling.rs`: the messages between a client and a relay
operator, and the forwarder that turns signed events into envelopes with a checked sender. Opening
an event (NIP-44 decryption, then JSON) is a parameter.
-/
namespace NostrVpn.Core

structure RelayAllocationRequest where
  requestId : String
  networkId : String
  targetPubkey : String
  requestedAt : Nat
  deriving DecidableEq, Repr

structure RelayAllocationGranted where
  requestId : String
  networkId : String
  relayPubkey : String
  requesterIngressEndpoint : String
  targetIngressEndpoint : String
  expiresAt : Nat
  deriving DecidableEq, Repr

inductive RelayAllocationRejectReason where
  | OverCapacity | TooManySessionsForRequester | ByteLimitExceeded | RateLimited | InvalidRequest
  deriving DecidableEq, Repr

structure RelayAllocationRejected where
  requestId : String
  networkId : String
  relayPubkey : String
  reason : RelayAllocationRejectReason
  retryAfterSecs : Option Nat
  deriving DecidableEq, Repr

structure RelayProbeRequest where
  requestId : String
  requestedAt : Nat
  deriving DecidableEq, Repr

structure RelayProbeGranted where
  requestId : String
  relayPubkey : String
  requesterIngressEndpoint : String
  targetIngressEndpoint : String
  expiresAt : Nat
  deriving DecidableEq, Repr

structure RelayProbeRejected where
  requestId : String
  relayPubkey : String
  reason : RelayAllocationRejectReason
  retryAfterSecs : Option Nat
  deriving DecidableEq, Repr

inductive ServicePayload where
  | RelayAllocationRequest (request : RelayAllocationRequest)
  | RelayAllocationGranted (granted : RelayAllocationGranted)
  | RelayAllocationRejected (rejected : RelayAllocationRejected)
  | RelayProbeRequest (request : RelayProbeRequest)
  | RelayProbeGranted (granted : RelayProbeGranted)
  | RelayProbeRejected (rejected : RelayProbeRejected)
  deriving DecidableEq, Repr

structure ServiceEnvelope where
  senderPubkey : String
  payload : ServicePayload
  deriving DecidableEq, Repr

/-- An event of the relay pool. Its signature is checked there, so `pubkey` is its author. -/
structure SignedEvent where
  kind : Nat
  pubkey : String
  tags : List (List String)
  content : String
  deriving DecidableEq, Repr

def NOSTR_KIND_NOSTR_VPN : Nat := 25050

def firstTagValue (event : SignedEvent) (tagName : String) : Option String :=
  event.tags.findSome? fun
    | name :: value :: _ => if name = tagName then some value else none
    | _ => none

/-- A service client: its own key, and decryption and parsing of what an author sent to it. -/
structure ServiceReader where
  ownPubkey : String
  openContent : (author content : String) → Option ServiceEnvelope

/-- One round of the event forwarder: the envelope it sends on, if any. -/
def forwardEvent (reader : ServiceReader) (event : SignedEvent) : Option ServiceEnvelope :=
  if event.kind ≠ NOSTR_KIND_NOSTR_VPN ∨ event.pubkey = reader.ownPubkey then none
  else if firstTagValue event "p" ≠ some reader.ownPubkey then none
  else match reader.openContent event.pubkey event.content with
    | none => none
    | some envelope => if envelope.senderPubkey ≠ event.pubkey then none else some envelope

/-- The sender of a forwarded envelope is the author of the signed event. -/
theorem senderPubkey_of_forwardEvent {reader : ServiceReader} {event : SignedEvent}
    {envelope : ServiceEnvelope} (h : forwardEvent reader event = some envelope) :
    envelope.senderPubkey = event.pubkey := by
  unfold forwardEvent at h
  split_ifs at h
  split at h
  · cases h
  · split_ifs at h with sender
    obtain rfl := Option.some.inj h
    exact not_not.mp sender

end NostrVpn.Core
