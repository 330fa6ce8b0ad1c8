import NostrVpn.Core.Config
import NostrVpn.Rust.Vec

/-!
# Network rosters

`nostr-vpn-core/src/network_roster.rs` and the parts of `config.rs` that keep the members, the join
requests, the selected exit node and the aliases of a configuration consistent.
-/
namespace NostrVpn.Core

open Rust

variable (sdk : NostrSdk)

/-- The normal form of a key text that is dropped when it does not parse. -/
def normalPubkey? (value : String) : Option String := (normalizeNostrPubkey sdk value).toOption

theorem normalPubkey?_eq_some {sdk : NostrSdk} {text hex : String} :
    normalPubkey? sdk text = some hex ↔ sdk.parsePublicKey text = .ok hex := by
  rw [← normalizeNostrPubkey_eq_ok, normalPubkey?]
  cases normalizeNostrPubkey sdk text <;> simp [Except.toOption]

/-- The bech32 form of a key, or the text itself where there is none, is the same key. -/
theorem normalPubkey?_npub {sdk : NostrSdk} (lawful : sdk.Lawful) (text : String) :
    normalPubkey? sdk (npubForPubkeyHex sdk text) = normalPubkey? sdk text := by
  unfold npubForPubkeyHex
  cases known : sdk.publicKeyFromHex text with
  | none => rfl
  | some key =>
    have parsed := lawful.from_hex known
    cases form : sdk.publicKeyToBech32 key with
    | none => simp [form]
    | some bech32 =>
      have same := lawful.parse_bech32 (lawful.parse_hex parsed) form
      simp [form, normalPubkey?_eq_some.mpr parsed, normalPubkey?_eq_some.mpr same]

def normalizeNetworkAdmins (admins : List String) (own : Option String) (inviteInviter : String) :
    List String :=
  let normalized := sortDedup (admins.filterMap (normalPubkey? sdk))
  if normalized ≠ [] then normalized
  else match normalPubkey? sdk inviteInviter with
    | some inviter => [inviter]
    | none => own.toList

def normalizeSharedRosterParticipants (participants : List String) (own : Option String) :
    Except String (List String) := do
  let normalized ← participants.mapM (normalizeNostrPubkey sdk)
  return sortDedup (normalized.filter fun participant => some participant ≠ own)

def canonicalNpubKey (value : String) : Option String :=
  (normalPubkey? sdk value).map (npubForPubkeyHex sdk)

def normalizeNpubKey (value : String) : Option String :=
  if startsWith "npub1" (trim value) then canonicalNpubKey sdk (trim value) else none

def normalizeOutboundJoinRequest (request : Option PendingOutboundJoinRequest) :
    Option PendingOutboundJoinRequest := do
  let request ← request
  let recipient ← normalPubkey? sdk request.recipient
  return { recipient, requestedAt := request.requestedAt }

/-- One request of the loop below: a member is dropped, and the latest request of a key is kept. -/
def dedupInboundJoinRequest (participants : List String)
    (deduped : HashMap String PendingInboundJoinRequest) (request : PendingInboundJoinRequest) :
    HashMap String PendingInboundJoinRequest :=
  match normalPubkey? sdk request.requester with
  | none => deduped
  | some requester =>
    if requester ∈ participants then deduped
    else if (deduped.lookup requester).any fun existing => request.requestedAt ≤ existing.requestedAt
    then deduped
    else deduped.insert requester { requester, requesterNodeName := trim request.requesterNodeName,
                                    requestedAt := request.requestedAt }

def normalizeInboundJoinRequests (requests : List PendingInboundJoinRequest)
    (participants : List String) : List PendingInboundJoinRequest :=
  sortByKey (fun request => request.requester)
    (requests.foldl (dedupInboundJoinRequest sdk participants) ∅).values

/-! ## Exit node and aliases of a configuration -/

namespace AppConfig

def normalizeSelectedExitNode (config : AppConfig) : AppConfig :=
  if config.exitNode = "" ∨ config.exitNode ∈ config.activeNetworkSignalPubkeysHex then config
  else { config with exitNode := "" }

def preferredSelfMagicDnsLabel (config : AppConfig) : Option String :=
  normalizeMagicDnsLabel config.nodeName

/-- The aliases left to assign, the used labels and the result, after one member. -/
def assignAlias (sha256 : Sha256)
    (acc : HashMap String String × List String × HashMap String String) (participant : String) :
    HashMap String String × List String × HashMap String String :=
  let (normalized, used, final) := acc
  let npub := npubForPubkeyHex sdk participant
  let preferred := (normalized.lookup npub).getD (defaultMagicDnsLabelForPubkey sha256 participant used)
  let (label, used) := uniquifyMagicDnsLabel preferred used
  (normalized.erase npub, used, final.insert npub label)

/-- The loop over the hash map of the aliases takes its entries in the order in which `enumerate` lists them. -/
def normalizePeerAliases (sha256 : Sha256) (config : AppConfig)
    (enumerate : HashMap String String → HashMap String String := fun aliases => aliases) : AppConfig :=
  let normalized : HashMap String String := (enumerate config.peerAliases).toList.foldl
    (fun normalized (participant, label) =>
      match normalizeNpubKey sdk participant, normalizeMagicDnsLabel label with
      | some npub, some label => normalized.insert npub label
      | _, _ => normalized) ∅
  let final := config.allNetworkMemberPubkeysHex.foldl (assignAlias sdk sha256)
    (normalized, config.preferredSelfMagicDnsLabel.toList, ∅)
  { config with peerAliases := final.2.2 }

@[simp] theorem networks_normalizeSelectedExitNode (config : AppConfig) :
    config.normalizeSelectedExitNode.networks = config.networks := by
  unfold normalizeSelectedExitNode; split_ifs <;> rfl

@[simp] theorem nostr_normalizeSelectedExitNode (config : AppConfig) :
    config.normalizeSelectedExitNode.nostr = config.nostr := by
  unfold normalizeSelectedExitNode; split_ifs <;> rfl

@[simp] theorem networks_normalizePeerAliases (sha256 : Sha256) (config : AppConfig) :
    (config.normalizePeerAliases sdk sha256).networks = config.networks := rfl

@[simp] theorem nostr_normalizePeerAliases (sha256 : Sha256) (config : AppConfig) :
    (config.normalizePeerAliases sdk sha256).nostr = config.nostr := rfl

end AppConfig

end NostrVpn.Core
