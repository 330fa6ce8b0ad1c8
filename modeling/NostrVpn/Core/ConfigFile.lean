import NostrVpn.Core.EnsureDefaults
import NostrVpn.Core.PeerAliases

/-!
# Saving and loading a configuration

`AppConfig::save` writes every key in its `npub` form and `AppConfig::load` runs `ensure_defaults` on what it
reads. The TOML encoder and decoder are parameters.
-/
namespace NostrVpn.Core

open Rust

/-- `toml::to_string_pretty` and `toml::from_str`; a decoded file may have no networks. -/
structure Toml where
  toStringPretty : AppConfig → Except String String
  fromStr : String → Except String (AppConfig × List NetworkConfig)

/-- The persisted fields beside the networks are the same; a decoded hash map has an order of its own. -/
structure SameFile (fields config : AppConfig) : Prop where
  nodeName : fields.nodeName = config.nodeName
  usePublicRelayFallback : fields.usePublicRelayFallback = config.usePublicRelayFallback
  relayForOthers : fields.relayForOthers = config.relayForOthers
  provideNatAssist : fields.provideNatAssist = config.provideNatAssist
  launchOnStartup : fields.launchOnStartup = config.launchOnStartup
  autoconnect : fields.autoconnect = config.autoconnect
  exitNode : fields.exitNode = config.exitNode
  closeToTrayOnClose : fields.closeToTrayOnClose = config.closeToTrayOnClose
  magicDnsSuffix : fields.magicDnsSuffix = config.magicDnsSuffix
  peerAliases : ∀ key, fields.peerAliases.lookup key = config.peerAliases.lookup key
  nat : fields.nat = config.nat
  nostr : fields.nostr = config.nostr
  node : fields.node = config.node

/-- What is encoded is decoded again. The two fields that are not written get their defaults. -/
def Toml.Lawful (toml : Toml) : Prop :=
  ∀ config text, toml.toStringPretty config = .ok text →
    ∃ fields, toml.fromStr text = .ok (fields, config.networks) ∧ SameFile fields config ∧
      fields.autoDisconnectRelaysWhenMeshReady = false ∧ fields.lanDiscoveryEnabled = true

/-- Documented behaviour of the bech32 form of a key, and of the parsers on blank texts. -/
structure NostrSdk.Npubs (sdk : NostrSdk) : Prop where
  total : ∀ {h}, sdk.parsePublicKey h = .ok h → ∃ b, sdk.publicKeyToBech32 h = some b ∧
    startsWith "npub1" b = true ∧ trim b = b
  filled : ∀ {s h}, sdk.parsePublicKey s = .ok h → isBlank s = false
  secret_filled : ∀ {s h}, sdk.publicKeyOfSecret s = .ok h → isBlank s = false

/-! ## The canonical form -/

section Canonical
variable (sdk : NostrSdk)

def canonicalizeOutboundJoinRequest (request : Option PendingOutboundJoinRequest) :
    Option PendingOutboundJoinRequest := do
  let request ← request
  let recipient ← canonicalNpubKey sdk request.recipient
  return { recipient, requestedAt := request.requestedAt }

def canonicalizeInboundJoinRequests (requests : List PendingInboundJoinRequest) :
    List PendingInboundJoinRequest :=
  requests.filterMap fun request => (canonicalNpubKey sdk request.requester).map fun requester =>
    { requester, requesterNodeName := request.requesterNodeName, requestedAt := request.requestedAt }

/-- The body of the loop of `canonicalize_user_facing_pubkeys`. -/
def NetworkConfig.canonicalize (network : NetworkConfig) : NetworkConfig :=
  let sharedRosterSignedBy := (canonicalNpubKey sdk network.sharedRosterSignedBy).getD ""
  { network with
    participants := sortDedup (network.participants.filterMap (canonicalNpubKey sdk))
    admins := sortDedup (network.admins.filterMap (canonicalNpubKey sdk))
    inviteInviter := (canonicalNpubKey sdk network.inviteInviter).getD ""
    outboundJoinRequest := canonicalizeOutboundJoinRequest sdk network.outboundJoinRequest
    inboundJoinRequests := canonicalizeInboundJoinRequests sdk network.inboundJoinRequests
    sharedRosterSignedBy
    sharedRosterUpdatedAt := if sharedRosterSignedBy = "" then 0 else network.sharedRosterUpdatedAt }

namespace AppConfig

def canonicalizeUserFacingPubkeys (sha256 : Sha256) (config : AppConfig) : AppConfig :=
  AppConfig.normalizePeerAliases sdk sha256 { config with
    nostr := { config.nostr with publicKey := (canonicalNpubKey sdk config.nostr.publicKey).getD "" }
    exitNode := (canonicalNpubKey sdk config.exitNode).getD ""
    networks := config.networks.map (NetworkConfig.canonicalize sdk)
    networks_ne := by simpa using config.networks_ne }

def save (sha256 : Sha256) (generated : Generated) (toml : Toml) (config : AppConfig) : Except String String :=
  toml.toStringPretty ((config.ensureDefaults sdk sha256 generated).canonicalizeUserFacingPubkeys sdk sha256)

/-- `AppConfig::load` of a file with the text. -/
def loadText (sha256 : Sha256) (generated : Generated) (toml : Toml) (text : String) : Except String AppConfig :=
  (toml.fromStr text).map fun file => load sdk sha256 generated file.1 file.2

end AppConfig

end Canonical

/-! ## Reading canonical forms -/

section Keys
variable {sdk : NostrSdk}

theorem normalPubkey?_empty (npubs : sdk.Npubs) : normalPubkey? sdk "" = none := by
  cases blank : normalPubkey? sdk "" with
  | none => rfl
  | some key => exact absurd (npubs.filled (normalPubkey?_eq_some.mp blank)) (by decide)

/-- A key is read from its canonical form, and nothing from the empty text. -/
theorem normalPubkey?_canonical (lawful : sdk.Lawful) (npubs : sdk.Npubs) (text : String) :
    normalPubkey? sdk ((canonicalNpubKey sdk text).getD "") = normalPubkey? sdk text := by
  unfold canonicalNpubKey
  cases parsed : normalPubkey? sdk text with
  | none =>
    rw [Option.map_none, Option.getD_none, normalPubkey?_empty npubs]
  | some key =>
    rw [Option.map_some, Option.getD_some, normalPubkey?_npub lawful]
    exact normalPubkey?_eq_some.mpr (lawful.parse_hex (normalPubkey?_eq_some.mp parsed))

theorem canonical_isSome {text : String} :
    (canonicalNpubKey sdk text).isSome = (normalPubkey? sdk text).isSome := by
  simp [canonicalNpubKey]

theorem canonical_eq_none {text : String} :
    canonicalNpubKey sdk text = none ↔ normalPubkey? sdk text = none := by
  simp [canonicalNpubKey]

/-- The keys of a list are those of its canonical form. -/
theorem sortDedup_canonical (lawful : sdk.Lawful) (npubs : sdk.Npubs) (texts : List String) :
    sortDedup ((sortDedup (texts.filterMap (canonicalNpubKey sdk))).filterMap (normalPubkey? sdk)) =
      sortDedup (texts.filterMap (normalPubkey? sdk)) := by
  refine sortDedup_congr fun key => ?_
  simp only [List.mem_filterMap, mem_sortDedup]
  constructor
  · rintro ⟨npub, ⟨text, mem, canonical⟩, parsed⟩
    have same := normalPubkey?_canonical lawful npubs text
    rw [canonical, Option.getD_some, parsed] at same
    exact ⟨text, mem, same.symm⟩
  · rintro ⟨text, mem, parsed⟩
    obtain ⟨npub, canonical⟩ := Option.isSome_iff_exists.mp
      ((@canonical_isSome sdk text).trans (by rw [parsed]; rfl))
    have same := normalPubkey?_canonical lawful npubs text
    rw [canonical, Option.getD_some, parsed] at same
    exact ⟨npub, ⟨text, mem, canonical⟩, same⟩

theorem normalizeOutbound_canonical (lawful : sdk.Lawful) (npubs : sdk.Npubs)
    (request : Option PendingOutboundJoinRequest) :
    normalizeOutboundJoinRequest sdk (canonicalizeOutboundJoinRequest sdk request) =
      normalizeOutboundJoinRequest sdk request := by
  cases request with
  | none => rfl
  | some request =>
    have same := normalPubkey?_canonical lawful npubs request.recipient
    cases canonical : canonicalNpubKey sdk request.recipient with
    | none =>
      simp [canonicalizeOutboundJoinRequest, normalizeOutboundJoinRequest, canonical,
        canonical_eq_none.mp canonical]
    | some npub =>
      rw [canonical, Option.getD_some] at same
      simp [canonicalizeOutboundJoinRequest, normalizeOutboundJoinRequest, canonical, same]

theorem foldl_dedup_canonical (lawful : sdk.Lawful) (npubs : sdk.Npubs) (participants : List String)
    (requests : List PendingInboundJoinRequest) (deduped : HashMap String PendingInboundJoinRequest) :
    (canonicalizeInboundJoinRequests sdk requests).foldl (dedupInboundJoinRequest sdk participants) deduped =
      requests.foldl (dedupInboundJoinRequest sdk participants) deduped := by
  induction requests generalizing deduped with
  | nil => rfl
  | cons request rest ih =>
    have same := normalPubkey?_canonical lawful npubs request.requester
    cases canonical : canonicalNpubKey sdk request.requester with
    | none =>
      have dropped : dedupInboundJoinRequest sdk participants deduped request = deduped := by
        simp [dedupInboundJoinRequest, canonical_eq_none.mp canonical]
      rw [List.foldl_cons, dropped, ← ih]
      simp [canonicalizeInboundJoinRequests, canonical]
    | some npub =>
      rw [canonical, Option.getD_some] at same
      have kept : dedupInboundJoinRequest sdk participants deduped
          { requester := npub, requesterNodeName := request.requesterNodeName, requestedAt := request.requestedAt } =
          dedupInboundJoinRequest sdk participants deduped request := by
        simp [dedupInboundJoinRequest, same]
      rw [List.foldl_cons, ← kept, ← ih]
      simp [canonicalizeInboundJoinRequests, canonical]

/-- Loading a network from its canonical form is loading the network. -/
theorem ensureDefaults_canonicalize (lawful : sdk.Lawful) (npubs : sdk.Npubs) (own : Option String)
    (ordinal : Nat) (used : List String) (network : NetworkConfig) :
    (network.canonicalize sdk).ensureDefaults sdk own ordinal used = network.ensureDefaults sdk own ordinal used := by
  have admins : normalizeNetworkAdmins sdk (network.canonicalize sdk).admins own
      ((normalPubkey? sdk network.inviteInviter).getD "") =
      normalizeNetworkAdmins sdk network.admins own ((normalPubkey? sdk network.inviteInviter).getD "") := by
    simp only [normalizeNetworkAdmins, NetworkConfig.canonicalize, sortDedup_canonical lawful npubs]
  have signed : (if (normalPubkey? sdk network.sharedRosterSignedBy).getD "" = "" then 0
      else (network.canonicalize sdk).sharedRosterUpdatedAt) =
      if (normalPubkey? sdk network.sharedRosterSignedBy).getD "" = "" then 0
      else network.sharedRosterUpdatedAt := by
    split_ifs with blank
    · rfl
    · rw [NetworkConfig.canonicalize]
      refine if_neg fun none' => blank ?_
      rw [← normalPubkey?_canonical lawful npubs, none', normalPubkey?_empty npubs, Option.getD_none]
  have inviter := normalPubkey?_canonical lawful npubs network.inviteInviter
  have signer := normalPubkey?_canonical lawful npubs network.sharedRosterSignedBy
  have participants := sortDedup_canonical lawful npubs network.participants
  simp only [NetworkConfig.ensureDefaults, normalizeInboundJoinRequests]
  simp only [NetworkConfig.canonicalize] at admins signed ⊢
  simp only [inviter, signer, participants, admins, normalizeOutbound_canonical lawful npubs,
    foldl_dedup_canonical lawful npubs]
  congr 1

theorem ensureNetworks_canonicalize (lawful : sdk.Lawful) (npubs : sdk.Npubs) (own : Option String)
    (ordinal : Nat) (used : List String) (networks : List NetworkConfig) :
    ensureNetworks sdk own ordinal used (networks.map (NetworkConfig.canonicalize sdk)) =
      ensureNetworks sdk own ordinal used networks := by
  induction networks generalizing ordinal used with
  | nil => rfl
  | cons network rest ih =>
    rw [List.map_cons, ensureNetworks, ensureNetworks, ensureDefaults_canonicalize lawful npubs, ih]

end Keys

end NostrVpn.Core
