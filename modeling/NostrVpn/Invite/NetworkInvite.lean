import NostrVpn.Core.ConfigOps

/-!
# Network invites

`nostr-vpn-cli/src/network_signaling.rs`, `nostr-vpn-gui/src-tauri/src/peer_state.rs` and
`nostr-vpn-web/src/invite.rs`: each program has its own invite structure, encoder and parser. They
differ in the field names, in the `serde` attributes and in the form of a key. `base64` and the text
form of `serde_json` are parameters; what `derive` makes of a structure is not.
-/
namespace NostrVpn.Invite

open Rust NostrVpn.Core

inductive Json where
  | null
  | bool (value : Bool)
  | int (value : Int)
  | float (text : String)
  | str (value : String)
  | arr (items : List Json)
  | obj (fields : List (String × Json))

structure NetworkInvite where
  v : UInt8
  networkName : String := ""
  networkId : String
  inviterNpub : String := ""
  inviterNodeName : String := ""
  admins : List String := []
  participants : List String := []
  relays : List String := []
  deriving DecidableEq, Repr

inductive InviteField where
  | v | networkName | networkId | inviterNpub | inviterNodeName | admins | participants | relays
  deriving DecidableEq, Repr

/-- The fields in the order of their declaration, which is the same in the three structures. -/
def inviteFields : List InviteField :=
  [.v, .networkName, .networkId, .inviterNpub, .inviterNodeName, .admins, .participants, .relays]

/-- What one program does in its own way: the names of the fields, `skip_serializing_if` and
`default` of its structure, the text of a normalised key, and the test of a relay. -/
structure InviteFormat where
  name : InviteField → String
  skipsEmpty : InviteField → Bool
  hasDefault : InviteField → Bool
  keyText : NostrSdk → String → String
  isValidRelayUrl : String → Bool

def snakeCase : InviteField → String
  | .v => "v"
  | .networkName => "network_name"
  | .networkId => "network_id"
  | .inviterNpub => "inviter_npub"
  | .inviterNodeName => "inviter_node_name"
  | .admins => "admins"
  | .participants => "participants"
  | .relays => "relays"

/-- `rename_all = "camelCase"`. -/
def camelCase : InviteField → String
  | .v => "v"
  | .networkName => "networkName"
  | .networkId => "networkId"
  | .inviterNpub => "inviterNpub"
  | .inviterNodeName => "inviterNodeName"
  | .admins => "admins"
  | .participants => "participants"
  | .relays => "relays"

def hasRelayScheme (value : String) : Bool := startsWith "wss://" value || startsWith "ws://" value

def cliFormat : InviteFormat where
  name := snakeCase
  skipsEmpty field :=
    field ∈ [.networkName, .inviterNpub, .inviterNodeName, .admins, .participants]
  hasDefault field := field ∉ [.v, .networkId]
  keyText _ hex := hex
  isValidRelayUrl value := hasRelayScheme (trim value)

def guiFormat : InviteFormat where
  name := camelCase
  skipsEmpty field := field ∈ [.networkName, .inviterNpub]
  hasDefault field := field ∉ [.v, .networkId]
  keyText := npubForPubkeyHex
  isValidRelayUrl := hasRelayScheme

def webFormat : InviteFormat where
  name := camelCase
  skipsEmpty field :=
    field ∈ [.networkName, .inviterNpub, .inviterNodeName, .admins, .participants]
  hasDefault field := field ∉ [.v, .networkId, .relays]
  keyText := npubForPubkeyHex
  isValidRelayUrl := hasRelayScheme

inductive InviteClient where
  | cli | gui | web
  deriving DecidableEq, Repr

def InviteClient.format : InviteClient → InviteFormat
  | .cli => cliFormat
  | .gui => guiFormat
  | .web => webFormat

/-! ## The derived `Serialize` and `Deserialize` -/

namespace NetworkInvite

def fieldJson (invite : NetworkInvite) : InviteField → Json
  | .v => .int invite.v.toNat
  | .networkName => .str invite.networkName
  | .networkId => .str invite.networkId
  | .inviterNpub => .str invite.inviterNpub
  | .inviterNodeName => .str invite.inviterNodeName
  | .admins => .arr (invite.admins.map .str)
  | .participants => .arr (invite.participants.map .str)
  | .relays => .arr (invite.relays.map .str)

/-- `is_empty` of the texts and vectors that a structure may skip. -/
def fieldIsEmpty (invite : NetworkInvite) : InviteField → Bool
  | .v => false
  | .networkName => invite.networkName == ""
  | .networkId => invite.networkId == ""
  | .inviterNpub => invite.inviterNpub == ""
  | .inviterNodeName => invite.inviterNodeName == ""
  | .admins => invite.admins.isEmpty
  | .participants => invite.participants.isEmpty
  | .relays => invite.relays.isEmpty

def serialize (format : InviteFormat) (invite : NetworkInvite) : Json :=
  .obj ((inviteFields.filter fun field => !(format.skipsEmpty field && invite.fieldIsEmpty field)).map
    fun field => (format.name field, invite.fieldJson field))

end NetworkInvite

/-- A structure is read from an object or, by position, from an array. -/
def jsonFields (format : InviteFormat) : Json → Option (List (String × Json))
  | .obj fields => some fields
  | .arr items =>
    if items.length ≤ inviteFields.length then some ((inviteFields.map format.name).zip items)
    else none
  | _ => none

/-- The value of a field; a name that stands twice is an error, as is one that is missing unless the
field has a default. Other names are ignored. -/
def readField {α : Type} (format : InviteFormat) (fields : List (String × Json)) (default : α)
    (read : Json → Option α) (field : InviteField) : Option α :=
  match fields.filter fun entry => entry.1 == format.name field with
  | [] => if format.hasDefault field then some default else none
  | [entry] => read entry.2
  | _ => none

def readU8 : Json → Option UInt8
  | .int value => if 0 ≤ value ∧ value ≤ 255 then some (.ofNat value.toNat) else none
  | _ => none

def readString : Json → Option String
  | .str value => some value
  | _ => none

def readStrings : Json → Option (List String)
  | .arr items => items.mapM readString
  | _ => none

def NetworkInvite.deserialize (format : InviteFormat) (json : Json) : Option NetworkInvite := do
  let fields ← jsonFields format json
  let v ← readField format fields 0 readU8 .v
  let networkName ← readField format fields "" readString .networkName
  let networkId ← readField format fields "" readString .networkId
  let inviterNpub ← readField format fields "" readString .inviterNpub
  let inviterNodeName ← readField format fields "" readString .inviterNodeName
  let admins ← readField format fields [] readStrings .admins
  let participants ← readField format fields [] readStrings .participants
  let relays ← readField format fields [] readStrings .relays
  return { v, networkName, networkId, inviterNpub, inviterNodeName, admins, participants, relays }

/-! ## Encoding and parsing -/

/-- `URL_SAFE_NO_PAD` and the texts of `serde_json`. -/
structure InviteCodec where
  encodeBase64 : List UInt8 → String
  decodeBase64 : String → Option (List UInt8)
  toVec : Json → List UInt8
  fromSlice : List UInt8 → Option Json
  fromStr : String → Option Json

def networkInvitePrefix : String := "nvpn://invite/"

def networkInviteVersion : UInt8 := 3

section Program
variable (format : InviteFormat) (sdk : NostrSdk)

def normalizedInvitePubkeys (pubkeys : List String) : Except String (List String) := do
  let normalized ← pubkeys.mapM fun pubkey =>
    (normalizeNostrPubkey sdk pubkey).map (format.keyText sdk)
  return sortDedup normalized

/-- One round of the loop over the relays. -/
def pushInviteRelay (normalized : List String) (relay : String) : Except String (List String) :=
  let relay := trim relay
  if relay = "" then .ok normalized
  else if !format.isValidRelayUrl relay then .error s!"invalid invite relay '{relay}'"
  else .ok (pushUnique normalized relay)

def normalizedInviteRelays (relays : List String) : Except String (List String) :=
  relays.foldlM (pushInviteRelay format) []

/-- The invite to the active network; it names no inviter and no participant. -/
def activeNetworkInvite (config : AppConfig) : Except String NetworkInvite := do
  let roster ← config.sharedNetworkRoster sdk config.activeNetwork.id
  if roster.admins = [] then throw "active network has no admin configured"
  let relays ← normalizedInviteRelays format config.nostr.relays
  return {
    v := networkInviteVersion
    networkId := roster.networkId
    admins := roster.admins.map (npubForPubkeyHex sdk)
    relays }

def encodeInvite (codec : InviteCodec) (invite : NetworkInvite) : String :=
  networkInvitePrefix ++ codec.encodeBase64 (codec.toVec (invite.serialize format))

def activeNetworkInviteCode (codec : InviteCodec) (config : AppConfig) : Except String String :=
  (activeNetworkInvite format sdk config).map (encodeInvite format codec)

def decodeInvite (codec : InviteCodec) (trimmed : String) : Except String NetworkInvite :=
  if startsWith "\x7b" trimmed then
    ((codec.fromStr trimmed).bind (NetworkInvite.deserialize format)).elim
      (.error "failed to parse network invite JSON") .ok
  else
    match codec.decodeBase64 ((stripPrefix networkInvitePrefix trimmed).getD trimmed) with
    | none => .error "failed to decode network invite payload"
    | some decoded =>
      ((codec.fromSlice decoded).bind (NetworkInvite.deserialize format)).elim
        (.error "failed to parse network invite payload") .ok

/-- The inviter of an invite, and its admins with the inviter among them. A later branch of the
source for an empty list of admins is never taken. -/
def resolveInviter (inviter : String) (admins : List String) :
    Except String (String × List String) :=
  if isBlank inviter then
    match admins with
    | [] => .error "invite must include at least one admin"
    | first :: _ => .ok (first, admins)
  else
    (normalizeNostrPubkey sdk inviter).map fun hex =>
      (format.keyText sdk hex, pushUnique admins (format.keyText sdk hex))

/-- The checks on a decoded invite and the normal form of its fields. -/
def normalizeInvite (invite : NetworkInvite) : Except String NetworkInvite := do
  let v := invite.v
  if v ≠ 1 ∧ v ≠ 2 ∧ v ≠ networkInviteVersion then
    throw s!"unsupported invite version {v}; expected 1, 2, or {networkInviteVersion}"
  if isBlank invite.networkId then throw "invite network id is empty"
  let admins ← normalizedInvitePubkeys format sdk invite.admins
  let (inviterNpub, admins) ← resolveInviter format sdk invite.inviterNpub admins
  let participants ← normalizedInvitePubkeys format sdk invite.participants
  let relays ← normalizedInviteRelays format invite.relays
  return {
    v
    networkName := trim invite.networkName
    networkId := trim invite.networkId
    inviterNpub
    inviterNodeName := trim invite.inviterNodeName
    admins
    participants := if participants = [] ∧ v < networkInviteVersion then [inviterNpub]
      else participants
    relays }

def parseNetworkInvite (codec : InviteCodec) (value : String) : Except String NetworkInvite := do
  let trimmed := trim value
  if trimmed = "" then throw "invite code is empty"
  let invite ← decodeInvite format codec trimmed
  normalizeInvite format sdk invite

end Program

end NostrVpn.Invite
