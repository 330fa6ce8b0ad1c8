import NostrVpn.Rust.Ascii

/-!
# Keys and network ids

`nostr-vpn-core/src/config_defaults.rs`. The `nostr-sdk` and `sha2` crates are parameters: a public
key is represented by its `to_hex` text, and a digest by its bytes.
-/
namespace NostrVpn.Core

open Rust

/-- What the repository uses of `nostr-sdk`. The public key of a parsed secret key is all that is
read of it. -/
structure NostrSdk where
  parsePublicKey : String → Except String String
  publicKeyFromHex : String → Option String
  publicKeyToBech32 : String → Option String
  publicKeyOfSecret : String → Except String String

/-- Documented behaviour of `PublicKey`: its hex and its bech32 form parse to the same key. -/
structure NostrSdk.Lawful (sdk : NostrSdk) : Prop where
  parse_hex : ∀ {s h}, sdk.parsePublicKey s = .ok h → sdk.parsePublicKey h = .ok h
  secret_hex : ∀ {s h}, sdk.publicKeyOfSecret s = .ok h → sdk.parsePublicKey h = .ok h
  from_hex : ∀ {h k}, sdk.publicKeyFromHex h = some k → sdk.parsePublicKey h = .ok k
  from_parsed : ∀ {h}, sdk.parsePublicKey h = .ok h → sdk.publicKeyFromHex h = some h
  parse_bech32 : ∀ {h b}, sdk.parsePublicKey h = .ok h → sdk.publicKeyToBech32 h = some b →
    sdk.parsePublicKey b = .ok h

/-- Documented behaviour of `PublicKey::to_hex`: 64 lower-case hexadecimal digits. -/
def NostrSdk.HexKeys (sdk : NostrSdk) : Prop :=
  ∀ {s h}, sdk.parsePublicKey s = .ok h → h.length = 64 ∧ ∀ c ∈ h.toList, c ∈ "0123456789abcdef".toList

/-- `Sha256::digest`. -/
abbrev Sha256 := List UInt8 → List UInt8

def legacyNetworkIdCompatPrefix : String := "nostr-vpn:"

def normalizeRuntimeNetworkId (value : String) : String :=
  (stripPrefix legacyNetworkIdCompatPrefix (trim value)).getD (trim value)

def normalizeNostrPubkey (sdk : NostrSdk) (value : String) : Except String String :=
  (sdk.parsePublicKey value).mapError fun error => s!"invalid participant pubkey '{value}': {error}"

def defaultNetworkId : String := "nostr-vpn"

def usesDefaultNetworkId (value : String) : Bool :=
  isBlank value || trim value == "nostr-vpn"

def npubForPubkeyHex (sdk : NostrSdk) (pubkeyHex : String) : String :=
  ((sdk.publicKeyFromHex pubkeyHex).bind sdk.publicKeyToBech32).getD pubkeyHex

theorem normalizeNostrPubkey_eq_ok {sdk : NostrSdk} {value hex : String} :
    normalizeNostrPubkey sdk value = .ok hex ↔ sdk.parsePublicKey value = .ok hex := by
  unfold normalizeNostrPubkey
  cases sdk.parsePublicKey value <;> simp [Except.mapError]

/-! ## Three keys -/

/-- The public keys of the secret keys 1, 2 and 3, in hex and in bech32. -/
def sampleKeyForms : List (String × String) :=
  [("79be667ef9dcbbac55a06295ce870b07029bfcdb2dce28d959f2815b16f81798",
    "npub10xlxvlhemja6c4dqv22uapctqupfhlxm9h8z3k2e72q4k9hcz7vqpkge6d"),
   ("c6047f9441ed7d6d3045406e95c07cd85c778e4b8cef3ca7abac09b95c709ee5",
    "npub1ccz8l9zpa47k6vz9gphftsrumpw80rjt3nhnefat4symjhrsnmjs38mnyd"),
   ("f9308a019258c31049344f85f89d5229b531c845836f99b08601f113bce036f9",
    "npub1lycg5qvjtrp3qjf5f7zl382j9x6nrjz9sdhenvyxq8c3808qxmus6gq266")]

def samplePubkeys : List String := sampleKeyForms.map Prod.fst

/-- `nostr-sdk` on the sample keys; no other text is a key. -/
def sampleSdk : NostrSdk where
  parsePublicKey value :=
    match sampleKeyForms.find? fun forms => forms.1 == value || forms.2 == value with
    | some forms => .ok forms.1
    | none => .error "Invalid public key"
  publicKeyFromHex value := if value ∈ samplePubkeys then some value else none
  publicKeyToBech32 hex := sampleKeyForms.lookup hex
  publicKeyOfSecret _ := .error "Invalid secret key"

theorem mem_samplePubkeys_of_parse {value hex : String}
    (h : sampleSdk.parsePublicKey value = .ok hex) : hex ∈ samplePubkeys := by
  simp only [sampleSdk] at h
  split at h
  · rename_i forms found
    obtain rfl := Except.ok.inj h
    exact List.mem_map_of_mem (List.mem_of_find?_eq_some found)
  · cases h

theorem sampleSdk_lawful : sampleSdk.Lawful where
  parse_hex := by
    intro s h parsed
    have forms : ∀ h ∈ samplePubkeys, sampleSdk.parsePublicKey h = .ok h := by decide +kernel
    exact forms h (mem_samplePubkeys_of_parse parsed)
  secret_hex := by
    intro s h parsed
    cases parsed
  from_hex := by
    intro h k found
    simp only [sampleSdk] at found
    split_ifs at found with mem
    obtain rfl := Option.some.inj found
    have forms : ∀ h ∈ samplePubkeys, sampleSdk.parsePublicKey h = .ok h := by decide +kernel
    exact forms h mem
  from_parsed := by
    intro h parsed
    exact if_pos (mem_samplePubkeys_of_parse parsed)
  parse_bech32 := by
    intro h b parsed found
    have forms : ∀ h ∈ samplePubkeys, ∀ b ∈ sampleSdk.publicKeyToBech32 h,
        sampleSdk.parsePublicKey b = .ok h := by decide +kernel
    exact forms h (mem_samplePubkeys_of_parse parsed) b found

theorem sampleSdk_hexKeys : sampleSdk.HexKeys := by
  intro s h parsed
  have ascii : ∀ h ∈ samplePubkeys, isAscii h := by decide +kernel
  have digits : isAscii "0123456789abcdef" := by decide +kernel
  have forms : ∀ h ∈ samplePubkeys, (asciiChars h).length = 64 ∧
      ∀ c ∈ asciiChars h, c ∈ asciiChars "0123456789abcdef" := by
    decide +kernel
  have mem := mem_samplePubkeys_of_parse parsed
  rw [← String.length_toList, toList_of_isAscii (ascii h mem), toList_of_isAscii digits]
  exact forms h mem

/-- The digests of the hex texts of the sample keys. -/
def sampleDigests : List (List UInt8) :=
  [[59, 191, 153, 67, 145, 34, 138, 181, 174, 55, 5, 7, 250, 193, 198, 119, 123, 91, 242, 236,
     141, 177, 167, 146, 196, 78, 91, 26, 126, 195, 219, 238],
    [28, 19, 168, 219, 124, 145, 165, 21, 164, 226, 171, 111, 13, 98, 69, 81, 157, 18, 248, 63,
     179, 102, 122, 11, 87, 100, 34, 183, 248, 245, 146, 18],
    [237, 121, 232, 255, 180, 240, 78, 78, 238, 61, 34, 55, 117, 117, 213, 137, 85, 32, 175, 173,
     191, 228, 7, 30, 144, 223, 9, 66, 28, 50, 137, 12]]

/-- `Sha256::digest` on the hex texts of the sample keys. -/
def sampleSha256 : Sha256 := fun bytes =>
  (((samplePubkeys.map fun key => key.toUTF8.data.toList).zip sampleDigests).lookup bytes).getD []

end NostrVpn.Core
