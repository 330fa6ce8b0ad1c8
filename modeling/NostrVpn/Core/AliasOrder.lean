import NostrVpn.Core.ConfigFile
import NostrVpn.Core.RosterGuards

/-!
# The order of aliases

`apply_admin_signed_shared_roster` and `normalize_peer_aliases` enumerate hash maps and let the last name of a
member win. The table they leave does not depend on the enumeration when no two keys give a member different
names.
-/
namespace NostrVpn.Core

open Rust HashMap

-- Terms with texts are compared without reading the texts.
attribute [local irreducible] String.toList normalizeNpubKey

/-- The same contents, whatever the enumeration order. -/
def SameEntries (aliases aliases' : HashMap String String) : Prop :=
  ∀ key, aliases.lookup key = aliases'.lookup key

section Names
variable (sdk : NostrSdk)

/-- The npub of the member that a key of a roster denotes, and its name. -/
def rosterName (entry : String × String) : Option (String × String) := do
  let member ← normalPubkey? sdk entry.1
  let label ← normalizeMagicDnsLabel entry.2
  return (npubForPubkeyHex sdk member, label)

/-- The npub that a key of the configuration denotes, and its name. -/
def storedName (entry : String × String) : Option (String × String) := do
  let npub ← normalizeNpubKey sdk entry.1
  let label ← normalizeMagicDnsLabel entry.2
  return (npub, label)

/-- The names that a roster gives to other members. -/
def acceptedName (own : Option String) (allowedMembers : List String) (entry : String × String) :
    Option (String × String) := do
  let member ← normalPubkey? sdk entry.1
  if some member = own ∨ member ∉ allowedMembers then none
  else rosterName sdk entry

/-- The stored names in whose place the roster stores none. -/
def KeptName (own : Option String) (allowedMembers : List String) (aliases peerAliases : HashMap String String)
    (entry : String × String) : Prop :=
  entry ∈ peerAliases.toList ∧
    ∀ named ∈ aliases.toList, (acceptedName sdk own allowedMembers named).map Prod.fst ≠ some entry.1

instance (own : Option String) (allowedMembers : List String) (aliases peerAliases : HashMap String String) :
    DecidablePred (KeptName sdk own allowedMembers aliases peerAliases) :=
  fun entry => inferInstanceAs (Decidable (entry ∈ peerAliases.toList ∧ ∀ named ∈ aliases.toList,
    (acceptedName sdk own allowedMembers named).map Prod.fst ≠ some entry.1))

/-- No two keys give a member different names: not in the roster, not among the stored names that the roster leaves
in place, and not one of these and one of the roster. The other names reach no member. -/
structure NamesAgree (own : Option String) (allowedMembers members : List String)
    (aliases peerAliases : HashMap String String) : Prop where
  roster : Agree (acceptedName sdk own allowedMembers) aliases.toList
  stored : ∀ entry entry', KeptName sdk own allowedMembers aliases peerAliases entry →
    KeptName sdk own allowedMembers aliases peerAliases entry' → ∀ member ∈ members, ∀ label label',
      storedName sdk entry = some (npubForPubkeyHex sdk member, label) →
        storedName sdk entry' = some (npubForPubkeyHex sdk member, label') → label = label'
  both : ∀ entry, KeptName sdk own allowedMembers aliases peerAliases entry →
    ∀ named ∈ aliases.toList, ∀ npub label label', storedName sdk entry = some (npub, label) →
      acceptedName sdk own allowedMembers named = some (npub, label') → label = label'

end Names

section Order
variable {sdk : NostrSdk} {sha256 : Sha256} {own : Option String} {allowedMembers members : List String}
  {aliases aliases' peerAliases peerAliases' : HashMap String String}

/-- The npub of a key is a key that `normalize_npub_key` leaves as it is. -/
theorem normalizeNpubKey_npub (lawful : sdk.Lawful) (npubs : sdk.Npubs) {text member : String}
    (parsed : normalPubkey? sdk text = some member) :
    normalizeNpubKey sdk (npubForPubkeyHex sdk member) = some (npubForPubkeyHex sdk member) := by
  have hex := lawful.parse_hex (normalPubkey?_eq_some.mp parsed)
  obtain ⟨npub, form, starts, trimmed⟩ := npubs.total hex
  have same : npubForPubkeyHex sdk member = npub := by
    simp [npubForPubkeyHex, lawful.from_parsed hex, form]
  have back : normalPubkey? sdk npub = some member :=
    normalPubkey?_eq_some.mpr (lawful.parse_bech32 hex form)
  rw [same, normalizeNpubKey, trimmed, if_pos starts, canonicalNpubKey, back, Option.map_some, same]

theorem acceptRosterAliases_eq : acceptRosterAliases sdk own allowedMembers aliases peerAliases =
    insertAll (acceptedName sdk own allowedMembers) aliases.toList peerAliases := by
  unfold acceptRosterAliases insertAll
  congr 1
  funext peerAliases entry
  obtain ⟨key, name⟩ := entry
  simp only [acceptedName, rosterName]
  cases normalPubkey? sdk key with
  | none => simp
  | some member =>
    by_cases refused : some member = own ∨ member ∉ allowedMembers
    · simp [refused]
    · cases normalizeMagicDnsLabel name <;> simp [refused]

theorem storedAliases_eq : storedAliases sdk aliases = insertAll (storedName sdk) aliases.toList ∅ := by
  unfold storedAliases insertAll
  congr 1
  funext normalized entry
  obtain ⟨key, name⟩ := entry
  simp only [storedName]
  cases normalizeNpubKey sdk key with
  | none => simp
  | some npub => cases normalizeMagicDnsLabel name <;> simp

theorem rosterName_of_accepted {entry named : String × String}
    (accepted : acceptedName sdk own allowedMembers entry = some named) : rosterName sdk entry = some named := by
  unfold acceptedName at accepted
  cases parsed : normalPubkey? sdk entry.1 with
  | none => simp [parsed] at accepted
  | some member =>
    simp only [parsed, Option.bind_eq_bind, Option.bind_some] at accepted
    split_ifs at accepted
    exact accepted

theorem SameEntries.mem_toList (same : SameEntries aliases aliases') (entry : String × String) :
    entry ∈ aliases.toList ↔ entry ∈ aliases'.toList := by
  rw [HashMap.mem_toList, HashMap.mem_toList, same]

/-- The keys under which a roster's names are stored are npubs, and its names labels. -/
theorem storedName_of_rosterName (lawful : sdk.Lawful) (npubs : sdk.Npubs) {entry named : String × String}
    (claim : rosterName sdk entry = some named) : storedName sdk named = some named := by
  unfold rosterName at claim
  cases parsed : normalPubkey? sdk entry.1 with
  | none => simp [parsed] at claim
  | some member =>
    cases normal : normalizeMagicDnsLabel entry.2 with
    | none => simp [parsed, normal] at claim
    | some label =>
      obtain rfl : (npubForPubkeyHex sdk member, label) = named := by simpa [parsed, normal] using claim
      have key := normalizeNpubKey_npub lawful npubs parsed
      have name : normalizeMagicDnsLabel label = some label := isMagicDnsLabel_of_normalize normal
      simp [storedName, key, name]

/-- A name in the table of the stored and the accepted ones is one of either. -/
theorem mem_acceptRosterAliases (agree : Agree (acceptedName sdk own allowedMembers) aliases.toList)
    {entry : String × String} :
    entry ∈ (acceptRosterAliases sdk own allowedMembers aliases peerAliases).toList ↔
      (∃ named ∈ aliases.toList, acceptedName sdk own allowedMembers named = some entry) ∨
        KeptName sdk own allowedMembers aliases peerAliases entry := by
  obtain ⟨key, name⟩ := entry
  rw [HashMap.mem_toList, acceptRosterAliases_eq, lookup_insertAll agree, KeptName, HashMap.mem_toList, and_comm]
  simp only [ne_eq, Option.map_eq_some_iff, Prod.exists, exists_and_right, exists_eq_right, not_exists]

/-- The names of a member still agree when those of the roster are stored. -/
theorem agreeAt_acceptRosterAliases (lawful : sdk.Lawful) (npubs : sdk.Npubs)
    (agree : NamesAgree sdk own allowedMembers members aliases peerAliases) {member : String} (mem : member ∈ members) :
    AgreeAt (storedName sdk) (acceptRosterAliases sdk own allowedMembers aliases peerAliases).toList
      (npubForPubkeyHex sdk member) := by
  have stored {named entry : String × String}
      (accepted : acceptedName sdk own allowedMembers named = some entry) : storedName sdk entry = some entry :=
    storedName_of_rosterName lawful npubs (rosterName_of_accepted accepted)
  intro entry listed entry' listed' label label' claim claim'
  rcases (mem_acceptRosterAliases agree.roster).mp listed with ⟨named, source, accepted⟩ | kept
  · obtain rfl := Option.some.inj ((stored accepted).symm.trans claim)
    rcases (mem_acceptRosterAliases agree.roster).mp listed' with ⟨named', source', accepted'⟩ | kept'
    · obtain rfl := Option.some.inj ((stored accepted').symm.trans claim')
      exact agree.roster named source named' source' _ label label' accepted accepted'
    · exact (agree.both entry' kept' named source _ label' label claim' accepted).symm
  · rcases (mem_acceptRosterAliases agree.roster).mp listed' with ⟨named', source', accepted'⟩ | kept'
    · obtain rfl := Option.some.inj ((stored accepted').symm.trans claim')
      exact agree.both entry kept named' source' _ label label' claim accepted'
    · exact agree.stored entry entry' kept kept' member mem label label' claim claim'

/-- The loop over the members only looks their names up. -/
theorem foldl_assignAlias_congr {members : List String}
    {acc acc' : HashMap String String × List String × HashMap String String}
    (same : ∀ member ∈ members,
      acc.1.lookup (npubForPubkeyHex sdk member) = acc'.1.lookup (npubForPubkeyHex sdk member))
    (rest : acc.2 = acc'.2) : (members.foldl (AppConfig.assignAlias sdk sha256) acc).2 =
      (members.foldl (AppConfig.assignAlias sdk sha256) acc').2 := by
  induction members generalizing acc acc' with
  | nil => exact rest
  | cons member members ih =>
    have preferred : preferredAlias sdk sha256 acc member = preferredAlias sdk sha256 acc' member := by
      rw [preferredAlias, preferredAlias, same member (by simp), rest]
    rw [List.foldl_cons, List.foldl_cons]
    refine ih (fun other mem => ?_) ?_
    · rw [assignAlias_eq, assignAlias_eq]
      by_cases eq : npubForPubkeyHex sdk other = npubForPubkeyHex sdk member
      · rw [eq, AList.lookup_erase, AList.lookup_erase]
      · rw [AList.lookup_erase_ne eq, AList.lookup_erase_ne eq, same other (by simp [mem])]
    · rw [assignAlias_eq, assignAlias_eq, preferred, rest]

/-- The table follows the names that the stored keys give the members, and the node's own label. -/
theorem normalizePeerAliases_congr {config config' : AppConfig}
    {enumerate enumerate' : HashMap String String → HashMap String String}
    (names : ∀ member ∈ config.allNetworkMemberPubkeysHex,
      (storedAliases sdk (enumerate config.peerAliases)).lookup (npubForPubkeyHex sdk member) =
        (storedAliases sdk (enumerate' config'.peerAliases)).lookup (npubForPubkeyHex sdk member))
    (networks : config.networks = config'.networks) (self : config.nodeName = config'.nodeName) :
    (config.normalizePeerAliases sdk sha256 enumerate).peerAliases =
      (config'.normalizePeerAliases sdk sha256 enumerate').peerAliases := by
  have members : config.allNetworkMemberPubkeysHex = config'.allNetworkMemberPubkeysHex := by
    rw [AppConfig.allNetworkMemberPubkeysHex, AppConfig.allNetworkMemberPubkeysHex, networks]
  have label : config.preferredSelfMagicDnsLabel = config'.preferredSelfMagicDnsLabel := by
    rw [AppConfig.preferredSelfMagicDnsLabel, AppConfig.preferredSelfMagicDnsLabel, self]
  change (config.allNetworkMemberPubkeysHex.foldl (AppConfig.assignAlias sdk sha256)
      (storedAliases sdk (enumerate config.peerAliases), config.preferredSelfMagicDnsLabel.toList, ∅)).2.2 =
    (config'.allNetworkMemberPubkeysHex.foldl (AppConfig.assignAlias sdk sha256)
      (storedAliases sdk (enumerate' config'.peerAliases), config'.preferredSelfMagicDnsLabel.toList, ∅)).2.2
  rw [← members, ← label]
  exact congrArg Prod.snd (foldl_assignAlias_congr names rfl)

/-- The aliases after a roster follow the contents of the two tables. -/
theorem acceptSharedRoster_congr (lawful : sdk.Lawful) (npubs : sdk.Npubs) (config : AppConfig)
    (meshId : String) (accepted : NetworkConfig) (same : SameEntries config.peerAliases peerAliases')
    (same' : SameEntries aliases aliases') {enumerate enumerate' : HashMap String String → HashMap String String}
    (keeps : ∀ table, SameEntries table (enumerate table)) (keeps' : ∀ table, SameEntries table (enumerate' table))
    (agree : NamesAgree sdk (config.ownPubkey sdk) (accepted.participants ++ accepted.admins)
      (config.acceptSharedRoster sdk sha256 meshId accepted aliases enumerate).allNetworkMemberPubkeysHex
      aliases config.peerAliases) :
    (config.acceptSharedRoster sdk sha256 meshId accepted aliases enumerate).peerAliases =
      (AppConfig.acceptSharedRoster sdk sha256 { config with peerAliases := peerAliases' } meshId accepted
        aliases' enumerate').peerAliases := by
  have merged : SameEntries (acceptRosterAliases sdk (config.ownPubkey sdk)
        (accepted.participants ++ accepted.admins) aliases config.peerAliases)
      (acceptRosterAliases sdk (config.ownPubkey sdk) (accepted.participants ++ accepted.admins) aliases'
        peerAliases') := by
    intro key
    rw [acceptRosterAliases_eq, acceptRosterAliases_eq]
    exact lookup_insertAll_congr same'.mem_toList (agree.roster.at key) (same key)
  have names (member : String) (mem : member ∈ (config.acceptSharedRoster sdk sha256 meshId accepted aliases
        enumerate).allNetworkMemberPubkeysHex) :
      (storedAliases sdk (enumerate (acceptRosterAliases sdk (config.ownPubkey sdk)
        (accepted.participants ++ accepted.admins) aliases config.peerAliases))).lookup
          (npubForPubkeyHex sdk member) =
      (storedAliases sdk (enumerate' (acceptRosterAliases sdk (config.ownPubkey sdk)
        (accepted.participants ++ accepted.admins) aliases' peerAliases'))).lookup
          (npubForPubkeyHex sdk member) := by
    have listed (entry : String × String) := (keeps (acceptRosterAliases sdk (config.ownPubkey sdk)
      (accepted.participants ++ accepted.admins) aliases config.peerAliases)).mem_toList entry
    have listed' (entry : String × String) := (keeps' (acceptRosterAliases sdk (config.ownPubkey sdk)
      (accepted.participants ++ accepted.admins) aliases' peerAliases')).mem_toList entry
    rw [storedAliases_eq, storedAliases_eq]
    refine lookup_insertAll_congr (fun entry => ?_) (fun i mem' j mem'' => ?_) rfl
    · exact (listed entry).symm.trans ((merged.mem_toList entry).trans (listed' entry))
    · exact agreeAt_acceptRosterAliases lawful npubs agree mem i ((listed i).mpr mem') j ((listed j).mpr mem'')
  have kept (config : AppConfig) : config.normalizeSelectedExitNode.peerAliases = config.peerAliases ∧
      config.normalizeSelectedExitNode.nodeName = config.nodeName := by
    unfold AppConfig.normalizeSelectedExitNode
    split_ifs <;> exact ⟨rfl, rfl⟩
  unfold AppConfig.acceptSharedRoster
  refine normalizePeerAliases_congr ?_ (by simp) ?_
  · rw [(kept _).1, (kept _).1]
    exact names
  · rw [(kept _).2, (kept _).2]

end Order

/-- The members that a roster lists, with their keys in normal form. -/
def AppConfig.rosterMembers (sdk : NostrSdk) (config : AppConfig) (update : SharedRosterUpdate) : List String :=
  match config.networks.find? (NetworkConfig.hasMeshId (normalizeRuntimeNetworkId update.networkId)),
      normalizeSharedRosterParticipants sdk update.participants (config.ownPubkey sdk) with
  | some network, .ok participants => participants ++
      normalizeNetworkAdmins sdk update.admins (config.ownPubkey sdk) network.inviteInviter
  | _, _ => []

/-- Two nodes with the same contents accept the same roster and end with the same aliases, whatever the
enumeration orders of the roster's names, of their own and of the table of both, when no two keys give a member
different names. -/
theorem aliases_independent_of_order {sdk : NostrSdk} (lawful : sdk.Lawful) (npubs : sdk.Npubs)
    (sha256 : Sha256) (now : UInt64) (config : AppConfig) (update : SharedRosterUpdate)
    {peerAliases aliases : HashMap String String} (same : SameEntries config.peerAliases peerAliases)
    (same' : SameEntries update.aliases aliases) {enumerate enumerate' : HashMap String String → HashMap String String}
    (keeps : ∀ table, SameEntries table (enumerate table)) (keeps' : ∀ table, SameEntries table (enumerate' table))
    (agree : NamesAgree sdk (config.ownPubkey sdk) (config.rosterMembers sdk update)
      (config.applyAdminSignedSharedRoster sdk sha256 now update enumerate).2.allNetworkMemberPubkeysHex
      update.aliases config.peerAliases)
    (accepted : (config.applyAdminSignedSharedRoster sdk sha256 now update enumerate).1 = .ok true) :
    let other := AppConfig.applyAdminSignedSharedRoster sdk sha256 now { config with peerAliases }
      { update with aliases } enumerate'
    other.1 = .ok true ∧ SameEntries
      (config.applyAdminSignedSharedRoster sdk sha256 now update enumerate).2.peerAliases other.2.peerAliases := by
  by_cases passes : ∃ signer network participants,
      RosterPasses sdk now config update signer network participants
  · obtain ⟨signer, network, participants, passes⟩ := passes
    have passes' : RosterPasses sdk now { config with peerAliases } { update with aliases } signer network
        participants :=
      ⟨passes.addressed, passes.signed, passes.inTime, passes.found, passes.admin, passes.newer, passes.parsed⟩
    have self : AppConfig.ownPubkey sdk { config with peerAliases } = config.ownPubkey sdk := rfl
    have allowed : config.rosterMembers sdk update = participants ++
        normalizeNetworkAdmins sdk update.admins (config.ownPubkey sdk) network.inviteInviter := by
      simp only [AppConfig.rosterMembers, passes.found, passes.parsed]
    dsimp only
    rw [apply_of_passes passes enumerate] at accepted agree ⊢
    rw [apply_of_passes passes' enumerate', self]
    rw [allowed] at agree
    split_ifs at accepted agree ⊢
    refine ⟨rfl, fun key => ?_⟩
    exact congrArg (fun table => table.lookup key) (acceptSharedRoster_congr lawful npubs config _
      (network.acceptRoster sdk update signer participants
        (normalizeNetworkAdmins sdk update.admins (config.ownPubkey sdk) network.inviteInviter))
      same same' keeps keeps' agree)
  · simp only [not_exists] at passes
    exact absurd accepted (apply_of_not_passes passes _).1

/-! ## One member under two keys -/

/-- The sample keys are ASCII texts without white space, their bech32 forms are npubs, and every key has one. -/
theorem sampleKeyForms_facts :
    (∀ forms ∈ sampleKeyForms, (isAscii forms.1 ∧ (asciiChars forms.1).all (fun c => !isWhitespace c) ∧ forms.1 ≠ "") ∧
      (isAscii forms.2 ∧ (asciiChars forms.2).all (fun c => !isWhitespace c) ∧ forms.2 ≠ "") ∧
      (asciiChars "npub1").isPrefixOf (asciiChars forms.2)) ∧
    isAscii "npub1" ∧
    ∀ h ∈ samplePubkeys, ∃ forms ∈ sampleKeyForms, sampleSdk.publicKeyToBech32 h = some forms.2 := by
  decide +kernel

theorem sampleSdk_npubs : sampleSdk.Npubs where
  total := by
    intro h parsed
    obtain ⟨all, npub, found⟩ := sampleKeyForms_facts
    obtain ⟨forms, mem, text⟩ := found h (mem_samplePubkeys_of_parse parsed)
    obtain ⟨-, ⟨ascii, clean, -⟩, start⟩ := all forms mem
    exact ⟨_, text, (startsWith_of_isAscii ascii npub).trans start, trim_of_isAscii ascii clean⟩
  filled := by
    intro s h parsed
    simp only [sampleSdk] at parsed
    split at parsed
    · rename_i form found
      have mem := List.mem_of_find?_eq_some found
      obtain ⟨⟨ascii, clean, ne⟩, ⟨ascii', clean', ne'⟩, -⟩ := sampleKeyForms_facts.1 form mem
      have text := List.find?_some found
      simp only [Bool.or_eq_true, beq_iff_eq] at text
      rcases text with rfl | rfl
      · exact isBlank_of_isAscii ascii clean ne
      · exact isBlank_of_isAscii ascii' clean' ne'
    · cases parsed
  secret_filled := by
    intro s h parsed
    cases parsed

/-- Two names under different keys, in the one order and in the other. -/
theorem sameEntries_swap {key key' : String} (name name' : String) (other : key ≠ key') :
    SameEntries (HashMap.ofList [(key, name), (key', name')]) (HashMap.ofList [(key', name'), (key, name)]) := by
  intro k
  simp only [HashMap.ofList, List.foldl_cons, List.foldl_nil]
  by_cases first : k = key
  · subst first
    rw [AList.lookup_insert_ne other, AList.lookup_insert, AList.lookup_insert]
  · rw [AList.lookup_insert_ne first]
    by_cases second : k = key'
    · subst second
      rw [AList.lookup_insert, AList.lookup_insert]
    · rw [AList.lookup_insert_ne second, AList.lookup_insert_ne second, AList.lookup_insert_ne first]

/-- Names agree when those with the same npub are the same entry. -/
theorem namesAgree_of_fst {sdk : NostrSdk} {own : Option String} {allowedMembers members : List String}
    {aliases peerAliases : HashMap String String}
    (roster : ∀ i ∈ aliases.toList, ∀ j ∈ aliases.toList, (acceptedName sdk own allowedMembers i).map Prod.fst =
      (acceptedName sdk own allowedMembers j).map Prod.fst →
        acceptedName sdk own allowedMembers i = acceptedName sdk own allowedMembers j)
    (stored : ∀ i ∈ peerAliases.toList, ∀ j ∈ peerAliases.toList,
      KeptName sdk own allowedMembers aliases peerAliases i → KeptName sdk own allowedMembers aliases peerAliases j →
        ∀ member ∈ members, (storedName sdk i).map Prod.fst = some (npubForPubkeyHex sdk member) →
          (storedName sdk j).map Prod.fst = some (npubForPubkeyHex sdk member) → storedName sdk i = storedName sdk j)
    (both : ∀ i ∈ peerAliases.toList, KeptName sdk own allowedMembers aliases peerAliases i →
      ∀ j ∈ aliases.toList, (storedName sdk i).map Prod.fst = (acceptedName sdk own allowedMembers j).map Prod.fst →
        storedName sdk i = acceptedName sdk own allowedMembers j) :
    NamesAgree sdk own allowedMembers members aliases peerAliases where
  roster := agree_of_fst roster
  stored i j kept kept' member mem label label' claim claim' := by
    have eq := stored i kept.1 j kept'.1 kept kept' member mem (by rw [claim]; rfl) (by rw [claim']; rfl)
    rw [claim, claim'] at eq
    exact (Prod.mk.inj (Option.some.inj eq)).2
  both i kept j mem npub label label' claim claim' := by
    have eq := both i kept.1 kept j mem (by rw [claim, claim']; rfl)
    rw [claim, claim'] at eq
    exact (Prod.mk.inj (Option.some.inj eq)).2

/-- The second and the third sample key, in hex and in bech32. -/
def secondHex : String := "c6047f9441ed7d6d3045406e95c07cd85c778e4b8cef3ca7abac09b95c709ee5"

def secondNpub : String := "npub1ccz8l9zpa47k6vz9gphftsrumpw80rjt3nhnefat4symjhrsnmjs38mnyd"

def thirdHex : String := "f9308a019258c31049344f85f89d5229b531c845836f99b08601f113bce036f9"

def thirdNpub : String := "npub1lycg5qvjtrp3qjf5f7zl382j9x6nrjz9sdhenvyxq8c3808qxmus6gq266"

/-- The roster of the administrator with names for the second sample key. -/
def namingRoster (names : List (String × String)) : SharedRosterUpdate :=
  { sampleRoster 100 secondHex with aliases := .ofList names }

/-- The node of the third sample key. It has two spellings of the second member's npub, and of its own. -/
def namedConfig : AppConfig :=
  { sampleRosterConfig with
    nostr := { sampleRosterConfig.nostr with publicKey := thirdHex }
    peerAliases := .ofList
      [(secondNpub, "old"), (" " ++ secondNpub, "ANNA"), (thirdNpub, "me"), (" " ++ thirdNpub, "mine")] }

/-- The administrator names the second member twice, and the node itself with two names. -/
def twiceNamed : List (String × String) :=
  [(secondHex, "anna"), (secondNpub, "Anna"), (samplePubkeys.headD "", "berta"), (thirdHex, "clara"),
   (thirdNpub, "dora")]

/-- The same entries in the opposite order. -/
def reversed (table : HashMap String String) : HashMap String String := .ofList table.toList.reverse

theorem sameEntries_reversed (table : HashMap String String) : SameEntries table (reversed table) := by
  have distinct : (table.toList.reverse.map Prod.fst).Nodup := by
    rw [List.map_reverse, List.nodup_reverse]
    exact HashMap.nodup_keys_toList table
  have same (entry : String × String) : entry ∈ (reversed table).toList ↔ entry ∈ table.toList := by
    rw [reversed, (HashMap.toList_ofList_of_nodup distinct).mem_iff, List.mem_reverse]
  intro key
  refine Option.ext fun name => ?_
  rw [← HashMap.mem_toList, ← HashMap.mem_toList, same]

/-- The node ends with one table of names although every one of its tables is read in the opposite order. -/
theorem aliases_independent_of_order_of_twiceNamed :
    let other := AppConfig.applyAdminSignedSharedRoster sampleSdk sampleSha256 200
      { namedConfig with peerAliases := reversed namedConfig.peerAliases }
      { namingRoster twiceNamed with aliases := reversed (namingRoster twiceNamed).aliases } reversed
    other.1 = .ok true ∧ SameEntries (namedConfig.applyAdminSignedSharedRoster sampleSdk sampleSha256 200
      (namingRoster twiceNamed)).2.peerAliases other.2.peerAliases := by
  have facts : (namedConfig.applyAdminSignedSharedRoster sampleSdk sampleSha256 200
        (namingRoster twiceNamed)).1 = .ok true ∧
      namedConfig.ownPubkey sampleSdk = some thirdHex ∧
      namedConfig.rosterMembers sampleSdk (namingRoster twiceNamed) = secondHex :: samplePubkeys.take 1 ∧
      (namedConfig.applyAdminSignedSharedRoster sampleSdk sampleSha256 200
        (namingRoster twiceNamed)).2.allNetworkMemberPubkeysHex = samplePubkeys.take 2 := by decide +kernel
  obtain ⟨accepted, own, listed, members⟩ := facts
  refine aliases_independent_of_order sampleSdk_lawful sampleSdk_npubs sampleSha256 200 namedConfig
    (namingRoster twiceNamed) (sameEntries_reversed _) (sameEntries_reversed _) (fun _ _ => rfl)
    sameEntries_reversed ?_ accepted
  rw [own, listed, members]
  exact namesAgree_of_fst (by decide +kernel) (by decide +kernel) (by decide +kernel)

/-- The member's name is the one that is enumerated last. -/
theorem two_names_depend_on_order :
    ¬ ∀ (sdk : NostrSdk) (sha256 : Sha256) (now : UInt64) (config : AppConfig) (update : SharedRosterUpdate)
      (peerAliases aliases : HashMap String String)
      (enumerate enumerate' : HashMap String String → HashMap String String), sdk.Lawful → sdk.Npubs →
      SameEntries config.peerAliases peerAliases → SameEntries update.aliases aliases →
      (∀ table, SameEntries table (enumerate table)) → (∀ table, SameEntries table (enumerate' table)) →
      (config.applyAdminSignedSharedRoster sdk sha256 now update enumerate).1 = .ok true →
      SameEntries (config.applyAdminSignedSharedRoster sdk sha256 now update enumerate).2.peerAliases
        (AppConfig.applyAdminSignedSharedRoster sdk sha256 now { config with peerAliases }
          { update with aliases } enumerate').2.peerAliases := by
  intro independent
  have facts : (sampleRosterConfig.applyAdminSignedSharedRoster sampleSdk sampleSha256 200
        (namingRoster [(secondHex, "anna"), (secondNpub, "berta")])).1 = .ok true ∧
      (sampleRosterConfig.applyAdminSignedSharedRoster sampleSdk sampleSha256 200
        (namingRoster [(secondHex, "anna"), (secondNpub, "berta")])).2.peerAliases.lookup secondNpub ≠
      (sampleRosterConfig.applyAdminSignedSharedRoster sampleSdk sampleSha256 200
        (namingRoster [(secondNpub, "berta"), (secondHex, "anna")])).2.peerAliases.lookup secondNpub := by
    decide +kernel
  exact facts.2 (independent sampleSdk sampleSha256 200 sampleRosterConfig _ _ _ (fun table => table)
    (fun table => table) sampleSdk_lawful sampleSdk_npubs (fun _ => rfl) (sameEntries_swap _ _ (by decide))
    (fun _ _ => rfl) (fun _ _ => rfl) facts.1 secondNpub)

end NostrVpn.Core
