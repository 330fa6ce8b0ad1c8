import Mathlib.Data.List.Find
import NostrVpn.Core.ConfigFile
import NostrVpn.Core.MagicDnsServer
import NostrVpn.Invite.AliasInvariant

/-!
# The two resolvers of MagicDNS names

`resolve_magic_dns_query` searches the aliases for each query, and the server answers from the table that
`build_magic_dns_records` made. Both go by the labels of the node and of the participants.
-/
namespace NostrVpn.Invite

open Rust Rust.Net NostrVpn.Core MagicDns

-- Terms with texts are compared without reading the texts.
attribute [local irreducible] String.toList

/-! ## The search -/

section Search
variable (sdk : NostrSdk)

def selfMagicDnsName (config : AppConfig) : Option String :=
  config.selfMagicDnsLabel.map fun alias' =>
    if config.magicDnsSuffix = "" then alias' else alias' ++ "." ++ config.magicDnsSuffix

/-- `resolve_magic_dns_query`; `str::to_lowercase` is an argument. -/
def resolveMagicDnsQuery (lowercase : String → String) (config : AppConfig) (query : String) : Option String :=
  let query := lowercase (trimEndMatches '.' (trim query))
  if query = "" then none
  else
    let participant := config.participantPubkeysHex.findSome? fun participant =>
      (config.peerAliases.lookup (npubForPubkeyHex sdk participant)).bind fun alias' =>
        if query = alias' then some participant
        else if config.magicDnsSuffix ≠ "" ∧ query = alias' ++ "." ++ config.magicDnsSuffix then some participant
        else none
    match config.ownPubkey sdk with
    | none => participant
    | some own =>
      if config.selfMagicDnsLabel = some query then some own
      else if selfMagicDnsName config = some query then some own
      else participant

/-- The labels in the order of the search: the node, and the participants that have an alias. -/
def labelled (config : AppConfig) : List (String × String) :=
  (config.selfMagicDnsLabel.bind fun label => (config.ownPubkey sdk).map fun own => (label, own)).toList ++
    config.participantPubkeysHex.filterMap fun participant =>
      (config.peerAliases.lookup (npubForPubkeyHex sdk participant)).map fun label => (label, participant)

/-- Both resolvers know the name or neither does, and they lead to one address. -/
structure ResolversAgree (sha256 : Sha256) (lowercase : String → String) (config : AppConfig) (query : String) :
    Prop where
  known : (resolveMagicDnsQuery sdk lowercase config query).isSome ↔
    ((buildMagicDnsRecords sdk sha256 config).lookup query).isSome
  address : ∀ member ip, resolveMagicDnsQuery sdk lowercase config query = some member →
    (buildMagicDnsRecords sdk sha256 config).lookup query = some ip →
    MagicDns.address sha256 config.effectiveNetworkId member = some ip

/-- The network id gives addresses, if there is anything to give one to, and the first and the last of the
node and the participants with one label have the same address. -/
structure LabelsTell (sha256 : Sha256) (config : AppConfig) : Prop where
  derived : labelled sdk config = [] ∨ trim (normalizeRuntimeNetworkId config.effectiveNetworkId) ≠ ""
  single : ∀ label first last, (labelled sdk config).find? (fun e => e.1 = label) = some first →
    (labelled sdk config).reverse.find? (fun e => e.1 = label) = some last →
    MagicDns.address sha256 config.effectiveNetworkId first.2 =
      MagicDns.address sha256 config.effectiveNetworkId last.2

/-- Filling in the defaults leaves the configuration as it is, but for the order of the table of aliases. -/
structure IsFixpoint (sha256 : Sha256) (generated : Generated) (config : AppConfig) : Prop where
  networks : (config.ensureDefaults sdk sha256 generated).networks = config.networks
  fields : SameFile (config.ensureDefaults sdk sha256 generated) config

end Search

/-! ## Labels and suffixes in normal form -/

/-- A text of labels and dots that `build_magic_dns_records` leaves as it is. -/
structure IsSuffixText (cs : List Char) : Prop where
  nonempty : cs ≠ []
  chars : ∀ c ∈ cs, isLabelChar c ∨ c = '.'
  first : cs.head? ≠ some '.'
  last : cs.getLast? ≠ some '.'

theorem isSuffixText_of_label {label : String} (valid : IsMagicDnsLabel label) : IsSuffixText label.toList := by
  have text := isMagicDnsLabel_iff.mp valid
  have dotless : '.' ∉ label.toList := fun mem => absurd (text.chars _ mem) (by decide)
  refine ⟨text.nonempty, fun c mem => Or.inl (text.chars c mem), fun head => ?_, fun last => ?_⟩
  · exact dotless (List.mem_of_head? head)
  · exact dotless (List.mem_of_getLast? last)

theorem IsSuffixText.append {left right : List Char} (here : IsSuffixText left) (rest : IsSuffixText right) :
    IsSuffixText (left ++ '.' :: right) := by
  refine ⟨by simp, fun c mem => ?_, ?_, ?_⟩
  · rcases List.mem_append.mp mem with mem | mem
    · exact here.chars c mem
    · rcases List.mem_cons.mp mem with rfl | mem
      · exact Or.inr rfl
      · exact rest.chars c mem
  · rw [List.head?_append_of_ne_nil _ here.nonempty]
    exact here.first
  · have same : (left ++ '.' :: right).getLast? = right.getLast? := by
      rw [List.getLast?_append, List.getLast?_cons]
      cases found : right.getLast? with
      | none => exact absurd (List.getLast?_eq_none_iff.mp found) rest.nonempty
      | some c => rfl
    rw [same]
    exact rest.last

theorem isSuffixText_join {labels : List String} (some' : labels ≠ [])
    (valid : ∀ label ∈ labels, IsMagicDnsLabel label) : IsSuffixText (join "." labels).toList := by
  induction labels with
  | nil => exact absurd rfl some'
  | cons label rest ih =>
    have here := isSuffixText_of_label (valid label (by simp))
    by_cases last : rest = []
    · subst last
      exact here
    · rw [join_cons _ last]
      have more := ih last fun other mem => valid other (List.mem_cons_of_mem _ mem)
      simpa using here.append more

/-- What `normalize_magic_dns_suffix` returns. -/
theorem isSuffixText_normalize (value : String) : IsSuffixText (normalizeMagicDnsSuffix value).toList := by
  unfold normalizeMagicDnsSuffix
  dsimp only
  split_ifs with none'
  · exact isSuffixText_of_label (by decide +kernel)
  · refine isSuffixText_join none' fun label mem => ?_
    obtain ⟨piece, -, normal⟩ := List.mem_filterMap.mp (List.mem_of_mem_filter mem)
    exact isMagicDnsLabel_of_normalize normal

theorem toAsciiLowercase_of_suffixText {s : String} (chars : ∀ c ∈ s.toList, isLabelChar c ∨ c = '.') :
    toAsciiLowercase s = s := by
  have same : s.toList.map Char.toLower = s.toList := by
    refine (List.map_congr_left fun c mem => ?_).trans (List.map_id _)
    rcases chars c mem with label | rfl
    · by_cases dash : c = '-'
      · subst dash
        rfl
      · exact toLower_of_isLabelChar label dash
    · rfl
  rw [toAsciiLowercase, same, String.ofList_toList]

theorem isWhitespace_of_suffixChar {c : Char} (char : isLabelChar c ∨ c = '.') : isWhitespace c = false := by
  rcases char with label | rfl
  · exact forall_ascii (p := fun c => isLabelChar c → isWhitespace c = false) (by decide +kernel)
      (lt_of_isLabelChar label) label
  · decide

theorem trimDots_of_suffixText {s : String} (text : IsSuffixText s.toList) :
    trimStartMatches '.' s = s ∧ trimEndMatches '.' s = s := by
  constructor
  · have front : s.toList.dropWhile (· == '.') = s.toList := by
      refine List.dropWhile_eq_self_iff.mpr fun pos dot => text.first ?_
      rw [List.head?_eq_getElem?, List.getElem?_eq_getElem pos]
      exact congrArg some (by simpa using dot)
    rw [trimStartMatches, front, String.ofList_toList]
  · have back : s.toList.rdropWhile (· == '.') = s.toList := by
      refine List.rdropWhile_eq_self_iff.mpr fun nonempty dot => text.last ?_
      rw [List.getLast?_eq_some_getLast nonempty]
      exact congrArg some (by simpa using dot)
    rw [trimEndMatches, back, String.ofList_toList]

/-- The server reads a suffix in normal form as it is. -/
theorem suffix_eq_self {config : AppConfig} (text : IsSuffixText config.magicDnsSuffix.toList) :
    MagicDns.suffix config = config.magicDnsSuffix := by
  have blankless := trim_eq_self fun c mem => isWhitespace_of_suffixChar (text.chars c mem)
  obtain ⟨front, back⟩ := trimDots_of_suffixText text
  rw [MagicDns.suffix, blankless, front, back, toAsciiLowercase_of_suffixText text.chars]

/-! ## Names of a label -/

section Names
variable {suffix label query : String}

theorem mem_names (valid : IsMagicDnsLabel label) (text : suffix ≠ "") :
    query ∈ names suffix label ↔ query = label ∨ query = label ++ "." ++ suffix := by
  have lower := toAsciiLowercase_of_suffixText (isSuffixText_of_label valid).chars
  simp [names, lower, text]

/-- A name tells its label. -/
theorem label_of_mem_names (valid : IsMagicDnsLabel label) (text : suffix ≠ "")
    (mem : query ∈ names suffix label) : splitFirst '.' query = label := by
  have dotless : ∀ c ∈ label.toList, (c != '.') = true := fun c mem => by
    have char := (isMagicDnsLabel_iff.mp valid).chars c mem
    rw [bne_iff_ne]
    rintro rfl
    exact absurd char (by decide)
  rcases (mem_names valid text).mp mem with rfl | rfl
  · rw [splitFirst, List.takeWhile_eq_self_iff.mpr dotless, String.ofList_toList]
  · have first : (label ++ "." ++ suffix).toList = label.toList ++ '.' :: suffix.toList := by simp
    rw [splitFirst, first, List.takeWhile_append_of_pos dotless]
    simp

end Names

/-! ## The labels of a fixpoint -/

section Fixpoint
variable {sdk : NostrSdk} {sha256 : Sha256} {generated : Generated} {config : AppConfig}

theorem isMagicDnsLabel_uniquify {base : String} (valid : IsMagicDnsLabel base) (used : List String) :
    IsMagicDnsLabel (uniquifyMagicDnsLabel base used).1 := by
  have nonempty := nonempty_of_isMagicDnsLabel valid
  by_cases free : FreeLabel base used
  · obtain ⟨label, eq, -, made⟩ := uniquify_of_free nonempty free
    rw [eq]
    exact isMagicDnsLabel_of_made valid made
  · rw [(uniquify_of_taken nonempty free).1]
    exact valid

/-- The loop stores valid labels, those that it gives twice as well. -/
theorem stored_loop (hex : sdk.HexKeys) {members : List String}
    (normal : ∀ member ∈ members, normalPubkey? sdk member = some member)
    {acc : HashMap String String × List String × HashMap String String}
    (stored : acc.1.All fun _ label => IsMagicDnsLabel label)
    (final : acc.2.2.All fun _ label => IsMagicDnsLabel label) :
    (members.foldl (AppConfig.assignAlias sdk sha256) acc).2.2.All fun _ label => IsMagicDnsLabel label := by
  induction members generalizing acc with
  | nil => exact final
  | cons member rest ih =>
    have preferred := @isMagicDnsLabel_preferred sdk sha256 member acc hex (normal member (by simp)) stored
    refine ih (fun other mem => normal other (List.mem_cons_of_mem _ mem)) ?_ ?_
    · exact stored.erase _
    · exact final.insert (isMagicDnsLabel_uniquify preferred _)

theorem stored_ensureDefaults (lawful : sdk.Lawful) (hex : sdk.HexKeys) (config : AppConfig) :
    (config.ensureDefaults sdk sha256 generated).peerAliases.All fun _ label => IsMagicDnsLabel label := by
  have normal := normal_of_allMembers (@normalMembers_ensureDefaults sdk sha256 lawful generated config)
  obtain ⟨pre, ends, -⟩ := @ensureDefaults_eq sdk sha256 generated config
  rw [← ends] at normal ⊢
  exact stored_loop hex normal (stored_storedAliases _) HashMap.All.empty

theorem magicDnsSuffix_ensureDefaults (config : AppConfig) :
    ∃ value, (config.ensureDefaults sdk sha256 generated).magicDnsSuffix = normalizeMagicDnsSuffix value := by
  have last (config : AppConfig) : (config.normalizePeerAliases sdk sha256).magicDnsSuffix =
      config.magicDnsSuffix := rfl
  have exitNode (config : AppConfig) :
      config.normalizeSelectedExitNode.magicDnsSuffix = config.magicDnsSuffix := by
    unfold AppConfig.normalizeSelectedExitNode
    split_ifs <;> rfl
  have networks (own : Option String) (config : AppConfig) :
      ((((config.ensureExitNode sdk).ensureNetworkList sdk own).ensureSingleActiveNetwork).deriveDefaultNetworkIds
        sdk sha256).magicDnsSuffix = config.magicDnsSuffix := rfl
  have fields (own : Option String) (config : AppConfig) : ∃ value,
      (config.ensureFields sha256 generated own).magicDnsSuffix = normalizeMagicDnsSuffix value := by
    simp only [AppConfig.ensureFields]
    exact ⟨_, rfl⟩
  unfold AppConfig.ensureDefaults
  dsimp only
  rw [last, exitNode, networks]
  exact fields _ _

/-- What the resolvers rely on in a fixpoint. -/
structure Named (sdk : NostrSdk) (config : AppConfig) : Prop where
  suffix : IsSuffixText config.magicDnsSuffix.toList
  labels : ∀ e ∈ labelled sdk config, IsMagicDnsLabel e.1
  keys : ∀ e ∈ labelled sdk config, normalPubkey? sdk e.2 = some e.2
  members : ∀ key ∈ config.participantPubkeysHex, normalPubkey? sdk key = some key

theorem named_of_fixpoint (lawful : sdk.Lawful) (hex : sdk.HexKeys)
    (fixpoint : IsFixpoint sdk sha256 generated config) : Named sdk config := by
  have normal := @normalMembers_ensureDefaults sdk sha256 lawful generated config
  rw [fixpoint.networks] at normal
  have members (key : String) (mem : key ∈ config.participantPubkeysHex) : normalPubkey? sdk key = some key :=
    normal _ config.activeNetwork_mem key (Or.inl (mem_sortDedup.mp mem))
  have stored : config.peerAliases.All fun _ label => IsMagicDnsLabel label := fun key label found =>
    @stored_ensureDefaults sdk sha256 generated lawful hex config key label
      ((fixpoint.fields.peerAliases key).trans found)
  have entries (e : String × String) (mem : e ∈ labelled sdk config) :
      IsMagicDnsLabel e.1 ∧ normalPubkey? sdk e.2 = some e.2 := by
    rcases List.mem_append.mp mem with self | participant
    · obtain ⟨label, given, own, key, rfl⟩ :
          ∃ label, config.selfMagicDnsLabel = some label ∧ ∃ own, config.ownPubkey sdk = some own ∧
            (label, own) = e := by
        simpa [Option.bind_eq_some_iff] using self
      obtain ⟨preferred, named, rfl⟩ := Option.map_eq_some_iff.mp given
      exact ⟨isMagicDnsLabel_uniquify (isMagicDnsLabel_of_normalize named) _, normal_ownPubkey lawful key⟩
    · obtain ⟨key, listed, given⟩ := List.mem_filterMap.mp participant
      obtain ⟨label, found, rfl⟩ := Option.map_eq_some_iff.mp given
      exact ⟨stored _ label found, members key listed⟩
  refine ⟨?_, fun e mem => (entries e mem).1, fun e mem => (entries e mem).2, members⟩
  obtain ⟨value, suffix⟩ := @magicDnsSuffix_ensureDefaults sdk sha256 generated config
  rw [← fixpoint.fields.magicDnsSuffix, suffix]
  exact isSuffixText_normalize value

end Fixpoint

/-! ## The first and the last entry with a name -/

section Agreement
variable {sdk : NostrSdk} {sha256 : Sha256} {lowercase : String → String} {config : AppConfig} {query : String}

/-- The table that inserts the names of the entries in turn. -/
def insertEntry (sha256 : Sha256) (networkId suffix : String) (records : HashMap String Ipv4Addr)
    (entry : String × String) : HashMap String Ipv4Addr :=
  ((MagicDns.address sha256 networkId entry.2).map (insertNames records (names suffix entry.1))).getD records

/-- The loop over the participants inserts their entries. -/
theorem foldl_participants {participants : List String}
    (members : ∀ key ∈ participants, normalPubkey? sdk key = some key) (records : HashMap String Ipv4Addr) :
    participants.foldl (fun records participant =>
      match config.peerAlias sdk participant, MagicDns.address sha256 config.effectiveNetworkId participant with
      | some label, some ip => insertNames records (names config.magicDnsSuffix label) ip
      | _, _ => records) records =
    (participants.filterMap fun participant =>
      (config.peerAliases.lookup (npubForPubkeyHex sdk participant)).map fun label =>
        (label, participant)).foldl
      (insertEntry sha256 config.effectiveNetworkId config.magicDnsSuffix) records := by
  induction participants generalizing records with
  | nil => rfl
  | cons participant rest ih =>
    have alias' : config.peerAlias sdk participant =
        config.peerAliases.lookup (npubForPubkeyHex sdk participant) := by
      rw [AppConfig.peerAlias, members participant (by simp), Option.bind_some]
    rw [List.foldl_cons, ih fun key mem => members key (List.mem_cons_of_mem _ mem), alias', List.filterMap_cons]
    cases config.peerAliases.lookup (npubForPubkeyHex sdk participant) with
    | none => rfl
    | some label =>
      rw [Option.map_some, List.foldl_cons, insertEntry]
      cases MagicDns.address sha256 config.effectiveNetworkId participant with
      | none => rw [Option.map_none, Option.getD_none]
      | some ip => rw [Option.map_some, Option.getD_some]

theorem buildMagicDnsRecords_eq (named : Named sdk config) : buildMagicDnsRecords sdk sha256 config =
    (labelled sdk config).foldl (insertEntry sha256 config.effectiveNetworkId config.magicDnsSuffix) ∅ := by
  rw [buildMagicDnsRecords, labelled, suffix_eq_self named.suffix, List.foldl_append]
  refine (foldl_participants named.members _).trans ?_
  congr 1
  cases config.selfMagicDnsLabel with
  | none => rfl
  | some label =>
    cases config.ownPubkey sdk with
    | none => rfl
    | some own =>
      rw [Option.bind_some, Option.map_some, Option.toList_some, List.foldl_cons, List.foldl_nil, insertEntry]
      dsimp only
      cases MagicDns.address sha256 config.effectiveNetworkId own with
      | none => rw [Option.map_none, Option.getD_none]
      | some ip => rw [Option.map_some, Option.getD_some]

/-- The last entry with the name and an address decides. -/
theorem lookup_foldl_insertEntry (networkId suffix : String) (entries : List (String × String))
    (records : HashMap String Ipv4Addr) :
    (entries.foldl (insertEntry sha256 networkId suffix) records).lookup query =
      (entries.reverse.findSome? fun e => if query ∈ names suffix e.1 then
        MagicDns.address sha256 networkId e.2 else none).or (records.lookup query) := by
  induction entries generalizing records with
  | nil => rfl
  | cons entry rest ih =>
    have first : (insertEntry sha256 networkId suffix records entry).lookup query =
        (if query ∈ names suffix entry.1 then MagicDns.address sha256 networkId entry.2 else none).or
          (records.lookup query) := by
      unfold insertEntry
      cases MagicDns.address sha256 networkId entry.2 with
      | none => simp
      | some ip =>
        rw [Option.map_some, Option.getD_some, lookup_insertNames]
        split_ifs <;> rfl
    rw [List.foldl_cons, ih, first, List.reverse_cons, List.findSome?_append, ← Option.or_assoc]
    simp

/-- The loop over the participants finds the first of their entries with the name. -/
theorem findSome?_participants (text : config.magicDnsSuffix ≠ "") {participants : List String}
    (valid : ∀ key ∈ participants, ∀ label, config.peerAliases.lookup (npubForPubkeyHex sdk key) = some label →
      IsMagicDnsLabel label) :
    (participants.findSome? fun participant =>
      (config.peerAliases.lookup (npubForPubkeyHex sdk participant)).bind fun alias' =>
        if query = alias' then some participant
        else if config.magicDnsSuffix ≠ "" ∧ query = alias' ++ "." ++ config.magicDnsSuffix then some participant
        else none) =
      ((participants.filterMap fun participant =>
        (config.peerAliases.lookup (npubForPubkeyHex sdk participant)).map fun label =>
          (label, participant)).find? fun e => query ∈ names config.magicDnsSuffix e.1).map Prod.snd := by
  induction participants with
  | nil => rfl
  | cons participant rest ih =>
    have rest' := ih fun key mem => valid key (List.mem_cons_of_mem _ mem)
    rw [List.findSome?_cons, rest', List.filterMap_cons]
    cases found : config.peerAliases.lookup (npubForPubkeyHex sdk participant) with
    | none => rfl
    | some label =>
      have mem := @mem_names config.magicDnsSuffix label query (valid participant (by simp) label found) text
      rw [Option.map_some, Option.bind_some]
      dsimp only
      by_cases named' : query ∈ names config.magicDnsSuffix label
      · rw [List.find?_cons_of_pos (by simpa using named'), Option.map_some]
        by_cases plain : query = label
        · rw [if_pos plain]
        · rw [if_neg plain, if_pos ⟨text, (mem.mp named').resolve_left plain⟩]
      · obtain ⟨plain, dotted⟩ := not_or.mp (mem.not.mp named')
        rw [List.find?_cons_of_neg (by simpa using named'), if_neg plain, if_neg fun both => dotted both.2]

/-- The search finds the first entry with the name. -/
theorem resolveMagicDnsQuery_eq (named : Named sdk config) (lower : lowercase query = query)
    (blankless : trim query = query) (dotless : trimEndMatches '.' query = query) :
    resolveMagicDnsQuery sdk lowercase config query =
      ((labelled sdk config).find? fun e => query ∈ names config.magicDnsSuffix e.1).map Prod.snd := by
  have text : config.magicDnsSuffix ≠ "" := fun empty => named.suffix.nonempty (by simp [empty])
  have valid (key : String) (listed : key ∈ config.participantPubkeysHex) (label : String)
      (found : config.peerAliases.lookup (npubForPubkeyHex sdk key) = some label) : IsMagicDnsLabel label := by
    refine named.labels (label, key) (List.mem_append_right _ (List.mem_filterMap.mpr ⟨key, listed, ?_⟩))
    rw [found, Option.map_some]
  have participants := @findSome?_participants sdk config query text _ valid
  unfold resolveMagicDnsQuery
  dsimp only
  rw [blankless, dotless, lower, participants]
  by_cases empty : query = ""
  · have nameless : ∀ e ∈ labelled sdk config, ¬ query ∈ names config.magicDnsSuffix e.1 := by
      intro e mem named'
      have label := named.labels e mem
      rcases (mem_names label text).mp named' with plain | dotted
      · exact nonempty_of_isMagicDnsLabel label (plain.symm.trans empty)
      · have chars := congrArg String.toList (empty.symm.trans dotted)
        simp at chars
    rw [if_pos empty, List.find?_eq_none.mpr (by simpa using nameless), Option.map_none]
  · have self (label : String) (own : config.selfMagicDnsLabel = some label) (key : String)
        (parsed : config.ownPubkey sdk = some key) : IsMagicDnsLabel label := by
      refine named.labels (label, key) (List.mem_append_left _ ?_)
      rw [own, parsed]
      exact List.mem_singleton_self _
    rw [if_neg empty, labelled, List.find?_append]
    cases parsed : config.ownPubkey sdk with
    | none => simp
    | some key =>
      rw [selfMagicDnsName]
      cases own : config.selfMagicDnsLabel with
      | none => simp
      | some label =>
        have mem := @mem_names config.magicDnsSuffix label query (self label own key parsed) text
        rw [Option.map_some, if_neg text, Option.bind_some, Option.map_some, Option.toList_some]
        dsimp only
        by_cases named' : query ∈ names config.magicDnsSuffix label
        · rw [List.find?_cons_of_pos (by simpa using named'), Option.some_or, Option.map_some]
          rcases mem.mp named' with plain | dotted
          · rw [if_pos (congrArg some plain.symm)]
          · rw [if_pos (congrArg some dotted.symm), ite_self]
        · obtain ⟨plain, dotted⟩ := not_or.mp (mem.not.mp named')
          rw [List.find?_cons_of_neg (by simpa using named'), List.find?_nil, Option.none_or,
            if_neg fun same => plain (Option.some.inj same).symm,
            if_neg fun same => dotted (Option.some.inj same).symm]

/-- Only a blank network id leaves a key without an address. -/
theorem address_eq_none_iff (hex : sdk.HexKeys) {key : String} (normal : normalPubkey? sdk key = some key)
    (networkId : String) : MagicDns.address sha256 networkId key = none ↔
      trim (normalizeRuntimeNetworkId networkId) = "" := by
  have filled := trim_ne_of_normal hex normal
  by_cases blank : trim (normalizeRuntimeNetworkId networkId) = ""
  · refine iff_of_true ?_ blank
    rw [MagicDns.address, deriveMeshTunnelIp, if_pos (Or.inl blank), Option.bind_none]
  · refine iff_of_false (fun none' => ?_) blank
    obtain ⟨tunnelIp, derived⟩ : ∃ tunnelIp, deriveMeshTunnelIp sha256 networkId key = some tunnelIp := by
      rw [deriveMeshTunnelIp, if_neg (not_or.mpr ⟨blank, filled⟩)]
      exact ⟨_, rfl⟩
    obtain ⟨ip, eq, -⟩ := address_of_derive derived
    rw [none'] at eq
    cases eq

/-- The table leads to the last entry with the name. -/
theorem lookup_records_eq (hex : sdk.HexKeys) (named : Named sdk config) :
    (buildMagicDnsRecords sdk sha256 config).lookup query =
      ((labelled sdk config).reverse.find? fun e => query ∈ names config.magicDnsSuffix e.1).bind fun e =>
        MagicDns.address sha256 config.effectiveNetworkId e.2 := by
  rw [buildMagicDnsRecords_eq named, lookup_foldl_insertEntry, AList.lookup_empty, Option.or_none]
  have keys : ∀ e ∈ (labelled sdk config).reverse, normalPubkey? sdk e.2 = some e.2 :=
    fun e mem => named.keys e (List.mem_reverse.mp mem)
  generalize (labelled sdk config).reverse = entries at keys
  induction entries with
  | nil => rfl
  | cons e rest ih =>
    have rest' := ih fun e mem => keys e (List.mem_cons_of_mem _ mem)
    rw [List.findSome?_cons, rest']
    by_cases here : query ∈ names config.magicDnsSuffix e.1
    · rw [List.find?_cons_of_pos (by simpa using here), if_pos here, Option.bind_some]
      cases found : MagicDns.address sha256 config.effectiveNetworkId e.2 with
      | some ip => rfl
      | none =>
        have blank := (address_eq_none_iff hex (keys e (by simp)) _).mp found
        dsimp only
        refine Option.bind_eq_none_iff.mpr fun e' found' => ?_
        exact (address_eq_none_iff hex (keys e' (List.mem_cons_of_mem _ (List.mem_of_find?_eq_some found'))) _).mpr
          blank
    · rw [List.find?_cons_of_neg (by simpa using here), if_neg here]

/-- The entries with a name are those with its label. -/
theorem find?_names {suffix label : String} (valid : IsMagicDnsLabel label) (text : suffix ≠ "")
    (mem : query ∈ names suffix label) {entries : List (String × String)}
    (labels : ∀ e ∈ entries, IsMagicDnsLabel e.1) :
    (entries.find? fun e => query ∈ names suffix e.1) = entries.find? fun e => e.1 = label := by
  refine List.find?_congr fun e listed => decide_eq_decide.mpr ⟨fun named => ?_, ?_⟩
  · exact (label_of_mem_names (labels e listed) text named).symm.trans (label_of_mem_names valid text mem)
  · rintro rfl
    exact mem

end Agreement

/-- In a fixpoint of `ensure_defaults` the two resolvers agree on every name exactly when the network id gives
addresses and the labels tell the addresses apart. -/
theorem resolvers_agree_iff {sdk : NostrSdk} (lawful : sdk.Lawful) (hex : sdk.HexKeys) (sha256 : Sha256)
    (generated : Generated) {lowercase : String → String}
    (plain : ∀ text : String, (∀ c ∈ text.toList, isLabelChar c ∨ c = '.') → lowercase text = text)
    {config : AppConfig} (fixpoint : IsFixpoint sdk sha256 generated config) :
    (∀ query, lowercase query = query → trim query = query → trimEndMatches '.' query = query →
      ResolversAgree sdk sha256 lowercase config query) ↔ LabelsTell sdk sha256 config := by
  have named := named_of_fixpoint lawful hex fixpoint
  have text : config.magicDnsSuffix ≠ "" := fun empty => named.suffix.nonempty (by simp [empty])
  have labels : ∀ e ∈ (labelled sdk config).reverse, IsMagicDnsLabel e.1 :=
    fun e mem => named.labels e (List.mem_reverse.mp mem)
  constructor
  · intro agree
    -- a label is a name of its own
    have ask (e : String × String) (mem : e ∈ labelled sdk config) :
        ResolversAgree sdk sha256 lowercase config e.1 ∧
          resolveMagicDnsQuery sdk lowercase config e.1 =
            ((labelled sdk config).find? fun e' => e'.1 = e.1).map Prod.snd ∧
          (buildMagicDnsRecords sdk sha256 config).lookup e.1 =
            ((labelled sdk config).reverse.find? fun e' => e'.1 = e.1).bind fun e =>
              MagicDns.address sha256 config.effectiveNetworkId e.2 := by
      have valid := named.labels e mem
      have normal := isSuffixText_of_label valid
      have lower := plain e.1 normal.chars
      have blankless := trim_eq_self fun c mem => isWhitespace_of_suffixChar (normal.chars c mem)
      have dotless := (trimDots_of_suffixText normal).2
      have own := (mem_names valid text).mpr (Or.inl rfl)
      refine ⟨agree e.1 lower blankless dotless, ?_, ?_⟩
      · rw [resolveMagicDnsQuery_eq named lower blankless dotless, find?_names valid text own named.labels]
      · rw [lookup_records_eq hex named, find?_names valid text own labels]
    have derived : labelled sdk config = [] ∨
        trim (normalizeRuntimeNetworkId config.effectiveNetworkId) ≠ "" := by
      refine or_iff_not_imp_left.mpr fun some' blank => ?_
      obtain ⟨e, mem⟩ := List.exists_mem_of_ne_nil _ some'
      obtain ⟨⟨known, -⟩, resolved, looked⟩ := ask e mem
      have found : ((labelled sdk config).find? fun e' => e'.1 = e.1).isSome :=
        List.find?_isSome.mpr ⟨e, mem, by simp⟩
      have none' : (buildMagicDnsRecords sdk sha256 config).lookup e.1 = none := by
        refine looked.trans (Option.bind_eq_none_iff.mpr fun last found => ?_)
        have listed := List.mem_reverse.mp (List.mem_of_find?_eq_some found)
        exact (address_eq_none_iff hex (named.keys last listed) _).mpr blank
      rw [resolved, none', Option.isSome_map] at known
      exact absurd (known.mp found) (by simp)
    refine ⟨derived, fun label first last found found' => ?_⟩
    have mem := List.mem_of_find?_eq_some found
    have mem' := List.mem_reverse.mp (List.mem_of_find?_eq_some found')
    obtain rfl : first.1 = label := by simpa using List.find?_some found
    obtain ⟨⟨-, address⟩, resolved, looked⟩ := ask first mem
    rw [found, Option.map_some] at resolved
    rw [found', Option.bind_some] at looked
    cases given : MagicDns.address sha256 config.effectiveNetworkId last.2 with
    | some ip => exact address first.2 ip resolved (looked.trans given)
    | none =>
      have blank := (address_eq_none_iff hex (named.keys last mem') _).mp given
      exact (address_eq_none_iff hex (named.keys first mem) _).mpr blank
  · rintro ⟨derived, single⟩ query lower blankless dotless
    have resolved := resolveMagicDnsQuery_eq named lower blankless dotless
    have looked := @lookup_records_eq sdk sha256 config query hex named
    cases found : (labelled sdk config).find? fun e => query ∈ names config.magicDnsSuffix e.1 with
    | none =>
      have none' : ((labelled sdk config).reverse.find? fun e => query ∈ names config.magicDnsSuffix e.1) = none :=
        List.find?_eq_none.mpr fun e mem => List.find?_eq_none.mp found e (List.mem_reverse.mp mem)
      rw [found, Option.map_none] at resolved
      rw [none', Option.bind_none] at looked
      exact ⟨by simp [resolved, looked], fun member ip known => by rw [resolved] at known; cases known⟩
    | some first =>
      have mem := List.mem_of_find?_eq_some found
      have valid := named.labels first mem
      have own : query ∈ names config.magicDnsSuffix first.1 := by simpa using List.find?_some found
      have nonblank := derived.resolve_left (List.ne_nil_of_mem mem)
      obtain ⟨last, found'⟩ : ∃ last, ((labelled sdk config).reverse.find? fun e => e.1 = first.1) = some last :=
        Option.isSome_iff_exists.mp (List.find?_isSome.mpr ⟨first, List.mem_reverse.mpr mem, by simp⟩)
      have mem' := List.mem_reverse.mp (List.mem_of_find?_eq_some found')
      have one := single first.1 first last ((find?_names valid text own named.labels).symm.trans found) found'
      obtain ⟨ip, given⟩ : ∃ ip, MagicDns.address sha256 config.effectiveNetworkId last.2 = some ip :=
        Option.ne_none_iff_exists'.mp ((address_eq_none_iff hex (named.keys last mem') _).not.mpr nonblank)
      rw [found, Option.map_some] at resolved
      rw [find?_names valid text own labels, found', Option.bind_some, given] at looked
      refine ⟨by simp [resolved, looked], fun member ip' known entry => ?_⟩
      obtain rfl : first.2 = member := Option.some.inj (resolved.symm.trans known)
      exact (one.trans given).trans (looked.symm.trans entry)

/-! ## A network id of the bare prefix -/

/-- A loaded configuration with one other participant. -/
def loadedNetwork (networkId : String) : AppConfig :=
  .load sampleSdk sampleSha256 sampleGenerated sampleRosterConfig
    [{ id := "network-1", name := "Home", networkId, admins := samplePubkeys.take 1
       participants := ["c6047f9441ed7d6d3045406e95c07cd85c778e4b8cef3ca7abac09b95c709ee5"] }]

theorem isFixpoint_loadedNetwork {networkId : String} (mem : networkId ∈ ["mesh-home", "nostr-vpn:"]) :
    IsFixpoint sampleSdk sampleSha256 sampleGenerated (loadedNetwork networkId) := by
  have fields : ∀ networkId ∈ ["mesh-home", "nostr-vpn:"],
      let config := loadedNetwork networkId
      let config' := config.ensureDefaults sampleSdk sampleSha256 sampleGenerated
      (config'.networks = config.networks ∧ config'.nodeName = config.nodeName ∧
        config'.usePublicRelayFallback = config.usePublicRelayFallback ∧
        config'.relayForOthers = config.relayForOthers ∧ config'.provideNatAssist = config.provideNatAssist ∧
        config'.launchOnStartup = config.launchOnStartup ∧ config'.autoconnect = config.autoconnect) ∧
      config'.exitNode = config.exitNode ∧ config'.closeToTrayOnClose = config.closeToTrayOnClose ∧
        config'.magicDnsSuffix = config.magicDnsSuffix ∧
        config'.peerAliases.toList = config.peerAliases.toList ∧ config'.nat = config.nat ∧
        config'.nostr = config.nostr ∧ config'.node = config.node := by
    decide +kernel
  obtain ⟨⟨networks, name, fallback, relay, assist, startup, connect⟩,
    exit, tray, suffix, aliases, nat, nostr, node⟩ := fields networkId mem
  refine ⟨networks, name, fallback, relay, assist, startup, connect, exit, tray, suffix, fun key => ?_, nat,
    nostr, node⟩
  refine Option.ext fun label => ?_
  rw [← HashMap.mem_toList, aliases, HashMap.mem_toList]

theorem resolvers_agree_home :
    (∀ query, toAsciiLowercase query = query → trim query = query → trimEndMatches '.' query = query →
      ResolversAgree sampleSdk sampleSha256 toAsciiLowercase (loadedNetwork "mesh-home") query) ↔
      LabelsTell sampleSdk sampleSha256 (loadedNetwork "mesh-home") :=
  resolvers_agree_iff sampleSdk_lawful sampleSdk_hexKeys sampleSha256 sampleGenerated
    (fun _ => toAsciiLowercase_of_suffixText) (isFixpoint_loadedNetwork (by simp))

/-- With the bare prefix as its network id the search finds the node, and the server does not. -/
theorem bare_prefix_hides_names :
    IsFixpoint sampleSdk sampleSha256 sampleGenerated (loadedNetwork "nostr-vpn:") ∧
      ¬ ∀ query, toAsciiLowercase query = query → trim query = query → trimEndMatches '.' query = query →
        ResolversAgree sampleSdk sampleSha256 toAsciiLowercase (loadedNetwork "nostr-vpn:") query := by
  refine ⟨isFixpoint_loadedNetwork (by simp), fun all => ?_⟩
  have agree := all "leopard" (by decide +kernel) (by decide +kernel) (by decide +kernel)
  have found : (resolveMagicDnsQuery sampleSdk toAsciiLowercase (loadedNetwork "nostr-vpn:")
      "leopard").isSome = true := by
    decide +kernel
  have missing : ((buildMagicDnsRecords sampleSdk sampleSha256 (loadedNetwork "nostr-vpn:")).lookup
      "leopard").isSome = false := by
    decide +kernel
  rw [agree.known, missing] at found
  cases found

end NostrVpn.Invite
