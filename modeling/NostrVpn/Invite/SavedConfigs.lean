import NostrVpn.Core.ConfigFile
import NostrVpn.Invite.DefaultedTwice
import NostrVpn.Rust.Replace

/-!
# Saved configurations

A saved configuration is loaded again as it was when its members have labels of their own. Saving assigns the
labels in the order of the npubs, and so it may give another member the label that two of them share.
-/
namespace NostrVpn.Invite

open Rust NostrVpn.Core

-- Terms with texts are compared without reading the texts.
attribute [local irreducible] String.toList

/-- The secret key and the public key are those of one identity. -/
def HasKeyPair (sdk : NostrSdk) (config : AppConfig) : Prop :=
  ∃ key, sdk.publicKeyOfSecret config.nostr.secretKey = .ok key ∧ normalPubkey? sdk config.nostr.publicKey = some key

/-- What is loaded has the persisted fields of the configuration, but for the form of the own key and the order of
the table of aliases. The fields that are not persisted have their defaults. -/
structure SameAsKeys (sdk : NostrSdk) (loaded config : AppConfig) : Prop where
  autoDisconnect : loaded.autoDisconnectRelaysWhenMeshReady = false
  lanDiscovery : loaded.lanDiscoveryEnabled = true
  networks : loaded.networks = config.networks
  publicKey : normalPubkey? sdk loaded.nostr.publicKey = normalPubkey? sdk config.nostr.publicKey
  fields : SameFile { loaded with nostr := { loaded.nostr with publicKey := config.nostr.publicKey } } config

section Saved
variable {sdk : NostrSdk} {sha256 : Sha256} {generated : Generated} {config config' : AppConfig} {key : String}

/-! ## The npubs of the members -/

theorem npubForPubkeyHex_npub (lawful : sdk.Lawful) (npubs : sdk.Npubs) (normal : normalPubkey? sdk key = some key) :
    npubForPubkeyHex sdk (npubForPubkeyHex sdk key) = npubForPubkeyHex sdk key := by
  have hex := normalPubkey?_eq_some.mp normal
  obtain ⟨npub, form, -, -⟩ := npubs.total hex
  have same : npubForPubkeyHex sdk key = npub := by
    simp [npubForPubkeyHex, lawful.from_parsed hex, form]
  rw [same]
  cases known : sdk.publicKeyFromHex npub with
  | none => simp [npubForPubkeyHex, known]
  | some other =>
    have one : other = key := by
      have parsed := lawful.from_hex known
      rw [lawful.parse_bech32 hex form] at parsed
      exact (Except.ok.inj parsed).symm
    simp [npubForPubkeyHex, known, one, form]

theorem canonicalNpubKey_normal (normal : normalPubkey? sdk key = some key) :
    canonicalNpubKey sdk key = some (npubForPubkeyHex sdk key) := by
  rw [canonicalNpubKey, normal, Option.map_some]

theorem trim_npub (lawful : sdk.Lawful) (npubs : sdk.Npubs) (normal : normalPubkey? sdk key = some key) :
    trim (npubForPubkeyHex sdk key) = npubForPubkeyHex sdk key := by
  have hex := normalPubkey?_eq_some.mp normal
  obtain ⟨npub, form, -, plain⟩ := npubs.total hex
  have same : npubForPubkeyHex sdk key = npub := by
    simp [npubForPubkeyHex, lawful.from_parsed hex, form]
  rw [same, plain]

/-- The members of the canonical form are the npubs of the members. -/
theorem mem_allMembers_canonical (normal : ∀ member ∈ config.allNetworkMemberPubkeysHex,
      normalPubkey? sdk member = some member)
    (networks : config'.networks = config.networks.map (NetworkConfig.canonicalize sdk)) {npub : String} :
    npub ∈ config'.allNetworkMemberPubkeysHex ↔
      npub ∈ config.allNetworkMemberPubkeysHex.map (npubForPubkeyHex sdk) := by
  simp only [AppConfig.allNetworkMemberPubkeysHex, mem_sortDedup, List.mem_flatMap, List.mem_map] at normal ⊢
  simp only [networks, List.mem_map]
  constructor
  · rintro ⟨_, ⟨network, mem, rfl⟩, member⟩
    simp only [NetworkConfig.canonicalize, List.mem_append, mem_sortDedup, List.mem_filterMap] at member
    obtain ⟨text, listed, form⟩ | ⟨text, listed, form⟩ := member
    · have keys := normal text ⟨network, mem, List.mem_append_left _ listed⟩
      rw [canonicalNpubKey_normal keys] at form
      exact ⟨text, ⟨network, mem, List.mem_append_left _ listed⟩, Option.some.inj form⟩
    · have keys := normal text ⟨network, mem, List.mem_append_right _ listed⟩
      rw [canonicalNpubKey_normal keys] at form
      exact ⟨text, ⟨network, mem, List.mem_append_right _ listed⟩, Option.some.inj form⟩
  · rintro ⟨text, ⟨network, mem, member⟩, rfl⟩
    have form := canonicalNpubKey_normal (normal text ⟨network, mem, member⟩)
    refine ⟨_, ⟨network, mem, rfl⟩, ?_⟩
    simp only [NetworkConfig.canonicalize, List.mem_append, mem_sortDedup, List.mem_filterMap] at member ⊢
    exact member.imp (fun listed => ⟨text, listed, form⟩) fun listed => ⟨text, listed, form⟩

/-! ## Labels that are given again -/

/-- A loop over members that have labels of their own gives them these labels. -/
theorem lookup_foldl_of_labels {members : List String}
    {acc : HashMap String String × List String × HashMap String String}
    (distinct : (members.map (npubForPubkeyHex sdk)).Nodup)
    (labels : ∀ member ∈ members, ∃ label, acc.1.lookup (npubForPubkeyHex sdk member) = some label ∧ label ≠ "" ∧
      label ∉ acc.2.1)
    (apart : ∀ member ∈ members, ∀ other ∈ members, acc.1.lookup (npubForPubkeyHex sdk member) =
      acc.1.lookup (npubForPubkeyHex sdk other) → npubForPubkeyHex sdk member = npubForPubkeyHex sdk other)
    {member : String} (mem : member ∈ members) :
    (members.foldl (AppConfig.assignAlias sdk sha256) acc).2.2.lookup (npubForPubkeyHex sdk member) =
      acc.1.lookup (npubForPubkeyHex sdk member) := by
  induction members generalizing acc with
  | nil => cases mem
  | cons first rest ih =>
    rw [List.map_cons, List.nodup_cons] at distinct
    obtain ⟨label, stored, filled, free⟩ := labels first (by simp)
    have preferred : preferredAlias sdk sha256 acc first = label := by
      rw [preferredAlias, stored, Option.getD_some]
    have kept : uniquifyMagicDnsLabel label acc.2.1 = (label, label :: acc.2.1) := by
      rw [uniquifyMagicDnsLabel, if_neg filled, if_pos free]
    have step : AppConfig.assignAlias sdk sha256 acc first =
        (acc.1.erase (npubForPubkeyHex sdk first), label :: acc.2.1,
          acc.2.2.insert (npubForPubkeyHex sdk first) label) := by
      rw [assignAlias_eq, preferred, kept]
    have other (key : String) (listed : key ∈ rest) : npubForPubkeyHex sdk key ≠ npubForPubkeyHex sdk first :=
      fun same => distinct.1 (same ▸ List.mem_map_of_mem listed)
    rw [List.foldl_cons, step]
    rcases List.mem_cons.mp mem with rfl | listed
    · rw [lookup_foldl_assignAlias distinct.1, stored]
      exact AList.lookup_insert _
    · have erased (key : String) (listed : key ∈ rest) :
          (acc.1.erase (npubForPubkeyHex sdk first)).lookup (npubForPubkeyHex sdk key) =
            acc.1.lookup (npubForPubkeyHex sdk key) := AList.lookup_erase_ne (other key listed)
      rw [ih distinct.2 ?_ ?_ listed, erased member listed]
      · intro key listed
        obtain ⟨label', stored', filled', free'⟩ := labels key (by simp [listed])
        refine ⟨label', (erased key listed).trans stored', filled', ?_⟩
        rw [List.mem_cons, not_or]
        refine ⟨fun same => other key listed (apart key (by simp [listed]) first (by simp) ?_), free'⟩
        rw [stored', stored, same]
      · intro key listed key' listed' same
        dsimp only at same
        rw [erased key listed, erased key' listed'] at same
        exact apart key (by simp [listed]) key' (by simp [listed']) same

/-- Members that have labels of their own are given these labels again, in whatever order they come. -/
theorem sameEntries_normalizePeerAliases (lawful : sdk.Lawful) (npubs : sdk.Npubs) {aliases : HashMap String String}
    {own : Option String} {members : List String} (table : AliasTable sdk aliases own members)
    (normal : ∀ member ∈ members, normalPubkey? sdk member = some member)
    (same : SameEntries config.peerAliases aliases) (self : config.preferredSelfMagicDnsLabel = own)
    (order : (config.allNetworkMemberPubkeysHex.map (npubForPubkeyHex sdk)).Perm
      (members.map (npubForPubkeyHex sdk))) :
    SameEntries (config.normalizePeerAliases sdk sha256).peerAliases aliases := by
  have listed (key : String) : key ∈ aliases.toList.map Prod.fst ↔
      key ∈ config.allNetworkMemberPubkeysHex.map (npubForPubkeyHex sdk) :=
    (table.members.trans order.symm).mem_iff
  have names : ∀ entry ∈ config.peerAliases.toList, storedName sdk entry = some entry := by
    rintro ⟨key, label⟩ mem
    have found := HashMap.mem_toList.mpr ((same key).symm.trans (HashMap.mem_toList.mp mem))
    obtain ⟨member, mem', eq⟩ := List.mem_map.mp (table.members.mem_iff.mp (List.mem_map_of_mem found))
    dsimp only at eq
    subst eq
    have npub := normalizeNpubKey_npub lawful npubs (normal member mem')
    have valid : normalizeMagicDnsLabel label = some label := table.valid _ found
    simp [storedName, npub, valid]
  have stored (key : String) : (storedAliases sdk config.peerAliases).lookup key = aliases.lookup key :=
    (storedAliases_of_names names key).trans (same key)
  have distinct : (config.allNetworkMemberPubkeysHex.map (npubForPubkeyHex sdk)).Nodup :=
    (order.trans table.members.symm).nodup_iff.mpr (HashMap.nodup_keys_toList aliases)
  have labels (member : String) (mem : member ∈ config.allNetworkMemberPubkeysHex) : ∃ label,
      (npubForPubkeyHex sdk member, label) ∈ aliases.toList := by
    obtain ⟨⟨key, label⟩, found, eq⟩ := List.mem_map.mp ((listed _).mpr (List.mem_map_of_mem mem))
    dsimp only at eq
    exact ⟨label, eq ▸ found⟩
  intro key
  by_cases member : key ∈ config.allNetworkMemberPubkeysHex.map (npubForPubkeyHex sdk)
  · obtain ⟨member, mem, rfl⟩ := List.mem_map.mp member
    rw [← stored]
    refine lookup_foldl_of_labels distinct (fun other listed' => ?_) (fun other listed' other' listed'' eq => ?_) mem
    · obtain ⟨label, found⟩ := labels other listed'
      refine ⟨label, (stored _).trans (HashMap.mem_toList.mp found),
        nonempty_of_isMagicDnsLabel (table.valid _ found), fun used => ?_⟩
      rw [self, Option.mem_toList] at used
      exact table.others label used (List.mem_map_of_mem found)
    · obtain ⟨label, found⟩ := labels other listed'
      obtain ⟨label', found'⟩ := labels other' listed''
      have same' := (stored _).symm.trans (eq.trans (stored _))
      rw [HashMap.mem_toList.mp found, HashMap.mem_toList.mp found'] at same'
      have one := List.inj_on_of_nodup_map table.distinct found found' (Option.some.inj same')
      exact congrArg Prod.fst one
  · have none' : (config.normalizePeerAliases sdk sha256).peerAliases.lookup key = none :=
      lookup_foldl_assignAlias member
    cases found : aliases.lookup key with
    | none => exact none'
    | some label =>
      exact absurd ((listed key).mp (List.mem_map.mpr ⟨(key, label), HashMap.mem_toList.mpr found, rfl⟩)) member

/-! ## What the defaults depend on -/

theorem filled_of_normal {text : String} (npubs : sdk.Npubs) (normal : normalPubkey? sdk text = some key) :
    isBlank text = false := npubs.filled (normalPubkey?_eq_some.mp normal)

theorem ensureNostrIdentity_of_keyPair (npubs : sdk.Npubs) (pair : HasKeyPair sdk config) :
    config.ensureNostrIdentity sdk generated = config := by
  obtain ⟨key, secret, normal⟩ := pair
  rw [AppConfig.ensureNostrIdentity, npubs.secret_filled secret, if_neg Bool.false_ne_true, secret]
  dsimp only
  rw [filled_of_normal npubs normal, if_neg Bool.false_ne_true]

theorem ownPubkey_of_normal (normal : normalPubkey? sdk config.nostr.publicKey = some key) :
    config.ownPubkey sdk = some key := by
  rw [AppConfig.ownPubkey, AppConfig.ownNostrPubkeyHex, normalizeNostrPubkey_eq_ok.mpr (normalPubkey?_eq_some.mp normal)]
  rfl

/-- The settings that `ensure_defaults` never writes. -/
def switches (config : AppConfig) : Bool × Bool × Bool × Bool × Bool × Bool × Bool × NatConfig :=
  (config.usePublicRelayFallback, config.relayForOthers, config.provideNatAssist, config.lanDiscoveryEnabled,
    config.launchOnStartup, config.autoconnect, config.closeToTrayOnClose, config.nat)

theorem switches_ensureDefaults (config : AppConfig) :
    switches (config.ensureDefaults sdk sha256 generated) = switches config := by
  have last (config : AppConfig) : switches (config.normalizePeerAliases sdk sha256) = switches config := rfl
  have exitNode (config : AppConfig) : switches config.normalizeSelectedExitNode = switches config := by
    rw [normalizeSelectedExitNode_eq]
    rfl
  have networks (own : Option String) (config : AppConfig) : switches ((((config.ensureExitNode sdk
      ).ensureNetworkList sdk own).ensureSingleActiveNetwork).deriveDefaultNetworkIds sdk sha256) =
        switches config := rfl
  have fields (own : Option String) (config : AppConfig) :
      switches (config.ensureFields sha256 generated own) = switches config := by
    rw [ensureFields_eq]
    rfl
  have identity (config : AppConfig) : switches (config.ensureNostrIdentity sdk generated) = switches config := by
    unfold AppConfig.ensureNostrIdentity
    dsimp only
    split_ifs
    · rfl
    · split <;> rfl
    · split <;> rfl
  unfold AppConfig.ensureDefaults
  dsimp only
  rw [last, exitNode, networks, fields, identity]

theorem activeMembers_congr (same : config.networks = config'.networks) :
    config.activeNetworkSignalPubkeysHex = config'.activeNetworkSignalPubkeysHex := by
  have active := activeOf_networks config
  rw [same, activeOf_networks config'] at active
  rw [AppConfig.activeNetworkSignalPubkeysHex, AppConfig.activeNetworkSignalPubkeysHex, Option.some.inj active]

/-- The exit node that the defaults leave, by the key that it denotes and the members of the active network. -/
theorem exitNode_eq (known : config.ensureNostrIdentity sdk generated = config)
    (denotes : (if config.ownPubkey sdk = some ((normalPubkey? sdk (trim config.exitNode)).getD "") then ""
      else (normalPubkey? sdk (trim config.exitNode)).getD "") = key) :
    (config.ensureDefaults sdk sha256 generated).exitNode =
      if key = "" ∨ key ∈ (config.ensureDefaults sdk sha256 generated).activeNetworkSignalPubkeysHex then key
      else "" := by
  have same (config : AppConfig) : (config.normalizeSelectedExitNode.normalizePeerAliases sdk sha256
      ).activeNetworkSignalPubkeysHex = config.activeNetworkSignalPubkeysHex :=
    activeMembers_congr (by simp)
  have exitNode (config : AppConfig) : (config.normalizeSelectedExitNode.normalizePeerAliases sdk sha256).exitNode =
      if config.exitNode = "" ∨ config.exitNode ∈ config.activeNetworkSignalPubkeysHex then config.exitNode
      else "" := by
    rw [normalizeSelectedExitNode_eq]
    rfl
  have stages (own : Option String) : ((((config.ensureFields sha256 generated own).ensureExitNode sdk
      ).ensureNetworkList sdk own).ensureSingleActiveNetwork.deriveDefaultNetworkIds sdk sha256).exitNode = key := by
    rw [← denotes, ensureFields_eq]
    rfl
  unfold AppConfig.ensureDefaults
  dsimp only
  rw [known, same, exitNode, stages]

/-- Configurations that have the same networks with their defaults get the same exit node. -/
theorem exitNode_congr {generated' : Generated} (own : config.ownPubkey sdk = config'.ownPubkey sdk)
    (known : config.ensureNostrIdentity sdk generated = config)
    (known' : config'.ensureNostrIdentity sdk generated' = config')
    (networks : (config.ensureDefaults sdk sha256 generated).networks =
      (config'.ensureDefaults sdk sha256 generated').networks)
    (exitNode : normalPubkey? sdk (trim config.exitNode) = normalPubkey? sdk (trim config'.exitNode)) :
    (config.ensureDefaults sdk sha256 generated).exitNode =
      (config'.ensureDefaults sdk sha256 generated').exitNode := by
  rw [exitNode_eq known rfl, exitNode_eq known' rfl, own, exitNode, activeMembers_congr networks]

/-- Networks in their canonical form get the same defaults. -/
theorem networks_canonical {generated' : Generated} (lawful : sdk.Lawful) (npubs : sdk.Npubs)
    (own : config.ownPubkey sdk = config'.ownPubkey sdk)
    (known : config.ensureNostrIdentity sdk generated = config)
    (known' : config'.ensureNostrIdentity sdk generated' = config')
    (networks : config.networks = config'.networks.map (NetworkConfig.canonicalize sdk)) :
    (config.ensureDefaults sdk sha256 generated).networks =
      (config'.ensureDefaults sdk sha256 generated').networks := by
  have index : activeIndex config = activeIndex config' := by
    refine activeIndex_congr ?_
    rw [networks, List.map_map]
    rfl
  rw [networks_ensureDefaults, networks_ensureDefaults, known, known', own, index, networks,
    ensureNetworks_canonicalize lawful npubs]

/-! ## Saving and loading -/

/-- The exit node of a configuration with its defaults is read from its canonical form. -/
theorem exitNode_canonical (lawful : sdk.Lawful) (npubs : sdk.Npubs) (hex : sdk.HexKeys) {exitNode : String}
    (left : exitNode = "" ∨ normalPubkey? sdk exitNode = some exitNode) :
    normalPubkey? sdk (trim ((canonicalNpubKey sdk exitNode).getD "")) = normalPubkey? sdk (trim exitNode) := by
  rcases left with rfl | normal
  · rw [canonicalNpubKey, normalPubkey?_empty npubs]
    rfl
  · rw [canonicalNpubKey_normal normal, Option.getD_some, trim_npub lawful npubs normal, normalPubkey?_npub lawful,
      trim_of_normal hex normal]

theorem normalMembers_of_networks (lawful : sdk.Lawful)
    (networks : (config.ensureDefaults sdk sha256 generated).networks = config.networks) :
    ∀ member ∈ config.allNetworkMemberPubkeysHex, normalPubkey? sdk member = some member :=
  normal_of_allMembers (networks ▸ normalMembers_ensureDefaults lawful generated config)

/-- Saving keeps the table in which every member has a label of its own. -/
theorem sameEntries_canonicalize (lawful : sdk.Lawful) (npubs : sdk.Npubs)
    (normal : ∀ member ∈ config.allNetworkMemberPubkeysHex, normalPubkey? sdk member = some member)
    (labelled : AliasInvariant sdk config) {filled : AppConfig} (networks : filled.networks = config.networks)
    (named : filled.nodeName = config.nodeName) (same : SameEntries filled.peerAliases config.peerAliases) :
    SameEntries (filled.canonicalizeUserFacingPubkeys sdk sha256).peerAliases config.peerAliases := by
  refine sameEntries_normalizePeerAliases lawful npubs labelled normal same ?_ ?_
  · rw [AppConfig.preferredSelfMagicDnsLabel, AppConfig.preferredSelfMagicDnsLabel, named]
  · generalize eq : ({ filled with
      nostr := { filled.nostr with publicKey := (canonicalNpubKey sdk filled.nostr.publicKey).getD "" }
      exitNode := (canonicalNpubKey sdk filled.exitNode).getD ""
      networks := filled.networks.map (NetworkConfig.canonicalize sdk)
      networks_ne := by simpa using filled.networks_ne } : AppConfig) = canonical
    have made : canonical.networks = config.networks.map (NetworkConfig.canonicalize sdk) := by
      rw [← eq]
      exact congrArg _ networks
    have members (npub : String) : npub ∈ canonical.allNetworkMemberPubkeysHex ↔
        npub ∈ config.allNetworkMemberPubkeysHex.map (npubForPubkeyHex sdk) :=
      mem_allMembers_canonical normal made
    have kept : canonical.allNetworkMemberPubkeysHex.map (npubForPubkeyHex sdk) =
        canonical.allNetworkMemberPubkeysHex := by
      refine (List.map_congr_left fun npub mem => ?_).trans (List.map_id _)
      obtain ⟨member, listed, rfl⟩ := List.mem_map.mp ((members npub).mp mem)
      exact npubForPubkeyHex_npub lawful npubs (normal member listed)
    rw [kept]
    exact (List.perm_ext_iff_of_nodup (nodup_sortDedup _) (nodup_npubs lawful normal (nodup_sortDedup _))).mpr members

/-- The fields of a configuration in their canonical form. -/
def CanonicalFields (sdk : NostrSdk) (fields config : AppConfig) : Prop :=
  SameFile fields { config with
    nostr := { config.nostr with publicKey := (canonicalNpubKey sdk config.nostr.publicKey).getD "" }
    exitNode := (canonicalNpubKey sdk config.exitNode).getD "" }

/-- The defaults of the canonical form of a configuration with its defaults are the configuration. -/
theorem sameAsKeys_ensureDefaults (lawful : sdk.Lawful) (npubs : sdk.Npubs) (hex : sdk.HexKeys)
    (pair : HasKeyPair sdk config) (fixpoint : IsFixpoint sdk sha256 generated config)
    (labelled : AliasInvariant sdk config) {fields : AppConfig} (canonical : CanonicalFields sdk fields config)
    (networks : fields.networks = config.networks.map (NetworkConfig.canonicalize sdk))
    (lan : fields.lanDiscoveryEnabled = true) :
    SameAsKeys sdk (fields.ensureDefaults sdk sha256 generated) config := by
  have normal := normalMembers_of_networks lawful fixpoint.networks
  have exitNode : config.exitNode = "" ∨ normalPubkey? sdk config.exitNode = some config.exitNode := by
    rw [← fixpoint.fields.exitNode]
    exact (exitNode_ensureDefaults lawful config).imp_right And.left
  have nostr : fields.nostr = { config.nostr with
    publicKey := (canonicalNpubKey sdk config.nostr.publicKey).getD "" } := canonical.nostr
  have publicKey : normalPubkey? sdk fields.nostr.publicKey = normalPubkey? sdk config.nostr.publicKey := by
    rw [nostr]
    exact normalPubkey?_canonical lawful npubs _
  have pair' : HasKeyPair sdk fields := by
    obtain ⟨key, secret, own⟩ := pair
    exact ⟨key, by rw [nostr]; exact secret, publicKey.trans own⟩
  have known : config.ensureNostrIdentity sdk generated = config := ensureNostrIdentity_of_keyPair npubs pair
  have known' : fields.ensureNostrIdentity sdk generated = fields := ensureNostrIdentity_of_keyPair npubs pair'
  have own : fields.ownPubkey sdk = config.ownPubkey sdk := by
    obtain ⟨key, -, own⟩ := pair
    rw [ownPubkey_of_normal own, ownPubkey_of_normal (publicKey.trans own)]
  have filled : SameFields ((config.ensureNostrIdentity sdk generated).ensureFields sha256 generated
      ((config.ensureNostrIdentity sdk generated).ownPubkey sdk)) (config.ensureDefaults sdk sha256 generated) :=
    sameFields_ensureDefaults config
  have filled' : SameFields ((fields.ensureNostrIdentity sdk generated).ensureFields sha256 generated
      ((fields.ensureNostrIdentity sdk generated).ownPubkey sdk)) (fields.ensureDefaults sdk sha256 generated) :=
    sameFields_ensureDefaults fields
  have made : (fields.ensureDefaults sdk sha256 generated).networks =
      (config.ensureDefaults sdk sha256 generated).networks :=
    networks_canonical lawful npubs own known' known networks
  have exits (denotes : normalPubkey? sdk (trim fields.exitNode) = normalPubkey? sdk (trim config.exitNode)) :
      (fields.ensureDefaults sdk sha256 generated).exitNode = (config.ensureDefaults sdk sha256 generated).exitNode :=
    exitNode_congr own known' known made denotes
  have switched : switches (fields.ensureDefaults sdk sha256 generated) = switches fields :=
    switches_ensureDefaults fields
  obtain ⟨pre, ends, stored⟩ : ∃ pre : AppConfig, pre.normalizeSelectedExitNode.normalizePeerAliases sdk sha256 =
      fields.ensureDefaults sdk sha256 generated ∧ pre.peerAliases = fields.peerAliases :=
    ensureDefaults_eq generated fields
  rw [known] at filled
  rw [known', own] at filled'
  rw [ensureFields_eq] at filled filled'
  have after := fixpoint.fields
  have same := made.trans fixpoint.networks
  generalize config.ensureDefaults sdk sha256 generated = e at *
  generalize fields.ensureDefaults sdk sha256 generated = loaded at *
  have nodeName : loaded.nodeName = config.nodeName :=
    filled'.nodeName.trans ((congrArg (ensuredNodeName sha256 generated _) canonical.nodeName).trans
      (filled.nodeName.symm.trans after.nodeName))
  have relays : loaded.nostr = { fields.nostr with
    relays := if fields.nostr.relays = [] then defaultRelays else fields.nostr.relays } := filled'.nostr
  rw [nostr] at relays
  have aliases : SameEntries loaded.peerAliases config.peerAliases := by
    have members : pre.normalizeSelectedExitNode.allNetworkMemberPubkeysHex = config.allNetworkMemberPubkeysHex := by
      rw [AppConfig.allNetworkMemberPubkeysHex, AppConfig.allNetworkMemberPubkeysHex, ← same, ← ends]
      rfl
    have self : pre.normalizeSelectedExitNode.preferredSelfMagicDnsLabel = config.preferredSelfMagicDnsLabel := by
      rw [AppConfig.preferredSelfMagicDnsLabel, AppConfig.preferredSelfMagicDnsLabel, ← nodeName, ← ends]
      rfl
    rw [← ends]
    refine sameEntries_normalizePeerAliases lawful npubs labelled normal (fun key => ?_) self (by rw [members])
    rw [peerAliases_normalizeSelectedExitNode, stored]
    exact canonical.peerAliases key
  simp only [switches, Prod.mk.injEq] at switched
  obtain ⟨fallback, relay, assist, lan', startup, connect, tray, nat⟩ := switched
  refine ⟨filled'.autoDisconnect, lan'.trans lan, same, ?_, ?_⟩
  · rw [relays]
    exact normalPubkey?_canonical lawful npubs _
  · refine ⟨nodeName, fallback.trans canonical.usePublicRelayFallback, relay.trans canonical.relayForOthers,
      assist.trans canonical.provideNatAssist, startup.trans canonical.launchOnStartup,
      connect.trans canonical.autoconnect, ?_, tray.trans canonical.closeToTrayOnClose, ?_, aliases,
      nat.trans canonical.nat, ?_, ?_⟩
    · refine (exits ?_).trans after.exitNode
      rw [canonical.exitNode]
      exact exitNode_canonical lawful npubs hex exitNode
    · exact filled'.magicDnsSuffix.trans ((congrArg normalizeMagicDnsSuffix canonical.magicDnsSuffix).trans
        (filled.magicDnsSuffix.symm.trans after.magicDnsSuffix))
    · dsimp only
      rw [relays]
      exact filled.nostr.symm.trans after.nostr
    · exact filled'.node.trans ((congrArg (AppConfig.ensureNode generated) canonical.node).trans
        (filled.node.symm.trans after.node))

/-- Loading what a configuration with its defaults was saved as gives its persisted fields, when every member has
a label of its own. -/
theorem save_keeps_persisted_fields (lawful : sdk.Lawful) (npubs : sdk.Npubs) (hex : sdk.HexKeys) (sha256 : Sha256)
    (generated generated' : Generated) {toml : Toml} (codec : toml.Lawful) {config : AppConfig}
    (pair : HasKeyPair sdk config) (saving : IsFixpoint sdk sha256 generated config)
    (loading : IsFixpoint sdk sha256 generated' config) (labelled : AliasInvariant sdk config) {text : String}
    (saved : config.save sdk sha256 generated toml = .ok text) :
    ∃ loaded, AppConfig.loadText sdk sha256 generated' toml text = .ok loaded ∧ SameAsKeys sdk loaded config := by
  obtain ⟨fields, read, file, -, lan⟩ := codec _ _ saved
  have normal := normalMembers_of_networks lawful saving.networks
  obtain ⟨networks, filled⟩ := saving
  generalize config.ensureDefaults sdk sha256 generated = e at *
  have aliases : SameEntries (e.canonicalizeUserFacingPubkeys sdk sha256).peerAliases config.peerAliases :=
    sameEntries_canonicalize lawful npubs normal labelled networks filled.nodeName filled.peerAliases
  generalize canonical : e.canonicalizeUserFacingPubkeys sdk sha256 = k at *
  have listed : k.networks = config.networks.map (NetworkConfig.canonicalize sdk) := by
    rw [← canonical, ← networks]
    rfl
  generalize eq : ({ fields with
    networks := if k.networks = [] then [defaultNetwork] else k.networks
    networks_ne := by split_ifs <;> simp_all } : AppConfig) = f
  have entries : f.networks = config.networks.map (NetworkConfig.canonicalize sdk) :=
    (congrArg AppConfig.networks eq).symm.trans ((if_neg k.networks_ne).trans listed)
  have loads : AppConfig.load sdk sha256 generated' fields k.networks = f.ensureDefaults sdk sha256 generated' := by
    rw [← eq, AppConfig.load]
  have lan' : f.lanDiscoveryEnabled = true := by rw [← eq, lan]
  have canonicalFields : CanonicalFields sdk f config := by
    rw [← canonical] at file
    rw [← eq]
    refine ⟨file.nodeName.trans filled.nodeName, file.usePublicRelayFallback.trans filled.usePublicRelayFallback,
      file.relayForOthers.trans filled.relayForOthers, file.provideNatAssist.trans filled.provideNatAssist,
      file.launchOnStartup.trans filled.launchOnStartup, file.autoconnect.trans filled.autoconnect,
      file.exitNode.trans ?_, file.closeToTrayOnClose.trans filled.closeToTrayOnClose,
      file.magicDnsSuffix.trans filled.magicDnsSuffix, fun key => ?_, file.nat.trans filled.nat,
      file.nostr.trans ?_, file.node.trans filled.node⟩
    · rw [← filled.exitNode]
      rfl
    · exact (file.peerAliases key).trans (canonical ▸ aliases key)
    · rw [← filled.nostr]
      rfl
  refine ⟨_, ?_, sameAsKeys_ensureDefaults lawful npubs hex pair loading labelled canonicalFields entries lan'⟩
  rw [AppConfig.loadText, read, ← loads]
  rfl

end Saved

/-! ## A saved configuration -/

/-- The sample keys, the first of which has a secret key. -/
def keyedSdk : NostrSdk :=
  { sampleSdk with
    publicKeyOfSecret := fun text =>
      if text = "0000000000000000000000000000000000000000000000000000000000000001" then
        .ok (samplePubkeys.headD "")
      else .error "Invalid secret key" }

theorem keyedSdk_lawful : keyedSdk.Lawful where
  parse_hex := sampleSdk_lawful.parse_hex
  secret_hex := by
    intro s h parsed
    have first : sampleSdk.parsePublicKey (samplePubkeys.headD "") = .ok (samplePubkeys.headD "") := by
      decide +kernel
    simp only [keyedSdk] at parsed
    split_ifs at parsed
    exact Except.ok.inj parsed ▸ first
  from_hex := sampleSdk_lawful.from_hex
  from_parsed := sampleSdk_lawful.from_parsed
  parse_bech32 := sampleSdk_lawful.parse_bech32

theorem keyedSdk_npubs : keyedSdk.Npubs where
  total := sampleSdk_npubs.total
  filled := sampleSdk_npubs.filled
  secret_filled := by
    intro s h parsed
    simp only [keyedSdk] at parsed
    split_ifs at parsed with secret
    subst secret
    decide +kernel

/-- The file of the owner of the first key, who had switched off the discovery in the local network. -/
def keyedFields : AppConfig :=
  { sampleRosterConfig with
    lanDiscoveryEnabled := false
    nostr := { secretKey := "0000000000000000000000000000000000000000000000000000000000000001"
               publicKey := samplePubkeys.headD "" } }

def keyedConfig : AppConfig := .load keyedSdk sampleSha256 sampleGenerated keyedFields [sampleNetwork]

theorem isFixpoint_keyedConfig : IsFixpoint keyedSdk sampleSha256 sampleGenerated keyedConfig := by
  have again : keyedConfig.ensureDefaults keyedSdk sampleSha256 sampleGenerated = keyedConfig :=
    ensureDefaults_idem keyedSdk_lawful keyedSdk_npubs sampleSdk_hexKeys (by decide +kernel) (by decide +kernel)
      (by simp [sampleNetwork, EntryIdsFit, EntryIdFits])
  refine ⟨congrArg AppConfig.networks again, ?_⟩
  rw [again]
  exact ⟨rfl, rfl, rfl, rfl, rfl, rfl, rfl, rfl, rfl, fun _ => rfl, rfl, rfl, rfl⟩

def savedConfig : AppConfig :=
  (keyedConfig.ensureDefaults keyedSdk sampleSha256 sampleGenerated).canonicalizeUserFacingPubkeys keyedSdk
    sampleSha256

/-- The text of the saved configuration. -/
def savedText : String :=
  unlines [
    "node_name = \"mole\"", "use_public_relay_fallback = true", "relay_for_others = false",
    "provide_nat_assist = false", "launch_on_startup = true", "autoconnect = true",
    "close_to_tray_on_close = true", "magic_dns_suffix = \"nvpn\"", "", "[[networks]]", "id = \"network-1\"",
    "name = \"Home\"", "enabled = true", "network_id = \"mesh-home\"", "participants = []",
    "admins = [\"npub10xlxvlhemja6c4dqv22uapctqupfhlxm9h8z3k2e72q4k9hcz7vqpkge6d\"]", "", "[peer_aliases]",
    "npub10xlxvlhemja6c4dqv22uapctqupfhlxm9h8z3k2e72q4k9hcz7vqpkge6d = \"mongoose\"", "", "[nat]",
    "enabled = true", "stun_servers = [", "    \"stun:stun.iris.to:3478\",",
    "    \"stun:stun.l.google.com:19302\",", "    \"stun:stun.cloudflare.com:3478\",", "]", "reflectors = []",
    "discovery_timeout_secs = 2", "", "[nostr]", "relays = [", "    \"wss://temp.iris.to\",",
    "    \"wss://relay.damus.io\",", "    \"wss://relay.snort.social\",", "    \"wss://relay.primal.net\",",
    "]", "secret_key = \"0000000000000000000000000000000000000000000000000000000000000001\"",
    "public_key = \"npub10xlxvlhemja6c4dqv22uapctqupfhlxm9h8z3k2e72q4k9hcz7vqpkge6d\"", "", "[node]",
    "id = \"node-1\"", "private_key = \"private\"", "public_key = \"public\"",
    "endpoint = \"127.0.0.1:51820\"", "tunnel_ip = \"10.44.0.1/32\"", "listen_port = 51820",
    "advertised_routes = []", "advertise_exit_node = false"]

/-- The fields that are decoded when the configuration was encoded. -/
def decodedFields (config : AppConfig) : AppConfig :=
  { config with autoDisconnectRelaysWhenMeshReady := false, lanDiscoveryEnabled := true }

theorem sameFile_decodedFields (config : AppConfig) : SameFile (decodedFields config) config :=
  ⟨rfl, rfl, rfl, rfl, rfl, rfl, rfl, rfl, rfl, fun _ => rfl, rfl, rfl, rfl⟩

/-- The encoder writes this configuration as this text, and the decoder reads it. -/
noncomputable def savedToml : Toml where
  toStringPretty config := open Classical in if config = savedConfig then .ok savedText else .error "unsupported value"
  fromStr text := if text = savedText then .ok (decodedFields savedConfig, savedConfig.networks)
    else .error "expected a table"

theorem savedToml_lawful : savedToml.Lawful := by
  intro config text encoded
  simp only [savedToml] at encoded
  split_ifs at encoded with same
  obtain rfl := Except.ok.inj encoded
  subst same
  have read : savedToml.fromStr savedText = .ok (decodedFields savedConfig, savedConfig.networks) := by
    simp only [savedToml, if_true]
  exact ⟨_, read, sameFile_decodedFields savedConfig, rfl, rfl⟩

theorem hasKeyPair_keyedConfig : HasKeyPair keyedSdk keyedConfig :=
  ⟨samplePubkeys.headD "", by decide +kernel, by decide +kernel⟩

theorem aliasInvariant_keyedConfig : AliasInvariant keyedSdk keyedConfig := by
  have few : keyedConfig.allNetworkMemberPubkeysHex.length < 9997 := by decide +kernel
  have settled (loads : LoadsAliases keyedSdk sampleSha256 keyedFields
      (.load keyedSdk sampleSha256 sampleGenerated keyedFields [sampleNetwork])) : AliasInvariant keyedSdk keyedConfig :=
    (aliasSettled_load keyedSdk_lawful sampleSdk_hexKeys sampleGenerated keyedFields [sampleNetwork] loads).table
  rw [LoadsAliases] at settled
  exact settled (neverExhausted_of_length _ _ _ _ few)

theorem save_keyedConfig : keyedConfig.save keyedSdk sampleSha256 sampleGenerated savedToml = .ok savedText := if_pos rfl

theorem keyedConfig_is_loaded : ∃ loaded,
    AppConfig.loadText keyedSdk sampleSha256 sampleGenerated savedToml savedText = .ok loaded ∧
      SameAsKeys keyedSdk loaded keyedConfig :=
  save_keeps_persisted_fields keyedSdk_lawful keyedSdk_npubs sampleSdk_hexKeys sampleSha256 sampleGenerated
    sampleGenerated savedToml_lawful hasKeyPair_keyedConfig isFixpoint_keyedConfig isFixpoint_keyedConfig
    aliasInvariant_keyedConfig save_keyedConfig

end NostrVpn.Invite
