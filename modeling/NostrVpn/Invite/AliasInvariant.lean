import NostrVpn.Core.PeerAliases
import NostrVpn.Invite.AdminInvariant
import NostrVpn.Invite.ExitNodeInvariant
import NostrVpn.Invite.FailedImport

/-!
# The table of aliases over runs

Whether every member of a network, and nobody else, has a valid label of its own. The operations that
assign the labels again restore that; the edits of admins and most imports do not assign them.
-/
namespace NostrVpn.Invite

open Rust NostrVpn.Core Transition

-- Terms with texts are compared without reading the texts.
attribute [local irreducible] String.toList

def AliasInvariant (sdk : NostrSdk) (config : AppConfig) : Prop :=
  AliasTable sdk config.peerAliases config.preferredSelfMagicDnsLabel config.allNetworkMemberPubkeysHex

/-- The label that an import gives to an inviter who is no member of the network the invite goes to. -/
def inviterAlias (config : AppConfig) (keys : InviteKeys) (invite : NetworkInvite) : Option String :=
  if ((configuredTarget config invite).bind config.networkById).any (NetworkConfig.hasMember keys.inviter) ||
      isBlank invite.inviterNodeName then none
  else normalizeMagicDnsLabel (trim invite.inviterNodeName)

/-- The aliases whose labels the step assigns to the members again. -/
inductive ConfigOp.Assigns (sdk : NostrSdk) (s : LoadedConfig) : ConfigOp → HashMap String String → Prop where
  | removed {id : String} (several : 1 < s.config.networks.length)
      (present : id ∈ s.config.networks.map NetworkConfig.id) :
      Assigns sdk s (.removeNetwork id) s.config.peerAliases
  | edited {now : Nat} {id participant key : String} {action : RosterEditAction}
      {network network' : NetworkConfig} (parsed : normalizeNostrPubkey sdk participant = .ok key)
      (found : s.config.networkById id = some network) (changed : action.edit key network = .ok network')
      (members : action = .AddParticipant ∨ action = .RemoveParticipant) :
      Assigns sdk s (.editRoster now id action participant) s.config.peerAliases
  | aliased {now : Nat} {participant alias' : String} {aliases : HashMap String String}
      (stored : s.config.aliasEdit sdk participant alias' = some aliases) :
      Assigns sdk s (.setPeerAlias now participant alias') aliases
  | accepted {now : UInt64} {update : SharedRosterUpdate} {signer : String} {network : NetworkConfig}
      {participants admins : List String}
      (passes : RosterPasses sdk now s.config update signer network participants)
      (named : normalizeNetworkAdmins sdk update.admins (s.config.ownPubkey sdk) network.inviteInviter =
        admins)
      (some' : admins ≠ []) :
      Assigns sdk s (.applyRoster now update) (acceptRosterAliases sdk (s.config.ownPubkey sdk)
        (participants ++ admins) update.aliases s.config.peerAliases)
  | imported {now : Nat} {invite : NetworkInvite} {keys : InviteKeys} {label : String}
      (parsed : inviteKeys sdk invite = .ok keys) (named : normalizeRuntimeNetworkId invite.networkId ≠ "")
      (alias' : inviterAlias s.config keys invite = some label) :
      Assigns sdk s (.importInvite now invite)
        (s.config.peerAliases.insert (npubForPubkeyHex sdk keys.inviter) label)
  | defaulted {generated : Generated} : Assigns sdk s (.ensureDefaults generated) s.config.peerAliases

/-- An import that names no alias invites members alone, and drops no admin of a network that it takes
over unless another network has it as a member. -/
def ImportKeepsMembers (sdk : NostrSdk) (config : AppConfig) (keys : InviteKeys) (invite : NetworkInvite) :
    Prop :=
  (∀ key ∈ keys.inviter :: keys.admins ++ keys.participants,
    InvitesMember (config.ownPubkey sdk) keys key → key ∈ config.allNetworkMemberPubkeysHex) ∧
  (config.networks.find? (NetworkConfig.hasMeshId (normalizeRuntimeNetworkId invite.networkId)) = none →
    networkShouldAdoptInvite config.activeNetwork → ∀ key ∈ config.activeNetwork.admins,
      InvitesMember (config.ownPubkey sdk) keys key ∨
        ∃ other ∈ config.networks, other.id ≠ config.activeNetwork.id ∧ IsMember other key)

/-- A step that assigns no labels leaves the set of members alone. -/
def ConfigOp.KeepsMembers (sdk : NostrSdk) (s : LoadedConfig) : ConfigOp → Prop
  | .editRoster _ id .AddAdmin participant => ∀ key ∈ normalPubkey? sdk participant,
      s.config.networkById id ≠ none → key ∈ s.config.allNetworkMemberPubkeysHex
  | .editRoster _ id .RemoveAdmin participant => ∀ key ∈ normalPubkey? sdk participant,
      ∀ network ∈ s.config.networkById id, key ∈ network.admins → 1 < network.admins.length →
        key ∈ network.participants ∨ ∃ other ∈ s.config.networks, other.id ≠ id ∧ IsMember other key
  | .importInvite _ invite => ∀ keys ∈ (inviteKeys sdk invite).toOption,
      normalizeRuntimeNetworkId invite.networkId ≠ "" → inviterAlias s.config keys invite = none →
        ImportKeepsMembers sdk s.config keys invite
  | _ => True

/-- The step assigns labels without reaching the fallback for one, or keeps the members. -/
def ConfigOp.KeepsAliases (sdk : NostrSdk) (sha256 : Sha256) (s : LoadedConfig) (op : ConfigOp) : Prop :=
  (∀ aliases, op.Assigns sdk s aliases → NeverExhausted sdk sha256 aliases
    (op.apply sdk sha256 s).config.preferredSelfMagicDnsLabel
    (op.apply sdk sha256 s).config.allNetworkMemberPubkeysHex) ∧ op.KeepsMembers sdk s

/-! ## Members in their normal form -/

/-- Every member of the network is a key in its normal form. -/
def NormalMembers (sdk : NostrSdk) (network : NetworkConfig) : Prop :=
  ∀ key, IsMember network key → normalPubkey? sdk key = some key

section Members
variable {sdk : NostrSdk} {sha256 : Sha256} {s : LoadedConfig} {op : ConfigOp} {network network' : NetworkConfig}
  {key : String}

theorem normal_of_parsed (lawful : sdk.Lawful) {text : String} (parsed : normalPubkey? sdk text = some key) :
    normalPubkey? sdk key = some key :=
  normalPubkey?_eq_some.mpr (lawful.parse_hex (normalPubkey?_eq_some.mp parsed))

/-- A key in its normal form is not blank. -/
theorem trim_of_normal (hex : sdk.HexKeys) (normal : normalPubkey? sdk key = some key) : trim key = key := by
  obtain ⟨-, chars⟩ := hex (normalPubkey?_eq_some.mp normal)
  have digits : ∀ c ∈ "0123456789abcdef".toList, isWhitespace c = false := by decide +kernel
  exact trim_eq_self fun c mem => digits c (chars c mem)

theorem trim_ne_of_normal (hex : sdk.HexKeys) (normal : normalPubkey? sdk key = some key) : trim key ≠ "" := by
  obtain ⟨length, -⟩ := hex (normalPubkey?_eq_some.mp normal)
  rw [trim_of_normal hex normal]
  rintro rfl
  exact absurd length (by decide +kernel)

theorem normal_ownPubkey (lawful : sdk.Lawful) {config : AppConfig} (own : config.ownPubkey sdk = some key) :
    normalPubkey? sdk key = some key := by
  unfold AppConfig.ownPubkey AppConfig.ownNostrPubkeyHex at own
  cases configured : normalizeNostrPubkey sdk config.nostr.publicKey with
  | ok own' =>
    rw [configured] at own
    exact @normal_of_parsed sdk key lawful config.nostr.publicKey (by rw [normalPubkey?, configured]; exact own)
  | error e =>
    rw [configured] at own
    cases derived : sdk.publicKeyOfSecret config.nostr.secretKey with
    | error e => simp [derived, Except.mapError] at own
    | ok own' =>
      obtain rfl : own' = key := by simpa [derived, Except.mapError] using own
      exact normalPubkey?_eq_some.mpr (lawful.secret_hex derived)

theorem normal_of_mem_filterMap (lawful : sdk.Lawful) {texts : List String}
    (mem : key ∈ texts.filterMap (normalPubkey? sdk)) : normalPubkey? sdk key = some key := by
  obtain ⟨text, -, parsed⟩ := List.mem_filterMap.mp mem
  exact normal_of_parsed lawful parsed

theorem normal_of_mem_mapM (lawful : sdk.Lawful) {texts keys : List String}
    (parsed : texts.mapM (normalizeNostrPubkey sdk) = .ok keys) (mem : key ∈ keys) :
    normalPubkey? sdk key = some key := by
  obtain ⟨text, -, ok⟩ := mem_of_mapM_ok parsed key mem
  exact @normal_of_parsed sdk key lawful text (by rw [normalPubkey?, ok]; rfl)

theorem normal_of_mem_admins (lawful : sdk.Lawful) {config : AppConfig} {admins : List String} {inviter : String}
    (mem : key ∈ normalizeNetworkAdmins sdk admins (config.ownPubkey sdk) inviter) :
    normalPubkey? sdk key = some key := by
  unfold normalizeNetworkAdmins at mem
  dsimp only at mem
  split_ifs at mem
  · exact normal_of_mem_filterMap lawful (mem_sortDedup.mp mem)
  · cases parsed : normalPubkey? sdk inviter with
    | some inviter' =>
      rw [parsed] at mem
      obtain rfl := List.mem_singleton.mp mem
      exact normal_of_parsed lawful parsed
    | none =>
      rw [parsed] at mem
      exact normal_ownPubkey lawful (Option.mem_toList.mp mem)

theorem normal_of_mem_participants (lawful : sdk.Lawful) {participants normalized : List String}
    {own : Option String} (parsed : normalizeSharedRosterParticipants sdk participants own = .ok normalized)
    (mem : key ∈ normalized) : normalPubkey? sdk key = some key := by
  unfold normalizeSharedRosterParticipants at parsed
  cases keys : participants.mapM (normalizeNostrPubkey sdk) with
  | error e => rw [keys] at parsed; cases parsed
  | ok all =>
    rw [keys] at parsed
    obtain rfl := Except.ok.inj parsed
    exact normal_of_mem_mapM lawful keys (List.mem_of_mem_filter (mem_sortDedup.mp mem))

theorem parsed_of_inviteKeys {invite : NetworkInvite} {keys : InviteKeys}
    (parsed : inviteKeys sdk invite = .ok keys) :
    (∃ text, normalizeNostrPubkey sdk text = .ok keys.inviter) ∧
      invite.admins.mapM (normalizeNostrPubkey sdk) = .ok keys.admins ∧
      invite.participants.mapM (normalizeNostrPubkey sdk) = .ok keys.participants := by
  have rest (text : String) (parsed : (do
      let inviter ← normalizeNostrPubkey sdk text
      let admins ← invite.admins.mapM (normalizeNostrPubkey sdk)
      let participants ← invite.participants.mapM (normalizeNostrPubkey sdk)
      return ({ inviter, admins, participants } : InviteKeys)) = .ok keys) :
      (∃ text, normalizeNostrPubkey sdk text = .ok keys.inviter) ∧
        invite.admins.mapM (normalizeNostrPubkey sdk) = .ok keys.admins ∧
        invite.participants.mapM (normalizeNostrPubkey sdk) = .ok keys.participants := by
    obtain ⟨inviter, first, parsed⟩ := bind_eq_ok.mp parsed
    obtain ⟨admins, second, parsed⟩ := bind_eq_ok.mp parsed
    obtain ⟨participants, third, parsed⟩ := bind_eq_ok.mp parsed
    obtain rfl := Except.ok.inj parsed
    exact ⟨⟨text, first⟩, second, third⟩
  unfold inviteKeys at parsed
  dsimp only at parsed
  split_ifs at parsed
  · obtain ⟨text, -, parsed⟩ := bind_eq_ok.mp parsed
    exact rest text parsed
  · obtain ⟨text, -, parsed⟩ := bind_eq_ok.mp parsed
    exact rest text parsed

/-- The keys of an invite are in their normal form. -/
theorem normal_of_invitesMember (lawful : sdk.Lawful) {invite : NetworkInvite} {keys : InviteKeys}
    (parsed : inviteKeys sdk invite = .ok keys) {own : Option String} (invites : InvitesMember own keys key) :
    normalPubkey? sdk key = some key := by
  obtain ⟨⟨text, inviter⟩, admins, participants⟩ := parsed_of_inviteKeys parsed
  rcases invites with rfl | admin | ⟨participant, -⟩
  · exact @normal_of_parsed sdk keys.inviter lawful text (by rw [normalPubkey?, inviter]; rfl)
  · exact normal_of_mem_mapM lawful admins admin
  · exact normal_of_mem_mapM lawful participants participant

theorem not_isMember_added (id key : String) : ¬ IsMember (addedCore id) key := by
  rintro (mem | mem) <;> cases mem

theorem normal_edit (lawful : sdk.Lawful) {action : RosterEditAction} {text : String}
    (parsed : normalizeNostrPubkey sdk text = .ok key) (normal : NormalMembers sdk network)
    (changed : action.edit key network = .ok network') : NormalMembers sdk network' := by
  have self : normalPubkey? sdk key = some key :=
    @normal_of_parsed sdk key lawful text (by rw [normalPubkey?, parsed]; rfl)
  intro member listed
  cases action with
  | AddParticipant =>
    obtain rfl := Except.ok.inj changed
    rcases listed with participant | admin
    · rcases mem_addKey.mp participant with old | rfl
      · exact normal member (Or.inl old)
      · exact self
    · exact normal member (Or.inr admin)
  | RemoveParticipant =>
    simp only [RosterEditAction.edit] at changed
    split_ifs at changed
    obtain rfl := Except.ok.inj changed
    exact normal member (listed.imp List.mem_of_mem_filter List.mem_of_mem_filter)
  | AddAdmin =>
    obtain rfl := Except.ok.inj changed
    rcases listed with participant | admin
    · exact normal member (Or.inl participant)
    · rcases mem_addKey.mp admin with old | rfl
      · exact normal member (Or.inr old)
      · exact self
  | RemoveAdmin =>
    simp only [RosterEditAction.edit] at changed
    split_ifs at changed
    obtain rfl := Except.ok.inj changed
    exact normal member (listed.imp id List.mem_of_mem_filter)

theorem normal_ensureDefaults (lawful : sdk.Lawful) (config : AppConfig) (ordinal : Nat) (used : List String) :
    NormalMembers sdk (network.ensureDefaults sdk (config.ownPubkey sdk) ordinal used) := by
  rintro member (participant | admin)
  · exact normal_of_mem_filterMap lawful (mem_sortDedup.mp participant)
  · exact normal_of_mem_admins lawful admin

/-- What an operation writes has members in normal form. -/
theorem normalMembers_of_writes (lawful : sdk.Lawful)
    (normal : ∀ network ∈ s.config.networks, NormalMembers sdk network) {core : NetworkConfig}
    (writes : op.Writes sdk s core) : NormalMembers sdk core := by
  cases writes with
  | added => exact fun member listed => absurd listed (not_isMember_added _ member)
  | recorded mem parsed outside recorded => exact fun member listed => normal _ mem member listed
  | edited parsed found changed =>
    intro member listed
    exact normal_edit lawful parsed (normal _ (List.mem_of_find?_eq_some found)) changed member listed
  | accepted passes named some' =>
    rintro member (participant | admin)
    · exact normal_of_mem_participants lawful passes.parsed participant
    · exact normal_of_mem_admins lawful (named ▸ admin)
  | abandoned parsed unknown used unnamed =>
    exact fun member listed => absurd listed (not_isMember_added _ member)
  | merged parsed target first named at' =>
    intro member listed
    rcases isMember_mergeInvite.mp listed with ⟨-, old⟩ | invited
    · cases target with
      | known _ => exact normal _ (List.mem_of_getElem? at') member old
      | adopted _ _ => exact normal _ (List.mem_of_getElem? at') member old
      | added _ _ =>
        rw [core_of_added first at'] at old
        exact absurd old (not_isMember_added _ member)
    · exact normal_of_invitesMember lawful parsed invited
  | defaulted mem => exact fun member listed =>
    normal_ensureDefaults lawful _ _ _ member (isMember_core.mp listed)

end Members

/-! ## The table over a step -/

section Step
variable {sdk : NostrSdk} {sha256 : Sha256} {s : LoadedConfig} {op : ConfigOp} {config after : AppConfig}
  {key : String}

theorem mem_allMembers : key ∈ config.allNetworkMemberPubkeysHex ↔ ∃ core ∈ config.cores, IsMember core key := by
  simp [AppConfig.allNetworkMemberPubkeysHex, AppConfig.cores, IsMember, NetworkConfig.core]

/-- The members are those of the networks without their names. -/
theorem allMembers_congr (same : ∀ key, (∃ core ∈ after.cores, IsMember core key) ↔
    ∃ core ∈ config.cores, IsMember core key) :
    after.allNetworkMemberPubkeysHex = config.allNetworkMemberPubkeysHex := by
  refine sortDedup_congr fun key => ?_
  have members := mem_allMembers.trans ((same key).trans mem_allMembers.symm)
  rwa [AppConfig.allNetworkMemberPubkeysHex, AppConfig.allNetworkMemberPubkeysHex, mem_sortDedup,
    mem_sortDedup] at members

theorem allMembers_of_cores (same : after.cores = config.cores) :
    after.allNetworkMemberPubkeysHex = config.allNetworkMemberPubkeysHex :=
  allMembers_congr fun key => by rw [same]

theorem allMembers_enableAt {i : Nat} (cores : after.cores = enableAt i config.cores) :
    after.allNetworkMemberPubkeysHex = config.allNetworkMemberPubkeysHex := by
  refine allMembers_congr fun key => ?_
  rw [cores]
  constructor
  · rintro ⟨core, listed, member⟩
    obtain ⟨enabled, old, mem, rfl⟩ := stands_enableAt listed
    exact ⟨old, mem, member⟩
  · rintro ⟨core, listed, member⟩
    obtain ⟨j, inside, rfl⟩ := List.mem_iff_getElem.mp listed
    exact ⟨{ config.cores[j] with enabled := j == i }, List.mem_mapIdx.mpr ⟨j, inside, rfl⟩, member⟩

theorem allMembers_added {id : String} (cores : after.cores = config.cores ++ [addedCore id]) :
    after.allNetworkMemberPubkeysHex = config.allNetworkMemberPubkeysHex := by
  refine allMembers_congr fun key => ?_
  simp [cores, not_isMember_added]

/-- A configuration with the table of its members, which are keys in normal form. -/
structure AliasSettled (sdk : NostrSdk) (s : LoadedConfig) : Prop where
  table : AliasInvariant sdk s.config
  normal : ∀ network ∈ s.config.networks, NormalMembers sdk network

theorem normal_of_allMembers (normal : ∀ network ∈ config.networks, NormalMembers sdk network) :
    ∀ member ∈ config.allNetworkMemberPubkeysHex, normalPubkey? sdk member = some member := by
  intro member listed
  obtain ⟨core, mem, member⟩ := mem_allMembers.mp listed
  obtain ⟨network, listed, rfl⟩ := List.mem_map.mp mem
  exact normal network listed _ member

theorem normalMembers_apply (lawful : sdk.Lawful)
    (normal : ∀ network ∈ s.config.networks, NormalMembers sdk network) :
    ∀ network ∈ (op.apply sdk sha256 s).config.networks, NormalMembers sdk network := by
  intro network listed
  obtain ⟨enabled, core, eq, which⟩ :=
    (@effect_apply sdk sha256 s op).stands_or_writes (List.mem_map_of_mem listed)
  have here : NormalMembers sdk core := by
    rcases which with ⟨old, -⟩ | written
    · obtain ⟨network, listed, rfl⟩ := List.mem_map.mp old
      exact fun key member => normal network listed key member
    · exact normalMembers_of_writes lawful normal written
  intro key member
  have same : IsMember network.core key := member
  rw [eq] at same
  exact here key same

/-- The table of a configuration whose settings and members are those of one with a table. -/
theorem aliasInvariant_congr (same : after.peerAliases = config.peerAliases)
    (named : after.nodeName = config.nodeName)
    (members : after.allNetworkMemberPubkeysHex = config.allNetworkMemberPubkeysHex) :
    AliasInvariant sdk after ↔ AliasInvariant sdk config := by
  rw [AliasInvariant, AliasInvariant, same, members, AppConfig.preferredSelfMagicDnsLabel, named,
    AppConfig.preferredSelfMagicDnsLabel]

/-- The table after the labels have been assigned again. -/
theorem aliasInvariant_assigned (lawful : sdk.Lawful) (hex : sdk.HexKeys)
    (normal : ∀ network ∈ after.networks, NormalMembers sdk network)
    (same : after.peerAliases = (config.normalizePeerAliases sdk sha256).peerAliases)
    (named : after.nodeName = config.nodeName)
    (members : after.allNetworkMemberPubkeysHex = config.allNetworkMemberPubkeysHex) :
    AliasInvariant sdk after ↔ NeverExhausted sdk sha256 config.peerAliases after.preferredSelfMagicDnsLabel
      after.allNetworkMemberPubkeysHex := by
  have self : after.preferredSelfMagicDnsLabel = config.preferredSelfMagicDnsLabel := by
    rw [AppConfig.preferredSelfMagicDnsLabel, named, AppConfig.preferredSelfMagicDnsLabel]
  have normal := normal_of_allMembers normal
  rw [members] at normal
  rw [AliasInvariant, same, self, members]
  exact aliasTable_normalizePeerAliases lawful hex normal

end Step

/-! ## The table over an import -/

section Import
variable {sdk : NostrSdk} {sha256 : Sha256} {now : Nat} {config base : AppConfig} {invite : NetworkInvite}
  {keys : InviteKeys} {id : String} {reset : Bool} {i : Nat}

theorem aliases_setPeerAlias (config : AppConfig) (participant alias' : String) :
    (config.setPeerAlias sdk sha256 now participant alias').2.peerAliases =
      (config.aliasEdit sdk participant alias').elim config.peerAliases fun aliases =>
        (({ config with peerAliases := aliases } : AppConfig).normalizePeerAliases sdk sha256).peerAliases := by
  obtain ⟨ids, eq⟩ := @setPeerAlias_eq sdk sha256 now config participant alias'
  rw [eq]
  cases config.aliasEdit sdk participant alias' with
  | none => rfl
  | some aliases => exact (foldl_noteRosterChange_spec ids _).1.peerAliases

/-- The aliases after the last steps of an import. -/
theorem aliases_importMembers (own : Option String) (shouldAdoptName configured : Bool) (config : AppConfig) :
    (importMembers sdk sha256 now own keys invite id reset shouldAdoptName configured config).peerAliases =
      if !configured && !isBlank invite.inviterNodeName then
        ((config.modifyNetwork id (mergeInvite own keys reset)).setPeerAlias sdk sha256 now keys.inviter
          invite.inviterNodeName).2.peerAliases
      else config.peerAliases := by
  unfold importMembers
  dsimp only
  split_ifs <;> rfl

/-- The inviter of an invite can be given an alias once it is merged. -/
theorem aliasEdit_inviter (lawful : sdk.Lawful) {merged : AppConfig}
    (parsed : inviteKeys sdk invite = .ok keys) (member : keys.inviter ∈ merged.allNetworkMemberPubkeysHex)
    (named : isBlank invite.inviterNodeName = false) :
    merged.aliasEdit sdk keys.inviter invite.inviterNodeName =
      (normalizeMagicDnsLabel (trim invite.inviterNodeName)).map fun label =>
        merged.peerAliases.insert (npubForPubkeyHex sdk keys.inviter) label := by
  have normal := normal_of_invitesMember lawful parsed (Or.inl rfl : InvitesMember none keys keys.inviter)
  have again : normalizeNostrPubkey sdk keys.inviter = .ok keys.inviter :=
    normalizeNostrPubkey_eq_ok.mpr (normalPubkey?_eq_some.mp normal)
  simp only [AppConfig.aliasEdit, again, member, not_true_eq_false, if_false, named, Bool.false_eq_true]

/-- The network an invite goes to has the inviter as a member already. -/
theorem configured_eq (target : InviteTarget sdk now config invite base id reset)
    (first : base.networks.findIdx? (NetworkConfig.hasEntryId id) = some i) :
    (base.networkById id).any (NetworkConfig.hasMember keys.inviter) =
      ((configuredTarget config invite).bind config.networkById).any (NetworkConfig.hasMember keys.inviter) := by
  rcases configuredTarget_of_target target with ⟨configured, rfl⟩ | ⟨unconfigured, -⟩
  · rw [configured, Option.bind_some]
  · rw [unconfigured, Option.bind_none, Option.any_none]
    cases target with
    | known found => simp [configuredTarget, found] at unconfigured
    | adopted unknown unused =>
      rw [configuredTarget, unknown] at unconfigured
      simp [unused] at unconfigured
    | added _ _ =>
      obtain ⟨network, found⟩ := Option.isSome_iff_exists.mp (AppConfig.networkById_isSome.mpr
        (InviteTarget.id_mem (.added ‹_› ‹_›)))
      obtain ⟨j, first', at', -⟩ := modifyFirst_eq_set found fun network => network
      obtain rfl := Option.some.inj (first'.symm.trans first)
      have stranger := not_isMember_added (config.addNetwork sdk now invite.networkName).1 keys.inviter
      rw [← core_of_added first at', isMember_core] at stranger
      rw [found, Option.any_some]
      simpa [NetworkConfig.hasMember, IsMember] using stranger

/-- The members after an import: those of the invite and the ones of the networks it leaves as they are. -/
theorem mem_allMembers_imported {after : AppConfig} {own : Option String} {network : NetworkConfig}
    (at' : base.networks[i]? = some network)
    (cores : after.cores = (enableAt i base.cores).set i
      (mergeInvite own keys reset { network.core with enabled := true })) {key : String} :
    key ∈ after.allNetworkMemberPubkeysHex ↔ InvitesMember own keys key ∨
      ∃ j core, base.cores[j]? = some core ∧ (j ≠ i ∨ reset = false) ∧ IsMember core key := by
  have here := getElem?_cores at'
  have inside : i < (enableAt i base.cores).length := by
    simpa [enableAt] using (List.getElem?_eq_some_iff.mp here).1
  rw [mem_allMembers, cores]
  constructor
  · rintro ⟨core, listed, member⟩
    obtain ⟨j, found⟩ := List.getElem?_of_mem listed
    rw [List.getElem?_set] at found
    split_ifs at found with same
    · obtain rfl := Option.some.inj found
      rcases isMember_mergeInvite.mp member with ⟨kept, old⟩ | invited
      · exact Or.inr ⟨i, _, here, Or.inr kept, old⟩
      · exact Or.inl invited
    · rw [enableAt, List.getElem?_mapIdx] at found
      obtain ⟨old, before, rfl⟩ := Option.map_eq_some_iff.mp found
      exact Or.inr ⟨j, old, before, Or.inl (Ne.symm same), member⟩
  · intro members
    by_cases target : InvitesMember own keys key ∨ (reset = false ∧ IsMember network.core key)
    · refine ⟨_, List.mem_set inside _, isMember_mergeInvite.mpr ?_⟩
      exact target.symm
    · obtain ⟨strange, gone⟩ := not_or.mp target
      obtain ⟨j, core, before, kept, member⟩ := members.resolve_left strange
      have other : j ≠ i := by
        rintro rfl
        obtain rfl := Option.some.inj (here.symm.trans before)
        exact gone ⟨kept.resolve_left (by simp), member⟩
      refine ⟨{ core with enabled := j == i }, List.mem_iff_getElem?.mpr ⟨j, ?_⟩, member⟩
      rw [List.getElem?_set_ne (Ne.symm other), enableAt, List.getElem?_mapIdx, before, Option.map_some]

/-- An import that keeps the members. -/
theorem allMembers_imported {s : LoadedConfig} {after : AppConfig} {network : NetworkConfig}
    (target : InviteTarget sdk now s.config invite base id reset)
    (first : base.networks.findIdx? (NetworkConfig.hasEntryId id) = some i)
    (at' : base.networks[i]? = some network)
    (cores : after.cores = (enableAt i base.cores).set i
      (mergeInvite (s.config.ownPubkey sdk) keys reset { network.core with enabled := true }))
    (keeps : ImportKeepsMembers sdk s.config keys invite) (key : String) :
    key ∈ after.allNetworkMemberPubkeysHex ↔ key ∈ s.config.allNetworkMemberPubkeysHex := by
  obtain ⟨invited, dropped⟩ := keeps
  rw [mem_allMembers_imported at' cores]
  constructor
  · rintro (invites | ⟨j, core, before, -, member⟩)
    · refine invited key ?_ invites
      rcases invites with rfl | admin | ⟨participant, -⟩ <;> simp [*]
    · cases target with
      | known _ => exact mem_allMembers.mpr ⟨core, List.mem_of_getElem? before, member⟩
      | adopted _ _ => exact mem_allMembers.mpr ⟨core, List.mem_of_getElem? before, member⟩
      | added _ _ =>
        have listed := List.mem_of_getElem? before
        rw [(addNetwork_spec s.config invite.networkName).2.1] at listed
        rcases List.mem_append.mp listed with old | new
        · exact mem_allMembers.mpr ⟨core, old, member⟩
        · rw [List.mem_singleton.mp new] at member
          exact absurd member (not_isMember_added _ key)
  · intro listed
    obtain ⟨core, mem, member⟩ := mem_allMembers.mp listed
    obtain ⟨j, before⟩ := List.getElem?_of_mem mem
    cases target with
    | known _ => exact Or.inr ⟨j, core, before, Or.inr rfl, member⟩
    | added unknown used =>
      refine Or.inr ⟨j, core, ?_, Or.inl ?_, member⟩
      · rw [(addNetwork_spec s.config invite.networkName).2.1, List.getElem?_append_left
          (List.getElem?_eq_some_iff.mp before).1]
        exact before
      · rw [index_addNetwork first]
        exact ne_of_lt (List.getElem?_eq_some_iff.mp before).1
    | adopted unknown unused =>
      have active := getElem?_of_first s.config.activeNetwork_mem first
      by_cases here : j = i
      · subst here
        have eq := getElem?_cores active
        rw [before] at eq
        obtain rfl := Option.some.inj eq
        have alone : s.config.activeNetwork.participants = [] := by
          have unused := unused
          simp only [networkShouldAdoptInvite, Bool.and_eq_true, List.isEmpty_iff] at unused
          exact unused.1
        have admin : key ∈ s.config.activeNetwork.admins := by
          rcases member with participant | admin
          · have participant : key ∈ s.config.activeNetwork.participants := participant
            rw [alone] at participant
            cases participant
          · exact admin
        rcases dropped unknown unused key admin with invites | ⟨other, listed, differs, member⟩
        · exact Or.inl invites
        · obtain ⟨k, there⟩ := List.getElem?_of_mem listed
          refine Or.inr ⟨k, other.core, getElem?_cores there, Or.inl ?_, member⟩
          rintro rfl
          obtain rfl := Option.some.inj (there.symm.trans active)
          exact differs rfl
      · exact Or.inr ⟨j, core, before, Or.inl here, member⟩

/-- The table after an import that succeeds. -/
theorem aliasInvariant_imported (lawful : sdk.Lawful) (hex : sdk.HexKeys) {s : LoadedConfig}
    (settled : AliasSettled sdk s) {network : NetworkConfig} (shouldAdoptName : Bool)
    (parsed : inviteKeys sdk invite = .ok keys)
    (target : InviteTarget sdk now s.config invite base id reset)
    (first : base.networks.findIdx? (NetworkConfig.hasEntryId id) = some i)
    (at' : base.networks[i]? = some network) {between after : AppConfig}
    (same : SameSettings s.config between)
    (eq : importMembers sdk sha256 now (s.config.ownPubkey sdk) keys invite id reset shouldAdoptName
      ((base.networkById id).any (NetworkConfig.hasMember keys.inviter)) between = after)
    (named : after.nodeName = s.config.nodeName)
    (cores : after.cores = (enableAt i base.cores).set i
      (mergeInvite (s.config.ownPubkey sdk) keys reset { network.core with enabled := true }))
    (normal : ∀ network ∈ after.networks, NormalMembers sdk network)
    (assigns : ∀ label, inviterAlias s.config keys invite = some label → NeverExhausted sdk sha256
      (s.config.peerAliases.insert (npubForPubkeyHex sdk keys.inviter) label)
      after.preferredSelfMagicDnsLabel after.allNetworkMemberPubkeysHex)
    (keeps : inviterAlias s.config keys invite = none → ImportKeepsMembers sdk s.config keys invite) :
    AliasInvariant sdk after := by
  have aliases := @aliases_importMembers sdk sha256 now invite keys id reset (s.config.ownPubkey sdk)
    shouldAdoptName ((base.networkById id).any (NetworkConfig.hasMember keys.inviter)) between
  have mergedCores := @cores_importMembers_eq sdk sha256 now between invite id (s.config.ownPubkey sdk) keys
    reset shouldAdoptName ((base.networkById id).any (NetworkConfig.hasMember keys.inviter))
  rw [eq] at aliases mergedCores
  have mergedAliases : (between.modifyNetwork id (mergeInvite (s.config.ownPubkey sdk) keys reset)).peerAliases =
      s.config.peerAliases := same.peerAliases
  have mergedName : (between.modifyNetwork id (mergeInvite (s.config.ownPubkey sdk) keys reset)).nodeName =
      s.config.nodeName := same.nodeName
  generalize between.modifyNetwork id (mergeInvite (s.config.ownPubkey sdk) keys reset) = merged
    at aliases mergedCores mergedAliases mergedName
  have mergedMembers := allMembers_of_cores mergedCores
  have member : keys.inviter ∈ merged.allNetworkMemberPubkeysHex := by
    rw [← mergedMembers]
    exact (mem_allMembers_imported at' cores).mpr (Or.inl (Or.inl rfl))
  rw [configured_eq target first, same.peerAliases, ← Bool.not_or] at aliases
  have edit (named : isBlank invite.inviterNodeName = false) :=
    aliasEdit_inviter lawful parsed member named
  rw [aliases_setPeerAlias] at aliases
  cases alias' : inviterAlias s.config keys invite with
  | some label =>
    have free := assigns label alias'
    unfold inviterAlias at alias'
    split_ifs at alias' with skipped
    have blank := (Bool.or_eq_false_iff.mp (Bool.eq_false_iff.mpr skipped)).2
    rw [Bool.eq_false_iff.mpr skipped, Bool.not_false, if_pos rfl, edit blank, alias', Option.map_some,
      Option.elim_some, mergedAliases] at aliases
    exact (aliasInvariant_assigned lawful hex normal aliases (named.trans mergedName.symm)
      mergedMembers).mpr free
  | none =>
    have kept : after.peerAliases = s.config.peerAliases := by
      rw [aliases]
      split_ifs with done
      · have open' : ¬ (((configuredTarget s.config invite).bind s.config.networkById).any
            (NetworkConfig.hasMember keys.inviter) || isBlank invite.inviterNodeName) = true := by
          simpa using done
        have blank := (Bool.or_eq_false_iff.mp (Bool.eq_false_iff.mpr open')).2
        rw [inviterAlias, if_neg open'] at alias'
        rw [edit blank, alias', Option.map_none, Option.elim_none, mergedAliases]
      · rfl
    have members := allMembers_imported target first at' cores (keeps alias')
    exact (aliasInvariant_congr kept named (allMembers_congr fun key =>
      (mem_allMembers.symm.trans (members key)).trans mem_allMembers)).mpr settled.table

end Import

/-! ## Every operation -/

section Operations
variable {sdk : NostrSdk} {sha256 : Sha256} {s : LoadedConfig} {op : ConfigOp}

/-- A change of one network that keeps the set of members. -/
theorem allMembers_set {after : AppConfig} {i : Nat} {network network' : NetworkConfig}
    (at' : s.config.networks[i]? = some network) (cores : after.cores = s.config.cores.set i network'.core)
    (gained : ∀ key, IsMember network' key → key ∈ s.config.allNetworkMemberPubkeysHex)
    (lost : ∀ key, IsMember network key → IsMember network' key ∨
      ∃ other ∈ s.config.networks, other.id ≠ network.id ∧ IsMember other key) :
    after.allNetworkMemberPubkeysHex = s.config.allNetworkMemberPubkeysHex := by
  obtain ⟨inside, here⟩ := List.getElem?_eq_some_iff.mp (getElem?_cores at')
  refine allMembers_congr fun key => ?_
  rw [cores]
  constructor
  · rintro ⟨core, listed, member⟩
    rcases List.mem_or_eq_of_mem_set listed with old | rfl
    · exact ⟨core, old, member⟩
    · exact mem_allMembers.mp (gained key member)
  · rintro ⟨core, listed, member⟩
    obtain ⟨j, before⟩ := List.getElem?_of_mem listed
    by_cases same : j = i
    · subst same
      obtain rfl := Option.some.inj ((getElem?_cores at').symm.trans before)
      rcases lost key member with kept | ⟨other, mem, differs, member⟩
      · exact ⟨network'.core, List.mem_set inside _, kept⟩
      · obtain ⟨k, there⟩ := List.getElem?_of_mem mem
        have apart : j ≠ k := by
          rintro rfl
          obtain rfl := Option.some.inj (there.symm.trans at')
          exact differs rfl
        refine ⟨other.core, List.mem_iff_getElem?.mpr ⟨k, ?_⟩, member⟩
        rw [List.getElem?_set_ne apart, getElem?_cores there]
    · refine ⟨core, List.mem_iff_getElem?.mpr ⟨j, ?_⟩, member⟩
      rw [List.getElem?_set_ne (Ne.symm same), before]

/-- An edit of the admins that keeps the set of members. -/
theorem allMembers_edit {action : RosterEditAction} {now : Nat} {id participant key : String} {i : Nat}
    {network network' : NetworkConfig} {after : AppConfig}
    (admins : action = .AddAdmin ∨ action = .RemoveAdmin)
    (parsed : normalizeNostrPubkey sdk participant = .ok key)
    (first : s.config.networks.findIdx? (NetworkConfig.hasEntryId id) = some i)
    (at' : s.config.networks[i]? = some network) (changed : action.edit key network = .ok network')
    (cores : after.cores = s.config.cores.set i network'.core)
    (keeps : (ConfigOp.editRoster now id action participant).KeepsMembers sdk s) :
    after.allNetworkMemberPubkeysHex = s.config.allNetworkMemberPubkeysHex := by
  have found : s.config.networkById id = some network := find?_of_findIdx? first at'
  have named : network.id = id := by simpa [NetworkConfig.hasEntryId] using List.find?_some found
  have parsed' : normalPubkey? sdk participant = some key := by rw [normalPubkey?, parsed]; rfl
  have mine (member : String) (listed : IsMember network member) :
      member ∈ s.config.allNetworkMemberPubkeysHex :=
    mem_allMembers.mpr ⟨network.core, List.mem_of_getElem? (getElem?_cores at'), listed⟩
  rcases admins with rfl | rfl
  · obtain rfl := Except.ok.inj changed
    have member := keeps key parsed' (by rw [found]; simp)
    refine allMembers_set at' cores (fun other listed => ?_) fun other listed => Or.inl ?_
    · rcases listed with participant | admin
      · exact mine other (Or.inl participant)
      · rcases mem_addKey.mp admin with old | rfl
        · exact mine other (Or.inr old)
        · exact member
    · exact listed.imp_right fun admin => mem_addKey.mpr (Or.inl admin)
  · simp only [RosterEditAction.edit] at changed
    split_ifs at changed with last
    obtain rfl := Except.ok.inj changed
    refine allMembers_set at' cores (fun other listed => mine other ?_) fun other listed => ?_
    · exact listed.imp_right List.mem_of_mem_filter
    · by_cases removed : other = key
      · subst removed
        rcases listed with participant | admin
        · exact Or.inl (Or.inl participant)
        · rcases keeps other parsed' network found admin (by omega) with participant | ⟨member, mem, differs, here⟩
          · exact Or.inl (Or.inl participant)
          · exact Or.inr ⟨member, mem, named ▸ differs, here⟩
      · exact Or.inl (listed.imp_right fun admin => List.mem_filter.mpr ⟨admin, by simpa using removed⟩)

theorem nodeName_normalizeSelectedExitNode (config : AppConfig) :
    config.normalizeSelectedExitNode.nodeName = config.nodeName := by
  unfold AppConfig.normalizeSelectedExitNode
  split_ifs <;> rfl

theorem peerAliases_normalizeSelectedExitNode (config : AppConfig) :
    config.normalizeSelectedExitNode.peerAliases = config.peerAliases := by
  unfold AppConfig.normalizeSelectedExitNode
  split_ifs <;> rfl

/-- The table after the steps that drop a stranger as exit node and assign the labels again. -/
theorem aliasInvariant_normalized (lawful : sdk.Lawful) (hex : sdk.HexKeys) {config after : AppConfig}
    (eq : config.normalizeSelectedExitNode.normalizePeerAliases sdk sha256 = after)
    (normal : ∀ network ∈ after.networks, NormalMembers sdk network) :
    AliasInvariant sdk after ↔ NeverExhausted sdk sha256 config.peerAliases after.preferredSelfMagicDnsLabel
      after.allNetworkMemberPubkeysHex := by
  subst eq
  have assigned := @aliasInvariant_assigned sdk sha256 config.normalizeSelectedExitNode
    (config.normalizeSelectedExitNode.normalizePeerAliases sdk sha256) lawful hex normal rfl rfl rfl
  rwa [peerAliases_normalizeSelectedExitNode] at assigned

theorem peerAliases_ensureNostrIdentity (generated : Generated) (config : AppConfig) :
    (config.ensureNostrIdentity sdk generated).peerAliases = config.peerAliases := by
  unfold AppConfig.ensureNostrIdentity
  grind

theorem peerAliases_ensureFields (generated : Generated) (own : Option String) (config : AppConfig) :
    (config.ensureFields sha256 generated own).peerAliases = config.peerAliases := by
  unfold AppConfig.ensureFields AppConfig.ensureNodeName
  grind

/-- Filling in the networks, of which the first active one alone stays active. -/
theorem peerAliases_networkStages (own : Option String) (config : AppConfig) :
    ((((config.ensureExitNode sdk).ensureNetworkList sdk own).ensureSingleActiveNetwork).deriveDefaultNetworkIds
      sdk sha256).peerAliases = config.peerAliases := rfl

/-- Filling in the defaults ends with the exit node and the aliases. -/
theorem ensureDefaults_eq (generated : Generated) (config : AppConfig) :
    ∃ pre : AppConfig, pre.normalizeSelectedExitNode.normalizePeerAliases sdk sha256 =
      config.ensureDefaults sdk sha256 generated ∧ pre.peerAliases = config.peerAliases := by
  unfold AppConfig.ensureDefaults
  dsimp only
  refine ⟨_, rfl, ?_⟩
  rw [peerAliases_networkStages, peerAliases_ensureFields, peerAliases_ensureNostrIdentity]

/-- Every step that assigns the labels without reaching the fallback, or keeps the members, keeps the
table. -/
theorem aliasInvariant_apply (lawful : sdk.Lawful) (hex : sdk.HexKeys) (settled : AliasSettled sdk s)
    (keeps : op.KeepsAliases sdk sha256 s) : AliasInvariant sdk (op.apply sdk sha256 s).config := by
  obtain ⟨assigns, keeps⟩ := keeps
  have normal := @normalMembers_apply sdk sha256 s op lawful settled.normal
  have effect := @effect_apply sdk sha256 s op
  have kept {after : AppConfig} (same : SameSettings s.config after)
      (members : after.allNetworkMemberPubkeysHex = s.config.allNetworkMemberPubkeysHex) :
      AliasInvariant sdk after :=
    (aliasInvariant_congr same.peerAliases same.nodeName members).mpr settled.table
  by_cases imports : ∃ now invite, op = .importInvite now invite
  · obtain ⟨now, invite, rfl⟩ := imports
    generalize eq' : ((ConfigOp.importInvite now invite).apply sdk sha256 s).config = after at *
    have applied : (applyNetworkInviteToActiveNetwork sdk sha256 now s.config invite).2 = after := by
      rw [← eq']
      simp only [ConfigOp.apply, ConfigOp.outcome]
    rcases import_cases sdk sha256 now s.config invite with
      ⟨e, -, eq⟩ | ⟨keys, base, id, reset, i, parsed, target, first, eq⟩
    · rw [eq] at applied
      obtain rfl : s.config = after := applied
      exact settled.table
    · by_cases unnamed : normalizeRuntimeNetworkId invite.networkId = ""
      · rw [if_pos unnamed] at eq
        rw [eq] at applied
        obtain rfl : base.enableOnly i = after := applied
        refine kept (target.sameSettings.trans ⟨rfl, rfl, rfl, rfl⟩) ?_
        have switched := allMembers_enableAt (cores_enableOnly base i)
        refine switched.trans ?_
        cases target with
        | known _ => rfl
        | adopted _ _ => rfl
        | added _ _ => exact allMembers_added (addNetwork_spec s.config invite.networkName).2.1
      · rw [if_neg unnamed] at eq
        rw [eq] at applied
        obtain ⟨network, at', cores⟩ := @cores_imported sdk sha256 now s.config base invite id reset
          (s.config.ownPubkey sdk) keys (normalizeRuntimeNetworkId invite.networkId) i target first
          ((base.networkById id).any networkShouldAdoptInvite)
          ((base.networkById id).any (NetworkConfig.hasMember keys.inviter))
        have before : SameSettings s.config ((base.enableOnly i).modifyNetwork id fun network =>
            { network with networkId := normalizeRuntimeNetworkId invite.networkId }) :=
          target.sameSettings.trans ⟨rfl, rfl, rfl, rfl⟩
        have named := (@sameSelection_importMembers sdk sha256 now (s.config.ownPubkey sdk) keys invite id reset
          ((base.networkById id).any networkShouldAdoptInvite)
          ((base.networkById id).any (NetworkConfig.hasMember keys.inviter))
          ((base.enableOnly i).modifyNetwork id fun network =>
            { network with networkId := normalizeRuntimeNetworkId invite.networkId })).1
        generalize ((base.enableOnly i).modifyNetwork id fun network =>
          { network with networkId := normalizeRuntimeNetworkId invite.networkId }) = between at *
        refine aliasInvariant_imported lawful hex settled
          ((base.networkById id).any networkShouldAdoptInvite) parsed target first at' before applied
          ?_ ?_ normal ?_ ?_
        · rw [← applied]
          exact named.trans before.nodeName
        · rw [← applied]
          exact cores
        · exact fun label alias' => assigns _ (.imported parsed unnamed alias')
        · exact keeps keys (by rw [parsed]; rfl) unnamed
  generalize (op.apply sdk sha256 s).config = after at *
  cases effect with
  | silent plain same cores => exact kept same (allMembers_of_cores cores)
  | added same fresh cores => exact kept same (allMembers_added cores)
  | @removed id between several present same networks =>
    generalize eq : between.normalizeSelectedExitNode.normalizePeerAliases sdk sha256 = after at *
    have free := assigns _ (.removed several present)
    rw [← same.peerAliases] at free
    exact (aliasInvariant_normalized lawful hex eq normal).mpr free
  | switched first same cores => exact kept same (allMembers_enableAt cores)
  | recorded same parsed first at' outside recorded networks =>
    have cores : after.cores = _ := (congrArg (List.map NetworkConfig.core) networks).trans List.map_set
    refine kept same (allMembers_set at' cores (fun key member => ?_) fun key member => Or.inl member)
    exact mem_allMembers.mpr ⟨_, List.mem_of_getElem? (getElem?_cores at'), member⟩
  | @edited now id participant key action i network network' between same parsed first at' changed cores =>
    have assigned (members : action = .AddParticipant ∨ action = .RemoveParticipant)
        (eq : between.normalizeSelectedExitNode.normalizePeerAliases sdk sha256 =
          action.normalize sdk sha256 between) :
        AliasInvariant sdk (action.normalize sdk sha256 between) := by
      have free := assigns _ (.edited parsed (find?_of_findIdx? first at') changed members)
      rw [← same.peerAliases] at free
      exact (aliasInvariant_normalized lawful hex eq normal).mpr free
    have switched (admins : action = .AddAdmin ∨ action = .RemoveAdmin)
        (eq : between.normalizeSelectedExitNode = action.normalize sdk sha256 between) :
        AliasInvariant sdk (action.normalize sdk sha256 between) := by
      have members := @allMembers_edit sdk s action now id participant key i network network'
        (action.normalize sdk sha256 between) admins parsed first at' changed
        ((cores_normalize action between).trans cores) keeps
      rw [← eq] at members ⊢
      refine (aliasInvariant_congr ?_ ?_ members).mpr settled.table
      · rw [peerAliases_normalizeSelectedExitNode, same.peerAliases]
      · rw [nodeName_normalizeSelectedExitNode, same.nodeName]
    cases action with
    | AddParticipant => exact assigned (Or.inl rfl) rfl
    | RemoveParticipant => exact assigned (Or.inr rfl) rfl
    | AddAdmin => exact switched (Or.inl rfl) rfl
    | RemoveAdmin => exact switched (Or.inr rfl) rfl
  | aliased stored same cores =>
    exact (aliasInvariant_assigned lawful hex normal same.peerAliases same.nodeName
      (allMembers_of_cores cores)).mpr (assigns _ (.aliased stored))
  | @accepted now update signer network participants admins passes named some' =>
    have free := assigns _ (.accepted passes named some')
    unfold AppConfig.acceptSharedRoster at *
    exact (aliasInvariant_normalized lawful hex rfl normal).mpr free
  | importFailed parsed target first unnamed => exact absurd ⟨_, _, rfl⟩ imports
  | imported parsed target first named at' same cores => exact absurd ⟨_, _, rfl⟩ imports
  | @defaulted generated =>
    obtain ⟨pre, eq, aliases⟩ := @ensureDefaults_eq sdk sha256 generated s.config
    have free := assigns _ .defaulted
    rw [← aliases] at free
    exact (aliasInvariant_normalized lawful hex eq normal).mpr free

/-- A step that keeps the labels keeps the members in normal form as well. -/
theorem aliasSettled_apply (lawful : sdk.Lawful) (hex : sdk.HexKeys) (settled : AliasSettled sdk s)
    (keeps : op.KeepsAliases sdk sha256 s) : AliasSettled sdk (op.apply sdk sha256 s) :=
  ⟨aliasInvariant_apply lawful hex settled keeps, normalMembers_apply lawful settled.normal⟩

end Operations

/-! ## Runs -/

section Runs

theorem normalMembers_ensureDefaults {sdk : NostrSdk} {sha256 : Sha256} (lawful : sdk.Lawful)
    (generated : Generated) (config : AppConfig) :
    ∀ network ∈ (config.ensureDefaults sdk sha256 generated).networks, NormalMembers sdk network := by
  intro network listed key member
  obtain ⟨i, cores⟩ := @cores_ensureDefaults sdk sha256 generated config
  have mem : network.core ∈ (config.ensureDefaults sdk sha256 generated).cores :=
    List.mem_map_of_mem listed
  obtain ⟨enabled, core, made, eq⟩ := stands_enableAt (cores ▸ mem)
  obtain ⟨network', filled, rfl⟩ := List.mem_map.mp made
  obtain ⟨old, -, ordinal, used, rfl⟩ := mem_ensureNetworks filled
  have same : IsMember network.core key := member
  rw [eq] at same
  exact normal_ensureDefaults lawful _ ordinal used key same

/-- The labels of a file are assigned without reaching the fallback for one. -/
def LoadsAliases (sdk : NostrSdk) (sha256 : Sha256) (fields : AppConfig) (loaded : LoadedConfig) : Prop :=
  NeverExhausted sdk sha256 fields.peerAliases loaded.config.preferredSelfMagicDnsLabel
    loaded.config.allNetworkMemberPubkeysHex

/-- What `load` fills in. -/
theorem load_eq {sdk : NostrSdk} {sha256 : Sha256} (generated : Generated) (fields : AppConfig)
    (networks : List NetworkConfig) : ∃ config : AppConfig, config.peerAliases = fields.peerAliases ∧
      AppConfig.load sdk sha256 generated fields networks = config.ensureDefaults sdk sha256 generated := by
  unfold AppConfig.load
  generalize AppConfig.ensureDefaults sdk sha256 generated = fill
  refine ⟨_, ?_, rfl⟩
  rfl

theorem aliasSettled_load {sdk : NostrSdk} {sha256 : Sha256} (lawful : sdk.Lawful) (hex : sdk.HexKeys)
    (generated : Generated) (fields : AppConfig) (networks : List NetworkConfig)
    (loads : LoadsAliases sdk sha256 fields (.load sdk sha256 generated fields networks)) :
    AliasSettled sdk (.load sdk sha256 generated fields networks) := by
  obtain ⟨config, named, eq⟩ := @load_eq sdk sha256 generated fields networks
  have eq' : (LoadedConfig.load sdk sha256 generated fields networks).config =
      config.ensureDefaults sdk sha256 generated := by rw [← eq, LoadedConfig.load]
  unfold LoadsAliases at loads
  generalize LoadedConfig.load sdk sha256 generated fields networks = loaded at *
  have normal := @normalMembers_ensureDefaults sdk sha256 lawful generated config
  rw [← eq'] at normal
  obtain ⟨pre, ends, aliases⟩ := @ensureDefaults_eq sdk sha256 generated config
  rw [← named, ← aliases] at loads
  exact ⟨(aliasInvariant_normalized lawful hex (ends.trans eq'.symm) normal).mpr loads, normal⟩

/-- In a run whose steps assign no label by the fallback, and change the members only when they assign the
labels again, every member and nobody else has a label of its own at every state. -/
theorem every_member_has_an_alias {sdk : NostrSdk} (lawful : sdk.Lawful) (hex : sdk.HexKeys)
    (sha256 : Sha256) (generated : Generated) (fields : AppConfig) (networks : List NetworkConfig)
    (loads : LoadsAliases sdk sha256 fields (.load sdk sha256 generated fields networks))
    {ops : List ConfigOp}
    (keeps : Along (ConfigOp.apply sdk sha256) (fun s op => op.KeepsAliases sdk sha256 s)
      (.load sdk sha256 generated fields networks) ops) :
    AliasInvariant sdk (LoadedConfig.load sdk sha256 generated fields networks).config ∧
      Along (ConfigOp.apply sdk sha256)
        (fun s op => AliasInvariant sdk (op.apply sdk sha256 s).config)
        (.load sdk sha256 generated fields networks) ops := by
  have loaded := aliasSettled_load lawful hex generated fields networks loads
  refine ⟨loaded.table, ?_⟩
  exact @Along.strengthen _ _ _ (AliasSettled sdk) _ _
    (fun s op settled keeps => aliasSettled_apply lawful hex settled keeps)
    (fun s op settled keeps => aliasInvariant_apply lawful hex settled keeps) _ _ loaded keeps

end Runs

/-! ## An administrator without a label -/

/-- The second sample key becomes an admin of the first network. -/
def secondAdmin : ConfigOp :=
  .editRoster 200 "network-1" .AddAdmin "c6047f9441ed7d6d3045406e95c07cd85c778e4b8cef3ca7abac09b95c709ee5"

/-- The new admin has no label. -/
theorem admin_without_alias :
    ¬ AliasInvariant sampleSdk (secondAdmin.apply sampleSdk sampleSha256 loadedNetworks).config := by
  intro invariant
  have missing : ¬ ((secondAdmin.apply sampleSdk sampleSha256 loadedNetworks).config.peerAliases.toList.map
      Prod.fst).length = ((secondAdmin.apply sampleSdk sampleSha256
        loadedNetworks).config.allNetworkMemberPubkeysHex.map (npubForPubkeyHex sampleSdk)).length := by
    decide +kernel
  exact missing invariant.members.length_eq

/-- The second sample key becomes a participant, then an admin as well. -/
def labelledOps : List ConfigOp :=
  [.editRoster 200 "network-1" .AddParticipant
     "c6047f9441ed7d6d3045406e95c07cd85c778e4b8cef3ca7abac09b95c709ee5", secondAdmin]

theorem every_member_has_an_alias_of_ops :
    AliasInvariant sampleSdk loadedNetworks.config ∧
      Along (ConfigOp.apply sampleSdk sampleSha256)
        (fun s op => AliasInvariant sampleSdk (op.apply sampleSdk sampleSha256 s).config) loadedNetworks
        labelledOps := by
  have few (s : LoadedConfig) (op : ConfigOp)
      (few : (op.apply sampleSdk sampleSha256 s).config.allNetworkMemberPubkeysHex.length < 9997) :
      ∀ aliases, op.Assigns sampleSdk s aliases → NeverExhausted sampleSdk sampleSha256 aliases
        (op.apply sampleSdk sampleSha256 s).config.preferredSelfMagicDnsLabel
        (op.apply sampleSdk sampleSha256 s).config.allNetworkMemberPubkeysHex :=
    fun aliases _ => neverExhausted_of_length _ _ _ _ few
  refine every_member_has_an_alias sampleSdk_lawful sampleSdk_hexKeys sampleSha256 sampleGenerated
    sampleRosterConfig twoNetworks (neverExhausted_of_length _ _ _ _ (by decide +kernel))
    ⟨⟨few _ _ (by decide +kernel), trivial⟩, ⟨few _ _ (by decide +kernel), ?_⟩, trivial⟩
  have member : ∀ key ∈ normalPubkey? sampleSdk
      "c6047f9441ed7d6d3045406e95c07cd85c778e4b8cef3ca7abac09b95c709ee5",
      key ∈ (ConfigOp.apply sampleSdk sampleSha256 loadedNetworks (.editRoster 200 "network-1" .AddParticipant
        "c6047f9441ed7d6d3045406e95c07cd85c778e4b8cef3ca7abac09b95c709ee5")).config.allNetworkMemberPubkeysHex := by
    decide +kernel
  exact fun key parsed _ => member key parsed

end NostrVpn.Invite
