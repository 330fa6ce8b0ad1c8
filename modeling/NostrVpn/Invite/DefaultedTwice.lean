import NostrVpn.Core.AliasOrder
import NostrVpn.Core.EntryIds
import NostrVpn.Core.RouteForms
import NostrVpn.Invite.DerivedIds
import NostrVpn.Invite.JoinRequestInvariant
import NostrVpn.Invite.MagicDnsNames

/-!
# Defaults of a configuration that has them

`ensure_defaults` leaves what it made as it is, apart from entry ids that a counter has made longer than a label.
-/
namespace NostrVpn.Invite

open Rust NostrVpn.Core

-- Terms with texts are compared without reading the texts.
attribute [local irreducible] String.toList

section Values
variable {sdk : NostrSdk} {sha256 : Sha256} {generated : Generated} {own : Option String}

/-! ## Single values -/

/-- A key, or nothing, is normalised to itself. -/
theorem normalPubkey?_getD (lawful : sdk.Lawful) (npubs : sdk.Npubs) (text : String) :
    normalPubkey? sdk ((normalPubkey? sdk text).getD "") = normalPubkey? sdk text := by
  cases parsed : normalPubkey? sdk text with
  | none => exact normalPubkey?_empty npubs
  | some key => exact normalPubkey?_eq_some.mpr (lawful.parse_hex (normalPubkey?_eq_some.mp parsed))

theorem normalizeMagicDnsSuffix_join {labels : List String} (some' : labels ≠ [])
    (valid : ∀ label ∈ labels, IsMagicDnsLabel label) : normalizeMagicDnsSuffix (join "." labels) = join "." labels := by
  have text := isSuffixText_join some' valid
  have blankless := trim_eq_self fun c mem => isWhitespace_of_suffixChar (text.chars c mem)
  have dotless (label : String) (mem : label ∈ labels) : '.' ∉ label.toList := fun dot =>
    absurd ((isMagicDnsLabel_iff.mp (valid label mem)).chars '.' dot) (by decide)
  have parts : split '.' (join "." labels) = labels := split_join some' dotless
  have normal : labels.filterMap normalizeMagicDnsLabel = labels := by
    rw [List.filterMap_congr (g := some) valid, List.filterMap_some]
  have filled : labels.filter (· ≠ "") = labels :=
    List.filter_eq_self.mpr fun label mem => by simpa using nonempty_of_isMagicDnsLabel (valid label mem)
  simp only [normalizeMagicDnsSuffix, blankless, (trimDots_of_suffixText text).2, parts, normal, filled, some',
    if_false]

theorem normalizeMagicDnsSuffix_idem (value : String) :
    normalizeMagicDnsSuffix (normalizeMagicDnsSuffix value) = normalizeMagicDnsSuffix value := by
  generalize eq : ((split '.' (trimEndMatches '.' (trim value))).filterMap normalizeMagicDnsLabel).filter
    (· ≠ "") = labels
  have made : normalizeMagicDnsSuffix value = if labels = [] then "nvpn" else join "." labels := by
    rw [← eq]
    rfl
  rw [made]
  split_ifs with none'
  · decide +kernel
  · refine normalizeMagicDnsSuffix_join none' fun label mem => ?_
    rw [← eq] at mem
    obtain ⟨piece, -, normal⟩ := List.mem_filterMap.mp (List.mem_of_mem_filter mem)
    exact isMagicDnsLabel_of_normalize normal

/-- Routes in normal form, each once, are normalised to themselves. -/
theorem normalizeAdvertisedRoutes_eq_self {routes : List String} (distinct : routes.Nodup)
    (normal : ∀ route ∈ routes, normalizeAdvertisedRoute route = some route) :
    normalizeAdvertisedRoutes routes = routes := by
  have same : routes.filterMap (fun route => (normalizeAdvertisedRoute route).filter fun _ => true) = routes := by
    rw [List.filterMap_congr (g := some) fun route mem => by rw [normal route mem]; rfl, List.filterMap_some]
  rw [normalizeAdvertisedRoutes, normalizeRoutes, same, foldl_pushUnique_of_nodup (by simpa using distinct),
    List.nil_append]

/-- A default that is filled in stays. -/
theorem fill_idem {α : Type} (missing : α → Bool) (default value : α) :
    (if missing (if missing value then default else value) then default
      else if missing value then default else value) = if missing value then default else value := by
  split_ifs <;> rfl

theorem ensureNode_idem (node : NodeConfig) :
    AppConfig.ensureNode generated (AppConfig.ensureNode generated node) =
      AppConfig.ensureNode generated node := by
  have kept : normalizeAdvertisedRoutes ((normalizeAdvertisedRoutes node.advertisedRoutes).filter
      fun route => !isExitNodeRoute route) =
        (normalizeAdvertisedRoutes node.advertisedRoutes).filter fun route => !isExitNodeRoute route := by
    refine normalizeAdvertisedRoutes_eq_self ((nodup_foldl_pushUnique _ List.nodup_nil).filter _) fun route mem => ?_
    obtain ⟨-, value, -, normal⟩ := mem_normalizeRoutes.mp (List.mem_of_mem_filter mem)
    obtain ⟨p, rfl, -⟩ := normalizeAdvertisedRoute_eq_some.mp normal
    exact normalizeAdvertisedRoute_eq_some.mpr ⟨p, rfl, denotes_fmt p⟩
  have none' : ((normalizeAdvertisedRoutes node.advertisedRoutes).filter
      fun route => !isExitNodeRoute route).any isExitNodeRoute = false := by
    rw [List.any_eq_false]
    intro route mem
    simpa using (List.mem_filter.mp mem).2
  have keys := fill_idem (fun keys : String × String => isBlank keys.1 || isBlank keys.2) generated.keyPair
    (node.privateKey, node.publicKey)
  have port := fill_idem (fun port : UInt16 => port = 0) 51820 node.listenPort
  simp only [decide_eq_true_eq] at port
  simp only [AppConfig.ensureNode, kept, none', Bool.or_false, NodeConfig.mk.injEq, and_true]
  exact ⟨fill_idem isBlank _ _, congrArg Prod.fst keys, congrArg Prod.snd keys, fill_idem isBlank _ _,
    fill_idem isBlank _ _, port, List.filter_eq_self.mpr fun route mem => (List.mem_filter.mp mem).2⟩

theorem trim_defaultNetworkName (ordinal : Nat) : trim (defaultNetworkName ordinal) = defaultNetworkName ordinal := by
  have word : "Network ".toList = ['N', 'e', 't', 'w', 'o', 'r', 'k', ' '] := by decide +kernel
  have text : (defaultNetworkName ordinal).toList = "Network ".toList ++ (fmtNat ordinal).toList := by
    rw [defaultNetworkName, String.toList_append]
  have digits : (fmtNat ordinal).toList ≠ [] := by
    rw [fmtNat, String.toList_ofList]
    exact fmtRadix_ne_nil 10 ordinal
  have front : (defaultNetworkName ordinal).toList.dropWhile isWhitespace = (defaultNetworkName ordinal).toList := by
    rw [text, word]
    rfl
  have back : (defaultNetworkName ordinal).toList.rdropWhile isWhitespace = (defaultNetworkName ordinal).toList := by
    refine List.rdropWhile_eq_self_iff.mpr fun nonempty blank => ?_
    have last : (defaultNetworkName ordinal).toList.getLast nonempty ∈ (fmtNat ordinal).toList := by
      simp only [text, List.getLast_append_of_ne_nil _ digits]
      exact List.getLast_mem digits
    rw [Net.isWhitespace_of_mem_fmtNat last] at blank
    cases blank
  rw [trim, front, back, String.ofList_toList]

/-! ## One network -/

theorem sortDedup_normal (lawful : sdk.Lawful) (texts : List String) :
    sortDedup ((sortDedup (texts.filterMap (normalPubkey? sdk))).filterMap (normalPubkey? sdk)) =
      sortDedup (texts.filterMap (normalPubkey? sdk)) := by
  refine sortDedup_congr fun key => ?_
  simp only [List.mem_filterMap, mem_sortDedup]
  have normal {text key : String} (parsed : normalPubkey? sdk text = some key) : normalPubkey? sdk key = some key :=
    normalPubkey?_eq_some.mpr (lawful.parse_hex (normalPubkey?_eq_some.mp parsed))
  constructor
  · rintro ⟨between, ⟨text, mem, parsed⟩, again⟩
    obtain rfl := Option.some.inj ((normal parsed).symm.trans again)
    exact ⟨text, mem, parsed⟩
  · rintro ⟨text, mem, parsed⟩
    exact ⟨key, ⟨text, mem, parsed⟩, normal parsed⟩

theorem normalizeNetworkAdmins_single {key inviter : String} (normal : normalPubkey? sdk key = some key) :
    normalizeNetworkAdmins sdk [key] own inviter = [key] := by
  have single : sortDedup ([key].filterMap (normalPubkey? sdk)) = [key] := by
    rw [List.filterMap_cons_some normal]
    rfl
  rw [normalizeNetworkAdmins, single]
  exact if_pos (List.cons_ne_nil _ _)

theorem normalizeNetworkAdmins_idem (lawful : sdk.Lawful) (self : ∀ key ∈ own, normalPubkey? sdk key = some key)
    (admins : List String) {inviter : String} (normal : ∀ key, normalPubkey? sdk inviter = some key →
      normalPubkey? sdk key = some key) :
    normalizeNetworkAdmins sdk (normalizeNetworkAdmins sdk admins own inviter) own inviter =
      normalizeNetworkAdmins sdk admins own inviter := by
  have again := @sortDedup_normal sdk lawful admins
  by_cases some' : sortDedup (admins.filterMap (normalPubkey? sdk)) ≠ []
  · have made : normalizeNetworkAdmins sdk admins own inviter = sortDedup (admins.filterMap (normalPubkey? sdk)) :=
      if_pos some'
    rw [made, normalizeNetworkAdmins, again]
    exact if_pos some'
  · cases invited : normalPubkey? sdk inviter with
    | some key =>
      have made : normalizeNetworkAdmins sdk admins own inviter = [key] := by
        rw [normalizeNetworkAdmins, if_neg some', invited]
      rw [made]
      exact normalizeNetworkAdmins_single (normal key invited)
    | none =>
      have made : normalizeNetworkAdmins sdk admins own inviter = own.toList := by
        rw [normalizeNetworkAdmins, if_neg some', invited]
      rw [made]
      cases own with
      | some key => exact normalizeNetworkAdmins_single (self key rfl)
      | none => simp [normalizeNetworkAdmins, sortDedup, invited]

theorem normalizeOutboundJoinRequest_idem (lawful : sdk.Lawful) (request : Option PendingOutboundJoinRequest) :
    normalizeOutboundJoinRequest sdk (normalizeOutboundJoinRequest sdk request) =
      normalizeOutboundJoinRequest sdk request := by
  cases request with
  | none => rfl
  | some request =>
    cases parsed : normalPubkey? sdk request.recipient with
    | none => simp [normalizeOutboundJoinRequest, parsed]
    | some key =>
      have normal := normalPubkey?_eq_some.mpr (lawful.parse_hex (normalPubkey?_eq_some.mp parsed))
      simp [normalizeOutboundJoinRequest, parsed, normal]

/-- New requesters, in normal form, are all taken over. -/
theorem values_dedup {participants : List String} {requests : List PendingInboundJoinRequest}
    {deduped : HashMap String PendingInboundJoinRequest}
    (normal : ∀ request ∈ requests, normalPubkey? sdk request.requester = some request.requester)
    (outside : ∀ request ∈ requests, request.requester ∉ participants)
    (trimmed : ∀ request ∈ requests, trim request.requesterNodeName = request.requesterNodeName)
    (distinct : (requests.map fun request => request.requester).Nodup)
    (fresh : ∀ request ∈ requests, request.requester ∉ deduped.toList.map Prod.fst) :
    (requests.foldl (dedupInboundJoinRequest sdk participants) deduped).values =
      requests.reverse ++ deduped.values := by
  induction requests generalizing deduped with
  | nil => rfl
  | cons request rest ih =>
    simp only [List.forall_mem_cons] at normal outside trimmed fresh
    rw [List.map_cons, List.nodup_cons] at distinct
    have unknown : deduped.lookup request.requester = none := by
      cases found : deduped.lookup request.requester with
      | none => rfl
      | some other => exact absurd (List.mem_map_of_mem (HashMap.mem_toList.mpr found)) fresh.1
    have taken : dedupInboundJoinRequest sdk participants deduped request =
        deduped.insert request.requester request := by
      simp [dedupInboundJoinRequest, normal.1, outside.1, unknown, trimmed.1]
    have table := @HashMap.toList_insert_of_fresh _ _ _ _ request _ fresh.1
    have values (m : HashMap String PendingInboundJoinRequest) : m.values = m.toList.map Prod.snd := by
      simp [HashMap.values, HashMap.toList, Function.comp_def]
    rw [List.foldl_cons, taken, ih normal.2 outside.2 trimmed.2 distinct.2 fun other mem => ?_, values, table,
      List.map_cons, values]
    · simp
    · rw [table, List.map_cons, List.mem_cons, not_or]
      exact ⟨fun same => distinct.1 (List.mem_map.mpr ⟨other, mem, same⟩), fresh.2 other mem⟩

/-- The names on a normalised list are trimmed. -/
theorem trimmed_of_mem_normalize {participants : List String} {requests : List PendingInboundJoinRequest}
    {request : PendingInboundJoinRequest}
    (mem : request ∈ normalizeInboundJoinRequests sdk requests participants) :
    trim request.requesterNodeName = request.requesterNodeName := by
  have step (deduped : HashMap String PendingInboundJoinRequest)
      (all : deduped.All fun _ request => trim request.requesterNodeName = request.requesterNodeName)
      (request : PendingInboundJoinRequest) : HashMap.All (dedupInboundJoinRequest sdk participants deduped request)
        fun _ request => trim request.requesterNodeName = request.requesterNodeName := by
    unfold dedupInboundJoinRequest
    split
    · exact all
    · split_ifs
      · exact all
      · exact all
      · exact all.insert (trim_trim _)
  have kept := List.foldlRecOn (motive := fun deduped : HashMap String PendingInboundJoinRequest =>
      deduped.All fun _ request => trim request.requesterNodeName = request.requesterNodeName) requests
    (dedupInboundJoinRequest sdk participants) HashMap.All.empty fun deduped all request _ => step deduped all request
  rw [normalizeInboundJoinRequests, mem_sortByKey] at mem
  exact kept.of_mem_values mem

theorem eq_of_orderly {requests requests' : List PendingInboundJoinRequest} (orderly : Orderly requests)
    (orderly' : Orderly requests') (same : requests.Perm requests') : requests = requests' :=
  List.Perm.eq_of_pairwise (fun _ _ _ _ less more => absurd (less.trans more) (lt_irrefl _))
    (List.pairwise_map.mp orderly) (List.pairwise_map.mp orderly') same

theorem normalizeInboundJoinRequests_idem (lawful : sdk.Lawful) (requests : List PendingInboundJoinRequest)
    (participants : List String) :
    normalizeInboundJoinRequests sdk (normalizeInboundJoinRequests sdk requests participants) participants =
      normalizeInboundJoinRequests sdk requests participants := by
  have orderly := @orderly_normalize sdk requests participants
  have members (request : PendingInboundJoinRequest)
      (mem : request ∈ normalizeInboundJoinRequests sdk requests participants) :=
    And.intro (normal_of_mem_normalize lawful mem)
      (And.intro (of_mem_normalize mem).1 (trimmed_of_mem_normalize mem))
  generalize normalizeInboundJoinRequests sdk requests participants = normalized at orderly members
  have values := @values_dedup sdk participants normalized ∅ (fun request mem => (members request mem).1)
    (fun request mem => (members request mem).2.1) (fun request mem => (members request mem).2.2)
    (orderly.imp ne_of_lt) (by simp [HashMap.toList])
  have empty : HashMap.values (∅ : HashMap String PendingInboundJoinRequest) = [] := rfl
  rw [empty, List.append_nil] at values
  rw [normalizeInboundJoinRequests, values]
  refine eq_of_orderly (orderly_sortByKey ?_) orderly ((perm_sortByKey _ _).trans (List.reverse_perm _))
  rw [List.map_reverse, List.nodup_reverse]
  exact orderly.imp ne_of_lt

theorem deriveDefaultNetworkId_eq (network : NetworkConfig) : network.deriveDefaultNetworkId sha256 own =
    { network with networkId := (network.deriveDefaultNetworkId sha256 own).networkId } := by
  unfold NetworkConfig.deriveDefaultNetworkId
  cases own with
  | none => split_ifs <;> rfl
  | some own =>
    dsimp only
    split_ifs <;> rfl

/-- Whatever its mesh id, a network with its defaults keeps everything else when its entry id is given again. -/
theorem ensureDefaults_again (lawful : sdk.Lawful) (npubs : sdk.Npubs)
    (self : ∀ key ∈ own, normalPubkey? sdk key = some key) (network : NetworkConfig) {ordinal : Nat}
    {used used' : List String} {meshId : String} {enabled : Bool}
    (same : uniquifyNetworkEntryId (askedEntryId ordinal (network.ensureDefaults sdk own ordinal used).id) used' =
      (network.ensureDefaults sdk own ordinal used).id) :
    NetworkConfig.ensureDefaults sdk own ordinal used'
        { network.ensureDefaults sdk own ordinal used with networkId := meshId, enabled } =
      { network.ensureDefaults sdk own ordinal used with
        networkId := if isBlank meshId then defaultNetworkId else meshId, enabled } := by
  have name : (if isBlank (if isBlank network.name then defaultNetworkName ordinal else trim network.name) then
      defaultNetworkName ordinal
      else trim (if isBlank network.name then defaultNetworkName ordinal else trim network.name)) =
        if isBlank network.name then defaultNetworkName ordinal else trim network.name := by
    split_ifs with blank _ _ <;> simp_all [trim_defaultNetworkName]
  have inviter := normalPubkey?_getD lawful npubs network.inviteInviter
  have signer := normalPubkey?_getD lawful npubs network.sharedRosterSignedBy
  have participants := @sortDedup_normal sdk lawful network.participants
  have admins := @normalizeNetworkAdmins_idem sdk own lawful self network.admins
    ((normalPubkey? sdk network.inviteInviter).getD "") fun key parsed =>
      normalPubkey?_eq_some.mpr (lawful.parse_hex (normalPubkey?_eq_some.mp parsed))
  have stamp : (if (normalPubkey? sdk network.sharedRosterSignedBy).getD "" = "" then 0
      else if (normalPubkey? sdk network.sharedRosterSignedBy).getD "" = "" then 0
        else network.sharedRosterUpdatedAt) =
      if (normalPubkey? sdk network.sharedRosterSignedBy).getD "" = "" then 0
      else network.sharedRosterUpdatedAt := by
    split_ifs <;> rfl
  unfold NetworkConfig.ensureDefaults at same ⊢
  dsimp only at same ⊢
  rw [NetworkConfig.mk.injEq]
  refine ⟨same, name, rfl, rfl, participants, ?_, rfl, ?_, ?_, ?_, ?_, ?_⟩
  · rw [inviter]
    exact admins
  · rw [inviter]
  · exact normalizeOutboundJoinRequest_idem lawful _
  · rw [participants]
    exact normalizeInboundJoinRequests_idem lawful _ _
  · rw [signer]
    exact stamp
  · rw [signer]

/-- The mesh id that `ensure_defaults` leaves a network with the participants. -/
def ensuredMeshId (sdk : NostrSdk) (sha256 : Sha256) (own : Option String) (networkId : String)
    (participants : List String) : String :=
  if usesDefaultNetworkId networkId then
    meshIdOf sha256 (own.bind fun own =>
      let participants := sortDedup (participants.filterMap (normalPubkey? sdk))
      if participants = [] then none else some (sortDedup (participants ++ [own])))
  else networkId

theorem ensuredMeshId_again (lawful : sdk.Lawful) (networkId : String) (participants : List String) :
    ensuredMeshId sdk sha256 own (ensuredMeshId sdk sha256 own networkId participants)
        (sortDedup (participants.filterMap (normalPubkey? sdk))) =
      ensuredMeshId sdk sha256 own networkId participants := by
  unfold ensuredMeshId
  rw [sortDedup_normal lawful]
  split_ifs <;> rfl

/-- A network with its defaults and its mesh id keeps them. -/
theorem deriveDefaultNetworkId_again (lawful : sdk.Lawful) (npubs : sdk.Npubs)
    (self : ∀ key ∈ own, normalPubkey? sdk key = some key) (network : NetworkConfig) {ordinal : Nat}
    {used used' : List String} {enabled : Bool}
    (same : uniquifyNetworkEntryId (askedEntryId ordinal (network.ensureDefaults sdk own ordinal used).id) used' =
      (network.ensureDefaults sdk own ordinal used).id) :
    NetworkConfig.deriveDefaultNetworkId sha256 own (NetworkConfig.ensureDefaults sdk own ordinal used'
        { (network.ensureDefaults sdk own ordinal used).deriveDefaultNetworkId sha256 own with enabled }) =
      { (network.ensureDefaults sdk own ordinal used).deriveDefaultNetworkId sha256 own with enabled } := by
  have first : ((network.ensureDefaults sdk own ordinal used).deriveDefaultNetworkId sha256 own).networkId =
      ensuredMeshId sdk sha256 own network.networkId network.participants := networkId_ensured own ordinal used network
  have members : (network.ensureDefaults sdk own ordinal used).participants =
    sortDedup (network.participants.filterMap (normalPubkey? sdk)) := rfl
  have again := @ensureDefaults_again sdk own lawful npubs self network ordinal used used'
    (ensuredMeshId sdk sha256 own network.networkId network.participants) enabled same
  have second := @networkId_ensured sdk sha256 own ordinal used'
    { network.ensureDefaults sdk own ordinal used with
      networkId := ensuredMeshId sdk sha256 own network.networkId network.participants, enabled }
  have kept : _ = ensuredMeshId sdk sha256 own (ensuredMeshId sdk sha256 own network.networkId network.participants)
    (network.ensureDefaults sdk own ordinal used).participants := second
  rw [members, ensuredMeshId_again lawful, again] at kept
  rw [deriveDefaultNetworkId_eq (network.ensureDefaults sdk own ordinal used), first, again,
    deriveDefaultNetworkId_eq, kept]

/-! ## All networks -/

/-- Networks with their defaults, their mesh ids and any one enabled. -/
def Ensured (sha256 : Sha256) (own : Option String) (made networks : List NetworkConfig) : Prop :=
  List.Forall₂ (fun made network => ∃ enabled, network = { made.deriveDefaultNetworkId sha256 own with enabled })
    made networks

theorem deriveDefaultNetworkId_flag (network : NetworkConfig) (enabled : Bool) :
    NetworkConfig.deriveDefaultNetworkId sha256 own { network with enabled } =
      { network.deriveDefaultNetworkId sha256 own with enabled } := by
  unfold NetworkConfig.deriveDefaultNetworkId
  cases own with
  | none => dsimp only; split_ifs <;> rfl
  | some own => dsimp only; split_ifs <;> rfl

theorem ensured_enableAt (index : Nat) (made : List NetworkConfig) :
    Ensured sha256 own made ((enableAt index made).map (NetworkConfig.deriveDefaultNetworkId sha256 own)) := by
  refine List.forall₂_iff_get.mpr ⟨by simp [enableAt], fun i inside inside' => ?_⟩
  refine ⟨i == index, ?_⟩
  simp only [List.get_eq_getElem, List.getElem_map, enableAt, List.getElem_mapIdx]
  exact deriveDefaultNetworkId_flag _ _

theorem ensureNetworks_again (lawful : sdk.Lawful) (npubs : sdk.Npubs)
    (self : ∀ key ∈ own, normalPubkey? sdk key = some key) {ordinal : Nat} {used : List String}
    {networks ensured : List NetworkConfig} (few : ordinal + networks.length ≤ 2 ^ 64)
    (fit : EntryIdsFit ordinal used (networks.map NetworkConfig.id))
    (made : Ensured sha256 own (ensureNetworks sdk own ordinal used networks) ensured) :
    (ensureNetworks sdk own ordinal used ensured).map (NetworkConfig.deriveDefaultNetworkId sha256 own) = ensured := by
  induction networks generalizing ordinal used ensured with
  | nil =>
    cases made
    rfl
  | cons network rest ih =>
    rw [List.length_cons] at few
    obtain ⟨here, later⟩ := fit
    cases made with
    | cons head tail =>
      obtain ⟨enabled, rfl⟩ := head
      have same := (@uniquify_asked_iff _ used ordinal (isMagicDnsLabel_asked (by omega))).mpr here
      have kept := @deriveDefaultNetworkId_again sdk sha256 own lawful npubs self network ordinal used used enabled same
      have id : (NetworkConfig.ensureDefaults sdk own ordinal used { (network.ensureDefaults sdk own ordinal used
          ).deriveDefaultNetworkId sha256 own with enabled }).id =
            (network.ensureDefaults sdk own ordinal used).id := by
        have ids := congrArg NetworkConfig.id kept
        rw [AppConfig.id_deriveDefaultNetworkId] at ids
        exact ids.trans (AppConfig.id_deriveDefaultNetworkId ..)
      rw [ensureNetworks, List.map_cons, kept, id]
      exact congrArg _ (ih (by omega) later tail)

/-! ## The aliases -/

/-- A label that was made unique is made the same label again. -/
theorem uniquify_again {base : String} (valid : IsMagicDnsLabel base) (used : List String) :
    uniquifyMagicDnsLabel (uniquifyMagicDnsLabel base used).1 used = uniquifyMagicDnsLabel base used := by
  have nonempty := nonempty_of_isMagicDnsLabel valid
  by_cases free : FreeLabel base used
  · obtain ⟨label, eq, unused, made⟩ := uniquify_of_free nonempty free
    have filled := nonempty_of_isMagicDnsLabel (isMagicDnsLabel_of_made valid made)
    rw [eq, uniquifyMagicDnsLabel, if_neg filled, if_pos unused]
  · rw [(uniquify_of_taken nonempty free).1, (uniquify_of_taken nonempty free).1]

section Aliases
variable {members : List String} {acc acc' : HashMap String String × List String × HashMap String String}

theorem lookup_foldl_assignAlias {key : String} (other : key ∉ members.map (npubForPubkeyHex sdk)) :
    (members.foldl (AppConfig.assignAlias sdk sha256) acc).2.2.lookup key = acc.2.2.lookup key := by
  induction members generalizing acc with
  | nil => rfl
  | cons member rest ih =>
    rw [List.map_cons, List.mem_cons, not_or] at other
    rw [List.foldl_cons, ih other.2, assignAlias_eq]
    exact AList.lookup_insert_ne other.1

/-- A loop that starts with the labels that a loop has given gives them again. -/
theorem foldl_assignAlias_again (hex : sdk.HexKeys) (normal : ∀ member ∈ members, normalPubkey? sdk member = some member)
    (distinct : (members.map (npubForPubkeyHex sdk)).Nodup)
    (stored : acc.1.All fun _ label => IsMagicDnsLabel label) (rest : acc.2 = acc'.2)
    (given : ∀ member ∈ members, acc'.1.lookup (npubForPubkeyHex sdk member) =
      (members.foldl (AppConfig.assignAlias sdk sha256) acc).2.2.lookup (npubForPubkeyHex sdk member)) :
    (members.foldl (AppConfig.assignAlias sdk sha256) acc').2 =
      (members.foldl (AppConfig.assignAlias sdk sha256) acc).2 := by
  induction members generalizing acc acc' with
  | nil => exact rest.symm
  | cons member members ih =>
    rw [List.map_cons, List.nodup_cons] at distinct
    have valid := @isMagicDnsLabel_preferred sdk sha256 member acc hex (normal member (by simp)) stored
    have label : acc'.1.lookup (npubForPubkeyHex sdk member) =
        some (uniquifyMagicDnsLabel (preferredAlias sdk sha256 acc member) acc.2.1).1 := by
      rw [given member (by simp), List.foldl_cons, lookup_foldl_assignAlias distinct.1, assignAlias_eq]
      exact AList.lookup_insert _
    have preferred : preferredAlias sdk sha256 acc' member =
        (uniquifyMagicDnsLabel (preferredAlias sdk sha256 acc member) acc.2.1).1 := by
      rw [preferredAlias, label, Option.getD_some]
    have next : (AppConfig.assignAlias sdk sha256 acc member).2 = (AppConfig.assignAlias sdk sha256 acc' member).2 := by
      rw [assignAlias_eq, assignAlias_eq, preferred, ← rest, uniquify_again valid]
    rw [List.foldl_cons, List.foldl_cons]
    refine ih (fun other mem => normal other (List.mem_cons_of_mem _ mem)) distinct.2 (stored.erase _) next
      fun other mem => ?_
    have apart : npubForPubkeyHex sdk other ≠ npubForPubkeyHex sdk member := fun same =>
      distinct.1 (same ▸ List.mem_map_of_mem mem)
    have kept := given other (List.mem_cons_of_mem _ mem)
    rw [List.foldl_cons] at kept
    rw [← kept, assignAlias_eq]
    exact AList.lookup_erase_ne apart

end Aliases

/-- Names under npubs are stored as they are. -/
theorem storedAliases_of_names {aliases : HashMap String String}
    (names : ∀ entry ∈ aliases.toList, storedName sdk entry = some entry) :
    SameEntries (storedAliases sdk aliases) aliases := by
  have agree : HashMap.Agree (storedName sdk) aliases.toList := by
    intro i mem j mem' key label label' claim claim'
    obtain rfl := Option.some.inj ((names i mem).symm.trans claim)
    obtain rfl := Option.some.inj ((names j mem').symm.trans claim')
    exact Option.some.inj ((HashMap.mem_toList.mp mem).symm.trans (HashMap.mem_toList.mp mem'))
  intro key
  refine Option.ext fun label => ?_
  rw [storedAliases_eq, HashMap.lookup_insertAll agree]
  constructor
  · rintro (⟨entry, mem, claim⟩ | ⟨-, found⟩)
    · obtain rfl := Option.some.inj ((names entry mem).symm.trans claim)
      exact HashMap.mem_toList.mp mem
    · simp at found
  · intro found
    have mem := HashMap.mem_toList.mpr found
    exact .inl ⟨_, mem, names _ mem⟩

theorem normalizePeerAliases_idem (lawful : sdk.Lawful) (npubs : sdk.Npubs) (hex : sdk.HexKeys) {config : AppConfig}
    (normal : ∀ member ∈ config.allNetworkMemberPubkeysHex, normalPubkey? sdk member = some member) :
    (config.normalizePeerAliases sdk sha256).normalizePeerAliases sdk sha256 =
      config.normalizePeerAliases sdk sha256 := by
  have distinct := nodup_npubs lawful normal (nodup_sortDedup _)
  have stored := @stored_storedAliases sdk config.peerAliases
  have labels := @stored_loop sdk sha256 hex _ normal (storedAliases sdk config.peerAliases,
    config.preferredSelfMagicDnsLabel.toList, ∅) stored HashMap.All.empty
  have names : ∀ entry ∈ (config.normalizePeerAliases sdk sha256).peerAliases.toList,
      storedName sdk entry = some entry := by
    rintro ⟨key, label⟩ mem
    have found := HashMap.mem_toList.mp mem
    have listed : key ∈ config.allNetworkMemberPubkeysHex.map (npubForPubkeyHex sdk) := by
      by_contra other
      have none' := @lookup_foldl_assignAlias sdk sha256 _ (storedAliases sdk config.peerAliases,
        config.preferredSelfMagicDnsLabel.toList, ∅) key other
      have found' := none'.symm.trans found
      simp at found'
    obtain ⟨member, mem', rfl⟩ := List.mem_map.mp listed
    have npub := normalizeNpubKey_npub lawful npubs (normal member mem')
    have valid : normalizeMagicDnsLabel label = some label := labels _ _ found
    simp [storedName, npub, valid]
  have same := storedAliases_of_names names
  have again := @foldl_assignAlias_again sdk sha256 _ (storedAliases sdk config.peerAliases,
      config.preferredSelfMagicDnsLabel.toList, ∅) (storedAliases sdk (config.normalizePeerAliases sdk sha256
      ).peerAliases, config.preferredSelfMagicDnsLabel.toList, ∅) hex normal distinct stored rfl
    fun member _ => same _
  have table : ((config.normalizePeerAliases sdk sha256).normalizePeerAliases sdk sha256).peerAliases =
      (config.normalizePeerAliases sdk sha256).peerAliases := congrArg Prod.snd again
  have shape (config : AppConfig) : config.normalizePeerAliases sdk sha256 =
    { config with peerAliases := (config.normalizePeerAliases sdk sha256).peerAliases } := rfl
  rw [shape (config.normalizePeerAliases sdk sha256), table]

/-! ## The whole configuration -/

section Whole
variable {config : AppConfig}

theorem nostr_eq_self {after : AppConfig} {secretKey publicKey : String} (secret : after.nostr.secretKey = secretKey)
    (key : after.nostr.publicKey = publicKey) :
    { after with nostr := { after.nostr with secretKey, publicKey } } = after := by
  subst secret key
  rfl

theorem ensureNostrIdentity_of_generated (named : isBlank generated.nostrIdentity.2 = false) {after : AppConfig}
    (secret : after.nostr.secretKey = generated.nostrIdentity.1)
    (key : after.nostr.publicKey = generated.nostrIdentity.2) : after.ensureNostrIdentity sdk generated = after := by
  have same := nostr_eq_self secret key
  have filled : isBlank after.nostr.publicKey = false := key ▸ named
  unfold AppConfig.ensureNostrIdentity
  simp only [filled, Bool.false_eq_true, if_false]
  split_ifs
  · exact same
  · split
    · exact same
    · rfl

/-- The keys that `ensure_nostr_identity` leaves need no identity. -/
theorem ensureNostrIdentity_of_keys (named : isBlank generated.nostrIdentity.2 = false) {after : AppConfig}
    (secret : after.nostr.secretKey = (config.ensureNostrIdentity sdk generated).nostr.secretKey)
    (key : after.nostr.publicKey = (config.ensureNostrIdentity sdk generated).nostr.publicKey) :
    after.ensureNostrIdentity sdk generated = after := by
  unfold AppConfig.ensureNostrIdentity at secret key
  dsimp only at secret key
  cases blank : isBlank config.nostr.secretKey with
  | true =>
    rw [blank, if_pos rfl] at secret key
    exact ensureNostrIdentity_of_generated named secret key
  | false =>
    rw [blank, if_neg Bool.false_ne_true] at secret key
    cases parsed : sdk.publicKeyOfSecret config.nostr.secretKey with
    | error error =>
      simp only [parsed] at secret key
      exact ensureNostrIdentity_of_generated named secret key
    | ok publicKey =>
      simp only [parsed] at secret key
      cases missing : isBlank config.nostr.publicKey with
      | true =>
        rw [missing, if_pos rfl] at secret key
        have same := nostr_eq_self rfl key
        rw [AppConfig.ensureNostrIdentity, secret, blank, if_neg Bool.false_ne_true, parsed]
        dsimp only
        split_ifs
        · exact same
        · rfl
      | false =>
        rw [missing, if_neg Bool.false_ne_true] at secret key
        rw [AppConfig.ensureNostrIdentity, secret, blank, if_neg Bool.false_ne_true, parsed]
        dsimp only
        rw [key, missing, if_neg Bool.false_ne_true]

/-- The settings that `ensure_fields` fills in are the same. -/
structure SameFields (config after : AppConfig) : Prop where
  autoDisconnect : after.autoDisconnectRelaysWhenMeshReady = config.autoDisconnectRelaysWhenMeshReady
  nodeName : after.nodeName = config.nodeName
  magicDnsSuffix : after.magicDnsSuffix = config.magicDnsSuffix
  nostr : after.nostr = config.nostr
  node : after.node = config.node

theorem SameFields.trans {config between after : AppConfig} (first : SameFields config between)
    (second : SameFields between after) : SameFields config after where
  autoDisconnect := second.autoDisconnect.trans first.autoDisconnect
  nodeName := second.nodeName.trans first.nodeName
  magicDnsSuffix := second.magicDnsSuffix.trans first.magicDnsSuffix
  nostr := second.nostr.trans first.nostr
  node := second.node.trans first.node

theorem sameFields_networkStages (own : Option String) (config : AppConfig) :
    SameFields config ((((config.ensureExitNode sdk).ensureNetworkList sdk own).ensureSingleActiveNetwork
      ).deriveDefaultNetworkIds sdk sha256) := ⟨rfl, rfl, rfl, rfl, rfl⟩

theorem sameFields_normalizeSelectedExitNode (config : AppConfig) :
    SameFields config config.normalizeSelectedExitNode := by
  unfold AppConfig.normalizeSelectedExitNode
  split_ifs <;> exact ⟨rfl, rfl, rfl, rfl, rfl⟩

theorem sameFields_normalizePeerAliases (config : AppConfig) :
    SameFields config (config.normalizePeerAliases sdk sha256) := ⟨rfl, rfl, rfl, rfl, rfl⟩

theorem sameFields_ensureDefaults (config : AppConfig) :
    SameFields ((config.ensureNostrIdentity sdk generated).ensureFields sha256 generated
      ((config.ensureNostrIdentity sdk generated).ownPubkey sdk)) (config.ensureDefaults sdk sha256 generated) := by
  unfold AppConfig.ensureDefaults
  dsimp only
  exact ((sameFields_networkStages _ _).trans (sameFields_normalizeSelectedExitNode _)).trans
    (sameFields_normalizePeerAliases _)

/-- The node name that `ensure_node_name` leaves. -/
def ensuredNodeName (sha256 : Sha256) (generated : Generated) (own : Option String) (name : String) : String :=
  if usesDefaultNodeName sha256 name own then
    match own with
    | some own => defaultNodeNameForHostnameOrPubkey sha256 generated.hostname own
    | none => (generated.hostname.bind defaultNodeNameFromHostname).getD legacyDefaultNodeName
  else name

theorem ensuredNodeName_idem (own : Option String) (name : String) :
    ensuredNodeName sha256 generated own (ensuredNodeName sha256 generated own name) =
      ensuredNodeName sha256 generated own name :=
  fill_idem (fun name => usesDefaultNodeName sha256 name own) _ name

theorem ensureNodeName_eq (config : AppConfig) : config.ensureNodeName sha256 generated own =
    { config with nodeName := ensuredNodeName sha256 generated own config.nodeName } := by
  unfold AppConfig.ensureNodeName ensuredNodeName
  cases usesDefaultNodeName sha256 config.nodeName own <;> rfl

theorem ensureFields_eq (config : AppConfig) : config.ensureFields sha256 generated own =
    { config with
      autoDisconnectRelaysWhenMeshReady := false
      nodeName := ensuredNodeName sha256 generated own config.nodeName
      magicDnsSuffix := normalizeMagicDnsSuffix config.magicDnsSuffix
      nostr := { config.nostr with
        relays := if config.nostr.relays = [] then defaultRelays else config.nostr.relays }
      node := AppConfig.ensureNode generated config.node } := by
  rw [AppConfig.ensureFields, ensureNodeName_eq]

theorem fields_eq_self {after : AppConfig} {nodeName magicDnsSuffix : String} {relays : List String}
    {node : NodeConfig} (auto : after.autoDisconnectRelaysWhenMeshReady = false) (named : after.nodeName = nodeName)
    (suffixed : after.magicDnsSuffix = magicDnsSuffix) (relayed : after.nostr.relays = relays)
    (noded : after.node = node) :
    { after with
      autoDisconnectRelaysWhenMeshReady := false, nodeName, magicDnsSuffix
      nostr := { after.nostr with relays }, node } = after := by
  subst named suffixed relayed noded
  rw [← auto]

theorem ensureFields_of_sameFields {filled after : AppConfig}
    (same : SameFields (filled.ensureFields sha256 generated own) after) :
    after.ensureFields sha256 generated own = after := by
  obtain ⟨auto, name, suffix, nostr, node⟩ := same
  rw [ensureFields_eq] at auto name suffix nostr node
  dsimp only at auto name suffix nostr node
  have relays := congrArg NostrConfig.relays nostr
  rw [ensureFields_eq]
  refine fields_eq_self auto ?_ ?_ ?_ ?_
  · rw [name, ensuredNodeName_idem]
  · rw [suffix, normalizeMagicDnsSuffix_idem]
  · have again := fill_idem (fun relays : List String => decide (relays = [])) defaultRelays filled.nostr.relays
    simp only [decide_eq_true_eq] at again
    rw [relays]
    exact again.symm
  · rw [node, ensureNode_idem]

theorem ensureNostrIdentity_idem (named : isBlank generated.nostrIdentity.2 = false) (config : AppConfig) :
    (config.ensureDefaults sdk sha256 generated).ensureNostrIdentity sdk generated =
      config.ensureDefaults sdk sha256 generated := by
  have nostr := (@sameFields_ensureDefaults sdk sha256 generated config).nostr
  rw [ensureFields_eq] at nostr
  have secret := congrArg NostrConfig.secretKey nostr
  have key := congrArg NostrConfig.publicKey nostr
  exact @ensureNostrIdentity_of_keys sdk generated config named _ secret key

theorem normalizeSelectedExitNode_eq (config : AppConfig) : config.normalizeSelectedExitNode =
    { config with exitNode := if config.exitNode = "" ∨ config.exitNode ∈ config.activeNetworkSignalPubkeysHex then
        config.exitNode else "" } := by
  unfold AppConfig.normalizeSelectedExitNode
  split_ifs <;> rfl

/-- The exit node that `ensure_defaults` leaves is none, or a key other than the own one. -/
theorem exitNode_ensureDefaults (lawful : sdk.Lawful) (config : AppConfig) :
    (config.ensureDefaults sdk sha256 generated).exitNode = "" ∨
      normalPubkey? sdk (config.ensureDefaults sdk sha256 generated).exitNode =
          some (config.ensureDefaults sdk sha256 generated).exitNode ∧
        (config.ensureDefaults sdk sha256 generated).ownPubkey sdk ≠
          some (config.ensureDefaults sdk sha256 generated).exitNode := by
  rw [ownPubkey_ensureDefaults]
  unfold AppConfig.ensureDefaults
  dsimp only
  generalize config.ensureNostrIdentity sdk generated = known
  have last (config : AppConfig) : (config.normalizePeerAliases sdk sha256).exitNode = config.exitNode := rfl
  have networks (own : Option String) (config : AppConfig) : (((config.ensureNetworkList sdk own
      ).ensureSingleActiveNetwork).deriveDefaultNetworkIds sdk sha256).exitNode = config.exitNode := rfl
  have same : (known.ensureFields sha256 generated (known.ownPubkey sdk)).ownPubkey sdk = known.ownPubkey sdk := by
    rw [ensureFields_eq]
    rfl
  rw [last, normalizeSelectedExitNode_eq]
  dsimp only
  split_ifs with kept
  · rw [networks, AppConfig.ensureExitNode, same]
    dsimp only
    split_ifs with self
    · exact .inl rfl
    · cases parsed : normalPubkey? sdk (trim (known.ensureFields sha256 generated (known.ownPubkey sdk)).exitNode) with
      | none => exact .inl rfl
      | some key =>
        rw [parsed] at self
        exact .inr ⟨normalPubkey?_eq_some.mpr (lawful.parse_hex (normalPubkey?_eq_some.mp parsed)), self⟩
  · exact .inl rfl

theorem ensureExitNode_idem (lawful : sdk.Lawful) (npubs : sdk.Npubs) (hex : sdk.HexKeys) (config : AppConfig) :
    (config.ensureDefaults sdk sha256 generated).ensureExitNode sdk = config.ensureDefaults sdk sha256 generated := by
  have left := @exitNode_ensureDefaults sdk sha256 generated lawful config
  generalize config.ensureDefaults sdk sha256 generated = after at left ⊢
  have same {exitNode : String} (eq : after.exitNode = exitNode) : { after with exitNode } = after := by
    rw [← eq]
  refine same ?_
  rcases left with none' | ⟨normal, other⟩
  · have blank : trim "" = "" := by decide +kernel
    rw [none', blank, normalPubkey?_empty npubs, Option.getD_none, ite_self]
  · rw [trim_of_normal hex normal, normal, Option.getD_some, if_neg other]

theorem enableAt_map_deriveDefaultNetworkId (index : Nat) (networks : List NetworkConfig) :
    (enableAt index networks).map (NetworkConfig.deriveDefaultNetworkId sha256 own) =
      enableAt index (networks.map (NetworkConfig.deriveDefaultNetworkId sha256 own)) := by
  refine List.ext_getElem? fun i => ?_
  simp [enableAt, List.getElem?_mapIdx, deriveDefaultNetworkId_flag, Function.comp_def]

theorem enableAt_enableAt (index : Nat) (networks : List NetworkConfig) :
    enableAt index (enableAt index networks) = enableAt index networks := by
  simp only [enableAt, List.mapIdx_mapIdx]
  rfl

/-- The networks of a configuration with its defaults, whose entry ids fit, are those of a second pass. -/
theorem networks_again (lawful : sdk.Lawful) (npubs : sdk.Npubs)
    (named : isBlank generated.nostrIdentity.2 = false) (few : config.networks.length < 2 ^ 64)
    (fit : EntryIdsFit 1 [] (config.networks.map NetworkConfig.id)) :
    ((config.ensureDefaults sdk sha256 generated).ensureDefaults sdk sha256 generated).networks =
      (config.ensureDefaults sdk sha256 generated).networks := by
  have made := @networks_ensureDefaults sdk sha256 generated config
  have index := @activeIndex_ensureDefaults sdk sha256 generated config
  have own := @ownPubkey_ensureDefaults sdk sha256 generated config
  have self : ∀ key ∈ (config.ensureNostrIdentity sdk generated).ownPubkey sdk, normalPubkey? sdk key = some key :=
    fun key mem => normal_ownPubkey lawful mem
  rw [networks_ensureDefaults, ensureNostrIdentity_idem named, own, index, enableAt_map_deriveDefaultNetworkId,
    made, ensureNetworks_again lawful npubs self (by omega) fit (ensured_enableAt _ _),
    enableAt_map_deriveDefaultNetworkId, enableAt_enableAt]

/-- What `normalize_selected_exit_node` leaves is none, or a member of the active network. -/
theorem exitNode_normalizeSelectedExitNode (config : AppConfig) : config.normalizeSelectedExitNode.exitNode = "" ∨
    config.normalizeSelectedExitNode.exitNode ∈ config.normalizeSelectedExitNode.activeNetworkSignalPubkeysHex := by
  unfold AppConfig.normalizeSelectedExitNode
  split_ifs with kept
  · exact kept
  · exact .inl rfl

/-- A configuration with its defaults, whose entry ids fit, is its own default. -/
theorem ensureDefaults_idem (lawful : sdk.Lawful) (npubs : sdk.Npubs) (hex : sdk.HexKeys)
    (named : isBlank generated.nostrIdentity.2 = false) (few : config.networks.length < 2 ^ 64)
    (fit : EntryIdsFit 1 [] (config.networks.map NetworkConfig.id)) :
    (config.ensureDefaults sdk sha256 generated).ensureDefaults sdk sha256 generated =
      config.ensureDefaults sdk sha256 generated := by
  have networks := @networks_again sdk sha256 generated config lawful npubs named few fit
  have identity := @ensureNostrIdentity_idem sdk sha256 generated named config
  have own := @ownPubkey_ensureDefaults sdk sha256 generated config
  have fields := ensureFields_of_sameFields (@sameFields_ensureDefaults sdk sha256 generated config)
  have exitNode := @ensureExitNode_idem sdk sha256 generated lawful npubs hex config
  have members := normal_of_allMembers (@normalMembers_ensureDefaults sdk sha256 lawful generated config)
  rw [← own] at fields
  obtain ⟨pre, ends, -⟩ := @ensureDefaults_eq sdk sha256 generated config
  generalize config.ensureDefaults sdk sha256 generated = after at *
  have list : ((after.ensureNetworkList sdk (after.ownPubkey sdk)).ensureSingleActiveNetwork.deriveDefaultNetworkIds
      sdk sha256) = after := by
    have same {networks : List NetworkConfig} (ne : networks ≠ []) (eq : networks = after.networks) :
        { after with networks, networks_ne := ne } = after := by
      subst eq
      rfl
    unfold AppConfig.ensureDefaults at networks
    dsimp only at networks
    rw [identity, fields, exitNode, AppConfig.networks_normalizePeerAliases,
      AppConfig.networks_normalizeSelectedExitNode] at networks
    exact same _ networks
  have selected : after.normalizeSelectedExitNode = after := by
    have kept : after.exitNode = "" ∨ after.exitNode ∈ after.activeNetworkSignalPubkeysHex := by
      rw [← ends]
      exact exitNode_normalizeSelectedExitNode pre
    exact if_pos kept
  have aliases : after.normalizePeerAliases sdk sha256 = after := by
    rw [← ends]
    refine normalizePeerAliases_idem lawful npubs hex ?_
    have same : pre.normalizeSelectedExitNode.allNetworkMemberPubkeysHex = after.allNetworkMemberPubkeysHex := by
      rw [← ends]
      rfl
    rw [same]
    exact members
  unfold AppConfig.ensureDefaults
  dsimp only
  rw [identity, fields, exitNode, list, selected, aliases]

/-! ## Two passes -/

theorem ids_ensureDefaults (config : AppConfig) :
    (config.ensureDefaults sdk sha256 generated).networks.map NetworkConfig.id =
      entryIds 1 [] (config.networks.map NetworkConfig.id) := by
  have enabled (index : Nat) (networks : List NetworkConfig) :
      (enableAt index networks).map NetworkConfig.id = networks.map NetworkConfig.id := by
    refine List.ext_getElem? fun i => ?_
    simp [enableAt, List.getElem?_mapIdx, Function.comp_def]
  have derived : (NetworkConfig.id ∘ NetworkConfig.deriveDefaultNetworkId sha256
      ((config.ensureNostrIdentity sdk generated).ownPubkey sdk)) = NetworkConfig.id :=
    funext fun network => AppConfig.id_deriveDefaultNetworkId ..
  rw [networks_ensureDefaults, List.map_map, derived, enabled, ids_ensureNetworks_eq]

/-- A second pass changes nothing exactly when every entry id fits; the entry ids are distinct in any case. -/
theorem ensureDefaults_twice_iff (lawful : sdk.Lawful) (npubs : sdk.Npubs) (hex : sdk.HexKeys) (sha256 : Sha256)
    (named : isBlank generated.nostrIdentity.2 = false) (config : AppConfig) (few : config.networks.length < 2 ^ 64) :
    ((config.ensureDefaults sdk sha256 generated).ensureDefaults sdk sha256 generated =
        config.ensureDefaults sdk sha256 generated ∧
      ((config.ensureDefaults sdk sha256 generated).networks.map NetworkConfig.id).Nodup) ↔
    EntryIdsFit 1 [] (config.networks.map NetworkConfig.id) := by
  refine ⟨fun ⟨twice, _⟩ => ?_, fun fit => ⟨ensureDefaults_idem lawful npubs hex named few fit,
    AppConfig.nodup_ids_ensureDefaults ..⟩⟩
  have ids := congrArg (fun config => config.networks.map NetworkConfig.id) twice
  rw [ids_ensureDefaults, ids_ensureDefaults] at ids
  exact (entryIds_twice_iff (by simpa using by omega)).mp ids

theorem ensureDefaults_twice_of_sample :
    (sampleRosterConfig.ensureDefaults sampleSdk sampleSha256 sampleGenerated).ensureDefaults sampleSdk sampleSha256
        sampleGenerated = sampleRosterConfig.ensureDefaults sampleSdk sampleSha256 sampleGenerated ∧
      ((sampleRosterConfig.ensureDefaults sampleSdk sampleSha256 sampleGenerated).networks.map
        NetworkConfig.id).Nodup :=
  (ensureDefaults_twice_iff sampleSdk_lawful sampleSdk_npubs sampleSdk_hexKeys sampleSha256 (by decide +kernel)
    sampleRosterConfig (by decide +kernel)).mpr (by simp [sampleRosterConfig, EntryIdsFit, EntryIdFits])

/-- Ten networks with one entry id of 61 characters. -/
def tenNetworks : AppConfig :=
  { networks := .replicate 10 { id := .ofList (.replicate 61 'x'), name := "Home" }
    node := { id := "", endpoint := "", tunnelIp := "", listenPort := 0, privateKey := "", publicKey := "" } }

theorem tenth_entry_id_changes : ¬ ∀ (sdk : NostrSdk) (sha256 : Sha256) (generated : Generated) (config : AppConfig),
    sdk.Lawful → sdk.Npubs → sdk.HexKeys → isBlank generated.nostrIdentity.2 = false →
      config.networks.length < 2 ^ 64 →
      (config.ensureDefaults sdk sha256 generated).ensureDefaults sdk sha256 generated =
          config.ensureDefaults sdk sha256 generated ∧
        ((config.ensureDefaults sdk sha256 generated).networks.map NetworkConfig.id).Nodup := by
  intro idempotent
  obtain ⟨twice, -⟩ := idempotent sampleSdk sampleSha256 sampleGenerated tenNetworks sampleSdk_lawful
    sampleSdk_npubs sampleSdk_hexKeys (by decide +kernel) (by decide +kernel)
  have ids := congrArg (fun config => config.networks.map NetworkConfig.id) twice
  rw [ids_ensureDefaults, ids_ensureDefaults] at ids
  have same : tenNetworks.networks.map NetworkConfig.id = .replicate 10 (.ofList (.replicate 61 'x')) := rfl
  have fit := (entryIds_twice_iff (by rw [same]; simp)).mp ids
  rw [same] at fit
  exact not_entryIdFits_tenth (by decide +kernel) (@entryIdFits_of_replicate _ (by decide +kernel) 1 0 9 fit)

end Whole

end Values

end NostrVpn.Invite
