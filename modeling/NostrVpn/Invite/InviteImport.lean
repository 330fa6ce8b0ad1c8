import NostrVpn.Core.SharedRoster
import NostrVpn.Invite.InviteAgreement

/-!
# Importing an invite

`apply_network_invite_to_active_network`, which is the same text in the three programs, and what it
does to the members of a configured network.
-/
namespace NostrVpn.Invite

open Rust NostrVpn.Core

/-- The keys of an invite in normal form. -/
structure InviteKeys where
  inviter : String
  admins : List String
  participants : List String
  deriving DecidableEq, Repr

def inviteKeys (sdk : NostrSdk) (invite : NetworkInvite) : Except String InviteKeys := do
  let inviterPubkey ←
    if isBlank invite.inviterNpub then
      invite.admins.head?.elim (.error "invite must include at least one admin") .ok
    else .ok invite.inviterNpub
  let inviter ← normalizeNostrPubkey sdk inviterPubkey
  let admins ← invite.admins.mapM (normalizeNostrPubkey sdk)
  let participants ← invite.participants.mapM (normalizeNostrPubkey sdk)
  return { inviter, admins, participants }

def networkShouldAdoptInvite (network : NetworkConfig) : Bool :=
  network.participants.isEmpty &&
    (isBlank network.name || startsWith "Network " (trim network.name))

def resetMembership (network : NetworkConfig) : NetworkConfig :=
  { network with
    participants := []
    admins := []
    sharedRosterUpdatedAt := 0
    sharedRosterSignedBy := "" }

/-- The invite's keys on top of the members; the own key is never made a participant. -/
def mergeInvite (own : Option String) (keys : InviteKeys) (reset : Bool) (network : NetworkConfig) :
    NetworkConfig :=
  let network := if reset then resetMembership network else network
  let participants := sortDedup (network.participants ++
    keys.participants.filter fun participant => own ≠ some participant)
  let admins := sortDedup (pushUnique (network.admins ++ keys.admins) keys.inviter)
  { network with
    participants
    admins
    inviteInviter := if keys.inviter ∈ admins then keys.inviter else admins.headD ""
    outboundJoinRequest := network.outboundJoinRequest.filter fun request =>
      admins.contains request.recipient }

/-- The entry id of the network the invite goes to, and whether its members are dropped first: the
first one with the mesh id, else the active one when it is still unused, else a new one. -/
def inviteTarget (sdk : NostrSdk) (now : Nat) (config : AppConfig) (invite : NetworkInvite) :
    Except String (String × Bool) × AppConfig :=
  match config.networks.find? (NetworkConfig.hasMeshId (normalizeRuntimeNetworkId invite.networkId))
  with
  | some existing => (.ok (existing.id, false), config)
  | none =>
    if networkShouldAdoptInvite config.activeNetwork then
      (.ok (config.activeNetwork.id, true), config)
    else
      let (id, config) := config.addNetwork sdk now invite.networkName
      match config.setNetworkEnabled id true with
      | .error e => (.error e, config)
      | .ok config => (.ok (id, true), config)

/-- The steps of the import after the network has been switched to and named. -/
def importMembers (sdk : NostrSdk) (sha256 : Sha256) (now : Nat) (own : Option String)
    (keys : InviteKeys) (invite : NetworkInvite) (id : String)
    (reset shouldAdoptName inviterAlreadyConfigured : Bool) (config : AppConfig) : AppConfig :=
  let config := config.modifyNetwork id (mergeInvite own keys reset)
  let config :=
    if !inviterAlreadyConfigured && !isBlank invite.inviterNodeName then
      (config.setPeerAlias sdk sha256 now keys.inviter invite.inviterNodeName).2
    else config
  let config :=
    if shouldAdoptName && !isBlank invite.networkName then
      config.modifyNetwork id fun network => { network with name := trim invite.networkName }
    else config
  { config with nostr := { config.nostr with
      relays := invite.relays.foldl pushUnique config.nostr.relays } }

def applyNetworkInviteToActiveNetwork (sdk : NostrSdk) (sha256 : Sha256) (now : Nat)
    (config : AppConfig) (invite : NetworkInvite) : Except String Unit × AppConfig :=
  match inviteKeys sdk invite with
  | .error e => (.error e, config)
  | .ok keys =>
    let own := config.ownPubkey sdk
    match inviteTarget sdk now config invite with
    | (.error e, config) => (.error e, config)
    | (.ok (id, reset), config) =>
      let shouldAdoptName := (config.networkById id).any networkShouldAdoptInvite
      let inviterAlreadyConfigured := (config.networkById id).any (NetworkConfig.hasMember keys.inviter)
      match config.setNetworkEnabled id true with
      | .error e => (.error e, config)
      | .ok config =>
        match config.setNetworkMeshId id invite.networkId with
        | .error e => (.error e, config)
        | .ok config => (.ok (), importMembers sdk sha256 now own keys invite id reset
            shouldAdoptName inviterAlreadyConfigured config)

/-! ## What an import leaves of the members -/

/-- A network seen as its entry id, its admins and its participants. -/
def members (network : NetworkConfig) : String × List String × List String :=
  (network.id, network.admins, network.participants)

def mergeMembers (own : Option String) (keys : InviteKeys) (seen : String × List String × List String) :
    String × List String × List String :=
  (seen.1, sortDedup (pushUnique (seen.2.1 ++ keys.admins) keys.inviter),
    sortDedup (seen.2.2 ++ keys.participants.filter fun participant => own ≠ some participant))

section Members
variable {sdk : NostrSdk} {sha256 : Sha256} {now : Nat} {config : AppConfig}

theorem members_modifyFirst (id : String) {f : NetworkConfig → NetworkConfig}
    {g : String × List String × List String → String × List String × List String}
    (h : ∀ network, members (f network) = g (members network)) (networks : List NetworkConfig) :
    (modifyFirst (NetworkConfig.hasEntryId id) f networks).map members =
      modifyFirst (fun seen => seen.1 == id) g (networks.map members) :=
  map_modifyFirst members (fun _ => rfl) fun network _ => h network

theorem members_modifyNetwork (id : String) {f : NetworkConfig → NetworkConfig}
    (h : ∀ network, members (f network) = members network) :
    (config.modifyNetwork id f).networks.map members = config.networks.map members := by
  rw [AppConfig.networks_modifyNetwork, @members_modifyFirst id f (fun seen => seen) h]
  exact modifyFirst_eq_self fun _ _ => rfl

theorem members_enableOnly (index : Nat) :
    (config.enableOnly index).networks.map members = config.networks.map members := by
  refine List.ext_getElem? fun i => ?_
  simp only [AppConfig.enableOnly, List.getElem?_map, List.getElem?_mapIdx, Option.map_map]
  rfl

theorem members_noteRosterChange (id : String) :
    (config.noteRosterChange sdk now id).networks.map members = config.networks.map members := by
  unfold AppConfig.noteRosterChange AppConfig.noteNetworkRosterLocalChange
  cases config.networkById id with
  | none => rfl
  | some network =>
    cases config.ownPubkey sdk with
    | none => rfl
    | some own =>
      dsimp only
      split_ifs
      · exact members_modifyNetwork id fun _ => rfl
      · rfl

theorem members_foldl_noteRosterChange (ids : List String) (config : AppConfig) :
    (ids.foldl (AppConfig.noteRosterChange sdk now) config).networks.map members =
      config.networks.map members := by
  induction ids generalizing config with
  | nil => rfl
  | cons id ids ih => rw [List.foldl_cons, ih, members_noteRosterChange]

theorem members_setPeerAlias (participant label : String) :
    (config.setPeerAlias sdk sha256 now participant label).2.networks.map members =
      config.networks.map members := by
  unfold AppConfig.setPeerAlias
  cases normalizeNostrPubkey sdk participant with
  | error e => rfl
  | ok hex =>
    dsimp only
    split_ifs
    · exact members_foldl_noteRosterChange _ _
    · cases normalizeMagicDnsLabel (trim label) with
      | none => rfl
      | some normal => exact members_foldl_noteRosterChange _ _
    · rfl

theorem members_importMembers (own : Option String) (keys : InviteKeys) (invite : NetworkInvite)
    (id : String) (shouldAdoptName inviterAlreadyConfigured : Bool) :
    (importMembers sdk sha256 now own keys invite id false shouldAdoptName inviterAlreadyConfigured
      config).networks.map members =
      modifyFirst (fun seen => seen.1 == id) (mergeMembers own keys) (config.networks.map members) := by
  have merged : (config.modifyNetwork id (mergeInvite own keys false)).networks.map members =
      modifyFirst (fun seen => seen.1 == id) (mergeMembers own keys) (config.networks.map members) :=
    members_modifyFirst id (fun _ => rfl) config.networks
  rw [← merged]
  unfold importMembers
  dsimp only
  split_ifs
  · rw [members_modifyNetwork, members_setPeerAlias]
    exact fun _ => rfl
  · exact members_modifyNetwork id fun _ => rfl
  · exact members_setPeerAlias _ _
  · rfl

end Members

/-! ## Invites and signed rosters -/

/-- The two networks have the same admins and the same participants. -/
def SameMembers (before after : NetworkConfig) : Prop :=
  (∀ key, key ∈ after.admins ↔ key ∈ before.admins) ∧
    ∀ key, key ∈ after.participants ↔ key ∈ before.participants

/-- The network has the mesh id of the invite, and a signed roster. -/
def Governed (invite : NetworkInvite) (network : NetworkConfig) : Prop :=
  network.hasMeshId (normalizeRuntimeNetworkId invite.networkId) ∧ 0 < network.sharedRosterUpdatedAt

/-- The import changes the members of no network with the invite's mesh id and a signed roster. -/
def KeepsRosters (sdk : NostrSdk) (sha256 : Sha256) (now : Nat) (config : AppConfig)
    (invite : NetworkInvite) : Prop :=
  ∀ (i : Nat) network, config.networks[i]? = some network → Governed invite network →
    ∃ network', (applyNetworkInviteToActiveNetwork sdk sha256 now config invite).2.networks[i]? =
      some network' ∧ SameMembers network network'

/-- Every admin of the invite, the inviter among them, administers the network already, and every
participant but the own key takes part in it already. -/
structure AddsNone (own : Option String) (keys : InviteKeys) (network : NetworkConfig) : Prop where
  admins : ∀ key ∈ keys.inviter :: keys.admins, key ∈ network.admins
  participants : ∀ key ∈ keys.participants, own ≠ some key → key ∈ network.participants

/-- The invite is refused, or it lists nobody new for the network it goes to, if that one has a
signed roster. -/
def AddsNobody (sdk : NostrSdk) (config : AppConfig) (invite : NetworkInvite) : Prop :=
  normalizeRuntimeNetworkId invite.networkId = "" ∨
    ∀ keys, inviteKeys sdk invite = .ok keys → ∀ existing, config.networks.find?
      (NetworkConfig.hasMeshId (normalizeRuntimeNetworkId invite.networkId)) = some existing →
        ∀ network, config.networkById existing.id = some network → Governed invite network →
          AddsNone (config.ownPubkey sdk) keys network

theorem sameMembers_iff_addsNone {own : Option String} {keys : InviteKeys} {network : NetworkConfig} :
    SameMembers network (mergeInvite own keys false network) ↔ AddsNone own keys network := by
  simp only [SameMembers, mergeInvite, Bool.false_eq_true, if_false, mem_sortDedup, mem_pushUnique,
    List.mem_append, List.mem_filter, decide_eq_true_eq]
  constructor
  · rintro ⟨admins, participants⟩
    refine ⟨fun key mem => (admins key).mp ?_, fun key mem other => (participants key).mp ?_⟩
    · rcases List.mem_cons.mp mem with rfl | mem
      · exact Or.inr rfl
      · exact Or.inl (Or.inr mem)
    · exact Or.inr ⟨mem, other⟩
  · intro adds
    refine ⟨fun key => ⟨?_, fun mem => Or.inl (Or.inl mem)⟩, fun key => ⟨?_, Or.inl⟩⟩
    · rintro ((old | listed) | rfl)
      · exact old
      · exact adds.admins key (List.mem_cons_of_mem _ listed)
      · exact adds.admins _ (by simp)
    · rintro (old | ⟨listed, other⟩)
      · exact old
      · exact adds.participants key listed other

section Authority
variable {sdk : NostrSdk} {sha256 : Sha256} {now : Nat} {config : AppConfig} {invite : NetworkInvite}

/-- Membership is seen in the projection. -/
theorem exists_sameMembers_congr {left right : List NetworkConfig}
    (h : left.map members = right.map members) (i : Nat) (network : NetworkConfig) :
    (∃ b, left[i]? = some b ∧ SameMembers network b) ↔
      ∃ b, right[i]? = some b ∧ SameMembers network b := by
  have same : left[i]?.map members = right[i]?.map members := by
    rw [← List.getElem?_map, ← List.getElem?_map, h]
  cases eq : left[i]? with
  | none => simp [show right[i]? = none by simpa [eq] using same.symm]
  | some l =>
    obtain ⟨r, eq', seen⟩ := Option.map_eq_some_iff.mp (same.symm.trans (by rw [eq]; rfl))
    obtain ⟨-, admins, participants⟩ : r.id = l.id ∧ r.admins = l.admins ∧
        r.participants = l.participants := by simpa [members] using seen
    simp [eq', SameMembers, admins, participants]

theorem ids_enableOnly (index : Nat) :
    (config.enableOnly index).networks.map NetworkConfig.id = config.networks.map NetworkConfig.id := by
  have seen := congrArg (List.map Prod.fst) (@members_enableOnly config index)
  simpa [List.map_map, Function.comp_def, members] using seen

theorem inviteTarget_of_found {existing : NetworkConfig}
    (found : config.networks.find? (NetworkConfig.hasMeshId
      (normalizeRuntimeNetworkId invite.networkId)) = some existing) :
    inviteTarget sdk now config invite = (.ok (existing.id, false), config) := by
  unfold inviteTarget
  rw [found]

/-- The members after an import to a configured network: merged, or as before when the mesh id is
refused. -/
theorem members_apply {keys : InviteKeys} {existing : NetworkConfig}
    (parsed : inviteKeys sdk invite = .ok keys)
    (found : config.networks.find? (NetworkConfig.hasMeshId
      (normalizeRuntimeNetworkId invite.networkId)) = some existing) :
    (applyNetworkInviteToActiveNetwork sdk sha256 now config invite).2.networks.map members =
      if normalizeRuntimeNetworkId invite.networkId = "" then config.networks.map members
      else (modifyFirst (NetworkConfig.hasEntryId existing.id)
        (mergeInvite (config.ownPubkey sdk) keys false) config.networks).map members := by
  have mem : existing.id ∈ config.networks.map NetworkConfig.id :=
    List.mem_map_of_mem (List.mem_of_find?_eq_some found)
  obtain ⟨index, enabled⟩ := AppConfig.setNetworkEnabled_true mem
  unfold applyNetworkInviteToActiveNetwork
  rw [parsed]
  simp only [inviteTarget_of_found found, enabled]
  split_ifs with unnamed
  · simp only [AppConfig.setNetworkMeshId, unnamed, if_true, members_enableOnly]
  · have renamed := AppConfig.setNetworkMeshId_ok (ids_enableOnly index ▸ mem) unnamed
    simp only [renamed, members_importMembers]
    rw [members_modifyNetwork, members_enableOnly]
    · exact (members_modifyFirst existing.id (fun _ => rfl) config.networks).symm
    · intro network
      simp only [members]

theorem keepsRosters_of_members
    (h : (applyNetworkInviteToActiveNetwork sdk sha256 now config invite).2.networks.map members =
      config.networks.map members) : KeepsRosters sdk sha256 now config invite := by
  intro i network at' _
  rw [exists_sameMembers_congr h i network]
  exact ⟨network, at', fun _ => Iff.rfl, fun _ => Iff.rfl⟩

/-- An import keeps the members of every network with a signed roster exactly when it is refused or
lists nobody new for its network. -/
theorem import_keepsRosters_iff :
    KeepsRosters sdk sha256 now config invite ↔ AddsNobody sdk config invite := by
  cases parsed : inviteKeys sdk invite with
  | error e =>
    have refused : (applyNetworkInviteToActiveNetwork sdk sha256 now config invite).2 = config := by
      unfold applyNetworkInviteToActiveNetwork
      rw [parsed]
    have none' : AddsNobody sdk config invite :=
      Or.inr fun keys ok => by rw [parsed] at ok; cases ok
    exact iff_of_true (keepsRosters_of_members (by rw [refused])) none'
  | ok keys =>
    cases found : config.networks.find? (NetworkConfig.hasMeshId
        (normalizeRuntimeNetworkId invite.networkId)) with
    | none =>
      have nowhere : KeepsRosters sdk sha256 now config invite := by
        intro i network at' governed
        exact absurd governed.1 (List.find?_eq_none.mp found network (List.mem_of_getElem? at'))
      exact iff_of_true nowhere (Or.inr fun _ _ existing eq => by rw [found] at eq; cases eq)
    | some existing =>
      have after := @members_apply sdk sha256 now config invite keys existing parsed found
      by_cases unnamed : normalizeRuntimeNetworkId invite.networkId = ""
      · rw [if_pos unnamed] at after
        exact iff_of_true (keepsRosters_of_members after) (Or.inl unnamed)
      · rw [if_neg unnamed] at after
        -- the members are those of a change of the first network with the entry id
        have positions : KeepsRosters sdk sha256 now config invite ↔
            ∀ (i : Nat) network, config.networks[i]? = some network →
              ∃ b, (modifyFirst (NetworkConfig.hasEntryId existing.id)
                (mergeInvite (config.ownPubkey sdk) keys false) config.networks)[i]? = some b ∧
                (Governed invite network → SameMembers network b) := by
          refine forall₃_congr fun i network at' => ?_
          rw [exists_sameMembers_congr after i network]
          obtain ⟨b, changed, -⟩ := getElem?_modifyFirst (p := NetworkConfig.hasEntryId existing.id)
            (f := mergeInvite (config.ownPubkey sdk) keys false) at'
          simp [changed]
        rw [positions, forall_getElem?_modifyFirst fun _ _ => ⟨fun _ => Iff.rfl, fun _ => Iff.rfl⟩]
        simp only [sameMembers_iff_addsNone, AddsNobody, unnamed, false_or, parsed, Except.ok.injEq,
          found, Option.some.injEq, AppConfig.networkById]
        constructor
        · rintro h _ rfl _ rfl network eq governed
          exact h network eq governed
        · exact fun h network eq governed => h keys rfl existing rfl network eq governed

end Authority

/-! ## An invite that names its own author an admin -/

/-- A member of a network that the first sample key administers, with a signed roster. -/
def governedConfig : AppConfig where
  networks := [{ id := "network-1", name := "Home", networkId := "mesh-home",
                 admins := ["79be667ef9dcbbac55a06295ce870b07029bfcdb2dce28d959f2815b16f81798"],
                 sharedRosterUpdatedAt := 100,
                 sharedRosterSignedBy :=
                   "79be667ef9dcbbac55a06295ce870b07029bfcdb2dce28d959f2815b16f81798" }]
  nostr := { publicKey := "f9308a019258c31049344f85f89d5229b531c845836f99b08601f113bce036f9" }
  node := { id := "node-1" }

def forgedAdmin : String := "c6047f9441ed7d6d3045406e95c07cd85c778e4b8cef3ca7abac09b95c709ee5"

def forgedInvite : NetworkInvite where
  v := 3
  networkId := "mesh-home"
  admins := [forgedAdmin]

def forgedText (client : InviteClient) : String := (forgedInvite.serialize client.format).render

/-- `serde_json` on the texts of the invite. -/
def forgedCodec : InviteCodec where
  encodeBase64 _ := ""
  decodeBase64 _ := none
  toVec := jsonBytes
  fromSlice _ := none
  fromStr text := ([InviteClient.cli, .gui, .web].find? fun client => forgedText client == text).map
    fun client => forgedInvite.serialize client.format

/-- The invite as a program reads it. -/
def forgedRead (client : InviteClient) : NetworkInvite :=
  let key := client.format.keyText sampleSdk forgedAdmin
  { forgedInvite with inviterNpub := key, admins := [key] }

/-- The program accepts the invite, and its import changes the members of the governed network. -/
def AdmitsForged (client : InviteClient) : Prop :=
  parseNetworkInvite client.format sampleSdk forgedCodec (forgedText client) =
      .ok (forgedRead client) ∧
    ¬ KeepsRosters sampleSdk sampleSha256 200 governedConfig (forgedRead client)

/-- A text that opens with a brace, without white space, is not trimmed. -/
private theorem trim_of_brace {text first second : String} (parts : text = "\x7b" ++ first ++ second)
    (left : ∀ c ∈ first.toList, isWhitespace c = false) (right : ∀ c ∈ second.toList, isWhitespace c = false) :
    trim text = text ∧ startsWith "\x7b" text = true := by
  have brace : "\x7b".toList = ['\x7b'] := rfl
  subst parts
  refine ⟨trim_eq_self (noSpace_append (noSpace_append ?_ left) right), by simp [startsWith, brace]⟩
  exact noSpace_of_chars rfl (by decide)

private theorem trim_forgedText (client : InviteClient) :
    trim (forgedText client) = forgedText client ∧ startsWith "\x7b" (forgedText client) = true := by
  have key : ∀ c ∈ forgedAdmin.toList, isWhitespace c = false := noSpace_of_chars rfl (by decide +kernel)
  have short : ∀ c ∈ "\"],\"relays\":[]\x7d".toList, isWhitespace c = false :=
    noSpace_of_chars rfl (by decide +kernel)
  cases client with
  | cli =>
    refine @trim_of_brace _ ("\"v\":3,\"network_id\":\"mesh-home\",\"admins\":[\"" ++ forgedAdmin) _
      (by decide +kernel) (noSpace_append ?_ key) short
    exact noSpace_of_chars rfl (by decide +kernel)
  | gui =>
    refine @trim_of_brace _
      ("\"v\":3,\"networkId\":\"mesh-home\",\"inviterNodeName\":\"\",\"admins\":[\"" ++ forgedAdmin)
      ("\"],\"participants\":[" ++ "],\"relays\":[]\x7d") (by decide +kernel) (noSpace_append ?_ key)
      (noSpace_append ?_ ?_)
    · exact noSpace_of_chars rfl (by decide +kernel)
    · exact noSpace_of_chars rfl (by decide +kernel)
    · exact noSpace_of_chars rfl (by decide +kernel)
  | web =>
    refine @trim_of_brace _ ("\"v\":3,\"networkId\":\"mesh-home\",\"admins\":[\"" ++ forgedAdmin) _ (by decide +kernel)
      (noSpace_append ?_ key) short
    exact noSpace_of_chars rfl (by decide +kernel)

private theorem fromStr_forgedText (client : InviteClient) :
    forgedCodec.fromStr (forgedText client) = some (forgedInvite.serialize client.format) := by
  have found : [InviteClient.cli, .gui, .web].find? (fun other => forgedText other == forgedText client) =
      some client := by
    cases client <;> decide +kernel
  simp only [forgedCodec, found, Option.map_some]

theorem normalize_forgedInvite (client : InviteClient) :
    normalizeInvite client.format sampleSdk forgedInvite = .ok (forgedRead client) := by
  cases client <;> decide +kernel

theorem parse_forgedText (client : InviteClient) : parseNetworkInvite client.format sampleSdk forgedCodec
    (forgedText client) = .ok (forgedRead client) := by
  obtain ⟨trimmed, brace⟩ := trim_forgedText client
  have ne : forgedText client ≠ "" := by
    intro empty
    rw [empty] at brace
    exact absurd brace (by decide)
  have decoded : decodeInvite client.format forgedCodec (forgedText client) = .ok forgedInvite := by
    rw [decodeInvite, if_pos brace, fromStr_forgedText]
    simp [deserialize_serialize_client Iff.rfl]
  simp [parseNetworkInvite, trimmed, ne, decoded, bind, Except.bind, normalize_forgedInvite]

theorem admitsForged (client : InviteClient) : AdmitsForged client := by
  refine ⟨parse_forgedText client, fun keeps => ?_⟩
  have governed : Governed (forgedRead client) (governedConfig.networks.head (by decide)) := by
    cases client <;> exact ⟨by decide +kernel, by decide +kernel⟩
  obtain ⟨after, at', same, -⟩ := keeps 0 _ rfl governed
  have listed : (applyNetworkInviteToActiveNetwork sampleSdk sampleSha256 200 governedConfig
      (forgedRead client)).2.networks[0]?.any fun network =>
        network.admins.contains forgedAdmin := by
    have gui : (applyNetworkInviteToActiveNetwork sampleSdk sampleSha256 200 governedConfig
        (forgedRead .gui)).2.networks[0]?.any fun network => network.admins.contains forgedAdmin := by
      decide +kernel
    cases client with
    | cli => decide +kernel
    | gui => exact gui
    | web =>
      have same : forgedRead .web = forgedRead .gui := rfl
      rw [same]
      exact gui
  rw [at'] at listed
  have old := (same forgedAdmin).mp (by simpa using listed)
  exact absurd old (by decide)

/-- In each program the author of an invite becomes an admin of the network it names. -/
theorem invite_makes_admin : AdmitsForged .cli ∧ AdmitsForged .gui ∧ AdmitsForged .web :=
  ⟨admitsForged .cli, admitsForged .gui, admitsForged .web⟩

end NostrVpn.Invite
