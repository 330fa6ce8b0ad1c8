import NostrVpn.Invite.NetworkInvite

/-!
# Which program reads whose invite

An invite code is read back by a program whose field names are those of the encoder, and by no
other one.
-/
namespace NostrVpn.Invite

open Rust NostrVpn.Core

/-! ## The derived pair -/

section Derived
variable {e d : InviteFormat}

theorem readField_serialize (names : e.name = d.name) (distinct : Function.Injective d.name)
    (defaults : ∀ field, e.skipsEmpty field → d.hasDefault field) {α : Type} (default : α)
    (read : Json → Option α) (field : InviteField) {invite : NetworkInvite} {value : α}
    (reads : read (invite.fieldJson field) = some value)
    (empty : invite.fieldIsEmpty field → value = default) {fields : List (String × Json)}
    (eq : jsonFields d (invite.serialize e) = some fields) :
    readField d fields default read field = some value := by
  obtain rfl := Option.some.inj eq
  have here : inviteFields.filter (fun other => d.name other == d.name field &&
      !(e.skipsEmpty other && invite.fieldIsEmpty other)) =
        if e.skipsEmpty field && invite.fieldIsEmpty field then [] else [field] := by
    have same (other : InviteField) : (d.name other == d.name field) = (other == field) := by
      rw [Bool.eq_iff_iff, beq_iff_eq, beq_iff_eq, distinct.eq_iff]
    simp only [same]
    cases field <;> simp [inviteFields, List.filter_cons] <;> split_ifs <;> simp_all
  unfold readField
  rw [List.filter_map, List.filter_filter]
  simp only [Function.comp_def, names, here]
  by_cases skipped : (e.skipsEmpty field && invite.fieldIsEmpty field) = true
  · obtain ⟨skips, isEmpty⟩ := Bool.and_eq_true_iff.mp skipped
    rw [if_pos skipped]
    simp [defaults field skips, empty isEmpty]
  · rw [if_neg skipped]
    exact reads

theorem readStrings_map (values : List String) :
    readStrings (.arr (values.map .str)) = some values := by
  induction values with
  | nil => rfl
  | cons value rest ih =>
    have tail : (rest.map Json.str).mapM readString = some rest := ih
    show ((value :: rest).map Json.str).mapM readString = some (value :: rest)
    rw [List.map_cons, List.mapM_cons, tail]
    rfl

theorem readU8_toNat (v : UInt8) : readU8 (.int v.toNat) = some v := by
  have bound := v.toNat_lt
  have inRange : 0 ≤ (v.toNat : Int) ∧ (v.toNat : Int) ≤ 255 := by omega
  simp [readU8, inRange]

/-- With the same names, and a default for whatever may be left out, reading undoes writing. -/
theorem deserialize_serialize (names : e.name = d.name) (distinct : Function.Injective d.name)
    (defaults : ∀ field, e.skipsEmpty field → d.hasDefault field) (invite : NetworkInvite) :
    NetworkInvite.deserialize d (invite.serialize e) = some invite := by
  have read {α : Type} (default : α) (read : Json → Option α) (field : InviteField) {value : α}
      (reads : read (invite.fieldJson field) = some value)
      (empty : invite.fieldIsEmpty field → value = default) :=
    readField_serialize names distinct defaults default read field reads empty rfl
  have v := read 0 readU8 .v (readU8_toNat invite.v) (by simp [NetworkInvite.fieldIsEmpty])
  have text (field : InviteField) {value : String}
      (reads : invite.fieldJson field = .str value)
      (empty : invite.fieldIsEmpty field = (value == "")) :=
    read "" readString field (by rw [reads]; rfl) (by simp [empty])
  have vector (field : InviteField) {values : List String}
      (reads : invite.fieldJson field = .arr (values.map .str))
      (empty : invite.fieldIsEmpty field = values.isEmpty) :=
    read [] readStrings field (by rw [reads, readStrings_map]) (by simp [empty])
  have networkName := text .networkName rfl rfl
  have networkId := text .networkId rfl rfl
  have inviterNpub := text .inviterNpub rfl rfl
  have inviterNodeName := text .inviterNodeName rfl rfl
  have admins := vector .admins rfl rfl
  have participants := vector .participants rfl rfl
  have relays := vector .relays rfl rfl
  unfold NetworkInvite.deserialize NetworkInvite.serialize
  simp only [jsonFields, v, networkName, networkId, inviterNpub, inviterNodeName, admins,
    participants, relays, Option.bind_eq_bind, Option.bind_some]
  rfl

/-- A structure that knows the network id under another name does not read it. -/
theorem deserialize_eq_none (required : d.hasDefault .networkId = false)
    (unknown : ∀ field, e.name field ≠ d.name .networkId) (invite : NetworkInvite) :
    NetworkInvite.deserialize d (invite.serialize e) = none := by
  have missing (fields : List (String × Json)) (eq : jsonFields d (invite.serialize e) = some fields) :
      readField d fields "" readString .networkId = none := by
    obtain rfl := Option.some.inj eq
    have absent : (((inviteFields.filter fun field => !(e.skipsEmpty field &&
        invite.fieldIsEmpty field)).map fun field => (e.name field, invite.fieldJson field)).filter
          fun entry => entry.1 == d.name .networkId) = [] := by
      rw [List.filter_eq_nil_iff]
      intro entry mem
      obtain ⟨field, -, rfl⟩ := List.mem_map.mp mem
      simpa using unknown field
    unfold readField
    rw [absent]
    simp [required]
  unfold NetworkInvite.deserialize
  cases eq : jsonFields d (invite.serialize e) with
  | none => rfl
  | some fields => simp [missing fields eq]

end Derived

/-! ## Keys -/

section Keys
variable {sdk : NostrSdk} {format : InviteFormat}

/-- The text of a normalised key is that key again. -/
def InviteFormat.KeepsKeys (format : InviteFormat) (sdk : NostrSdk) : Prop :=
  ∀ {text hex}, normalPubkey? sdk text = some hex →
    normalPubkey? sdk (format.keyText sdk hex) = some hex

theorem keepsKeys (lawful : sdk.Lawful) (client : InviteClient) : client.format.KeepsKeys sdk := by
  intro text hex parsed
  have again : normalPubkey? sdk hex = some hex :=
    normalPubkey?_eq_some.mpr (lawful.parse_hex (normalPubkey?_eq_some.mp parsed))
  cases client with
  | cli => exact again
  | gui => exact (normalPubkey?_npub lawful hex).trans again
  | web => exact (normalPubkey?_npub lawful hex).trans again

/-- The keys of a list of texts, in the text form of a program. -/
def keyTexts (format : InviteFormat) (sdk : NostrSdk) (texts : List String) : List String :=
  sortDedup (texts.filterMap fun text => (normalPubkey? sdk text).map (format.keyText sdk))

theorem normalizedInvitePubkeys_eq_ok {texts out : List String} :
    normalizedInvitePubkeys format sdk texts = .ok out ↔
      (∀ text ∈ texts, (normalPubkey? sdk text).isSome) ∧ out = keyTexts format sdk texts := by
  have each (text : String) : ((normalizeNostrPubkey sdk text).map (format.keyText sdk)).toOption =
      (normalPubkey? sdk text).map (format.keyText sdk) := by
    unfold normalPubkey?
    cases normalizeNostrPubkey sdk text <;> rfl
  have loop (ys : List String) := @mapM_eq_ok _ _ _
    (fun text => (normalizeNostrPubkey sdk text).map (format.keyText sdk)) texts ys
  simp only [each, Option.isSome_map] at loop
  unfold normalizedInvitePubkeys
  cases result : texts.mapM fun text =>
      (normalizeNostrPubkey sdk text).map (format.keyText sdk) with
  | error e =>
    have fails : ¬ ∀ text ∈ texts, (normalPubkey? sdk text).isSome := fun all => by
      have ok := (loop _).mpr ⟨all, rfl⟩
      rw [result] at ok
      cases ok
    simp [bind, Except.bind, fails]
  | ok ys =>
    obtain ⟨all, rfl⟩ := (loop ys).mp result
    simp only [bind, Except.bind, pure, Except.pure, Except.ok.injEq]
    exact ⟨fun h => ⟨all, h.symm⟩, fun h => h.2.symm⟩

theorem isKey_of_mem_keyTexts (keeps : format.KeepsKeys sdk) {texts : List String} {text : String}
    (mem : text ∈ keyTexts format sdk texts) : ∃ key, normalPubkey? sdk text = some key := by
  obtain ⟨value, -, made⟩ := List.mem_filterMap.mp (mem_sortDedup.mp mem)
  obtain ⟨hex, parsed, rfl⟩ := Option.map_eq_some_iff.mp made
  exact ⟨hex, keeps parsed⟩

theorem mem_keys_keyTexts (keeps : format.KeepsKeys sdk) {texts : List String} {key : String} :
    key ∈ (keyTexts format sdk texts).filterMap (normalPubkey? sdk) ↔
      key ∈ texts.filterMap (normalPubkey? sdk) := by
  simp only [keyTexts, List.mem_filterMap, mem_sortDedup, Option.map_eq_some_iff]
  constructor
  · rintro ⟨_, ⟨text, mem, hex, parsed, rfl⟩, eq⟩
    rw [keeps parsed] at eq
    obtain rfl := Option.some.inj eq
    exact ⟨text, mem, parsed⟩
  · rintro ⟨text, mem, parsed⟩
    exact ⟨_, ⟨text, mem, key, parsed, rfl⟩, keeps parsed⟩

end Keys

/-! ## Relays -/

/-- The trimmed relays, each once, without the blank ones. -/
def trimmedRelays (relays : List String) : List String :=
  ((relays.map trim).filter fun relay => relay ≠ "").foldl pushUnique []

/-- On a trimmed text the three tests of a relay agree. -/
theorem isValidRelayUrl_trim (client : InviteClient) (relay : String) :
    client.format.isValidRelayUrl (trim relay) = hasRelayScheme (trim relay) := by
  cases client <;> simp [InviteClient.format, cliFormat, guiFormat, webFormat]

theorem pushInviteRelay_eq_ok (client : InviteClient) (normalized : List String) (relay : String)
    (out : List String) : pushInviteRelay client.format normalized relay = .ok out ↔
      (trim relay ≠ "" → hasRelayScheme (trim relay)) ∧
        out = if trim relay = "" then normalized else pushUnique normalized (trim relay) := by
  unfold pushInviteRelay
  dsimp only
  rw [isValidRelayUrl_trim]
  by_cases blank : trim relay = ""
  · simp only [blank, if_true, Except.ok.injEq, ne_eq, not_true_eq_false, false_imp_iff, true_and]
    exact eq_comm
  · by_cases valid : hasRelayScheme (trim relay)
    · simp only [blank, valid, if_false, Bool.not_true, Bool.false_eq_true, Except.ok.injEq,
        imp_true_iff, true_and]
      exact eq_comm
    · simp [blank, valid]

theorem foldl_trimmed (relays : List String) (start : List String) :
    relays.foldl (fun normalized relay =>
      if trim relay = "" then normalized else pushUnique normalized (trim relay)) start =
      ((relays.map trim).filter fun relay => relay ≠ "").foldl pushUnique start := by
  induction relays generalizing start with
  | nil => simp
  | cons relay rest ih =>
    rw [List.foldl_cons, ih]
    by_cases blank : trim relay = "" <;> simp [blank]

theorem normalizedInviteRelays_eq_ok {client : InviteClient} {relays out : List String} :
    normalizedInviteRelays client.format relays = .ok out ↔
      (∀ relay ∈ relays, trim relay ≠ "" → hasRelayScheme (trim relay)) ∧
        out = trimmedRelays relays := by
  rw [normalizedInviteRelays, foldlM_eq_ok (pushInviteRelay_eq_ok client), foldl_trimmed]
  rfl

theorem mem_trimmedRelays {relays : List String} {relay : String} :
    relay ∈ trimmedRelays relays ↔ relay ≠ "" ∧ ∃ value ∈ relays, trim value = relay := by
  simp [trimmedRelays, mem_foldl_pushUnique, and_comm]

/-- Normal relays are left as they are. -/
theorem trimmedRelays_trimmedRelays (relays : List String) :
    trimmedRelays (trimmedRelays relays) = trimmedRelays relays := by
  have trimmed : (trimmedRelays relays).map trim = trimmedRelays relays := by
    refine List.map_congr_left (g := id) (fun relay mem => ?_) |>.trans (List.map_id _)
    obtain ⟨-, value, -, rfl⟩ := mem_trimmedRelays.mp mem
    exact trim_trim value
  have nonempty : (trimmedRelays relays).filter (fun relay => relay ≠ "") = trimmedRelays relays :=
    List.filter_eq_self.mpr fun relay mem => by simpa using (mem_trimmedRelays.mp mem).1
  have distinct : (trimmedRelays relays).Nodup := nodup_foldl_pushUnique _ List.nodup_nil
  rw [trimmedRelays, trimmed, nonempty]
  exact foldl_pushUnique_of_nodup distinct

theorem normalizedInviteRelays_of_made {client reader : InviteClient} {relays made : List String}
    (h : normalizedInviteRelays client.format relays = .ok made) :
    normalizedInviteRelays reader.format made = .ok made := by
  obtain ⟨valid, rfl⟩ := normalizedInviteRelays_eq_ok.mp h
  refine normalizedInviteRelays_eq_ok.mpr ⟨fun relay mem nonblank => ?_,
    (trimmedRelays_trimmedRelays relays).symm⟩
  obtain ⟨nonempty, value, memValue, rfl⟩ := mem_trimmedRelays.mp mem
  rw [trim_trim]
  exact valid value memValue nonempty

/-! ## Reading a code -/

/-- The round trips of `serde_json` and `base64` at one value; the code has no white space. -/
structure InviteCodec.RoundTrips (codec : InviteCodec) (json : Json) : Prop where
  slice : codec.fromSlice (codec.toVec json) = some json
  base64 : codec.decodeBase64 (codec.encodeBase64 (codec.toVec json)) = some (codec.toVec json)
  text : ∀ c ∈ (codec.encodeBase64 (codec.toVec json)).toList, isWhitespace c = false

section Reading
variable {codec : InviteCodec} {sdk : NostrSdk}

/-- Parsing a code decodes the JSON value that was encoded. -/
theorem parse_encodeInvite {e d : InviteFormat} {invite : NetworkInvite}
    (trips : codec.RoundTrips (invite.serialize e)) :
    parseNetworkInvite d sdk codec (encodeInvite e codec invite) =
      match NetworkInvite.deserialize d (invite.serialize e) with
      | none => .error "failed to parse network invite payload"
      | some read => normalizeInvite d sdk read := by
  have noSpace : ∀ c ∈ (encodeInvite e codec invite).toList, isWhitespace c = false := by
    intro c mem
    rw [encodeInvite, String.toList_append] at mem
    rcases List.mem_append.mp mem with front | back
    · have all : (networkInvitePrefix.toList.all fun c => !isWhitespace c) = true := by
        decide +kernel
      simpa using List.all_eq_true.mp all c front
    · exact trips.text c back
  have notObject : startsWith "\x7b" (encodeInvite e codec invite) = false := by
    have first : networkInvitePrefix.toList = 'n' :: "vpn://invite/".toList := by decide +kernel
    have brace : "\x7b".toList = ['\x7b'] := by decide +kernel
    rw [startsWith, encodeInvite, String.toList_append, first, brace]
    rfl
  have nonempty : encodeInvite e codec invite ≠ "" := by
    simp [encodeInvite, networkInvitePrefix]
  have decoded : decodeInvite d codec (encodeInvite e codec invite) =
      (NetworkInvite.deserialize d (invite.serialize e)).elim
        (.error "failed to parse network invite payload") .ok := by
    unfold decodeInvite
    rw [notObject]
    simp [encodeInvite, trips.base64, trips.slice]
  unfold parseNetworkInvite
  rw [trim_eq_self noSpace]
  simp only [nonempty, if_false, decoded, bind, Except.bind]
  cases NetworkInvite.deserialize d (invite.serialize e) <;> rfl

/-- An invite as the encoders make it. -/
structure Made (invite : NetworkInvite) : Prop where
  v : invite.v = networkInviteVersion
  networkName : invite.networkName = ""
  inviterNpub : invite.inviterNpub = ""
  inviterNodeName : invite.inviterNodeName = ""
  admins : invite.admins ≠ []
  participants : invite.participants = []

/-- What a program reads from such an invite. -/
def readBack (format : InviteFormat) (sdk : NostrSdk) (invite : NetworkInvite) : NetworkInvite where
  v := networkInviteVersion
  networkId := trim invite.networkId
  inviterNpub := (keyTexts format sdk invite.admins).headD ""
  admins := keyTexts format sdk invite.admins
  relays := invite.relays

theorem keyTexts_ne_nil {format : InviteFormat} {texts : List String} (nonempty : texts ≠ [])
    (parse : ∀ text ∈ texts, (normalPubkey? sdk text).isSome) : keyTexts format sdk texts ≠ [] := by
  obtain ⟨text, mem⟩ := List.exists_mem_of_ne_nil texts nonempty
  obtain ⟨hex, parsed⟩ := Option.isSome_iff_exists.mp (parse text mem)
  have here : format.keyText sdk hex ∈ keyTexts format sdk texts :=
    mem_sortDedup.mpr (List.mem_filterMap.mpr ⟨text, mem, by rw [parsed]; rfl⟩)
  exact List.ne_nil_of_mem here

theorem normalizeInvite_made {client : InviteClient} {invite read : NetworkInvite}
    (made : Made invite)
    (relays : normalizedInviteRelays client.format invite.relays = .ok invite.relays) :
    normalizeInvite client.format sdk invite = .ok read ↔
      isBlank invite.networkId = false ∧
        (∀ admin ∈ invite.admins, (normalPubkey? sdk admin).isSome) ∧
        read = readBack client.format sdk invite := by
  have version : ¬(invite.v ≠ 1 ∧ invite.v ≠ 2 ∧ invite.v ≠ networkInviteVersion) := by
    rw [made.v]
    decide
  have nobody : normalizedInvitePubkeys client.format sdk invite.participants = .ok [] := by
    rw [made.participants]
    rfl
  unfold normalizeInvite
  dsimp only
  rw [if_neg version]
  cases blank : isBlank invite.networkId with
  | true => simp [bind, Except.bind, throw, throwThe, MonadExceptOf.throw]
  | false =>
    by_cases parse : ∀ admin ∈ invite.admins, (normalPubkey? sdk admin).isSome
    · have admins := normalizedInvitePubkeys_eq_ok.mpr
        ⟨parse, (rfl : keyTexts client.format sdk invite.admins = _)⟩
      obtain ⟨first, rest, listed⟩ := List.exists_cons_of_ne_nil (keyTexts_ne_nil made.admins parse)
      have inviter : resolveInviter client.format sdk invite.inviterNpub
          (keyTexts client.format sdk invite.admins) =
            .ok (first, keyTexts client.format sdk invite.admins) := by
        rw [made.inviterNpub, listed]
        rfl
      have old : ¬ networkInviteVersion < networkInviteVersion := by decide
      simp only [bind, Except.bind, pure, Except.pure, Bool.false_eq_true, if_false, admins,
        inviter, nobody, relays, Except.ok.injEq, true_and]
      rw [made.v, made.networkName, made.inviterNodeName, readBack, listed]
      simp only [old, if_false, List.headD_cons]
      exact ⟨fun h => ⟨parse, h.symm⟩, fun h => h.2.symm⟩
    · cases failed : normalizedInvitePubkeys client.format sdk invite.admins with
      | error e => simp [bind, Except.bind, parse]
      | ok admins => exact absurd (normalizedInvitePubkeys_eq_ok.mp failed).1 parse

/-- What an encoder puts into an invite. -/
theorem of_activeNetworkInvite {client : InviteClient} {config : AppConfig} {invite : NetworkInvite}
    (h : activeNetworkInvite client.format sdk config = .ok invite) :
    Made invite ∧
      normalizedInviteRelays client.format config.nostr.relays = .ok invite.relays ∧
      ∃ network, config.networkById config.activeNetwork.id = some network ∧
        invite.networkId = normalizeRuntimeNetworkId network.networkId ∧
        invite.admins = (sortDedup network.admins).map (npubForPubkeyHex sdk) := by
  unfold activeNetworkInvite AppConfig.sharedNetworkRoster at h
  cases found : config.networkById config.activeNetwork.id with
  | none => simp [found, bind, Except.bind] at h
  | some network =>
    simp only [found, bind, Except.bind] at h
    split_ifs at h with empty
    cases relays : normalizedInviteRelays client.format config.nostr.relays with
    | error e => simp [relays] at h
    | ok made =>
      simp only [relays, pure, Except.pure, Except.ok.injEq] at h
      subst h
      refine ⟨⟨rfl, rfl, rfl, rfl, ?_, rfl⟩, by dsimp only, network, rfl, by dsimp only,
        by dsimp only⟩
      simpa using empty

end Reading

/-! ## Agreement -/

/-- What the claim asks of an invite that was read: the inviter is the one that the program which
made the code reads from it. -/
structure ReadsAlike (sdk : NostrSdk) (config : AppConfig) (own read : NetworkInvite) : Prop where
  networkId : read.networkId = config.effectiveNetworkId
  admins : ∀ key, key ∈ read.admins.filterMap (normalPubkey? sdk) ↔
    key ∈ config.activeNetwork.admins.filterMap (normalPubkey? sdk)
  inviter : ∃ key, normalPubkey? sdk own.inviterNpub = some key ∧
    normalPubkey? sdk read.inviterNpub = some key
  relays : read.relays = trimmedRelays config.nostr.relays
  participants : read.participants = []

/-- The code that one program makes of the configuration is accepted by another, and says the same
to both. -/
def CodeAgrees (codec : InviteCodec) (sdk : NostrSdk) (config : AppConfig) (encoder decoder :
    InviteClient) (code : String) : Prop :=
  ∃ own read, parseNetworkInvite encoder.format sdk codec code = .ok own ∧
    parseNetworkInvite decoder.format sdk codec code = .ok read ∧ ReadsAlike sdk config own read

/-- The active network can be named in an invite: its entry id finds a network with its effective
id, which is neither blank nor padded, and with its admins, all of which are keys. -/
structure Invitable (sdk : NostrSdk) (config : AppConfig) (network : NetworkConfig) : Prop where
  found : config.networkById config.activeNetwork.id = some network
  networkId : trim (normalizeRuntimeNetworkId network.networkId) = config.effectiveNetworkId
  named : config.effectiveNetworkId ≠ ""
  keys : ∀ admin ∈ network.admins, (normalPubkey? sdk admin).isSome
  admins : ∀ key, key ∈ network.admins.filterMap (normalPubkey? sdk) ↔
    key ∈ config.activeNetwork.admins.filterMap (normalPubkey? sdk)

theorem camelCase_injective : Function.Injective camelCase := by
  intro a b
  cases a <;> cases b <;> decide

theorem snakeCase_injective : Function.Injective snakeCase := by
  intro a b
  cases a <;> cases b <;> decide

/-- Two programs read the same structure when both or neither is the command line. -/
theorem deserialize_serialize_client {encoder decoder : InviteClient}
    (same : encoder = .cli ↔ decoder = .cli) (invite : NetworkInvite) :
    NetworkInvite.deserialize decoder.format (invite.serialize encoder.format) = some invite := by
  have distinct : Function.Injective decoder.format.name := by
    cases decoder
    · exact snakeCase_injective
    · exact camelCase_injective
    · exact camelCase_injective
  refine deserialize_serialize ?_ distinct ?_ invite
  · cases encoder <;> cases decoder <;> simp_all [InviteClient.format, cliFormat, guiFormat, webFormat]
  · intro field
    cases encoder <;> cases decoder <;> simp at same <;> cases field <;> decide

theorem deserialize_client_eq_none {encoder decoder : InviteClient}
    (differ : ¬(encoder = .cli ↔ decoder = .cli)) (invite : NetworkInvite) :
    NetworkInvite.deserialize decoder.format (invite.serialize encoder.format) = none := by
  refine deserialize_eq_none ?_ ?_ invite
  · cases decoder <;> decide
  · intro field
    cases encoder <;> cases decoder <;> simp at differ <;> cases field <;> decide

/-- Programs that share the names of the fields share the text form of a key. -/
theorem keyText_eq {encoder decoder : InviteClient} (same : encoder = .cli ↔ decoder = .cli) :
    encoder.format.keyText = decoder.format.keyText := by
  cases encoder <;> cases decoder <;> simp at same <;> rfl

section Agreement
variable {codec : InviteCodec} {sdk : NostrSdk} {config : AppConfig}
  {encoder decoder : InviteClient} {invite read : NetworkInvite}

/-- What reading a code comes to. -/
theorem parse_code_eq_ok
    (made : activeNetworkInvite encoder.format sdk config = .ok invite)
    (trips : codec.RoundTrips (invite.serialize encoder.format)) :
    parseNetworkInvite decoder.format sdk codec (encodeInvite encoder.format codec invite) =
        .ok read ↔
      (encoder = .cli ↔ decoder = .cli) ∧ isBlank invite.networkId = false ∧
        (∀ admin ∈ invite.admins, (normalPubkey? sdk admin).isSome) ∧
        read = readBack decoder.format sdk invite := by
  obtain ⟨shape, relays, -⟩ := of_activeNetworkInvite made
  rw [parse_encodeInvite trips]
  by_cases same : encoder = .cli ↔ decoder = .cli
  · rw [deserialize_serialize_client same]
    simp only [same, true_and]
    exact normalizeInvite_made shape (normalizedInviteRelays_of_made relays)
  · rw [deserialize_client_eq_none same]
    simp [same]

/-- A code agrees exactly when encoder and decoder are both the command line or both not, and the
active network can be named in an invite. -/
theorem inviteCode_agrees_iff (lawful : sdk.Lawful)
    (made : activeNetworkInvite encoder.format sdk config = .ok invite)
    (trips : codec.RoundTrips (invite.serialize encoder.format)) :
    CodeAgrees codec sdk config encoder decoder (encodeInvite encoder.format codec invite) ↔
      (encoder = .cli ↔ decoder = .cli) ∧ ∃ network, Invitable sdk config network := by
  obtain ⟨shape, relays, network, found, networkId, admins⟩ := of_activeNetworkInvite made
  have parse : (∀ admin ∈ invite.admins, (normalPubkey? sdk admin).isSome) ↔
      ∀ admin ∈ network.admins, (normalPubkey? sdk admin).isSome := by
    simp [admins, normalPubkey?_npub lawful]
  have keys (key : String) : key ∈ (readBack decoder.format sdk invite).admins.filterMap
      (normalPubkey? sdk) ↔ key ∈ network.admins.filterMap (normalPubkey? sdk) := by
    rw [readBack, mem_keys_keyTexts (keepsKeys lawful decoder), admins]
    simp [normalPubkey?_npub lawful]
  constructor
  · rintro ⟨own, read, -, parsed, alike⟩
    obtain ⟨same, named, valid, rfl⟩ := (parse_code_eq_ok made trips).mp parsed
    have effective : trim invite.networkId = config.effectiveNetworkId := alike.networkId
    refine ⟨same, network, found, networkId ▸ effective, ?_, parse.mp valid, fun key => ?_⟩
    · rw [← effective]
      simpa [isBlank] using named
    · rw [← keys key]
      exact alike.admins key
  · rintro ⟨same, network', can⟩
    obtain rfl := Option.some.inj (found.symm.trans can.found)
    have valid := parse.mpr can.keys
    have effective : trim invite.networkId = config.effectiveNetworkId := networkId ▸ can.networkId
    have named : isBlank invite.networkId = false := by
      simpa [isBlank, effective] using can.named
    refine ⟨_, _, (parse_code_eq_ok made trips).mpr ⟨Iff.rfl, named, valid, rfl⟩,
      (parse_code_eq_ok made trips).mpr ⟨same, named, valid, rfl⟩, effective,
      fun key => (keys key).trans (can.admins key), ?_, ?_, rfl⟩
    · have texts : keyTexts encoder.format sdk invite.admins =
          keyTexts decoder.format sdk invite.admins := by
        rw [keyTexts, keyTexts, keyText_eq same]
      have listed : keyTexts decoder.format sdk invite.admins ≠ [] :=
        keyTexts_ne_nil shape.admins valid
      obtain ⟨first, rest, eq⟩ := List.exists_cons_of_ne_nil listed
      have mem : first ∈ keyTexts decoder.format sdk invite.admins := by simp [eq]
      obtain ⟨key, parsed⟩ := isKey_of_mem_keyTexts (keepsKeys lawful decoder) mem
      refine ⟨key, ?_, ?_⟩
      · simpa [readBack, texts, eq] using parsed
      · simpa [readBack, eq] using parsed
    · exact (normalizedInviteRelays_eq_ok.mp relays).2

end Agreement

/-! ## An invite of each kind -/

mutual

/-- The text of a value whose strings need no escape. -/
def Json.render : Json → String
  | .null => "null"
  | .bool value => if value then "true" else "false"
  | .int value => if value < 0 then "-" ++ fmtNat value.natAbs else fmtNat value.natAbs
  | .float text => text
  | .str value => "\"" ++ value ++ "\""
  | .arr items => "[" ++ join "," (renderItems items) ++ "]"
  | .obj fields => "\x7b" ++ join "," (renderFields fields) ++ "\x7d"

def renderItems : List Json → List String
  | [] => []
  | item :: items => item.render :: renderItems items

def renderFields : List (String × Json) → List String
  | [] => []
  | (name, value) :: fields => ("\"" ++ name ++ "\":" ++ value.render) :: renderFields fields

end

def sampleInvite : NetworkInvite where
  v := 3
  networkId := "mesh-home"
  admins := ["npub10xlxvlhemja6c4dqv22uapctqupfhlxm9h8z3k2e72q4k9hcz7vqpkge6d"]
  relays := ["wss://temp.iris.to"]

def cliJson : Json := sampleInvite.serialize cliFormat

def guiJson : Json := sampleInvite.serialize guiFormat

def jsonBytes (json : Json) : List UInt8 := json.render.toUTF8.data.toList

def cliText : String :=
  "eyJ2IjozLCJuZXR3b3JrX2lkIjoibWVzaC1ob21lIiwiYWRtaW5zIjpbIm5wdWIxMHhseHZsaGVtamE2YzRkcXYyMnVhcGN" ++
    "0cXVwZmhseG05aDh6M2syZTcycTRrOWhjejd2cXBrZ2U2ZCJdLCJyZWxheXMiOlsid3NzOi8vdGVtcC5pcmlzLnRvIl19"

def guiText : String :=
  "eyJ2IjozLCJuZXR3b3JrSWQiOiJtZXNoLWhvbWUiLCJpbnZpdGVyTm9kZU5hbWUiOiIiLCJhZG1pbnMiOlsibnB1YjEweGx" ++
    "4dmxoZW1qYTZjNGRxdjIydWFwY3RxdXBmaGx4bTloOHozazJlNzJxNGs5aGN6N3ZxcGtnZTZkIl0sInBhcnRpY2lwYW50cyI" ++
    "6W10sInJlbGF5cyI6WyJ3c3M6Ly90ZW1wLmlyaXMudG8iXX0"

/-- `serde_json` and `base64` on the two invites. -/
def sampleInviteCodec : InviteCodec where
  encodeBase64 bytes :=
    if bytes = jsonBytes cliJson then cliText else if bytes = jsonBytes guiJson then guiText else ""
  decodeBase64 text :=
    if text = cliText then some (jsonBytes cliJson)
    else if text = guiText then some (jsonBytes guiJson)
    else none
  toVec := jsonBytes
  fromSlice bytes :=
    if bytes = jsonBytes cliJson then some cliJson
    else if bytes = jsonBytes guiJson then some guiJson
    else none
  fromStr _ := none

theorem sampleInviteCodec_encode (json : Json) :
    sampleInviteCodec.encodeBase64 (sampleInviteCodec.toVec json) =
      if jsonBytes json = jsonBytes cliJson then cliText
      else if jsonBytes json = jsonBytes guiJson then guiText else "" := rfl

theorem sampleInviteCodec_decode (text : String) : sampleInviteCodec.decodeBase64 text =
    if text = cliText then some (jsonBytes cliJson)
    else if text = guiText then some (jsonBytes guiJson) else none := rfl

theorem sampleInviteCodec_slice (json : Json) :
    sampleInviteCodec.fromSlice (sampleInviteCodec.toVec json) =
      if jsonBytes json = jsonBytes cliJson then some cliJson
      else if jsonBytes json = jsonBytes guiJson then some guiJson else none := rfl

/-- A text of characters none of which is white space. -/
theorem noSpace_of_chars {text : String} {cs : List Char} (chars : text = String.ofList cs)
    (all : (cs.all fun c => !isWhitespace c) = true) : ∀ c ∈ text.toList, isWhitespace c = false := by
  subst chars
  rw [String.toList_ofList]
  exact fun c mem => by simpa using List.all_eq_true.mp all c mem

theorem noSpace_append {first second : String} (left : ∀ c ∈ first.toList, isWhitespace c = false)
    (right : ∀ c ∈ second.toList, isWhitespace c = false) :
    ∀ c ∈ (first ++ second).toList, isWhitespace c = false := by
  intro c mem
  rw [String.toList_append, List.mem_append] at mem
  exact mem.elim (left c) (right c)

private theorem noSpace_cliText : ∀ c ∈ cliText.toList, isWhitespace c = false := by
  refine noSpace_append ?_ ?_
  · exact noSpace_of_chars rfl (by decide +kernel)
  · exact noSpace_of_chars rfl (by decide +kernel)

private theorem noSpace_guiText : ∀ c ∈ guiText.toList, isWhitespace c = false := by
  refine noSpace_append (noSpace_append ?_ ?_) ?_
  · exact noSpace_of_chars rfl (by decide +kernel)
  · exact noSpace_of_chars rfl (by decide +kernel)
  · exact noSpace_of_chars rfl (by decide +kernel)

theorem cliJson_roundTrips : sampleInviteCodec.RoundTrips cliJson := by
  have code : sampleInviteCodec.encodeBase64 (sampleInviteCodec.toVec cliJson) = cliText := by
    rw [sampleInviteCodec_encode, if_pos rfl]
  refine ⟨?_, ?_, ?_⟩
  · rw [sampleInviteCodec_slice, if_pos rfl]
  · rw [code, sampleInviteCodec_decode, if_pos rfl]
    rfl
  · rw [code]
    exact noSpace_cliText

theorem guiJson_roundTrips : sampleInviteCodec.RoundTrips guiJson := by
  have bytes : jsonBytes guiJson ≠ jsonBytes cliJson := by decide +kernel
  have text : guiText ≠ cliText := by decide +kernel
  have code : sampleInviteCodec.encodeBase64 (sampleInviteCodec.toVec guiJson) = guiText := by
    rw [sampleInviteCodec_encode, if_neg bytes, if_pos rfl]
  refine ⟨?_, ?_, ?_⟩
  · rw [sampleInviteCodec_slice, if_neg bytes, if_pos rfl]
  · rw [code, sampleInviteCodec_decode, if_neg text, if_pos rfl]
    rfl
  · rw [code]
    exact noSpace_guiText

/-- A node that administers one network. -/
def inviteConfig : AppConfig where
  networks := [{ id := "network-1", name := "Home", networkId := "mesh-home",
                 admins := ["79be667ef9dcbbac55a06295ce870b07029bfcdb2dce28d959f2815b16f81798"] }]
  nostr := { relays := ["wss://temp.iris.to"],
             publicKey := "79be667ef9dcbbac55a06295ce870b07029bfcdb2dce28d959f2815b16f81798" }
  node := { id := "node-1" }

theorem made_inviteConfig (client : InviteClient) :
    activeNetworkInvite client.format sampleSdk inviteConfig = .ok sampleInvite := by
  cases client <;> decide +kernel

/-- The own key is valid, the network id is not the default, a relay is usable, and the code of the
command line is refused by the other two programs. -/
theorem inviteCode_refused_across_formats :
    (inviteConfig.ownPubkey sampleSdk).isSome ∧
      usesDefaultNetworkId inviteConfig.activeNetwork.networkId = false ∧
      trimmedRelays inviteConfig.nostr.relays ≠ [] ∧
      sampleInviteCodec.RoundTrips cliJson ∧
      ∃ code, activeNetworkInviteCode cliFormat sampleSdk sampleInviteCodec inviteConfig = .ok code ∧
        ¬ CodeAgrees sampleInviteCodec sampleSdk inviteConfig .cli .gui code ∧
        ¬ CodeAgrees sampleInviteCodec sampleSdk inviteConfig .cli .web code := by
  have refused (decoder : InviteClient) (other : decoder ≠ .cli) :
      ¬ CodeAgrees sampleInviteCodec sampleSdk inviteConfig .cli decoder
        (encodeInvite cliFormat sampleInviteCodec sampleInvite) := by
    rintro ⟨own, read, -, parsed, -⟩
    have same := ((parse_code_eq_ok (made_inviteConfig .cli) cliJson_roundTrips).mp parsed).1
    exact other (same.mp rfl)
  refine ⟨by decide +kernel, by decide, by decide, cliJson_roundTrips, _, ?_, refused .gui (by decide),
    refused .web (by decide)⟩
  exact congrArg (Except.map (encodeInvite cliFormat sampleInviteCodec)) (made_inviteConfig .cli)

theorem inviteCode_agrees_iff_of_gui_and_web :
    CodeAgrees sampleInviteCodec sampleSdk inviteConfig .gui .web
        (encodeInvite guiFormat sampleInviteCodec sampleInvite) ↔
      (InviteClient.gui = .cli ↔ InviteClient.web = .cli) ∧
        ∃ network, Invitable sampleSdk inviteConfig network :=
  inviteCode_agrees_iff sampleSdk_lawful (made_inviteConfig .gui) guiJson_roundTrips

end NostrVpn.Invite
