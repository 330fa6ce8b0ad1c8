import NostrVpn.Core.Signaling

/-!
# What the signaling client lets through

`nostr-vpn-core/src/signaling.rs` and `join_requests.rs`: events of one kind are public hellos, private
envelopes and join requests. Decryption (NIP-44) and the JSON decoders are parameters; a text that decrypts
was encrypted by the author of the event to the local key.
-/
namespace NostrVpn.Core

open Rust

/-! ## Join requests -/

def JOIN_REQUEST_PROTOCOL_VERSION : UInt8 := 1
def JOIN_REQUEST_IDENTIFIER_PREFIX : String := "join-request:"

structure MeshJoinRequestEnvelope where
  v : UInt8
  networkId : String
  requesterNodeName : String := ""
  deriving DecidableEq

def normalizeJoinRequest (request : MeshJoinRequest) : Except String MeshJoinRequest :=
  let networkId := normalizeRuntimeNetworkId request.networkId
  if networkId = "" then .error "mesh join request network_id must not be empty"
  else .ok { networkId, requesterNodeName := trim request.requesterNodeName }

def decodeJoinRequest (envelope : MeshJoinRequestEnvelope) : Except String MeshJoinRequest :=
  if envelope.v ≠ JOIN_REQUEST_PROTOCOL_VERSION then
    .error s!"unsupported mesh join request version {envelope.v}; expected {JOIN_REQUEST_PROTOCOL_VERSION}"
  else normalizeJoinRequest ⟨envelope.networkId, envelope.requesterNodeName⟩

def tagContainsValue (event : SignedEvent) (tagName expected : String) : Bool :=
  event.tags.any fun
    | name :: value :: _ => name == tagName && value == expected
    | _ => false

def isJoinRequestEventForRecipient (event : SignedEvent) (ownPubkey : String) : Bool :=
  event.kind == NOSTR_KIND_NOSTR_VPN && event.pubkey != ownPubkey &&
    (firstTagValue event "d").any (startsWith JOIN_REQUEST_IDENTIFIER_PREFIX) &&
    tagContainsValue event "p" ownPubkey

/-! ## Reading an event -/

/-- NIP-44 with the key pair that a public key names, and what it rests on. -/
structure Nip44 where
  decrypt : (ownPubkey author content : String) → Option String
  Encrypted : (author recipient content plaintext : String) → Prop
  authentic : ∀ {ownPubkey author content plaintext},
    decrypt ownPubkey author content = some plaintext → Encrypted author ownPubkey content plaintext

/-- The two `serde_json::from_str`. -/
structure SignalDecoder where
  envelope : String → Option SignalEnvelope
  joinRequest : String → Option MeshJoinRequestEnvelope

/-- An event and its time. -/
structure IncomingEvent extends SignedEvent where
  createdAt : Nat

section Filter
variable (nip44 : Nip44) (decoder : SignalDecoder)

def decodeReceivedJoinRequestPlaintext (event : IncomingEvent) (ownPubkey plaintext : String) :
    Option ReceivedMeshJoinRequest := do
  if !isJoinRequestEventForRecipient event.toSignedEvent ownPubkey then none
  let envelope ← decoder.joinRequest plaintext
  let request ← (decodeJoinRequest envelope).toOption
  return { senderPubkey := event.pubkey, requestedAt := event.createdAt, request }

/-- What the forwarder reads in the content of one event. -/
def signalReader (ownPubkey : String) (createdAt : Nat) : SignalReader where
  openEnvelope author content := (nip44.decrypt ownPubkey author content).map decoder.envelope
  openJoinRequest event := (nip44.decrypt ownPubkey event.pubkey event.content).bind
    (decodeReceivedJoinRequestPlaintext decoder ⟨event, createdAt⟩ ownPubkey)

/-- What the client delivers of an event. -/
def NostrSignalingClient.receiveEvent (client : NostrSignalingClient) (event : IncomingEvent) :
    List SignalEnvelope :=
  client.forwardEvent (signalReader nip44 decoder client.ownPubkey event.createdAt) event.toSignedEvent

end Filter

/-! ## The networks of a client -/

theorem networkIds_modifyFirst (id : String) (new : List String)
    (networks : List ConfiguredSignalingNetwork) :
    (modifyFirst (fun existing => existing.networkId == id) (fun existing =>
      { existing with participants := existing.participants ++ new }) networks).map
        ConfiguredSignalingNetwork.networkId =
      networks.map ConfiguredSignalingNetwork.networkId := by
  induction networks with
  | nil => rfl
  | cons network rest ih => unfold modifyFirst; split_ifs <;> simp [ih]

theorem nodup_addSignalingNetwork {sdk : NostrSdk} {normalized after : List ConfiguredSignalingNetwork}
    {network : SignalingNetwork} (distinct : (normalized.map (·.networkId)).Nodup)
    (h : addSignalingNetwork sdk normalized network = .ok after) : (after.map (·.networkId)).Nodup := by
  unfold addSignalingNetwork at h
  by_cases blank : trim network.networkId = ""
  · simp [blank, bind, Except.bind, throw, throwThe, MonadExceptOf.throw] at h
  · cases parsed : network.participants.mapM (normalizeNostrPubkey sdk) with
    | error e => simp [blank, parsed, bind, Except.bind] at h
    | ok keys =>
      simp only [blank, parsed, bind, Except.bind, pure, Except.pure, if_false] at h
      split_ifs at h with known
      · obtain rfl := Except.ok.inj h
        rw [networkIds_modifyFirst]
        exact distinct
      · obtain rfl := Except.ok.inj h
        have fresh : ∀ x ∈ normalized, x.networkId ≠ trim network.networkId := by simpa using known
        rw [List.map_append, List.nodup_append]
        refine ⟨distinct, List.nodup_singleton _, fun id mem id' mem' same => ?_⟩
        obtain ⟨x, inside, rfl⟩ := List.mem_map.mp mem
        obtain rfl : id' = trim network.networkId := by simpa using mem'
        exact fresh x inside same

/-- The networks of a client have different ids. -/
theorem client_networks {sdk : NostrSdk} {secretKey : String} {networks : List SignalingNetwork}
    {client : NostrSignalingClient}
    (made : NostrSignalingClient.fromSecretKeyWithNetworks sdk secretKey networks = .ok client) :
    (client.networks.map (·.networkId)).Nodup ∧
      client.participantPubkeys = client.networks.flatMap (·.participants) := by
  have loop (l : List SignalingNetwork) (normalized : List ConfiguredSignalingNetwork)
      (distinct : (normalized.map (·.networkId)).Nodup) :
      ∀ after, l.foldlM (addSignalingNetwork sdk) normalized = .ok after →
        (after.map (·.networkId)).Nodup := by
    induction l generalizing normalized with
    | nil =>
      intro after h
      obtain rfl := Except.ok.inj h
      exact distinct
    | cons network rest ih =>
      intro after h
      rw [List.foldlM_cons] at h
      cases once : addSignalingNetwork sdk normalized network with
      | error e => simp [once, bind, Except.bind] at h
      | ok next => exact ih next (nodup_addSignalingNetwork distinct once) after (by simpa only [once, bind, Except.bind] using h)
  unfold NostrSignalingClient.fromSecretKeyWithNetworks normalizeSignalingNetworks at made
  cases own : sdk.publicKeyOfSecret secretKey with
  | error e => simp [own, Except.mapError, bind, Except.bind] at made
  | ok ownPubkey =>
    cases folded : networks.foldlM (addSignalingNetwork sdk) [] with
    | error e => simp [own, folded, Except.mapError, bind, Except.bind] at made
    | ok normalized =>
      have distinct := loop networks [] List.nodup_nil normalized folded
      cases normalized with
      | nil => simp [own, folded, Except.mapError, bind, Except.bind, throw, throwThe,
          MonadExceptOf.throw] at made
      | cons network rest =>
        simp [own, folded, Except.mapError, bind, Except.bind, pure, Except.pure] at made
        obtain rfl := made
        exact ⟨distinct, rfl⟩

/-! ## The filter -/

/-- The author may speak in the network: it belongs to the network's participants, or there are none and
it belongs to those of another network, if any network has participants. -/
def MayAddress (client : NostrSignalingClient) (network : ConfiguredSignalingNetwork) (author : String) :
    Prop :=
  author ∈ network.participants ∨
    network.participants = [] ∧ ((∀ other ∈ client.networks, other.participants = []) ∨
      ∃ other ∈ client.networks, author ∈ other.participants)

/-- A public hello of somebody else. -/
structure PublicHello (client : NostrSignalingClient) (event : IncomingEvent) (envelope : SignalEnvelope) :
    Prop where
  tagged : firstTagValue event.toSignedEvent "l" = some signalHelloTag
  payload : envelope.payload = .Hello
  sender : envelope.senderPubkey = event.pubkey
  others : event.pubkey ≠ client.ownPubkey

/-- A text that the author of the event encrypted to the local key. -/
structure Opened (nip44 : Nip44) (client : NostrSignalingClient) (event : IncomingEvent)
    (plaintext : String) : Prop where
  untagged : firstTagValue event.toSignedEvent "l" ≠ some signalHelloTag
  others : event.pubkey ≠ client.ownPubkey
  addressed : firstTagValue event.toSignedEvent "p" = some client.ownPubkey
  encrypted : nip44.Encrypted event.pubkey client.ownPubkey event.content plaintext

/-- An envelope of its sender for a configured network that the sender may address. -/
structure PrivateDelivery (decoder : SignalDecoder) (client : NostrSignalingClient) (event : IncomingEvent)
    (plaintext : String) (envelope : SignalEnvelope) : Prop where
  decoded : decoder.envelope plaintext = some envelope
  sender : envelope.senderPubkey = event.pubkey
  configured : ∃ network ∈ client.networks, network.networkId = envelope.networkId
  member : ∀ network ∈ client.networks, network.networkId = envelope.networkId →
    MayAddress client network event.pubkey

/-- A join request of the author. -/
structure JoinDelivery (decoder : SignalDecoder) (client : NostrSignalingClient) (event : IncomingEvent)
    (plaintext : String) (envelope : SignalEnvelope) : Prop where
  noEnvelope : decoder.envelope plaintext = none
  request : ∃ request, (decoder.joinRequest plaintext).bind (fun e => (decodeJoinRequest e).toOption) =
    some request ∧ envelope = ⟨request.networkId, event.pubkey, .JoinRequest event.createdAt request⟩
  kind : isJoinRequestEventForRecipient event.toSignedEvent client.ownPubkey = true

variable {nip44 : Nip44} {decoder : SignalDecoder} {client : NostrSignalingClient} {event : IncomingEvent}
  {envelope : SignalEnvelope}

theorem publicHello_of_forwardHello (tagged : firstTagValue event.toSignedEvent "l" = some signalHelloTag)
    (mem : envelope ∈ client.forwardHello event.pubkey) : PublicHello client event envelope := by
  unfold NostrSignalingClient.forwardHello at mem
  split at mem
  · cases mem
  · next open_ =>
    obtain ⟨networkId, -, rfl⟩ := List.mem_map.mp mem
    exact ⟨tagged, rfl, rfl, fun own => open_ (.inl own)⟩

theorem openTo_iff (participants : List String) (sender : String) :
    openTo participants sender = true ↔ participants = [] ∨ sender ∈ participants := by
  simp [openTo]

theorem decodeReceivedJoinRequestPlaintext_eq_some {ownPubkey plaintext : String}
    {received : ReceivedMeshJoinRequest} :
    decodeReceivedJoinRequestPlaintext decoder event ownPubkey plaintext = some received ↔
      isJoinRequestEventForRecipient event.toSignedEvent ownPubkey = true ∧
        ∃ request, (decoder.joinRequest plaintext).bind (fun e => (decodeJoinRequest e).toOption) =
          some request ∧ received = ⟨event.pubkey, event.createdAt, request⟩ := by
  unfold decodeReceivedJoinRequestPlaintext
  cases isJoinRequestEventForRecipient event.toSignedEvent ownPubkey with
  | false => simp
  | true =>
    cases decoder.joinRequest plaintext with
    | none => simp
    | some inner => cases read : decodeJoinRequest inner <;> simp [read, Except.toOption, eq_comm]

theorem privateDelivery_of_accept {plaintext : String} (distinct : (client.networks.map (·.networkId)).Nodup)
    (all : client.participantPubkeys = client.networks.flatMap (·.participants))
    (decoded : decoder.envelope plaintext = some envelope)
    (accepted : client.acceptEnvelope event.pubkey envelope = true) :
    PrivateDelivery decoder client event plaintext envelope := by
  unfold NostrSignalingClient.acceptEnvelope at accepted
  cases found : client.networks.find? fun network => network.networkId == envelope.networkId with
  | none => simp [found] at accepted
  | some network =>
    simp only [found, Bool.and_eq_true, bne_iff_ne, beq_iff_eq, openTo_iff] at accepted
    obtain ⟨-, ⟨⟨-, sender⟩, inNetwork⟩, inClient⟩ := accepted
    have inside := List.mem_of_find?_eq_some found
    have named : network.networkId = envelope.networkId := by simpa using List.find?_some found
    refine ⟨decoded, sender, ⟨network, inside, named⟩, fun other mem same => ?_⟩
    obtain rfl := List.inj_on_of_nodup_map distinct mem inside (same.trans named.symm)
    rw [sender] at inNetwork inClient
    refine inNetwork.symm.imp_right fun none => ⟨none, ?_⟩
    simpa [all] using inClient

/-- Whatever the client delivers of an event is a public hello, or comes out of a text that the author
encrypted to the local key: an envelope of the author for a network it may address, or a join request. -/
theorem delivers_only_authentic {sdk : NostrSdk} {secretKey : String} {networks : List SignalingNetwork}
    (made : NostrSignalingClient.fromSecretKeyWithNetworks sdk secretKey networks = .ok client)
    (event : IncomingEvent) (envelope : SignalEnvelope)
    (delivered : envelope ∈ client.receiveEvent nip44 decoder event) :
    PublicHello client event envelope ∨ ∃ plaintext, Opened nip44 client event plaintext ∧
      (PrivateDelivery decoder client event plaintext envelope ∨
        JoinDelivery decoder client event plaintext envelope) := by
  obtain ⟨distinct, all⟩ := client_networks made
  unfold NostrSignalingClient.receiveEvent NostrSignalingClient.forwardEvent at delivered
  split at delivered
  · cases delivered
  split at delivered
  · next tagged => exact .inl (publicHello_of_forwardHello tagged delivered)
  split at delivered
  · cases delivered
  next untagged checked =>
  obtain ⟨others, addressed⟩ := not_or.mp checked
  right
  cases opened : nip44.decrypt client.ownPubkey event.pubkey event.content with
  | none => simp [signalReader, opened] at delivered
  | some plaintext =>
    refine ⟨plaintext, ⟨untagged, others, not_not.mp addressed, nip44.authentic opened⟩, ?_⟩
    cases decoded : decoder.envelope plaintext with
    | some inner =>
      simp only [signalReader, opened, Option.map_some, decoded] at delivered
      split at delivered
      · next accepted =>
        obtain rfl := List.mem_singleton.mp delivered
        exact .inl (privateDelivery_of_accept distinct all decoded accepted)
      · cases delivered
    | none =>
      simp only [signalReader, opened, Option.map_some, decoded, Option.bind_some, List.mem_map,
        Option.mem_toList] at delivered
      obtain ⟨received, read, rfl⟩ := delivered
      obtain ⟨kind, request, decodes, rfl⟩ := decodeReceivedJoinRequestPlaintext_eq_some.mp read
      exact .inr ⟨decoded, ⟨request, decodes, rfl⟩, kind⟩

/-- The local key is the last of the sample keys, that of the secret key 3. -/
def receiverSdk : NostrSdk := { sampleSdk with
  publicKeyOfSecret := fun secretKey =>
    if secretKey = "0000000000000000000000000000000000000000000000000000000000000003"
    then .ok "f9308a019258c31049344f85f89d5229b531c845836f99b08601f113bce036f9"
    else .error "Invalid secret key" }

/-- A goodbye of the first sample key for the network "home". -/
def goodbyeEnvelope : SignalEnvelope where
  networkId := "home"
  senderPubkey := "79be667ef9dcbbac55a06295ce870b07029bfcdb2dce28d959f2815b16f81798"
  payload := .Disconnect "node-1"

/-- The envelope as `serde_json` writes it. -/
def goodbyeText : String :=
  "\x7b\"network_id\":\"home\"," ++
    "\"sender_pubkey\":\"79be667ef9dcbbac55a06295ce870b07029bfcdb2dce28d959f2815b16f81798\"," ++
    "\"payload\":\x7b\"type\":\"Disconnect\",\"data\":\x7b\"node_id\":\"node-1\"\x7d\x7d\x7d"

/-- The text encrypted by the first sample key to the last, with one nonce. -/
def goodbyePayload : String :=
  "AoLjWmPOujfpZGQ0xd1BLqV3FH8eSkHM3hYUJTGH49v5AhY/lwzxlhBIRwPeTeggNg9T8bbqZ98YGmk2sxEbsrNIzG1WHIqy" ++
  "+ZiDc2l+Pcb2HMuNYpuukoeAebyzDFLBUs6poaeqZh2QFFggEhcgZi1qR9oNhzWRxmEdEO0ySPNqoQnSyghLnckrtktw5h0a" ++
  "cFvbv1/U0pSkrhXQ9DkJ2K6LOGPjGJfDPjv6mdFplL/PFbCIIgdmAxKyn9BLJNZm80QyrOzNewTogUCVZ2KX3q7vvAmUFBjz" ++
  "6NJtpiG9eAtlHs0ZcbAABorNCn5WQsE9La2yHVdjzmAEmbM/WjdIOLQMDw=="

/-- NIP-44 on this payload between these two keys; it opens no other. -/
def sampleNip44 : Nip44 where
  decrypt ownPubkey author content :=
    if ownPubkey = "f9308a019258c31049344f85f89d5229b531c845836f99b08601f113bce036f9" ∧
      author = "79be667ef9dcbbac55a06295ce870b07029bfcdb2dce28d959f2815b16f81798" ∧ content = goodbyePayload
    then some goodbyeText else none
  Encrypted author recipient content plaintext :=
    author = "79be667ef9dcbbac55a06295ce870b07029bfcdb2dce28d959f2815b16f81798" ∧
      recipient = "f9308a019258c31049344f85f89d5229b531c845836f99b08601f113bce036f9" ∧
        content = goodbyePayload ∧ plaintext = goodbyeText
  authentic h := by
    split_ifs at h with keys
    exact ⟨keys.2.1, keys.1, keys.2.2, (Option.some.inj h).symm⟩

/-- `serde_json` on this text, which is no join request. -/
def sampleSignalDecoder : SignalDecoder where
  envelope text := if text = goodbyeText then some goodbyeEnvelope else none
  joinRequest _ := none

def goodbyeEvent : IncomingEvent where
  kind := NOSTR_KIND_NOSTR_VPN
  pubkey := "79be667ef9dcbbac55a06295ce870b07029bfcdb2dce28d959f2815b16f81798"
  tags := [["d", "private:home:f9308a019258c31049344f85f89d5229b531c845836f99b08601f113bce036f9"],
    ["p", "f9308a019258c31049344f85f89d5229b531c845836f99b08601f113bce036f9"], ["expiration", "400"]]
  content := goodbyePayload
  createdAt := 100

def homeClient (participants : List String) : NostrSignalingClient where
  defaultNetworkId := "home"
  networkIds := ["home"]
  ownPubkey := "f9308a019258c31049344f85f89d5229b531c845836f99b08601f113bce036f9"
  networks := [⟨"home", participants⟩]
  participantPubkeys := participants

/-- A member's envelope is delivered, and it is the member's. -/
theorem delivers_only_authentic_goodbye :
    ∃ plaintext, Opened sampleNip44 (homeClient (samplePubkeys.take 1)) goodbyeEvent plaintext ∧
      PrivateDelivery sampleSignalDecoder (homeClient (samplePubkeys.take 1)) goodbyeEvent plaintext
        goodbyeEnvelope := by
  have facts : NostrSignalingClient.fromSecretKeyWithNetworks receiverSdk
        "0000000000000000000000000000000000000000000000000000000000000003" [⟨"home", samplePubkeys.take 1⟩] =
          .ok (homeClient (samplePubkeys.take 1)) ∧
      goodbyeEnvelope ∈ (homeClient (samplePubkeys.take 1)).receiveEvent sampleNip44 sampleSignalDecoder
        goodbyeEvent ∧
      goodbyeEnvelope.payload ≠ .Hello := by decide +kernel
  obtain ⟨made, delivered, goodbye⟩ := facts
  rcases delivers_only_authentic made goodbyeEvent goodbyeEnvelope delivered with
    hello | ⟨plaintext, opened, delivery | join⟩
  · exact absurd hello.payload goodbye
  · exact ⟨plaintext, opened, delivery⟩
  · obtain ⟨request, decoded, -⟩ := join.request
    cases decoded

/-- A network without participants takes the envelope of an author that no set holds. -/
theorem unlisted_author_is_delivered :
    NostrSignalingClient.fromSecretKeyWithNetworks receiverSdk
        "0000000000000000000000000000000000000000000000000000000000000003" [⟨"home", []⟩] =
      .ok (homeClient []) ∧
    goodbyeEnvelope ∈ (homeClient []).receiveEvent sampleNip44 sampleSignalDecoder goodbyeEvent ∧
    goodbyeEnvelope.payload ≠ .Hello ∧
    ∀ network ∈ (homeClient []).networks, goodbyeEvent.pubkey ∉ network.participants := by
  decide +kernel

end NostrVpn.Core
