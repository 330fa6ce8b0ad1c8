import NostrVpn.Core.EnsureDefaults
import NostrVpn.Core.Signaling

/-!
# Who may signal

`signaling_networks_for_app` of the command line and of the mobile sessions (the same text in
`android_session_planning.rs`, `android_session_runtime.rs` and `ios_tunnel_planning.rs`), composed with
the filter of the signaling client. The command line lists participants and admins of the active network,
the mobile sessions its participants alone.
-/
namespace NostrVpn

open Rust NostrVpn.Core

/-- A list of networks, or the active one when it is empty. -/
def Cli.signalingNetworksForApp (app : AppConfig) : List SignalingNetwork :=
  let networks := app.enabledNetworkMeshes.map fun network => (
    { networkId := network.networkId
      participants := (app.networkSignalPubkeysHex network.id).toOption.getD network.participants } :
        SignalingNetwork)
  if networks = [] then
    [{ networkId := app.effectiveNetworkId, participants := app.activeNetworkSignalPubkeysHex }]
  else networks

namespace Gui

def signalingNetworksForApp (app : AppConfig) : List SignalingNetwork :=
  let networks := app.enabledNetworkMeshes.map fun network =>
    ({ networkId := network.networkId, participants := network.participants } : SignalingNetwork)
  if networks = [] then
    [{ networkId := app.effectiveNetworkId, participants := app.participantPubkeysHex }]
  else networks

variable {sdk : NostrSdk} {config : AppConfig} {reader : SignalReader}

theorem cli_signalingNetworksForApp (distinct : (config.networks.map NetworkConfig.id).Nodup) :
    Cli.signalingNetworksForApp config =
      [⟨config.effectiveNetworkId, config.activeNetworkSignalPubkeysHex⟩] := by
  have found : config.networkById config.activeNetwork.id = some config.activeNetwork := by
    have some' := AppConfig.networkById_isSome.mpr (List.mem_map_of_mem config.activeNetwork_mem)
    obtain ⟨network, found⟩ := Option.isSome_iff_exists.mp some'
    have sameId : network.id = config.activeNetwork.id := by
      simpa [NetworkConfig.hasEntryId] using List.find?_some found
    rw [found, List.inj_on_of_nodup_map distinct (List.mem_of_find?_eq_some found)
      config.activeNetwork_mem sameId]
  simp [Cli.signalingNetworksForApp, AppConfig.enabledNetworkMeshes, AppConfig.networkSignalPubkeysHex,
    found, AppConfig.effectiveNetworkId, AppConfig.activeNetworkSignalPubkeysHex]

theorem gui_signalingNetworksForApp : signalingNetworksForApp config =
    [⟨config.effectiveNetworkId, config.participantPubkeysHex⟩] := by
  simp [signalingNetworksForApp, AppConfig.enabledNetworkMeshes, AppConfig.effectiveNetworkId,
    AppConfig.participantPubkeysHex]

/-! ## The filter of a client with one network -/

/-- The key is the normal form of one of the texts. -/
def IsKeyOf (sdk : NostrSdk) (texts : List String) (key : String) : Prop :=
  ∃ text ∈ texts, normalizeNostrPubkey sdk text = .ok key

/-- The client that the session builds from the configuration. -/
def sessionClient (sdk : NostrSdk) (config : AppConfig) (networks : List SignalingNetwork) :
    Except String NostrSignalingClient :=
  NostrSignalingClient.fromSecretKeyWithNetworks sdk config.nostr.secretKey networks

theorem client_of_one_network {networkId : String} {members : List String}
    {client : NostrSignalingClient}
    (made : sessionClient sdk config [⟨networkId, members⟩] = .ok client) :
    ∃ keys, members.mapM (normalizeNostrPubkey sdk) = .ok keys ∧
      sdk.publicKeyOfSecret config.nostr.secretKey = .ok client.ownPubkey ∧
      client.networkIds = [trim networkId] ∧ client.participantPubkeys = keys ∧
      client.networks = [⟨trim networkId, keys⟩] := by
  unfold sessionClient NostrSignalingClient.fromSecretKeyWithNetworks at made
  cases own : sdk.publicKeyOfSecret config.nostr.secretKey with
  | error e => simp [own, Except.mapError, bind, Except.bind] at made
  | ok ownPubkey =>
    by_cases blank : trim networkId = ""
    · simp [own, Except.mapError, bind, Except.bind, normalizeSignalingNetworks, addSignalingNetwork, blank,
        throw, throwThe, MonadExceptOf.throw] at made
    · cases parsed : members.mapM (normalizeNostrPubkey sdk) with
      | error e =>
        simp [own, Except.mapError, bind, Except.bind, normalizeSignalingNetworks, addSignalingNetwork,
          blank, parsed] at made
      | ok keys =>
        simp [own, Except.mapError, bind, Except.bind, normalizeSignalingNetworks, addSignalingNetwork,
          blank, parsed, pure, Except.pure] at made
        obtain rfl := made
        exact ⟨keys, rfl, rfl, rfl, rfl, rfl⟩

theorem mem_keys_iff {members keys : List String}
    (parsed : members.mapM (normalizeNostrPubkey sdk) = .ok keys) (key : String) :
    key ∈ keys ↔ IsKeyOf sdk members key := by
  obtain ⟨-, rfl⟩ := mapM_eq_ok.mp parsed
  have read (text : String) : (normalizeNostrPubkey sdk text).toOption = some key ↔
      normalizeNostrPubkey sdk text = .ok key := by
    cases normalizeNostrPubkey sdk text <;> simp
  simp [IsKeyOf, read]

theorem keys_eq_nil_iff {members keys : List String}
    (parsed : members.mapM (normalizeNostrPubkey sdk) = .ok keys) : keys = [] ↔ members = [] := by
  obtain ⟨valid, rfl⟩ := mapM_eq_ok.mp parsed
  cases members with
  | nil => simp
  | cons member rest =>
    obtain ⟨key, read⟩ := Option.isSome_iff_exists.mp (valid member (by simp))
    simp [read]

/-- A private signal of the sender for the active network, addressed to the key. -/
structure PrivateSignal (reader : SignalReader) (config : AppConfig) (own sender : String)
    (event : SignedEvent) (envelope : SignalEnvelope) : Prop where
  kind : event.kind = NOSTR_KIND_NOSTR_VPN
  notHello : firstTagValue event "l" ≠ some signalHelloTag
  author : event.pubkey = sender
  recipient : firstTagValue event "p" = some own
  opened : reader.openEnvelope sender event.content = some (some envelope)
  network : envelope.networkId = trim config.effectiveNetworkId
  signed : envelope.senderPubkey = sender

def Accepts (client : NostrSignalingClient) (reader : SignalReader) (event : SignedEvent) : Prop :=
  client.forwardEvent reader event ≠ []

theorem accepts_iff {members : List String} {client : NostrSignalingClient} {sender : String}
    {event : SignedEvent} {envelope : SignalEnvelope}
    (made : sessionClient sdk config [⟨config.effectiveNetworkId, members⟩] = .ok client)
    (signal : PrivateSignal reader config client.ownPubkey sender event envelope) :
    Accepts client reader event ↔
      sender ≠ client.ownPubkey ∧ (members = [] ∨ IsKeyOf sdk members sender) := by
  obtain ⟨keys, parsed, -, networkIds, participants, networks⟩ := client_of_one_network made
  obtain ⟨kind, notHello, author, recipient, opened, network, signed⟩ := signal
  have isOpen : openTo keys sender ↔ members = [] ∨ IsKeyOf sdk members sender := by
    simp [openTo, ← mem_keys_iff parsed, keys_eq_nil_iff parsed]
  rw [← isOpen]
  by_cases own : sender = client.ownPubkey
  · simp [Accepts, NostrSignalingClient.forwardEvent, kind, notHello, author, own]
  · simp [Accepts, NostrSignalingClient.forwardEvent, NostrSignalingClient.acceptEnvelope, kind, notHello,
      author, recipient, opened, networkIds, networks, participants, network, signed, own]

/-- The mobile session accepts the signal exactly when the sender is another participant or admin of the
active network, and exactly when the command line does. -/
def AudienceAgrees (sdk : NostrSdk) (reader : SignalReader) (config : AppConfig)
    (mobile desktop : NostrSignalingClient) (sender : String) (event : SignedEvent) : Prop :=
  (Accepts mobile reader event ↔ sender ≠ mobile.ownPubkey ∧
    IsKeyOf sdk (config.activeNetwork.participants ++ config.activeNetwork.admins) sender) ∧
  (Accepts mobile reader event ↔ Accepts desktop reader event)

/-- The sender is oneself, or an admin when there are no participants, or no admin outside the
participants. -/
def SameAudience (sdk : NostrSdk) (config : AppConfig) (own sender : String) : Prop :=
  sender = own ∨
    if config.activeNetwork.participants = [] then IsKeyOf sdk config.activeNetwork.admins sender
    else IsKeyOf sdk config.activeNetwork.admins sender →
      IsKeyOf sdk config.activeNetwork.participants sender

theorem audience_agrees_iff (distinct : (config.networks.map NetworkConfig.id).Nodup)
    {mobile desktop : NostrSignalingClient}
    (mobileMade : sessionClient sdk config (signalingNetworksForApp config) = .ok mobile)
    (desktopMade : sessionClient sdk config (Cli.signalingNetworksForApp config) = .ok desktop)
    {sender : String} {event : SignedEvent} {envelope : SignalEnvelope}
    (signal : PrivateSignal reader config mobile.ownPubkey sender event envelope) :
    AudienceAgrees sdk reader config mobile desktop sender event ↔
      SameAudience sdk config mobile.ownPubkey sender := by
  rw [gui_signalingNetworksForApp] at mobileMade
  rw [cli_signalingNetworksForApp distinct] at desktopMade
  obtain ⟨-, -, own, -⟩ := client_of_one_network mobileMade
  obtain ⟨-, -, own', -⟩ := client_of_one_network desktopMade
  have sameOwn : desktop.ownPubkey = mobile.ownPubkey := Except.ok.inj (own'.symm.trans own)
  have onMobile := accepts_iff mobileMade signal
  have onDesktop := accepts_iff desktopMade (sameOwn.symm ▸ signal)
  have keys (texts : List String) : IsKeyOf sdk (sortDedup texts) sender ↔ IsKeyOf sdk texts sender := by
    simp [IsKeyOf]
  have both : IsKeyOf sdk (config.activeNetwork.participants ++ config.activeNetwork.admins) sender ↔
      IsKeyOf sdk config.activeNetwork.participants sender ∨
        IsKeyOf sdk config.activeNetwork.admins sender := by
    simp only [IsKeyOf, List.mem_append]
    grind
  have none' (texts : List String) : sortDedup texts = [] ↔ texts = [] := by
    simp only [List.eq_nil_iff_forall_not_mem, mem_sortDedup]
  rw [sameOwn] at onDesktop
  simp only [AppConfig.participantPubkeysHex, AppConfig.activeNetworkSignalPubkeysHex, keys, none'] at onMobile onDesktop
  simp only [AudienceAgrees, SameAudience, onMobile, onDesktop, both, List.append_eq_nil_iff]
  have noKey (none' : config.activeNetwork.participants = []) :
      ¬ IsKeyOf sdk config.activeNetwork.participants sender := by
    simp [IsKeyOf, none']
  split_ifs with empty
  · have := noKey empty
    grind
  · grind

/-! ## An administrator who takes no part -/

/-- The phone's own key, the third sample key, has a secret key. -/
def phoneKeyOfSecret (secret : String) : Except String String :=
  if secret = "nsec1" then .ok "f9308a019258c31049344f85f89d5229b531c845836f99b08601f113bce036f9"
  else .error "Invalid secret key"

def phoneSdk : NostrSdk := { sampleSdk with publicKeyOfSecret := phoneKeyOfSecret }

/-- The first key administers the network, the second one takes part in it. -/
def phoneConfig : AppConfig where
  networks := [{ id := "network-1", name := "Home", networkId := "mesh-home",
                 admins := samplePubkeys.take 1,
                 participants := (samplePubkeys.drop 1).take 1 }]
  nostr := { secretKey := "nsec1",
             publicKey := "f9308a019258c31049344f85f89d5229b531c845836f99b08601f113bce036f9" }
  node := { id := "node-1" }

def phoneClient (participants : List String) : NostrSignalingClient where
  defaultNetworkId := "mesh-home"
  networkIds := ["mesh-home"]
  ownPubkey := "f9308a019258c31049344f85f89d5229b531c845836f99b08601f113bce036f9"
  networks := [⟨"mesh-home", participants⟩]
  participantPubkeys := participants

def rosterEnvelope (sender : String) : SignalEnvelope where
  networkId := "mesh-home"
  senderPubkey := sender
  payload := .Roster { participants := samplePubkeys.drop 1, admins := samplePubkeys.take 1, signedAt := 100 }

/-- Every text is the roster of its author. -/
def rosterReader : SignalReader where
  openEnvelope author _ := some (some (rosterEnvelope author))
  openJoinRequest _ := none

def rosterEvent (sender : String) : SignedEvent where
  kind := NOSTR_KIND_NOSTR_VPN
  pubkey := sender
  tags := [["p", "f9308a019258c31049344f85f89d5229b531c845836f99b08601f113bce036f9"]]
  content := ""

def adminKey : String := "79be667ef9dcbbac55a06295ce870b07029bfcdb2dce28d959f2815b16f81798"

def participantKey : String := "c6047f9441ed7d6d3045406e95c07cd85c778e4b8cef3ca7abac09b95c709ee5"

theorem privateSignal_roster (sender : String) : PrivateSignal rosterReader phoneConfig
    "f9308a019258c31049344f85f89d5229b531c845836f99b08601f113bce036f9" sender (rosterEvent sender)
    (rosterEnvelope sender) where
  kind := rfl
  notHello := by simp [firstTagValue, rosterEvent]
  author := rfl
  recipient := rfl
  opened := rfl
  network := (by decide +kernel : "mesh-home" = trim phoneConfig.effectiveNetworkId)
  signed := rfl

/-- The phone drops the roster of the administrator, which the command line accepts. -/
theorem admin_roster_dropped :
    sessionClient phoneSdk phoneConfig (signalingNetworksForApp phoneConfig) =
        .ok (phoneClient [participantKey]) ∧
      sessionClient phoneSdk phoneConfig (Cli.signalingNetworksForApp phoneConfig) =
        .ok (phoneClient [adminKey, participantKey]) ∧
      PrivateSignal rosterReader phoneConfig (phoneClient []).ownPubkey adminKey (rosterEvent adminKey)
        (rosterEnvelope adminKey) ∧
      ¬ AudienceAgrees phoneSdk rosterReader phoneConfig (phoneClient [participantKey])
        (phoneClient [adminKey, participantKey]) adminKey (rosterEvent adminKey) := by
  refine ⟨by decide +kernel, by decide +kernel, privateSignal_roster adminKey, fun agrees => ?_⟩
  have dropped : ¬ Accepts (phoneClient [participantKey]) rosterReader (rosterEvent adminKey) :=
    fun accepted => accepted (by decide +kernel)
  exact dropped (agrees.1.mpr ⟨by decide +kernel, adminKey, by decide +kernel, by decide +kernel⟩)

theorem audience_agrees_iff_of_participant :
    AudienceAgrees phoneSdk rosterReader phoneConfig (phoneClient [participantKey])
        (phoneClient [adminKey, participantKey]) participantKey (rosterEvent participantKey) ↔
      SameAudience phoneSdk phoneConfig (phoneClient [participantKey]).ownPubkey participantKey :=
  audience_agrees_iff (by decide +kernel) (by decide +kernel) (by decide +kernel)
    (privateSignal_roster participantKey)

end Gui
end NostrVpn
