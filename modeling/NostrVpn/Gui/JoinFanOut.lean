import NostrVpn.Cli.CryptokeyRouting
import NostrVpn.Cli.FanOut
import NostrVpn.Core.PrivatePublish

/-!
# Join requests, and the loops over recipients

`request_network_join` asks the admins in order and gives up at the first that cannot be reached. With
it, what each loop over recipients does about a failure.
-/
namespace NostrVpn.Gui

open Rust Rust.Net NostrVpn.Core NostrVpn.Cli

/-! ## Join requests -/

def preferredJoinRequestRecipient (network : NetworkConfig) : Option String :=
  if network.inviteInviter ≠ "" ∧ network.admins.contains network.inviteInviter then
    some network.inviteInviter
  else network.admins.head?

/-- The admins to ask and the one to record; nobody when that one was asked before. -/
def joinRequestRecipients (network : NetworkConfig) : Except String (Option (List String × String)) :=
  let recipients := sortDedup network.admins
  match if recipients = [] then none
      else (preferredJoinRequestRecipient network).or recipients.head? with
  | none => .error "this network was not imported from an invite"
  | some primary =>
    if network.outboundJoinRequest.any fun request => request.recipient == primary then .ok none
    else .ok (some (recipients, primary))

/-- The loop of `request_network_join` and what is recorded after it; `publish` is
`publish_join_request`. The admins asked, the result and the configuration. -/
def requestNetworkJoin (sdk : NostrSdk) (publish : String → MeshJoinRequest → Except String Unit)
    (now : Nat) (config : AppConfig) (networkId : String) :
    List String × Except String Unit × AppConfig :=
  match config.networkById networkId with
  | none => ([], .error "network not found", config)
  | some network => match joinRequestRecipients network with
    | .error e => ([], .error e, config)
    | .ok none => ([], .ok (), config)
    | .ok (some (recipients, primary)) => match sdk.publicKeyOfSecret config.nostr.secretKey with
      | .error _ => ([], .error "invalid nostr secret key", config)
      | .ok _ =>
        let request := ⟨normalizeRuntimeNetworkId network.networkId, trim config.nodeName⟩
        let (asked, result) := tryEach (fun recipient => publish recipient request) recipients
        (asked, result, match result with
          | .error _ => config
          | .ok _ => config.modifyNetwork networkId fun network =>
              { network with outboundJoinRequest := some ⟨primary, now⟩ })

/-- The admins that are to be asked, with the request. -/
def joinRequestsNeeded (sdk : NostrSdk) (config : AppConfig) (networkId : String) :
    List String × MeshJoinRequest :=
  match config.networkById networkId with
  | none => ([], ⟨"", ""⟩)
  | some network =>
    (match joinRequestRecipients network, sdk.publicKeyOfSecret config.nostr.secretKey with
      | .ok (some (recipients, _)), .ok _ => recipients
      | _, _ => [], ⟨normalizeRuntimeNetworkId network.networkId, trim config.nodeName⟩)

theorem requestNetworkJoin_iff (sdk : NostrSdk)
    (publish : String → MeshJoinRequest → Except String Unit) (now : Nat) (config : AppConfig)
    (networkId : String) :
    (requestNetworkJoin sdk publish now config networkId).1 =
        (joinRequestsNeeded sdk config networkId).1 ↔
      PassesButLast (fun recipient =>
          (publish recipient (joinRequestsNeeded sdk config networkId).2).isOk)
        (joinRequestsNeeded sdk config networkId).1 := by
  unfold requestNetworkJoin joinRequestsNeeded
  cases config.networkById networkId with
  | none => simp
  | some network =>
    dsimp only
    rcases joinRequestRecipients network with e | _ | ⟨recipients, primary⟩
    · simp
    · simp
    · cases sdk.publicKeyOfSecret config.nostr.secretKey with
      | error e => simp
      | ok own =>
        dsimp only
        rw [fst_tryEach, tried_eq_iff]

/-! ## The loops -/

/-- Each loop tries everybody exactly when nobody but its last recipient makes a send fail that ends it.
The announcements record what was sent in any case; a round of private signals reports what was delivered
unless a failure ends it. -/
theorem fan_out_iff (m : Moment) (session : Session) (participants : List String)
    (announcements : Announcements) (send : Ipv4Addr → Except String Unit) (codec : KeyCodec)
    (app : AppConfig) (ownPubkey : Option String) (runtimePeers : Option PeerStatuses) (now : Nat)
    (sends : String → String → PrivateSend) (client : NostrSignalingClient)
    (order : List String → List String) (recipients : List String) (sdk : NostrSdk)
    (publish : String → MeshJoinRequest → Except String Unit) (networkId : String) :
    (let tried := session.announceTried m participants announcements
      let after := (session.publishPrivateAnnounceToParticipants m participants announcements).2
      (tried = session.announceNeeded m participants announcements ∧
        (after.effects = session.effects ++ (tried.filter m.published).map fun p =>
          .announced p (session.announcementFor m announcements p)) ∧
        ∀ p, after.outboundAnnounces.fingerprints.lookup p =
          if p ∈ tried.filter m.published then
            some (announcementFingerprint (session.announcementFor m announcements p))
          else session.outboundAnnounces.fingerprints.lookup p) ↔
        PassesButLast m.published (session.announceNeeded m participants announcements)) ∧
    ((heartbeatPendingTunnelPeers send codec app ownPubkey announcements runtimePeers now).1 =
        pendingTunnelHeartbeatIps codec app ownPubkey announcements runtimePeers now ↔
      PassesButLast (fun ip => (send ip).isOk)
        (pendingTunnelHeartbeatIps codec app ownPubkey announcements runtimePeers now)) ∧
    ((publishPrivateToNetwork (sends networkId) recipients).1 = recipients ∧
        deliveredOf (publishPrivateToNetwork (sends networkId) recipients).2 =
          recipients.filter (taken (sends networkId)) ↔
      PassesButLast (passes (sends networkId)) recipients ∧
        ((∀ recipient ∈ recipients, passes (sends networkId) recipient) ∨
          ∀ recipient ∈ recipients, taken (sends networkId) recipient = false)) ∧
    ((client.publishPrivateTo order sends recipients).1 =
        client.privateRounds (client.privateRecipients order recipients) ↔
      ∀ round ∈ client.privateRounds (client.privateRecipients order recipients),
        PassesButLast (passes (sends round.1)) round.2) ∧
    ((requestNetworkJoin sdk publish now app networkId).1 = (joinRequestsNeeded sdk app networkId).1 ↔
      PassesButLast (fun recipient =>
          (publish recipient (joinRequestsNeeded sdk app networkId).2).isOk)
        (joinRequestsNeeded sdk app networkId).1) := by
  refine ⟨?announce, heartbeatPendingTunnelPeers_iff .., publishPrivateToNetwork_iff ..,
    client.fst_publishPrivateTo_iff .., requestNetworkJoin_iff ..⟩
  case announce =>
    have records := session.publishPrivateAnnounceToParticipants_records m participants announcements
    rw [← Session.announceTried_iff]
    exact ⟨fun h => h.1, fun h => ⟨h, records⟩⟩

/-- The kernel refuses a datagram to the network zero. -/
def sendBeyondNetworkZero (ip : Ipv4Addr) : Except String Unit :=
  if ip.bits.toNat < 2 ^ 24 then .error "Invalid argument" else .ok ()

/-- Two peers without a handshake; the one of the network zero comes first. -/
def twoPendingPeers : Announcements :=
  HashMap.ofList (sampleParticipants.zip
    [sampleAnnouncement 0 "10.44.0.7/32" [], sampleAnnouncement 1 "0.0.0.1/32" []])

theorem unreachable_peer_silences_heartbeats :
    pendingTunnelHeartbeatIps sampleCodec sampleConfig none twoPendingPeers none 100 =
        [.ofOctets 0 0 0 1, .ofOctets 10 44 0 7] ∧
      (heartbeatPendingTunnelPeers sendBeyondNetworkZero sampleCodec sampleConfig none
        twoPendingPeers none 100).1 = [.ofOctets 0 0 0 1] := by
  decide +kernel

end NostrVpn.Gui
