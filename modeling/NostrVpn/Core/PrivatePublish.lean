import NostrVpn.Core.Signaling
import NostrVpn.Rust.TryEach

/-!
# Private signals to several recipients

`publish_private_to` and `publish_private_to_network` of `nostr-vpn-core/src/signaling.rs`: a refusal of
every relay is passed over, an unusable key or an error of the client ends the round of its network, and
what that round delivered is then not reported.
-/
namespace NostrVpn.Core

open Rust

/-- What the key library and the relays answer to one private signal; `sent` is the relays that took it. -/
structure PrivateSend where
  parsesKey : Bool := true
  encrypts : Bool := true
  signs : Bool := true
  sent : Except String (List String)

/-- Whether some relay took the signal, or the error that ends the loop. -/
def PrivateSend.outcome (send : PrivateSend) (recipient : String) : Except String Bool :=
  if !send.parsesKey then .error ("invalid recipient pubkey " ++ recipient)
  else if !send.encrypts then .error "failed to encrypt signaling payload"
  else if !send.signs then .error "failed to sign private nostr event"
  else match send.sent with
    | .ok relays => .ok !relays.isEmpty
    | .error _ => .error "failed to publish private nostr event"

/-- The rounds of the loop: the recipients whose turn comes, and those that were delivered to. -/
def sendPrivately (sends : String → PrivateSend) :
    (delivered recipients : List String) → List String × Except String (List String)
  | delivered, [] =>
    ([], if delivered = [] then .error "private signaling event rejected by all relays"
      else .ok delivered)
  | delivered, recipient :: rest => match (sends recipient).outcome recipient with
    | .error e => ([recipient], .error e)
    | .ok taken =>
      let (attempted, result) :=
        sendPrivately sends (if taken then delivered ++ [recipient] else delivered) rest
      (recipient :: attempted, result)

def publishPrivateToNetwork (sends : String → PrivateSend) (recipients : List String) :
    List String × Except String (List String) :=
  sendPrivately sends [] recipients

section Network
variable (sends : String → PrivateSend)

/-- The recipient does not end the loop. -/
def passes (recipient : String) : Bool := ((sends recipient).outcome recipient).isOk

/-- The signal to the recipient is taken. -/
def taken (recipient : String) : Bool :=
  ((sends recipient).outcome recipient).toOption.getD false

theorem fst_sendPrivately (delivered recipients : List String) :
    (sendPrivately sends delivered recipients).1 = tried (passes sends) recipients := by
  induction recipients generalizing delivered with
  | nil => rfl
  | cons recipient rest ih =>
    cases turn : (sends recipient).outcome recipient with
    | error e => simp [sendPrivately, tried, passes, turn, Except.isOk, Except.toBool]
    | ok b =>
      have passed : passes sends recipient = true := by
        simp [passes, turn, Except.isOk, Except.toBool]
      simp [sendPrivately, tried, turn, passed, ih]

/-- What the loop reports as delivered. -/
def deliveredOf (result : Except String (List String)) : List String := result.toOption.getD []

theorem deliveredOf_sendPrivately (delivered recipients : List String) :
    deliveredOf (sendPrivately sends delivered recipients).2 =
      if recipients.all (passes sends) then delivered ++ recipients.filter (taken sends) else [] := by
  induction recipients generalizing delivered with
  | nil =>
    by_cases nobody : delivered = [] <;>
      simp [sendPrivately, deliveredOf, nobody, Except.toOption]
  | cons recipient rest ih =>
    cases turn : (sends recipient).outcome recipient with
    | error e =>
      simp [sendPrivately, deliveredOf, passes, turn, Except.isOk, Except.toBool, Except.toOption]
    | ok b =>
      have passed : passes sends recipient = true := by
        simp [passes, turn, Except.isOk, Except.toBool]
      have took : taken sends recipient = b := by simp [taken, turn, Except.toOption]
      cases b <;> simp [sendPrivately, turn, ih, passed, took]

/-- Every recipient is tried and the deliveries are reported as they are: only the last one ends the
loop, and then nobody was delivered to. -/
theorem publishPrivateToNetwork_iff (recipients : List String) :
    (publishPrivateToNetwork sends recipients).1 = recipients ∧
      deliveredOf (publishPrivateToNetwork sends recipients).2 = recipients.filter (taken sends) ↔
    PassesButLast (passes sends) recipients ∧
      ((∀ recipient ∈ recipients, passes sends recipient) ∨
        ∀ recipient ∈ recipients, taken sends recipient = false) := by
  rw [publishPrivateToNetwork, fst_sendPrivately, tried_eq_iff, deliveredOf_sendPrivately]
  refine and_congr_right fun _ => ?_
  by_cases all : ∀ recipient ∈ recipients, passes sends recipient
  · exact iff_of_true (by simp [List.all_eq_true.mpr all]) (Or.inl all)
  · have none' : recipients.all (passes sends) = false := by
      rw [Bool.eq_false_iff, ne_eq, List.all_eq_true]
      exact all
    simp only [none', Bool.false_eq_true, if_false, all, false_or]
    rw [eq_comm, List.filter_eq_nil_iff]
    simp

end Network

/-! ## Several networks -/

namespace NostrSignalingClient

/-- `order` is the order in which a set is iterated. -/
def privateRecipients (client : NostrSignalingClient) (order : List String → List String)
    (recipients : List String) : List String :=
  order (recipients.filter fun participant =>
    participant ≠ client.ownPubkey && client.participantPubkeys.contains participant)

/-- The rounds of `publish_private_to`, one for each network with a recipient. -/
def privateRounds (client : NostrSignalingClient) (recipients : List String) :
    List (String × List String) :=
  (client.networks.map fun network =>
    (network.networkId, recipients.filter (network.participants.contains ·))).filter fun round =>
      !round.2.isEmpty

/-- The recipients tried in each network, and the result. -/
def publishPrivateTo (client : NostrSignalingClient) (order : List String → List String)
    (sends : (networkId recipient : String) → PrivateSend) (recipients : List String) :
    List (String × List String) × Except String Unit :=
  let recipients := client.privateRecipients order recipients
  if recipients = [] then
    ([], .error "no configured participants to send private signaling message to")
  else
    let rounds := (client.privateRounds recipients).map fun (networkId, members) =>
      (networkId, publishPrivateToNetwork (sends networkId) members)
    let delivered := rounds.flatMap fun (_, _, result) => deliveredOf result
    let errors := rounds.filterMap fun (_, _, result) => match result with
      | .ok _ => none
      | .error e => some e
    (rounds.map fun (networkId, attempted, _) => (networkId, attempted),
      if recipients.all delivered.contains && delivered.all recipients.contains then .ok ()
      else .error (errors.head?.getD "private signaling event rejected by all relays"))

/-- The networks do not disturb each other: everybody is tried exactly when in each network no recipient
but the last ends the round. -/
theorem fst_publishPrivateTo_iff (client : NostrSignalingClient) (order : List String → List String)
    (sends : String → String → PrivateSend) (recipients : List String) :
    (client.publishPrivateTo order sends recipients).1 =
        client.privateRounds (client.privateRecipients order recipients) ↔
      ∀ round ∈ client.privateRounds (client.privateRecipients order recipients),
        PassesButLast (passes (sends round.1)) round.2 := by
  unfold publishPrivateTo
  by_cases nobody : client.privateRecipients order recipients = []
  · simp [nobody, privateRounds]
  · rw [if_neg nobody]
    dsimp only
    rw [List.map_map]
    conv_lhs => rhs; rw [← List.map_id (client.privateRounds _)]
    rw [List.map_inj_left]
    refine forall₂_congr fun round _ => ?_
    obtain ⟨networkId, members⟩ := round
    rw [← tried_eq_iff]
    simp [publishPrivateToNetwork, fst_sendPrivately]

end NostrSignalingClient

end NostrVpn.Core
