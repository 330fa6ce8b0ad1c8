import NostrVpn.Core.SharedRoster

/-!
# Join requests

`AppConfig::record_inbound_join_request`: a request goes to the first network with the mesh id that
listens for requests.
-/
namespace NostrVpn.Core

open Rust

/-- The list with the request on it, or none when that is nothing new. -/
def recordRequest (requests : List PendingInboundJoinRequest) (requester requesterNodeName : String)
    (requestedAt : Nat) : Option (List PendingInboundJoinRequest) :=
  match requests.find? fun request => request.requester == requester with
  | some existing =>
    if existing.requestedAt < requestedAt ∨ existing.requesterNodeName ≠ requesterNodeName then
      some (modifyFirst (fun request => request.requester == requester) (fun request =>
        { request with requestedAt := max request.requestedAt requestedAt, requesterNodeName })
        requests)
    else none
  | none => some (sortByKey (fun request => request.requester)
      (requests ++ [{ requester, requesterNodeName, requestedAt }]))

/-- The list holds the request, perhaps with a later time. -/
theorem mem_recordRequest (requests : List PendingInboundJoinRequest) (requester name : String)
    (requestedAt : Nat) :
    ∃ request ∈ (recordRequest requests requester name requestedAt).getD requests,
      request.requester = requester ∧ request.requesterNodeName = name ∧
        requestedAt ≤ request.requestedAt := by
  unfold recordRequest
  cases found : requests.find? fun request => request.requester == requester with
  | none =>
    exact ⟨{ requester, requesterNodeName := name, requestedAt }, by simp, rfl, rfl, Nat.le_refl _⟩
  | some existing =>
    have same : existing.requester = requester := by simpa using List.find?_some found
    by_cases news : existing.requestedAt < requestedAt ∨ existing.requesterNodeName ≠ name
    · let updated := fun request : PendingInboundJoinRequest =>
        { request with requestedAt := max request.requestedAt requestedAt, requesterNodeName := name }
      have changed := @find?_modifyFirst _ (fun request => request.requester == requester) updated
        requests fun _ selected => selected
      rw [found] at changed
      refine ⟨updated existing, ?_, same, rfl, Nat.le_max_right _ _⟩
      simpa [news, updated] using List.mem_of_find?_eq_some changed
    · refine ⟨existing, ?_, same, by simpa using (not_or.mp news).2, by omega⟩
      simpa [news] using List.mem_of_find?_eq_some found

def NetworkConfig.listensAt (meshId : String) (network : NetworkConfig) : Bool :=
  network.listenForJoinRequests && network.hasMeshId meshId

def AppConfig.recordInboundJoinRequest (sdk : NostrSdk) (config : AppConfig)
    (requestedNetworkId requester requesterNodeName : String) (requestedAt : Nat) :
    Except String (Option String) × AppConfig :=
  let meshId := normalizeRuntimeNetworkId requestedNetworkId
  if meshId = "" then (.ok none, config)
  else match normalizeNostrPubkey sdk requester with
  | .error e => (.error e, config)
  | .ok requester =>
    match config.networks.find? (NetworkConfig.listensAt meshId) with
    | none => (.ok none, config)
    | some network =>
      if requester ∈ network.participants then (.ok none, config)
      else match recordRequest network.inboundJoinRequests requester (trim requesterNodeName)
          requestedAt with
        | none => (.ok none, config)
        | some requests => (.ok (some network.name), { config with
            networks := modifyFirst (NetworkConfig.listensAt meshId)
              (fun network => { network with inboundJoinRequests := requests }) config.networks
            networks_ne := modifyFirst_ne_nil config.networks_ne })

def NetworkConfig.withJoinRequest (key name : String) (requestedAt : Nat) (network : NetworkConfig) :
    NetworkConfig :=
  let recorded := recordRequest network.inboundJoinRequests key name requestedAt
  { network with inboundJoinRequests := recorded.getD network.inboundJoinRequests }

/-- The networks after a request of somebody who is no participant of the network it goes to. -/
theorem networks_recordInboundJoinRequest {sdk : NostrSdk} {config : AppConfig}
    {networkId requester key name : String} {requestedAt : Nat} {network : NetworkConfig}
    (named : normalizeRuntimeNetworkId networkId ≠ "")
    (parsed : normalizeNostrPubkey sdk requester = .ok key)
    (found : config.networks.find?
      (NetworkConfig.listensAt (normalizeRuntimeNetworkId networkId)) = some network)
    (outside : key ∉ network.participants) :
    (config.recordInboundJoinRequest sdk networkId requester name requestedAt).2.networks =
      modifyFirst (NetworkConfig.listensAt (normalizeRuntimeNetworkId networkId))
        (NetworkConfig.withJoinRequest key (trim name) requestedAt) config.networks := by
  simp only [AppConfig.recordInboundJoinRequest, named, if_false, parsed, found, outside]
  cases recorded : recordRequest network.inboundJoinRequests key (trim name) requestedAt with
  | none =>
    refine (modifyFirst_eq_self fun other eq => ?_).symm
    obtain rfl : network = other := Option.some.inj (found.symm.trans eq)
    simp [NetworkConfig.withJoinRequest, recorded]
  | some requests =>
    refine modifyFirst_congr fun other eq => ?_
    obtain rfl : network = other := Option.some.inj (found.symm.trans eq)
    simp [NetworkConfig.withJoinRequest, recorded]

/-- Equal flags and equal views of the networks give equal views of the active one. -/
theorem AppConfig.activeNetwork_congr {β : Type} (view : NetworkConfig → β) {config config' : AppConfig}
    (same : config'.networks.map (fun network => (network.enabled, view network)) =
      config.networks.map fun network => (network.enabled, view network)) :
    view config'.activeNetwork = view config.activeNetwork := by
  have active (config : AppConfig) :
      some (config.activeNetwork.enabled, view config.activeNetwork) =
        ((config.networks.map fun network => (network.enabled, view network)).find? Prod.fst).or
          (config.networks.map fun network => (network.enabled, view network)).head? := by
    have first := config.networks.head?_eq_some_head config.networks_ne
    rw [List.find?_map, List.head?_map, first]
    simp only [activeNetwork, Function.comp_def]
    cases config.networks.find? fun network => network.enabled <;> rfl
  have views := active config'
  rw [same, ← active config] at views
  exact (Prod.mk.inj (Option.some.inj views)).2

/-- A request for a network does not change who takes part. -/
theorem participantPubkeysHex_recordInboundJoinRequest (sdk : NostrSdk) (config : AppConfig)
    (networkId requester name : String) (requestedAt : Nat) :
    (config.recordInboundJoinRequest sdk networkId requester name requestedAt).2.participantPubkeysHex =
      config.participantPubkeysHex := by
  unfold AppConfig.recordInboundJoinRequest
  dsimp only
  split
  · rfl
  split
  · rfl
  split
  · rfl
  split
  · rfl
  split
  · rfl
  · refine congrArg sortDedup (AppConfig.activeNetwork_congr NetworkConfig.participants ?_)
    exact map_modifyFirst_eq_self _ fun _ _ => rfl

end NostrVpn.Core
