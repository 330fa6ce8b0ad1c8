import NostrVpn.Core.NetworkRoster
import NostrVpn.LastWriter

/-!
# Admin-signed shared rosters

`AppConfig::apply_admin_signed_shared_roster`, and what a node ends up with after receiving several
rosters for one network.
-/
namespace NostrVpn.Core

open Rust LastWriter

-- Terms with texts are compared without reading the texts.
attribute [local irreducible] String.toList

structure SharedRosterUpdate where
  networkId : String
  networkName : String
  participants : List String
  admins : List String
  aliases : HashMap String String := ∅
  signedAt : Nat
  signedBy : String

def maxSharedRosterFutureSecs : Nat := 600

def NetworkConfig.hasMeshId (meshId : String) (network : NetworkConfig) : Bool :=
  normalizeRuntimeNetworkId network.networkId == meshId

/-- The assignments to the network once every check has passed. -/
def NetworkConfig.acceptRoster (sdk : NostrSdk) (network : NetworkConfig)
    (update : SharedRosterUpdate) (signer : String) (participants admins : List String) :
    NetworkConfig :=
  { network with
    participants
    admins
    name := if isBlank update.networkName then network.name else trim update.networkName
    inviteInviter := if network.inviteInviter ∈ admins then network.inviteInviter else signer
    sharedRosterUpdatedAt := update.signedAt
    sharedRosterSignedBy := signer
    outboundJoinRequest := normalizeOutboundJoinRequest sdk network.outboundJoinRequest
    inboundJoinRequests :=
      normalizeInboundJoinRequests sdk network.inboundJoinRequests participants }

/-- The aliases of the roster for other members, on top of the configured ones. -/
def acceptRosterAliases (sdk : NostrSdk) (own : Option String) (allowedMembers : List String)
    (aliases peerAliases : HashMap String String) : HashMap String String :=
  aliases.toList.foldl (fun peerAliases (participant, label) =>
    match normalPubkey? sdk participant with
    | none => peerAliases
    | some member =>
      if some member = own ∨ member ∉ allowedMembers then peerAliases
      else match normalizeMagicDnsLabel label with
        | none => peerAliases
        | some label => peerAliases.insert (npubForPubkeyHex sdk member) label) peerAliases

namespace AppConfig

def acceptSharedRoster (sdk : NostrSdk) (sha256 : Sha256) (config : AppConfig) (meshId : String)
    (accepted : NetworkConfig) (aliases : HashMap String String)
    (enumerate : HashMap String String → HashMap String String := fun aliases => aliases) : AppConfig :=
  let config : AppConfig := { config with
    networks := modifyFirst (NetworkConfig.hasMeshId meshId) (fun _ => accepted) config.networks
    networks_ne := modifyFirst_ne_nil config.networks_ne
    peerAliases := acceptRosterAliases sdk (config.ownPubkey sdk)
      (accepted.participants ++ accepted.admins) aliases config.peerAliases }
  config.normalizeSelectedExitNode.normalizePeerAliases sdk sha256 enumerate

def applyAdminSignedSharedRoster (sdk : NostrSdk) (sha256 : Sha256) (now : UInt64)
    (config : AppConfig) (update : SharedRosterUpdate)
    (enumerate : HashMap String String → HashMap String String := fun aliases => aliases) :
    Except String Bool × AppConfig :=
  let meshId := normalizeRuntimeNetworkId update.networkId
  if meshId = "" then (.ok false, config)
  else match normalizeNostrPubkey sdk update.signedBy with
  | .error e => (.error e, config)
  | .ok signer =>
    let own := config.ownPubkey sdk
    if saturatingAdd now.toNat maxSharedRosterFutureSecs < update.signedAt then
      (.error "shared roster timestamp is too far in the future", config)
    else match config.networks.find? (NetworkConfig.hasMeshId meshId) with
    | none => (.ok false, config)
    | some network =>
      if signer ∉ network.admins then (.ok false, config)
      else if update.signedAt ≤ network.sharedRosterUpdatedAt then (.ok false, config)
      else match normalizeSharedRosterParticipants sdk update.participants own with
      | .error e => (.error e, config)
      | .ok participants =>
        let admins := normalizeNetworkAdmins sdk update.admins own network.inviteInviter
        if admins = [] then (.error "shared roster must include at least one admin", config)
        else (.ok true, config.acceptSharedRoster sdk sha256 meshId
          (network.acceptRoster sdk update signer participants admins) update.aliases enumerate)

/-- Rosters delivered one after the other, each at its own time, with the results ignored. -/
def deliver (sdk : NostrSdk) (sha256 : Sha256) (config : AppConfig)
    (deliveries : List (UInt64 × SharedRosterUpdate)) : AppConfig :=
  deliveries.foldl (fun config d => (config.applyAdminSignedSharedRoster sdk sha256 d.1 d.2).2) config

end AppConfig

/-! ## A network as a last-writer register -/

/-- The stored roster of a network: its time, participants and admins. -/
def NetworkConfig.roster (network : NetworkConfig) : Nat × List String × List String :=
  (network.sharedRosterUpdatedAt, network.participants, network.admins)

/-- What an update offers, unless its participants do not parse. -/
def SharedRosterUpdate.offered (sdk : NostrSdk) (own : Option String) (update : SharedRosterUpdate) :
    Option (Nat × List String × List String) :=
  match normalizeSharedRosterParticipants sdk update.participants own with
  | .error _ => none
  | .ok participants =>
    some (update.signedAt, participants, sortDedup (update.admins.filterMap (normalPubkey? sdk)))

section Refinement
variable {sdk : NostrSdk} {sha256 : Sha256} {now : UInt64} {config : AppConfig}
  {update : SharedRosterUpdate}

@[simp] theorem ownPubkey_acceptSharedRoster (config : AppConfig) (meshId : String)
    (accepted : NetworkConfig) (aliases : HashMap String String) :
    (config.acceptSharedRoster sdk sha256 meshId accepted aliases).ownPubkey sdk =
      config.ownPubkey sdk := by
  simp [AppConfig.ownPubkey, AppConfig.ownNostrPubkeyHex, AppConfig.acceptSharedRoster]

@[simp] theorem networks_acceptSharedRoster (config : AppConfig) (meshId : String)
    (accepted : NetworkConfig) (aliases : HashMap String String) :
    (config.acceptSharedRoster sdk sha256 meshId accepted aliases).networks =
      modifyFirst (NetworkConfig.hasMeshId meshId) (fun _ => accepted) config.networks := by
  simp [AppConfig.acceptSharedRoster]

/-- A roster leaves the configuration alone or replaces the first network with its mesh id by one
with the same ids. -/
theorem apply_cases (sdk : NostrSdk) (sha256 : Sha256) (now : UInt64) (config : AppConfig)
    (update : SharedRosterUpdate) :
    (config.applyAdminSignedSharedRoster sdk sha256 now update).2 = config ∨
      ∃ network accepted, config.networks.find?
          (NetworkConfig.hasMeshId (normalizeRuntimeNetworkId update.networkId)) = some network ∧
        accepted.id = network.id ∧ accepted.networkId = network.networkId ∧
        (config.applyAdminSignedSharedRoster sdk sha256 now update).2 =
          config.acceptSharedRoster sdk sha256 (normalizeRuntimeNetworkId update.networkId) accepted
            update.aliases := by
  unfold AppConfig.applyAdminSignedSharedRoster
  dsimp only
  split
  · exact Or.inl rfl
  split
  · exact Or.inl rfl
  split
  · exact Or.inl rfl
  split
  · exact Or.inl rfl
  rename_i network found
  split
  · exact Or.inl rfl
  split
  · exact Or.inl rfl
  split
  · exact Or.inl rfl
  split
  · exact Or.inl rfl
  exact Or.inr ⟨network, network.acceptRoster sdk update _ _ _, found, rfl, rfl, rfl⟩

/-- A failed roster leaves the configuration as it is. -/
theorem apply_of_error {e : String}
    (h : (config.applyAdminSignedSharedRoster sdk sha256 now update).1 = .error e) :
    (config.applyAdminSignedSharedRoster sdk sha256 now update).2 = config := by
  revert h
  unfold AppConfig.applyAdminSignedSharedRoster
  dsimp only
  repeat' split
  all_goals intro h
  all_goals first | rfl | cases h

/-- What a roster does when its network is found and its signer administers it. -/
theorem apply_of_admin {signer : String} {network : NetworkConfig}
    (meshId : normalizeRuntimeNetworkId update.networkId ≠ "")
    (signed : normalizeNostrPubkey sdk update.signedBy = .ok signer)
    (past : update.signedAt ≤ now.toNat)
    (found : config.networks.find?
      (NetworkConfig.hasMeshId (normalizeRuntimeNetworkId update.networkId)) = some network)
    (admin : signer ∈ network.admins)
    (kept : signer ∈ update.admins.filterMap (normalPubkey? sdk)) :
    (config.applyAdminSignedSharedRoster sdk sha256 now update).2 =
      if update.signedAt ≤ network.sharedRosterUpdatedAt then config
      else match normalizeSharedRosterParticipants sdk update.participants (config.ownPubkey sdk) with
      | .error _ => config
      | .ok participants =>
        config.acceptSharedRoster sdk sha256 (normalizeRuntimeNetworkId update.networkId)
          (network.acceptRoster sdk update signer participants
            (sortDedup (update.admins.filterMap (normalPubkey? sdk)))) update.aliases := by
  have inTime : ¬ saturatingAdd now.toNat maxSharedRosterFutureSecs < update.signedAt := by
    have bound := now.toNat_lt
    simp only [saturatingAdd, u64Max]
    omega
  have nonempty : sortDedup (update.admins.filterMap (normalPubkey? sdk)) ≠ [] :=
    List.ne_nil_of_mem (mem_sortDedup.mpr kept)
  have admins : normalizeNetworkAdmins sdk update.admins (config.ownPubkey sdk)
      network.inviteInviter = sortDedup (update.admins.filterMap (normalPubkey? sdk)) := by
    rw [normalizeNetworkAdmins]
    exact if_pos nonempty
  simp only [AppConfig.applyAdminSignedSharedRoster, if_neg meshId, signed, if_neg inTime, found,
    admin, not_true_eq_false, if_false, admins, if_neg nonempty]
  split_ifs
  · rfl
  · cases normalizeSharedRosterParticipants sdk update.participants (config.ownPubkey sdk) <;> rfl

/-- The mesh id of every network with its roster. -/
def AppConfig.rosters (config : AppConfig) : List (String × Nat × List String × List String) :=
  config.networks.map fun network => (network.networkId, network.roster)

def hasId (meshId : String) (e : String × Nat × List String × List String) : Bool :=
  normalizeRuntimeNetworkId e.1 == meshId

/-- The offers made to the first register with this mesh id. -/
def offerTo (meshId : String) (offers : List (Nat × List String × List String)) :
    List (String × Nat × List String × List String) →
      List (String × Nat × List String × List String) :=
  modifyFirst (hasId meshId) fun e => (e.1, offers.foldl offer e.2)

theorem find?_rosters (config : AppConfig) (meshId : String) :
    config.rosters.find? (hasId meshId) =
      (config.networks.find? (NetworkConfig.hasMeshId meshId)).map
        fun network => (network.networkId, network.roster) := by
  rw [AppConfig.rosters, List.find?_map]
  rfl

theorem find?_offerTo (meshId : String) (offers : List (Nat × List String × List String))
    (l : List (String × Nat × List String × List String)) :
    (offerTo meshId offers l).find? (hasId meshId) =
      (l.find? (hasId meshId)).map fun e => (e.1, offers.foldl offer e.2) :=
  find?_modifyFirst fun _ selected => selected

theorem offerTo_append (meshId : String) (first rest : List (Nat × List String × List String))
    (l : List (String × Nat × List String × List String)) :
    offerTo meshId (first ++ rest) l = offerTo meshId rest (offerTo meshId first l) := by
  unfold offerTo
  rw [modifyFirst_modifyFirst fun (e : String × Nat × List String × List String) h => by exact h]
  simp [Function.comp_def, List.foldl_append]

/-- One roster is an offer to the register of its network. -/
theorem rosters_apply {signer : String} {network : NetworkConfig}
    (meshId : normalizeRuntimeNetworkId update.networkId ≠ "")
    (signed : normalizeNostrPubkey sdk update.signedBy = .ok signer)
    (past : update.signedAt ≤ now.toNat)
    (found : config.networks.find?
      (NetworkConfig.hasMeshId (normalizeRuntimeNetworkId update.networkId)) = some network)
    (admin : signer ∈ network.admins)
    (kept : signer ∈ update.admins.filterMap (normalPubkey? sdk)) :
    (config.applyAdminSignedSharedRoster sdk sha256 now update).2.rosters =
      offerTo (normalizeRuntimeNetworkId update.networkId)
        (update.offered sdk (config.ownPubkey sdk)).toList config.rosters := by
  have stays (offers) (same : offers.foldl offer network.roster = network.roster) :
      config.rosters = offerTo (normalizeRuntimeNetworkId update.networkId) offers config.rosters := by
    refine (modifyFirst_eq_self fun e he => ?_).symm
    rw [find?_rosters, found] at he
    obtain rfl := Option.some.inj he
    rw [same]
  rw [apply_of_admin meshId signed past found admin kept]
  split_ifs with stale
  · refine stays _ ?_
    unfold SharedRosterUpdate.offered
    cases normalizeSharedRosterParticipants sdk update.participants (config.ownPubkey sdk) with
    | error e => rfl
    | ok participants => exact offer_of_le stale
  · cases parsed : normalizeSharedRosterParticipants sdk update.participants (config.ownPubkey sdk) with
    | error e => exact stays _ (by simp [SharedRosterUpdate.offered, parsed])
    | ok participants =>
      rw [AppConfig.rosters, networks_acceptSharedRoster, offerTo, AppConfig.rosters]
      refine map_modifyFirst _ (fun _ => rfl) fun n hn => ?_
      obtain rfl : network = n := Option.some.inj (found.symm.trans hn)
      have taken : offer network.roster (update.signedAt, participants,
          sortDedup (update.admins.filterMap (normalPubkey? sdk))) = _ :=
        offer_of_lt (Nat.not_le.mp stale)
      simp only [SharedRosterUpdate.offered, parsed, Option.toList_some, List.foldl_cons,
        List.foldl_nil, taken]
      rfl

theorem ownPubkey_apply {signer : String} {network : NetworkConfig}
    (meshId : normalizeRuntimeNetworkId update.networkId ≠ "")
    (signed : normalizeNostrPubkey sdk update.signedBy = .ok signer)
    (past : update.signedAt ≤ now.toNat)
    (found : config.networks.find?
      (NetworkConfig.hasMeshId (normalizeRuntimeNetworkId update.networkId)) = some network)
    (admin : signer ∈ network.admins)
    (kept : signer ∈ update.admins.filterMap (normalPubkey? sdk)) :
    (config.applyAdminSignedSharedRoster sdk sha256 now update).2.ownPubkey sdk =
      config.ownPubkey sdk := by
  rw [apply_of_admin meshId signed past found admin kept]
  split_ifs
  · rfl
  · cases normalizeSharedRosterParticipants sdk update.participants (config.ownPubkey sdk)
    · rfl
    · simp

end Refinement

/-! ## Deliveries -/

section Deliveries
variable {sdk : NostrSdk} {sha256 : Sha256}

/-- Every update is addressed to the network and signed by an admin of it that all updates keep. -/
def SignedByKeptAdmins (sdk : NostrSdk) (network : NetworkConfig)
    (updates : List SharedRosterUpdate) : Prop :=
  ∀ u ∈ updates,
    normalizeRuntimeNetworkId u.networkId = normalizeRuntimeNetworkId network.networkId ∧
      ∃ signer ∈ network.admins, normalizeNostrPubkey sdk u.signedBy = .ok signer ∧
        ∀ v ∈ updates, signer ∈ v.admins.filterMap (normalPubkey? sdk)

instance (sdk : NostrSdk) (network : NetworkConfig) (updates : List SharedRosterUpdate) :
    Decidable (SignedByKeptAdmins sdk network updates) :=
  inferInstanceAs (Decidable (∀ u ∈ updates, _ ∧ _))

/-- The signers are admins of the first network with the mesh id. -/
def SignersAdmitted (sdk : NostrSdk) (meshId : String) (updates : List SharedRosterUpdate)
    (config : AppConfig) : Prop :=
  ∃ network, config.networks.find? (NetworkConfig.hasMeshId meshId) = some network ∧
    SignedByKeptAdmins sdk network updates

variable {meshId : String} {updates : List SharedRosterUpdate} {config : AppConfig}
  {update : SharedRosterUpdate} {now : UInt64}

theorem meshId_of_find {network : NetworkConfig}
    (found : config.networks.find? (NetworkConfig.hasMeshId meshId) = some network) :
    normalizeRuntimeNetworkId network.networkId = meshId := by
  simpa [NetworkConfig.hasMeshId] using List.find?_some found

/-- An offered roster keeps the admins that the update lists. -/
theorem admins_of_offered {own : Option String} {x : Nat × List String × List String}
    (h : update.offered sdk own = some x) {signer : String}
    (kept : signer ∈ update.admins.filterMap (normalPubkey? sdk)) : signer ∈ x.2.2 := by
  unfold SharedRosterUpdate.offered at h
  split at h
  · cases h
  · obtain rfl := Option.some.inj h
    exact mem_sortDedup.mpr kept

/-- One delivery is an offer, and the signers stay admins: the roster either loses, or keeps them. -/
theorem deliver_step (admitted : SignersAdmitted sdk meshId updates config) (nonempty : meshId ≠ "")
    (mem : update ∈ updates) (past : update.signedAt ≤ now.toNat) :
    (config.applyAdminSignedSharedRoster sdk sha256 now update).2.rosters =
        offerTo meshId (update.offered sdk (config.ownPubkey sdk)).toList config.rosters ∧
      (config.applyAdminSignedSharedRoster sdk sha256 now update).2.ownPubkey sdk =
        config.ownPubkey sdk ∧
      SignersAdmitted sdk meshId updates
        (config.applyAdminSignedSharedRoster sdk sha256 now update).2 := by
  obtain ⟨network, found, signed⟩ := admitted
  obtain ⟨addressed, signer, admin, parsed, kept⟩ := signed update mem
  obtain rfl : normalizeRuntimeNetworkId update.networkId = meshId :=
    addressed.trans (meshId_of_find found)
  have offered := @rosters_apply sdk sha256 now config update _ _ nonempty parsed past found admin
    (kept update mem)
  have own := @ownPubkey_apply sdk sha256 now config update _ _ nonempty parsed past found admin
    (kept update mem)
  refine ⟨offered, own, ?_⟩
  generalize (config.applyAdminSignedSharedRoster sdk sha256 now update).2 = after at offered
  have found' := find?_rosters after (normalizeRuntimeNetworkId update.networkId)
  rw [offered, find?_offerTo, find?_rosters, found] at found'
  obtain ⟨network', find, eq⟩ := Option.map_eq_some_iff.mp found'.symm
  obtain ⟨sameId, roster⟩ := Prod.mk.inj eq
  refine ⟨network', find, fun u hu => ?_⟩
  obtain ⟨addressed', signer', admin', parsed', kept'⟩ := signed u hu
  refine ⟨addressed'.trans (by rw [sameId]), signer', ?_, parsed', kept'⟩
  have held := foldl_offer_mem network.roster (update.offered sdk (config.ownPubkey sdk)).toList
  rw [← roster] at held
  rcases List.mem_cons.mp held with old | new
  · have admins : network'.admins = network.admins := congrArg (fun r => r.2.2) old
    rwa [admins]
  · exact admins_of_offered (Option.mem_toList.mp new) (kept' update mem)

/-- A run of deliveries makes all the offers. -/
theorem rosters_deliver (admitted : SignersAdmitted sdk meshId updates config)
    (nonempty : meshId ≠ "") {deliveries : List (UInt64 × SharedRosterUpdate)}
    (mem : ∀ d ∈ deliveries, d.2 ∈ updates) (past : ∀ d ∈ deliveries, d.2.signedAt ≤ d.1.toNat) :
    (AppConfig.deliver sdk sha256 config deliveries).rosters =
      offerTo meshId ((deliveries.map Prod.snd).filterMap
        (SharedRosterUpdate.offered sdk (config.ownPubkey sdk))) config.rosters := by
  induction deliveries generalizing config with
  | nil =>
    exact (modifyFirst_eq_self fun e _ => rfl).symm
  | cons d rest ih =>
    obtain ⟨offered, own, admitted'⟩ := @deliver_step sdk sha256 meshId updates config d.2 d.1 admitted
      nonempty (mem d (by simp)) (past d (by simp))
    have run := ih admitted' (fun e he => mem e (by simp [he])) fun e he => past e (by simp [he])
    rw [own, offered, ← offerTo_append] at run
    rw [AppConfig.deliver, List.foldl_cons]
    refine run.trans ?_
    cases first : d.2.offered sdk (config.ownPubkey sdk) <;> simp [first]

/-- A network behind another one with the same mesh id is never the one a roster reaches. -/
theorem getElem?_deliver_of_shadowed {i j : Nat} {first : NetworkConfig} (before : j < i)
    (at' : config.networks[j]? = some first) (selected : first.hasMeshId meshId)
    {deliveries : List (UInt64 × SharedRosterUpdate)}
    (addressed : ∀ d ∈ deliveries, normalizeRuntimeNetworkId d.2.networkId = meshId) :
    (AppConfig.deliver sdk sha256 config deliveries).networks[i]? = config.networks[i]? := by
  induction deliveries generalizing config first with
  | nil => rfl
  | cons d rest ih =>
    have rest' := fun e he => addressed e (List.mem_cons_of_mem d he)
    rw [AppConfig.deliver, List.foldl_cons]
    rcases apply_cases sdk sha256 d.1 config d.2 with same | ⟨network, accepted, found, -, id, eq⟩
    · rw [same]
      exact ih at' selected rest'
    · rw [addressed d (by simp)] at found eq
      have networks := @networks_acceptSharedRoster sdk sha256 config meshId accepted
        d.2.aliases
      rw [← eq] at networks
      obtain ⟨c, hc, which⟩ := @getElem?_modifyFirst _ (NetworkConfig.hasMeshId meshId)
        (fun _ => accepted) _ _ _ at'
      have selected' : c.hasMeshId meshId := by
        rcases which with rfl | rfl
        · exact selected
        · simp [NetworkConfig.hasMeshId, id, meshId_of_find found]
      rw [← networks] at hc
      refine (ih hc selected' rest').trans ?_
      rw [networks]
      exact getElem?_modifyFirst_of_lt before at' selected

/-- A roster without a mesh id reaches no network. -/
theorem deliver_of_blank {deliveries : List (UInt64 × SharedRosterUpdate)}
    (addressed : ∀ d ∈ deliveries, normalizeRuntimeNetworkId d.2.networkId = "") :
    AppConfig.deliver sdk sha256 config deliveries = config := by
  induction deliveries with
  | nil => rfl
  | cons d rest ih =>
    have ignored : (config.applyAdminSignedSharedRoster sdk sha256 d.1 d.2).2 = config := by
      simp [AppConfig.applyAdminSignedSharedRoster, addressed d (by simp)]
    rw [AppConfig.deliver, List.foldl_cons, ignored]
    exact ih fun e he => addressed e (by simp [he])

/-- The rosters that carry the greatest time among those whose participants parse agree. -/
def LatestRostersAgree (sdk : NostrSdk) (own : Option String) (updates : List SharedRosterUpdate) :
    Prop :=
  LatestAgree (updates.filterMap (SharedRosterUpdate.offered sdk own))

instance (sdk : NostrSdk) (own : Option String) (updates : List SharedRosterUpdate) :
    Decidable (LatestRostersAgree sdk own updates) :=
  inferInstanceAs (Decidable (LatestAgree _))

/-- Two orders of delivery leave every network that the rosters are for with the same roster. -/
theorem rosters_converge (sdk : NostrSdk) (sha256 : Sha256) (config : AppConfig) (i : Nat)
    (network : NetworkConfig) (at' : config.networks[i]? = some network)
    (deliveries deliveries' : List (UInt64 × SharedRosterUpdate))
    (perm : (deliveries.map Prod.snd).Perm (deliveries'.map Prod.snd))
    (past : ∀ d ∈ deliveries ++ deliveries', d.2.signedAt ≤ d.1.toNat)
    (signed : SignedByKeptAdmins sdk network (deliveries.map Prod.snd))
    (agree : LatestRostersAgree sdk (config.ownPubkey sdk) (deliveries.map Prod.snd)) :
    (AppConfig.deliver sdk sha256 config deliveries).networks[i]?.map NetworkConfig.roster =
      (AppConfig.deliver sdk sha256 config deliveries').networks[i]?.map NetworkConfig.roster := by
  have mem' : ∀ d ∈ deliveries', d.2 ∈ deliveries.map Prod.snd := fun d hd =>
    perm.mem_iff.mpr (List.mem_map_of_mem hd)
  have mem : ∀ d ∈ deliveries, d.2 ∈ deliveries.map Prod.snd := fun d hd => List.mem_map_of_mem hd
  by_cases blank : normalizeRuntimeNetworkId network.networkId = ""
  · rw [deliver_of_blank fun d hd => (signed d.2 (mem d hd)).1.trans blank,
      deliver_of_blank fun d hd => (signed d.2 (mem' d hd)).1.trans blank]
  -- the rosters reach the first network with this mesh id, which is this one or stands before it
  have here : network.hasMeshId (normalizeRuntimeNetworkId network.networkId) := by
    simp [NetworkConfig.hasMeshId]
  obtain ⟨first, found⟩ := Option.isSome_iff_exists.mp
    (List.find?_isSome.mpr ⟨network, List.mem_of_getElem? at', here⟩)
  obtain ⟨selected, j, hj, atJ, before⟩ := List.find?_eq_some_iff_getElem.mp found
  rcases Nat.lt_trichotomy j i with shadowed | rfl | after
  · have atJ' : config.networks[j]? = some first := by rw [List.getElem?_eq_getElem hj, atJ]
    rw [getElem?_deliver_of_shadowed shadowed atJ' selected fun d hd => (signed d.2 (mem d hd)).1,
      getElem?_deliver_of_shadowed shadowed atJ' selected fun d hd => (signed d.2 (mem' d hd)).1]
  · obtain rfl : network = first := by
      rw [List.getElem?_eq_getElem hj, atJ] at at'
      exact (Option.some.inj at').symm
    have admitted : SignersAdmitted sdk (normalizeRuntimeNetworkId network.networkId)
        (deliveries.map Prod.snd) config := ⟨network, found, signed⟩
    have one := @rosters_deliver sdk sha256 _ _ _ admitted blank _ mem fun d hd =>
      past d (List.mem_append_left _ hd)
    have other := @rosters_deliver sdk sha256 _ _ _ admitted blank _ mem' fun d hd =>
      past d (List.mem_append_right _ hd)
    have same := one.trans ((congrArg (fun f => modifyFirst (hasId _) f config.rosters)
      (funext fun e => congrArg (Prod.mk e.1) (foldl_offer_perm (perm.filterMap _) agree))).trans
        other.symm)
    have roster (c : AppConfig) : c.networks[j]?.map NetworkConfig.roster =
        c.rosters[j]?.map Prod.snd := by
      rw [AppConfig.rosters, List.getElem?_map, Option.map_map]
      rfl
    rw [roster, roster, same]
  · have hi : i < config.networks.length := by omega
    rw [List.getElem?_eq_getElem hi] at at'
    have none := before i after
    rw [Option.some.inj at'] at none
    simp [here] at none

end Deliveries

/-! ## Two rosters of one second -/

/-- A network administered by the first sample key. -/
def sampleNetwork : NetworkConfig where
  id := "network-1"
  name := "Home"
  networkId := "mesh-home"
  admins := samplePubkeys.take 1

def sampleRosterConfig : AppConfig where
  networks := [sampleNetwork]
  node := { id := "node-1" }

/-- A roster of the administrator with one participant. -/
def sampleRoster (signedAt : Nat) (participant : String) : SharedRosterUpdate where
  networkId := "mesh-home"
  networkName := "Home"
  participants := [participant]
  admins := samplePubkeys.take 1
  signedAt := signedAt
  signedBy := "npub10xlxvlhemja6c4dqv22uapctqupfhlxm9h8z3k2e72q4k9hcz7vqpkge6d"

/-- Two rosters for the other sample keys, signed at these times and delivered in second 200. -/
def sampleDeliveries (first second : Nat) : List (UInt64 × SharedRosterUpdate) :=
  [(200, sampleRoster first "c6047f9441ed7d6d3045406e95c07cd85c778e4b8cef3ca7abac09b95c709ee5"),
   (200, sampleRoster second "f9308a019258c31049344f85f89d5229b531c845836f99b08601f113bce036f9")]

theorem rosters_converge_at_two_times :
    (AppConfig.deliver sampleSdk sampleSha256 sampleRosterConfig
        (sampleDeliveries 100 90)).networks[0]?.map NetworkConfig.roster =
      (AppConfig.deliver sampleSdk sampleSha256 sampleRosterConfig
        (sampleDeliveries 100 90).reverse).networks[0]?.map NetworkConfig.roster :=
  rosters_converge sampleSdk sampleSha256 sampleRosterConfig 0 sampleNetwork rfl _ _
    ((List.reverse_perm _).symm.map Prod.snd) (by decide +kernel) (by decide +kernel)
    (by decide +kernel)

/-- The first of two rosters of one second wins, whichever it is. -/
theorem rosters_diverge_on_tie :
    ¬ ∀ deliveries deliveries' : List (UInt64 × SharedRosterUpdate),
      (deliveries.map Prod.snd).Perm (deliveries'.map Prod.snd) →
      (∀ d ∈ deliveries ++ deliveries', d.2.signedAt ≤ d.1.toNat) →
      SignedByKeptAdmins sampleSdk sampleNetwork (deliveries.map Prod.snd) →
      (AppConfig.deliver sampleSdk sampleSha256 sampleRosterConfig deliveries).networks[0]?.map
          NetworkConfig.roster =
        (AppConfig.deliver sampleSdk sampleSha256 sampleRosterConfig deliveries').networks[0]?.map
          NetworkConfig.roster := by
  intro converge
  have same := converge (sampleDeliveries 100 100) (sampleDeliveries 100 100).reverse
    ((List.reverse_perm _).symm.map Prod.snd) (by decide +kernel) (by decide +kernel)
  revert same
  decide +kernel

end NostrVpn.Core
