import NostrVpn.Invite.ConfigNetworks
import NostrVpn.Invite.MeshRouting

/-!
# The selected exit node

Whether the selected exit node is a member of the active network. Most operations drop a selection that is
none; a switch to another network, also the one of an import, leaves it as it is.
-/
namespace NostrVpn.Invite

open Rust NostrVpn.Core Transition

/-- The key takes part in the network or administers it. -/
def IsMember (network : NetworkConfig) (key : String) : Prop :=
  key ∈ network.participants ∨ key ∈ network.admins

instance (network : NetworkConfig) (key : String) : Decidable (IsMember network key) :=
  inferInstanceAs (Decidable (_ ∨ _))

/-- The exit node is not selected or a member of the active network. -/
def ExitNodeInvariant (config : AppConfig) : Prop :=
  config.exitNode = "" ∨ IsMember config.activeNetwork config.exitNode

instance (config : AppConfig) : Decidable (ExitNodeInvariant config) :=
  inferInstanceAs (Decidable (_ ∨ _))

/-- The key is one of the invite; the own key is not made a participant. -/
def InvitesMember (own : Option String) (keys : InviteKeys) (key : String) : Prop :=
  key = keys.inviter ∨ key ∈ keys.admins ∨ (key ∈ keys.participants ∧ own ≠ some key)

instance (own : Option String) (keys : InviteKeys) (key : String) : Decidable (InvitesMember own keys key) :=
  inferInstanceAs (Decidable (_ ∨ _ ∨ (_ ∧ _)))

/-- The network that an import switches to has the exit node among the members it has then: those of a
network with the mesh id and those of the invite, if its mesh id is taken. -/
def ImportKeepsExitNode (config : AppConfig) (own : Option String) (keys : InviteKeys)
    (invite : NetworkInvite) : Prop :=
  let meshId := normalizeRuntimeNetworkId invite.networkId
  match config.networks.find? (NetworkConfig.hasMeshId meshId) with
  | some existing =>
    IsMember existing config.exitNode ∨ (meshId ≠ "" ∧ InvitesMember own keys config.exitNode)
  | none =>
    if meshId = "" then networkShouldAdoptInvite config.activeNetwork
    else InvitesMember own keys config.exitNode

/-- The step switches to no network of which the selected exit node is no member. -/
def ConfigOp.KeepsExitNode (sdk : NostrSdk) (s : LoadedConfig) : ConfigOp → Prop
  | .setNetworkEnabled id true => s.config.exitNode = "" ∨
      ∀ network ∈ s.config.networkById id, IsMember network s.config.exitNode
  | .importInvite _ invite => s.config.exitNode = "" ∨ ∀ keys ∈ (inviteKeys sdk invite).toOption,
      ImportKeepsExitNode s.config (s.config.ownPubkey sdk) keys invite
  | _ => True

/-! ## The active network without its name -/

section Active
variable {config after : AppConfig} {networks : List NetworkConfig}

def activeOf (networks : List NetworkConfig) : Option NetworkConfig :=
  (networks.find? NetworkConfig.enabled).or networks.head?

theorem activeOf_cores (config : AppConfig) : activeOf config.cores = some config.activeNetwork.core := by
  have first := config.networks.head?_eq_some_head config.networks_ne
  rw [activeOf, AppConfig.cores, List.find?_map, List.head?_map, first, AppConfig.activeNetwork]
  have flags : NetworkConfig.enabled ∘ NetworkConfig.core = NetworkConfig.enabled := rfl
  rw [flags]
  cases config.networks.find? NetworkConfig.enabled <;> rfl

theorem isMember_core {network : NetworkConfig} {key : String} :
    IsMember network.core key ↔ IsMember network key := Iff.rfl

/-- The invariant reads the networks without their names. -/
theorem exitNodeInvariant_iff {core : NetworkConfig} (active : activeOf config.cores = some core) :
    ExitNodeInvariant config ↔ config.exitNode = "" ∨ IsMember core config.exitNode := by
  obtain rfl := Option.some.inj ((activeOf_cores config).symm.trans active)
  exact Iff.rfl

theorem exitNodeInvariant_congr (active : activeOf after.cores = activeOf config.cores)
    (same : after.exitNode = config.exitNode) : ExitNodeInvariant after ↔ ExitNodeInvariant config := by
  rw [activeOf_cores config] at active
  rw [exitNodeInvariant_iff active, same]
  exact Iff.rfl

theorem activeOf_concat {network : NetworkConfig} (some' : networks ≠ []) (off : network.enabled = false) :
    activeOf (networks ++ [network]) = activeOf networks := by
  have new : [network].find? NetworkConfig.enabled = none := by simp [off]
  rw [activeOf, activeOf, List.find?_append, new, Option.or_none, List.head?_append_of_ne_nil _ some']

theorem activeOf_enableAt {i : Nat} {network : NetworkConfig} (at' : networks[i]? = some network) :
    activeOf (enableAt i networks) = some { network with enabled := true } := by
  have first : (enableAt i networks).find? NetworkConfig.enabled = some { network with enabled := true } := by
    obtain ⟨inside, rfl⟩ := List.getElem?_eq_some_iff.mp at'
    refine List.find?_eq_some_iff_getElem.mpr ⟨rfl, i, by simpa [enableAt], by simp [enableAt], ?_⟩
    intro j before
    simp [enableAt]
    omega
  rw [activeOf, first]
  rfl

/-- The network enabled alone stays active when it is replaced. -/
theorem activeOf_set_enableAt {i : Nat} {network : NetworkConfig} (inside : i < networks.length)
    (on : network.enabled = true) : activeOf ((enableAt i networks).set i network) = some network := by
  have first : ((enableAt i networks).set i network).find? NetworkConfig.enabled = some network := by
    refine List.find?_eq_some_iff_getElem.mpr ⟨on, i, by simpa [enableAt], by simp, fun j before => ?_⟩
    rw [List.getElem_set_of_ne (by omega)]
    simp [enableAt]
    omega
  rw [activeOf, first]
  rfl

theorem exitNodeInvariant_normalize (config : AppConfig) :
    ExitNodeInvariant config.normalizeSelectedExitNode := by
  unfold AppConfig.normalizeSelectedExitNode
  split_ifs with kept
  · rcases kept with none' | member
    · exact Or.inl none'
    · refine Or.inr ?_
      simpa [AppConfig.activeNetworkSignalPubkeysHex, IsMember] using member
  · exact Or.inl rfl

end Active

/-! ## Every operation -/

section Operations
variable {sdk : NostrSdk} {sha256 : Sha256} {s : LoadedConfig}

theorem exitNodeInvariant_normalizePeerAliases {config : AppConfig} :
    ExitNodeInvariant (config.normalizePeerAliases sdk sha256) ↔ ExitNodeInvariant config := Iff.rfl

theorem networkById_of_mem {network : NetworkConfig} (s : LoadedConfig) (mem : network ∈ s.config.networks) :
    s.config.networkById network.id = some network := by
  obtain ⟨i, at'⟩ := List.getElem?_of_mem mem
  obtain ⟨found, byId⟩ := Option.isSome_iff_exists.mp
    (AppConfig.networkById_isSome.mpr (List.mem_map_of_mem (f := NetworkConfig.id) mem))
  have same : found.id = network.id := by simpa [NetworkConfig.hasEntryId] using List.find?_some byId
  rw [byId, List.inj_on_of_nodup_map s.distinct (List.mem_of_find?_eq_some byId) mem same]

theorem getElem?_of_first {network : NetworkConfig} {i : Nat} (mem : network ∈ s.config.networks)
    (first : s.config.networks.findIdx? (NetworkConfig.hasEntryId network.id) = some i) :
    s.config.networks[i]? = some network := by
  have found : s.config.networks.find? (NetworkConfig.hasEntryId network.id) = some network :=
    networkById_of_mem s mem
  obtain ⟨j, first', at', -⟩ := modifyFirst_eq_set found id
  rwa [Option.some.inj (first.symm.trans first')]

theorem isMember_mergeInvite {own : Option String} {keys : InviteKeys} {reset : Bool}
    {network : NetworkConfig} {key : String} : IsMember (mergeInvite own keys reset network) key ↔
      (reset = false ∧ IsMember network key) ∨ InvitesMember own keys key := by
  cases reset <;>
    simp only [IsMember, mergeInvite, resetMembership, InvitesMember, mem_sortDedup, mem_pushUnique,
      List.mem_append, List.mem_filter, if_true, if_false, Bool.false_eq_true, decide_eq_true_eq] <;>
    grind

/-- The operations that may make another network the active one without looking at the exit node. -/
def ConfigOp.switches : ConfigOp → Bool
  | .setNetworkEnabled _ _ | .importInvite _ _ => true
  | _ => false

/-- An edit of the active network or of another one that leaves the members and the flag alone. -/
theorem activeMembers_set {config after : AppConfig} {i : Nat} {network network' : NetworkConfig}
    (at' : config.networks[i]? = some network) (networks : after.networks = config.networks.set i network')
    (same : (network'.enabled, network'.participants, network'.admins) =
      (network.enabled, network.participants, network.admins)) (key : String) :
    IsMember after.activeNetwork key ↔ IsMember config.activeNetwork key := by
  have views : after.networks.map (fun network => (network.enabled, network.participants, network.admins)) =
      config.networks.map fun network => (network.enabled, network.participants, network.admins) := by
    rw [networks]
    refine List.ext_getElem? fun j => ?_
    rw [List.getElem?_map, List.getElem?_set, List.getElem?_map]
    grind
  have active := AppConfig.activeNetwork_congr (fun network => (network.participants, network.admins)) views
  obtain ⟨participants, admins⟩ := Prod.mk.inj active
  rw [IsMember, participants, admins, IsMember]

theorem ConfigOp.Effect.exitNodeInvariant {op : ConfigOp} {after : AppConfig}
    (member : ExitNodeInvariant s.config) (stays : op.switches = false)
    (effect : op.Effect sdk sha256 s after) : ExitNodeInvariant after := by
  cases effect with
  | silent plain same cores => exact (exitNodeInvariant_congr (by rw [cores]) same.exitNode).mpr member
  | added same fresh cores =>
    have some' : s.config.cores ≠ [] := by simpa [AppConfig.cores] using s.config.networks_ne
    exact (exitNodeInvariant_congr (by rw [cores, activeOf_concat some' rfl]) same.exitNode).mpr member
  | removed several present same networks =>
    exact exitNodeInvariant_normalizePeerAliases.mpr (exitNodeInvariant_normalize _)
  | switched first same cores => cases stays
  | recorded same parsed first at' outside recorded networks =>
    rw [ExitNodeInvariant, same.exitNode, activeMembers_set at' networks rfl]
    exact member
  | @edited _ _ _ _ action _ _ _ _ same parsed first at' changed cores =>
    cases action with
    | AddParticipant | RemoveParticipant =>
      exact exitNodeInvariant_normalizePeerAliases.mpr (exitNodeInvariant_normalize _)
    | AddAdmin | RemoveAdmin => exact exitNodeInvariant_normalize _
  | aliased stored same cores =>
    have exitNode : after.exitNode = s.config.exitNode := same.exitNode
    exact (exitNodeInvariant_congr (by rw [cores]) exitNode).mpr member
  | accepted passes named some' =>
    exact exitNodeInvariant_normalizePeerAliases.mpr (exitNodeInvariant_normalize _)
  | importFailed parsed target first unnamed => cases stays
  | imported parsed target first named at' same cores => cases stays
  | defaulted => exact exitNodeInvariant_normalizePeerAliases.mpr (exitNodeInvariant_normalize _)

theorem exitNodeInvariant_setNetworkEnabled {id : String} {enabled : Bool}
    (member : ExitNodeInvariant s.config) :
    ExitNodeInvariant ((ConfigOp.setNetworkEnabled id enabled).apply sdk sha256 s).config ↔
      (ConfigOp.setNetworkEnabled id enabled).KeepsExitNode sdk s := by
  simp only [ConfigOp.apply, ConfigOp.outcome]
  cases enabled with
  | false =>
    refine iff_of_true ?_ trivial
    cases switched : s.config.setNetworkEnabled id false with
    | error e => exact member
    | ok after =>
      obtain ⟨same, i, -, cores⟩ := setNetworkEnabled_spec switched
      exact (exitNodeInvariant_congr (by rw [cores]; rfl) same.exitNode).mpr member
  | true =>
    cases found : s.config.networkById id with
    | none =>
      have refused : s.config.setNetworkEnabled id true = .error "network not found" := by
        simp [AppConfig.setNetworkEnabled, found]
      rw [refused]
      exact iff_of_true member (Or.inr fun network eq => by rw [found] at eq; cases eq)
    | some network =>
      have mem := List.mem_of_find?_eq_some found
      have named : network.id = id := by simpa [NetworkConfig.hasEntryId] using List.find?_some found
      subst named
      obtain ⟨i, first, switched⟩ := setNetworkEnabled_of_mem (List.mem_map_of_mem (f := NetworkConfig.id) mem)
      rw [switched, toOption_ok, Option.getD_some]
      have active : activeOf (s.config.enableOnly i).cores = some { network.core with enabled := true } := by
        rw [cores_enableOnly]
        exact activeOf_enableAt (getElem?_cores (getElem?_of_first mem first))
      rw [exitNodeInvariant_iff active]
      simp only [ConfigOp.KeepsExitNode, found, Option.mem_some_iff, forall_eq']
      exact Iff.rfl

theorem exitNodeInvariant_importInvite {now : Nat} {invite : NetworkInvite}
    (member : ExitNodeInvariant s.config) :
    ExitNodeInvariant ((ConfigOp.importInvite now invite).apply sdk sha256 s).config ↔
      (ConfigOp.importInvite now invite).KeepsExitNode sdk s := by
  simp only [ConfigOp.apply, ConfigOp.outcome, ConfigOp.KeepsExitNode]
  rcases import_cases sdk sha256 now s.config invite with
    ⟨e, bad, eq⟩ | ⟨keys, base, id, reset, i, parsed, target, first, eq⟩
  · rw [eq, bad]
    exact iff_of_true member (Or.inr fun keys none' => by cases none')
  · rw [eq, parsed]
    obtain ⟨inside, -⟩ := List.findIdx?_eq_some_iff_getElem.mp first
    obtain ⟨network, at'⟩ : ∃ network, base.networks[i]? = some network :=
      ⟨_, List.getElem?_eq_getElem inside⟩
    have only (P : InviteKeys → Prop) : (∀ keys' ∈ (Except.ok keys : Except String _).toOption, P keys') ↔
        P keys := by simp
    rw [only]
    split_ifs with unnamed
    · have active : activeOf (base.enableOnly i).cores = some { network.core with enabled := true } := by
        rw [cores_enableOnly]
        exact activeOf_enableAt (getElem?_cores at')
      have exitNode : (base.enableOnly i).exitNode = s.config.exitNode := target.sameSettings.exitNode
      rw [exitNodeInvariant_iff active, exitNode]
      simp only [ImportKeepsExitNode, unnamed]
      cases target with
      | known found =>
        have here := getElem?_of_first (List.mem_of_find?_eq_some found) first
        obtain rfl := Option.some.inj (at'.symm.trans here)
        rw [unnamed] at found
        simp only [found, ne_eq, not_true_eq_false, false_and, or_false]
        exact Iff.rfl
      | adopted unknown unused =>
        have here := getElem?_of_first s.config.activeNetwork_mem first
        obtain rfl := Option.some.inj (at'.symm.trans here)
        rw [unnamed] at unknown
        simp only [unknown, if_true, unused, or_true, iff_true]
        exact member
      | added unknown used =>
        have new : network.core = addedCore (s.config.addNetwork sdk now invite.networkName).1 := by
          have here := getElem?_cores at'
          rw [(addNetwork_spec s.config invite.networkName).2.1, index_addNetwork first] at here
          simpa using here.symm
        rw [unnamed] at unknown
        simp [unknown, used, new, IsMember, addedCore]
    · obtain ⟨network', at'', cores⟩ := @cores_imported sdk sha256 now s.config base invite id reset
        (s.config.ownPubkey sdk) keys (normalizeRuntimeNetworkId invite.networkId) i target first
        ((base.networkById id).any networkShouldAdoptInvite)
        ((base.networkById id).any (NetworkConfig.hasMember keys.inviter))
      obtain rfl := Option.some.inj (at'.symm.trans at'')
      have before : SameSelection sdk s.config ((base.enableOnly i).modifyNetwork id fun network =>
          { network with networkId := normalizeRuntimeNetworkId invite.networkId }) :=
        sameSelection_of_sameSettings (target.sameSettings.trans ⟨rfl, rfl, rfl, rfl⟩)
      have exitNode := (before.trans (@sameSelection_importMembers sdk sha256 now (s.config.ownPubkey sdk)
        keys invite id reset ((base.networkById id).any networkShouldAdoptInvite)
        ((base.networkById id).any (NetworkConfig.hasMember keys.inviter)) _)).2.1
      generalize importMembers sdk sha256 now (s.config.ownPubkey sdk) keys invite id reset _ _ _ = after
        at cores exitNode
      have active : activeOf after.cores = some (mergeInvite (s.config.ownPubkey sdk) keys reset
          { network.core with enabled := true }) := by
        rw [cores]
        exact activeOf_set_enableAt (by simpa [AppConfig.cores]) (by cases reset <;> rfl)
      rw [exitNodeInvariant_iff active, exitNode, isMember_mergeInvite]
      refine or_congr_right ?_
      unfold ImportKeepsExitNode
      cases target with
      | known found =>
        have here := getElem?_of_first (List.mem_of_find?_eq_some found) first
        obtain rfl := Option.some.inj (at'.symm.trans here)
        simp only [found, true_and, ne_eq, unnamed, not_false_eq_true]
        exact Iff.rfl
      | adopted unknown unused => simp [unknown, unnamed]
      | added unknown used => simp [unknown, unnamed]

/-- An operation keeps the exit node a member exactly when it does not switch away from its network. -/
theorem exitNodeInvariant_step {op : ConfigOp} (member : ExitNodeInvariant s.config) :
    ExitNodeInvariant (op.apply sdk sha256 s).config ↔ op.KeepsExitNode sdk s := by
  cases op with
  | setNetworkEnabled id enabled => exact exitNodeInvariant_setNetworkEnabled member
  | importInvite now invite => exact exitNodeInvariant_importInvite member
  | addNetwork _ _ | renameNetwork _ _ _ | removeNetwork _ | setNetworkJoinRequestsEnabled _ _
  | setNetworkMeshId _ _ | recordInboundJoinRequest _ _ _ _ | editRoster _ _ _ _ | setPeerAlias _ _ _
  | applyRoster _ _ | ensureDefaults _ =>
    exact iff_of_true ((effect_apply s _).exitNodeInvariant member rfl) trivial

end Operations

/-! ## Runs -/

/-- In a run from a loaded file the exit node is a member of the active network at every state exactly when
no step switches to a network of which it is no member. -/
theorem exit_node_is_member_iff (sdk : NostrSdk) (sha256 : Sha256) (generated : Generated)
    (fields : AppConfig) (networks : List NetworkConfig) (ops : List ConfigOp) :
    (ExitNodeInvariant (LoadedConfig.load sdk sha256 generated fields networks).config ∧
      Along (ConfigOp.apply sdk sha256) (fun s op => ExitNodeInvariant (op.apply sdk sha256 s).config)
        (.load sdk sha256 generated fields networks) ops) ↔
      Along (ConfigOp.apply sdk sha256) (fun s op => op.KeepsExitNode sdk s)
        (.load sdk sha256 generated fields networks) ops := by
  have loaded : ExitNodeInvariant (LoadedConfig.load sdk sha256 generated fields networks).config :=
    exitNodeInvariant_normalizePeerAliases.mpr (exitNodeInvariant_normalize _)
  have steps := @along_congr _ _ (ConfigOp.apply sdk sha256) (fun s => ExitNodeInvariant s.config)
    (fun s op => ExitNodeInvariant (op.apply sdk sha256 s).config) (fun s op => op.KeepsExitNode sdk s)
    (.load sdk sha256 generated fields networks) ops (fun s op _ member => exitNodeInvariant_step member)
    (fun s op _ member keeps => (exitNodeInvariant_step member).mpr keeps) loaded
  exact ⟨fun both => steps.mp both.2, fun keeps => ⟨loaded, steps.mpr keeps⟩⟩

/-! ## An exit node of another network -/

/-- The networks `Work` and `Home`, of which the second one is active; the second sample key takes part in
it and is the exit node. -/
def exitNodeConfig : LoadedConfig :=
  .load sampleSdk sampleSha256 sampleGenerated
    { sampleRosterConfig with exitNode := "c6047f9441ed7d6d3045406e95c07cd85c778e4b8cef3ca7abac09b95c709ee5" }
    (twoNetworks.modify 1 fun network => { network with
      participants := ["c6047f9441ed7d6d3045406e95c07cd85c778e4b8cef3ca7abac09b95c709ee5"] })

/-- The exit node stays selected when the other network is activated, and when an invite for it is
imported. -/
theorem exit_node_of_other_network :
    exitNodeConfig.config.exitNode = "c6047f9441ed7d6d3045406e95c07cd85c778e4b8cef3ca7abac09b95c709ee5" ∧
      ¬ ExitNodeInvariant (ConfigOp.apply sampleSdk sampleSha256 exitNodeConfig
        (.setNetworkEnabled "network-1" true)).config ∧
      ¬ ExitNodeInvariant (ConfigOp.apply sampleSdk sampleSha256 exitNodeConfig
        (.importInvite 200 { sampleInvite with networkId := "mesh-work" })).config := by decide +kernel

end NostrVpn.Invite
