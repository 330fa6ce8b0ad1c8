import NostrVpn.Cli.DaemonSession
import NostrVpn.Core.RosterEdits
import NostrVpn.Core.RosterGuards
import NostrVpn.Invite.InviteImport

/-!
# Rosters among several nodes

Nodes edit, import, reload and publish their rosters, and receive those of others in any order, any
number of times or never. A roster in flight carries the timestamp that its publisher had stored.
-/
namespace NostrVpn.Cli

open Rust NostrVpn.Core NostrVpn.Invite

structure RosterMessage where
  sender : String
  networkId : String
  roster : NetworkRoster
  stored : Nat

def RosterMessage.update (message : RosterMessage) : SharedRosterUpdate where
  networkId := message.networkId
  networkName := message.roster.networkName
  participants := message.roster.participants
  admins := message.roster.admins
  aliases := message.roster.aliases
  signedAt := message.roster.signedAt
  signedBy := message.sender

/-- `publish_active_network_roster`, when it sends anything. -/
def publishedRoster (sdk : NostrSdk) (app : AppConfig) (now : Nat)
    (recipients : Option (List String)) : Option RosterMessage :=
  match app.sharedNetworkRoster sdk app.activeNetwork.id,
      sdk.publicKeyOfSecret app.nostr.secretKey with
  | .ok roster, .ok sender =>
    if rosterRecipients sdk app recipients = [] then none
    else some {
      sender
      networkId := app.effectiveNetworkId
      roster := {
        networkName := roster.name
        participants := roster.participants
        admins := roster.admins
        aliases := roster.aliases
        signedAt := if 0 < roster.updatedAt then roster.updatedAt else now }
      stored := roster.updatedAt }
  | _, _ => none

/-- The timestamp of the roster that the node would publish. -/
def storedRosterTime (app : AppConfig) : Nat :=
  (app.networkById app.activeNetwork.id).elim 0 NetworkConfig.sharedRosterUpdatedAt

/-- The node is an admin with a key, and somebody is to hear of its roster. -/
def publishesRoster (sdk : NostrSdk) (app : AppConfig) (recipients : Option (List String)) : Bool :=
  rosterRecipients sdk app recipients ≠ [] && (sdk.publicKeyOfSecret app.nostr.secretKey).isOk

/-- What is published, by the stored timestamp alone. -/
theorem publishedRoster_of_publishes {sdk : NostrSdk} {app : AppConfig}
    {recipients : Option (List String)} (publishes : publishesRoster sdk app recipients)
    (now : Nat) :
    ∃ message, publishedRoster sdk app now recipients = some message ∧
      message.stored = storedRosterTime app ∧
      message.roster.signedAt = if 0 < storedRosterTime app then storedRosterTime app else now := by
  have active : (app.networkById app.activeNetwork.id).isSome :=
    AppConfig.networkById_isSome.mpr (List.mem_map_of_mem app.activeNetwork_mem)
  obtain ⟨network, found⟩ := Option.isSome_iff_exists.mp active
  simp only [publishesRoster, ne_eq, decide_not, Bool.and_eq_true, Bool.not_eq_true',
    decide_eq_false_iff_not] at publishes
  obtain ⟨somebody, keyed⟩ := publishes
  cases key : sdk.publicKeyOfSecret app.nostr.secretKey with
  | error e => simp [key, Except.isOk, Except.toBool] at keyed
  | ok sender =>
    simp [publishedRoster, key, somebody, AppConfig.sharedNetworkRoster, found, storedRosterTime]

theorem publishedRoster_of_not_publishes {sdk : NostrSdk} {app : AppConfig}
    {recipients : Option (List String)} (silent : ¬ publishesRoster sdk app recipients) (now : Nat) :
    publishedRoster sdk app now recipients = none := by
  unfold publishedRoster
  cases app.sharedNetworkRoster sdk app.activeNetwork.id with
  | error e => rfl
  | ok roster =>
    cases key : sdk.publicKeyOfSecret app.nostr.secretKey with
    | error e => rfl
    | ok sender =>
      have nobody : rosterRecipients sdk app recipients = [] := by
        simpa [publishesRoster, key, Except.isOk, Except.toBool] using silent
      simp [nobody]

/-! ## Runs -/

/-- What changes the configuration of a node other than a received roster. -/
inductive LocalChange where
  | edit (now : Nat) (id : String) (action : RosterEditAction) (participant : String)
  | importInvite (now : Nat) (invite : NetworkInvite)
  | reload (config : AppConfig)

def LocalChange.apply (env : SessionEnv) (config : AppConfig) : LocalChange → AppConfig
  | .edit now id action participant =>
    (config.editRoster env.sdk env.sha256 now id action participant).toOption.getD config
  | .importInvite now invite =>
    (applyNetworkInviteToActiveNetwork env.sdk env.sha256 now config invite).2
  | .reload config => config

inductive RosterStep (ι : Type) where
  | change (node : ι) (change : LocalChange)
  | publish (node : ι) (now : Nat) (recipients : Option (List String))
  | deliver (node : ι) (index : Nat) (outcome : RosterOutcome)

structure RosterWorld (ι : Type) where
  nodes : ι → AppConfig
  inFlight : List RosterMessage := []

namespace RosterWorld

variable {ι : Type} [DecidableEq ι] (env : SessionEnv) (world : RosterWorld ι)

def setNode (node : ι) (config : AppConfig) : RosterWorld ι :=
  { world with nodes := Function.update world.nodes node config }

def step : RosterStep ι → RosterWorld ι
  | .change node change => world.setNode node (change.apply env (world.nodes node))
  | .publish node now recipients => { world with
      inFlight := world.inFlight ++
        (publishedRoster env.sdk (world.nodes node) now recipients).toList }
  | .deliver node index outcome => match world.inFlight[index]? with
    | none => world
    | some message => world.setNode node
        (Daemon.persistSharedNetworkRoster env outcome (world.nodes node) message.update).2

def run : RosterWorld ι → List (RosterStep ι) → RosterWorld ι := List.foldl (step env)

/-- Every step of the run satisfies the condition in the world that it is made in. -/
def Along (P : RosterWorld ι → RosterStep ι → Prop) : RosterWorld ι → List (RosterStep ι) → Prop
  | _, [] => True
  | world, step :: steps => P world step ∧ Along P (world.step env step) steps

/-! ## What a publication may claim -/

/-- No timestamp is published that is newer than the stored one. -/
def Republishes (world : RosterWorld ι) : RosterStep ι → Prop
  | .publish node now recipients =>
    ∀ message ∈ publishedRoster env.sdk (world.nodes node) now recipients,
      message.roster.signedAt ≤ message.stored
  | _ => True

/-- A node that publishes has stored a timestamp. -/
def PublishesStored (world : RosterWorld ι) : RosterStep ι → Prop
  | .publish node now recipients => publishesRoster env.sdk (world.nodes node) recipients →
      0 < storedRosterTime (world.nodes node) ∨ now = 0
  | _ => True

/-- A roster that was published without a stored timestamp replaces none that has one. -/
def SparesRosters (world : RosterWorld ι) : RosterStep ι → Prop
  | .deliver node index outcome => ∀ message network, world.inFlight[index]? = some message →
      message.stored = 0 →
      (world.nodes node).networks.find?
        (NetworkConfig.hasMeshId (normalizeRuntimeNetworkId message.networkId)) = some network →
      0 < network.sharedRosterUpdatedAt →
        (world.step env (.deliver node index outcome)).nodes node = world.nodes node
  | _ => True

section Publishing
variable {env}

omit [DecidableEq ι] in
theorem republishes_iff (step : RosterStep ι) :
    Republishes env world step ↔ PublishesStored env world step := by
  cases step with
  | change node change => exact Iff.rfl
  | deliver node index outcome => exact Iff.rfl
  | publish node now recipients =>
    simp only [Republishes, PublishesStored]
    by_cases publishes : publishesRoster env.sdk (world.nodes node) recipients
    · obtain ⟨message, published, stored, signed⟩ := publishedRoster_of_publishes publishes now
      simp only [published, Option.mem_some_iff, forall_eq', stored, signed, publishes, true_imp_iff]
      split_ifs <;> omega
    · simp [publishedRoster_of_not_publishes publishes, publishes]

theorem along_congr {P Q : RosterWorld ι → RosterStep ι → Prop}
    (same : ∀ world step, P world step ↔ Q world step) (steps : List (RosterStep ι)) (world : RosterWorld ι) :
    Along env P world steps ↔ Along env Q world steps := by
  induction steps generalizing world with
  | nil => exact Iff.rfl
  | cons step steps ih => exact and_congr (same world step) (ih _)

/-- No roster in flight is newer than what its publisher had stored. -/
def Honest : Prop := ∀ message ∈ world.inFlight, message.roster.signedAt ≤ message.stored

variable {world}

theorem Honest.step {step : RosterStep ι} (honest : world.Honest)
    (republishes : Republishes env world step) : (world.step env step).Honest := by
  cases step with
  | change node change => exact honest
  | publish node now recipients =>
    intro message mem
    rcases List.mem_append.mp mem with old | new
    · exact honest message old
    · exact republishes message (by simpa using new)
  | deliver node index outcome =>
    unfold RosterWorld.step
    dsimp only
    split
    · exact honest
    · exact honest

/-- A refused roster leaves the configuration as it is. -/
theorem persist_of_refused {outcome : RosterOutcome} {app : AppConfig} {update : SharedRosterUpdate}
    (fails : ∀ signer network participants,
      ¬ RosterPasses env.sdk outcome.clock app update signer network participants) :
    (Daemon.persistSharedNetworkRoster env outcome app update).2 = app := by
  obtain ⟨refused, same⟩ : (app.applyAdminSignedSharedRoster env.sdk env.sha256 outcome.clock update).1 ≠ .ok true ∧
      (app.applyAdminSignedSharedRoster env.sdk env.sha256 outcome.clock update).2 = app :=
    apply_of_not_passes fails
  unfold Daemon.persistSharedNetworkRoster
  generalize app.applyAdminSignedSharedRoster env.sdk env.sha256 outcome.clock update = result at *
  obtain ⟨verdict, after⟩ := result
  obtain rfl : after = app := same
  rcases verdict with e | _ | _
  · rfl
  · rfl
  · exact absurd rfl refused

theorem Honest.spares (honest : world.Honest) (step : RosterStep ι) : SparesRosters env world step := by
  cases step with
  | change node change => trivial
  | publish node now recipients => trivial
  | deliver node index outcome =>
    intro message network sent unstored found stamped
    have old := honest message (List.mem_of_getElem? sent)
    have refused : (Daemon.persistSharedNetworkRoster env outcome (world.nodes node)
        message.update).2 = world.nodes node := by
      refine persist_of_refused fun signer other participants passes => ?_
      obtain rfl := Option.some.inj (found.symm.trans passes.found)
      have newer : network.sharedRosterUpdatedAt < message.roster.signedAt := passes.newer
      omega
    simp [RosterWorld.step, sent, setNode, refused]

theorem Honest.sparesAlong {steps : List (RosterStep ι)} (honest : world.Honest)
    (republishes : Along env (Republishes env) world steps) :
    Along env (SparesRosters env) world steps := by
  induction steps generalizing world with
  | nil => trivial
  | cons step steps ih =>
    obtain ⟨now, later⟩ := republishes
    exact ⟨honest.spares step, ih (honest.step now) later⟩

/-! ## Where timestamps come from -/

/-- The timestamps of the rosters that a configuration has stored. -/
def StampsIn (stamps : Set Nat) (config : AppConfig) : Prop :=
  ∀ network ∈ config.networks, network.sharedRosterUpdatedAt ∈ stamps

theorem stamp_ensureNetworks {sdk : NostrSdk} {own : Option String} {stamps : Set Nat}
    (zero : 0 ∈ stamps) {networks : List NetworkConfig}
    (h : ∀ network ∈ networks, network.sharedRosterUpdatedAt ∈ stamps) (ordinal : Nat)
    (used : List String) :
    ∀ network ∈ ensureNetworks sdk own ordinal used networks,
      network.sharedRosterUpdatedAt ∈ stamps := by
  induction networks generalizing ordinal used with
  | nil => simp [ensureNetworks]
  | cons network rest ih =>
    simp only [ensureNetworks, List.forall_mem_cons] at h ⊢
    refine ⟨?_, ih h.2 _ _⟩
    simp only [NetworkConfig.ensureDefaults]
    split_ifs
    · exact zero
    · exact h.1

theorem stamp_deriveDefaultNetworkId (sha256 : Sha256) (own : Option String)
    (network : NetworkConfig) :
    (network.deriveDefaultNetworkId sha256 own).sharedRosterUpdatedAt =
      network.sharedRosterUpdatedAt := by
  unfold NetworkConfig.deriveDefaultNetworkId
  grind

section Defaults
variable {sdk : NostrSdk} {sha256 : Sha256} {generated : Generated} {own : Option String}
  {stamps : Set Nat} {config : AppConfig}

theorem StampsIn.ensureNostrIdentity (h : StampsIn stamps config) :
    StampsIn stamps (config.ensureNostrIdentity sdk generated) := by
  unfold AppConfig.ensureNostrIdentity
  dsimp only
  repeat' split
  all_goals exact h

theorem StampsIn.ensureFields (h : StampsIn stamps config) :
    StampsIn stamps (config.ensureFields sha256 generated own) := by
  unfold AppConfig.ensureFields AppConfig.ensureNodeName
  dsimp only
  split
  all_goals exact h

theorem StampsIn.ensureExitNode (h : StampsIn stamps config) :
    StampsIn stamps (config.ensureExitNode sdk) := h

theorem StampsIn.ensureNetworkList (zero : 0 ∈ stamps) (h : StampsIn stamps config) :
    StampsIn stamps (config.ensureNetworkList sdk own) :=
  stamp_ensureNetworks zero h 1 []

theorem StampsIn.enableOnly (h : StampsIn stamps config) (index : Nat) :
    StampsIn stamps (config.enableOnly index) := by
  intro network mem
  obtain ⟨i, inside, rfl⟩ := List.mem_mapIdx.mp mem
  exact h config.networks[i] (List.getElem_mem inside)

theorem StampsIn.deriveDefaultNetworkIds (h : StampsIn stamps config) :
    StampsIn stamps (config.deriveDefaultNetworkIds sdk sha256) := by
  intro network mem
  obtain ⟨before, listed, rfl⟩ := List.mem_map.mp mem
  rw [stamp_deriveDefaultNetworkId]
  exact h before listed

theorem StampsIn.normalize (h : StampsIn stamps config) :
    StampsIn stamps (config.normalizeSelectedExitNode.normalizePeerAliases sdk sha256) := by
  intro network mem
  rw [AppConfig.networks_normalizePeerAliases, AppConfig.networks_normalizeSelectedExitNode] at mem
  exact h network mem

/-- The defaults keep timestamps or reset them. -/
theorem StampsIn.ensureDefaults (zero : 0 ∈ stamps) (h : StampsIn stamps config) :
    StampsIn stamps (config.ensureDefaults sdk sha256 generated) := by
  have fields (own : Option String) : StampsIn stamps (((config.ensureNostrIdentity sdk
      generated).ensureFields sha256 generated own).ensureExitNode sdk) :=
    h.ensureNostrIdentity.ensureFields.ensureExitNode
  unfold AppConfig.ensureDefaults
  dsimp only
  exact (((fields _).ensureNetworkList zero).enableOnly _).deriveDefaultNetworkIds.normalize

end Defaults

/-- A received roster leaves the timestamps there are, or its own, or resets one. -/
theorem stampsIn_persist {stamps : Set Nat} {outcome : RosterOutcome} {app : AppConfig}
    {update : SharedRosterUpdate} (zero : 0 ∈ stamps) (h : StampsIn stamps app)
    (signed : update.signedAt ∈ stamps) :
    StampsIn stamps (Daemon.persistSharedNetworkRoster env outcome app update).2 := by
  have outcomes := refused_or_accepted env.sdk env.sha256 outcome.clock app update
  unfold Daemon.persistSharedNetworkRoster
  generalize app.applyAdminSignedSharedRoster env.sdk env.sha256 outcome.clock update = result at *
  obtain ⟨verdict, after⟩ := result
  have kept : StampsIn stamps after := by
    rcases outcomes with ⟨-, same⟩ | ⟨-, i, network, replaced, signer, spec⟩
    · rw [show after = app from same]
      exact h
    · intro network mem
      obtain ⟨j, at'⟩ := List.mem_iff_getElem?.mp mem
      by_cases here : j = i
      · obtain rfl := here
        obtain rfl := Option.some.inj (spec.replaced.symm.trans at')
        rwa [spec.stamped]
      · rw [spec.untouched j here] at at'
        exact h network (List.mem_of_getElem? at')
  rcases verdict with e | _ | _
  · exact kept
  · exact kept
  · intro network mem
    rw [AppConfig.networks_maybeAutoconfigureNode] at mem
    exact kept.ensureDefaults zero network mem

/-- The timestamps stored and in flight. -/
structure Stamped (stamps : Set Nat) (world : RosterWorld ι) : Prop where
  stored : ∀ node, StampsIn stamps (world.nodes node)
  sent : ∀ message ∈ world.inFlight, message.roster.signedAt ∈ stamps

variable (env) in
/-- A local change leaves timestamps of the set. -/
def ChangesWithin (stamps : Set Nat) (world : RosterWorld ι) : RosterStep ι → Prop
  | .change node change => StampsIn stamps (change.apply env (world.nodes node))
  | _ => True

theorem storedRosterTime_mem {stamps : Set Nat} {app : AppConfig} (h : StampsIn stamps app) :
    storedRosterTime app ∈ stamps := by
  have active : (app.networkById app.activeNetwork.id).isSome :=
    AppConfig.networkById_isSome.mpr (List.mem_map_of_mem app.activeNetwork_mem)
  obtain ⟨network, found⟩ := Option.isSome_iff_exists.mp active
  rw [storedRosterTime, found]
  exact h network (List.mem_of_find?_eq_some found)

theorem Stamped.setNode {stamps : Set Nat} (stamped : world.Stamped stamps) {node : ι}
    {config : AppConfig} (h : StampsIn stamps config) : (world.setNode node config).Stamped stamps := by
  refine ⟨fun other => ?_, stamped.sent⟩
  unfold RosterWorld.setNode
  by_cases here : other = node
  · obtain rfl := here
    simpa using h
  · simpa [here] using stamped.stored other

theorem Stamped.step {stamps : Set Nat} (zero : 0 ∈ stamps) (stamped : world.Stamped stamps)
    {step : RosterStep ι} (publishes : PublishesStored env world step)
    (within : ChangesWithin env stamps world step) : (world.step env step).Stamped stamps := by
  cases step with
  | change node change => exact stamped.setNode within
  | publish node now recipients =>
    refine ⟨stamped.stored, fun message mem => ?_⟩
    rcases List.mem_append.mp mem with old | new
    · exact stamped.sent message old
    · rw [Option.mem_toList] at new
      by_cases sends : publishesRoster env.sdk (world.nodes node) recipients
      · obtain ⟨sent, published, -, signed⟩ := publishedRoster_of_publishes sends now
        obtain rfl := Option.some.inj (published.symm.trans new)
        rw [signed]
        split_ifs with stored
        · exact storedRosterTime_mem (stamped.stored node)
        · obtain rfl := (publishes sends).resolve_left stored
          exact zero
      · rw [publishedRoster_of_not_publishes sends] at new
        cases new
  | deliver node index outcome =>
    cases sent : world.inFlight[index]? with
    | none => simpa [RosterWorld.step, sent] using stamped
    | some message =>
      simp only [RosterWorld.step, sent]
      exact stamped.setNode (stampsIn_persist zero (stamped.stored node)
        (stamped.sent message (List.mem_of_getElem? sent)))

theorem Stamped.run {stamps : Set Nat} (zero : 0 ∈ stamps) (stamped : world.Stamped stamps)
    {steps : List (RosterStep ι)} (publishes : Along env (PublishesStored env) world steps)
    (within : Along env (ChangesWithin env stamps) world steps) :
    (world.run env steps).Stamped stamps := by
  induction steps generalizing world with
  | nil => exact stamped
  | cons step steps ih =>
    exact ih (stamped.step zero publishes.1 within.1) publishes.2 within.2

end Publishing

/-- In a run no published timestamp exceeds the stored one exactly when the nodes publish rosters that
they have stored. Then no roster without a timestamp replaces one that has it, and every timestamp that is
stored or in flight was there before or comes from a local change. -/
theorem republication_is_no_edit (nodes : ι → AppConfig) (steps : List (RosterStep ι)) :
    (Along env (Republishes env) ⟨nodes, []⟩ steps ↔ Along env (PublishesStored env) ⟨nodes, []⟩ steps) ∧
    (Along env (PublishesStored env) ⟨nodes, []⟩ steps →
      Along env (SparesRosters env) ⟨nodes, []⟩ steps ∧
      ∀ stamps : Set Nat, 0 ∈ stamps → (∀ node, StampsIn stamps (nodes node)) →
        Along env (ChangesWithin env stamps) ⟨nodes, []⟩ steps →
          (run env ⟨nodes, []⟩ steps).Stamped stamps) := by
  have same := @along_congr ι _ env (Republishes env) (PublishesStored env) republishes_iff
    steps ⟨nodes, []⟩
  have start : Honest (⟨nodes, []⟩ : RosterWorld ι) := by simp [Honest]
  refine ⟨same, fun publishes => ⟨start.sparesAlong (same.mpr publishes), ?_⟩⟩
  intro stamps zero initial within
  exact Stamped.run zero ⟨initial, by simp⟩ publishes within

end RosterWorld

/-! ## An imported roster that is published -/

/-- The admin joined with an invite and has no timestamp; the member has a roster of the year before. -/
def bootstrapNodes : Bool → AppConfig
  | true => { networks := [{ sampleNetwork with participants := samplePubkeys.drop 1 |>.take 1 }]
              nostr := { secretKey := "0000000000000000000000000000000000000000000000000000000000000001" }
              node := { id := "admin" } }
  | false => { networks := [{ sampleNetwork with
                 participants := samplePubkeys.drop 2
                 sharedRosterUpdatedAt := 1000
                 sharedRosterSignedBy := samplePubkeys.headD "" }]
               node := { id := "member" } }

/-- The roster of the admin replaces the one of the member. -/
theorem bootstrap_roster_wins :
    let steps := [RosterStep.publish true 2000 none,
      .deliver false 0 { sampleRosterOutcome with clock := 2000 }]
    ¬ RosterWorld.Along sampleSessionEnv (RosterWorld.Republishes sampleSessionEnv)
        ⟨bootstrapNodes, []⟩ steps ∧
      storedRosterTime (bootstrapNodes true) = 0 ∧
      ((bootstrapNodes false).activeNetwork.participants, storedRosterTime (bootstrapNodes false)) =
        (samplePubkeys.drop 2, 1000) ∧
      (((RosterWorld.run sampleSessionEnv ⟨bootstrapNodes, []⟩ steps).nodes
          false).activeNetwork.participants,
        storedRosterTime ((RosterWorld.run sampleSessionEnv ⟨bootstrapNodes, []⟩ steps).nodes false)) =
          (samplePubkeys.take 2, 2000) := by
  refine ⟨fun h => ?_, by decide +kernel, by decide +kernel, by decide +kernel⟩
  have stored := (RosterWorld.republishes_iff _ _).mp h.1 (by decide +kernel)
  revert stored
  decide +kernel

end NostrVpn.Cli
