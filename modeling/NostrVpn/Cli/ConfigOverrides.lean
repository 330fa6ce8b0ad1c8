import NostrVpn.Cli.RelayMembership
import NostrVpn.Core.ConfigFile
import NostrVpn.Core.NodeAutoconfigure
import NostrVpn.Invite.ActiveNetwork
import NostrVpn.Invite.AliasInvariant
import NostrVpn.Invite.DerivedIds

/-!
# Overrides of the command line and the configuration file

`load_config_with_overrides` puts the network id and the participants of the command line into the
configuration that the daemon keeps in memory, and `persist_inbound_join_request` and
`persist_shared_network_roster` write that configuration as a whole.
-/
namespace NostrVpn.Cli

open Rust NostrVpn.Core NostrVpn.Invite Transition

/-! ## The file and the overrides -/

/-- What the file decodes to; the TOML text itself is left out. -/
structure ConfigFile where
  fields : AppConfig
  networks : List NetworkConfig

/-- What the daemon draws from its environment while it handles an event. -/
structure ConfigOutcome where
  clock : UInt64
  generated : Nat → Generated
  detected : Option Net.Ipv4Addr
  saved : Bool

section Program
variable (sdk : NostrSdk) (sha256 : Sha256)

def ConfigFile.load (generated : Generated) (file : ConfigFile) : AppConfig :=
  .load sdk sha256 generated file.fields file.networks

/-- The networks that loading starts from. -/
def ConfigFile.entries (file : ConfigFile) : List NetworkConfig :=
  if file.networks = [] then [defaultNetwork] else file.networks

structure OverridingDaemon where
  app : AppConfig
  file : ConfigFile

/-- An edit of the file by another program, and the events at which the daemon writes or reads it. -/
inductive FileEvent where
  | edited (file : ConfigFile)
  | joinRequest (sender networkId requesterNodeName : String) (requestedAt : Nat)
  | roster (sender networkId : String) (roster : NetworkRoster)
  | reload (staged : Option ConfigFile)

/-- The configuration that `persist_inbound_join_request` writes. -/
def joinRequestConfig (app : AppConfig) (sender networkId requesterNodeName : String) (requestedAt : Nat) :
    Option AppConfig :=
  match app.recordInboundJoinRequest sdk networkId sender requesterNodeName requestedAt with
  | (.ok (some _), app) => some app
  | _ => none

/-- The configuration that `persist_shared_network_roster` writes. -/
def sharedRosterConfig (outcome : ConfigOutcome) (app : AppConfig) (update : SharedRosterUpdate) :
    Option AppConfig :=
  match app.applyAdminSignedSharedRoster sdk sha256 outcome.clock update with
  | (.ok true, app) => some (app.maybeAutoconfigureNode sdk sha256 (outcome.generated 0) outcome.detected)
  | _ => none

/-- The configuration that an event leaves to be written. -/
def messageConfig (outcome : ConfigOutcome) (app : AppConfig) : FileEvent → Option AppConfig
  | .joinRequest sender networkId requesterNodeName requestedAt =>
    joinRequestConfig sdk app sender networkId requesterNodeName requestedAt
  | .roster sender networkId roster =>
    sharedRosterConfig sdk sha256 outcome app (Daemon.rosterUpdate sender networkId roster)
  | _ => none

end Program

/-! ## Ids and members -/

section Entries
variable (sdk : NostrSdk) (sha256 : Sha256)

/-- The keys among the participants. -/
def memberKeys (network : NetworkConfig) : List String :=
  sortDedup (network.participants.filterMap (normalPubkey? sdk))

/-- A mesh id that is not the default stays; the default stays or is derived from one of the lists of
members. -/
structure SettledId (members : List (List String)) (id id' : String) : Prop where
  kept : usesDefaultNetworkId id = false → id' = id
  derived : usesDefaultNetworkId id = true → ∃ hashed : Option (List String), id' = meshIdOf sha256 hashed ∧
    ∀ all ∈ hashed, ∃ keys ∈ members, ∃ own, all = sortDedup (keys ++ [own])

/-- The network in memory has the id and the participants of the entry, as loading gives them. -/
structure InStep (entry network : NetworkConfig) : Prop where
  participants : network.participants = memberKeys sdk entry
  networkId : SettledId sha256 [memberKeys sdk entry] entry.networkId network.networkId

end Entries

section Steps
variable {sdk : NostrSdk} {sha256 : Sha256}

theorem SettledId.mono {members members' : List (List String)} {id id' : String}
    (settled : SettledId sha256 members id id') (more : ∀ keys ∈ members, keys ∈ members') :
    SettledId sha256 members' id id' where
  kept := settled.kept
  derived default' := by
    obtain ⟨hashed, eq, made⟩ := settled.derived default'
    refine ⟨hashed, eq, fun all mem => ?_⟩
    obtain ⟨keys, listed, own, rfl⟩ := made all mem
    exact ⟨keys, more keys listed, own, rfl⟩

theorem SettledId.trans {members : List (List String)} {id id' id'' : String}
    (first : SettledId sha256 members id id') (second : SettledId sha256 members id' id'') :
    SettledId sha256 members id id'' where
  kept set := (second.kept (first.kept set ▸ set)).trans (first.kept set)
  derived default' := by
    cases again : usesDefaultNetworkId id' with
    | true => exact second.derived again
    | false => exact second.kept again ▸ first.derived default'

theorem memberKeys_of_keys (lawful : sdk.Lawful) {entry network : NetworkConfig}
    (participants : network.participants = memberKeys sdk entry) : memberKeys sdk network = memberKeys sdk entry := by
  refine sortDedup_congr fun key => ?_
  simp only [participants, memberKeys, List.mem_filterMap, mem_sortDedup]
  constructor
  · rintro ⟨member, ⟨text, mem, parsed⟩, again⟩
    have same := normalPubkey?_eq_some.mpr (lawful.parse_hex (normalPubkey?_eq_some.mp parsed))
    exact ⟨text, mem, parsed.trans (same.symm.trans again)⟩
  · rintro ⟨text, mem, parsed⟩
    exact ⟨key, ⟨text, mem, parsed⟩, normalPubkey?_eq_some.mpr (lawful.parse_hex (normalPubkey?_eq_some.mp parsed))⟩

theorem InStep.trans (lawful : sdk.Lawful) {entry network network' : NetworkConfig}
    (first : InStep sdk sha256 entry network) (second : InStep sdk sha256 network network') :
    InStep sdk sha256 entry network' := by
  have keys := memberKeys_of_keys lawful first.participants
  exact ⟨second.participants.trans keys, first.networkId.trans (keys ▸ second.networkId)⟩

/-- What a message changes in a network in memory. -/
structure Edited (roster : Option (String × List String)) (network network' : NetworkConfig) : Prop where
  participants : network'.participants = network.participants ∨ ∃ sent ∈ roster,
    normalizeRuntimeNetworkId network.networkId = sent.1 ∧ network'.participants = sent.2
  networkId : network'.networkId = network.networkId

end Steps

end NostrVpn.Cli
