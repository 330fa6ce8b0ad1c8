import NostrVpn.Core.ConfigOps

/-!
# Edits of a roster

The methods of `nostr-vpn-core/src/config.rs` that add and remove participants and admins. An edit of a
network that the own key administers stamps it.
-/
namespace NostrVpn.Core

open Rust

inductive RosterEditAction where
  | AddParticipant
  | RemoveParticipant
  | AddAdmin
  | RemoveAdmin
  deriving DecidableEq, Repr

/-- Add a key to a sorted list. -/
def addKey (key : String) (keys : List String) : List String :=
  if keys.contains key then keys else sortDedup (keys ++ [key])

theorem nodup_addKey {key : String} {keys : List String} (nodup : keys.Nodup) : (addKey key keys).Nodup := by
  unfold addKey
  split_ifs
  · exact nodup
  · exact nodup_sortDedup _

theorem mem_addKey {key other : String} {keys : List String} :
    other ∈ addKey key keys ↔ other ∈ keys ∨ other = key := by
  unfold addKey
  split_ifs with listed
  · have present : key ∈ keys := by simpa using listed
    grind
  · simp

/-- The network without the admin; another one takes the place of the inviter. -/
def NetworkConfig.withoutAdmin (key : String) (network : NetworkConfig) : NetworkConfig :=
  let admins := network.admins.filter (· ≠ key)
  { network with
    admins
    inviteInviter := if network.inviteInviter = key then admins.headD "" else network.inviteInviter }

namespace AppConfig

variable (sdk : NostrSdk) (sha256 : Sha256) (now : Nat) (config : AppConfig) (id : String)

/-- An edit of one network, noted as a local change. -/
def editNetwork (edit : NetworkConfig → Except String NetworkConfig) : Except String AppConfig :=
  match config.networkById id with
  | none => .error "network not found"
  | some network => match edit network with
    | .error e => .error e
    | .ok edited => (config.modifyNetwork id fun _ => edited).noteNetworkRosterLocalChange sdk now id

def addParticipantToNetwork (key : String) : Except String AppConfig :=
  (config.editNetwork sdk now id fun network =>
    .ok { network with participants := addKey key network.participants }).map fun config =>
      (config.normalizeSelectedExitNode).normalizePeerAliases sdk sha256

def removeParticipantFromNetwork (key : String) : Except String AppConfig :=
  (config.editNetwork sdk now id fun network =>
    if network.admins.length = 1 ∧ network.admins.contains key then .error "cannot remove the last admin"
    else .ok { network.withoutAdmin key with
      participants := network.participants.filter (· ≠ key) }).map fun config =>
        (config.normalizeSelectedExitNode).normalizePeerAliases sdk sha256

def addAdminToNetwork (key : String) : Except String AppConfig :=
  (config.editNetwork sdk now id fun network => .ok { network with
    admins := addKey key network.admins
    inviteInviter := if network.inviteInviter = "" then key else network.inviteInviter }).map
      normalizeSelectedExitNode

/-- Removing somebody who is no admin is no edit. -/
def removeAdminFromNetwork (key : String) : Except String AppConfig :=
  if (config.networkById id).any fun network => !network.admins.contains key then .ok config
  else (config.editNetwork sdk now id fun network =>
    if network.admins.length ≤ 1 then .error "cannot remove the last admin"
    else .ok (network.withoutAdmin key)).map normalizeSelectedExitNode

/-- One round of the loop of `update_active_network_roster`. -/
def editRoster (action : RosterEditAction) (participant : String) : Except String AppConfig :=
  match normalizeNostrPubkey sdk participant with
  | .error e => .error e
  | .ok key => match action with
    | .AddParticipant => config.addParticipantToNetwork sdk sha256 now id key
    | .RemoveParticipant => config.removeParticipantFromNetwork sdk sha256 now id key
    | .AddAdmin => config.addAdminToNetwork sdk now id key
    | .RemoveAdmin => config.removeAdminFromNetwork sdk now id key

section Stamps
variable {sdk now config id}

theorem networkById_modifyNetwork {f : NetworkConfig → NetworkConfig}
    (keeps : ∀ network, network.id = id → (f network).id = id) :
    (config.modifyNetwork id f).networkById id = (config.networkById id).map f := by
  unfold networkById
  rw [networks_modifyNetwork]
  exact find?_modifyFirst fun network here => by
    simpa [NetworkConfig.hasEntryId] using keeps network (by simpa [NetworkConfig.hasEntryId] using here)

/-- An edit of a network that the own key administers leaves a timestamp, newer than the one before. -/
theorem stamp_noteNetworkRosterLocalChange {own : String} {network : NetworkConfig}
    (self : config.ownPubkey sdk = some own) (found : config.networkById id = some network)
    (admin : own ∈ network.admins) :
    ∃ after noted, config.noteNetworkRosterLocalChange sdk now id = .ok after ∧
      after.networkById id = some noted ∧
      noted.sharedRosterUpdatedAt = nextSharedRosterUpdatedAt now network.sharedRosterUpdatedAt ∧
      0 < noted.sharedRosterUpdatedAt := by
  have noted : config.noteNetworkRosterLocalChange sdk now id =
      .ok (config.modifyNetwork id fun network => { network with
        sharedRosterUpdatedAt := nextSharedRosterUpdatedAt now network.sharedRosterUpdatedAt
        sharedRosterSignedBy := own }) := by
    simp [noteNetworkRosterLocalChange, found, self, admin]
  have stored := @networkById_modifyNetwork config id (fun network => { network with
    sharedRosterUpdatedAt := nextSharedRosterUpdatedAt now network.sharedRosterUpdatedAt
    sharedRosterSignedBy := own }) fun _ same => same
  rw [found, Option.map_some] at stored
  refine ⟨_, _, noted, stored, rfl, ?_⟩
  have next : 0 < saturatingAdd network.sharedRosterUpdatedAt 1 := by
    simp [saturatingAdd, u64Max]
  exact lt_max_of_lt_right next

end Stamps

end AppConfig

end NostrVpn.Core
