import NostrVpn.Core.NodeAutoconfigure
import NostrVpn.Gui.JoinFanOut
import NostrVpn.Invite.ConfigRuns

/-!
# The configuration commands of the GUI

`backend_configuration.rs`: a command checks its input, edits the configuration in memory and writes it
with `persist_config`. What the daemon and the session do afterwards is left out, and so are the branches
for Windows.
-/
namespace NostrVpn.Gui

open Rust NostrVpn.Core NostrVpn.Cli NostrVpn.Invite

/-- What a command gets from outside; `generated k` goes to its `k`-th call of `ensure_defaults`. -/
structure GuiEnv where
  now : Nat
  generated : Nat → Generated
  detected : Option Net.Ipv4Addr
  codec : InviteCodec
  publish : String → MeshJoinRequest → Except String Unit
  save : AppConfig → Except String Unit

/-- How an edit is written: `persist_config_with_defaults`, `persist_config`, or not at all where the
command returns early. -/
inductive Persist where
  | withDefaults
  | plain
  | skip
  deriving DecidableEq, Repr

/-- The result of a command up to the write, with the configuration in memory. -/
abbrev Edited := Except String Persist × AppConfig

/-- The operator `?` while the configuration is still `config`. -/
def checked {α : Type} (config : AppConfig) (check : Except String α) (next : α → Edited) : Edited :=
  match check with
  | .error e => (.error e, config)
  | .ok a => next a

structure SettingsPatch where
  nodeName : Option String := none
  endpoint : Option String := none
  tunnelIp : Option String := none
  listenPort : Option UInt16 := none
  exitNode : Option String := none
  advertiseExitNode : Option Bool := none
  advertisedRoutes : Option String := none
  usePublicRelayFallback : Option Bool := none
  relayForOthers : Option Bool := none
  provideNatAssist : Option Bool := none
  magicDnsSuffix : Option String := none
  autoconnect : Option Bool := none
  launchOnStartup : Option Bool := none
  closeToTrayOnClose : Option Bool := none

/-! ## Inputs -/

def parseExitNodeInput (sdk : NostrSdk) (value : String) : Except String String :=
  let trimmed := trim value
  if trimmed = "" || eqIgnoreAsciiCase trimmed "off" || eqIgnoreAsciiCase trimmed "none" then .ok ""
  else normalizeNostrPubkey sdk trimmed

def parseAdvertisedRoutesInput (value : String) : Except String (List String) :=
  if trim value = "" then .ok []
  else (split ',' (trim value)).foldlM (fun routes raw =>
    if trim raw = "" then .ok routes
    else match normalizeAdvertisedRoute (trim raw) with
      | none => .error s!"invalid advertised route '{trim raw}'"
      | some normalized => .ok (pushUnique routes normalized)) []

def parseListenPort (listenPort : UInt16) : Except String UInt16 :=
  if listenPort = 0 then .error "listen port must be > 0" else .ok listenPort

/-- The fields that the patch has, in the order of the source, each with its check and its change. -/
def SettingsPatch.steps (sdk : NostrSdk) (patch : SettingsPatch) :
    List (Except String (AppConfig → AppConfig)) :=
  List.reduceOption [
    patch.nodeName.map fun nodeName => .ok fun config => { config with nodeName },
    patch.endpoint.map fun endpoint => .ok fun config =>
      { config with node := { config.node with endpoint } },
    patch.tunnelIp.map fun tunnelIp => .ok fun config =>
      { config with node := { config.node with tunnelIp } },
    patch.listenPort.map fun port => (parseListenPort port).map fun listenPort config =>
      { config with node := { config.node with listenPort } },
    patch.exitNode.map fun input => (parseExitNodeInput sdk input).map fun exitNode config =>
      { config with exitNode },
    patch.advertiseExitNode.map fun advertiseExitNode => .ok fun config =>
      { config with node := { config.node with advertiseExitNode } },
    patch.advertisedRoutes.map fun input =>
      (parseAdvertisedRoutesInput input).map fun advertisedRoutes config =>
        { config with node := { config.node with advertisedRoutes } },
    patch.usePublicRelayFallback.map fun usePublicRelayFallback => .ok fun config =>
      { config with usePublicRelayFallback },
    patch.relayForOthers.map fun relayForOthers => .ok fun config => { config with relayForOthers },
    patch.provideNatAssist.map fun provideNatAssist => .ok fun config => { config with provideNatAssist },
    patch.magicDnsSuffix.map fun magicDnsSuffix => .ok fun config => { config with magicDnsSuffix },
    patch.autoconnect.map fun autoconnect => .ok fun config => { config with autoconnect },
    patch.launchOnStartup.map fun launchOnStartup => .ok fun config => { config with launchOnStartup },
    patch.closeToTrayOnClose.map fun closeToTrayOnClose => .ok fun config =>
      { config with closeToTrayOnClose }]

/-- The steps in order; the changes before a refused one stay. -/
def applySettings (config : AppConfig) : List (Except String (AppConfig → AppConfig)) → Edited
  | [] => (.ok .withDefaults, config)
  | step :: rest => checked config step fun change => applySettings (change config) rest

def participantInput (npub : String) : Except String String :=
  let input := trim npub
  if input = "" then .error "participant npub is empty"
  else if !startsWith "npub1" input then .error "participant must be an npub"
  else .ok input

def relayInput (relay : String) : Except String String :=
  let relay := trim relay
  if relay = "" then .error "relay URL is empty"
  else if !(startsWith "ws://" relay || startsWith "wss://" relay) then
    .error "relay URL must start with ws:// or wss://"
  else .ok relay

/-! ## The commands -/

namespace NvpnBackend
variable (sdk : NostrSdk) (sha256 : Sha256) (env : GuiEnv) (config : AppConfig)

def ensureNetworkAdmin (networkId : String) : Except String Unit :=
  (config.ownNostrPubkeyHex sdk).bind fun own =>
    if isNetworkAdmin sdk config networkId own then .ok ()
    else .error "only network admins can manage members"

def ensureParticipantAdmin (participant : String) : Except String Unit := do
  let normalized ← normalizeNostrPubkey sdk participant
  let own ← config.ownNostrPubkeyHex sdk
  let matched := config.networks.filter (NetworkConfig.hasMember normalized)
  if matched.any fun network => isNetworkAdmin sdk config network.id own then .ok ()
  else if matched ≠ [] then .error "only network admins can rename participants"
  else .error "participant is not configured"

def addNetwork (name : String) : Edited := (.ok .withDefaults, (config.addNetwork sdk env.now name).2)

def renameNetwork (networkId name : String) : Edited :=
  checked config (ensureNetworkAdmin sdk config networkId) fun _ =>
  checked config (config.renameNetwork sdk env.now networkId name) fun config => (.ok .plain, config)

def setNetworkMeshId (networkId meshId : String) : Edited :=
  checked config (ensureNetworkAdmin sdk config networkId) fun _ =>
  checked config ((config.networkById networkId).elim (.error "network not found") .ok) fun _ =>
  checked config (config.setNetworkMeshId networkId meshId) fun config => (.ok .withDefaults, config)

def removeNetwork (s : LoadedConfig) (networkId : String) : Edited :=
  checked s.config (s.config.removeNetwork sdk sha256 s.distinct networkId) fun config =>
    (.ok .withDefaults, config)

def setNetworkEnabled (networkId : String) (enabled : Bool) : Edited :=
  checked config (config.setNetworkEnabled networkId enabled) fun config => (.ok .withDefaults, config)

/-- The label is stored behind the edit of the roster, so a bad one is refused with the edit made. -/
def addParticipant (networkId npub : String) (alias' : Option String) : Edited :=
  checked config (ensureNetworkAdmin sdk config networkId) fun _ =>
  checked config (participantInput npub) fun input =>
  checked config (normalizeNostrPubkey sdk input) fun normalized =>
  checked config (config.addParticipantToNetwork sdk sha256 env.now networkId normalized) fun config =>
    match alias'.filter fun label => !isBlank label with
    | none => (.ok .withDefaults, config)
    | some label =>
      let (stored, config) := config.setPeerAlias sdk sha256 env.now normalized (trim label)
      (stored.map fun _ => .withDefaults, config)

def addAdmin (networkId npub : String) : Edited :=
  checked config (ensureNetworkAdmin sdk config networkId) fun _ =>
  checked config (config.editRoster sdk sha256 env.now networkId .AddAdmin npub) fun config =>
    (.ok .withDefaults, config)

/-- The command up to its write; the request to join follows in `run`. -/
def importNetworkInvite (inviteCode : String) : Edited :=
  checked config (parseNetworkInvite guiFormat sdk env.codec inviteCode) fun invite =>
    let (imported, config) := applyNetworkInviteToActiveNetwork sdk sha256 env.now config invite
    checked config imported fun _ =>
    checked config (normalizeNostrPubkey sdk invite.inviterNpub) fun _ => (.ok .withDefaults, config)

def removeParticipant (networkId npubOrHex : String) : Edited :=
  checked config (ensureNetworkAdmin sdk config networkId) fun _ =>
  checked config (normalizeNostrPubkey sdk npubOrHex) fun normalized =>
  checked config (config.editRoster sdk sha256 env.now networkId .RemoveParticipant normalized)
    fun config => (.ok .withDefaults, config.modifyNetwork networkId fun network => { network with
      inviteInviter := if network.inviteInviter = normalized then "" else network.inviteInviter
      outboundJoinRequest := network.outboundJoinRequest.filter (·.recipient ≠ normalized)
      inboundJoinRequests := network.inboundJoinRequests.filter (·.requester ≠ normalized) })

def removeAdmin (networkId npubOrHex : String) : Edited :=
  checked config (ensureNetworkAdmin sdk config networkId) fun _ =>
  checked config (normalizeNostrPubkey sdk npubOrHex) fun normalized =>
  checked config (config.editRoster sdk sha256 env.now networkId .RemoveAdmin normalized) fun config =>
    (.ok .withDefaults, config)

def setNetworkJoinRequestsEnabled (networkId : String) (enabled : Bool) : Edited :=
  checked config (ensureNetworkAdmin sdk config networkId) fun _ =>
  checked config (config.setNetworkJoinRequestsEnabled networkId enabled) fun config => (.ok .plain, config)

/-- Nothing is written when nobody had to be asked. -/
def requestNetworkJoin (networkId : String) : Edited :=
  let (asked, result, config) := Gui.requestNetworkJoin sdk env.publish env.now config networkId
  (result.map fun _ => if asked = [] then .skip else .plain, config)

/-- A name that is no label is ignored. -/
def acceptJoinRequest (networkId requesterNpub : String) : Edited :=
  checked config (ensureNetworkAdmin sdk config networkId) fun _ =>
  checked config (normalizeNostrPubkey sdk requesterNpub) fun requester =>
    let requesterNodeName := ((config.networkById networkId).bind fun network =>
      network.inboundJoinRequests.find? fun request => request.requester == requester).elim ""
        PendingInboundJoinRequest.requesterNodeName
    checked config (config.editRoster sdk sha256 env.now networkId .AddParticipant requester)
      fun config =>
        let config := if isBlank requesterNodeName then config
          else (config.setPeerAlias sdk sha256 env.now requester requesterNodeName).2
        (.ok .withDefaults, config.modifyNetwork networkId fun network => { network with
          inboundJoinRequests := network.inboundJoinRequests.filter (·.requester ≠ requester) })

def withRelays (relays : List String) : AppConfig :=
  { config with nostr := { config.nostr with relays } }

def addRelay (relay : String) : Edited :=
  checked config (relayInput relay) fun relay =>
    if relay ∈ config.nostr.relays then (.ok .skip, config)
    else (.ok .withDefaults, withRelays config (config.nostr.relays ++ [relay]))

def removeRelay (relay : String) : Edited :=
  if config.nostr.relays.length ≤ 1 then (.error "at least one relay is required", config)
  else
    let relays := config.nostr.relays.filter (· ≠ relay)
    if relays.length = config.nostr.relays.length then (.ok .skip, withRelays config relays)
    else (.ok .withDefaults, withRelays config relays)

def updateSettings (patch : SettingsPatch) : Edited := applySettings config (patch.steps sdk)

def setParticipantAlias (npub alias' : String) : Edited :=
  checked config (ensureParticipantAdmin sdk config npub) fun _ =>
    let (stored, config) := config.setPeerAlias sdk sha256 env.now npub alias'
    (stored.map fun _ => .plain, config)

/-! ## Writing -/

/-- The configuration that `persist_config` is left with; `first` counts the defaults of the command. -/
def prepared (first : Nat) : AppConfig :=
  (config.ensureDefaults sdk sha256 (env.generated first)).maybeAutoconfigureNode sdk sha256
    (env.generated (first + 1)) env.detected

def persistConfig (first : Nat) : Except String Unit × AppConfig :=
  if config.nostr.relays = [] then (.error "at least one relay is required", config)
  else (env.save (prepared sdk sha256 env config first), prepared sdk sha256 env config first)

end NvpnBackend

def Persist.write (sdk : NostrSdk) (sha256 : Sha256) (env : GuiEnv) (config : AppConfig) :
    Persist → Except String Unit × AppConfig
  | .withDefaults => NvpnBackend.persistConfig sdk sha256 env
      (NvpnBackend.prepared sdk sha256 env config 0) 2
  | .plain => NvpnBackend.persistConfig sdk sha256 env config 0
  | .skip => (.ok (), config)

inductive GuiCommand where
  | addNetwork (name : String)
  | renameNetwork (networkId name : String)
  | setNetworkMeshId (networkId meshId : String)
  | removeNetwork (networkId : String)
  | setNetworkEnabled (networkId : String) (enabled : Bool)
  | addParticipant (networkId npub : String) (alias' : Option String)
  | addAdmin (networkId npub : String)
  | importNetworkInvite (inviteCode : String)
  | removeParticipant (networkId npubOrHex : String)
  | removeAdmin (networkId npubOrHex : String)
  | setNetworkJoinRequestsEnabled (networkId : String) (enabled : Bool)
  | requestNetworkJoin (networkId : String)
  | acceptJoinRequest (networkId requesterNpub : String)
  | addRelay (relay : String)
  | removeRelay (relay : String)
  | updateSettings (patch : SettingsPatch)
  | setParticipantAlias (npub alias' : String)

/-- A command fails because it refuses its input, or because the write fails. -/
inductive CommandError where
  | refused (message : String)
  | persist (message : String)
  deriving DecidableEq, Repr

namespace GuiCommand
variable (sdk : NostrSdk) (sha256 : Sha256) (env : GuiEnv) (s : LoadedConfig)

def edit : GuiCommand → Edited
  | .addNetwork name => NvpnBackend.addNetwork sdk env s.config name
  | .renameNetwork networkId name => NvpnBackend.renameNetwork sdk env s.config networkId name
  | .setNetworkMeshId networkId meshId => NvpnBackend.setNetworkMeshId sdk s.config networkId meshId
  | .removeNetwork networkId => NvpnBackend.removeNetwork sdk sha256 s networkId
  | .setNetworkEnabled networkId enabled => NvpnBackend.setNetworkEnabled s.config networkId enabled
  | .addParticipant networkId npub alias' =>
    NvpnBackend.addParticipant sdk sha256 env s.config networkId npub alias'
  | .addAdmin networkId npub => NvpnBackend.addAdmin sdk sha256 env s.config networkId npub
  | .importNetworkInvite inviteCode => NvpnBackend.importNetworkInvite sdk sha256 env s.config inviteCode
  | .removeParticipant networkId npubOrHex =>
    NvpnBackend.removeParticipant sdk sha256 env s.config networkId npubOrHex
  | .removeAdmin networkId npubOrHex =>
    NvpnBackend.removeAdmin sdk sha256 env s.config networkId npubOrHex
  | .setNetworkJoinRequestsEnabled networkId enabled =>
    NvpnBackend.setNetworkJoinRequestsEnabled sdk s.config networkId enabled
  | .requestNetworkJoin networkId => NvpnBackend.requestNetworkJoin sdk env s.config networkId
  | .acceptJoinRequest networkId requesterNpub =>
    NvpnBackend.acceptJoinRequest sdk sha256 env s.config networkId requesterNpub
  | .addRelay relay => NvpnBackend.addRelay s.config relay
  | .removeRelay relay => NvpnBackend.removeRelay s.config relay
  | .updateSettings patch => NvpnBackend.updateSettings sdk s.config patch
  | .setParticipantAlias npub alias' =>
    NvpnBackend.setParticipantAlias sdk sha256 env s.config npub alias'

end GuiCommand

/-- An edit, and the write that it asks for. -/
def commit (sdk : NostrSdk) (sha256 : Sha256) (env : GuiEnv) :
    Edited → Except CommandError Unit × AppConfig
  | (.error e, config) => (.error (.refused e), config)
  | (.ok persist, config) =>
    let (written, config) := persist.write sdk sha256 env config
    (written.mapError .persist, config)

/-- An import asks to join the network that it has switched to, and ignores how that ends. -/
def GuiCommand.run (sdk : NostrSdk) (sha256 : Sha256) (env : GuiEnv) (s : LoadedConfig)
    (command : GuiCommand) : Except CommandError Unit × AppConfig :=
  let edited := command.edit sdk sha256 env s
  match command, commit sdk sha256 env edited with
  | .importNetworkInvite _, (.ok _, config) =>
    (.ok (), (commit sdk sha256 env
      (NvpnBackend.requestNetworkJoin sdk env config edited.2.activeNetwork.id)).2)
  | _, result => result

end NostrVpn.Gui
