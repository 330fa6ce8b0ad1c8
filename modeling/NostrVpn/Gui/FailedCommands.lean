import NostrVpn.Core.PeerAliases
import NostrVpn.Gui.ConfigCommands
import NostrVpn.Invite.InviteAgreement
import NostrVpn.Invite.MeshRouting

/-!
# Configuration commands that fail

What a command of the GUI that fails leaves in memory. Nothing takes an edit back whose write fails.
-/
namespace NostrVpn.Gui

open Rust NostrVpn.Core NostrVpn.Cli NostrVpn.Invite

/-! ## Refused commands -/

section Keeps
variable {sdk : NostrSdk} {sha256 : Sha256} {now : Nat} {env : GuiEnv} {config after : AppConfig}

end Keeps

/-! ## A relay that could not be written -/

end NostrVpn.Gui
