import NostrVpn.Cli.ConfigOverrides
import NostrVpn.Core.AliasOrder

/-!
# What the daemon writes while overrides are in force

The daemon is in step with its file when loading the file, without the overrides, gives the ids and members
that it has in memory. A write that finds it in step takes nothing of the command line to the file.
-/
namespace NostrVpn.Cli

open Rust NostrVpn.Core NostrVpn.Invite Transition

section Steps
variable {sdk : NostrSdk} {sha256 : Sha256}

/-! ## Overrides that the file has -/

/-- The file of the daemon has the networks that it has in memory. -/
def OverridingDaemon.InStep (sdk : NostrSdk) (sha256 : Sha256) (d : OverridingDaemon) : Prop :=
  List.Forall₂ (Cli.InStep sdk sha256) d.file.entries d.app.networks

/-! ### The active network -/

end Steps

/-! ## Runs -/

section Runs
variable {sdk : NostrSdk} {sha256 : Sha256} {overrides : Overrides} {d : OverridingDaemon}

/-- The event makes the daemon write the configuration that it has in memory. -/
def Writes (sdk : NostrSdk) (sha256 : Sha256) (d : OverridingDaemon) (e : FileEvent × ConfigOutcome) : Prop :=
  (messageConfig sdk sha256 e.2 d.app e.1).isSome ∧ e.2.saved

end Runs

/-! ## A guest network on the disk -/

end NostrVpn.Cli
