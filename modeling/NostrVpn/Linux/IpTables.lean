import NostrVpn.Rust.HashMap
import NostrVpn.Rust.Vec

/-!
# The tables behind the `ip` command

The kernel has one route for each target and a set of addresses for each interface. `replace` writes
the entry of its own key and `del` removes it. The default route has the target `0.0.0.0/0`, and a route
is what `ip route show` prints for it and `ip route replace` reads back.
-/
namespace Linux

open Rust

structure Route where
  gateway : Option String := none
  dev : String
  src : Option String := none
  deriving DecidableEq, Repr

structure Kernel where
  routes : HashMap String Route
  addresses : List (String × String)

inductive IpCommand where
  | addressReplace (address dev : String)
  | linkUp (dev : String)
  | routeShowDefault
  | routeReplace (target : String) (route : Route)
  | routeDel (target : String)
  deriving DecidableEq, Repr

def defaultTarget : String := "0.0.0.0/0"

namespace Kernel

/-- The tables after a command that succeeds. -/
def run (kernel : Kernel) : IpCommand → Kernel
  | .addressReplace address dev =>
    { kernel with addresses := pushUnique kernel.addresses (dev, address) }
  | .linkUp _ | .routeShowDefault => kernel
  | .routeReplace target route => { kernel with routes := kernel.routes.insert target route }
  | .routeDel target => { kernel with routes := kernel.routes.erase target }

/-- An interface that disappears takes its routes and addresses with it. -/
def dropInterface (kernel : Kernel) (dev : String) : Kernel where
  routes := kernel.routes.retain fun _ route => route.dev ≠ dev
  addresses := kernel.addresses.filter fun entry => entry.1 ≠ dev

def RoutesInto (kernel : Kernel) (dev target : String) : Prop :=
  ∃ route ∈ kernel.routes.lookup target, route.dev = dev

instance (kernel : Kernel) (dev target : String) : Decidable (kernel.RoutesInto dev target) :=
  inferInstanceAs (Decidable (∃ route ∈ kernel.routes.lookup target, route.dev = dev))

def HasAddress (kernel : Kernel) (dev address : String) : Prop := (dev, address) ∈ kernel.addresses

variable {kernel : Kernel} {dev target : String}

theorem routesInto_replace (replaced : String) (route : Route) :
    (kernel.run (.routeReplace replaced route)).RoutesInto dev target ↔
      if target = replaced then route.dev = dev else kernel.RoutesInto dev target := by
  unfold RoutesInto run
  by_cases same : target = replaced
  · subst same
    simp
  · simp [same, AList.lookup_insert_ne same]

theorem routesInto_del (deleted : String) : (kernel.run (.routeDel deleted)).RoutesInto dev target ↔
    target ≠ deleted ∧ kernel.RoutesInto dev target := by
  unfold RoutesInto run
  by_cases same : target = deleted
  · subst same
    simp
  · simp [same, AList.lookup_erase_ne same]

theorem routesInto_dropInterface (dropped : String) :
    (kernel.dropInterface dropped).RoutesInto dev target ↔
      dev ≠ dropped ∧ kernel.RoutesInto dev target := by
  simp only [RoutesInto, dropInterface, HashMap.lookup_retain, Option.mem_def,
    Option.filter_eq_some_iff, decide_eq_true_eq]
  constructor
  · rintro ⟨route, ⟨found, ne⟩, rfl⟩
    exact ⟨ne, route, found, rfl⟩
  · rintro ⟨ne, route, found, rfl⟩
    exact ⟨route, ⟨found, ne⟩, rfl⟩

theorem hasAddress_replace (added on address : String) :
    (kernel.run (.addressReplace added on)).HasAddress dev address ↔
      (dev = on ∧ address = added) ∨ kernel.HasAddress dev address := by
  simp [HasAddress, run, mem_pushUnique, or_comm]

theorem hasAddress_dropInterface (dropped address : String) :
    (kernel.dropInterface dropped).HasAddress dev address ↔
      dev ≠ dropped ∧ kernel.HasAddress dev address := by
  simp [HasAddress, dropInterface, and_comm]

end Kernel

end Linux
