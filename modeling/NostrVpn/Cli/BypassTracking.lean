import NostrVpn.Cli.TunnelRuntime
import NostrVpn.Transition

/-!
# The record of the bypass routes

`reconcile_linux_endpoint_bypass_routes` replaces its record by the targets of the new routes, whatever
came of the commands. Beside the system runs the list of the targets whose route the program installed and
did not remove.
-/
namespace NostrVpn.Cli

open Rust Linux Transition

/-- The commands of a reconcile in their order: the stale routes go, then the new ones are installed. -/
def bypassCommands (tracked : List String) (routes : List (String × Route)) : List IpCommand :=
  (tracked.filter fun route => route ∉ routes.map Prod.fst).map .routeDel ++
    routes.map fun (target, route) => .routeReplace target route

/-- The installed targets after a command. -/
def ApplyEnv.recordIp (env : ApplyEnv) (installed : List String) (command : IpCommand) : List String :=
  if env.ipFails command then installed
  else match command with
    | .routeReplace target _ => pushUnique installed target
    | .routeDel target => installed.filter fun other => other ≠ target
    | _ => installed

/-- A call of the reconcile, with what its commands meet. -/
structure BypassCall where
  env : ApplyEnv
  routes : List (String × Route)

/-- The system, with the targets of the routes that were installed and not removed. -/
structure BypassHistory where
  system : TunnelSystem
  installed : List String := []

namespace BypassHistory

def new (iface : String) (kernel : Kernel) : BypassHistory := ⟨⟨{ iface }, kernel⟩, []⟩

def tracked (history : BypassHistory) : List String := history.system.runtime.endpointBypassRoutes

def reconcile (history : BypassHistory) (call : BypassCall) : BypassHistory where
  system := history.system.reconcileLinuxEndpointBypassRoutes call.env call.routes
  installed := (bypassCommands history.tracked call.routes).foldl call.env.recordIp history.installed

end BypassHistory

/-- Every route that was installed and not removed is in the record: a reconcile that does not want it
deletes it, and stopping with commands that work leaves none. -/
structure BypassTracked (history : BypassHistory) : Prop where
  listed : ∀ target ∈ history.installed, target ∈ history.tracked
  retried : ∀ routes, ∀ target ∈ history.installed, target ∉ routes.map Prod.fst →
    .routeDel target ∈ bypassCommands history.tracked routes
  stopped : ∀ env : ApplyEnv, (∀ command, env.ipFails command = false) →
    (history.reconcile ⟨env, []⟩).installed = [] ∧
      ∀ target ∈ history.installed, target ≠ defaultTarget →
        (history.system.stop env).kernel.routes.lookup target = none

/-- The deletes of the installed routes that the call does not want succeed. -/
def BypassCall.Deletes (history : BypassHistory) (call : BypassCall) : Prop :=
  ∀ target ∈ history.installed, target ∉ call.routes.map Prod.fst →
    call.env.ipFails (.routeDel target) = false

section Steps
variable {history : BypassHistory} {call : BypassCall} {env : ApplyEnv} {target : String}

/-- The tables of the model are those that the commands leave. -/
theorem kernel_reconcile : (history.reconcile call).system.kernel =
    (bypassCommands history.tracked call.routes).foldl (fun kernel command => (call.env.ip kernel command).2)
      history.system.kernel := by
  simp only [bypassCommands, List.foldl_append, List.foldl_map]
  rfl

theorem mem_tracked_reconcile :
    target ∈ (history.reconcile call).tracked ↔ target ∈ call.routes.map Prod.fst :=
  mem_sortDedup

theorem mem_foldl_del {targets installed : List String} :
    target ∈ (targets.map IpCommand.routeDel).foldl env.recordIp installed ↔
      target ∈ installed ∧ (target ∈ targets → env.ipFails (.routeDel target) = true) := by
  induction targets generalizing installed with
  | nil => simp
  | cons first rest ih =>
    rw [List.map_cons, List.foldl_cons, ih, ApplyEnv.recordIp]
    by_cases same : target = first
    · subst same
      cases env.ipFails (.routeDel target) <;> simp
    · cases env.ipFails (.routeDel first) <;> simp [same]

theorem mem_foldl_replace {routes : List (String × Route)} {installed : List String} :
    target ∈ (routes.map fun (target, route) => IpCommand.routeReplace target route).foldl env.recordIp installed ↔
      target ∈ installed ∨ ∃ route, (target, route) ∈ routes ∧ env.ipFails (.routeReplace target route) = false := by
  induction routes generalizing installed with
  | nil => simp
  | cons first rest ih =>
    obtain ⟨first, route⟩ := first
    rw [List.map_cons, List.foldl_cons, ih, ApplyEnv.recordIp]
    by_cases same : target = first
    · subst same
      cases fails : env.ipFails (.routeReplace target route) <;> simp [mem_pushUnique]
      · exact Or.inr (Or.inl fails)
      · grind
    · cases env.ipFails (.routeReplace first route) <;> simp [mem_pushUnique, same]

/-- What is installed after a reconcile. -/
theorem mem_installed_reconcile : target ∈ (history.reconcile call).installed ↔
    (target ∈ history.installed ∧ (target ∈ history.tracked → target ∉ call.routes.map Prod.fst →
      call.env.ipFails (.routeDel target) = true)) ∨
      ∃ route, (target, route) ∈ call.routes ∧ call.env.ipFails (.routeReplace target route) = false := by
  simp only [BypassHistory.reconcile, bypassCommands, List.foldl_append, mem_foldl_replace, mem_foldl_del,
    List.mem_filter, decide_eq_true_eq, and_imp]

theorem lookup_foldl_del (works : ∀ command, env.ipFails command = false) (targets : List String)
    (kernel : Kernel) : ((targets.map IpCommand.routeDel).foldl (fun kernel command =>
      (env.ip kernel command).2) kernel).routes.lookup target =
        if target ∈ targets then none else kernel.routes.lookup target := by
  induction targets generalizing kernel with
  | nil => simp
  | cons first rest ih =>
    rw [List.map_cons, List.foldl_cons, ih, ApplyEnv.ip, works]
    by_cases same : target = first
    · subst same
      simp [Kernel.run]
    · simp [same, Kernel.run, AList.lookup_erase_ne same]

/-- Stopping with commands that work deletes the routes of the record. -/
theorem lookup_stop (works : ∀ command, env.ipFails command = false) (sys : TunnelSystem)
    (listed : target ∈ sys.runtime.endpointBypassRoutes) (other : target ≠ defaultTarget) :
    (sys.stop env).kernel.routes.lookup target = none := by
  have gone : (sys.reconcileLinuxEndpointBypassRoutes env []).kernel.routes.lookup target = none := by
    have kernel := @kernel_reconcile ⟨sys, []⟩ ⟨env, []⟩
    simp only [BypassHistory.reconcile, BypassHistory.tracked, bypassCommands, List.map_nil, List.append_nil] at kernel
    rw [kernel, lookup_foldl_del works, if_pos]
    simpa using listed
  have restored : ((sys.reconcileLinuxEndpointBypassRoutes env []).restoreLinuxOriginalDefaultRoute
      env).kernel.routes.lookup target = none := by
    unfold TunnelSystem.restoreLinuxOriginalDefaultRoute
    cases (sys.reconcileLinuxEndpointBypassRoutes env []).runtime.originalDefaultRoute with
    | none => exact gone
    | some route => simp [ApplyEnv.ip, works, Kernel.run, AList.lookup_insert_ne other, gone]
  unfold TunnelSystem.stop
  dsimp only
  split_ifs
  · simp [Kernel.dropInterface, restored]
  · exact restored

/-- The parts of the property follow from the first. -/
theorem bypassTracked_iff : BypassTracked history ↔ ∀ target ∈ history.installed, target ∈ history.tracked := by
  refine ⟨BypassTracked.listed, fun listed => ⟨listed, fun routes target mem unwanted => ?_, fun env works => ?_⟩⟩
  · refine List.mem_append_left _ (List.mem_map_of_mem (List.mem_filter.mpr ⟨listed target mem, ?_⟩))
    simpa using unwanted
  · constructor
    · refine List.eq_nil_iff_forall_not_mem.mpr fun target mem => ?_
      rcases mem_installed_reconcile.mp mem with ⟨old, fails⟩ | ⟨route, none', -⟩
      · have := fails (listed target old) (by simp)
        rw [works] at this
        cases this
      · cases none'
    · exact fun target mem other => lookup_stop works history.system (listed target mem) other

/-- A reconcile keeps the record if the deletes of the installed routes it does not want succeed. -/
theorem bypassTracked_reconcile (listed : BypassTracked history) :
    BypassTracked (history.reconcile call) ↔ call.Deletes history := by
  rw [bypassTracked_iff] at listed ⊢
  simp only [mem_tracked_reconcile, mem_installed_reconcile]
  constructor
  · intro after target mem unwanted
    by_contra fails
    exact unwanted (after target (Or.inl ⟨mem, fun _ _ => by simpa using fails⟩))
  · rintro deletes target (⟨mem, fails⟩ | ⟨route, mem, -⟩)
    · by_contra unwanted
      have works := deletes target mem unwanted
      rw [fails (listed target mem) unwanted] at works
      cases works
    · exact List.mem_map_of_mem mem

end Steps

/-- The record of the bypass routes is right after every call of a run exactly if every call deletes the
installed routes that it does not want. -/
theorem bypass_routes_are_tracked_iff (iface : String) (kernel : Kernel) (calls : List BypassCall) :
    Along BypassHistory.reconcile (fun history call => BypassTracked (history.reconcile call))
        (.new iface kernel) calls ↔
      Along BypassHistory.reconcile (fun history call => call.Deletes history) (.new iface kernel) calls := by
  have start : BypassTracked (.new iface kernel) := bypassTracked_iff.mpr fun target mem => by cases mem
  exact along_congr (fun history call _ tracked => bypassTracked_reconcile tracked)
    (fun history call _ tracked deletes => (bypassTracked_reconcile tracked).mpr deletes) start

/-! ## A delete that fails -/

def peerBypass : List (String × Route) :=
  [("203.0.113.20/32", { gateway := some "192.168.1.1", dev := "eth0" })]

/-- The route to a peer is installed; when the peer has gone, its delete fails. -/
def failedDelete : List BypassCall :=
  [⟨sampleEnv, peerBypass⟩, ⟨{ sampleEnv with ipFails := fun command => command == .routeDel "203.0.113.20/32" }, []⟩]

/-- The route that was not deleted is in no record. -/
theorem failed_delete_is_forgotten :
    ¬ Along BypassHistory.reconcile (fun history call => BypassTracked (history.reconcile call))
      (.new "utun100" ⟨∅, []⟩) failedDelete := by
  rintro ⟨-, tracked, -⟩
  have lost : ¬ ∀ target ∈ (run BypassHistory.reconcile (.new "utun100" ⟨∅, []⟩) failedDelete).installed,
      target ∈ (run BypassHistory.reconcile (.new "utun100" ⟨∅, []⟩) failedDelete).tracked := by decide +kernel
  exact lost tracked.listed

end NostrVpn.Cli
