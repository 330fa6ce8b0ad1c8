import NostrVpn.Cli.TunnelPlan
import NostrVpn.Linux.Firewall
import NostrVpn.Transition

/-!
# Forwarding of a Linux exit node

`reconcile_linux_exit_node_forwarding` and its cleanup in `main.rs`, with the `sysctl` and `iptables`
helpers of `platform_routing.rs`. A stage runs each of its commands at most once, so the outcome of every
command is a predicate of the stage.
-/
namespace NostrVpn.Cli

open Rust Rust.Net Linux NostrVpn.Core Transition

/-- Which commands of one stage succeed. -/
abbrev Outcomes := FirewallCommand → Bool

/-! ## `platform_routing.rs` -/

def readLinuxIpForward (ok : Outcomes) (firewall : Firewall) (family : IpFamily) : Option Bool :=
  if ok (.readForward family) then some (firewall.forwarding family) else none

def writeLinuxIpForward (ok : Outcomes) (firewall : Firewall) (family : IpFamily) (enabled : Bool) :
    Bool × Firewall :=
  if ok (.writeForward family enabled) then (true, firewall.setForwarding family enabled)
  else (false, firewall)

def linuxIptablesEnsureRule (ok : Outcomes) (firewall : Firewall) (rule : FirewallRule) :
    Bool × Firewall :=
  if !ok (.check rule) then (false, firewall)
  else if firewall.has rule then (true, firewall)
  else if ok (.append rule) then (true, firewall.append rule)
  else (false, firewall)

def linuxIptablesDeleteRule (ok : Outcomes) (firewall : Firewall) (rule : FirewallRule) :
    Bool × Firewall :=
  if !ok (.check rule) then (false, firewall)
  else if !firewall.has rule then (true, firewall)
  else if ok (.delete rule) then (true, firewall.delete rule)
  else (false, firewall)

def linuxExitNodeSourceCidr (tunnelIp : String) : Option String :=
  (Ipv4Addr.parse (stripCidr tunnelIp)).map fun ip =>
    if ip.octet 0 == 10 && ip.octet 1 == 44 then "10.44.0.0/16"
    else fmtNat (ip.octet 0) ++ "." ++ fmtNat (ip.octet 1) ++ "." ++
      fmtNat (ip.octet 2) ++ ".0/24"

def linuxExitNodeForwardInRule (iface : String) (family : IpFamily) : FirewallRule where
  family := family
  spec := ["FORWARD", "-i", iface, "-m", "comment", "--comment",
    match family with | .V4 => "nvpn-exit-forward-in" | .V6 => "nvpn-exit6-forward-in",
    "-j", "ACCEPT"]

def linuxExitNodeForwardOutRule (iface : String) (family : IpFamily) : FirewallRule where
  family := family
  spec := ["FORWARD", "-o", iface, "-m", "conntrack", "--ctstate", "RELATED,ESTABLISHED", "-m",
    "comment", "--comment",
    match family with | .V4 => "nvpn-exit-forward-out" | .V6 => "nvpn-exit6-forward-out",
    "-j", "ACCEPT"]

def linuxExitNodeIpv4MasqueradeRule (outboundIface tunnelSourceCidr : String) : FirewallRule where
  family := .V4
  table := some "nat"
  spec := ["POSTROUTING", "-o", outboundIface, "-s", tunnelSourceCidr, "-m", "comment", "--comment",
    "nvpn-exit-masq", "-j", "MASQUERADE"]

/-! ## The runtime -/

structure LinuxExitNodeRuntime where
  ipv4OutboundIface : Option String := none
  ipv6OutboundIface : Option String := none
  ipv4TunnelSourceCidr : Option String := none
  ipv4ForwardWasEnabled : Option Bool := none
  ipv6ForwardWasEnabled : Option Bool := none
  deriving DecidableEq, Repr

/-- The runtime beside the system it changes; `cleanups` records for every cleanup whether all its undo
commands succeeded, and what it left. -/
structure ExitNode where
  firewall : Firewall
  runtime : LinuxExitNodeRuntime := {}
  cleanups : List (Bool × Firewall) := []

/-- The IPv4 rules in the order in which they are installed. -/
def ipv4ExitRules (iface outboundIface tunnelSourceCidr : String) : List FirewallRule :=
  [linuxExitNodeForwardInRule iface .V4, linuxExitNodeForwardOutRule iface .V4,
   linuxExitNodeIpv4MasqueradeRule outboundIface tunnelSourceCidr]

def ipv6ExitRules (iface : String) : List FirewallRule :=
  [linuxExitNodeForwardInRule iface .V6, linuxExitNodeForwardOutRule iface .V6]

/-- `and_then` chains: the first failure ends the installation. -/
def ensureRules (ok : Outcomes) (firewall : Firewall) : List FirewallRule → Bool × Firewall
  | [] => (true, firewall)
  | rule :: rest =>
    match linuxIptablesEnsureRule ok firewall rule with
    | (true, firewall) => ensureRules ok firewall rest
    | (false, firewall) => (false, firewall)

/-- A rule that is not deleted is reported, and the next one is tried. -/
def deleteRules (ok : Outcomes) (firewall : Firewall) : List FirewallRule → Bool × Firewall
  | [] => (true, firewall)
  | rule :: rest =>
    let (deleted, firewall) := linuxIptablesDeleteRule ok firewall rule
    let (others, firewall) := deleteRules ok firewall rest
    (deleted && others, firewall)

/-- No rules without a device and a source. -/
def ipv4RulesOf (iface : String) : (outboundIface tunnelSourceCidr : Option String) → List FirewallRule
  | some outboundIface, some tunnelSourceCidr => ipv4ExitRules iface outboundIface tunnelSourceCidr
  | _, _ => []

namespace LinuxExitNodeRuntime

def ipv4Rules (iface : String) (runtime : LinuxExitNodeRuntime) : List FirewallRule :=
  ipv4RulesOf iface runtime.ipv4OutboundIface runtime.ipv4TunnelSourceCidr

def ipv6Rules (iface : String) (runtime : LinuxExitNodeRuntime) : List FirewallRule :=
  if runtime.ipv6OutboundIface.isSome then ipv6ExitRules iface else []

end LinuxExitNodeRuntime

def restoreForwarding (ok : Outcomes) (firewall : Firewall) (family : IpFamily)
    (wasEnabled : Option Bool) : Bool × Firewall :=
  if wasEnabled = some false then writeLinuxIpForward ok firewall family false else (true, firewall)

namespace ExitNode

/-- `reconcile_linux_exit_node_forwarding_cleanup`. -/
def cleanup (iface : String) (ok : Outcomes) (node : ExitNode) : ExitNode :=
  let runtime := node.runtime
  let (done4, firewall) := deleteRules ok node.firewall (runtime.ipv4Rules iface).reverse
  let (done6, firewall) := deleteRules ok firewall (runtime.ipv6Rules iface).reverse
  let (back4, firewall) := restoreForwarding ok firewall .V4 runtime.ipv4ForwardWasEnabled
  let (back6, firewall) := restoreForwarding ok firewall .V6 runtime.ipv6ForwardWasEnabled
  { firewall, runtime := {}, cleanups := node.cleanups ++ [(done4 && done6 && back4 && back6, firewall)] }

end ExitNode

/-- What `reconcile` is called with: the routes of the configuration, its tunnel address, and the devices
of the default routes that the system reports. -/
structure ExitRequest where
  routes : List String
  tunnelIp : String
  ipv4RouteDev : Option String
  ipv6RouteDev : Option String
  deriving DecidableEq, Repr

structure ExitPlan where
  ipv4OutboundIface : Option String
  ipv6OutboundIface : Option String
  ipv4TunnelSourceCidr : Option String
  deriving DecidableEq, Repr

/-- The forwarding to set up, or none when only the cleanup is left to do. -/
def exitPlan (request : ExitRequest) : Option ExitPlan := do
  let ipv4 := request.routes.contains "0.0.0.0/0"
  let ipv6 := request.routes.contains "::/0"
  if !ipv4 && !ipv6 then none
  let tunnelSourceCidr ←
    if ipv4 then (linuxExitNodeSourceCidr request.tunnelIp).map some else some none
  let ipv4OutboundIface ← if ipv4 then request.ipv4RouteDev.map some else some none
  let ipv6OutboundIface := if ipv6 then request.ipv6RouteDev else none
  if !ipv4 && ipv6OutboundIface.isNone then none
  return { ipv4OutboundIface, ipv6OutboundIface, ipv4TunnelSourceCidr := tunnelSourceCidr }

namespace ExitNode

def alreadyConfigured (node : ExitNode) (plan : ExitPlan) : Bool :=
  node.runtime.ipv4OutboundIface == plan.ipv4OutboundIface &&
    node.runtime.ipv6OutboundIface == plan.ipv6OutboundIface &&
    node.runtime.ipv4TunnelSourceCidr == plan.ipv4TunnelSourceCidr

def record (node : ExitNode) (plan : ExitPlan) : ExitNode :=
  { node with runtime := { node.runtime with
      ipv4OutboundIface := plan.ipv4OutboundIface
      ipv6OutboundIface := plan.ipv6OutboundIface
      ipv4TunnelSourceCidr := plan.ipv4TunnelSourceCidr } }

/-- A failure of IPv4 forwarding is one of the whole set-up. -/
def enableIpv4Forwarding (ok : Outcomes) (node : ExitNode) : Bool × ExitNode :=
  match readLinuxIpForward ok node.firewall .V4 with
  | none => (false, node)
  | some previous =>
    let node := { node with runtime := { node.runtime with ipv4ForwardWasEnabled := some previous } }
    if previous then (true, node)
    else
      let (written, firewall) := writeLinuxIpForward ok node.firewall .V4 true
      (written, { node with firewall })

def skipIpv6 (node : ExitNode) : ExitNode :=
  { node with runtime := { node.runtime with
      ipv6ForwardWasEnabled := none, ipv6OutboundIface := none } }

/-- A failure of IPv6 forwarding drops IPv6 from the set-up. -/
def enableIpv6Forwarding (ok : Outcomes) (node : ExitNode) : Bool × ExitNode :=
  match readLinuxIpForward ok node.firewall .V6 with
  | none => (false, node.skipIpv6)
  | some previous =>
    let node := { node with runtime := { node.runtime with ipv6ForwardWasEnabled := some previous } }
    if previous then (true, node)
    else
      match writeLinuxIpForward ok node.firewall .V6 true with
      | (true, firewall) => (true, { node with firewall })
      | (false, firewall) => (false, { node with firewall }.skipIpv6)

def installIpv6Rules (iface : String) (ok : Outcomes) (node : ExitNode) : ExitNode :=
  match ensureRules ok node.firewall (ipv6ExitRules iface) with
  | (true, firewall) => { node with firewall }
  | (false, firewall) => { node with firewall }.skipIpv6

/-- The set-up of a plan; `false` asks for the cleanup. -/
def setUp (iface : String) (ok : Outcomes) (plan : ExitPlan) (node : ExitNode) : Bool × ExitNode :=
  let node := node.record plan
  let (done, node) :=
    if plan.ipv4OutboundIface.isSome then node.enableIpv4Forwarding ok else (true, node)
  if !done then (false, node)
  else
    let (ipv6, node) :=
      if plan.ipv6OutboundIface.isSome then node.enableIpv6Forwarding ok else (false, node)
    let (installed, firewall) := ensureRules ok node.firewall
      (ipv4RulesOf iface plan.ipv4OutboundIface plan.ipv4TunnelSourceCidr)
    let node := { node with firewall }
    if !installed then (false, node)
    else (true, if ipv6 then node.installIpv6Rules iface ok else node)

/-- `reconcile_linux_exit_node_forwarding`; the outcomes are those of the cleanup in front of the set-up
(or instead of it), of the set-up, and of the cleanup after a failed set-up. -/
def reconcile (iface : String) (request : ExitRequest) (before during after : Outcomes)
    (node : ExitNode) : ExitNode :=
  match exitPlan request with
  | none => node.cleanup iface before
  | some plan =>
    if node.alreadyConfigured plan then node
    else match (node.cleanup iface before).setUp iface during plan with
      | (true, node) => node
      | (false, node) => node.cleanup iface after

end ExitNode

end NostrVpn.Cli
