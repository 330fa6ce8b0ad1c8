import NostrVpn.Cli.ExitForwarding

/-!
# What a cleanup of the exit node restores

The runtime accounts for the system as long as it knows every rule it appended and every flag it turned
on. A cleanup restores an accounted system. IPv6 set-up forgets its part when a rule cannot be installed,
and a cleanup forgets what it could not undo; without these the runtime accounts for the system after
every run.
-/
namespace NostrVpn.Cli

open Rust Linux Transition

variable (ok : Outcomes) {firewall : Firewall} {iface : String} {node : ExitNode}
  {original : IpFamily → Bool}

/-! ## Rules -/

theorem linuxIptablesDeleteRule_spec (single : firewall.Single) (rule : FirewallRule) :
    (linuxIptablesDeleteRule ok firewall rule).2.forwarding = firewall.forwarding ∧
      (linuxIptablesDeleteRule ok firewall rule).2.Single ∧
      (∀ other, (linuxIptablesDeleteRule ok firewall rule).2.Appended other →
        firewall.Appended other) ∧
      ((linuxIptablesDeleteRule ok firewall rule).1 = true →
        ¬ (linuxIptablesDeleteRule ok firewall rule).2.Appended rule) := by
  unfold linuxIptablesDeleteRule
  split_ifs with failed absent deleted
  · simp [single]
  · have gone := Firewall.not_appended_of_not_has (by simpa using absent)
    exact ⟨rfl, single, fun _ => id, fun _ => gone⟩
  · refine ⟨rfl, single.delete rule, fun other mem => ?_, fun _ mem => ?_⟩
    · exact ((Firewall.appended_delete single).mp mem).1
    · exact ((Firewall.appended_delete single).mp mem).2 rfl
  · simp [single]

/-- Deleting rules changes no flag, and if nothing fails none of the rules is left. -/
theorem deleteRules_spec (single : firewall.Single) (rules : List FirewallRule) :
    (deleteRules ok firewall rules).2.forwarding = firewall.forwarding ∧
      (deleteRules ok firewall rules).2.Single ∧
      (∀ other, (deleteRules ok firewall rules).2.Appended other → firewall.Appended other) ∧
      ((deleteRules ok firewall rules).1 = true →
        ∀ rule ∈ rules, ¬ (deleteRules ok firewall rules).2.Appended rule) := by
  induction rules generalizing firewall with
  | nil => simp [deleteRules, single]
  | cons rule rest ih =>
    obtain ⟨flags, single', fewer, gone⟩ := linuxIptablesDeleteRule_spec ok single rule
    obtain ⟨flags', single'', fewer', gone'⟩ := ih single'
    refine ⟨flags'.trans flags, single'', fun other mem => fewer other (fewer' other mem), ?_⟩
    intro done other mem
    obtain ⟨first, others⟩ := Bool.and_eq_true_iff.mp done
    rcases List.mem_cons.mp mem with rfl | mem
    · exact fun left => gone first (fewer' _ left)
    · exact gone' others other mem

/-- Installing rules changes no flag and appends only some of them. -/
theorem ensureRules_spec (single : firewall.Single) (rules : List FirewallRule) :
    (ensureRules ok firewall rules).2.forwarding = firewall.forwarding ∧
      (ensureRules ok firewall rules).2.Single ∧
      ∀ rule, (ensureRules ok firewall rules).2.Appended rule →
        firewall.Appended rule ∨ rule ∈ rules := by
  induction rules generalizing firewall with
  | nil => exact ⟨rfl, single, fun _ => Or.inl⟩
  | cons rule rest ih =>
    unfold ensureRules linuxIptablesEnsureRule
    split_ifs with failed present appended
    · exact ⟨rfl, single, fun _ => Or.inl⟩
    · obtain ⟨flags, single', more⟩ := ih single
      exact ⟨flags, single', fun other mem => (more other mem).imp_right (List.mem_cons_of_mem _)⟩
    · obtain ⟨flags, single', more⟩ := ih (single.append (by simpa using present))
      refine ⟨flags, single', fun other mem => ?_⟩
      rcases more other mem with here | later
      · rcases Firewall.appended_append.mp here with old | rfl
        · exact Or.inl old
        · exact Or.inr List.mem_cons_self
      · exact Or.inr (List.mem_cons_of_mem _ later)
    · exact ⟨rfl, single, fun _ => Or.inl⟩

theorem ensureRules_of_ok (firewall : Firewall) {rules : List FirewallRule}
    (works : ∀ rule ∈ rules, ok (.check rule) ∧ ok (.append rule)) :
    (ensureRules ok firewall rules).1 = true := by
  induction rules generalizing firewall with
  | nil => rfl
  | cons rule rest ih =>
    obtain ⟨checked, appended⟩ := works rule (by simp)
    have rest' (firewall : Firewall) := @ih firewall fun other mem => works other (by simp [mem])
    unfold ensureRules linuxIptablesEnsureRule
    by_cases present : firewall.has rule <;> simp [checked, appended, present, rest']

theorem deleteRules_of_ok (firewall : Firewall) (works : ∀ command, ok command)
    (rules : List FirewallRule) :
    (deleteRules ok firewall rules).1 = true := by
  induction rules generalizing firewall with
  | nil => rfl
  | cons rule rest ih =>
    have first : (linuxIptablesDeleteRule ok firewall rule).1 = true := by
      unfold linuxIptablesDeleteRule
      grind
    simp [deleteRules, first, ih]

theorem restoreForwarding_of_ok (firewall : Firewall) (works : ∀ command, ok command) (family : IpFamily)
    (wasEnabled : Option Bool) :
    (restoreForwarding ok firewall family wasEnabled).1 = true := by
  unfold restoreForwarding writeLinuxIpForward
  grind

/-! ## The invariant -/

/-- Nothing is left of the set-up: the flags are the original ones and no rule was appended. -/
structure Restored (original : IpFamily → Bool) (firewall : Firewall) : Prop where
  flags : ∀ family, firewall.forwarding family = original family
  rules : ∀ rule, ¬ firewall.Appended rule

/-- A flag is as it was, or it was off and is remembered to have been off. -/
def FlagAccounted (wasEnabled : Option Bool) (now original : Bool) : Prop :=
  if wasEnabled = some false then original = false else now = original

structure Accounted (iface : String) (original : IpFamily → Bool) (node : ExitNode) : Prop where
  single : node.firewall.Single
  rules : ∀ rule, node.firewall.Appended rule →
    rule ∈ node.runtime.ipv4Rules iface ∨ rule ∈ node.runtime.ipv6Rules iface
  ipv4 : FlagAccounted node.runtime.ipv4ForwardWasEnabled (node.firewall.forwarding .V4) (original .V4)
  ipv6 : FlagAccounted node.runtime.ipv6ForwardWasEnabled (node.firewall.forwarding .V6) (original .V6)

/-- Every cleanup whose undo commands succeeded has restored the system. -/
def CleanupsRestore (original : IpFamily → Bool) (node : ExitNode) : Prop :=
  ∀ entry ∈ node.cleanups, entry.1 = true → Restored original entry.2

theorem restoreForwarding_spec (firewall : Firewall) (family : IpFamily) (wasEnabled : Option Bool) :
    (restoreForwarding ok firewall family wasEnabled).2.rules = firewall.rules ∧
      (∀ other ≠ family, (restoreForwarding ok firewall family wasEnabled).2.forwarding other =
        firewall.forwarding other) ∧
      ((restoreForwarding ok firewall family wasEnabled).1 = true →
        (restoreForwarding ok firewall family wasEnabled).2.forwarding family =
          if wasEnabled = some false then false else firewall.forwarding family) := by
  unfold restoreForwarding writeLinuxIpForward Firewall.setForwarding
  grind

/-- A cleanup forgets everything, and has restored an accounted system if its commands succeed. -/
theorem cleanup_spec (accounted : Accounted iface original node) :
    ∃ done, (node.cleanup iface ok).cleanups =
        node.cleanups ++ [(done, (node.cleanup iface ok).firewall)] ∧
      (node.cleanup iface ok).runtime = {} ∧ (node.cleanup iface ok).firewall.Single ∧
      (done = true → Restored original (node.cleanup iface ok).firewall) ∧
      ((∀ command, ok command) → done = true) := by
  obtain ⟨single, rules, ipv4, ipv6⟩ := accounted
  have delete4 := deleteRules_spec ok single (node.runtime.ipv4Rules iface).reverse
  have works4 := fun works => deleteRules_of_ok ok node.firewall works
    (node.runtime.ipv4Rules iface).reverse
  generalize eq4 : deleteRules ok node.firewall (node.runtime.ipv4Rules iface).reverse = deleted4
    at delete4 works4
  obtain ⟨done4, firewall4⟩ := deleted4
  have delete6 := deleteRules_spec ok delete4.2.1 (node.runtime.ipv6Rules iface).reverse
  have works6 := fun works => deleteRules_of_ok ok firewall4 works
    (node.runtime.ipv6Rules iface).reverse
  generalize eq6 : deleteRules ok firewall4 (node.runtime.ipv6Rules iface).reverse = deleted6
    at delete6 works6
  obtain ⟨done6, firewall6⟩ := deleted6
  have restore4 := restoreForwarding_spec ok firewall6 .V4
    node.runtime.ipv4ForwardWasEnabled
  have back4 := fun works => restoreForwarding_of_ok ok firewall6 works .V4
    node.runtime.ipv4ForwardWasEnabled
  generalize eqBack4 : restoreForwarding ok firewall6 .V4 node.runtime.ipv4ForwardWasEnabled = restored4
    at restore4 back4
  obtain ⟨doneBack4, firewallBack4⟩ := restored4
  have restore6 := restoreForwarding_spec ok firewallBack4 .V6
    node.runtime.ipv6ForwardWasEnabled
  have back6 := fun works => restoreForwarding_of_ok ok firewallBack4 works .V6
    node.runtime.ipv6ForwardWasEnabled
  generalize eqBack6 : restoreForwarding ok firewallBack4 .V6 node.runtime.ipv6ForwardWasEnabled =
    restored6 at restore6 back6
  obtain ⟨doneBack6, firewallBack6⟩ := restored6
  simp only at delete4 delete6 restore4 restore6
  have left : node.cleanup iface ok = {
      firewall := firewallBack6
      runtime := {}
      cleanups := node.cleanups ++ [(done4 && done6 && doneBack4 && doneBack6, firewallBack6)] } := by
    simp only [ExitNode.cleanup, eq4, eq6, eqBack4, eqBack6]
  rw [left]
  obtain ⟨flags4, -, fewer4, gone4⟩ := delete4
  obtain ⟨flags6, single6, fewer6, gone6⟩ := delete6
  obtain ⟨rules4, others4, family4⟩ := restore4
  obtain ⟨rules6, others6, family6⟩ := restore6
  have sameRules : firewallBack6.rules = firewall6.rules := rules6.trans rules4
  refine ⟨_, rfl, rfl, by rwa [Firewall.Single, sameRules], fun done => ?_, fun works => ?_⟩
  · simp only [Bool.and_eq_true] at done
    obtain ⟨⟨⟨done4, done6⟩, doneBack4⟩, doneBack6⟩ := done
    constructor
    · intro family
      cases family <;> grind [FlagAccounted]
    · intro rule appended
      rw [Firewall.Appended, sameRules] at appended
      have in4 := fewer6 rule appended
      rcases rules rule (fewer4 rule in4) with recorded | recorded
      · exact gone4 done4 rule (List.mem_reverse.mpr recorded) in4
      · exact gone6 done6 rule (List.mem_reverse.mpr recorded) appended
  · simp [show done4 = true from works4 works, show done6 = true from works6 works,
      show doneBack4 = true from back4 works, show doneBack6 = true from back6 works]

/-- A restored system is accounted for by an empty runtime. -/
theorem Restored.accounted (restored : Restored original node.firewall) (single : node.firewall.Single)
    (forgotten : node.runtime = {}) : Accounted iface original node := by
  refine ⟨single, fun rule mem => absurd mem (restored.rules rule), ?_, ?_⟩
  · simpa [FlagAccounted, forgotten] using restored.flags .V4
  · simpa [FlagAccounted, forgotten] using restored.flags .V6

/-! ## The set-up -/

/-- The state of a set-up before its first rule. -/
structure Preparing (original : IpFamily → Bool) (node : ExitNode) : Prop where
  single : node.firewall.Single
  none' : ∀ rule, ¬ node.firewall.Appended rule
  ipv4 : FlagAccounted node.runtime.ipv4ForwardWasEnabled (node.firewall.forwarding .V4) (original .V4)
  ipv6 : FlagAccounted node.runtime.ipv6ForwardWasEnabled (node.firewall.forwarding .V6) (original .V6)

theorem Preparing.accounted (preparing : Preparing original node) : Accounted iface original node :=
  ⟨preparing.single, fun rule mem => absurd mem (preparing.none' rule), preparing.ipv4, preparing.ipv6⟩

/-- Rules that the runtime knows are accounted for. -/
theorem Preparing.install (preparing : Preparing original node) {rules : List FirewallRule}
    (known : ∀ rule ∈ rules, rule ∈ node.runtime.ipv4Rules iface ∨ rule ∈ node.runtime.ipv6Rules iface) :
    Accounted iface original { node with firewall := (ensureRules ok node.firewall rules).2 } := by
  obtain ⟨flags, single, more⟩ := ensureRules_spec ok preparing.single rules
  refine ⟨single, fun rule mem => ?_, ?_, ?_⟩
  · rcases more rule mem with old | new
    · exact absurd old (preparing.none' rule)
    · exact known rule new
  · simpa [flags] using preparing.ipv4
  · simpa [flags] using preparing.ipv6

theorem Preparing.enableIpv4 (preparing : Preparing original node)
    (unread : node.runtime.ipv4ForwardWasEnabled = none) :
    Preparing original (node.enableIpv4Forwarding ok).2 := by
  obtain ⟨single, none', ipv4, ipv6⟩ := preparing
  have same : node.firewall.forwarding .V4 = original .V4 := by simpa [FlagAccounted, unread] using ipv4
  unfold ExitNode.enableIpv4Forwarding readLinuxIpForward writeLinuxIpForward
  by_cases read : ok (.readForward .V4)
  · cases previous : node.firewall.forwarding .V4
    · by_cases write : ok (.writeForward .V4 true) <;>
        simp only [read, write, if_true, Bool.false_eq_true, if_false] <;>
        exact ⟨single, none', by simp [FlagAccounted, ← same, previous], ipv6⟩
    · simp only [read, if_true]
      exact ⟨single, none', by simp [FlagAccounted, ← same, previous], ipv6⟩
  · simp only [read, Bool.false_eq_true, if_false]
    exact ⟨single, none', ipv4, ipv6⟩

theorem Preparing.enableIpv6 (preparing : Preparing original node)
    (unread : node.runtime.ipv6ForwardWasEnabled = none) :
    Preparing original (node.enableIpv6Forwarding ok).2 := by
  obtain ⟨single, none', ipv4, ipv6⟩ := preparing
  have same : node.firewall.forwarding .V6 = original .V6 := by simpa [FlagAccounted, unread] using ipv6
  have skipped : FlagAccounted none (node.firewall.forwarding .V6) (original .V6) := by
    simpa [FlagAccounted] using same
  unfold ExitNode.enableIpv6Forwarding readLinuxIpForward writeLinuxIpForward
  by_cases read : ok (.readForward .V6)
  · cases previous : node.firewall.forwarding .V6
    · by_cases write : ok (.writeForward .V6 true) <;>
        simp only [read, write, if_true, Bool.false_eq_true, if_false]
      · exact ⟨single, none', ipv4, by simp [FlagAccounted, ← same, previous]⟩
      · exact ⟨single, none', ipv4, skipped⟩
    · simp only [read, if_true]
      exact ⟨single, none', ipv4, by simp [FlagAccounted, ← same, previous]⟩
  · simp only [read, Bool.false_eq_true, if_false]
    exact ⟨single, none', ipv4, skipped⟩

/-- The stages of a set-up leave the log alone and the parts of the runtime that are not theirs. -/
theorem runtime_enableIpv4Forwarding : (node.enableIpv4Forwarding ok).2.cleanups = node.cleanups ∧
    ∃ was, (node.enableIpv4Forwarding ok).2.runtime =
      { node.runtime with ipv4ForwardWasEnabled := was } := by
  unfold ExitNode.enableIpv4Forwarding readLinuxIpForward writeLinuxIpForward
  split
  · exact ⟨rfl, _, rfl⟩
  · dsimp only
    split_ifs <;> exact ⟨rfl, _, rfl⟩

theorem runtime_enableIpv6Forwarding : (node.enableIpv6Forwarding ok).2.cleanups = node.cleanups ∧
    (node.enableIpv6Forwarding ok).2.runtime.ipv4Rules iface = node.runtime.ipv4Rules iface ∧
    ((node.enableIpv6Forwarding ok).1 = true →
      (node.enableIpv6Forwarding ok).2.runtime.ipv6OutboundIface = node.runtime.ipv6OutboundIface) := by
  unfold ExitNode.enableIpv6Forwarding readLinuxIpForward writeLinuxIpForward
  split
  · exact ⟨rfl, rfl, fun h => by cases h⟩
  · dsimp only
    split_ifs
    · exact ⟨rfl, rfl, fun _ => rfl⟩
    · exact ⟨rfl, rfl, fun _ => rfl⟩
    · exact ⟨rfl, rfl, fun h => by cases h⟩

/-- IPv6 rules that can be installed are known to a runtime with an IPv6 device. -/
theorem Accounted.installIpv6 (accounted : Accounted iface original node)
    (known : node.runtime.ipv6OutboundIface.isSome)
    (works : ∀ rule ∈ ipv6ExitRules iface, ok (.check rule) ∧ ok (.append rule)) :
    Accounted iface original (node.installIpv6Rules iface ok) := by
  have done := ensureRules_of_ok ok node.firewall works
  obtain ⟨flags, single, more⟩ := ensureRules_spec ok accounted.single (ipv6ExitRules iface)
  unfold ExitNode.installIpv6Rules
  generalize ensureRules ok node.firewall (ipv6ExitRules iface) = result at done flags single more
  obtain ⟨installed, firewall⟩ := result
  obtain rfl : installed = true := done
  simp only at flags
  refine ⟨single, fun rule mem => ?_, ?_, ?_⟩
  · rcases more rule mem with old | new
    · exact accounted.rules rule old
    · exact Or.inr (by simpa [LinuxExitNodeRuntime.ipv6Rules, known] using new)
  · simpa [flags] using accounted.ipv4
  · simpa [flags] using accounted.ipv6

theorem cleanups_installIpv6Rules : (node.installIpv6Rules iface ok).cleanups = node.cleanups := by
  unfold ExitNode.installIpv6Rules
  split <;> rfl

/-- A set-up that starts with an empty runtime ends accounted for when the IPv6 rules can be installed,
whether it fails or not. -/
theorem Preparing.setUp (preparing : Preparing original node) (forgotten : node.runtime = {})
    (plan : ExitPlan) (works : ∀ rule ∈ ipv6ExitRules iface, ok (.check rule) ∧ ok (.append rule)) :
    Accounted iface original (node.setUp iface ok plan).2 ∧
      (node.setUp iface ok plan).2.cleanups = node.cleanups := by
  have recorded : Preparing original (node.record plan) :=
    ⟨preparing.single, preparing.none', preparing.ipv4, preparing.ipv6⟩
  have unread4 : (node.record plan).runtime.ipv4ForwardWasEnabled = none := by
    simp [ExitNode.record, forgotten]
  have unread6 : (node.record plan).runtime.ipv6ForwardWasEnabled = none := by
    simp [ExitNode.record, forgotten]
  unfold ExitNode.setUp
  generalize first : (if plan.ipv4OutboundIface.isSome then
    (node.record plan).enableIpv4Forwarding ok else (true, node.record plan)) = stage4
  have stage4Spec : Preparing original stage4.2 ∧ stage4.2.cleanups = node.cleanups ∧
      ∃ was, stage4.2.runtime = { (node.record plan).runtime with ipv4ForwardWasEnabled := was } := by
    rw [← first]
    split_ifs
    · exact ⟨recorded.enableIpv4 ok unread4, runtime_enableIpv4Forwarding ok⟩
    · exact ⟨recorded, rfl, none, by rw [← unread4]⟩
  obtain ⟨done, node4⟩ := stage4
  obtain ⟨prepared4, cleanups4, was, runtime4⟩ := stage4Spec
  simp only at prepared4 cleanups4 runtime4
  simp only [first]
  cases done with
  | false => exact ⟨prepared4.accounted, cleanups4⟩
  | true =>
  generalize second : (if plan.ipv6OutboundIface.isSome then node4.enableIpv6Forwarding ok
    else (false, node4)) = stage6
  have stage6Spec : Preparing original stage6.2 ∧ stage6.2.cleanups = node.cleanups ∧
      stage6.2.runtime.ipv4Rules iface = (node.record plan).runtime.ipv4Rules iface ∧
      (stage6.1 = true → stage6.2.runtime.ipv6OutboundIface.isSome) := by
    rw [← second]
    by_cases wanted : plan.ipv6OutboundIface.isSome
    · obtain ⟨cleanups, rules, kept⟩ :=
        @runtime_enableIpv6Forwarding ok iface node4
      rw [if_pos wanted]
      refine ⟨prepared4.enableIpv6 ok (by rw [runtime4]; exact unread6), cleanups.trans cleanups4,
        rules.trans (by rw [runtime4]; rfl), fun enabled => ?_⟩
      rw [kept enabled, runtime4]
      exact wanted
    · rw [if_neg wanted]
      exact ⟨prepared4, cleanups4, by rw [runtime4]; rfl, fun h => by cases h⟩
  obtain ⟨ipv6, node6⟩ := stage6
  obtain ⟨prepared6, cleanups6, rules4, iface6⟩ := stage6Spec
  simp only at prepared6 cleanups6 rules4 iface6
  have known : ∀ rule ∈ ipv4RulesOf iface plan.ipv4OutboundIface plan.ipv4TunnelSourceCidr,
      rule ∈ node6.runtime.ipv4Rules iface ∨ rule ∈ node6.runtime.ipv6Rules iface := fun rule mem =>
    Or.inl (by rw [rules4]; exact mem)
  have installed4 := prepared6.install ok known
  simp only [Bool.not_true, Bool.false_eq_true, if_false]
  cases installed : (ensureRules ok node6.firewall
    (ipv4RulesOf iface plan.ipv4OutboundIface plan.ipv4TunnelSourceCidr)).1 with
  | false => exact ⟨installed4, cleanups6⟩
  | true =>
    cases ipv6 with
    | false => exact ⟨installed4, cleanups6⟩
    | true =>
      exact ⟨installed4.installIpv6 ok (iface6 rfl) works, (cleanups_installIpv6Rules ok).trans cleanups6⟩

/-! ## Runs -/

inductive ExitCall where
  | reconcile (request : ExitRequest) (before during after : Outcomes)
  | cleanup (ok : Outcomes)

def ExitCall.step (iface : String) (node : ExitNode) : ExitCall → ExitNode
  | .reconcile request before during after => node.reconcile iface request before during after
  | .cleanup ok => node.cleanup iface ok

/-- Every undo command of the call succeeds, and so does every `ip6tables` command of a set-up. -/
def ExitCall.Sound (iface : String) : ExitCall → Prop
  | .reconcile _ before during after => (∀ command, before command) ∧ (∀ command, after command) ∧
      ∀ rule ∈ ipv6ExitRules iface, during (.check rule) ∧ during (.append rule)
  | .cleanup ok => ∀ command, ok command

/-- A runtime that never ran, in a system with these flags and rules. -/
def ExitNode.start (forwarding : IpFamily → Bool) (rules : List FirewallRule) : ExitNode where
  firewall := { forwarding, rules := rules.map fun rule => (rule, false) }

/-- What a run keeps: the runtime accounts for the system, and every cleanup restored it. -/
structure Sane (iface : String) (original : IpFamily → Bool) (node : ExitNode) : Prop where
  accounted : Accounted iface original node
  cleanups : CleanupsRestore original node

theorem sane_start (forwarding : IpFamily → Bool) (rules : List FirewallRule) :
    Sane iface forwarding (ExitNode.start forwarding rules) where
  accounted := by
    refine ⟨?_, fun rule mem => ?_, rfl, rfl⟩
    · exact List.pairwise_map.mpr (List.pairwise_of_forall fun _ _ _ => ⟨rfl, rfl⟩)
    · simp [Firewall.Appended, ExitNode.start] at mem
  cleanups := by simp [CleanupsRestore, ExitNode.start]

/-- A cleanup with any outcome keeps the log right. -/
theorem Accounted.cleanup_log (accounted : Accounted iface original node)
    (restore : CleanupsRestore original node) : CleanupsRestore original (node.cleanup iface ok) := by
  obtain ⟨done, log, -, -, restored, -⟩ := cleanup_spec ok accounted
  intro entry mem succeeded
  rw [log] at mem
  rcases List.mem_append.mp mem with old | new
  · exact restore entry old succeeded
  · obtain rfl : entry = _ := List.mem_singleton.mp new
    exact restored succeeded

theorem Sane.cleanup (sane : Sane iface original node) (works : ∀ command, ok command) :
    Sane iface original (node.cleanup iface ok) ∧
      Restored original (node.cleanup iface ok).firewall ∧ (node.cleanup iface ok).runtime = {} := by
  obtain ⟨done, log, forgotten, single, restored, succeeds⟩ := cleanup_spec ok sane.accounted
  have back := restored (succeeds works)
  exact ⟨⟨back.accounted single forgotten, sane.accounted.cleanup_log ok sane.cleanups⟩, back, forgotten⟩

theorem Sane.step (sane : Sane iface original node) {call : ExitCall} (sound : call.Sound iface) :
    Sane iface original (call.step iface node) := by
  cases call with
  | cleanup ok => exact (sane.cleanup ok sound).1
  | reconcile request before during after =>
    obtain ⟨undone, undone', ipv6⟩ := sound
    show Sane iface original (node.reconcile iface request before during after)
    unfold ExitNode.reconcile
    cases exitPlan request with
    | none => exact (sane.cleanup before undone).1
    | some plan =>
      by_cases configured : node.alreadyConfigured plan
      · simpa only [configured, if_true] using sane
      · simp only [configured, Bool.false_eq_true, if_false]
        obtain ⟨clean, restored, forgotten⟩ := sane.cleanup before undone
        have preparing : Preparing original (node.cleanup iface before) :=
          ⟨clean.accounted.single, restored.rules, clean.accounted.ipv4, clean.accounted.ipv6⟩
        obtain ⟨accounted, log⟩ := preparing.setUp during forgotten plan ipv6
        have sane' : Sane iface original ((node.cleanup iface before).setUp iface during plan).2 :=
          ⟨accounted, by rw [CleanupsRestore, log]; exact clean.cleanups⟩
        generalize (node.cleanup iface before).setUp iface during plan = result at sane'
        obtain ⟨done, node'⟩ := result
        cases done with
        | true => exact sane'
        | false => exact (sane'.cleanup after undone').1

/-- After any run of calls whose undo commands and IPv6 rules succeed, and a last cleanup, every cleanup
whose own undo commands succeeded has left the original flags and no rule of the program. -/
theorem cleanup_restores (iface : String) (forwarding : IpFamily → Bool) (rules : List FirewallRule)
    (calls : List ExitCall) (sound : ∀ call ∈ calls, call.Sound iface) (ok : Outcomes) :
    CleanupsRestore forwarding ((run (ExitCall.step iface) (ExitNode.start forwarding rules)
      calls).cleanup iface ok) := by
  have sane : Sane iface forwarding (run (ExitCall.step iface) (ExitNode.start forwarding rules) calls) :=
    @invariant _ _ (ExitCall.step iface) (Sane iface forwarding) (fun _ call => call.Sound iface)
      (fun _ _ sane sound => sane.step sound) _ _ (sane_start forwarding rules) (.of_forall fun call mem _ => sound call mem)
  exact sane.accounted.cleanup_log ok sane.cleanups

/-! ## A failed IPv6 rule -/

def dualStackRequest : ExitRequest where
  routes := ["0.0.0.0/0", "::/0"]
  tunnelIp := "10.44.1.2/32"
  ipv4RouteDev := some "eth0"
  ipv6RouteDev := some "eth0"

/-- Every command succeeds but the one that appends the second IPv6 rule. -/
def secondIpv6RuleFails : Outcomes := fun command =>
  command != .append (linuxExitNodeForwardOutRule "utun100" .V6)

def succeeds : Outcomes := fun _ => true

/-- The IPv6 rules fail half-way, and a cleanup follows. -/
def halfInstalled : ExitNode :=
  run (ExitCall.step "utun100") (ExitNode.start (fun _ => false) [])
    [.reconcile dualStackRequest succeeds secondIpv6RuleFails succeeds, .cleanup succeeds]

/-- The cleanup succeeds, and IPv6 stays forwarded under a rule of the program. -/
theorem ipv6_left_forwarding : ¬ CleanupsRestore (fun _ => false) halfInstalled ∧
    halfInstalled.firewall.forwarding .V6 = true ∧
    halfInstalled.firewall.Appended (linuxExitNodeForwardInRule "utun100" .V6) := by
  have flag : halfInstalled.firewall.forwarding .V6 = true := by decide +kernel
  have rule : halfInstalled.firewall.rules.contains
      (linuxExitNodeForwardInRule "utun100" .V6, true) = true := by decide +kernel
  have logged : halfInstalled.cleanups.any (fun entry => entry.1 && entry.2.forwarding .V6) = true := by
    decide +kernel
  refine ⟨fun restore => ?_, flag, List.contains_iff_mem.mp rule⟩
  obtain ⟨entry, mem, both⟩ := List.any_eq_true.mp logged
  obtain ⟨succeeded, left⟩ := Bool.and_eq_true_iff.mp both
  exact absurd ((restore entry mem succeeded).flags .V6) (by simp [left])

theorem cleanup_restores_of_dualStack :
    CleanupsRestore (fun _ => false) ((run (ExitCall.step "utun100") (ExitNode.start (fun _ => false) [])
      [.reconcile dualStackRequest succeeds succeeds succeeds]).cleanup "utun100" succeeds) :=
  cleanup_restores "utun100" (fun _ => false) [] _ (by simp [ExitCall.Sound, succeeds]) succeeds

end NostrVpn.Cli
