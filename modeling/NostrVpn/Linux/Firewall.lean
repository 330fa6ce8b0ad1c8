import Mathlib.Data.List.Basic

/-!
# Forwarding flags and firewall rules

The kernel keeps one forwarding flag for each address family and an ordered list of firewall rules. Every
rule carries a mark that says whether it was appended here or stood there before. A command that fails
changes nothing.
-/
namespace Linux

inductive IpFamily where
  | V4 | V6
  deriving DecidableEq, Repr

structure FirewallRule where
  family : IpFamily
  table : Option String := none
  spec : List String
  deriving DecidableEq, Repr

structure Firewall where
  forwarding : IpFamily → Bool
  rules : List (FirewallRule × Bool)

inductive FirewallCommand where
  | readForward (family : IpFamily)
  | writeForward (family : IpFamily) (enabled : Bool)
  | check (rule : FirewallRule)
  | append (rule : FirewallRule)
  | delete (rule : FirewallRule)
  deriving DecidableEq, Repr

namespace Firewall

variable {firewall : Firewall}

def setForwarding (firewall : Firewall) (family : IpFamily) (enabled : Bool) : Firewall :=
  { firewall with forwarding := fun f => if f = family then enabled else firewall.forwarding f }

def has (firewall : Firewall) (rule : FirewallRule) : Bool :=
  firewall.rules.any fun entry => entry.1 == rule

def append (firewall : Firewall) (rule : FirewallRule) : Firewall :=
  { firewall with rules := firewall.rules ++ [(rule, true)] }

/-- The first rule that matches goes. -/
def delete (firewall : Firewall) (rule : FirewallRule) : Firewall :=
  { firewall with rules := firewall.rules.eraseP fun entry => entry.1 == rule }

/-- The rule stands in the list and was appended here. -/
def Appended (firewall : Firewall) (rule : FirewallRule) : Prop := (rule, true) ∈ firewall.rules

/-- No other entry is the same rule as one appended here. -/
def Single (firewall : Firewall) : Prop :=
  firewall.rules.Pairwise fun left right => left.1 = right.1 → left.2 = false ∧ right.2 = false

@[simp] theorem forwarding_append (rule : FirewallRule) :
    (firewall.append rule).forwarding = firewall.forwarding := rfl

@[simp] theorem forwarding_delete (rule : FirewallRule) :
    (firewall.delete rule).forwarding = firewall.forwarding := rfl

@[simp] theorem rules_setForwarding (family : IpFamily) (enabled : Bool) :
    (firewall.setForwarding family enabled).rules = firewall.rules := rfl

@[simp] theorem appended_append {added rule : FirewallRule} :
    (firewall.append added).Appended rule ↔ firewall.Appended rule ∨ rule = added := by
  simp [Appended, append]

theorem Single.append {rule : FirewallRule} (single : firewall.Single)
    (absent : firewall.has rule = false) : (firewall.append rule).Single := by
  refine List.pairwise_append.mpr ⟨single, List.pairwise_singleton _ _, ?_⟩
  intro entry mem new mem' same
  obtain rfl : new = (rule, true) := by simpa using mem'
  have other : entry.1 ≠ rule := by simpa using List.any_eq_false.mp absent entry mem
  exact absurd same other

theorem Single.delete (single : firewall.Single) (rule : FirewallRule) :
    (firewall.delete rule).Single :=
  single.sublist List.eraseP_sublist

/-- A deleted rule that was appended here is gone, as it stood there once. -/
theorem appended_delete (single : firewall.Single) {deleted rule : FirewallRule} :
    (firewall.delete deleted).Appended rule ↔ firewall.Appended rule ∧ rule ≠ deleted := by
  unfold Appended Firewall.delete
  unfold Single at single
  generalize firewall.rules = rules at single
  induction rules with
  | nil => simp
  | cons entry rest ih =>
    obtain ⟨first, single⟩ := List.pairwise_cons.mp single
    have rest' := ih single
    by_cases found : entry.1 = deleted
    · subst found
      simp only [beq_self_eq_true, List.eraseP_cons_of_pos, List.mem_cons]
      grind
    · simp only [found, beq_iff_eq, not_false_eq_true, List.eraseP_cons_of_neg, List.mem_cons]
      grind

/-- A rule that does not stand there was not appended. -/
theorem not_appended_of_not_has {rule : FirewallRule} (absent : firewall.has rule = false) :
    ¬ firewall.Appended rule := by
  intro mem
  simpa using List.any_eq_false.mp absent _ mem

end Firewall

end Linux
