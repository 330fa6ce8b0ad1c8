import Mathlib.Data.List.Iterate
import Mathlib.Logic.Function.Iterate

/-!
# Scans around a ring

A loop that tries the positions of a ring one after the other and ends when it is back where it began. It
visits every position once, whatever the length of the ring.
-/
namespace RingScan

variable {α β σ : Type*}

/-- `next` leads from `first` through `n` different positions back to `first`. -/
structure IsRing (next : α → α) (first : α) (n : Nat) : Prop where
  nonempty : 0 < n
  closed : next^[n] first = first
  apart : ∀ k, 0 < k → k < n → next^[k] first ≠ first

namespace IsRing
variable {next : α → α} {first : α} {n : Nat}

/-- The positions behind the first one, in their order, before the ring closes. -/
theorem iterate_next (ring : IsRing next first n) :
    List.iterate next (next first) n = List.iterate next (next first) (n - 1) ++ [first] := by
  obtain ⟨left, rfl⟩ : ∃ left, n = left + 1 := ⟨n - 1, by have := ring.nonempty; omega⟩
  have closed := ring.closed
  rw [Function.iterate_succ_apply] at closed
  rw [List.iterate_add, Nat.add_sub_cancel, closed]
  rfl

theorem first_notMem (ring : IsRing next first n) : first ∉ List.iterate next (next first) (n - 1) := by
  intro mem
  obtain ⟨k, short, same⟩ := List.mem_iterate.mp mem
  rw [← Function.iterate_succ_apply] at same
  exact ring.apart (k + 1) (by omega) (by omega) same.symm

end IsRing

/-- `while !tried || at != first { .. at = next(at) }`; `none` when the fuel does not suffice. A try may stop
the loop with a result. -/
def scan [DecidableEq α] (next : α → α) (first : α) (attempt : σ → α → Option (Option β × σ)) :
    Nat → Bool → σ → α → Option (Option β × σ)
  | 0, _, _, _ => none
  | fuel + 1, tried, s, at' =>
    if tried ∧ at' = first then some (none, s)
    else match attempt s at' with
      | none => none
      | some (some result, s) => some (some result, s)
      | some (none, s) => scan next first attempt fuel true s (next at')

/-- The tries at a list of positions. -/
def scanList (attempt : σ → α → Option (Option β × σ)) : σ → List α → Option (Option β × σ)
  | s, [] => some (none, s)
  | s, at' :: rest => match attempt s at' with
    | none => none
    | some (some result, s) => some (some result, s)
    | some (none, s) => scanList attempt s rest

section Scan
variable [DecidableEq α] {next : α → α} {first : α} {n : Nat} {attempt : σ → α → Option (Option β × σ)}

/-- The rest of the scan, `k` positions after the first. -/
theorem scan_rest (ring : IsRing next first n) {k : Nat} (started : 0 < k) (inside : k ≤ n) {fuel : Nat}
    (enough : n - k < fuel) (s : σ) :
    scan next first attempt fuel true s (next^[k] first) =
      scanList attempt s ((List.iterate next (next^[k] first) (n - k))) := by
  induction fuel generalizing k s with
  | zero => omega
  | succ fuel ih =>
    rcases Nat.lt_or_ge k n with more | done
    · obtain ⟨left, left_eq⟩ : ∃ left, n - k = left + 1 := ⟨n - k - 1, by omega⟩
      rw [left_eq, List.iterate, scan, if_neg (by simpa using ring.apart k started more), scanList]
      cases attempt s (next^[k] first) with
      | none => rfl
      | some tried =>
        obtain ⟨result, s'⟩ := tried
        cases result with
        | some result => rfl
        | none =>
          have rest := @ih (k + 1) (by omega) (by omega) (by omega) s'
          rw [Function.iterate_succ_apply', show n - (k + 1) = left by omega] at rest
          exact rest
    · obtain rfl : k = n := by omega
      rw [Nat.sub_self, List.iterate, scan, if_pos (by simp [ring.closed]), scanList]

/-- With more fuel than positions, a scan tries the positions of the ring once, in their order. -/
theorem scan_eq (ring : IsRing next first n) {fuel : Nat} (enough : n < fuel) (s : σ) :
    scan next first attempt fuel false s first = scanList attempt s (List.iterate next first n) := by
  obtain ⟨fuel, rfl⟩ : ∃ less, fuel = less + 1 := ⟨fuel - 1, by omega⟩
  obtain ⟨left, rfl⟩ : ∃ left, n = left + 1 := ⟨n - 1, by have := ring.nonempty; omega⟩
  rw [List.iterate, scan, if_neg (by simp), scanList]
  cases attempt s first with
  | none => rfl
  | some tried =>
    obtain ⟨result, s'⟩ := tried
    cases result with
    | some result => rfl
    | none => exact scan_rest ring (k := 1) (by omega) (by omega) (by omega) s'

end Scan

/-- When a try that finds nothing leaves the state as it was, the first position that stops the scan decides. -/
theorem scanList_eq {attempt : σ → α → Option (Option β × σ)} {s : σ} {stops : α → Bool} {l : List α}
    (goes : ∀ at' ∈ l, stops at' = false → attempt s at' = some (none, s))
    (halts : ∀ at' ∈ l, stops at' = true → ∃ result s', attempt s at' = some (some result, s')) :
    scanList attempt s l = match l.find? stops with
      | none => some (none, s)
      | some at' => attempt s at' := by
  induction l with
  | nil => rfl
  | cons at' rest ih =>
    have later := ih (fun b mem => goes b (List.mem_cons_of_mem _ mem))
      fun b mem => halts b (List.mem_cons_of_mem _ mem)
    rw [scanList, List.find?_cons]
    cases stop : stops at' with
    | false =>
      rw [goes at' (by simp) stop]
      exact later
    | true =>
      obtain ⟨result, s', halted⟩ := halts at' (by simp) stop
      rw [halted]
      exact halted.symm

end RingScan
