import Mathlib.Data.Option.Basic
import Mathlib.Data.String.Basic

/-!
# Slices of a string at byte positions

`&s[..at]` and `&s[at..]` panic unless `at` is a boundary between two characters or an end of the string.
-/
namespace Rust

/-- The characters before and behind a byte position; `none` inside a character or behind the end. -/
def splitAtByte : Nat → List Char → Option (List Char × List Char)
  | 0, cs => some ([], cs)
  | _ + 1, [] => none
  | n + 1, c :: cs =>
    if c.utf8Size ≤ n + 1 then
      (splitAtByte (n + 1 - c.utf8Size) cs).map fun parts => (c :: parts.1, parts.2)
    else none

def isCharBoundary (s : String) (at' : Nat) : Bool := (splitAtByte at' s.toList).isSome

/-- `&s[..at]`. -/
def sliceTo (s : String) (at' : Nat) : Option String := (splitAtByte at' s.toList).map fun parts => .ofList parts.1

/-- `&s[at..]`. -/
def sliceFrom (s : String) (at' : Nat) : Option String := (splitAtByte at' s.toList).map fun parts => .ofList parts.2

@[simp] theorem isSome_sliceTo (s : String) (at' : Nat) : (sliceTo s at').isSome = isCharBoundary s at' := by
  simp [sliceTo, isCharBoundary]

@[simp] theorem isSome_sliceFrom (s : String) (at' : Nat) : (sliceFrom s at').isSome = isCharBoundary s at' := by
  simp [sliceFrom, isCharBoundary]

/-- Every position of an ASCII text is a boundary. -/
theorem isSome_splitAtByte_of_ascii {cs : List Char} (ascii : ∀ c ∈ cs, c.utf8Size = 1) {n : Nat}
    (inside : n ≤ cs.length) : (splitAtByte n cs).isSome := by
  induction cs generalizing n with
  | nil =>
    obtain rfl : n = 0 := by simpa using inside
    rfl
  | cons c cs ih =>
    cases n with
    | zero => rfl
    | succ n =>
      have one := ascii c (by simp)
      have rest := @ih (fun c' mem => ascii c' (List.mem_cons_of_mem _ mem)) n (by simpa using inside)
      simpa [splitAtByte, one] using rest

example : sliceTo "aé" 1 = some "a" ∧ sliceTo "aé" 2 = none ∧ sliceFrom "aé" 3 = some "" := by decide

end Rust
