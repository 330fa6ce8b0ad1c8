import NostrVpn.Rust.Str

/-!
# Loops that a failure ends

`for x in xs { send(x)?; }`: the elements that are tried, and when all of them are.
-/
namespace Rust

variable {α ε : Type*}

/-- Every element but the last passes. -/
def PassesButLast (ok : α → Bool) (xs : List α) : Prop := ∀ x ∈ xs.dropLast, ok x

instance (ok : α → Bool) (xs : List α) : Decidable (PassesButLast ok xs) :=
  inferInstanceAs (Decidable (∀ x ∈ xs.dropLast, ok x))

@[simp] theorem passesButLast_nil (ok : α → Bool) : PassesButLast ok [] := by simp [PassesButLast]

@[simp] theorem passesButLast_singleton (ok : α → Bool) (x : α) : PassesButLast ok [x] := by
  simp [PassesButLast]

@[simp] theorem passesButLast_cons_cons (ok : α → Bool) (x y : α) (ys : List α) :
    PassesButLast ok (x :: y :: ys) ↔ ok x = true ∧ PassesButLast ok (y :: ys) := by
  simp [PassesButLast]

/-- The elements up to the first that fails, with it. -/
@[grind] def tried (ok : α → Bool) : List α → List α
  | [] => []
  | x :: xs => if ok x then x :: tried ok xs else [x]

theorem tried_isPrefix (ok : α → Bool) (xs : List α) : tried ok xs <+: xs := by
  induction xs with
  | nil => simp [tried]
  | cons x xs ih =>
    unfold tried
    split_ifs
    · exact (List.prefix_cons_inj x).mpr ih
    · exact ⟨xs, rfl⟩

/-- Nobody is passed over exactly when no element but the last fails. -/
theorem tried_eq_iff (ok : α → Bool) (xs : List α) : tried ok xs = xs ↔ PassesButLast ok xs := by
  induction xs with
  | nil => simp [tried]
  | cons x xs ih =>
    cases xs with
    | nil => simp [tried]
    | cons y ys =>
      rw [passesButLast_cons_cons, ← ih, tried]
      split_ifs with passes <;> simp [passes]

/-- The loop: what it tries, and its result. -/
@[grind] def tryEach (send : α → Except ε Unit) : List α → List α × Except ε Unit
  | [] => ([], .ok ())
  | x :: xs => match send x with
    | .error e => ([x], .error e)
    | .ok _ => (x :: (tryEach send xs).1, (tryEach send xs).2)

theorem fst_tryEach (send : α → Except ε Unit) (xs : List α) :
    (tryEach send xs).1 = tried (fun x => (send x).isOk) xs := by
  induction xs with
  | nil => rfl
  | cons x xs ih =>
    cases sent : send x with
    | error e => simp [tryEach, tried, sent, Except.isOk, Except.toBool]
    | ok u => simp [tryEach, tried, sent, ih, Except.isOk, Except.toBool]

/-- A loop that succeeds has sent to everybody. -/
theorem snd_tryEach (send : α → Except ε Unit) (xs : List α) :
    (tryEach send xs).2.isOk = xs.all fun x => (send x).isOk := by
  induction xs with
  | nil => rfl
  | cons x xs ih =>
    cases sent : send x with
    | error e => simp [tryEach, sent, Except.isOk, Except.toBool]
    | ok u => simpa [tryEach, sent, Except.isOk, Except.toBool] using ih

end Rust
