import Mathlib.Data.List.MinMax

/-!
# Last-writer registers

A register keeps a value with its time and takes an offer only when the offer is strictly later.
After any sequence of offers it holds a latest one, so the order of the offers does not matter as
long as the latest offers agree.
-/
namespace LastWriter

variable {α : Type*}

/-- The register after an offer. -/
def offer (register x : Nat × α) : Nat × α := if register.1 < x.1 then x else register

theorem offer_of_lt {register x : Nat × α} (h : register.1 < x.1) : offer register x = x := if_pos h

theorem offer_of_le {register x : Nat × α} (h : x.1 ≤ register.1) : offer register x = register :=
  if_neg (Nat.not_lt.mpr h)

/-- Offers that are not later change nothing. -/
theorem foldl_offer_of_le {register : Nat × α} {l : List (Nat × α)}
    (h : ∀ x ∈ l, x.1 ≤ register.1) : l.foldl offer register = register := by
  induction l with
  | nil => rfl
  | cons x l ih =>
    rw [List.foldl_cons, offer_of_le (h x (by simp))]
    exact ih fun y hy => h y (by simp [hy])

/-- A register holds its first content or an offer. -/
theorem foldl_offer_mem (register : Nat × α) (l : List (Nat × α)) :
    l.foldl offer register ∈ register :: l := by
  induction l generalizing register with
  | nil => simp
  | cons x l ih =>
    rw [List.foldl_cons]
    rcases List.mem_cons.mp (ih (offer register x)) with kept | taken
    · rw [kept]
      unfold offer
      split_ifs <;> simp
    · simp [taken]

/-- The latest offers of a list agree. -/
def LatestAgree (l : List (Nat × α)) : Prop :=
  ∀ x ∈ l, ∀ y ∈ l, x.1 = y.1 → (∀ z ∈ l, z.1 ≤ x.1) → x.2 = y.2

instance [DecidableEq α] (l : List (Nat × α)) : Decidable (LatestAgree l) :=
  inferInstanceAs (Decidable (∀ x ∈ l, ∀ y ∈ l, _))

/-- A later offer than the register, latest in the list, is what the register ends up with. -/
theorem foldl_offer_eq {register x : Nat × α} {l : List (Nat × α)} (mem : x ∈ l)
    (later : register.1 < x.1) (latest : ∀ y ∈ l, y.1 ≤ x.1)
    (agree : ∀ y ∈ l, y.1 = x.1 → y.2 = x.2) : l.foldl offer register = x := by
  induction l generalizing register with
  | nil => cases mem
  | cons y l ih =>
    have tail : ∀ z ∈ l, z.1 ≤ x.1 := fun z hz => latest z (by simp [hz])
    rw [List.foldl_cons]
    rcases Nat.lt_or_ge y.1 x.1 with earlier | reached
    · have rest : x ∈ l := by
        rcases List.mem_cons.mp mem with rfl | rest
        · omega
        · exact rest
      refine ih rest ?_ tail fun z hz => agree z (by simp [hz])
      unfold offer
      split_ifs
      · exact earlier
      · exact later
    · have same : y = x := by
        have time := Nat.le_antisymm (latest y (by simp)) reached
        exact Prod.ext time (agree y (by simp) time)
      subst same
      rw [offer_of_lt later]
      exact foldl_offer_of_le tail

/-- Two orders of the same offers leave the same register. -/
theorem foldl_offer_perm {register : Nat × α} {l l' : List (Nat × α)} (perm : l.Perm l')
    (agree : LatestAgree l) : l.foldl offer register = l'.foldl offer register := by
  cases top : l.argmax Prod.fst with
  | none =>
    obtain rfl := List.argmax_eq_none.mp top
    rw [perm.nil_eq]
  | some x =>
    have mem : x ∈ l := List.argmax_mem top
    have latest (y) (hy : y ∈ l) : y.1 ≤ x.1 := List.le_of_mem_argmax hy top
    rcases Nat.lt_or_ge register.1 x.1 with later | old
    · have same (y) (hy : y ∈ l) (time : y.1 = x.1) : y.2 = x.2 :=
        (agree x mem y hy time.symm latest).symm
      rw [foldl_offer_eq mem later latest same,
        foldl_offer_eq (perm.mem_iff.mp mem) later (fun y hy => latest y (perm.mem_iff.mpr hy))
          fun y hy => same y (perm.mem_iff.mpr hy)]
    · have stale (y) (hy : y ∈ l) : y.1 ≤ register.1 := (latest y hy).trans old
      rw [foldl_offer_of_le stale, foldl_offer_of_le fun y hy => stale y (perm.mem_iff.mpr hy)]

end LastWriter
