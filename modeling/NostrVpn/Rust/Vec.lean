import Mathlib.Data.List.Sort
import Mathlib.Data.List.Dedup

/-!
# Vectors and iterators of the Rust standard library

The loop that pushes what a `seen` set does not hold yet, the stable `sort_by` on a key, and
`max_by_key`, which returns the last of several greatest elements.
-/
namespace Rust

variable {α β : Type}

/-- `if seen.insert(x) { out.push(x) }`, where the set holds the elements of the vector. -/
def pushUnique [DecidableEq α] (out : List α) (x : α) : List α :=
  if x ∈ out then out else out ++ [x]

theorem mem_pushUnique [DecidableEq α] {out : List α} {x y : α} :
    y ∈ pushUnique out x ↔ y ∈ out ∨ y = x := by
  unfold pushUnique
  split_ifs with old
  · exact ⟨Or.inl, fun h => h.elim id fun eq => eq ▸ old⟩
  · simp

theorem nodup_pushUnique [DecidableEq α] {out : List α} (x : α) (h : out.Nodup) :
    (pushUnique out x).Nodup := by
  unfold pushUnique
  split_ifs with old
  · exact h
  · simp only [List.nodup_append, h, List.nodup_cons, List.not_mem_nil, not_false_eq_true,
      List.nodup_nil, and_self, List.mem_singleton, forall_eq, true_and]
    exact fun y hy eq => old (eq ▸ hy)

theorem mem_foldl_pushUnique [DecidableEq α] {l out : List α} {y : α} :
    y ∈ l.foldl pushUnique out ↔ y ∈ out ∨ y ∈ l := by
  induction l generalizing out with
  | nil => simp
  | cons x l ih => rw [List.foldl_cons, ih, mem_pushUnique, List.mem_cons, or_assoc]

theorem nodup_foldl_pushUnique [DecidableEq α] (l : List α) {out : List α} (h : out.Nodup) :
    (l.foldl pushUnique out).Nodup := by
  induction l generalizing out with
  | nil => exact h
  | cons x l ih => exact ih (nodup_pushUnique x h)

theorem foldl_pushUnique_of_nodup [DecidableEq α] {l out : List α} (h : (out ++ l).Nodup) :
    l.foldl pushUnique out = out ++ l := by
  induction l generalizing out with
  | nil => simp
  | cons x l ih =>
    have fresh : x ∉ out := fun mem => (List.nodup_append.mp h).2.2 x mem x (by simp) rfl
    rw [List.foldl_cons, pushUnique, if_neg fresh, ih (by simpa using h), List.append_assoc,
      List.singleton_append]

/-- `iter_mut().find(p)` followed by a change of the element found. -/
def modifyFirst (p : α → Bool) (f : α → α) : List α → List α
  | [] => []
  | a :: l => if p a then f a :: l else a :: modifyFirst p f l

theorem modifyFirst_ne_nil {p : α → Bool} {f : α → α} {l : List α} (h : l ≠ []) :
    modifyFirst p f l ≠ [] := by
  cases l with
  | nil => exact absurd rfl h
  | cons a l => unfold modifyFirst; split_ifs <;> simp

theorem find?_modifyFirst {p : α → Bool} {f : α → α} {l : List α} (keep : ∀ a, p a → p (f a)) :
    (modifyFirst p f l).find? p = (l.find? p).map f := by
  induction l with
  | nil => rfl
  | cons a l ih =>
    by_cases found : p a
    · simp [modifyFirst, found, keep a found]
    · simp [modifyFirst, found, ih]

/-- Two changes of the first element that the predicate selects. -/
theorem modifyFirst_modifyFirst {p : α → Bool} {f g : α → α} {l : List α}
    (keep : ∀ a, p a → p (f a)) :
    modifyFirst p g (modifyFirst p f l) = modifyFirst p (g ∘ f) l := by
  induction l with
  | nil => rfl
  | cons a l ih =>
    by_cases found : p a
    · simp [modifyFirst, found, keep a found]
    · simp [modifyFirst, found, ih]

/-- A change that does nothing to the element found does nothing. -/
theorem modifyFirst_eq_self {p : α → Bool} {f : α → α} {l : List α}
    (h : ∀ a, l.find? p = some a → f a = a) : modifyFirst p f l = l := by
  induction l with
  | nil => rfl
  | cons a l ih =>
    by_cases found : p a
    · simp [modifyFirst, found, h a (by simp [found])]
    · have rest : modifyFirst p f l = l := ih fun b hb => h b (by simpa [found] using hb)
      simp [modifyFirst, found, rest]

/-- Only what a change does to the element found matters. -/
theorem modifyFirst_congr {p : α → Bool} {f g : α → α} {l : List α}
    (h : ∀ a, l.find? p = some a → f a = g a) : modifyFirst p f l = modifyFirst p g l := by
  induction l with
  | nil => rfl
  | cons a l ih =>
    by_cases found : p a
    · simp [modifyFirst, found, h a (by simp [found])]
    · have rest := ih fun b hb => h b (by simpa [found] using hb)
      simp [modifyFirst, found, rest]

/-- What stands behind an element that the predicate selects is not changed. -/
theorem getElem?_modifyFirst_of_lt {p : α → Bool} {f : α → α} {l : List α} {i j : Nat} {b : α}
    (before : j < i) (at' : l[j]? = some b) (selected : p b) :
    (modifyFirst p f l)[i]? = l[i]? := by
  induction l generalizing i j with
  | nil => simp at at'
  | cons a l ih =>
    obtain ⟨i, rfl⟩ : ∃ k, i = k + 1 := ⟨i - 1, by omega⟩
    by_cases found : p a
    · simp [modifyFirst, found]
    · cases j with
      | zero =>
        obtain rfl : a = b := by simpa using at'
        exact absurd selected found
      | succ j =>
        have rest := @ih i j (by omega) (by simpa using at')
        simpa [modifyFirst, found] using rest

theorem getElem?_modifyFirst {p : α → Bool} {f : α → α} {l : List α} {j : Nat} {b : α}
    (at' : l[j]? = some b) : ∃ c, (modifyFirst p f l)[j]? = some c ∧ (c = b ∨ c = f b) := by
  induction l generalizing j with
  | nil => simp at at'
  | cons a l ih =>
    by_cases found : p a
    · cases j with
      | zero =>
        obtain rfl : a = b := by simpa using at'
        exact ⟨f a, by simp [modifyFirst, found], Or.inr rfl⟩
      | succ j => exact ⟨b, by simpa [modifyFirst, found] using at', Or.inl rfl⟩
    · cases j with
      | zero => exact ⟨b, by simpa [modifyFirst, found] using at', Or.inl rfl⟩
      | succ j =>
        obtain ⟨c, hc, which⟩ := @ih j (by simpa using at')
        exact ⟨c, by simpa [modifyFirst, found] using hc, which⟩

/-- What every position keeps is what the element that is changed keeps. -/
theorem forall_getElem?_modifyFirst {p : α → Bool} {f : α → α} {l : List α} {R : α → α → Prop}
    (refl : ∀ a, R a a) :
    (∀ (i : Nat) a, l[i]? = some a → ∃ b, (modifyFirst p f l)[i]? = some b ∧ R a b) ↔
      ∀ a, l.find? p = some a → R a (f a) := by
  induction l with
  | nil => simp
  | cons a l ih =>
    by_cases found : p a
    · simp only [modifyFirst, found, if_true, List.find?_cons_of_pos, Option.some.injEq]
      constructor
      · rintro h b rfl
        simpa using h 0 a rfl
      · intro h i b at'
        cases i with
        | zero =>
          obtain rfl : a = b := by simpa using at'
          exact ⟨f a, rfl, h a rfl⟩
        | succ i => exact ⟨b, by simpa using at', refl b⟩
    · have skip : p a = false := by simpa using found
      simp only [modifyFirst, skip, Bool.false_eq_true, if_false, List.find?_cons]
      rw [← ih]
      constructor
      · intro h i b at'
        simpa using h (i + 1) b (by simpa using at')
      · intro h i b at'
        cases i with
        | zero => exact ⟨b, by simpa using at', refl b⟩
        | succ i => simpa using h i b (by simpa using at')

/-- A change that a projection does not see. -/
theorem map_modifyFirst_eq_self {p : α → Bool} {f : α → α} {l : List α} (v : α → β)
    (h : ∀ a, l.find? p = some a → v (f a) = v a) : (modifyFirst p f l).map v = l.map v := by
  induction l with
  | nil => rfl
  | cons a l ih =>
    by_cases found : p a
    · simp [modifyFirst, found, h a (by simp [found])]
    · have rest := ih fun b hb => h b (by simpa [found] using hb)
      simp [modifyFirst, found, rest]

theorem find?_of_findIdx? {p : α → Bool} {l : List α} {i : Nat} {a : α}
    (first : l.findIdx? p = some i) (at' : l[i]? = some a) : l.find? p = some a := by
  obtain ⟨inside, selected, before⟩ := List.findIdx?_eq_some_iff_getElem.mp first
  obtain ⟨-, rfl⟩ := List.getElem?_eq_some_iff.mp at'
  exact List.find?_eq_some_iff_getElem.mpr ⟨selected, i, inside, rfl, by simpa using before⟩

theorem mem_modifyFirst {p : α → Bool} {f : α → α} {l : List α} {x : α}
    (h : x ∈ modifyFirst p f l) : x ∈ l ∨ ∃ a ∈ l, p a ∧ x = f a := by
  induction l with
  | nil => exact Or.inl h
  | cons a l ih => grind [modifyFirst]

/-- The position of the first element that the predicate selects is the one that changes. -/
theorem getElem?_modifyFirst_findIdx {p : α → Bool} {f : α → α} {l : List α} {i : Nat}
    (first : l.findIdx? p = some i) (j : Nat) :
    (modifyFirst p f l)[j]? = if j = i then l[j]?.map f else l[j]? := by
  induction l generalizing i j with
  | nil => simp at first
  | cons a l ih =>
    by_cases found : p a
    · obtain rfl : 0 = i := by simpa [List.findIdx?_cons, found] using first
      cases j <;> simp [modifyFirst, found]
    · simp only [List.findIdx?_cons, found, Bool.false_eq_true, if_false, Option.map_eq_some_iff] at first
      obtain ⟨k, first, rfl⟩ := first
      cases j with
      | zero => simp [modifyFirst, found]
      | succ j => simpa [modifyFirst, found] using ih first j

/-- A change of the first element found, as an assignment to its position. -/
theorem modifyFirst_eq_set {p : α → Bool} {l : List α} {a : α} (found : l.find? p = some a)
    (f : α → α) :
    ∃ i, l.findIdx? p = some i ∧ l[i]? = some a ∧ modifyFirst p f l = l.set i (f a) := by
  induction l with
  | nil => cases found
  | cons b l ih =>
    by_cases here : p b
    · obtain rfl : b = a := by simpa [here] using found
      exact ⟨0, by simp [List.findIdx?_cons, here], rfl, by simp [modifyFirst, here]⟩
    · obtain ⟨i, first, at', changed⟩ := ih (by simpa [here] using found)
      exact ⟨i + 1, by simp [List.findIdx?_cons, here, first], by simpa using at',
        by simp [modifyFirst, here, changed]⟩

/-- The changed element is found by a predicate that it was the first to satisfy. -/
theorem find?_modifyFirst_of_first {p q : α → Bool} {f : α → α} {l : List α} {a : α}
    (found : l.find? p = some a) (first : l.find? q = some a) (keep : q (f a)) :
    (modifyFirst p f l).find? q = some (f a) := by
  induction l with
  | nil => cases found
  | cons b l ih =>
    by_cases here : p b
    · obtain rfl : b = a := by simpa [here] using found
      simp [modifyFirst, here, keep]
    · rw [List.find?_cons_of_neg (by simpa using here)] at found
      by_cases same : q b
      · obtain rfl : b = a := by simpa [same] using first
        exact absurd (List.find?_some found) here
      · rw [List.find?_cons_of_neg (by simpa using same)] at first
        simp [modifyFirst, here, same, ih found first]

/-- A change seen through a projection. -/
theorem map_modifyFirst {p : α → Bool} {f : α → α} {q : β → Bool} {g : β → β} {l : List α}
    (v : α → β) (select : ∀ a, q (v a) = p a)
    (h : ∀ a, l.find? p = some a → v (f a) = g (v a)) :
    (modifyFirst p f l).map v = modifyFirst q g (l.map v) := by
  induction l with
  | nil => rfl
  | cons a l ih =>
    by_cases found : p a
    · simp [modifyFirst, found, select, h a (by simp [found])]
    · have rest := ih fun b hb => h b (by simpa [found] using hb)
      simp [modifyFirst, found, select, rest]

/-- `sort_by` on a key: insertion keeps the order of equal elements, as the stable sort does. -/
def sortByKey [LE β] [DecidableLE β] (key : α → β) (l : List α) : List α :=
  l.insertionSort fun a b => key a ≤ key b

theorem perm_sortByKey [LE β] [DecidableLE β] (key : α → β) (l : List α) :
    (sortByKey key l).Perm l :=
  List.perm_insertionSort _ l

@[simp] theorem mem_sortByKey [LE β] [DecidableLE β] {key : α → β} {l : List α} {a : α} :
    a ∈ sortByKey key l ↔ a ∈ l :=
  (perm_sortByKey key l).mem_iff

/-- `max_by_key`: a later element replaces the best one unless its key is smaller. -/
def maxByKey [LE β] [DecidableLE β] (key : α → β) : List α → Option α
  | [] => none
  | a :: l => some (l.foldl (fun best x => if key best ≤ key x then x else best) a)

theorem foldl_max_mem [LE β] [DecidableLE β] (key : α → β) (l : List α) (a : α) :
    l.foldl (fun best x => if key best ≤ key x then x else best) a ∈ a :: l := by
  induction l generalizing a with
  | nil => simp
  | cons x l ih =>
    have rest := ih (if key a ≤ key x then x else a)
    split_ifs at rest with h
    · simp only [List.foldl_cons, if_pos h]
      exact List.mem_cons_of_mem a rest
    · simp only [List.foldl_cons, if_neg h]
      rcases List.mem_cons.mp rest with eq | mem
      · simp [eq]
      · simp [mem]

theorem mem_of_maxByKey [LE β] [DecidableLE β] {key : α → β} {l : List α} {a : α}
    (h : maxByKey key l = some a) : a ∈ l := by
  cases l with
  | nil => cases h
  | cons b l =>
    obtain rfl := Option.some.inj h
    exact foldl_max_mem key l b

theorem le_foldl_max [LinearOrder β] (key : α → β) (l : List α) (a : α) : ∀ x ∈ a :: l,
    key x ≤ key (l.foldl (fun best x => if key best ≤ key x then x else best) a) := by
  induction l generalizing a with
  | nil => simp
  | cons y l ih =>
    intro x mem
    have step : ∀ z, z = a ∨ z = y → key z ≤ key (if key a ≤ key y then y else a) := by
      rintro z (rfl | rfl) <;> split_ifs with h <;> grind
    have rest := ih (if key a ≤ key y then y else a)
    rcases List.mem_cons.mp mem with rfl | mem
    · exact (step x (Or.inl rfl)).trans (rest _ (by simp))
    · rcases List.mem_cons.mp mem with rfl | mem
      · exact (step x (Or.inr rfl)).trans (rest _ (by simp))
      · exact rest x (List.mem_cons_of_mem _ mem)

theorem le_of_maxByKey [LinearOrder β] {key : α → β} {l : List α} {a : α}
    (h : maxByKey key l = some a) : ∀ x ∈ l, key x ≤ key a := by
  cases l with
  | nil => cases h
  | cons b l =>
    obtain rfl := Option.some.inj h
    exact le_foldl_max key l b

/-- A change of the elements that their keys do not see. -/
theorem maxByKey_map {γ : Type} [LE γ] [DecidableLE γ] {key : β → γ} {key' : α → γ} {f : α → β}
    (same : ∀ a, key (f a) = key' a) (l : List α) : maxByKey key (l.map f) = (maxByKey key' l).map f := by
  cases l with
  | nil => rfl
  | cons a l =>
    simp only [maxByKey, List.map_cons, Option.map_some, Option.some.injEq]
    induction l generalizing a with
    | nil => rfl
    | cons b l ih =>
      rw [List.map_cons, List.foldl_cons, List.foldl_cons, ← ih]
      simp only [same, apply_ite f]

/-- A last element that no other one outranks is the maximum. -/
theorem maxByKey_append_of_le [LinearOrder β] {key : α → β} {l : List α} {a : α}
    (le : ∀ x ∈ l, key x ≤ key a) : maxByKey key (l ++ [a]) = some a := by
  cases l with
  | nil => rfl
  | cons b l =>
    have best := foldl_max_mem key l b
    simp [maxByKey, List.foldl_append, le _ best]

/-- The `?` operator. -/
theorem bind_eq_ok {ε : Type} {x : Except ε α} {f : α → Except ε β} {b : β} :
    x >>= f = .ok b ↔ ∃ a, x = .ok a ∧ f a = .ok b := by
  cases x <;> simp [bind, Except.bind]

/-- Every result of a fallible map that succeeds comes from an element. -/
theorem mem_of_mapM_ok {ε : Type} {f : α → Except ε β} {l : List α} {out : List β}
    (h : l.mapM f = .ok out) : ∀ y ∈ out, ∃ x ∈ l, f x = .ok y := by
  induction l generalizing out with
  | nil =>
    obtain rfl := Except.ok.inj h
    simp
  | cons x l ih =>
    rw [List.mapM_cons] at h
    cases first : f x with
    | error e => rw [first] at h; cases h
    | ok y =>
      cases rest : l.mapM f with
      | error e => rw [first, rest] at h; cases h
      | ok ys =>
        rw [first, rest] at h
        obtain rfl := Except.ok.inj h
        rw [List.forall_mem_cons]
        refine ⟨⟨x, by simp, first⟩, fun z mem => ?_⟩
        obtain ⟨w, memW, eq⟩ := ih rest z mem
        exact ⟨w, List.mem_cons_of_mem x memW, eq⟩

@[simp] theorem toOption_ok {ε : Type} (x : α) : (Except.ok x : Except ε α).toOption = some x := rfl

@[simp] theorem toOption_error {ε : Type} (e : ε) : (Except.error e : Except ε α).toOption = none :=
  rfl

/-- A fallible map succeeds when it does at every element, and then maps the elements. -/
theorem mapM_eq_ok {ε : Type} {f : α → Except ε β} {l : List α} {out : List β} :
    l.mapM f = .ok out ↔
      (∀ x ∈ l, (f x).toOption.isSome) ∧ out = l.filterMap fun x => (f x).toOption := by
  induction l generalizing out with
  | nil =>
    rw [List.mapM_nil]
    exact ⟨fun h => ⟨by simp, (Except.ok.inj h).symm⟩, fun h => by rw [h.2]; rfl⟩
  | cons x l ih =>
    rw [List.mapM_cons, List.forall_mem_cons]
    cases first : f x with
    | error e => simp [bind, Except.bind]
    | ok y =>
      cases rest : l.mapM f with
      | error e =>
        have fails : ¬ ∀ x ∈ l, (f x).toOption.isSome := fun all => by
          have ok := ih.mpr ⟨all, rfl⟩
          rw [rest] at ok
          cases ok
        simp only [bind, Except.bind, reduceCtorEq, fails, and_false, false_and]
      | ok ys =>
        obtain ⟨all, rfl⟩ := ih.mp rest
        simp only [bind, Except.bind, pure, Except.pure, Except.ok.injEq, List.filterMap_cons, first,
          toOption_ok, Option.isSome_some, true_and]
        exact ⟨fun h => ⟨all, h.symm⟩, fun h => h.2.symm⟩

/-- A loop whose every round checks its element alone. -/
theorem foldlM_eq_ok {ε : Type} {f : β → α → Except ε β} {value : β → α → β} {good : α → Prop}
    (step : ∀ s x out, f s x = .ok out ↔ good x ∧ out = value s x) {l : List α} {start out : β} :
    l.foldlM f start = .ok out ↔ (∀ x ∈ l, good x) ∧ out = l.foldl value start := by
  induction l generalizing start with
  | nil =>
    rw [List.foldlM_nil]
    exact ⟨fun h => ⟨by simp, (Except.ok.inj h).symm⟩, fun h => by rw [h.2]; rfl⟩
  | cons x l ih =>
    rw [List.foldlM_cons, List.forall_mem_cons, List.foldl_cons]
    cases round : f start x with
    | error e =>
      have bad : ¬ good x := fun holds => by
        have ok := (step start x _).mpr ⟨holds, rfl⟩
        rw [round] at ok
        cases ok
      simp [bind, Except.bind, bad]
    | ok next =>
      obtain ⟨holds, rfl⟩ := (step start x next).mp round
      simp only [bind, Except.bind, holds, true_and]
      exact ih

/-- Elements that satisfy a predicate at one position alone. -/
theorem length_filter_le_one {p : α → Bool} {l : List α}
    (same : ∀ (i : Nat) a, l[i]? = some a → p a → ∀ (j : Nat) b, l[j]? = some b → p b → i = j) :
    (l.filter p).length ≤ 1 := by
  induction l with
  | nil => simp
  | cons a l ih =>
    by_cases selected : p a
    · have others : l.filter p = [] := by
        rw [List.filter_eq_nil_iff]
        intro b mem selected'
        obtain ⟨j, at'⟩ := List.getElem?_of_mem mem
        have first := same 0 a rfl selected (j + 1) b at' selected'
        omega
      simp [selected, others]
    · rw [List.filter_cons_of_neg selected]
      refine ih fun i a at' selected j b at'' selected' => ?_
      have next := same (i + 1) a at' selected (j + 1) b at'' selected'
      omega

theorem mem_of_mem_modify {f : α → α} {l : List α} {i : Nat} {a : α}
    (mem : a ∈ l.modify i f) : a ∈ l ∨ ∃ b ∈ l, a = f b := by
  obtain ⟨j, at'⟩ := List.getElem?_of_mem mem
  rw [List.getElem?_modify] at at'
  obtain ⟨b, found, rfl⟩ := Option.map_eq_some_iff.mp at'
  split_ifs
  · exact Or.inr ⟨b, List.mem_of_getElem? found, rfl⟩
  · exact Or.inl (List.mem_of_getElem? found)

end Rust
