import NostrVpn.Rust.Split

/-!
# What a joined text determines

A text that is joined from pieces without the separator determines them when their number is known. When it is
not, only a single nonempty piece is determined: an empty text comes from no piece and from an empty one, and
any other text is also a piece of its own.
-/
namespace Rust

variable {sep : Char} {l l' : List String}

/-! ## Counting separators -/

theorem length_splitChars (cs : List Char) : (splitChars sep cs).length = cs.count sep + 1 := by
  induction cs with
  | nil => rfl
  | cons c cs ih =>
    by_cases eq : c = sep
    · simp [splitChars, eq, ih]
    · rw [splitChars, if_neg eq, List.count_cons_of_ne eq]
      cases pieces : splitChars sep cs with
      | nil => exact absurd pieces (splitChars_ne_nil cs)
      | cons piece rest => simpa [pieces] using ih

theorem length_split (s : String) : (split sep s).length = s.toList.count sep + 1 := by
  simp [split, length_splitChars]

theorem count_join_cons {s : String} (ne : l ≠ []) : (join (.singleton sep) (s :: l)).toList.count sep =
    s.toList.count sep + 1 + (join (.singleton sep) l).toList.count sep := by
  simp [join_cons _ ne]
  omega

theorem length_le_count_join (l : List String) : l.length ≤ (join (.singleton sep) l).toList.count sep + 1 := by
  induction l with
  | nil => simp
  | cons s l ih =>
    by_cases last : l = []
    · simp [last]
    · rw [count_join_cons last, List.length_cons]
      omega

/-- A joined text with fewer separators than pieces has none inside a piece. -/
theorem notMem_of_count_join (few : (join (.singleton sep) l).toList.count sep < l.length) :
    ∀ s ∈ l, sep ∉ s.toList := by
  induction l with
  | nil => simp
  | cons s l ih =>
    by_cases last : l = []
    · subst last
      have none' : s.toList.count sep = 0 := by simpa [join] using few
      simpa using List.count_eq_zero.mp none'
    · have rest := @length_le_count_join sep l
      rw [count_join_cons last, List.length_cons] at few
      have none' : s.toList.count sep = 0 := by omega
      exact List.forall_mem_cons.mpr ⟨List.count_eq_zero.mp none', ih (by omega)⟩

/-- The number of a character in a joined text, from below. -/
theorem mul_length_le_count_join {c : Char} {n : Nat} (sep : String) (each : ∀ s ∈ l, n ≤ s.toList.count c) :
    n * l.length ≤ (join sep l).toList.count c := by
  induction l with
  | nil => simp
  | cons s l ih =>
    obtain ⟨here, rest⟩ := List.forall_mem_cons.mp each
    by_cases last : l = []
    · simpa [last, join] using here
    · have below := ih rest
      rw [join_cons _ last]
      simp only [String.toList_append, List.count_append, List.length_cons, Nat.mul_succ]
      omega

theorem exists_cut {s : String} (mem : sep ∈ s.toList) :
    ∃ head tail, s = head ++ String.singleton sep ++ tail ∧ sep ∉ head.toList := by
  obtain ⟨front, back, eq, first⟩ := List.eq_append_cons_of_mem mem
  refine ⟨.ofList front, .ofList back, ?_, by simpa using first⟩
  rw [← String.toList_inj, eq]
  simp

/-! ## Lists of a known length -/

/-- Pieces without the separator are determined among the lists of their length. -/
theorem join_eq_join_of_length (clean : ∀ s ∈ l, sep ∉ s.toList) (length : l'.length = l.length)
    (eq : join (.singleton sep) l' = join (.singleton sep) l) : l' = l := by
  by_cases empty : l = []
  · subst empty
    simpa using length
  · have ne' : l' ≠ [] := by
      rintro rfl
      exact empty (by simpa using length.symm)
    have few : (join (.singleton sep) l).toList.count sep + 1 = l.length := by
      rw [← length_split, split_join empty clean]
    refine join_injective ne' empty (notMem_of_count_join ?_) clean eq
    rw [eq]
    omega

/-! ## Lists of any length -/

/-- A text without the separator that is not empty is joined from itself only. -/
theorem eq_singleton_of_join {t : String} (clean : sep ∉ t.toList) (nonempty : t ≠ "")
    (eq : join (.singleton sep) l = t) : l = [t] := by
  have ne : l ≠ [] := by
    rintro rfl
    exact nonempty eq.symm
  have length := @length_le_count_join sep l
  rw [eq, List.count_eq_zero.mpr clean] at length
  have positive := List.length_pos_iff.mpr ne
  obtain ⟨s, rfl⟩ := List.length_eq_one_iff.mp (le_antisymm length positive)
  exact congrArg (fun s => [s]) eq

/-- Any other list shares its text. -/
theorem exists_other_list (other : ¬ ∃ t, l = [t] ∧ t ≠ "" ∧ sep ∉ t.toList) :
    ∃ l', join (.singleton sep) l' = join (.singleton sep) l ∧ l' ≠ l := by
  match l with
  | [] => exact ⟨[""], rfl, by simp⟩
  | [t] =>
    by_cases empty : t = ""
    · exact ⟨[], empty.symm, by simp⟩
    · have mem : sep ∈ t.toList := by
        by_contra clean
        exact other ⟨t, rfl, empty, clean⟩
      obtain ⟨head, tail, rfl, -⟩ := exists_cut mem
      exact ⟨[head, tail], rfl, by simp⟩
  | s :: t :: l => exact ⟨[join (.singleton sep) (s :: t :: l)], rfl, by simp⟩

/-! ## Sorted lists -/

theorem length_lt_join {x : String} (two : 2 ≤ l.length) (mem : x ∈ l) :
    x.toList.length < (join (.singleton sep) l).toList.length := by
  induction l with
  | nil => simp at mem
  | cons s l ih =>
    have ne : l ≠ [] := by
      rintro rfl
      simp at two
    rw [join_cons _ ne]
    simp only [String.toList_append, List.length_append, String.toList_singleton, List.length_singleton]
    rcases List.mem_cons.mp mem with rfl | inside
    · omega
    · match l with
      | [t] =>
        obtain rfl := List.mem_singleton.mp inside
        simp only [join]
        omega
      | t :: u :: l =>
        have below := ih (by simp) inside
        omega

theorem le_append (s t : String) : s ≤ s ++ t := by
  refine String.not_lt.mp fun less => ?_
  have chars : (s ++ t).toList < s.toList := less
  rw [String.toList_append] at chars
  exact List.le_append_left chars

theorem sort_pair {head tail : String} (sorted : head ≤ tail) : sort [head, tail] = [head, tail] := by
  simp [sort, sorted]

theorem perm_sort (l : List String) : (sort l).Perm l := List.perm_insertionSort _ l

theorem pairwise_sort (l : List String) : (sort l).Pairwise (· ≤ ·) := List.pairwise_insertionSort _ l

/-- A text that is joined from sorted pieces in no other way: at each separator what follows is smaller. -/
def CutsDescend (sep : Char) (t : String) : Prop :=
  ∀ head tail, t = head ++ String.singleton sep ++ tail → tail < head

theorem eq_singleton_of_join_sort {t : String} (nonempty : t ≠ "") (descend : CutsDescend sep t)
    (eq : join (.singleton sep) (sort l) = t) : l = [t] := by
  have perm := perm_sort l
  have sorted := pairwise_sort l
  match parts : sort l with
  | [] =>
    rw [parts] at eq
    exact absurd eq.symm nonempty
  | [s] =>
    rw [parts] at eq perm
    rw [List.perm_singleton.mp perm.symm]
    exact congrArg (fun s => [s]) eq
  | s :: u :: rest =>
    rw [parts] at eq sorted
    rw [join_cons _ (by simp)] at eq
    have less := descend _ _ eq.symm
    have first : s ≤ u := (List.pairwise_cons.mp sorted).1 u (by simp)
    have next : u ≤ join (.singleton sep) (u :: rest) := by
      match rest with
      | [] => exact String.le_refl u
      | v :: rest =>
        rw [join_cons _ (by simp), String.append_assoc]
        exact le_append u _
    exact absurd less (String.not_lt.mpr (String.le_trans first next))

/-- Any other list shares the text of its sorted elements with a list of other elements. -/
theorem exists_other_sorted (other : ¬ ∃ t, l = [t] ∧ t ≠ "" ∧ CutsDescend sep t) :
    ∃ l', join (.singleton sep) (sort l') = join (.singleton sep) (sort l) ∧ ¬ ∀ t, t ∈ l' ↔ t ∈ l := by
  match l with
  | [] => exact ⟨[""], rfl, fun same => by simpa using same ""⟩
  | [t] =>
    by_cases empty : t = ""
    · exact ⟨[], empty.symm, fun same => by simpa using same t⟩
    · have ascends : ¬ CutsDescend sep t := fun descend => other ⟨t, rfl, empty, descend⟩
      simp only [CutsDescend, not_forall, String.not_lt] at ascends
      obtain ⟨head, tail, cut, sorted⟩ := ascends
      refine ⟨[head, tail], by rw [sort_pair sorted, cut]; rfl, fun same => ?_⟩
      have whole : head = t := by simpa using (same head).mp (by simp)
      have lengths := congrArg (fun s => s.toList.length) (whole.trans cut)
      simp at lengths
  | s :: u :: rest =>
    refine ⟨[join (.singleton sep) (sort (s :: u :: rest))], rfl, fun same => ?_⟩
    have inside := (same (join (.singleton sep) (sort (s :: u :: rest)))).mp (by simp)
    have two : 2 ≤ (sort (s :: u :: rest)).length := by
      rw [(perm_sort _).length_eq]
      simp
    have less := @length_lt_join sep _ _ two (mem_sort.mpr inside)
    exact absurd less (lt_irrefl _)

/-! ## A marker between two texts -/

/-- A marker that starts with a character of its own is found where the text was joined, when it is in neither
part. -/
theorem cut_at_marker {c : Char} {marker front back front' back' : List Char} (own : c ∉ marker)
    (clean : ∀ pre post, front ≠ pre ++ c :: marker ++ post)
    (clean' : ∀ pre post, back ≠ pre ++ c :: marker ++ post)
    (eq : front' ++ c :: marker ++ back' = front ++ c :: marker ++ back) : front' = front ∧ back' = back := by
  simp only [List.append_assoc, List.cons_append] at eq clean clean'
  rcases List.append_eq_append_iff.mp eq with ⟨mid, rfl, right⟩ | ⟨mid, rfl, right⟩
  · -- the front starts with the other front, so the other marker starts inside it or at its end
    match mid with
    | [] => simpa using right
    | d :: mid =>
      rw [List.cons_append, List.cons.injEq] at right
      obtain ⟨rfl, rest⟩ := right
      rcases List.append_eq_append_iff.mp rest with ⟨post, rfl, -⟩ | ⟨post, rfl, rest⟩
      · exact absurd rfl (clean front' post)
      · match post with
        | [] => exact absurd (by simp) (clean front' [])
        | d :: post =>
          rw [List.cons_append, List.cons.injEq] at rest
          obtain ⟨rfl, -⟩ := rest
          exact absurd (by simp) own
  · match mid with
    | [] => simpa [eq_comm] using right
    | d :: mid =>
      rw [List.cons_append, List.cons.injEq] at right
      obtain ⟨rfl, rest⟩ := right
      rcases List.append_eq_append_iff.mp rest with ⟨post, rfl, rest⟩ | ⟨post, rfl, rest⟩
      · exact absurd (List.append_cancel_left (rest.trans (List.append_assoc ..))) (clean' post back')
      · match post with
        | [] => exact absurd (by simpa using rest.symm) (clean' [] back')
        | d :: post =>
          rw [List.cons_append, List.cons.injEq] at rest
          obtain ⟨rfl, -⟩ := rest
          exact absurd (by simp) own

end Rust
