import NostrVpn.Rust.Str

/-!
# Splitting and joining texts

`str::split` at a character, and what it makes of a text that `join` built: pieces without the
separator are read back, so a joined text determines them.
-/
namespace Rust

variable {sep : Char}

def splitChars (sep : Char) : List Char → List (List Char)
  | [] => [[]]
  | c :: cs =>
    if c = sep then [] :: splitChars sep cs
    else match splitChars sep cs with
      | [] => [[c]]
      | piece :: pieces => (c :: piece) :: pieces

/-- `str::split`. -/
def split (sep : Char) (s : String) : List String := (splitChars sep s.toList).map String.ofList

theorem splitChars_of_notMem {cs : List Char} (h : sep ∉ cs) : splitChars sep cs = [cs] := by
  induction cs with
  | nil => rfl
  | cons c cs ih =>
    rw [List.mem_cons, not_or] at h
    simp [splitChars, Ne.symm h.1, ih h.2]

theorem splitChars_append {head : List Char} (tail : List Char) (h : sep ∉ head) :
    splitChars sep (head ++ sep :: tail) = head :: splitChars sep tail := by
  induction head with
  | nil => simp [splitChars]
  | cons c head ih =>
    rw [List.mem_cons, not_or] at h
    simp [splitChars, Ne.symm h.1, ih h.2]

theorem splitChars_ne_nil (cs : List Char) : splitChars sep cs ≠ [] := by
  cases cs with
  | nil => simp [splitChars]
  | cons c cs =>
    simp only [splitChars]
    split_ifs
    · simp
    · split <;> simp

/-- A separator in the middle of a text ends a piece. -/
theorem splitChars_append_cons (head tail : List Char) :
    splitChars sep (head ++ sep :: tail) = splitChars sep head ++ splitChars sep tail := by
  induction head with
  | nil => simp [splitChars]
  | cons c head ih =>
    by_cases eq : c = sep
    · simp [splitChars, eq, ih]
    · rw [List.cons_append, splitChars, if_neg eq, ih, splitChars, if_neg eq]
      cases pieces : splitChars sep head with
      | nil => exact absurd pieces (splitChars_ne_nil head)
      | cons piece pieces => rfl

theorem split_of_notMem {s : String} (h : sep ∉ s.toList) : split sep s = [s] := by
  simp [split, splitChars_of_notMem h]

theorem split_append {head : String} (tail : String) (h : sep ∉ head.toList) :
    split sep (head ++ String.singleton sep ++ tail) = head :: split sep tail := by
  have chars : (head ++ String.singleton sep ++ tail).toList = head.toList ++ sep :: tail.toList := by
    simp
  rw [split, chars, splitChars_append _ h]
  simp [split]

theorem split_append_append (head tail : String) :
    split sep (head ++ String.singleton sep ++ tail) = split sep head ++ split sep tail := by
  have chars : (head ++ String.singleton sep ++ tail).toList = head.toList ++ sep :: tail.toList := by
    simp
  rw [split, chars, splitChars_append_cons]
  simp [split]

/-- A text with a separator has a first piece of its own characters, whatever follows it. -/
theorem exists_split_append {s : String} (tail : String) (h : sep ∈ s.toList) :
    ∃ head rest, sep ∉ head.toList ∧ (∀ c ∈ head.toList, c ∈ s.toList) ∧
      split sep (s ++ tail) = head :: rest := by
  obtain ⟨front, back, eq, first⟩ := List.eq_append_cons_of_mem h
  have chars : (s ++ tail).toList = front ++ sep :: (back ++ tail.toList) := by simp [eq]
  refine ⟨.ofList front, (splitChars sep (back ++ tail.toList)).map String.ofList, ?_, ?_, ?_⟩
  · simpa using first
  · intro c mem
    rw [eq]
    exact List.mem_append_left _ (by simpa using mem)
  · rw [split, chars, splitChars_append _ first]
    rfl

/-- What stands before the first piece and has no separator belongs to it. -/
theorem split_prepend {pre t head : String} {rest : List String} (h : sep ∉ pre.toList)
    (eq : split sep t = head :: rest) : split sep (pre ++ t) = (pre ++ head) :: rest := by
  have chars (cs : List Char) (h : sep ∉ cs) {front : List Char} {pieces : List (List Char)}
      (eq : splitChars sep t.toList = front :: pieces) :
      splitChars sep (cs ++ t.toList) = (cs ++ front) :: pieces := by
    induction cs with
    | nil => exact eq
    | cons c cs ih =>
      rw [List.mem_cons, not_or] at h
      simp [splitChars, Ne.symm h.1, ih h.2]
  unfold split at eq ⊢
  cases pieces : splitChars sep t.toList with
  | nil => simp [pieces] at eq
  | cons front pieces' =>
    rw [pieces] at eq
    obtain ⟨rfl, rfl⟩ := List.cons.inj eq
    rw [String.toList_append, chars pre.toList h pieces]
    simp

theorem join_cons (sep : String) {s : String} {l : List String} (h : l ≠ []) :
    join sep (s :: l) = s ++ sep ++ join sep l := by
  cases l with
  | nil => exact absurd rfl h
  | cons t l => rfl

/-- A text that grows by a separator and a piece at a time. -/
theorem join_eq_foldl (sep s : String) (l : List String) :
    join sep (s :: l) = l.foldl (fun text piece => text ++ sep ++ piece) s := by
  induction l generalizing s with
  | nil => rfl
  | cons t l ih =>
    rw [List.foldl_cons, ← ih]
    cases l with
    | nil => rfl
    | cons u l => simp [join, String.append_assoc]

theorem join_split (sep : Char) (s : String) : join (String.singleton sep) (split sep s) = s := by
  have chars (cs : List Char) :
      join (String.singleton sep) ((splitChars sep cs).map String.ofList) = .ofList cs := by
    induction cs with
    | nil => rfl
    | cons c cs ih =>
      have some_piece := @splitChars_ne_nil sep cs
      by_cases eq : c = sep
      · rw [splitChars, if_pos eq, List.map_cons, join_cons _ (by simpa using some_piece), ih]
        refine String.toList_inj.mp ?_
        simp [eq]
      · rw [splitChars, if_neg eq]
        cases pieces : splitChars sep cs with
        | nil => exact absurd pieces some_piece
        | cons piece rest =>
          rw [pieces] at ih
          refine String.toList_inj.mp ?_
          rw [String.toList_ofList, ← @String.toList_ofList cs, ← ih]
          cases rest <;> simp [join]
  rw [split, chars, String.ofList_toList]

theorem split_join {l : List String} (ne : l ≠ []) (h : ∀ s ∈ l, sep ∉ s.toList) :
    split sep (join (String.singleton sep) l) = l := by
  induction l with
  | nil => exact absurd rfl ne
  | cons s l ih =>
    have here := h s List.mem_cons_self
    by_cases last : l = []
    · subst last
      exact split_of_notMem here
    · rw [join_cons _ last, split_append _ here]
      rw [ih last fun t mem => h t (List.mem_cons_of_mem s mem)]

theorem join_injective {l l' : List String} (ne : l ≠ []) (ne' : l' ≠ [])
    (h : ∀ s ∈ l, sep ∉ s.toList) (h' : ∀ s ∈ l', sep ∉ s.toList)
    (eq : join (String.singleton sep) l = join (String.singleton sep) l') : l = l' := by
  rw [← split_join ne h, eq, split_join ne' h']

theorem notMem_join {c : Char} {sep : String} {l : List String} (hs : c ∉ sep.toList)
    (h : ∀ s ∈ l, c ∉ s.toList) : c ∉ (join sep l).toList := by
  induction l with
  | nil => simp [join]
  | cons s l ih =>
    have here := h s List.mem_cons_self
    have rest := ih fun t mem => h t (List.mem_cons_of_mem s mem)
    cases l with
    | nil => exact here
    | cons t l => simpa [join, hs, here] using rest

/-- Two ways to cut a list at its last element outside `P` are the same. -/
theorem append_cons_inj_of_last {α : Type} {P : α → Prop} {xs ys rs ss : List α} {x y : α}
    (hx : ¬P x) (hy : ¬P y) (hr : ∀ r ∈ rs, P r) (hs : ∀ s ∈ ss, P s)
    (eq : xs ++ x :: rs = ys ++ y :: ss) : x = y ∧ rs = ss := by
  rcases List.append_eq_append_iff.mp eq with ⟨mid, -, right⟩ | ⟨mid, -, right⟩
  · cases mid with
    | nil => simpa using right
    | cons z mid =>
      obtain ⟨-, rfl⟩ := List.cons.inj right
      exact absurd (hr y (by simp)) hy
  · cases mid with
    | nil => simpa [eq_comm] using right
    | cons z mid =>
      obtain ⟨-, rfl⟩ := List.cons.inj right
      exact absurd (hs x (by simp)) hx

end Rust
