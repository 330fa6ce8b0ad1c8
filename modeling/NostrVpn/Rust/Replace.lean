import NostrVpn.Rust.Split

/-!
# Searching and replacing in texts

`str::find` and `str::replace` with a text, `str::replace` with a character, and `str::lines`. A text that
was built piece by piece is replaced piece by piece when no match begins in the middle of a piece.
-/
namespace Rust

/-! ## Occurrences -/

/-- What follows the first occurrence. -/
def afterFirst (pat : List Char) : List Char → Option (List Char)
  | [] => if pat = [] then some [] else none
  | c :: cs => if pat.isPrefixOf (c :: cs) then some ((c :: cs).drop pat.length) else afterFirst pat cs

/-- An occurrence does not reach over a character that the pattern lacks. -/
theorem isPrefixOf_append_cons {pat : List Char} {sep : Char} (absent : sep ∉ pat) (head tail : List Char) :
    pat.isPrefixOf (head ++ sep :: tail) = pat.isPrefixOf head := by
  induction pat generalizing head with
  | nil => simp
  | cons p pat ih =>
    rw [List.mem_cons, not_or] at absent
    cases head with
    | nil => simp [List.isPrefixOf, Ne.symm absent.1]
    | cons c head => simp [List.isPrefixOf, ih absent.2]

theorem afterFirst_append_cons {pat : List Char} {sep : Char} (ne : pat ≠ []) (absent : sep ∉ pat)
    (head tail : List Char) :
    afterFirst pat (head ++ sep :: tail) =
      match afterFirst pat head with
      | some rest => some (rest ++ sep :: tail)
      | none => afterFirst pat tail := by
  induction head with
  | nil =>
    have apart : pat.isPrefixOf (sep :: tail) = false := by
      have short := isPrefixOf_append_cons absent [] tail
      rw [List.nil_append] at short
      rw [short]
      cases pat with
      | nil => exact absurd rfl ne
      | cons p pat => rfl
    simp [afterFirst, apart, ne]
  | cons c head ih =>
    have same := isPrefixOf_append_cons absent (c :: head) tail
    simp only [List.cons_append] at same ⊢
    rw [afterFirst, same, afterFirst]
    cases found : pat.isPrefixOf (c :: head) with
    | true =>
      have fits : pat.length ≤ (c :: head).length := (List.isPrefixOf_iff_prefix.mp found).length_le
      simp only [if_true]
      rw [← List.cons_append, List.drop_append_of_le_length fits]
    | false => simpa using ih

/-! ## Replacing -/

/-- `str::replace` of a text that is not empty; the number counts what is left of the match before. -/
def replaceFrom (pat rep : List Char) : Nat → List Char → List Char
  | _, [] => []
  | skip + 1, _ :: cs => replaceFrom pat rep skip cs
  | 0, c :: cs =>
    if pat.isPrefixOf (c :: cs) then rep ++ replaceFrom pat rep (pat.length - 1) cs
    else c :: replaceFrom pat rep 0 cs

def replace (pat rep s : String) : String := .ofList (replaceFrom pat.toList rep.toList 0 s.toList)

/-- `str::replace` of a character. -/
def replaceChar (old : Char) (rep s : String) : String :=
  .ofList (s.toList.flatMap fun c => if c = old then rep.toList else [c])

/-- A text that is built of pieces is replaced piece by piece. -/
theorem replaceFrom_flatMap {pat rep : List Char} {f g : Char → List Char}
    (piece : ∀ c rest, replaceFrom pat rep 0 (f c ++ rest) = g c ++ replaceFrom pat rep 0 rest)
    (s : List Char) : replaceFrom pat rep 0 (s.flatMap f) = s.flatMap g := by
  induction s with
  | nil => simp [replaceFrom]
  | cons c s ih => rw [List.flatMap_cons, piece, ih, List.flatMap_cons]

/-! ## Trimming -/

theorem dropWhile_append_cons {p : Char → Bool} {c : Char} (stays : p c = false) (x y : List Char) :
    (x ++ c :: y).dropWhile p = x.dropWhile p ++ c :: y := by
  induction x with
  | nil => simp [stays]
  | cons d x ih => cases dropped : p d <;> simp [dropped, ih]

theorem rdropWhile_append_cons {p : Char → Bool} {c : Char} (stays : p c = false) (x y : List Char) :
    (x ++ c :: y).rdropWhile p = x ++ c :: y.rdropWhile p := by
  simp [List.rdropWhile, dropWhile_append_cons stays]

/-- What stands before a character that stays, and after it, is trimmed by itself. -/
theorem trim_append_cons {c : Char} (stays : isWhitespace c = false) (x y : List Char) :
    trim (.ofList (x ++ c :: y)) =
      .ofList (x.dropWhile isWhitespace ++ c :: y.rdropWhile isWhitespace) := by
  rw [trim, String.toList_ofList, dropWhile_append_cons stays, rdropWhile_append_cons stays]

theorem dropWhile_whitespace {pad : List Char} (blank : ∀ c ∈ pad, isWhitespace c = true) :
    pad.dropWhile isWhitespace = [] := by
  simpa [List.dropWhile_eq_nil_iff] using blank

theorem rdropWhile_whitespace {pad : List Char} (blank : ∀ c ∈ pad, isWhitespace c = true) :
    pad.rdropWhile isWhitespace = [] := by
  simpa [List.rdropWhile_eq_nil_iff] using blank

/-! ## Splitting -/

theorem splitOnce_ofList {sep : Char} {head : List Char} (whole : sep ∉ head) (tail : List Char) :
    splitOnce sep (.ofList (head ++ sep :: tail)) = some (.ofList head, .ofList tail) := by
  rw [splitOnce, String.toList_ofList, span_notMem tail whole]

theorem stripPrefix_ofList (pre : String) (l : List Char) :
    stripPrefix pre (.ofList (pre.toList ++ l)) = some (.ofList l) := by
  rw [← stripPrefix_append pre (.ofList l)]
  simp

theorem stripPrefix_eq_none {pre s : String} (h : startsWith pre s = false) : stripPrefix pre s = none := by
  rw [stripPrefix, h]
  rfl

/-- A prefix that parts from the head of a text is none of the text. -/
theorem stripPrefix_append_of_apart {pre head : String} (apart : startsWith pre head = false)
    (apart' : startsWith head pre = false) (tail : String) : stripPrefix pre (head ++ tail) = none := by
  refine stripPrefix_eq_none (Bool.eq_false_iff.mpr fun starts => ?_)
  rw [startsWith, List.isPrefixOf_iff_prefix, String.toList_append] at starts
  rcases List.prefix_or_prefix_of_prefix starts (List.prefix_append _ _) with within | within
  · rw [startsWith, List.isPrefixOf_iff_prefix.mpr within] at apart
    cases apart
  · rw [startsWith, List.isPrefixOf_iff_prefix.mpr within] at apart'
    cases apart'

theorem startsWith_ofList (pre : String) (l : List Char) :
    startsWith pre (.ofList (pre.toList ++ l)) = true := by
  simp [startsWith]

/-! ## Lines -/

/-- A carriage return before the line break belongs to it. -/
def stripCarriageReturn (line : List Char) : List Char :=
  if line.getLast? = some '\r' then line.dropLast else line

/-- What follows the last line break is a line unless it is empty. -/
def linesOf : List (List Char) → List (List Char)
  | [] => []
  | [last] => if last = [] then [] else [last]
  | line :: next :: rest => stripCarriageReturn line :: linesOf (next :: rest)

/-- `str::lines`. -/
def lines (s : String) : List String := (linesOf (splitChars '\n' s.toList)).map String.ofList

theorem lines_append {line : String} (rest : String) (whole : '\n' ∉ line.toList) :
    lines (line ++ "\n" ++ rest) = .ofList (stripCarriageReturn line.toList) :: lines rest := by
  have chars : (line ++ "\n" ++ rest).toList = line.toList ++ '\n' :: rest.toList := by simp
  rw [lines, chars, splitChars_append _ whole]
  cases pieces : splitChars '\n' rest.toList with
  | nil => exact absurd pieces (splitChars_ne_nil _)
  | cons next rest => simp [lines, linesOf, pieces]

theorem stripCarriageReturn_of_notMem {line : List Char} (h : '\r' ∉ line) : stripCarriageReturn line = line := by
  refine if_neg fun last => h ?_
  exact List.mem_of_getLast? last

theorem isPrefix_stripCarriageReturn (line : List Char) : stripCarriageReturn line <+: line := by
  unfold stripCarriageReturn
  split_ifs
  · exact List.dropLast_prefix line
  · exact List.prefix_refl line

/-- Lines, each ended by a line break. -/
def unlines (ls : List String) : String := ls.foldr (fun line rest => line ++ "\n" ++ rest) ""

theorem lines_unlines {ls : List String} (whole : ∀ line ∈ ls, '\n' ∉ line.toList) :
    lines (unlines ls) = ls.map fun line => .ofList (stripCarriageReturn line.toList) := by
  induction ls with
  | nil => rfl
  | cons line ls ih =>
    rw [unlines, List.foldr_cons, ← unlines, lines_append _ (whole line List.mem_cons_self),
      ih fun other mem => whole other (List.mem_cons_of_mem _ mem)]
    rfl

end Rust
