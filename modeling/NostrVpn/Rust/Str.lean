import Mathlib.Data.List.Dedup
import Mathlib.Data.List.DropRight
import Mathlib.Data.List.Sort
import Mathlib.Data.List.TakeDrop
import Mathlib.Data.Nat.Digits.Defs

/-!
# Strings of the Rust standard library

The operations of `str` and of integer parsing and printing, on Lean strings. A `char` of either
language is a Unicode scalar value and both order strings by code point, so equality and `<` agree.
Every operation is a list function on the characters, which keeps it computable in the kernel.
-/
namespace Rust

/-- What holds of every character of a text is decided on the text, not on all characters. -/
instance decidableForallChar {l : List Char} {p : Char → Prop} [DecidablePred p] :
    Decidable (∀ c ∈ l, p c) := List.decidableBAll p l

/-- The Unicode property `White_Space`, as `char::is_whitespace`. -/
def isWhitespace (c : Char) : Bool :=
  let n := c.toNat
  (9 ≤ n && n ≤ 13) || n == 0x20 || n == 0x85 || n == 0xA0 || n == 0x1680 ||
    (0x2000 ≤ n && n ≤ 0x200A) || n == 0x2028 || n == 0x2029 || n == 0x202F || n == 0x205F ||
    n == 0x3000

def trim (s : String) : String :=
  .ofList ((s.toList.dropWhile isWhitespace).rdropWhile isWhitespace)

def trimStartMatches (c : Char) (s : String) : String := .ofList (s.toList.dropWhile (· == c))

def trimEndMatches (c : Char) (s : String) : String := .ofList (s.toList.rdropWhile (· == c))

/-- `str::is_empty` after `str::trim`. -/
def isBlank (s : String) : Bool := trim s == ""

theorem dropWhile_rdropWhile_dropWhile {α : Type} (p : α → Bool) (l : List α) :
    ((l.dropWhile p).rdropWhile p).dropWhile p = (l.dropWhile p).rdropWhile p := by
  cases eq : (l.dropWhile p).rdropWhile p with
  | nil => rfl
  | cons c rest =>
    obtain ⟨tail, split⟩ := List.rdropWhile_prefix p (l.dropWhile p)
    have first := List.head?_dropWhile_not p l
    rw [← split, eq] at first
    have kept : p c = false := by simpa using first
    simp [kept]

@[simp] theorem trim_trim (s : String) : trim (trim s) = trim s := by
  simp only [trim, String.toList_ofList, dropWhile_rdropWhile_dropWhile,
    List.rdropWhile_idempotent]

theorem trim_eq_self {s : String} (h : ∀ c ∈ s.toList, isWhitespace c = false) : trim s = s := by
  have front : s.toList.dropWhile isWhitespace = s.toList :=
    List.dropWhile_eq_self_iff.mpr fun pos => by simp [h _ (List.getElem_mem pos)]
  have back : s.toList.rdropWhile isWhitespace = s.toList :=
    List.rdropWhile_eq_self_iff.mpr fun ne => by simp [h _ (List.getLast_mem ne)]
  rw [trim, front, back, String.ofList_toList]

@[simp] theorem isBlank_trim (s : String) : isBlank (trim s) = isBlank s := by
  simp [isBlank]

/-- `str::split_once` at the first separator. -/
def splitOnce (sep : Char) (s : String) : Option (String × String) :=
  match s.toList.span (· != sep) with
  | (head, _ :: tail) => some (.ofList head, .ofList tail)
  | (_, []) => none

theorem span_notMem {α : Type} [DecidableEq α] {sep : α} {head : List α} (tail : List α)
    (h : sep ∉ head) : (head ++ sep :: tail).span (· != sep) = (head, sep :: tail) := by
  have all : ∀ c ∈ head, (c != sep) = true := by
    intro c hc
    simp only [bne_iff_ne]
    rintro rfl
    exact h hc
  rw [List.span_eq_takeWhile_dropWhile, List.takeWhile_append_of_pos all,
    List.dropWhile_append_of_pos all]
  simp

theorem splitOnce_append {sep : Char} {head : String} (tail : String) (h : sep ∉ head.toList) :
    splitOnce sep (head ++ String.ofList [sep] ++ tail) = some (head, tail) := by
  have chars : (head ++ String.ofList [sep] ++ tail).toList = head.toList ++ sep :: tail.toList := by
    simp
  rw [splitOnce, chars, span_notMem tail.toList h]
  simp

theorem splitOnce_eq_some {sep : Char} {s head tail : String} (h : splitOnce sep s = some (head, tail)) :
    s = head ++ String.ofList [sep] ++ tail ∧ sep ∉ head.toList := by
  unfold splitOnce at h
  rw [List.span_eq_takeWhile_dropWhile] at h
  have parts := List.takeWhile_append_dropWhile (p := (· != sep)) (l := s.toList)
  cases rest : s.toList.dropWhile (· != sep) with
  | nil => simp [rest] at h
  | cons c cs =>
    obtain ⟨rfl, rfl⟩ : String.ofList (s.toList.takeWhile (· != sep)) = head ∧
        String.ofList cs = tail := by simpa [rest] using h
    have stop : c = sep := by
      have first := List.head?_dropWhile_not (· != sep) s.toList
      simpa [rest] using first
    rw [rest, stop] at parts
    refine ⟨String.toList_inj.mp (by simpa using parts.symm), ?_⟩
    intro mem
    have before := List.all_eq_true.mp (List.all_takeWhile (p := (· != sep)) (l := s.toList)) sep
      (by simpa using mem)
    simp at before

/-- `str::rsplit_once`, at the last separator. -/
def rsplitOnce (sep : Char) (s : String) : Option (String × String) :=
  match s.toList.reverse.span (· != sep) with
  | (tail, _ :: head) => some (.ofList head.reverse, .ofList tail.reverse)
  | (_, []) => none

/-- The first piece of `str::split`. -/
def splitFirst (sep : Char) (s : String) : String := .ofList (s.toList.takeWhile (· != sep))

def startsWith (pre s : String) : Bool := pre.toList.isPrefixOf s.toList

def stripPrefix (pre s : String) : Option String :=
  if startsWith pre s then some (.ofList (s.toList.drop pre.length)) else none

@[simp] theorem stripPrefix_append (pre s : String) : stripPrefix pre (pre ++ s) = some s := by
  simp [stripPrefix, startsWith, ← String.length_toList]

/-- `str::contains` of a text. -/
def contains (needle s : String) : Bool := s.toList.tails.any fun tail => needle.toList.isPrefixOf tail

def toAsciiLowercase (s : String) : String := .ofList (s.toList.map Char.toLower)

def eqIgnoreAsciiCase (s t : String) : Bool := toAsciiLowercase s == toAsciiLowercase t

/-- `[String]::join`. -/
def join (sep : String) : List String → String
  | [] => ""
  | [s] => s
  | s :: t :: rest => s ++ sep ++ join sep (t :: rest)

def sort (l : List String) : List String := l.insertionSort (· ≤ ·)

@[simp] theorem mem_sort {l : List String} {s : String} : s ∈ sort l ↔ s ∈ l := by
  simp [sort]

/-- `sort` followed by `dedup`: on a sorted list equal entries are adjacent. -/
def sortDedup (l : List String) : List String := (l.insertionSort (· ≤ ·)).dedup

@[simp] theorem mem_sortDedup {l : List String} {s : String} : s ∈ sortDedup l ↔ s ∈ l := by
  simp [sortDedup]

theorem nodup_sortDedup (l : List String) : (sortDedup l).Nodup := List.nodup_dedup _

theorem sorted_sortDedup (l : List String) : (sortDedup l).Pairwise (· ≤ ·) :=
  (List.pairwise_insertionSort _ l).sublist (List.dedup_sublist _)

/-- Vectors with the same elements sort and deduplicate to the same vector. -/
theorem sortDedup_congr {l l' : List String} (same : ∀ s, s ∈ l ↔ s ∈ l') :
    sortDedup l = sortDedup l' := by
  refine List.Perm.eq_of_pairwise (fun _ _ _ _ => String.le_antisymm) (sorted_sortDedup l)
    (sorted_sortDedup l') ?_
  exact (List.perm_ext_iff_of_nodup (nodup_sortDedup l) (nodup_sortDedup l')).mpr
    fun s => by rw [mem_sortDedup, mem_sortDedup, same]

/-! ## Numbers -/

/-- `char::to_digit`. -/
def toDigit (radix : Nat) (c : Char) : Option Nat :=
  let n := c.toNat
  let v := if 48 ≤ n ∧ n ≤ 57 then n - 48 else if 97 ≤ n ∧ n ≤ 122 then n - 87
    else if 65 ≤ n ∧ n ≤ 90 then n - 55 else radix
  if v < radix then some v else none

/-- The value of a digit string, most significant digit first. -/
def digitsValue (radix : Nat) (cs : List Char) : Option Nat :=
  (cs.mapM (toDigit radix)).map fun ds => Nat.ofDigits radix ds.reverse

/-- An unsigned number may start with a plus sign. -/
def stripPlus : List Char → List Char
  | [] => []
  | c :: cs => if c = '+' then cs else c :: cs

/-- `parse` at an unsigned type with largest value `max`. -/
def parseUnsigned (max : Nat) (s : String) : Option Nat :=
  let cs := stripPlus s.toList
  if cs = [] then none else (digitsValue 10 cs).filter (· ≤ max)

/-- `{}` at radix 10 and `{:x}` at radix 16. -/
def fmtRadix (radix n : Nat) : List Char :=
  if n = 0 then ['0'] else ((Nat.digits radix n).map Nat.digitChar).reverse

def fmtNat (n : Nat) : String := .ofList (fmtRadix 10 n)

def u64Max : Nat := 2 ^ 64 - 1

def saturatingAdd (a b : Nat) : Nat := min (a + b) u64Max

end Rust
