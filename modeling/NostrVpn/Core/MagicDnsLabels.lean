import NostrVpn.Core.ConfigMagicDns
import NostrVpn.Rust.NetText
import NostrVpn.Rust.Ascii
import Mathlib.Data.List.Chain

/-!
# Valid MagicDNS labels

What `normalize_magic_dns_label` accepts unchanged: up to 63 lower-case letters, digits and single dashes,
with no dash at either end. The labels that the code makes up are of this form.
-/
namespace NostrVpn.Core

open Rust

/-- A label that `normalize_magic_dns_label` leaves as it is. -/
def IsMagicDnsLabel (label : String) : Prop := normalizeMagicDnsLabel label = some label

instance (label : String) : Decidable (IsMagicDnsLabel label) := inferInstanceAs (Decidable (_ = _))

def isLabelChar (c : Char) : Bool := c == '-' || c.isLower || c.isDigit

/-- Characters of labels, with no two dashes in a row. -/
structure LabelChars (cs : List Char) : Prop where
  chars : ∀ c ∈ cs, isLabelChar c
  single : cs.IsChain fun a b => ¬ (a = '-' ∧ b = '-')

structure IsLabelText (cs : List Char) : Prop extends LabelChars cs where
  nonempty : cs ≠ []
  short : cs.length ≤ 63
  first : cs.head? ≠ some '-'
  last : cs.getLast? ≠ some '-'

/-! ## Characters -/

theorem lt_of_isAlphanum {c : Char} (letter : c.isAlphanum) : c.toNat < 128 := by
  have ranges : (decide (c.val ≥ 'A'.val ∧ c.val ≤ 'Z'.val) || (decide (c.val ≥ 'a'.val) && decide (c.val ≤ 'z'.val)) ||
    (decide (c.val ≥ '0'.val) && decide (c.val ≤ '9'.val))) = true := letter
  simp only [Bool.or_eq_true, Bool.and_eq_true, decide_eq_true_eq, UInt32.le_iff_toNat_le, ge_iff_le] at ranges
  simp only [Char.toNat]
  rcases ranges with (⟨-, h⟩ | ⟨-, h⟩) | ⟨-, h⟩
  · exact lt_of_le_of_lt h (by decide)
  · exact lt_of_le_of_lt h (by decide)
  · exact lt_of_le_of_lt h (by decide)

/-- A fact about ASCII characters holds when it does of the first 128. -/
theorem forall_ascii {p : Char → Prop} (all : ∀ n < 128, p (Char.ofNat n)) {c : Char}
    (ascii : c.toNat < 128) : p c := by
  have self := all c.toNat ascii
  rwa [Char.ofNat_toNat] at self

theorem isLabelChar_toLower {c : Char} (letter : c.isAlphanum) : isLabelChar c.toLower :=
  forall_ascii (p := fun c => c.isAlphanum → isLabelChar c.toLower) (by decide +kernel)
    (lt_of_isAlphanum letter) letter

theorem toLower_ne_dash {c : Char} (letter : c.isAlphanum) : c.toLower ≠ '-' :=
  forall_ascii (p := fun c => c.isAlphanum → c.toLower ≠ '-') (by decide +kernel)
    (lt_of_isAlphanum letter) letter

theorem isAlphanum_of_isLabelChar {c : Char} (label : isLabelChar c) (other : c ≠ '-') : c.isAlphanum := by
  simp only [isLabelChar, Bool.or_eq_true, beq_iff_eq, other, false_or] at label
  have ranges : c.isAlphanum = (c.isUpper || c.isLower || c.isDigit) := rfl
  grind

theorem toLower_of_isLabelChar {c : Char} (label : isLabelChar c) (other : c ≠ '-') : c.toLower = c :=
  forall_ascii (p := fun c => isLabelChar c → c.toLower = c) (by decide +kernel)
    (lt_of_isAlphanum (isAlphanum_of_isLabelChar label other)) label

/-! ## The loop -/

theorem labelChars_cons {c : Char} {cs : List Char} :
    LabelChars (c :: cs) ↔ isLabelChar c ∧ ¬ (c = '-' ∧ cs.head? = some '-') ∧ LabelChars cs := by
  constructor
  · rintro ⟨chars, single⟩
    obtain ⟨head, rest⟩ := List.isChain_cons.mp single
    exact ⟨chars c (by simp), fun ⟨here, next⟩ => head '-' next ⟨here, rfl⟩,
      fun c' mem => chars c' (List.mem_cons_of_mem _ mem), rest⟩
  · rintro ⟨char, dashes, chars, single⟩
    refine ⟨List.forall_mem_cons.mpr ⟨char, chars⟩, List.isChain_cons.mpr ⟨fun next head => ?_, single⟩⟩
    rintro ⟨here, rfl⟩
    exact dashes ⟨here, head⟩

/-- The loop writes characters of labels, no dash after a dash. -/
theorem labelChars_magicDnsChars (previousDash : Bool) (cs : List Char) :
    LabelChars (magicDnsChars previousDash cs) ∧
      (previousDash → (magicDnsChars previousDash cs).head? ≠ some '-') := by
  induction cs generalizing previousDash with
  | nil => exact ⟨⟨by simp [magicDnsChars], .nil⟩, by simp [magicDnsChars]⟩
  | cons c cs ih =>
    unfold magicDnsChars
    split_ifs with letter dash
    · obtain ⟨rest, -⟩ := ih false
      have other := toLower_ne_dash letter
      refine ⟨labelChars_cons.mpr ⟨isLabelChar_toLower letter, fun both => other both.1, rest⟩, fun _ => ?_⟩
      simpa using other
    · obtain ⟨rest, head⟩ := ih true
      exact ⟨rest, fun _ => head rfl⟩
    · obtain ⟨rest, head⟩ := ih true
      refine ⟨labelChars_cons.mpr ⟨by decide, fun both => head rfl both.2, rest⟩, fun dash' => ?_⟩
      exact absurd dash' dash

theorem magicDnsChars_eq_self {previousDash : Bool} {cs : List Char} (label : LabelChars cs)
    (dash : previousDash → cs.head? ≠ some '-') : magicDnsChars previousDash cs = cs := by
  induction cs generalizing previousDash with
  | nil => rfl
  | cons c cs ih =>
    obtain ⟨char, dashes, rest⟩ := labelChars_cons.mp label
    unfold magicDnsChars
    by_cases here : c = '-'
    · subst here
      have first : previousDash = false := by
        cases previousDash with
        | false => rfl
        | true => exact absurd rfl (dash rfl)
      have later := @ih true rest fun _ head => dashes ⟨rfl, head⟩
      rw [if_neg (by decide), first, if_neg (by decide), later]
    · rw [if_pos (isAlphanum_of_isLabelChar char here), toLower_of_isLabelChar char here,
        ih rest (by simp)]

/-! ## Labels -/

theorem LabelChars.part {cs part : List Char} (label : LabelChars cs) (inside : part <:+: cs) :
    LabelChars part := by
  refine ⟨fun c mem => label.chars c (inside.subset mem), ?_⟩
  obtain ⟨front, back, rfl⟩ := inside
  exact label.single.left_of_append.right_of_append

theorem dropDashes_inside (cs : List Char) :
    (cs.rdropWhile (· == '-')).dropWhile (· == '-') <:+: cs :=
  (List.dropWhile_suffix _).isInfix.trans ( List.rdropWhile_prefix _ _).isInfix

theorem head?_dropWhile_dash (cs : List Char) : (cs.dropWhile (· == '-')).head? ≠ some '-' := by
  intro head
  have first := List.head?_dropWhile_not (· == '-') cs
  rw [head] at first
  simp at first

theorem getLast?_rdropWhile_dash (cs : List Char) : (cs.rdropWhile (· == '-')).getLast? ≠ some '-' := by
  intro last
  have nonempty : cs.rdropWhile (· == '-') ≠ [] := by
    rintro none'
    rw [none'] at last
    cases last
  have other := List.rdropWhile_last_not (· == '-') cs nonempty
  rw [List.getLast?_eq_some_getLast nonempty, Option.some.injEq] at last
  exact other (by rw [last]; rfl)

/-- The first characters of a label, without dashes at the end. -/
theorem labelChars_cut {cs : List Char} (label : LabelChars cs) (first : cs.head? ≠ some '-') (n : Nat) :
    LabelChars ((cs.take n).rdropWhile (· == '-')) ∧
      ((cs.take n).rdropWhile (· == '-')).head? ≠ some '-' ∧
      ((cs.take n).rdropWhile (· == '-')).length ≤ n := by
  have cut := List.rdropWhile_prefix (· == '-') (cs.take n)
  have start := cut.trans ( List.take_prefix n cs)
  refine ⟨label.part start.isInfix, fun head => ?_, cut.length_le.trans (by simp)⟩
  obtain ⟨rest, split⟩ := start
  rw [← split, List.head?_append, head, Option.some_or] at first
  exact first rfl

theorem cut_ne_nil {cs : List Char} (nonempty : cs ≠ []) (first : cs.head? ≠ some '-') {n : Nat} (some' : 0 < n) :
    (cs.take n).rdropWhile (· == '-') ≠ [] := by
  obtain ⟨c, rest, rfl⟩ := List.exists_cons_of_ne_nil nonempty
  obtain ⟨m, rfl⟩ : ∃ m, n = m + 1 := ⟨n - 1, by omega⟩
  have other : c ≠ '-' := by simpa using first
  rw [ne_eq, List.rdropWhile_eq_nil_iff]
  exact fun all => other (by simpa using all c (by simp))

theorem isLabelText_of_normalize {value label : String} (normal : normalizeMagicDnsLabel value = some label) :
    IsLabelText label.toList := by
  have written := (labelChars_magicDnsChars false value.toList).1.part (dropDashes_inside _)
  have first := head?_dropWhile_dash ((magicDnsChars false value.toList).rdropWhile (· == '-'))
  have last : (((magicDnsChars false value.toList).rdropWhile (· == '-')).dropWhile (· == '-')).getLast? ≠
      some '-' := by
    obtain ⟨front, split⟩ := List.dropWhile_suffix
      (l := (magicDnsChars false value.toList).rdropWhile (· == '-')) (· == '-')
    intro last
    have whole := getLast?_rdropWhile_dash (magicDnsChars false value.toList)
    rw [← split, List.getLast?_append, last, Option.some_or] at whole
    exact whole rfl
  unfold normalizeMagicDnsLabel at normal
  generalize ((magicDnsChars false value.toList).rdropWhile (· == '-')).dropWhile (· == '-') = cs at *
  dsimp only at normal
  split_ifs at normal with long empty empty
  · obtain rfl := Option.some.inj normal
    rw [String.toList_ofList]
    obtain ⟨label, first, short⟩ := labelChars_cut written first 63
    exact ⟨label, empty, short, first, getLast?_rdropWhile_dash _⟩
  · obtain rfl := Option.some.inj normal
    rw [String.toList_ofList]
    exact ⟨written, empty, by omega, first, last⟩

theorem isMagicDnsLabel_ofList {cs : List Char} (text : IsLabelText cs) : IsMagicDnsLabel (.ofList cs) := by
  have back : cs.rdropWhile (· == '-') = cs := by
    refine List.rdropWhile_eq_self_iff.mpr fun nonempty dash => text.last ?_
    rw [List.getLast?_eq_some_getLast nonempty]
    exact congrArg some (by simpa using dash)
  have front : cs.dropWhile (· == '-') = cs := by
    refine List.dropWhile_eq_self_iff.mpr fun nonempty dash => text.first ?_
    rw [List.head?_eq_getElem?, List.getElem?_eq_getElem nonempty]
    exact congrArg some (by simpa using dash)
  have short := text.short
  have loop : magicDnsChars false cs = cs := magicDnsChars_eq_self text.toLabelChars (by simp)
  have whole : ¬ 63 < cs.length := by omega
  simp only [IsMagicDnsLabel, normalizeMagicDnsLabel, String.toList_ofList, loop, back, front, whole,
    text.nonempty, if_false]

theorem isMagicDnsLabel_iff {label : String} : IsMagicDnsLabel label ↔ IsLabelText label.toList := by
  constructor
  · exact isLabelText_of_normalize
  · intro text
    have normal := isMagicDnsLabel_ofList text
    rwa [String.ofList_toList] at normal

/-- What `normalize_magic_dns_label` returns is a label. -/
theorem isMagicDnsLabel_of_normalize {value label : String}
    (normal : normalizeMagicDnsLabel value = some label) : IsMagicDnsLabel label :=
  isMagicDnsLabel_iff.mpr (isLabelText_of_normalize normal)

theorem length_of_isMagicDnsLabel {label : String} (valid : IsMagicDnsLabel label) : label.length ≤ 63 := by
  rw [← String.length_toList]
  exact (isMagicDnsLabel_iff.mp valid).short

/-! ## A label with a counter -/

theorem utf8ByteSize_of_ascii {cs : List Char} (ascii : ∀ c ∈ cs, c.toNat < 128) :
    (String.ofList cs).utf8ByteSize = cs.length := by
  induction cs with
  | nil => rfl
  | cons c cs ih =>
    have one : c.utf8Size = 1 := by
      have small := ascii c (by simp)
      rw [Char.utf8Size_eq_one_iff, UInt32.le_iff_toNat_le]
      exact Nat.le_of_lt_succ small
    have rest := ih fun c' mem => ascii c' (List.mem_cons_of_mem _ mem)
    rw [String.ofList_cons, String.utf8ByteSize_append, String.utf8ByteSize_singleton, one, rest,
      List.length_cons, Nat.add_comm]

theorem lt_of_isLabelChar {c : Char} (char : isLabelChar c) : c.toNat < 128 := by
  by_cases dash : c = '-'
  · subst dash
    decide
  · exact lt_of_isAlphanum (isAlphanum_of_isLabelChar char dash)

/-- The digits of a number are characters of labels other than the dash. -/
theorem digit_of_mem_fmtRadix {n : Nat} {c : Char} (mem : c ∈ fmtRadix 10 n) : isLabelChar c ∧ c ≠ '-' := by
  obtain ⟨value, digit⟩ := Option.isSome_iff_exists.mp
    (@toDigit_of_mem_fmtRadix 10 (by decide) (by decide) n c mem)
  have range : 48 ≤ c.toNat ∧ c.toNat ≤ 57 := by
    unfold toDigit at digit
    grind
  refine ⟨?_, ?_⟩
  · simp [isLabelChar, Char.isDigit, UInt32.le_iff_toNat_le]
    exact Or.inr range
  · rintro rfl
    exact absurd range (by decide)

/-- What stands behind the last dash of a text. -/
theorem word_of_append {cs cs' word word' : List Char} (dashless : '-' ∉ word) (dashless' : '-' ∉ word')
    (same : cs ++ '-' :: word = cs' ++ '-' :: word') : cs = cs' ∧ word = word' := by
  rcases List.append_eq_append_iff.mp same with ⟨between, rfl, eq⟩ | ⟨between, rfl, eq⟩
  · cases between with
    | nil => exact ⟨by simp, by simpa using eq⟩
    | cons c between =>
      obtain ⟨-, rfl⟩ := List.cons.inj eq
      exact absurd (by simp) dashless
  · cases between with
    | nil => exact ⟨by simp, by simpa using eq.symm⟩
    | cons c between =>
      obtain ⟨-, rfl⟩ := List.cons.inj eq
      exact absurd (by simp) dashless'

theorem labelChars_of_no_dash {cs : List Char} (chars : ∀ c ∈ cs, isLabelChar c ∧ c ≠ '-') : LabelChars cs := by
  induction cs with
  | nil => exact ⟨by simp, .nil⟩
  | cons c cs ih =>
    obtain ⟨char, other⟩ := chars c (by simp)
    exact labelChars_cons.mpr ⟨char, fun both => other both.1,
      ih fun c' mem => chars c' (List.mem_cons_of_mem _ mem)⟩

/-- A text of label characters keeps its dash when a word follows. -/
theorem labelChars_append {cs word : List Char} (label : LabelChars cs) (last : cs.getLast? ≠ some '-')
    (chars : ∀ c ∈ word, isLabelChar c ∧ c ≠ '-') : LabelChars (cs ++ '-' :: word) := by
  have head : word.head? ≠ some '-' := fun head => (chars '-' (List.mem_of_mem_head? head)).2 rfl
  have tail : LabelChars ('-' :: word) :=
    labelChars_cons.mpr ⟨by decide, fun both => head both.2, labelChars_of_no_dash chars⟩
  refine ⟨fun c mem => ?_, ?_⟩
  · rcases List.mem_append.mp mem with mem | mem
    · exact label.chars c mem
    · exact tail.chars c mem
  · rw [List.isChain_append]
    exact ⟨label.single, tail.single, fun x before y _ both => last (both.1 ▸ before)⟩

/-- A label text with a dash and a word without dashes behind it, when it is not too long. -/
theorem isLabelText_append {cs word : List Char} (label : LabelChars cs) (nonempty : cs ≠ [])
    (first : cs.head? ≠ some '-') (last : cs.getLast? ≠ some '-')
    (chars : ∀ c ∈ word, isLabelChar c ∧ c ≠ '-') (some' : word ≠ [])
    (short : cs.length + 1 + word.length ≤ 63) : IsLabelText (cs ++ '-' :: word) := by
  refine ⟨labelChars_append label last chars, by simp, by simp; omega, ?_, ?_⟩
  · obtain ⟨c, rest, rfl⟩ := List.exists_cons_of_ne_nil nonempty
    simpa using first
  · rw [List.getLast?_append, List.getLast?_cons_of_ne_nil some', List.getLast?_eq_some_getLast some',
      Option.some_or]
    exact fun dash => (chars '-' (Option.some.inj dash ▸ List.getLast_mem some')).2 rfl

theorem dash_notMem_fmtRadix (n : Nat) : '-' ∉ fmtRadix 10 n := fun mem => (digit_of_mem_fmtRadix mem).2 rfl

theorem toList_append_counter (base : String) (counter : Nat) :
    (base ++ ("-" ++ fmtNat counter)).toList = base.toList ++ '-' :: fmtRadix 10 counter := by
  simp [fmtNat]

/-- Candidates for a label differ in their counters. -/
theorem magicDnsCandidate_injective (base : String) : Function.Injective (magicDnsCandidate base) := by
  have text (counter : Nat) :
      ∃ cs, (magicDnsCandidate base counter).toList = cs ++ '-' :: fmtRadix 10 counter := by
    unfold magicDnsCandidate
    dsimp only
    exact ⟨_, toList_append_counter _ counter⟩
  intro counter counter' same
  obtain ⟨cs, eq⟩ := text counter
  obtain ⟨cs', eq'⟩ := text counter'
  rw [same, eq'] at eq
  have digits := (word_of_append (dash_notMem_fmtRadix _) (dash_notMem_fmtRadix _) eq).2
  exact fmtNat_injective (congrArg String.ofList digits).symm

/-- The characters before the counter of a candidate: the base, cut to leave room for the counter. -/
theorem exists_candidate_text {base : String} (chars : ∀ c ∈ base.toList, isLabelChar c)
    (nonempty : base.toList ≠ []) (first : base.toList.head? ≠ some '-')
    (last : base.toList.getLast? ≠ some '-') {counter : Nat} (small : counter < 10000) :
    ∃ cs, magicDnsCandidate base counter = .ofList (cs ++ '-' :: fmtRadix 10 counter) ∧ cs <+: base.toList ∧
      cs ≠ [] ∧ cs.getLast? ≠ some '-' ∧ cs.length + 1 + (fmtRadix 10 counter).length ≤ 63 := by
  have digits : (fmtRadix 10 counter).length ≤ 4 := length_fmtRadix_le (by decide) (by decide) small
  have suffix : ("-" ++ fmtNat counter).utf8ByteSize = (fmtRadix 10 counter).length + 1 := by
    have eq : "-" ++ fmtNat counter = .ofList ('-' :: fmtRadix 10 counter) := by
      simp [fmtNat]
    rw [eq, utf8ByteSize_of_ascii]
    · simp
    · intro c mem
      rcases List.mem_cons.mp mem with rfl | mem
      · decide
      · exact lt_of_isLabelChar (digit_of_mem_fmtRadix mem).1
  have size : base.utf8ByteSize = base.toList.length := by
    have eq := @utf8ByteSize_of_ascii base.toList fun c mem => lt_of_isLabelChar (chars c mem)
    rwa [String.ofList_toList] at eq
  have candidate (cs : List Char) : String.ofList cs ++ ("-" ++ fmtNat counter) =
      .ofList (cs ++ '-' :: fmtRadix 10 counter) := by
    rw [← String.toList_inj, toList_append_counter, String.toList_ofList, String.toList_ofList]
  unfold magicDnsCandidate
  dsimp only
  rw [suffix, size]
  split_ifs with long
  · have cut := List.rdropWhile_prefix (· == '-') (base.toList.take (63 - ((fmtRadix 10 counter).length + 1)))
    have kept := cut_ne_nil nonempty first (show 0 < 63 - ((fmtRadix 10 counter).length + 1) by omega)
    have room := cut.length_le.trans (List.length_take_le _ _)
    exact ⟨_, candidate _, cut.trans (List.take_prefix _ _), kept, getLast?_rdropWhile_dash _, by omega⟩
  · have whole := candidate base.toList
    rw [String.ofList_toList] at whole
    exact ⟨base.toList, whole, List.prefix_rfl, nonempty, last, by omega⟩

theorem head?_of_start {cs base : List Char} (start : cs <+: base) (nonempty : cs ≠ []) : cs.head? = base.head? := by
  obtain ⟨rest, rfl⟩ := start
  obtain ⟨c, cs, rfl⟩ := List.exists_cons_of_ne_nil nonempty
  rfl

/-- A candidate of `uniquify_magic_dns_label` is a label. -/
theorem isMagicDnsLabel_candidate {base : String} (valid : IsMagicDnsLabel base) {counter : Nat}
    (small : counter < 10000) : IsMagicDnsLabel (magicDnsCandidate base counter) := by
  have text := isMagicDnsLabel_iff.mp valid
  obtain ⟨cs, eq, start, kept, last, room⟩ :=
    exists_candidate_text text.chars text.nonempty text.first text.last small
  rw [eq]
  exact isMagicDnsLabel_ofList (isLabelText_append (text.part start.isInfix) kept
    (head?_of_start start kept ▸ text.first) last (fun c mem => digit_of_mem_fmtRadix mem)
    (fmtRadix_ne_nil 10 counter) room)

/-- A short word of label characters other than dashes is a label. -/
theorem isLabelText_of_word {word : List Char} (letters : word.all fun c => isLabelChar c && c != '-')
    (nonempty : word ≠ []) (short : word.length ≤ 63) : IsLabelText word := by
  have plain : ∀ c ∈ word, isLabelChar c = true ∧ c ≠ '-' := by simpa using letters
  refine ⟨⟨fun c mem => (plain c mem).1, ?_⟩, nonempty, short, fun first => ?_, fun last => ?_⟩
  · exact List.Pairwise.isChain (List.pairwise_of_forall_mem_list
      fun a mem b _ dashes => (plain a mem).2 dashes.1)
  · exact (plain _ (List.mem_of_head? first)).2 rfl
  · exact (plain _ (List.mem_of_getLast? last)).2 rfl

theorem isMagicDnsLabel_animal : ∀ animal ∈ hashtreeAnimalAliases, IsMagicDnsLabel animal := by
  have ascii : ∀ animal ∈ hashtreeAnimalAliases, isAscii animal := by decide +kernel
  have words : ∀ animal ∈ hashtreeAnimalAliases, ((asciiChars animal).all fun c => isLabelChar c && c != '-') ∧
      asciiChars animal ≠ [] ∧ (asciiChars animal).length ≤ 63 := by
    decide +kernel
  intro animal mem
  obtain ⟨letters, nonempty, short⟩ := words animal mem
  rw [isMagicDnsLabel_iff, toList_of_isAscii (ascii animal mem)]
  exact isLabelText_of_word letters nonempty short

/-- The label of a key is an animal or made of its first digits. -/
theorem isMagicDnsLabel_default {sdk : NostrSdk} (hex : sdk.HexKeys) {text key : String}
    (parsed : sdk.parsePublicKey text = .ok key) (sha256 : Sha256) (usedAliases : List String) :
    IsMagicDnsLabel (defaultMagicDnsLabelForPubkey sha256 key usedAliases) := by
  unfold defaultMagicDnsLabelForPubkey
  dsimp only
  generalize _ % hashtreeAnimalAliases.length = index
  cases found : (hashtreeAnimalAliases.drop index ++ hashtreeAnimalAliases.take index).find?
      fun candidate => !usedAliases.contains candidate with
  | some animal =>
    rcases List.mem_append.mp (List.mem_of_find?_eq_some found) with mem | mem
    · exact isMagicDnsLabel_animal animal (List.mem_of_mem_drop mem)
    · exact isMagicDnsLabel_animal animal (List.mem_of_mem_take mem)
  | none =>
    obtain ⟨length, chars⟩ := hex parsed
    have digits : ∀ c ∈ "0123456789abcdef".toList, isLabelChar c ∧ c ≠ '-' := by decide
    have room : (key.toList.take 12).length = 12 := by
      rw [List.length_take, String.length_toList, length]
      rfl
    have peer : LabelChars "peer".toList := labelChars_of_no_dash (by decide)
    have text := isLabelText_append peer (by decide) (by decide) (by decide)
      (fun c mem => digits c (chars c (List.mem_of_mem_take mem)))
      (List.ne_nil_of_length_pos (by rw [room]; decide)) (by rw [room]; decide)
    have eq : "peer-" ++ String.ofList (key.toList.take 12) =
        .ofList ("peer".toList ++ '-' :: key.toList.take 12) := String.toList_inj.mp (by simp)
    rw [Option.getD_none, eq]
    exact isMagicDnsLabel_ofList text

end NostrVpn.Core
