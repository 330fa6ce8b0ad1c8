import NostrVpn.Rust.Net
import Mathlib.Data.Nat.Digits.Lemmas

/-!
# Address texts are read back

Printing an address and parsing the text gives the address again, for `Ipv4Addr`, `Ipv6Addr`,
`IpAddr` and `SocketAddr`. The parsers are stated on a text followed by an arbitrary rest that
cannot extend it, so that they compose.
-/
namespace Rust

variable {radix : Nat}

/-! ## Numbers -/

theorem toDigit_digitChar {d : Nat} (hr : radix ≤ 16) (hd : d < radix) :
    toDigit radix (Nat.digitChar d) = some d := by
  have value : ∀ d < 16, ∀ radix ≤ 16, d < radix → toDigit radix (Nat.digitChar d) = some d := by
    decide
  exact value d (by omega) radix hr hd

theorem mapM_toDigit (hr : radix ≤ 16) (ds : List Nat) (hd : ∀ d ∈ ds, d < radix) :
    (ds.map Nat.digitChar).mapM (toDigit radix) = some ds := by
  induction ds with
  | nil => rfl
  | cons d ds ih =>
    have first := toDigit_digitChar hr (hd d (by simp))
    have rest := ih fun e he => hd e (by simp [he])
    simp [first, rest]

theorem fmtRadix_of_ne_zero {n : Nat} (h : n ≠ 0) :
    fmtRadix radix n = ((Nat.digits radix n).reverse).map Nat.digitChar := by
  simp [fmtRadix, h]

theorem digits_reverse_lt (h1 : 1 < radix) (n : Nat) :
    ∀ d ∈ (Nat.digits radix n).reverse, d < radix := by
  intro d hd
  exact Nat.digits_lt_base h1 (List.mem_reverse.mp hd)

theorem toDigit_zero (h1 : 1 < radix) (hr : radix ≤ 16) : toDigit radix '0' = some 0 :=
  toDigit_digitChar hr (d := 0) (by omega)

theorem digitsValue_fmtRadix (h1 : 1 < radix) (hr : radix ≤ 16) (n : Nat) :
    digitsValue radix (fmtRadix radix n) = some n := by
  by_cases zero : n = 0
  · simp [fmtRadix, digitsValue, toDigit_zero h1 hr, zero]
  · rw [fmtRadix_of_ne_zero zero, digitsValue, mapM_toDigit hr _ (digits_reverse_lt h1 n)]
    simp [Nat.ofDigits_digits]

theorem toDigit_of_mem_fmtRadix (h1 : 1 < radix) (hr : radix ≤ 16) {n : Nat} {c : Char}
    (hc : c ∈ fmtRadix radix n) : (toDigit radix c).isSome := by
  by_cases zero : n = 0
  · obtain rfl : c = '0' := by simpa [fmtRadix, zero] using hc
    simp [toDigit_zero h1 hr]
  · rw [fmtRadix_of_ne_zero zero] at hc
    obtain ⟨d, hd, rfl⟩ := List.mem_map.mp hc
    simp [toDigit_digitChar hr (digits_reverse_lt h1 n d hd)]

theorem fmtRadix_ne_nil (radix n : Nat) : fmtRadix radix n ≠ [] := by
  by_cases zero : n = 0
  · simp [fmtRadix, zero]
  · simpa [fmtRadix_of_ne_zero zero] using Nat.digits_ne_nil_iff_ne_zero.mpr zero

theorem length_fmtRadix_le (h1 : 1 < radix) {n k : Nat} (hk : 0 < k) (hn : n < radix ^ k) :
    (fmtRadix radix n).length ≤ k := by
  by_cases zero : n = 0
  · simp [fmtRadix, zero]; omega
  · simpa [fmtRadix_of_ne_zero zero] using (Nat.digits_length_le_iff h1 n).mpr hn

theorem parseUnsigned_fmtNat {max n : Nat} (h : n ≤ max) :
    parseUnsigned max (fmtNat n) = some n := by
  have strip : stripPlus (fmtRadix 10 n) = fmtRadix 10 n := by
    cases text : fmtRadix 10 n with
    | nil => rfl
    | cons c cs =>
      have mem : c ∈ fmtRadix 10 n := by rw [text]; simp
      have digit := toDigit_of_mem_fmtRadix (by omega) (by omega) mem
      have ne : c ≠ '+' := by rintro rfl; exact absurd digit (by decide)
      simp [stripPlus, ne]
  have value := digitsValue_fmtRadix (by omega) (by omega : 10 ≤ 16) n
  simp [parseUnsigned, fmtNat, strip, fmtRadix_ne_nil, value, h, Option.filter]

theorem fmtNat_injective {m n : Nat} (h : fmtNat m = fmtNat n) : m = n := by
  have left : parseUnsigned (max m n) (fmtNat m) = some m := parseUnsigned_fmtNat (by omega)
  have right : parseUnsigned (max m n) (fmtNat n) = some n := parseUnsigned_fmtNat (by omega)
  rw [h] at left
  exact Option.some.inj (left.symm.trans right)

/-- Only zero is printed with a leading zero. -/
theorem length_fmtRadix_of_head (h1 : 1 < radix) (hr : radix ≤ 16) {n : Nat}
    (h : (fmtRadix radix n).head? = some '0') : (fmtRadix radix n).length = 1 := by
  by_cases zero : n = 0
  · simp [fmtRadix, zero]
  · have nonempty := (Nat.digits_ne_nil_iff_ne_zero (b := radix)).mpr zero
    have digit := toDigit_digitChar hr (Nat.digits_lt_base h1 (List.getLast_mem nonempty))
    rw [fmtRadix_of_ne_zero zero, List.head?_map, List.head?_reverse,
      List.getLast?_eq_some_getLast nonempty] at h
    have char : Nat.digitChar ((Nat.digits radix n).getLast nonempty) = '0' := by simpa using h
    rw [char, toDigit_zero h1 hr] at digit
    exact absurd (Option.some.inj digit).symm (Nat.getLast_digit_ne_zero radix zero)

namespace Net

/-- A rest that does not extend a number of this radix. -/
def Stops (radix : Nat) (rest : List Char) : Prop := ∀ c ∈ rest.head?, toDigit radix c = none

theorem takeWhile_digits (digits : List Char) {rest : List Char}
    (all : ∀ c ∈ digits, (toDigit radix c).isSome) (stops : Stops radix rest) :
    (digits ++ rest).takeWhile (fun c => (toDigit radix c).isSome) = digits := by
  rw [List.takeWhile_append_of_pos all]
  cases rest with
  | nil => simp
  | cons c rest => simp [stops c rfl]

theorem readNumber_fmtRadix (h1 : 1 < radix) (hr : radix ≤ 16) {maxDigits : Option Nat}
    {allowZeroPrefix : Bool} {max n : Nat} {rest : List Char} (bound : n ≤ max)
    (short : ∀ k ∈ maxDigits, 0 < k ∧ n < radix ^ k) (stops : Stops radix rest) :
    readNumber radix maxDigits allowZeroPrefix max (fmtRadix radix n ++ rest) = some (n, rest) := by
  have digits := takeWhile_digits (fmtRadix radix n) (fun _ => toDigit_of_mem_fmtRadix h1 hr) stops
  have fits : ¬ maxDigits.any (· < (fmtRadix radix n).length) := by
    cases maxDigits with
    | none => simp
    | some k =>
      have := length_fmtRadix_le h1 (short k rfl).1 (short k rfl).2
      simp; omega
  have lead : ¬ (!allowZeroPrefix && (fmtRadix radix n).head? == some '0' &&
      decide (1 < (fmtRadix radix n).length)) := by
    intro h
    simp only [Bool.and_eq_true, beq_iff_eq, decide_eq_true_eq] at h
    have := length_fmtRadix_of_head h1 hr h.1.2
    omega
  simp only [readNumber, digits, digitsValue_fmtRadix h1 hr, if_pos bound, List.drop_left]
  rw [if_neg (by simp only [fmtRadix_ne_nil, fits, lead]; simp)]

theorem readNumber_of_stops {maxDigits : Option Nat} {allowZeroPrefix : Bool} {max : Nat}
    {rest : List Char} (stops : Stops radix rest) :
    readNumber radix maxDigits allowZeroPrefix max rest = none := by
  have digits := takeWhile_digits [] (by simp) stops
  rw [List.nil_append] at digits
  simp [readNumber, digits]

/-! ## IPv4 -/

theorem octet_lt (ip : Ipv4Addr) (i : Nat) : ip.octet i < 256 := Nat.mod_lt _ (by omega)

theorem ofOctets_octet (ip : Ipv4Addr) :
    Ipv4Addr.ofOctets (ip.octet 0) (ip.octet 1) (ip.octet 2) (ip.octet 3) = ip := by
  obtain ⟨bits⟩ := ip
  have bound := bits.isLt
  simp only [Ipv4Addr.ofOctets, Ipv4Addr.octet, Ipv4Addr.mk.injEq]
  apply BitVec.eq_of_toNat_eq
  rw [BitVec.toNat_ofNat]
  omega

theorem readOctet_fmt {n : Nat} (hn : n < 256) {rest : List Char} (stops : Stops 10 rest) :
    readOctet (fmtRadix 10 n ++ rest) = some (n, rest) :=
  readNumber_fmtRadix (by omega) (by omega) (by omega) (by intro k hk; simp at hk; subst hk; omega)
    stops

theorem stops_cons {c : Char} {rest : List Char} (h : toDigit radix c = none) :
    Stops radix (c :: rest) := by
  intro d hd
  obtain rfl : c = d := by simpa using hd
  exact h

theorem readIpv4_display (ip : Ipv4Addr) (rest : List Char) (stops : Stops 10 rest) :
    readIpv4 (ip.display ++ rest) = some (ip, rest) := by
  have dot (s : List Char) : Stops 10 ('.' :: s) := stops_cons (by decide)
  simp [readIpv4, Ipv4Addr.display, readSeparator, readChar, readOctet_fmt, octet_lt, dot, stops,
    ofOctets_octet]

/-- An IPv4 address needs a dot. -/
theorem readIpv4_of_notMem {s : List Char} (h : '.' ∉ s) : readIpv4 s = none := by
  have first : ∀ x, readOctet s = some x → readChar '.' x.2 = none := by
    intro x hx
    have drop : ∃ k, x.2 = s.drop k := by
      simp only [readOctet, readNumber] at hx
      split_ifs at hx
      split at hx
      · split_ifs at hx
        exact ⟨_, by rw [← Option.some.inj hx]⟩
      · cases hx
    obtain ⟨k, hk⟩ := drop
    cases eq : x.2 with
    | nil => rfl
    | cons c t =>
      have mem : c ∈ s := List.mem_of_mem_drop (i := k) (by rw [← hk, eq]; simp)
      have ne : c ≠ '.' := by rintro rfl; exact h mem
      simp [readChar, ne]
  simp only [readIpv4, readSeparator, if_true]
  cases eq : readOctet s with
  | none => rfl
  | some x => simp [first x eq]

theorem readIpv4_of_stops {s : List Char} (h : Stops 10 s) : readIpv4 s = none := by
  simp [readIpv4, readSeparator, readOctet, readNumber_of_stops h]

/-! ## IPv6 -/

theorem Stops.mono {small rest} (h : small ≤ radix) (stops : Stops radix rest) :
    Stops small rest := by
  intro c hc
  have none := stops c hc
  simp only [toDigit] at none ⊢
  split_ifs at none ⊢ <;> first | rfl | omega

theorem segment_lt (ip : Ipv6Addr) : ∀ g ∈ ip.segments, g < 65536 := by
  intro g hg
  obtain ⟨i, -, rfl⟩ := List.mem_map.mp hg
  exact Nat.mod_lt _ (by omega)

theorem ofSegments_segments (ip : Ipv6Addr) : Ipv6Addr.ofSegments ip.segments = ip := by
  obtain ⟨bits⟩ := ip
  have bound := bits.isLt
  simp only [Ipv6Addr.ofSegments, Ipv6Addr.segments, Ipv6Addr.mk.injEq]
  apply BitVec.eq_of_toNat_eq
  rw [BitVec.toNat_ofNat]
  simp [List.range_succ, Nat.ofDigits, Ipv6Addr.segment]
  omega

/-- The span is a run of zeros of the list, when it is not empty. -/
def ZeroRun (l : List Nat) (span : Span) : Prop :=
  span.len = 0 ∨ ∃ before after, l = before ++ List.replicate span.len 0 ++ after ∧
    before.length = span.start

theorem ZeroRun.append {l : List Nat} {span : Span} (h : ZeroRun l span) (t : List Nat) :
    ZeroRun (l ++ t) span := by
  rcases h with zero | ⟨before, after, rfl, start⟩
  · exact Or.inl zero
  · exact Or.inr ⟨before, after ++ t, by simp, start⟩

/-- The run the scan is in ends where the scan stands. -/
def OpenRun (l : List Nat) (span : Span) : Prop :=
  ∃ before, l = before ++ List.replicate span.len 0 ∧ (span.len = 0 ∨ before.length = span.start)

theorem OpenRun.zeroRun {l : List Nat} {span : Span} (h : OpenRun l span) : ZeroRun l span := by
  obtain ⟨before, eq, empty | start⟩ := h
  · exact Or.inl empty
  · exact Or.inr ⟨before, [], by simpa using eq, start⟩

theorem OpenRun.extend {l : List Nat} {span : Span} (h : OpenRun l span) :
    OpenRun (l ++ [0]) ⟨if span.len = 0 then l.length else span.start, span.len + 1⟩ := by
  obtain ⟨before, eq, start⟩ := h
  refine ⟨before, by simp [eq, List.replicate_succ'], Or.inr ?_⟩
  rcases start with empty | start
  · simp [eq, empty]
  · by_cases empty : span.len = 0
    · simp [eq, empty]
    · simp [empty, start]

theorem longestZeroes_zeroRun (l : List Nat) : ZeroRun l (longestZeroes l) := by
  suffices h : ∀ acc, acc = l.zipIdx.foldl _ (⟨0, 0⟩, ⟨0, 0⟩) → ZeroRun l acc.1 ∧ OpenRun l acc.2 from
    (h _ rfl).1
  induction l using List.reverseRecOn with
  | nil => rintro acc rfl; exact ⟨Or.inl rfl, [], rfl, Or.inl rfl⟩
  | append_singleton l g ih =>
    rintro acc rfl
    obtain ⟨longest, current⟩ := ih _ rfl
    rw [List.zipIdx_append, List.foldl_append]
    generalize l.zipIdx.foldl _ _ = acc at longest current
    by_cases zero : g = 0
    · subst zero
      have open' := current.extend
      simp only [List.zipIdx_singleton, List.foldl_cons, List.foldl_nil, if_true, zero_add]
      refine ⟨?_, open'⟩
      by_cases longer : acc.1.len < acc.2.len + 1
      · rw [if_pos longer]
        exact open'.zeroRun
      · rw [if_neg longer]
        exact longest.append _
    · simp only [List.zipIdx_singleton, List.foldl_cons, List.foldl_nil, if_neg zero]
      exact ⟨longest.append _, l ++ [g], by simp, Or.inl rfl⟩

/-- The groups after the first one, as they are printed. -/
def fmtGroups (gs : List Nat) : List Char := gs.flatMap fun g => ':' :: fmtRadix 16 g

theorem fmtSubslice_cons (g : Nat) (gs : List Nat) :
    fmtSubslice (g :: gs) = fmtRadix 16 g ++ fmtGroups gs := by
  induction gs generalizing g with
  | nil => simp [fmtSubslice, fmtGroups]
  | cons h gs ih => simp [fmtSubslice, ih, fmtGroups]

theorem dot_notMem_fmtRadix (h1 : 1 < radix) (hr : radix ≤ 16) (n : Nat) :
    '.' ∉ fmtRadix radix n := by
  intro h
  have digit := toDigit_of_mem_fmtRadix h1 hr h
  have none : ∀ r ≤ 16, toDigit r '.' = none := by decide
  simp [none radix hr] at digit

theorem dot_notMem_fmtGroups (gs : List Nat) : '.' ∉ fmtGroups gs := by
  simp [fmtGroups, dot_notMem_fmtRadix]

theorem dot_notMem_fmtSubslice (gs : List Nat) : '.' ∉ fmtSubslice gs := by
  cases gs with
  | nil => simp [fmtSubslice]
  | cons g gs => simp [fmtSubslice_cons, dot_notMem_fmtRadix, dot_notMem_fmtGroups]

/-- A rest that ends a list of groups: no digit, no separator with a digit, no dot. -/
structure Closes (rest : List Char) : Prop where
  stops : Stops 16 rest
  separator : ∀ s, rest = ':' :: s → Stops 16 s
  dot : '.' ∉ rest

theorem readSeparator_readIpv4 (first : Bool) {s : List Char} (h : '.' ∉ s) :
    readSeparator ':' first readIpv4 s = none := by
  cases first with
  | true => exact readIpv4_of_notMem h
  | false =>
    cases s with
    | nil => rfl
    | cons c s =>
      have tail : readIpv4 s = none := readIpv4_of_notMem fun hs => h (by simp [hs])
      by_cases sep : c = ':' <;> simp [readSeparator, readChar, sep, tail]

theorem readGroups_of_closes (first : Bool) (limit : Nat) {rest : List Char}
    (closes : Closes rest) : readGroups first limit rest = ([], false, rest) := by
  cases limit with
  | zero => rfl
  | succ limit =>
    have number : readSeparator ':' first (readNumber 16 (some 4) true 0xffff) rest = none := by
      cases first with
      | true => exact readNumber_of_stops closes.stops
      | false =>
        cases rest with
        | nil => rfl
        | cons c s =>
          by_cases sep : c = ':'
          · subst sep
            simp [readSeparator, readChar, readNumber_of_stops (closes.separator s rfl)]
          · simp [readSeparator, readChar, sep]
    simp [readGroups, readSeparator_readIpv4 first closes.dot, number]

theorem stops_fmtGroups (gs : List Nat) {rest : List Char} (stops : Stops 16 rest) :
    Stops 16 (fmtGroups gs ++ rest) := by
  cases gs with
  | nil => simpa [fmtGroups] using stops
  | cons g gs => exact stops_cons (by decide)

theorem readGroup_fmt {g : Nat} (hg : g < 65536) {rest : List Char} (stops : Stops 16 rest) :
    readNumber 16 (some 4) true 0xffff (fmtRadix 16 g ++ rest) = some (g, rest) :=
  readNumber_fmtRadix (by omega) (by omega) (by omega)
    (by intro k hk; simp at hk; subst hk; omega) stops

theorem readGroups_fmtGroups (gs : List Nat) (small : ∀ g ∈ gs, g < 65536) (limit : Nat)
    (room : gs.length ≤ limit) {rest : List Char} (closes : Closes rest) :
    readGroups false limit (fmtGroups gs ++ rest) = (gs, false, rest) := by
  induction gs generalizing limit with
  | nil => exact readGroups_of_closes false limit closes
  | cons g gs ih =>
    obtain ⟨limit, rfl⟩ : ∃ l, limit = l + 1 := ⟨limit - 1, by simp at room; omega⟩
    have noDot : '.' ∉ fmtGroups (g :: gs) ++ rest := by
      simp [dot_notMem_fmtGroups, closes.dot]
    have number := readGroup_fmt (small g (by simp)) (stops_fmtGroups gs closes.stops)
    have tail := ih (fun h hh => small h (by simp [hh])) limit (by simp at room; omega)
    have text : fmtGroups (g :: gs) ++ rest = ':' :: (fmtRadix 16 g ++ (fmtGroups gs ++ rest)) := by
      simp [fmtGroups]
    rw [readGroups, readSeparator_readIpv4 false noDot, text]
    simp [readSeparator, readChar, number, tail]

theorem readGroups_fmtSubslice (gs : List Nat) (small : ∀ g ∈ gs, g < 65536) (limit : Nat)
    (room : gs.length ≤ limit) {rest : List Char} (closes : Closes rest) :
    readGroups true limit (fmtSubslice gs ++ rest) = (gs, false, rest) := by
  cases gs with
  | nil => exact readGroups_of_closes true limit closes
  | cons g gs =>
    obtain ⟨limit, rfl⟩ : ∃ l, limit = l + 1 := ⟨limit - 1, by simp at room; omega⟩
    have noDot : '.' ∉ fmtSubslice (g :: gs) ++ rest := by
      simp [dot_notMem_fmtSubslice, closes.dot]
    have number := readGroup_fmt (small g (by simp)) (stops_fmtGroups gs closes.stops)
    have tail := readGroups_fmtGroups gs (fun h hh => small h (by simp [hh])) limit
      (by simp at room; omega) closes
    rw [readGroups, readSeparator_readIpv4 true noDot, fmtSubslice_cons, List.append_assoc]
    simp [readSeparator, number, tail]

theorem closes_nil : Closes [] := ⟨by simp [Stops], by simp, by simp⟩

/-- What the display of an address does with a rest: the parser stops exactly there. -/
theorem readIpv6_mapped {ip : Ipv6Addr} {v4 : Ipv4Addr} (h : ip.toIpv4Mapped = some v4)
    {rest : List Char} (stops : Stops 10 rest) :
    readIpv6 ("::ffff:".toList ++ v4.display ++ rest) = some (ip, rest) := by
  have head (s : List Char) : readGroups true 8 (':' :: ':' :: s) = ([], false, ':' :: ':' :: s) := by
    have colon : Stops 16 (':' :: ':' :: s) := stops_cons (by decide)
    simp [readGroups, readSeparator, readNumber_of_stops colon,
      readIpv4_of_stops (colon.mono (by omega))]
  have mark : readNumber 16 (some 4) true 0xffff ("ffff".toList ++ ':' :: (v4.display ++ rest)) =
      some (0xffff, ':' :: (v4.display ++ rest)) := by
    have text : fmtRadix 16 0xffff = "ffff".toList := by decide
    rw [← text]
    exact readGroup_fmt (by omega) (stops_cons (by decide))
  have letters (s : List Char) : readIpv4 ('f' :: s) = none :=
    readIpv4_of_stops (stops_cons (by decide))
  have tail : readGroups true 7 ("ffff".toList ++ ':' :: (v4.display ++ rest)) =
      ([0xffff, v4.octet 0 * 256 + v4.octet 1, v4.octet 2 * 256 + v4.octet 3], true, rest) := by
    rw [readGroups]
    simp only [readSeparator, if_true, mark]
    simp [letters, readGroups, readSeparator, readChar, readIpv4_display v4 rest stops]
  have text : "::ffff:".toList ++ v4.display ++ rest =
      ':' :: ':' :: ("ffff".toList ++ ':' :: (v4.display ++ rest)) := by simp
  have value : Ipv6Addr.ofSegments
      (List.replicate 5 0 ++ [0xffff, v4.octet 0 * 256 + v4.octet 1,
        v4.octet 2 * 256 + v4.octet 3]) = ip := by
    obtain ⟨bits⟩ := ip
    have bound := bits.isLt
    simp only [Ipv6Addr.toIpv4Mapped] at h
    split_ifs at h with mapped
    obtain rfl := Option.some.inj h
    simp only [Ipv6Addr.ofSegments, Ipv6Addr.mk.injEq]
    apply BitVec.eq_of_toNat_eq
    rw [BitVec.toNat_ofNat]
    simp [Nat.ofDigits, Ipv4Addr.octet]
    omega
  rw [text, readIpv6, head]
  simp only [List.length_nil, readChar, if_true, Option.bind_eq_bind, Option.bind_some, zero_add,
    Nat.reduceSub, tail]
  simpa using value

theorem readIpv6_display (ip : Ipv6Addr) {rest : List Char} (closes : Closes rest) :
    readIpv6 (ip.display ++ rest) = some (ip, rest) := by
  have count : ip.segments.length = 8 := by simp [Ipv6Addr.segments]
  have small (l : List Nat) (h : l ⊆ ip.segments) : ∀ g ∈ l, g < 65536 :=
    fun g hg => segment_lt ip g (h hg)
  rw [Ipv6Addr.display]
  cases mapped : ip.toIpv4Mapped with
  | some v4 => exact readIpv6_mapped mapped (closes.stops.mono (by omega))
  | none =>
    dsimp only
    split_ifs with long
    · rcases longestZeroes_zeroRun ip.segments with empty | ⟨before, after, eq, start⟩
      · omega
      generalize longestZeroes ip.segments = zeroes at *
      have total : before.length + zeroes.len + after.length = 8 := by
        rw [← count, eq]; simp; omega
      have front : ip.segments.take zeroes.start = before := by
        rw [eq, ← start, List.append_assoc, List.take_left]
      have back : ip.segments.drop (zeroes.start + zeroes.len) = after := by
        rw [eq, ← start]
        exact List.drop_left' (by simp)
      have gap : Closes (':' :: ':' :: (fmtSubslice after ++ rest)) := by
        refine ⟨stops_cons (by decide), ?_, by simp [dot_notMem_fmtSubslice, closes.dot]⟩
        intro s hs
        obtain rfl : _ = s := by simpa using hs
        exact stops_cons (by decide)
      have head := readGroups_fmtSubslice before (small before (by rw [eq]; simp)) 8 (by omega) gap
      have tail := readGroups_fmtSubslice after (small after (by rw [eq]; simp))
        (8 - (before.length + 1)) (by omega) closes
      have zeros : 8 - before.length - after.length = zeroes.len := by omega
      have ne : before.length ≠ 8 := by omega
      rw [front, back, List.append_assoc, List.cons_append, List.cons_append, readIpv6, head]
      simp only [readChar, if_true, Option.bind_eq_bind, Option.bind_some, tail, if_neg ne, zeros,
        Bool.false_eq_true, if_false]
      rw [← eq, ofSegments_segments]
      rfl
    · have all := readGroups_fmtSubslice ip.segments (segment_lt ip) 8 (by omega) closes
      rw [readIpv6, all]
      simp [count, ofSegments_segments]

/-- The text of an IPv6 address is not read as an IPv4 address. -/
theorem readIpv4_display_v6 (ip : Ipv6Addr) (rest : List Char) (dot : '.' ∉ rest) :
    readIpv4 (ip.display ++ rest) = none := by
  rw [Ipv6Addr.display]
  cases ip.toIpv4Mapped with
  | some v4 => exact readIpv4_of_stops (stops_cons (by decide))
  | none =>
    dsimp only
    split_ifs
    · exact readIpv4_of_notMem (by simp [dot_notMem_fmtSubslice, dot])
    · exact readIpv4_of_notMem (by simp [dot_notMem_fmtSubslice, dot])

theorem Ipv4Addr.parse_display (ip : Ipv4Addr) : Ipv4Addr.parse (.ofList ip.display) = some ip := by
  have read := readIpv4_display ip [] (by simp [Stops])
  rw [List.append_nil] at read
  simp [Ipv4Addr.parse, parseWith, read]

theorem IpAddr.parse_fmt (ip : IpAddr) : IpAddr.parse ip.fmt = some ip := by
  cases ip with
  | v4 ip =>
    have read := readIpv4_display ip [] (by simp [Stops])
    rw [List.append_nil] at read
    simp [IpAddr.parse, parseWith, IpAddr.fmt, IpAddr.display, readIp, read]
  | v6 ip =>
    have other := readIpv4_display_v6 ip [] (by simp)
    have read := readIpv6_display ip closes_nil
    rw [List.append_nil] at other read
    simp [IpAddr.parse, parseWith, IpAddr.fmt, IpAddr.display, readIp, other, read]

theorem Ipv4Addr.parse_display_v6 (ip : Ipv6Addr) :
    Ipv4Addr.parse (.ofList ip.display) = none := by
  have other := readIpv4_display_v6 ip [] (by simp)
  rw [List.append_nil] at other
  simp [Ipv4Addr.parse, parseWith, other]

/-! ## Socket addresses -/

theorem readPort_fmt (port : UInt16) :
    readPort (':' :: fmtRadix 10 port.toNat) = some (port, []) := by
  have bound := port.toNat_lt
  have read : readNumber 10 none true 0xffff (fmtRadix 10 port.toNat ++ []) =
      some (port.toNat, []) :=
    readNumber_fmtRadix (by omega) (by omega) (by omega) (by simp) (by simp [Stops])
  rw [List.append_nil] at read
  simp [readPort, readChar, read]

theorem readScopeId_fmt (scopeId : UInt32) (rest : List Char) (stops : Stops 10 rest) :
    readScopeId ('%' :: (fmtRadix 10 scopeId.toNat ++ rest)) = some (scopeId, rest) := by
  have bound := scopeId.toNat_lt
  have read : readNumber 10 none true 0xffffffff (fmtRadix 10 scopeId.toNat ++ rest) =
      some (scopeId.toNat, rest) :=
    readNumber_fmtRadix (by omega) (by omega) (by omega) (by simp) stops
  simp [readScopeId, readChar, read]

theorem colon_mem_socketAddr (addr : SocketAddr) : ':' ∈ addr.fmt.toList := by
  cases addr <;> simp [SocketAddr.fmt, SocketAddr.display]

theorem SocketAddr.parse_fmt (addr : SocketAddr) : SocketAddr.parse addr.fmt = some addr := by
  suffices h : readSocketAddr addr.display = some (addr, []) by
    simp [SocketAddr.parse, parseWith, SocketAddr.fmt, h]
  cases addr with
  | v4 ip port =>
    have host := readIpv4_display ip (':' :: fmtRadix 10 port.toNat) (stops_cons (by decide))
    simp [readSocketAddr, readSocketAddrV4, SocketAddr.display, host, readPort_fmt]
  | v6 ip port scopeId =>
    have bracket (s : List Char) : readSocketAddrV4 ('[' :: s) = none := by
      have none : readIpv4 ('[' :: s) = none := readIpv4_of_stops (stops_cons (by decide))
      simp [readSocketAddrV4, none]
    have noDot : '.' ∉ fmtRadix 10 port.toNat := dot_notMem_fmtRadix (by omega) (by omega) _
    by_cases zero : scopeId = 0
    · have close : Closes (']' :: ':' :: fmtRadix 10 port.toNat) :=
        ⟨stops_cons (by decide), by simp, by simp [noDot]⟩
      simp [readSocketAddr, bracket, readSocketAddrV6, SocketAddr.display, readChar, zero,
        readIpv6_display ip close, readScopeId, readPort_fmt]
    · have noDot' : '.' ∉ fmtRadix 10 scopeId.toNat := dot_notMem_fmtRadix (by omega) (by omega) _
      have close : Closes ('%' :: (fmtRadix 10 scopeId.toNat ++
          ']' :: ':' :: fmtRadix 10 port.toNat)) :=
        ⟨stops_cons (by decide), by simp, by simp [noDot, noDot']⟩
      have scope := readScopeId_fmt scopeId (']' :: ':' :: fmtRadix 10 port.toNat)
        (stops_cons (by decide))
      simp [readSocketAddr, bracket, readSocketAddrV6, SocketAddr.display, readChar, zero,
        readIpv6_display ip close, scope, readPort_fmt]

end Net
end Rust
