import NostrVpn.Core.EnsureDefaults
import NostrVpn.Core.MagicDnsLabels

/-!
# Entry ids of networks

The loop of `ensure_defaults` gives every network an entry id of its own: the one it asks for, or that one with a
counter. A counter may make an id longer than a label, and then the next pass cuts it.
-/
namespace NostrVpn.Core

open Rust

/-- The entry id that a network asks for. -/
def askedEntryId (ordinal : Nat) (id : String) : String :=
  if isBlank id then defaultNetworkEntryId ordinal else normalizeNetworkEntryId id ordinal

/-- The loop of `ensure_defaults` on the entry ids. -/
def entryIds : Nat → List String → List String → List String
  | _, _, [] => []
  | ordinal, used, id :: rest =>
    let id := uniquifyNetworkEntryId (askedEntryId ordinal id) used
    id :: entryIds (ordinal + 1) (id :: used) rest

/-- The id is free, or no counter fits behind it, or one that fits makes it free. -/
def EntryIdFits (asked : String) (used : List String) : Prop :=
  asked ∉ used ∨ 61 < asked.length ∨
    ∃ counter, 2 ≤ counter ∧ asked.length + (fmtNat counter).length ≤ 62 ∧ asked ++ "-" ++ fmtNat counter ∉ used

/-- Every network asks for an id that fits, given the ids of those before. -/
def EntryIdsFit : Nat → List String → List String → Prop
  | _, _, [] => True
  | ordinal, used, id :: rest =>
    EntryIdFits (askedEntryId ordinal id) used ∧
      EntryIdsFit (ordinal + 1) (uniquifyNetworkEntryId (askedEntryId ordinal id) used :: used) rest

/-! ## One id -/

section One
variable {asked id : String} {used : List String} {ordinal : Nat}

theorem length_fmtRadix_mono {m n : Nat} (pos : 0 < m) (le : m ≤ n) :
    (fmtRadix 10 m).length ≤ (fmtRadix 10 n).length := by
  rw [fmtRadix_of_ne_zero (by omega), fmtRadix_of_ne_zero (by omega)]
  simpa using Nat.le_length_digits_le 10 m n le

/-- An id in use gets the first counter that makes it free. -/
theorem uniquify_of_mem (taken : asked ∈ used) : ∃ counter, 2 ≤ counter ∧
    uniquifyNetworkEntryId asked used = asked ++ "-" ++ fmtNat counter ∧ asked ++ "-" ++ fmtNat counter ∉ used ∧
      ∀ earlier, 2 ≤ earlier → asked ++ "-" ++ fmtNat earlier ∉ used → counter ≤ earlier := by
  have fresh := uniquifyNetworkEntryId_notMem asked used
  unfold uniquifyNetworkEntryId at fresh ⊢
  rw [if_neg (not_not.mpr taken)] at fresh ⊢
  rw [List.find?_map] at fresh ⊢
  cases found : (List.range' 2 (used.length + 1)).find?
      ((fun next => decide (next ∉ used)) ∘ fun suffix => asked ++ "-" ++ fmtNat suffix) with
  | none =>
    rw [found] at fresh
    exact absurd taken fresh
  | some counter =>
    obtain ⟨free, listed, first⟩ := List.find?_range'_eq_some.mp found
    have least : 2 ≤ counter := (List.mem_range'_1.mp listed).1
    refine ⟨counter, least, rfl, by simpa using free, fun earlier two unused => ?_⟩
    by_contra before
    have used' := first earlier two (by omega)
    simp at used'
    exact unused used'

theorem isBlank_of_labelChars (chars : ∀ c ∈ id.toList, isLabelChar c) (nonempty : id.toList ≠ []) :
    isBlank id = false := by
  have plain : trim id = id := trim_eq_self fun c mem =>
    forall_ascii (p := fun c => isLabelChar c → isWhitespace c = false) (by decide +kernel)
      (lt_of_isLabelChar (chars c mem)) (chars c mem)
  have filled : id ≠ "" := fun empty => nonempty (by rw [empty]; rfl)
  simpa [isBlank, plain] using filled

theorem askedEntryId_of_label (valid : IsMagicDnsLabel asked) : askedEntryId ordinal asked = asked := by
  have text := isMagicDnsLabel_iff.mp valid
  rw [askedEntryId, isBlank_of_labelChars text.chars text.nonempty, if_neg Bool.false_ne_true, normalizeNetworkEntryId, valid,
    Option.getD_some]

theorem isMagicDnsLabel_asked (few : ordinal < 2 ^ 64) : IsMagicDnsLabel (askedEntryId ordinal id) := by
  have default : IsMagicDnsLabel (defaultNetworkEntryId ordinal) := by
    have digits : (fmtRadix 10 ordinal).length ≤ 20 := length_fmtRadix_le (by decide) (by decide) (by omega)
    have word : LabelChars "network".toList := labelChars_of_no_dash (by decide)
    have text := isLabelText_append word (by decide) (by decide) (by decide)
      (fun c mem => digit_of_mem_fmtRadix mem) (fmtRadix_ne_nil 10 ordinal)
      (show "network".toList.length + 1 + _ ≤ 63 by
        have seven : "network".toList.length = 7 := by decide
        omega)
    have eq : defaultNetworkEntryId ordinal = .ofList ("network".toList ++ '-' :: fmtRadix 10 ordinal) :=
      String.toList_inj.mp (by simp [defaultNetworkEntryId, fmtNat])
    rw [eq]
    exact isMagicDnsLabel_ofList text
  unfold askedEntryId normalizeNetworkEntryId
  split_ifs
  · exact default
  · cases normal : normalizeMagicDnsLabel id with
    | none => exact default
    | some label => exact isMagicDnsLabel_of_normalize normal

theorem rdropWhile_word {cs word : List Char} (chars : ∀ c ∈ word, isLabelChar c ∧ c ≠ '-') (some' : word ≠ []) :
    (cs ++ '-' :: word).rdropWhile (· == '-') = cs ++ '-' :: word := by
  refine List.rdropWhile_eq_self_iff.mpr fun nonempty dash => ?_
  rw [List.getLast_append_of_ne_nil _ (by simp), List.getLast_cons some'] at dash
  exact (chars _ (List.getLast_mem some')).2 (by simpa using dash)

theorem rdropWhile_label {cs : List Char} (last : cs.getLast? ≠ some '-') : cs.rdropWhile (· == '-') = cs := by
  refine List.rdropWhile_eq_self_iff.mpr fun nonempty dash => last ?_
  rw [List.getLast?_eq_some_getLast nonempty]
  exact congrArg some (by simpa using dash)

/-- The first 63 characters of a label with a counter: the dash goes when no digit is left behind it. -/
theorem cut_word {cs word : List Char} (text : IsLabelText cs) (chars : ∀ c ∈ word, isLabelChar c ∧ c ≠ '-')
    (some' : word ≠ []) :
    ((cs ++ '-' :: word).take 63).rdropWhile (· == '-') =
      if 61 < cs.length then cs else cs ++ '-' :: word.take (62 - cs.length) := by
  have short := text.short
  split_ifs with long
  · rcases (by omega : cs.length = 62 ∨ cs.length = 63) with length | length
    · have cut : (cs ++ '-' :: word).take 63 = cs ++ ['-'] := by simp [List.take_append, length]
      rw [cut, List.rdropWhile_concat_pos _ _ _ (by decide), rdropWhile_label text.last]
    · have cut : (cs ++ '-' :: word).take 63 = cs := by simp [length]
      rw [cut, rdropWhile_label text.last]
  · obtain ⟨room, eq⟩ : ∃ room, 63 - cs.length = room + 1 + 1 := ⟨61 - cs.length, by omega⟩
    have cut : (cs ++ '-' :: word).take 63 = cs ++ '-' :: word.take (62 - cs.length) := by
      have less : 62 - cs.length = room + 1 := by omega
      simp [List.take_append, List.take_of_length_le (by omega : cs.length ≤ 63), eq, less]
    rw [cut, rdropWhile_word (fun c mem => chars c (List.mem_of_mem_take mem))]
    have filled : 0 < word.length := List.length_pos_iff.mpr some'
    exact List.ne_nil_of_length_pos (by simp; omega)

theorem toList_counted (asked : String) (counter : Nat) :
    (asked ++ "-" ++ fmtNat counter).toList = asked.toList ++ '-' :: fmtRadix 10 counter := by
  rw [String.append_assoc, toList_append_counter]

theorem length_fmtNat (counter : Nat) : (fmtNat counter).length = (fmtRadix 10 counter).length := by
  simp [fmtNat]

/-- An id with a counter is cut when it is longer than a label. -/
theorem asked_of_long (valid : IsMagicDnsLabel asked) {counter : Nat}
    (long : 62 < asked.length + (fmtNat counter).length) :
    askedEntryId ordinal (asked ++ "-" ++ fmtNat counter) =
      if 61 < asked.length then asked
      else .ofList (asked.toList ++ '-' :: (fmtRadix 10 counter).take (62 - asked.length)) := by
  have text := isMagicDnsLabel_iff.mp valid
  have digits : ∀ c ∈ fmtRadix 10 counter, isLabelChar c ∧ c ≠ '-' := fun c mem => digit_of_mem_fmtRadix mem
  have split := toList_counted asked counter
  have written := labelChars_append text.toLabelChars text.last digits
  have loop : magicDnsChars false (asked.toList ++ '-' :: fmtRadix 10 counter) =
      asked.toList ++ '-' :: fmtRadix 10 counter := magicDnsChars_eq_self written (by simp)
  have back := @rdropWhile_word asked.toList _ digits (fmtRadix_ne_nil 10 counter)
  have front : (asked.toList ++ '-' :: fmtRadix 10 counter).dropWhile (· == '-') =
      asked.toList ++ '-' :: fmtRadix 10 counter := by
    have first := text.first
    cases chars : asked.toList with
    | nil => exact absurd chars text.nonempty
    | cons c cs =>
      rw [chars] at first
      have other : c ≠ '-' := by simpa using first
      simp [other]
  have cut := cut_word text digits (fmtRadix_ne_nil 10 counter)
  have size := length_fmtNat counter
  have same : asked.toList.length = asked.length := String.length_toList
  have whole : 63 < (asked.toList ++ '-' :: fmtRadix 10 counter).length := by
    rw [List.length_append, List.length_cons]
    omega
  have blank : isBlank (asked ++ "-" ++ fmtNat counter) = false :=
    isBlank_of_labelChars (by rw [split]; exact written.chars) (by rw [split]; simp)
  have filled : (if 61 < asked.toList.length then asked.toList
      else asked.toList ++ '-' :: (fmtRadix 10 counter).take (62 - asked.toList.length)) ≠ [] := by
    split_ifs
    · exact text.nonempty
    · simp
  have normal : normalizeMagicDnsLabel (asked ++ "-" ++ fmtNat counter) =
      some (.ofList (if 61 < asked.toList.length then asked.toList
        else asked.toList ++ '-' :: (fmtRadix 10 counter).take (62 - asked.toList.length))) := by
    simp only [normalizeMagicDnsLabel, split, loop, back, front]
    rw [if_pos whole, cut, if_neg filled]
  rw [askedEntryId, blank, if_neg Bool.false_ne_true, normalizeNetworkEntryId, normal, Option.getD_some, same]
  split_ifs
  · exact String.ofList_toList
  · rfl

/-- An id that is cut behind its dash is no longer the same. -/
theorem uniquify_cut_ne {counter room : Nat} (less : room < (fmtRadix 10 counter).length) :
    uniquifyNetworkEntryId (.ofList (asked.toList ++ '-' :: (fmtRadix 10 counter).take room)) used ≠
      asked ++ "-" ++ fmtNat counter := by
  intro same
  by_cases taken : String.ofList (asked.toList ++ '-' :: (fmtRadix 10 counter).take room) ∈ used
  · obtain ⟨again, -, made, -⟩ := uniquify_of_mem taken
    have texts := congrArg String.toList (made.symm.trans same)
    rw [toList_counted, toList_counted, String.toList_ofList] at texts
    have heads := (word_of_append (dash_notMem_fmtRadix again) (dash_notMem_fmtRadix counter) texts).1
    simpa using congrArg List.length heads
  · rw [uniquifyNetworkEntryId, if_pos taken] at same
    have texts := congrArg List.length (congrArg String.toList same)
    rw [toList_counted, String.toList_ofList] at texts
    simp at texts
    omega

/-- The id that a network has got is asked for again and given again exactly when it fits. -/
theorem uniquify_asked_iff (valid : IsMagicDnsLabel asked) :
    uniquifyNetworkEntryId (askedEntryId ordinal (uniquifyNetworkEntryId asked used)) used =
      uniquifyNetworkEntryId asked used ↔ EntryIdFits asked used := by
  by_cases taken : asked ∈ used
  · obtain ⟨counter, two, made, free, first⟩ := uniquify_of_mem taken
    have text := isMagicDnsLabel_iff.mp valid
    have size := length_fmtNat counter
    have same : asked.toList.length = asked.length := String.length_toList
    rw [made]
    by_cases fits : asked.length + (fmtNat counter).length ≤ 62
    · have label : IsMagicDnsLabel (asked ++ "-" ++ fmtNat counter) := by
        rw [isMagicDnsLabel_iff, toList_counted]
        exact isLabelText_append text.toLabelChars text.nonempty text.first text.last
          (fun c mem => digit_of_mem_fmtRadix mem) (fmtRadix_ne_nil 10 counter) (by omega)
      rw [askedEntryId_of_label label, uniquifyNetworkEntryId, if_pos free]
      exact iff_of_true rfl (.inr (.inr ⟨counter, two, fits, free⟩))
    · rw [asked_of_long valid (by omega)]
      split_ifs with long
      · exact iff_of_true made (.inr (.inl long))
      · refine iff_of_false (fun same => ?_) ?_
        · exact uniquify_cut_ne (by omega) same
        · rintro (unused | long' | ⟨earlier, two', room, unused⟩)
          · exact unused taken
          · exact long long'
          · have more := length_fmtRadix_mono (by omega) (first earlier two' unused)
            have size' := length_fmtNat earlier
            omega
  · have kept : uniquifyNetworkEntryId asked used = asked := if_pos taken
    rw [kept, askedEntryId_of_label valid, kept]
    exact iff_of_true rfl (.inl taken)

end One

/-! ## All ids -/

theorem ids_ensureNetworks_eq (sdk : NostrSdk) (own : Option String) (ordinal : Nat) (used : List String)
    (networks : List NetworkConfig) :
    (ensureNetworks sdk own ordinal used networks).map NetworkConfig.id =
      entryIds ordinal used (networks.map NetworkConfig.id) := by
  induction networks generalizing ordinal used with
  | nil => rfl
  | cons network rest ih =>
    rw [ensureNetworks, List.map_cons, List.map_cons, entryIds, ih]
    rfl

/-- A second pass gives the ids of the first exactly when every id fits. -/
theorem entryIds_twice_iff {ordinal : Nat} {used ids : List String} (few : ordinal + ids.length ≤ 2 ^ 64) :
    entryIds ordinal used (entryIds ordinal used ids) = entryIds ordinal used ids ↔
      EntryIdsFit ordinal used ids := by
  induction ids generalizing ordinal used with
  | nil => exact iff_of_true rfl trivial
  | cons id rest ih =>
    rw [List.length_cons] at few
    have label := @isMagicDnsLabel_asked id ordinal (by omega)
    have later := @ih (ordinal + 1) (uniquifyNetworkEntryId (askedEntryId ordinal id) used :: used) (by omega)
    have here := @uniquify_asked_iff _ used ordinal label
    simp only [entryIds, EntryIdsFit, List.cons.injEq, here]
    refine and_congr_right fun fits => ?_
    rw [here.mpr fits, later]

/-! ## One id for all -/

/-- The ids in use when as many networks have asked for the same one. -/
def sameIds (asked : String) : Nat → List String
  | 0 => []
  | count + 1 => uniquifyNetworkEntryId asked (sameIds asked count) :: sameIds asked count

theorem counted_ne (asked : String) (counter : Nat) : asked ++ "-" ++ fmtNat counter ≠ asked := by
  intro same
  have texts := congrArg List.length (congrArg String.toList same)
  rw [toList_counted] at texts
  simp at texts

theorem counted_injective (asked : String) : Function.Injective fun counter => asked ++ "-" ++ fmtNat counter := by
  intro counter other same
  have texts := congrArg String.toList same
  rw [toList_counted, toList_counted] at texts
  have digits := (word_of_append (dash_notMem_fmtRadix _) (dash_notMem_fmtRadix _) texts).2
  exact fmtNat_injective (congrArg String.ofList digits)

theorem mem_sameIds {asked id : String} {count : Nat} : id ∈ sameIds asked count ↔
    0 < count ∧ id = asked ∨ ∃ counter, 2 ≤ counter ∧ counter ≤ count ∧ id = asked ++ "-" ++ fmtNat counter := by
  induction count generalizing id with
  | zero =>
    refine iff_of_false List.not_mem_nil ?_
    rintro (⟨none, -⟩ | ⟨counter, two, none, -⟩) <;> omega
  | succ count ih =>
    rw [sameIds, List.mem_cons]
    rcases Nat.eq_zero_or_pos count with rfl | pos
    · have first : uniquifyNetworkEntryId asked (sameIds asked 0) = asked := if_pos List.not_mem_nil
      rw [first, ih]
      constructor
      · rintro (rfl | ⟨none, -⟩ | ⟨counter, two, none, -⟩)
        · exact .inl ⟨Nat.one_pos, rfl⟩
        · omega
        · omega
      · rintro (⟨-, rfl⟩ | ⟨counter, two, none, -⟩)
        · exact .inl rfl
        · omega
    · obtain ⟨counter, two, made, free, first⟩ := uniquify_of_mem (ih.mpr (.inl ⟨pos, rfl⟩))
      have next : counter = count + 1 := by
        refine le_antisymm (first (count + 1) (by omega) fun used => ?_) ?_
        · rcases ih.mp used with ⟨-, same⟩ | ⟨other, -, small, same⟩
          · exact counted_ne _ _ same
          · have one := counted_injective asked same
            omega
        · by_contra before
          exact free (ih.mpr (.inr ⟨counter, two, by omega, rfl⟩))
      rw [made, next, ih]
      constructor
      · rintro (rfl | ⟨-, rfl⟩ | ⟨other, two', small, rfl⟩)
        · exact .inr ⟨count + 1, by omega, le_rfl, rfl⟩
        · exact .inl ⟨by omega, rfl⟩
        · exact .inr ⟨other, two', by omega, rfl⟩
      · rintro (⟨-, rfl⟩ | ⟨other, two', small, rfl⟩)
        · exact .inr (.inl ⟨pos, rfl⟩)
        · rcases small.lt_or_eq with less | rfl
          · exact .inr (.inr ⟨other, two', by omega, rfl⟩)
          · exact .inl rfl

/-- When networks that ask for the same id all fit, the last one fits behind the others. -/
theorem entryIdFits_of_replicate {asked : String} (valid : IsMagicDnsLabel asked) {ordinal count more : Nat}
    (fit : EntryIdsFit ordinal (sameIds asked count) (List.replicate (more + 1) asked)) :
    EntryIdFits asked (sameIds asked (count + more)) := by
  induction more generalizing ordinal count with
  | zero =>
    have here := fit.1
    rwa [askedEntryId_of_label valid] at here
  | succ more ih =>
    have later := fit.2
    rw [askedEntryId_of_label valid] at later
    exact (show count + (more + 1) = count + 1 + more by omega) ▸ @ih _ (count + 1) later

/-- The tenth id behind nine others of 61 characters does not fit. -/
theorem not_entryIdFits_tenth {asked : String} (size : asked.length = 61) : ¬EntryIdFits asked (sameIds asked 9) := by
  rintro (free | long | ⟨counter, two, fits, free⟩)
  · exact free (mem_sameIds.mpr (.inl ⟨by omega, rfl⟩))
  · omega
  · refine free (mem_sameIds.mpr (.inr ⟨counter, two, ?_, rfl⟩))
    by_contra more
    have digits := @length_fmtRadix_mono 10 counter (by omega) (by omega)
    have two' : (fmtRadix 10 10).length = 2 := by decide
    have size' := length_fmtNat counter
    omega

end NostrVpn.Core
