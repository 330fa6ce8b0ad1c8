import NostrVpn.Core.PeerAliases

/-!
# DNS labels

What the normalizer returns and what the uniquifier makes of a label is a DNS label: up to 63 lower-case
letters, digits and dashes, none of the dashes at an end. The uniquifier tries a bounded number of candidates.
-/
namespace NostrVpn.Core

open Rust

structure IsDnsLabel (label : String) : Prop where
  chars : ∀ c ∈ label.toList, isLabelChar c
  nonempty : label ≠ ""
  short : label.length ≤ 63
  first : label.toList.head? ≠ some '-'
  last : label.toList.getLast? ≠ some '-'

/-- What the normalizer leaves as it is has in addition no two dashes in a row. -/
theorem IsMagicDnsLabel.isDnsLabel {label : String} (valid : IsMagicDnsLabel label) : IsDnsLabel label := by
  have text := isMagicDnsLabel_iff.mp valid
  exact ⟨text.chars, nonempty_of_isMagicDnsLabel valid, length_of_isMagicDnsLabel valid, text.first, text.last⟩

/-- A candidate for a DNS label is one: the counter behind the last dash consists of digits. -/
theorem IsDnsLabel.candidate {base : String} (valid : IsDnsLabel base) {counter : Nat} (small : counter < 10000) :
    IsDnsLabel (magicDnsCandidate base counter) := by
  have nonempty : base.toList ≠ [] := fun empty => valid.nonempty (String.toList_inj.mp empty)
  obtain ⟨cs, eq, start, kept, -, room⟩ := exists_candidate_text valid.chars nonempty valid.first valid.last small
  have digits : ∀ c ∈ fmtRadix 10 counter, isLabelChar c ∧ c ≠ '-' := fun c mem => digit_of_mem_fmtRadix mem
  have some' := fmtRadix_ne_nil 10 counter
  rw [eq]
  refine ⟨?_, ?_, ?_, ?_, ?_⟩
  · rw [String.toList_ofList]
    intro c mem
    rcases List.mem_append.mp mem with before | mem
    · exact valid.chars c (start.subset before)
    rcases List.mem_cons.mp mem with rfl | digit
    · decide
    · exact (digits c digit).1
  · intro empty
    have := congrArg String.toList empty
    simp at this
  · rw [← String.length_toList, String.toList_ofList, List.length_append, List.length_cons]
    omega
  · rw [String.toList_ofList, List.head?_append_of_ne_nil _ kept, head?_of_start start kept]
    exact valid.first
  · rw [String.toList_ofList, List.getLast?_append, List.getLast?_cons_of_ne_nil some',
      List.getLast?_eq_some_getLast some', Option.some_or]
    exact fun dash => (digits '-' (Option.some.inj dash ▸ List.getLast_mem some')).2 rfl

/-- A normalized label is a DNS label and stays as it is; a DNS label is made unique while it or a candidate
for it is free, and else given a second time. -/
theorem magic_dns_labels_are_valid :
    (∀ value label, normalizeMagicDnsLabel value = some label →
      IsDnsLabel label ∧ normalizeMagicDnsLabel label = some label) ∧
    ∀ base used, IsDnsLabel base →
      (FreeLabel base used → ∃ label, uniquifyMagicDnsLabel base used = (label, label :: used) ∧
        IsDnsLabel label ∧ label ∉ used) ∧
      (¬ FreeLabel base used → uniquifyMagicDnsLabel base used = (base, used)) := by
  refine ⟨fun value label normal => ?_, fun base used valid => ⟨fun free => ?_, fun taken => ?_⟩⟩
  · have stays := isMagicDnsLabel_of_normalize normal
    exact ⟨stays.isDnsLabel, stays⟩
  · obtain ⟨label, eq, unused, made⟩ := uniquify_of_free valid.nonempty free
    refine ⟨label, eq, ?_, unused⟩
    rcases made with rfl | ⟨counter, small, rfl⟩
    · exact valid
    · exact valid.candidate small
  · exact (uniquify_of_taken valid.nonempty taken).1

/-- With all candidates in use, the label is returned although it is in use. -/
theorem exhausted_label_is_repeated :
    ¬ ∀ (base : String) (used : List String), IsDnsLabel base → (uniquifyMagicDnsLabel base used).1 ∉ used := by
  intro all
  have valid : IsDnsLabel "peer" := IsMagicDnsLabel.isDnsLabel (by decide +kernel)
  obtain ⟨used, eq⟩ : ∃ used, used = "peer" :: (List.range' 2 9998).map (magicDnsCandidate "peer") := ⟨_, rfl⟩
  have taken : ¬ FreeLabel "peer" used := by
    rw [eq]
    rintro (free | ⟨counter, listed, free⟩)
    · exact free (by simp)
    · exact free (List.mem_cons_of_mem _ (List.mem_map_of_mem listed))
  obtain ⟨repeated, listed⟩ := uniquify_of_taken (by decide) taken
  have unused := all "peer" used valid
  rw [repeated] at unused
  exact unused listed

end NostrVpn.Core
