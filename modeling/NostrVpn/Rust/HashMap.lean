import Mathlib.Data.List.AList

/-!
# `HashMap` of the Rust standard library

A map is Mathlib's association list without duplicate keys. The order of its entries stands for
the enumeration order of the hash map, which the language leaves open: a statement about every
`HashMap` value covers every enumeration order of the same contents.
-/
namespace Rust

abbrev HashMap (κ ν : Type) := AList fun _ : κ => ν

namespace HashMap

variable {κ ν : Type} [DecidableEq κ]

theorem dlookup_filter (p : κ → ν → Bool) (k : κ) (l : List (Sigma fun _ : κ => ν)) :
    l.NodupKeys → (l.filter fun e => p e.1 e.2).dlookup k = (l.dlookup k).filter (p k) := by
  induction l with
  | nil => intro _; rfl
  | cons e l ih =>
    obtain ⟨a, b⟩ := e
    intro h
    obtain ⟨fresh, rest⟩ := List.nodupKeys_cons.mp h
    by_cases eq : a = k
    · subst eq
      have absent : l.dlookup a = none := List.dlookup_eq_none.mpr fresh
      by_cases keep : p a b
      · simp [keep, Option.filter]
      · simp [keep, ih rest, absent, Option.filter]
    · have skip (t : List (Sigma fun _ : κ => ν)) := List.dlookup_cons_ne t ⟨a, b⟩ (Ne.symm eq)
      by_cases keep : p a b <;> simp only [List.filter_cons, keep, if_true, skip, ih rest]
      simp [ih rest]

/-- `HashMap::retain` with a predicate that only reads the entries. -/
def retain (m : HashMap κ ν) (p : κ → ν → Bool) : HashMap κ ν :=
  ⟨m.entries.filter fun e => p e.1 e.2, m.nodupKeys.sublist List.filter_sublist⟩

@[simp] theorem lookup_retain (p : κ → ν → Bool) (k : κ) (m : HashMap κ ν) :
    (m.retain p).lookup k = (m.lookup k).filter (p k) :=
  dlookup_filter p k m.entries m.nodupKeys

/-- `entry(k).or_insert(default)` followed by an assignment through the reference. -/
def upsert (m : HashMap κ ν) (k : κ) (default : ν) (f : ν → ν) : HashMap κ ν :=
  m.insert k (f ((m.lookup k).getD default))

@[simp] theorem lookup_upsert (k : κ) (default : ν) (f : ν → ν) (m : HashMap κ ν) :
    (m.upsert k default f).lookup k = some (f ((m.lookup k).getD default)) :=
  AList.lookup_insert m

theorem lookup_upsert_ne {k k' : κ} (h : k' ≠ k) (default : ν) (f : ν → ν) (m : HashMap κ ν) :
    (m.upsert k default f).lookup k' = m.lookup k' :=
  AList.lookup_insert_ne h

/-- `entry(k).or_insert(v)`. -/
def orInsert (m : HashMap κ ν) (k : κ) (v : ν) : HashMap κ ν :=
  if (m.lookup k).isSome then m else m.insert k v

theorem lookup_orInsert (k k' : κ) (v : ν) (m : HashMap κ ν) :
    (m.orInsert k v).lookup k' = (m.lookup k').or (if k' = k then some v else none) := by
  rw [orInsert]
  by_cases eq : k' = k
  · subst eq
    cases old : m.lookup k' <;> simp [old]
  · by_cases old : (m.lookup k).isSome <;> simp [old, eq, AList.lookup_insert_ne eq]

/-- `iter_mut` with a change of every value that may depend on its key. -/
def mapEntries {ν' : Type} (m : HashMap κ ν) (f : κ → ν → ν') : HashMap κ ν' :=
  ⟨m.entries.map fun e => ⟨e.1, f e.1 e.2⟩, by
    have keys := m.nodupKeys
    rw [List.NodupKeys, List.keys] at keys ⊢
    simpa [Function.comp_def] using keys⟩

@[simp] theorem lookup_mapEntries {ν' : Type} (f : κ → ν → ν') (k : κ) (m : HashMap κ ν) :
    (m.mapEntries f).lookup k = (m.lookup k).map (f k) := by
  obtain ⟨l, keys⟩ := m
  simp only [mapEntries, AList.lookup]
  clear keys
  induction l with
  | nil => rfl
  | cons e l ih =>
    obtain ⟨a, b⟩ := e
    by_cases eq : a = k
    · subst eq; simp
    · have skip (t : List (Sigma fun _ : κ => ν)) := List.dlookup_cons_ne t ⟨a, b⟩ (Ne.symm eq)
      have skip' (t : List (Sigma fun _ : κ => ν')) :=
        List.dlookup_cons_ne t ⟨a, f a b⟩ (Ne.symm eq)
      simp only [List.map_cons, skip, skip', ih]

/-- `values_mut` with the same change at every value. -/
def mapValues {ν' : Type} (m : HashMap κ ν) (f : ν → ν') : HashMap κ ν' := m.mapEntries fun _ => f

@[simp] theorem lookup_mapValues {ν' : Type} (f : ν → ν') (k : κ) (m : HashMap κ ν) :
    (m.mapValues f).lookup k = (m.lookup k).map f :=
  lookup_mapEntries (fun _ => f) k m

/-- `get_mut` followed by a change through the reference. -/
def modify (m : HashMap κ ν) (k : κ) (f : ν → ν) : HashMap κ ν :=
  m.mapEntries fun k' v => if k' = k then f v else v

def values (m : HashMap κ ν) : List ν := m.entries.map Sigma.snd

omit [DecidableEq κ] in
/-- `values` of a map after `retain`, with a predicate of the values alone. -/
theorem values_retain (p : ν → Bool) (m : HashMap κ ν) :
    (m.retain fun _ v => p v).values = m.values.filter p := by
  simp [values, retain, List.filter_map, Function.comp_def]

/-- A change of one value that `p` does not see keeps the number of values that satisfy it. -/
theorem length_filter_values_modify {p : ν → Bool} {f : ν → ν} (h : ∀ v, p (f v) = p v) (k : κ)
    (m : HashMap κ ν) :
    ((m.modify k f).values.filter p).length = (m.values.filter p).length := by
  simp only [values, modify, mapEntries, List.map_map, List.filter_map, List.length_map]
  congr 1
  refine List.filter_congr fun e _ => ?_
  by_cases eq : e.1 = k <;> simp [eq, h]

/-- `insert` adds at most the new value. -/
theorem length_filter_values_insert_le (p : ν → Bool) (k : κ) (v : ν) (m : HashMap κ ν) :
    ((values (m.insert k v)).filter p).length ≤ (m.values.filter p).length + (p v).toNat := by
  have rest : (((m.entries.kerase k).map Sigma.snd).filter p).Sublist (m.values.filter p) :=
    ((List.kerase_sublist k m.entries).map Sigma.snd).filter p
  have bound := rest.length_le
  rw [values, AList.entries_insert, List.map_cons, List.filter_cons]
  cases holds : p v <;> simp <;> omega

def toList (m : HashMap κ ν) : List (κ × ν) := m.entries.map fun e => (e.1, e.2)

@[simp] theorem mem_toList {k : κ} {v : ν} {m : HashMap κ ν} :
    (k, v) ∈ m.toList ↔ m.lookup k = some v := by
  rw [toList, List.mem_map]
  constructor
  · rintro ⟨⟨a, b⟩, mem, eq⟩
    cases eq
    exact AList.mem_lookup_iff.mpr mem
  · intro mem
    exact ⟨⟨k, v⟩, AList.mem_lookup_iff.mp mem, rfl⟩

omit [DecidableEq κ] in
theorem nodup_keys_toList (m : HashMap κ ν) : (m.toList.map Prod.fst).Nodup := by
  have keys : (m.entries.map Sigma.fst).Nodup := m.nodupKeys
  simpa [toList, Function.comp_def] using keys

theorem toList_insert (m : HashMap κ ν) (k : κ) (v : ν) :
    toList (m.insert k v) = (k, v) :: toList (m.erase k) := by
  have erased : (m.erase k).entries = List.kerase k m.entries := rfl
  simp [toList, AList.entries_insert, erased]

theorem toList_erase_sublist (m : HashMap κ ν) (k : κ) : (toList (m.erase k)).Sublist m.toList :=
  (List.kerase_sublist k m.entries).map _

/-- The entries of a map are one of them and the others. -/
theorem toList_perm_of_lookup {m : HashMap κ ν} {k : κ} {v : ν} (h : m.lookup k = some v) :
    m.toList.Perm ((k, v) :: toList (m.erase k)) := by
  have nodup (l : HashMap κ ν) : l.toList.Nodup := (nodup_keys_toList l).of_map _
  have fresh : (k, v) ∉ toList (m.erase k) := by simp
  refine (List.perm_ext_iff_of_nodup (nodup m) (List.nodup_cons.mpr ⟨fresh, nodup _⟩)).mpr ?_
  rintro ⟨k', v'⟩
  by_cases eq : k' = k
  · subst eq
    simp [h, eq_comm]
  · simp [eq, AList.lookup_erase_ne eq]

omit [DecidableEq κ] in
theorem toList_retain (p : κ → ν → Bool) (m : HashMap κ ν) :
    (m.retain p).toList = m.toList.filter fun e => p e.1 e.2 := by
  simp [toList, retain, List.filter_map, Function.comp_def]

omit [DecidableEq κ] in
theorem toList_mapEntries {ν' : Type} (f : κ → ν → ν') (m : HashMap κ ν) :
    (m.mapEntries f).toList = m.toList.map fun e => (e.1, f e.1 e.2) := by
  simp [toList, mapEntries, Function.comp_def]

/-- The same entries, with the one of a key at the end. -/
def moveToEnd (m : HashMap κ ν) (k : κ) (v : ν) : HashMap κ ν :=
  ⟨(m.erase k).entries ++ [⟨k, v⟩], by
    rw [List.NodupKeys, List.keys, List.map_append, List.nodup_append]
    refine ⟨(m.erase k).nodupKeys, by simp, ?_⟩
    rintro k' mem _ last rfl
    obtain rfl : k' = k := by simpa using last
    exact (AList.mem_erase.mp (AList.mem_keys.mpr mem)).1 rfl⟩

theorem toList_moveToEnd (m : HashMap κ ν) (k : κ) (v : ν) :
    (m.moveToEnd k v).toList = toList (m.erase k) ++ [(k, v)] := by
  simp [toList, moveToEnd]

theorem lookup_moveToEnd {m : HashMap κ ν} {k : κ} {v : ν} (found : m.lookup k = some v) (k' : κ) :
    (m.moveToEnd k v).lookup k' = m.lookup k' := by
  refine Option.ext fun v' => ?_
  rw [← mem_toList, ← mem_toList, toList_moveToEnd, (toList_perm_of_lookup found).mem_iff]
  simp [or_comm]

omit [DecidableEq κ] in
theorem toList_mapValues {ν' : Type} (f : ν → ν') (m : HashMap κ ν) :
    (m.mapValues f).toList = m.toList.map fun e => (e.1, f e.2) := by
  simp [toList, mapValues, mapEntries, Function.comp_def]

/-- A new key goes to the front. -/
theorem toList_insert_of_fresh {k : κ} {v : ν} {m : HashMap κ ν} (fresh : k ∉ m.toList.map Prod.fst) :
    toList (m.insert k v) = (k, v) :: m.toList := by
  have absent : k ∉ m.entries.keys := by
    simpa [toList, List.keys, Function.comp_def] using fresh
  rw [toList, AList.entries_insert, List.kerase_of_notMem_keys absent, List.map_cons, toList]

/-- Distinct keys whose values satisfy `p` are no more than the values that do. -/
theorem length_le_filter_values {m : HashMap κ ν} {p : ν → Bool} {ks : List κ} (distinct : ks.Nodup)
    (h : ∀ k ∈ ks, ∃ v, m.lookup k = some v ∧ p v) : ks.length ≤ (m.values.filter p).length := by
  have sub : ks ⊆ (m.toList.filter fun e => p e.2).map Prod.fst := by
    intro k mem
    obtain ⟨v, found, holds⟩ := h k mem
    exact List.mem_map.mpr ⟨(k, v), List.mem_filter.mpr ⟨mem_toList.mpr found, holds⟩, rfl⟩
  have count : (m.values.filter p).length = (m.toList.filter fun e => p e.2).length := by
    simp [values, toList, List.filter_map, Function.comp_def]
  have bound := (List.subperm_of_subset distinct sub).length_le
  rwa [List.length_map, ← count] at bound

/-- `collect` of key and value pairs: the last pair of a key wins. -/
def ofList (l : List (κ × ν)) : HashMap κ ν := l.foldl (fun m e => m.insert e.1 e.2) ∅

/-- Pairs with distinct keys are collected as they are. -/
theorem toList_ofList_of_nodup {l : List (κ × ν)} (distinct : (l.map Prod.fst).Nodup) :
    (ofList l).toList.Perm l := by
  suffices loop : ∀ m : HashMap κ ν, (l.map Prod.fst ++ m.toList.map Prod.fst).Nodup →
      (l.foldl (fun m e => m.insert e.1 e.2) m).toList.Perm (l ++ m.toList) by
    have filled := loop ∅ (by simpa [toList] using distinct)
    simpa [toList, ofList] using filled
  clear distinct
  induction l with
  | nil => exact fun m _ => List.Perm.refl _
  | cons e l ih =>
    intro m distinct
    rw [List.map_cons, List.cons_append, List.nodup_cons, List.mem_append, not_or] at distinct
    have table := @toList_insert_of_fresh _ _ _ e.1 e.2 m distinct.1.2
    rw [List.foldl_cons]
    refine (ih _ ?_).trans ?_
    · rw [table, List.map_cons]
      exact List.perm_middle.nodup_iff.mpr (List.nodup_cons.mpr ⟨by simpa using distinct.1, distinct.2⟩)
    · rw [table]
      exact List.perm_middle

section InsertAll
variable {ι : Type} {entry : ι → Option (κ × ν)} {l l' : List ι}

/-- A loop that inserts the entries that the items stand for. -/
def insertAll (entry : ι → Option (κ × ν)) (l : List ι) (m : HashMap κ ν) : HashMap κ ν :=
  l.foldl (fun m i => match entry i with
    | some e => m.insert e.1 e.2
    | none => m) m

/-- Items that stand for a key agree on its value. -/
def AgreeAt (entry : ι → Option (κ × ν)) (l : List ι) (k : κ) : Prop :=
  ∀ i ∈ l, ∀ j ∈ l, ∀ v v', entry i = some (k, v) → entry j = some (k, v') → v = v'

/-- Items that stand for the same key agree on its value. -/
def Agree (entry : ι → Option (κ × ν)) (l : List ι) : Prop :=
  ∀ i ∈ l, ∀ j ∈ l, ∀ k v v', entry i = some (k, v) → entry j = some (k, v') → v = v'

omit [DecidableEq κ] in
theorem Agree.at (agree : Agree entry l) (k : κ) : AgreeAt entry l k :=
  fun i mem j mem' => agree i mem j mem' k

omit [DecidableEq κ] in
/-- Items agree when those with the same key stand for the same entry. -/
theorem agree_of_fst (same : ∀ i ∈ l, ∀ j ∈ l, (entry i).map Prod.fst = (entry j).map Prod.fst → entry i = entry j) :
    Agree entry l := by
  intro i mem j mem' k v v' claim claim'
  have eq := same i mem j mem' (by rw [claim, claim']; rfl)
  rw [claim, claim'] at eq
  exact (Prod.mk.inj (Option.some.inj eq)).2

/-- A key whose items agree has the value of an item for it, and its old value without one. -/
theorem lookup_insertAll_of_agreeAt {k : κ} (agree : AgreeAt entry l k) (m : HashMap κ ν) (v : ν) :
    (insertAll entry l m).lookup k = some v ↔ (∃ i ∈ l, entry i = some (k, v)) ∨
      (∀ i ∈ l, ∀ v', entry i ≠ some (k, v')) ∧ m.lookup k = some v := by
  induction l generalizing m with
  | nil => simp [insertAll]
  | cons i l ih =>
    have rest : AgreeAt entry l k := fun i mem j mem' => agree i (by simp [mem]) j (by simp [mem'])
    have step := ih rest
    rcases claim : entry i with _ | ⟨k', v'⟩
    · have loop : insertAll entry (i :: l) m = insertAll entry l m := by simp [insertAll, claim]
      rw [loop, step]
      simp [claim]
    · have loop : insertAll entry (i :: l) m = insertAll entry l (m.insert k' v') := by
        simp [insertAll, claim]
      rw [loop, step]
      by_cases eq : k' = k
      · subst eq
        constructor
        · rintro (⟨j, mem, claimed⟩ | ⟨-, found⟩)
          · exact .inl ⟨j, by simp [mem], claimed⟩
          · obtain rfl : v' = v := by simpa using found
            exact .inl ⟨i, by simp, claim⟩
        · rintro (⟨j, mem, claimed⟩ | ⟨unclaimed, -⟩)
          · obtain rfl := agree i (by simp) j mem v' v claim claimed
            by_cases later : ∃ j ∈ l, entry j = some (k', v')
            · exact .inl later
            · refine .inr ⟨fun j mem v claimed' => later ⟨j, mem, ?_⟩, by simp⟩
              rw [claimed', agree i (by simp) j (by simp [mem]) v' v claim claimed']
          · exact absurd claim (unclaimed i (by simp) v')
      · have other : ∀ v, entry i ≠ some (k, v) := by
          intro v same
          rw [claim] at same
          exact eq (Prod.mk.inj (Option.some.inj same)).1
        simp [other, AList.lookup_insert_ne (Ne.symm eq)]

theorem lookup_insertAll (agree : Agree entry l) (m : HashMap κ ν) (k : κ) (v : ν) :
    (insertAll entry l m).lookup k = some v ↔ (∃ i ∈ l, entry i = some (k, v)) ∨
      (∀ i ∈ l, ∀ v', entry i ≠ some (k, v')) ∧ m.lookup k = some v :=
  lookup_insertAll_of_agreeAt (agree.at k) m v

/-- The order of items that agree on a key does not matter to it. -/
theorem lookup_insertAll_congr (same : ∀ i, i ∈ l ↔ i ∈ l') {k : κ} (agree : AgreeAt entry l k) {m m' : HashMap κ ν}
    (base : m.lookup k = m'.lookup k) :
    (insertAll entry l m).lookup k = (insertAll entry l' m').lookup k := by
  have agree' : AgreeAt entry l' k :=
    fun i mem j mem' => agree i ((same i).mpr mem) j ((same j).mpr mem')
  refine Option.ext fun v => ?_
  rw [lookup_insertAll_of_agreeAt agree, lookup_insertAll_of_agreeAt agree', base]
  simp [same]

end InsertAll

/-- A loop of `or_insert` keeps the first value that claims a key. -/
theorem lookup_foldl_orInsert (l : List κ) (v : ν) (m : HashMap κ ν) (k : κ) :
    (l.foldl (fun m k => m.orInsert k v) m).lookup k =
      (m.lookup k).or (if k ∈ l then some v else none) := by
  induction l generalizing m with
  | nil => simp
  | cons k' l ih =>
    rw [List.foldl_cons, ih, lookup_orInsert, Option.or_assoc]
    by_cases eq : k = k' <;> simp [eq]

/-- Entries grouped under a key: exactly the entries of the list with that key. -/
theorem lookup_groupBy {ι : Type} (l : List (ι × κ)) (m : HashMap κ (List ι)) (k : κ) :
    ((l.foldl (fun m e => m.upsert e.2 [] fun items => items ++ [e.1]) m).lookup k).getD [] =
      (m.lookup k).getD [] ++ (l.filter fun e => e.2 = k).map Prod.fst := by
  induction l generalizing m with
  | nil => simp
  | cons e l ih =>
    rw [List.foldl_cons, ih]
    by_cases eq : e.2 = k
    · subst eq; simp
    · simp [lookup_upsert_ne (Ne.symm eq), eq]

/-- Every entry satisfies the predicate. -/
def All (m : HashMap κ ν) (P : κ → ν → Prop) : Prop := ∀ k v, m.lookup k = some v → P k v

namespace All

variable {m : HashMap κ ν} {P : κ → ν → Prop}

theorem empty : All (∅ : HashMap κ ν) P := fun k v found => by simp at found

theorem insert (all : m.All P) {k : κ} {v : ν} (new : P k v) : All (m.insert k v) P := by
  intro k' v' found
  by_cases eq : k' = k
  · subst eq
    obtain rfl : v = v' := by simpa using found
    exact new
  · exact all k' v' ((AList.lookup_insert_ne eq).symm.trans found)

theorem erase (all : m.All P) (k : κ) : All (m.erase k) P := by
  intro k' v found
  by_cases eq : k' = k
  · rw [eq, AList.lookup_erase] at found
    cases found
  · exact all k' v ((AList.lookup_erase_ne eq).symm.trans found)

theorem retain (all : m.All P) (p : κ → ν → Bool) : (m.retain p).All P := by
  intro k v found
  rw [lookup_retain, Option.filter_eq_some_iff] at found
  exact all k v found.1

/-- A change of the entries that the predicate does not see. -/
theorem mapEntries (all : m.All P) {f : κ → ν → ν} (keep : ∀ k v, P k v → P k (f k v)) :
    (m.mapEntries f).All P := by
  intro k v found
  rw [lookup_mapEntries, Option.map_eq_some_iff] at found
  obtain ⟨old, present, rfl⟩ := found
  exact keep k old (all k old present)

theorem mapValues (all : m.All P) {f : ν → ν} (keep : ∀ k v, P k v → P k (f v)) :
    (m.mapValues f).All P := all.mapEntries keep

theorem of_mem_values {P : ν → Prop} (all : m.All fun _ => P) {v : ν} (mem : v ∈ m.values) : P v := by
  obtain ⟨e, listed, rfl⟩ := List.mem_map.mp mem
  exact all e.1 e.2 (AList.mem_lookup_iff.mpr listed)

end All

end HashMap

end Rust
