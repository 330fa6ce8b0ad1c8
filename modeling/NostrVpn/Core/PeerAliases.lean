import NostrVpn.Core.MagicDnsLabels
import NostrVpn.Core.NetworkRoster
import NostrVpn.Transition

/-!
# The table of aliases

The loop of `normalize_peer_aliases` over the members. It gives every member a label of its own, unless a
label and all its candidates are in use: then the loop falls back on the label itself.
-/
namespace NostrVpn.Core

open Rust Transition

/-- The label or one of its candidates is not in use. -/
def FreeLabel (base : String) (used : List String) : Prop :=
  base ∉ used ∨ ∃ counter ∈ List.range' 2 9998, magicDnsCandidate base counter ∉ used

instance (base : String) (used : List String) : Decidable (FreeLabel base used) :=
  inferInstanceAs (Decidable (_ ∨ ∃ _ ∈ _, _))

/-- A table with one valid label for every member, all different and none the node's own one. -/
structure AliasTable (sdk : NostrSdk) (aliases : HashMap String String) (own : Option String)
    (members : List String) : Prop where
  members : (aliases.toList.map Prod.fst).Perm (members.map (npubForPubkeyHex sdk))
  valid : ∀ entry ∈ aliases.toList, IsMagicDnsLabel entry.2
  distinct : (aliases.toList.map Prod.snd).Nodup
  others : ∀ label ∈ own, label ∉ aliases.toList.map Prod.snd

section Loop
variable (sdk : NostrSdk) (sha256 : Sha256)

/-- The loop of `normalize_peer_aliases` over the configured aliases. -/
def storedAliases (aliases : HashMap String String) : HashMap String String :=
  aliases.toList.foldl (fun normalized (participant, label) =>
    match normalizeNpubKey sdk participant, normalizeMagicDnsLabel label with
    | some npub, some label => normalized.insert npub label
    | _, _ => normalized) ∅

/-- The label that a member should get, before it is made unique. -/
def preferredAlias (acc : HashMap String String × List String × HashMap String String)
    (participant : String) : String :=
  (acc.1.lookup (npubForPubkeyHex sdk participant)).getD
    (defaultMagicDnsLabelForPubkey sha256 participant acc.2.1)

/-- No member reaches the fallback of `uniquify_magic_dns_label`. -/
def NeverExhausted (aliases : HashMap String String) (own : Option String) (members : List String) : Prop :=
  Along (AppConfig.assignAlias sdk sha256) (fun acc member => FreeLabel (preferredAlias sdk sha256 acc member) acc.2.1)
    (storedAliases sdk aliases, own.toList, ∅) members

instance (aliases : HashMap String String) (own : Option String) (members : List String) :
    Decidable (NeverExhausted sdk sha256 aliases own members) := inferInstanceAs (Decidable (Along _ _ _ _))

end Loop

/-! ## One label -/

section Labels
variable {base : String} {used : List String}

theorem uniquify_of_free (nonempty : base ≠ "") (free : FreeLabel base used) :
    ∃ label, uniquifyMagicDnsLabel base used = (label, label :: used) ∧ label ∉ used ∧
      (label = base ∨ ∃ counter < 10000, label = magicDnsCandidate base counter) := by
  simp only [uniquifyMagicDnsLabel, nonempty, if_false]
  by_cases unused : base ∉ used
  · exact ⟨base, by rw [if_pos unused], unused, Or.inl rfl⟩
  · rw [if_neg unused]
    cases found : (List.range' 2 9998).find? fun counter => magicDnsCandidate base counter ∉ used with
    | some counter =>
      have small : counter < 10000 := by
        have mem := List.mem_of_find?_eq_some found
        rw [List.mem_range'_1] at mem
        omega
      exact ⟨_, rfl, by simpa using List.find?_some found, Or.inr ⟨counter, small, rfl⟩⟩
    | none =>
      obtain ⟨counter, listed, unused'⟩ := free.resolve_left unused
      exact absurd unused' (by simpa using List.find?_eq_none.mp found counter listed)

theorem isMagicDnsLabel_of_made {label : String} (valid : IsMagicDnsLabel base)
    (made : label = base ∨ ∃ counter < 10000, label = magicDnsCandidate base counter) : IsMagicDnsLabel label := by
  rcases made with rfl | ⟨counter, small, rfl⟩
  · exact valid
  · exact isMagicDnsLabel_candidate valid small

/-- When every candidate is in use, the label is given a second time. -/
theorem uniquify_of_taken (nonempty : base ≠ "") (taken : ¬ FreeLabel base used) :
    uniquifyMagicDnsLabel base used = (base, used) ∧ base ∈ used := by
  obtain ⟨used', candidates⟩ := not_or.mp taken
  simp only [not_not] at used'
  have none' : (List.range' 2 9998).find? (fun counter => magicDnsCandidate base counter ∉ used) = none := by
    rw [List.find?_eq_none]
    intro counter listed unused
    exact candidates ⟨counter, listed, by simpa using unused⟩
  refine ⟨?_, used'⟩
  simp only [uniquifyMagicDnsLabel, nonempty, if_false, used', not_true_eq_false, none']

theorem nonempty_of_isMagicDnsLabel {label : String} (valid : IsMagicDnsLabel label) : label ≠ "" := by
  rintro rfl
  exact absurd valid (by decide)

end Labels

/-! ## The loop -/

-- Two matches on the same call are compared without evaluating it.
attribute [local irreducible] normalizeNpubKey

section Members
variable {sdk : NostrSdk} {sha256 : Sha256} {own : Option String} {members done : List String} {member : String}
  {acc : HashMap String String × List String × HashMap String String}

theorem assignAlias_eq (acc : HashMap String String × List String × HashMap String String)
    (member : String) : AppConfig.assignAlias sdk sha256 acc member =
      (acc.1.erase (npubForPubkeyHex sdk member),
        (uniquifyMagicDnsLabel (preferredAlias sdk sha256 acc member) acc.2.1).2,
        acc.2.2.insert (npubForPubkeyHex sdk member)
          (uniquifyMagicDnsLabel (preferredAlias sdk sha256 acc member) acc.2.1).1) := rfl

/-- The state of the loop when the members before have labels of their own. -/
structure Assigned (sdk : NostrSdk) (own : Option String) (done : List String)
    (acc : HashMap String String × List String × HashMap String String) : Prop where
  keys : acc.2.2.toList.map Prod.fst = (done.map (npubForPubkeyHex sdk)).reverse
  used : acc.2.1 = acc.2.2.toList.map Prod.snd ++ own.toList
  nodup : acc.2.1.Nodup
  valid : ∀ entry ∈ acc.2.2.toList, IsMagicDnsLabel entry.2
  stored : acc.1.All fun _ label => IsMagicDnsLabel label

theorem isMagicDnsLabel_preferred (hex : sdk.HexKeys) (normal : normalPubkey? sdk member = some member)
    (stored : acc.1.All fun _ label => IsMagicDnsLabel label) :
    IsMagicDnsLabel (preferredAlias sdk sha256 acc member) := by
  unfold preferredAlias
  cases found : acc.1.lookup (npubForPubkeyHex sdk member) with
  | some label => exact stored _ label found
  | none => exact isMagicDnsLabel_default hex (normalPubkey?_eq_some.mp normal) sha256 acc.2.1

theorem stored_storedAliases (aliases : HashMap String String) :
    (storedAliases sdk aliases).All fun _ label => IsMagicDnsLabel label := by
  unfold storedAliases
  generalize aliases.toList = entries
  suffices kept : ∀ normalized : HashMap String String,
      (normalized.All fun _ label => IsMagicDnsLabel label) →
      HashMap.All (entries.foldl (fun normalized (participant, label) =>
        match normalizeNpubKey sdk participant, normalizeMagicDnsLabel label with
        | some npub, some label => normalized.insert npub label
        | _, _ => normalized) normalized) fun _ label => IsMagicDnsLabel label from
    kept ∅ HashMap.All.empty
  induction entries with
  | nil => exact fun _ all => all
  | cons entry rest ih =>
    intro normalized all
    refine ih _ ?_
    dsimp only
    split
    · rename_i valid
      exact all.insert (isMagicDnsLabel_of_normalize valid)
    · exact all

theorem assigned_init (self : ∀ label ∈ own, IsMagicDnsLabel label) (aliases : HashMap String String) :
    Assigned sdk own [] (storedAliases sdk aliases, own.toList, ∅) where
  keys := rfl
  used := rfl
  nodup := by cases own <;> simp
  valid := nofun
  stored := stored_storedAliases aliases

/-- A member whose label, or a candidate for it, is free. -/
theorem Assigned.step (assigned : Assigned sdk own done acc) (hex : sdk.HexKeys)
    (normal : normalPubkey? sdk member = some member)
    (fresh : npubForPubkeyHex sdk member ∉ done.map (npubForPubkeyHex sdk))
    (free : FreeLabel (preferredAlias sdk sha256 acc member) acc.2.1) :
    Assigned sdk own (done ++ [member]) (AppConfig.assignAlias sdk sha256 acc member) := by
  have preferred := @isMagicDnsLabel_preferred sdk sha256 member acc hex normal assigned.stored
  obtain ⟨label, eq, unused, made⟩ := uniquify_of_free (nonempty_of_isMagicDnsLabel preferred) free
  have new : npubForPubkeyHex sdk member ∉ acc.2.2.toList.map Prod.fst := by
    simpa [assigned.keys] using fresh
  have table := HashMap.toList_insert_of_fresh (v := label) new
  rw [assignAlias_eq, eq]
  refine ⟨?_, ?_, ?_, ?_, assigned.stored.erase _⟩
  · simp [table, assigned.keys]
  · simp [table, assigned.used]
  · exact List.nodup_cons.mpr ⟨unused, assigned.nodup⟩
  · rw [table]
    exact List.forall_mem_cons.mpr ⟨isMagicDnsLabel_of_made preferred made, assigned.valid⟩

/-- While no member reaches the fallback, every member gets a label of its own. -/
theorem Assigned.loop (assigned : Assigned sdk own done acc) (hex : sdk.HexKeys)
    (normal : ∀ member ∈ members, normalPubkey? sdk member = some member)
    (distinct : ((done ++ members).map (npubForPubkeyHex sdk)).Nodup)
    (free : Along (AppConfig.assignAlias sdk sha256)
      (fun acc member => FreeLabel (preferredAlias sdk sha256 acc member) acc.2.1) acc members) :
    Assigned sdk own (done ++ members) (members.foldl (AppConfig.assignAlias sdk sha256) acc) := by
  induction members generalizing done acc with
  | nil => simpa using assigned
  | cons member rest ih =>
    have fresh : npubForPubkeyHex sdk member ∉ done.map (npubForPubkeyHex sdk) := by
      rw [List.map_append, List.map_cons] at distinct
      exact fun mem => (List.nodup_append.mp distinct).2.2 _ mem _ (by simp) rfl
    have next := assigned.step hex (normal member (by simp)) fresh free.1
    have loop := ih next (fun other mem => normal other (List.mem_cons_of_mem _ mem))
      (by simpa using distinct) free.2
    simpa using loop

/-- Labels that have been given stay in the table. -/
theorem values_loop (distinct : (members.map (npubForPubkeyHex sdk)).Nodup)
    (fresh : ∀ member ∈ members, npubForPubkeyHex sdk member ∉ acc.2.2.toList.map Prod.fst) :
    ∃ labels, (members.foldl (AppConfig.assignAlias sdk sha256) acc).2.2.toList.map Prod.snd =
      labels ++ acc.2.2.toList.map Prod.snd := by
  induction members generalizing acc with
  | nil => exact ⟨[], rfl⟩
  | cons member rest ih =>
    rw [List.map_cons, List.nodup_cons] at distinct
    have table := @HashMap.toList_insert_of_fresh _ _ _ _
      (uniquifyMagicDnsLabel (preferredAlias sdk sha256 acc member) acc.2.1).1 _ (fresh member (by simp))
    obtain ⟨labels, eq⟩ := @ih (AppConfig.assignAlias sdk sha256 acc member) distinct.2 (by
      intro other mem
      rw [assignAlias_eq, table, List.map_cons, List.mem_cons, not_or]
      refine ⟨fun same => distinct.1 ?_, fresh other (List.mem_cons_of_mem _ mem)⟩
      exact List.mem_map.mpr ⟨other, mem, same⟩)
    rw [assignAlias_eq, table, List.map_cons] at eq
    exact ⟨labels ++ [_], by rw [List.foldl_cons, assignAlias_eq, eq, List.append_assoc]; rfl⟩

/-- A member that reaches the fallback gets a label that somebody has. -/
theorem neverExhausted_of_nodup (assigned : Assigned sdk own done acc) (hex : sdk.HexKeys)
    (normal : ∀ member ∈ members, normalPubkey? sdk member = some member)
    (distinct : ((done ++ members).map (npubForPubkeyHex sdk)).Nodup)
    (labels : ((members.foldl (AppConfig.assignAlias sdk sha256) acc).2.2.toList.map Prod.snd ++
      own.toList).Nodup) :
    Along (AppConfig.assignAlias sdk sha256)
      (fun acc member => FreeLabel (preferredAlias sdk sha256 acc member) acc.2.1) acc members := by
  induction members generalizing done acc with
  | nil => trivial
  | cons member rest ih =>
    have fresh : npubForPubkeyHex sdk member ∉ done.map (npubForPubkeyHex sdk) := by
      rw [List.map_append, List.map_cons] at distinct
      exact fun mem => (List.nodup_append.mp distinct).2.2 _ mem _ (by simp) rfl
    have free : FreeLabel (preferredAlias sdk sha256 acc member) acc.2.1 := by
      by_contra taken
      have preferred := @isMagicDnsLabel_preferred sdk sha256 member acc hex (normal member (by simp))
        assigned.stored
      obtain ⟨eq, used⟩ := uniquify_of_taken (nonempty_of_isMagicDnsLabel preferred) taken
      have new : npubForPubkeyHex sdk member ∉ acc.2.2.toList.map Prod.fst := by
        simpa [assigned.keys] using fresh
      have table := HashMap.toList_insert_of_fresh (v := preferredAlias sdk sha256 acc member) new
      obtain ⟨-, later, apart⟩ := List.nodup_append.mp (List.map_append ▸ distinct)
      rw [List.map_cons, List.nodup_cons] at later
      obtain ⟨given, values⟩ := @values_loop sdk sha256 rest
        (AppConfig.assignAlias sdk sha256 acc member) later.2 (by
          intro other mem
          rw [assignAlias_eq, eq, table, List.map_cons, List.mem_cons, not_or, assigned.keys, List.mem_reverse]
          refine ⟨fun same => later.1 (List.mem_map.mpr ⟨other, mem, same⟩), fun before => ?_⟩
          exact apart _ before _ (by simp [List.mem_map_of_mem mem]) rfl)
      rw [List.foldl_cons, values, assignAlias_eq, eq, table, List.map_cons, List.append_assoc,
        List.cons_append, ← assigned.used] at labels
      exact (List.nodup_cons.mp (List.nodup_append.mp labels).2.1).1 used
    have next := assigned.step hex (normal member (by simp)) fresh free
    exact ⟨free, ih next (fun other mem => normal other (List.mem_cons_of_mem _ mem))
      (by simpa using distinct) labels⟩

/-- The loop gives every member a valid label of its own exactly when no member reaches the fallback. -/
theorem aliasTable_iff (hex : sdk.HexKeys) (self : ∀ label ∈ own, IsMagicDnsLabel label)
    (normal : ∀ member ∈ members, normalPubkey? sdk member = some member)
    (distinct : (members.map (npubForPubkeyHex sdk)).Nodup) (aliases : HashMap String String) :
    AliasTable sdk (members.foldl (AppConfig.assignAlias sdk sha256)
        (storedAliases sdk aliases, own.toList, ∅)).2.2 own members ↔
      NeverExhausted sdk sha256 aliases own members := by
  have init := @assigned_init sdk own self aliases
  constructor
  · intro table
    refine neverExhausted_of_nodup init hex normal distinct (List.nodup_append.mpr ⟨table.distinct, ?_, ?_⟩)
    · cases own <;> simp
    · rintro label mem _ self' rfl
      exact table.others label (by simpa using self') mem
  · intro free
    have assigned := init.loop hex normal distinct free
    obtain ⟨labels, -, apart⟩ := List.nodup_append.mp (assigned.used ▸ assigned.nodup)
    refine ⟨?_, assigned.valid, labels, fun label mine mem => apart label mem label (by simpa using mine) rfl⟩
    rw [assigned.keys, List.nil_append]
    exact List.reverse_perm _

end Members

/-! ## The table of a configuration -/

section Config
variable {sdk : NostrSdk} {sha256 : Sha256} {members members' : List String}

/-- The keys of the table tell the members apart. -/
theorem nodup_npubs (lawful : sdk.Lawful)
    (normal : ∀ member ∈ members, normalPubkey? sdk member = some member) (distinct : members.Nodup) :
    (members.map (npubForPubkeyHex sdk)).Nodup := by
  refine distinct.map_on fun member mem other mem' same => ?_
  have left := normalPubkey?_npub lawful member
  have right := normalPubkey?_npub lawful other
  rw [same, right, normal other mem', normal member mem] at left
  exact (Option.some.inj left).symm

/-- What the loop over the members leaves in a configuration. -/
theorem aliasTable_normalizePeerAliases (lawful : sdk.Lawful) (hex : sdk.HexKeys) {config : AppConfig}
    (normal : ∀ member ∈ config.allNetworkMemberPubkeysHex, normalPubkey? sdk member = some member) :
    AliasTable sdk (config.normalizePeerAliases sdk sha256).peerAliases config.preferredSelfMagicDnsLabel
        config.allNetworkMemberPubkeysHex ↔
      NeverExhausted sdk sha256 config.peerAliases config.preferredSelfMagicDnsLabel
        config.allNetworkMemberPubkeysHex :=
  aliasTable_iff hex (fun _ own => isMagicDnsLabel_of_normalize own) normal
    (nodup_npubs lawful normal (nodup_sortDedup _)) config.peerAliases

/-- A table that is kept stays the one of the members when they stay the same. -/
theorem aliasTable_kept (lawful : sdk.Lawful)
    (normal : ∀ member ∈ members, normalPubkey? sdk member = some member)
    (normal' : ∀ member ∈ members', normalPubkey? sdk member = some member) (distinct' : members'.Nodup)
    {aliases : HashMap String String} {own : Option String} (table : AliasTable sdk aliases own members) :
    AliasTable sdk aliases own members' ↔ ∀ member, member ∈ members' ↔ member ∈ members := by
  have npubs (left right : List String)
      (normalLeft : ∀ member ∈ left, normalPubkey? sdk member = some member)
      (normalRight : ∀ member ∈ right, normalPubkey? sdk member = some member)
      (same : ∀ npub, npub ∈ left.map (npubForPubkeyHex sdk) ↔ npub ∈ right.map (npubForPubkeyHex sdk))
      (member : String) (mem : member ∈ left) : member ∈ right := by
    obtain ⟨other, mem', eq⟩ := List.mem_map.mp ((same _).mp (List.mem_map_of_mem mem))
    have key := normalPubkey?_npub lawful other
    rw [eq, normalPubkey?_npub lawful, normalLeft member mem, normalRight other mem'] at key
    exact Option.some.inj key ▸ mem'
  constructor
  · intro table' member
    have same := table'.members.symm.trans table.members
    exact ⟨npubs _ _ normal' normal (fun npub => same.mem_iff) member,
      npubs _ _ normal normal' (fun npub => same.mem_iff.symm) member⟩
  · intro same
    have distinct : members.Nodup :=
      (table.members.nodup_iff.mp (HashMap.nodup_keys_toList aliases)).of_map _
    have perm := (List.perm_ext_iff_of_nodup distinct' distinct).mpr same
    exact { table with members := table.members.trans (perm.symm.map _) }

end Config

/-! ## Small networks -/

/-- A label or a candidate for it is free as long as fewer labels are in use than there are candidates. -/
theorem freeLabel_of_length (base : String) {used : List String} (few : used.length < 9998) :
    FreeLabel base used := by
  by_contra taken
  obtain ⟨-, candidates⟩ := not_or.mp taken
  have all : (List.range' 2 9998).map (magicDnsCandidate base) ⊆ used := by
    intro label mem
    obtain ⟨counter, listed, rfl⟩ := List.mem_map.mp mem
    by_contra unused
    exact candidates ⟨counter, listed, unused⟩
  have distinct := (List.nodup_range' 1 (s := 2) (n := 9998)).map (magicDnsCandidate_injective base)
  have room := (distinct.subperm all).length_le
  rw [List.length_map, List.length_range'] at room
  omega

theorem length_used_assignAlias (sdk : NostrSdk) (sha256 : Sha256)
    (acc : HashMap String String × List String × HashMap String String) (member : String) :
    (AppConfig.assignAlias sdk sha256 acc member).2.1.length ≤ acc.2.1.length + 1 := by
  rw [assignAlias_eq]
  unfold uniquifyMagicDnsLabel
  dsimp only
  grind

/-- The loop reaches the fallback for no member of networks with fewer than 9997 members. -/
theorem neverExhausted_of_length (sdk : NostrSdk) (sha256 : Sha256) (aliases : HashMap String String)
    (own : Option String) {members : List String} (few : members.length < 9997) :
    NeverExhausted sdk sha256 aliases own members := by
  have room (acc : HashMap String String × List String × HashMap String String)
      (fits : acc.2.1.length + members.length < 9999) : Along (AppConfig.assignAlias sdk sha256)
        (fun acc member => FreeLabel (preferredAlias sdk sha256 acc member) acc.2.1) acc members := by
    induction members generalizing acc with
    | nil => trivial
    | cons member rest ih =>
      have longer := length_used_assignAlias sdk sha256 acc member
      rw [List.length_cons] at few fits
      exact ⟨freeLabel_of_length _ (by omega), ih (by omega) _ (by omega)⟩
  refine room _ ?_
  have : own.toList.length ≤ 1 := by cases own <;> simp
  dsimp only
  omega

end NostrVpn.Core
