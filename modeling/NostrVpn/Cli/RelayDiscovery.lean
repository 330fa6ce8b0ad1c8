import NostrVpn.Cli.DaemonSession
import NostrVpn.Core.NodeRecord
import Mathlib.Data.List.Destutter

/-!
# Discovery of relay operators

`discover_relay_operator_pubkeys` of `nostr-vpn-cli/src/main.rs`. The collected map holds, for every author,
the record that was delivered last, which is the newest one only in some orders of delivery.
-/
namespace NostrVpn.Cli

open Rust NostrVpn.Core

def discoverRelayOperatorPubkeys (parse : String → Option NodeRecord) (connect : Except String Unit)
    (heard : List Heard) (verifications : RelayProviderVerificationBook) (now : Nat) :
    Except String (List String) := do
  let records ← discoverNodeRecords parse connect heard
  return rankedRelayProviders verifications now
    ((records.toList.filter fun (_, record) => record.hasService .Relay).map Prod.fst)

/-- The record has the greatest update time of the list. -/
def Newest (records : List NodeRecord) (record : NodeRecord) : Prop :=
  record ∈ records ∧ ∀ other ∈ records, other.updatedAt ≤ record.updatedAt

/-- In the records of every author the one that is delivered last is newer than all that differ from it. -/
def NewestLast (parse : String → Option NodeRecord) (heard : List Heard) : Prop :=
  ∀ author, ∀ last ∈ (recordsOf parse author heard).getLast?, ∀ record ∈ recordsOf parse author heard,
    record = last ∨ record.updatedAt < last.updatedAt

/-- Discovery returns for every author the newest record and nothing for the others, whatever the order of
delivery, and no author whose newest record offers no relay is a candidate. -/
structure DiscoversNewest (parse : String → Option NodeRecord) (heard : List Heard)
    (verifications : RelayProviderVerificationBook) (now : Nat) : Prop where
  newest : ∀ records, discoverNodeRecords parse (.ok ()) heard = .ok records → ∀ author record,
    records.lookup author = some record ↔ Newest (recordsOf parse author heard) record
  candidates : ∀ pubkeys, discoverRelayOperatorPubkeys parse (.ok ()) heard verifications now = .ok pubkeys →
    ∀ author record, Newest (recordsOf parse author heard) record → record.hasService .Relay = false →
      author ∉ pubkeys
  orders : ∀ heard', (∀ author, (recordsOf parse author heard').Perm (recordsOf parse author heard)) →
    NewestLast parse heard' → ∀ records records', discoverNodeRecords parse (.ok ()) heard = .ok records →
      discoverNodeRecords parse (.ok ()) heard' = .ok records' →
        ∀ author, records'.lookup author = records.lookup author

section Discovery
variable {parse : String → Option NodeRecord} {heard : List Heard} {records : List NodeRecord}
  {last : NodeRecord} {author : String}

/-- The last record is the newest one exactly if it is newer than all that differ from it. -/
theorem newest_iff_last (at' : records.getLast? = some last) :
    (∀ record, some last = some record ↔ Newest records record) ↔
      ∀ record ∈ records, record = last ∨ record.updatedAt < last.updatedAt := by
  have mem : last ∈ records := List.mem_of_getLast? at'
  constructor
  · intro newest record listed
    obtain ⟨-, latest⟩ := (newest last).mp rfl
    rcases Nat.lt_or_eq_of_le (latest record listed) with older | same
    · exact Or.inr older
    · have again : Newest records record := ⟨listed, fun other mem => by rw [same]; exact latest other mem⟩
      exact Or.inl (Option.some.inj ((newest record).mpr again)).symm
  · intro before record
    have latest (other : NodeRecord) (listed : other ∈ records) : other.updatedAt ≤ last.updatedAt := by
      rcases before other listed with rfl | older
      · exact Nat.le_refl _
      · exact older.le
    constructor
    · intro same
      obtain rfl := Option.some.inj same
      exact ⟨mem, latest⟩
    · rintro ⟨listed, newest⟩
      rcases before record listed with rfl | older
      · rfl
      · have := newest last mem
        omega

/-- The map is right exactly if every author's newest record comes last. -/
theorem lookup_newest_iff : (∀ author record, (collectNodeRecords parse ∅ heard).lookup author = some record ↔
    Newest (recordsOf parse author heard) record) ↔ NewestLast parse heard := by
  refine forall_congr' fun author => ?_
  rw [lookup_collectNodeRecords, AList.lookup_empty, Option.or_none]
  cases at' : (recordsOf parse author heard).getLast? with
  | none =>
    have empty := List.getLast?_eq_none_iff.mp at'
    simp [empty, Newest]
  | some last => simpa using newest_iff_last at'

theorem mem_rankedRelayProviders {verifications : RelayProviderVerificationBook} {now : Nat}
    {pubkeys : List String} (mem : author ∈ rankedRelayProviders verifications now pubkeys) :
    author ∈ pubkeys := by
  have listed := (List.destutter_sublist (· ≠ ·) _).subset mem
  exact List.mem_of_mem_filter (mem_sortByKey.mp listed)

end Discovery

/-- Discovery uses the newest records exactly if every author's newest acceptable record is delivered after
all its older ones. -/
theorem discovers_newest_iff (parse : String → Option NodeRecord) (heard : List Heard)
    (verifications : RelayProviderVerificationBook) (now : Nat) :
    DiscoversNewest parse heard verifications now ↔ NewestLast parse heard := by
  constructor
  · exact fun discovers => lookup_newest_iff.mp (discovers.newest _ rfl)
  · intro last
    have newest := lookup_newest_iff.mpr last
    refine ⟨?_, ?_, ?_⟩
    · rintro records ⟨⟩
      exact newest
    · rintro pubkeys ⟨⟩ author record top without mem
      obtain ⟨⟨author', record'⟩, listed, rfl⟩ := List.mem_map.mp (mem_rankedRelayProviders mem)
      obtain ⟨found, offers⟩ := List.mem_filter.mp listed
      have found' := HashMap.mem_toList.mp found
      rw [(newest author' record).mpr top] at found'
      obtain rfl := Option.some.inj found'
      simp [without] at offers
    · rintro heard' perm last' records records' ⟨⟩ ⟨⟩ author
      refine Option.ext fun record => ?_
      rw [newest, lookup_newest_iff.mpr last' author record, Newest, Newest]
      simp [(perm author).mem_iff]

/-! ## A relay that lags behind -/

/-- The content of an operator that offers the relay service. -/
def offerContent : String :=
  "\x7b\"mode\":\"public_service\",\"services\":[\x7b\"kind\":\"relay\",\"endpoint\":\"198.51.100.30:40001\"\x7d]," ++
    "\"updated_at\":1760000000,\"expires_at\":1760003600\x7d"

/-- The content of the same operator a minute later, without a service. -/
def withdrawnContent : String :=
  "\x7b\"mode\":\"public_service\",\"updated_at\":1760000060,\"expires_at\":1760003660\x7d"

/-- What the parser makes of the two contents. -/
def sampleRecords (content : String) : Option NodeRecord :=
  if content = offerContent then
    some { mode := .PublicService, services := [{ kind := .Relay, endpoint := "198.51.100.30:40001" }]
           updatedAt := 1760000000, expiresAt := 1760003600 }
  else if content = withdrawnContent then
    some { mode := .PublicService, updatedAt := 1760000060, expiresAt := 1760003660 }
  else none

def sampleOperator : String := "79be667ef9dcbbac55a06295ce870b07029bfcdb2dce28d959f2815b16f81798"

/-- A relay that lags behind delivers the older version last. -/
def laggingRelay : List Heard :=
  [.event 30078 sampleOperator withdrawnContent 1760000100, .event 30078 sampleOperator offerContent 1760000101]

/-- The operator is a candidate although its newest record offers no relay. -/
theorem older_record_replaces_newer : ¬ DiscoversNewest sampleRecords laggingRelay ∅ 1760000101 := by
  intro discovers
  have candidate : discoverRelayOperatorPubkeys sampleRecords (.ok ()) laggingRelay ∅ 1760000101 =
      .ok [sampleOperator] := by decide +kernel
  have newest : Newest (recordsOf sampleRecords sampleOperator laggingRelay)
      { mode := .PublicService, updatedAt := 1760000060, expiresAt := 1760003660 } :=
    ⟨by decide +kernel, by decide +kernel⟩
  exact discovers.candidates _ candidate sampleOperator _ newest rfl (by simp)

end NostrVpn.Cli
