import NostrVpn.Core.ConfigDefaults
import NostrVpn.Core.JoinRequests
import Mathlib.Data.String.Basic

/-!
# Pending join requests

The list of a network's pending requests: what recording a request and normalising the list keep of its
order, of its requesters and of the times.
-/
namespace NostrVpn.Core

open Rust

/-- One request for each requester, in the order of the requesters. -/
def Orderly (requests : List PendingInboundJoinRequest) : Prop :=
  (requests.map fun request => request.requester).Pairwise (· < ·)

instance (requests : List PendingInboundJoinRequest) : Decidable (Orderly requests) :=
  inferInstanceAs (Decidable (List.Pairwise _ _))

/-- The requester has a request on the list. -/
def HasRequest (requests : List PendingInboundJoinRequest) (requester : String) : Prop :=
  requester ∈ requests.map fun request => request.requester

instance (requests : List PendingInboundJoinRequest) (requester : String) :
    Decidable (HasRequest requests requester) := inferInstanceAs (Decidable (_ ∈ _))

/-- The times at which a key asks on a list whose requesters may be written in any form. -/
def requestTimes (sdk : NostrSdk) (requests : List PendingInboundJoinRequest) (key : String) : List Nat :=
  (requests.filter fun request => normalPubkey? sdk request.requester = some key).map
    fun request => request.requestedAt

section Requests
variable {sdk : NostrSdk} {requests : List PendingInboundJoinRequest} {request : PendingInboundJoinRequest}
  {participants : List String} {requester key name : String} {requestedAt : Nat}

theorem hasRequest_of_mem (mem : request ∈ requests) : HasRequest requests request.requester :=
  List.mem_map_of_mem mem

/-- On an orderly list a requester has one request. -/
theorem Orderly.eq_of_requester (orderly : Orderly requests) {other : PendingInboundJoinRequest}
    (mem : request ∈ requests) (mem' : other ∈ requests) (same : request.requester = other.requester) :
    request = other :=
  List.inj_on_of_nodup_map (orderly.imp ne_of_lt) mem mem' same

theorem orderly_sortByKey (distinct : (requests.map fun request => request.requester).Nodup) :
    Orderly (sortByKey (fun request => request.requester) requests) := by
  have total : Std.Total fun left right : PendingInboundJoinRequest => left.requester ≤ right.requester :=
    ⟨fun left right => le_total left.requester right.requester⟩
  have trans : IsTrans _ fun left right : PendingInboundJoinRequest => left.requester ≤ right.requester :=
    ⟨fun _ _ _ => le_trans⟩
  have sorted := List.pairwise_map.mpr (List.pairwise_insertionSort
    (fun left right : PendingInboundJoinRequest => left.requester ≤ right.requester) requests)
  have distinct := ((perm_sortByKey (fun request => request.requester) requests).map _).nodup_iff.mpr distinct
  exact sorted.imp₂ (fun _ _ => lt_of_le_of_ne) distinct

/-! ## Recording -/

/-- Recording a request keeps the list orderly. -/
theorem Orderly.record (orderly : Orderly requests) :
    Orderly ((recordRequest requests requester name requestedAt).getD requests) := by
  unfold recordRequest
  cases found : requests.find? fun request => request.requester == requester with
  | some existing =>
    dsimp only
    split_ifs
    · have requesters := @map_modifyFirst_eq_self _ _ (fun request => request.requester == requester)
        (fun request => { request with
          requestedAt := max request.requestedAt requestedAt, requesterNodeName := name }) requests
        (fun request => request.requester) fun _ _ => rfl
      rw [Option.getD_some, Orderly, requesters]
      exact orderly
    · exact orderly
  | none =>
    have absent : requester ∉ requests.map fun request => request.requester := by
      simpa using List.find?_eq_none.mp found
    refine orderly_sortByKey ?_
    rw [List.map_append, List.map_singleton, ← List.concat_eq_append]
    exact List.Nodup.concat absent (orderly.imp ne_of_lt)

/-- A request on the list after one has been recorded: it is somebody else's, or its time is the later one
of the recorded and the old one, if there was one. -/
theorem Orderly.of_mem_record (orderly : Orderly requests)
    (mem : request ∈ (recordRequest requests requester name requestedAt).getD requests) :
    (request.requester ≠ requester ∧ request ∈ requests) ∨
      (request.requester = requester ∧ ((¬ HasRequest requests requester ∧
          request.requestedAt = requestedAt) ∨
        ∃ old ∈ requests, old.requester = requester ∧
          request.requestedAt = max old.requestedAt requestedAt)) := by
  have orderly' := @Orderly.record requests requester name requestedAt orderly
  generalize eq : (recordRequest requests requester name requestedAt).getD requests = recorded
    at mem orderly'
  unfold recordRequest at eq
  cases found : requests.find? fun request => request.requester == requester with
  | some existing =>
    have same : existing.requester = requester := by simpa using List.find?_some found
    have listed := List.mem_of_find?_eq_some found
    simp only [found] at eq
    split_ifs at eq with news
    · let update := fun request : PendingInboundJoinRequest =>
        { request with requestedAt := max request.requestedAt requestedAt, requesterNodeName := name }
      have changed := @find?_modifyFirst _ (fun request => request.requester == requester) update
        requests fun _ selected => selected
      rw [Option.getD_some] at eq
      rw [eq, found, Option.map_some] at changed
      have mine : update existing ∈ recorded := List.mem_of_find?_eq_some changed
      by_cases other : request.requester = requester
      · obtain rfl := orderly'.eq_of_requester mem mine (other.trans same.symm)
        exact Or.inr ⟨other, Or.inr ⟨existing, listed, same, rfl⟩⟩
      · rw [← eq] at mem
        rcases mem_modifyFirst mem with old | ⟨old, -, selected, rfl⟩
        · exact Or.inl ⟨other, old⟩
        · exact absurd (by simpa using selected) other
    · obtain rfl := eq
      by_cases other : request.requester = requester
      · obtain rfl := orderly.eq_of_requester mem listed (other.trans same.symm)
        have late := (not_or.mp news).1
        exact Or.inr ⟨other, Or.inr ⟨request, listed, same, by omega⟩⟩
      · exact Or.inl ⟨other, mem⟩
  | none =>
    have absent : ¬ HasRequest requests requester := by simpa [HasRequest] using List.find?_eq_none.mp found
    simp only [found, Option.getD_some] at eq
    rw [← eq, mem_sortByKey, List.mem_append, List.mem_singleton] at mem
    rcases mem with old | rfl
    · exact Or.inl ⟨fun same => absent (same ▸ hasRequest_of_mem old), old⟩
    · exact Or.inr ⟨rfl, Or.inl ⟨absent, rfl⟩⟩

/-! ## Normalising -/

/-- The greatest element after one more. -/
theorem max?_append_singleton (times : List Nat) (time : Nat) :
    (times ++ [time]).max? = some (times.max?.elim time fun old => max old time) := by
  rw [List.max?_eq_some_iff]
  cases eq : times.max? with
  | none => simp [List.max?_eq_none_iff.mp eq]
  | some old =>
    obtain ⟨mem, greatest⟩ := List.max?_eq_some_iff.mp eq
    simp only [Option.elim_some, List.mem_append, List.mem_singleton]
    refine ⟨?_, ?_⟩
    · rcases le_total old time with late | early
      · exact Or.inr (by omega)
      · exact Or.inl (by rwa [Nat.max_eq_left early])
    · rintro other (before | rfl)
      · have := greatest other before
        omega
      · omega

theorem requestTimes_concat (requests : List PendingInboundJoinRequest)
    (request : PendingInboundJoinRequest) (key : String) :
    requestTimes sdk (requests ++ [request]) key = requestTimes sdk requests key ++
      if normalPubkey? sdk request.requester = some key then [request.requestedAt] else [] := by
  unfold requestTimes
  split_ifs with mine <;> simp [List.filter_append, mine]

/-- The map of the loop holds, under each key, the latest of its requests, and nothing of participants. -/
theorem lookup_dedup (requests : List PendingInboundJoinRequest) (key : String) :
    ((requests.foldl (dedupInboundJoinRequest sdk participants) ∅).lookup key).map
        (fun request => (request.requester, request.requestedAt)) =
      if key ∈ participants then none
      else (requestTimes sdk requests key).max?.map fun time => (key, time) := by
  induction requests using List.reverseRecOn with
  | nil => simp [requestTimes]
  | append_singleton requests request ih =>
    rw [List.foldl_append, List.foldl_cons, List.foldl_nil, requestTimes_concat]
    generalize requests.foldl (dedupInboundJoinRequest sdk participants) ∅ = deduped at ih ⊢
    unfold dedupInboundJoinRequest
    cases parsed : normalPubkey? sdk request.requester with
    | none => simpa using ih
    | some requester =>
      dsimp only
      by_cases mine : requester = key
      · subst mine
        rw [if_pos rfl, max?_append_singleton]
        split_ifs with participant known
        · rw [ih, if_pos participant]
        · rw [if_neg participant] at ih
          obtain ⟨existing, found, late⟩ := (Option.any_eq_true _ _).mp known
          rw [found, Option.map_some] at ih ⊢
          obtain ⟨time, greatest, eq⟩ := Option.map_eq_some_iff.mp ih.symm
          obtain ⟨rfl, rfl⟩ := Prod.mk.inj eq
          rw [greatest, Option.map_some, Option.elim_some, Nat.max_eq_left (by simpa using late)]
        · rw [if_neg participant] at ih
          rw [AList.lookup_insert, Option.map_some, Option.map_some]
          cases found : deduped.lookup requester with
          | none =>
            rw [found] at ih
            have none' : (requestTimes sdk requests requester).max? = none := by simpa using ih.symm
            rw [none', Option.elim_none]
          | some existing =>
            rw [found, Option.map_some] at ih
            obtain ⟨time, greatest, eq⟩ := Option.map_eq_some_iff.mp ih.symm
            obtain ⟨-, rfl⟩ := Prod.mk.inj eq
            have earlier : existing.requestedAt < request.requestedAt := by simpa [found] using known
            rw [greatest, Option.elim_some, Nat.max_eq_right (by omega)]
      · have other : some requester ≠ some key := fun same => mine (Option.some.inj same)
        rw [if_neg other, List.append_nil]
        split_ifs with participant known <;> simp_all [AList.lookup_insert_ne (Ne.symm mine)]

/-- The key under which the loop stores a request is its requester. -/
theorem requester_of_lookup_dedup
    (found : (requests.foldl (dedupInboundJoinRequest sdk participants) ∅).lookup key = some request) :
    request.requester = key ∧ key ∉ participants ∧
      (requestTimes sdk requests key).max? = some request.requestedAt := by
  have eq := @lookup_dedup sdk participants requests key
  rw [found, Option.map_some] at eq
  split_ifs at eq with participant
  obtain ⟨time, greatest, eq⟩ := Option.map_eq_some_iff.mp eq.symm
  obtain ⟨rfl, rfl⟩ := Prod.mk.inj eq
  exact ⟨rfl, participant, greatest⟩

theorem orderly_normalize (requests : List PendingInboundJoinRequest) (participants : List String) :
    Orderly (normalizeInboundJoinRequests sdk requests participants) := by
  refine orderly_sortByKey ?_
  generalize eq : requests.foldl (dedupInboundJoinRequest sdk participants) ∅ = deduped
  have keys : deduped.values.map (fun request => request.requester) = deduped.entries.map Sigma.fst := by
    rw [HashMap.values, List.map_map]
    refine List.map_congr_left fun entry mem => ?_
    have found : deduped.lookup entry.1 = some entry.2 := AList.mem_lookup_iff.mpr mem
    exact (requester_of_lookup_dedup (eq ▸ found)).1
  rw [keys]
  exact deduped.nodupKeys

/-- A request on the normalised list asks at the latest of the times of its key, which is no participant. -/
theorem of_mem_normalize (mem : request ∈ normalizeInboundJoinRequests sdk requests participants) :
    request.requester ∉ participants ∧
      (requestTimes sdk requests request.requester).max? = some request.requestedAt := by
  rw [normalizeInboundJoinRequests, mem_sortByKey, HashMap.values, List.mem_map] at mem
  obtain ⟨⟨key, request⟩, stored, rfl⟩ := mem
  obtain ⟨rfl, outside, greatest⟩ := requester_of_lookup_dedup (AList.mem_lookup_iff.mpr stored)
  exact ⟨outside, greatest⟩

/-- A requester on the normalised list is a key in its normal form. -/
theorem normal_of_mem_normalize (lawful : sdk.Lawful)
    (mem : request ∈ normalizeInboundJoinRequests sdk requests participants) :
    normalPubkey? sdk request.requester = some request.requester := by
  obtain ⟨time, -⟩ := List.max?_eq_some_iff.mp (of_mem_normalize mem).2
  obtain ⟨raw, listed, -⟩ := List.mem_map.mp time
  have parsed : normalPubkey? sdk raw.requester = some request.requester := by
    simpa using (List.mem_filter.mp listed).2
  exact normalPubkey?_eq_some.mpr (lawful.parse_hex (normalPubkey?_eq_some.mp parsed))

/-- Normalising a list of normal keys only drops requests. -/
theorem old_of_mem_normalize
    (normal : ∀ request ∈ requests, normalPubkey? sdk request.requester = some request.requester)
    (mem : request ∈ normalizeInboundJoinRequests sdk requests participants) :
    ∃ old ∈ requests, old.requester = request.requester ∧ old.requestedAt = request.requestedAt := by
  obtain ⟨time, -⟩ := List.max?_eq_some_iff.mp (of_mem_normalize mem).2
  obtain ⟨raw, listed, at'⟩ := List.mem_map.mp time
  obtain ⟨old, mine⟩ := List.mem_filter.mp listed
  rw [normal raw old] at mine
  exact ⟨raw, old, by simpa using mine, at'⟩

end Requests

end NostrVpn.Core
