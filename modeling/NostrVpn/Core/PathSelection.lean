import NostrVpn.Core.Paths

/-!
# What a refresh keeps and when a selection leaves an endpoint

The entry of an endpoint after a refresh is a function of its entry before. An endpoint that is
not tracked, or that another tracked endpoint outranks while nothing holds the book at it, is not
selected.
-/
namespace NostrVpn.Core

open Rust Rust.Net Paths

-- Terms with texts are compared without reading the texts.
attribute [local irreducible] String.toList

/-! ## The announced endpoints -/

/-- The loop of `announcement_endpoints` on the kinds in front of it. -/
theorem foldl_announced (kinds : List (Option String × PeerPathSource))
    (out : List (String × PeerPathSource)) (nodup : (out.map Prod.fst).Nodup) :
    let all := kinds.foldl (fun out (endpoint, source) =>
      match endpoint with
      | some endpoint =>
        if isBlank endpoint || out.any (fun e => e.1 == endpoint) then out
        else out ++ [(endpoint, source)]
      | none => out) out
    (all.map Prod.fst).Nodup ∧ ∀ e ∈ all, e ∈ out ∨ (some e.1, e.2) ∈ kinds := by
  induction kinds generalizing out with
  | nil => simpa using nodup
  | cons kind kinds ih =>
    obtain ⟨endpoint, source⟩ := kind
    cases endpoint with
    | none =>
      obtain ⟨nodup', from'⟩ := ih out nodup
      refine ⟨nodup', fun e mem => ?_⟩
      exact (from' e mem).imp id (List.mem_cons_of_mem _)
    | some endpoint =>
      rw [List.foldl_cons]
      dsimp only
      split_ifs with skip
      · obtain ⟨nodup', from'⟩ := ih out nodup
        refine ⟨nodup', fun e mem => ?_⟩
        exact (from' e mem).imp id (List.mem_cons_of_mem _)
      · have fresh : endpoint ∉ out.map Prod.fst := by
          intro mem
          obtain ⟨e, memE, rfl⟩ := List.mem_map.mp mem
          exact skip (by simp only [Bool.or_eq_true, List.any_eq_true, beq_iff_eq]; grind)
        obtain ⟨nodup', from'⟩ := ih (out ++ [(endpoint, source)])
          (by simpa [List.nodup_append] using ⟨nodup, by grind⟩)
        refine ⟨nodup', fun e mem => ?_⟩
        rcases from' e mem with old | new
        · rcases List.mem_append.mp old with old | last
          · exact Or.inl old
          · obtain rfl := List.mem_singleton.mp last
            exact Or.inr (by simp)
        · exact Or.inr (List.mem_cons_of_mem _ new)

theorem nodup_announcementEndpoints (a : PeerAnnouncement) :
    ((announcementEndpoints a).map Prod.fst).Nodup :=
  (foldl_announced _ [] (by simp)).1

theorem mem_announcementEndpoints {a : PeerAnnouncement} {e : String × PeerPathSource}
    (h : e ∈ announcementEndpoints a) :
    a.localEndpoint = some e.1 ∧ e.2 = .Local ∨ a.publicEndpoint = some e.1 ∧ e.2 = .Public ∨
      a.relayEndpoint = some e.1 ∧ e.2 = .Relay ∨ a.endpoint = e.1 ∧ e.2 = .Legacy := by
  rcases (foldl_announced _ [] (by simp)).2 e h with old | mem
  · simp at old
  · obtain ⟨endpoint, source⟩ := e
    simp only [List.mem_cons, Prod.mk.injEq, List.not_mem_nil, or_false, Option.some.injEq] at mem
    grind

/-! ## The entry after a refresh -/

/-- The test under which a refresh keeps an entry of the book. -/
def keptByRefresh (a : PeerAnnouncement) (seenAt : Nat) (endpoint : String)
    (tracked : TrackedPeerPath) : Bool :=
  let relays := ((announcementEndpoints a).filter fun e => e.2 == PeerPathSource.Relay).map Prod.fst
  (tracked.source != .Relay || relays.contains endpoint) &&
    !observedEndpointSupersededByAnnouncement endpoint tracked (announcementEndpoints a) seenAt

/-- What announcing an endpoint makes of the entry the refresh kept. -/
def TrackedPeerPath.announce (kept : Option TrackedPeerPath) (source : PeerPathSource)
    (seenAt : Nat) : TrackedPeerPath :=
  let entry := kept.getD ⟨source, seenAt, none, none⟩
  { entry with
    source := entry.source.merge source
    announcedAt := max entry.announcedAt seenAt }

namespace PeerPathState

/-- The entry of an endpoint after a refresh, from the entry before it. -/
def refreshedPath (state : PeerPathState) (a : PeerAnnouncement) (seenAt : Nat) (endpoint : String) :
    Option TrackedPeerPath :=
  let kept := (state.endpoints.lookup endpoint).filter (keptByRefresh a seenAt endpoint)
  match (announcementEndpoints a).lookup endpoint with
  | none => kept
  | some source => some (.announce kept source seenAt)

theorem lookup_refreshEndpoint (state : PeerPathState) (endpoint other : String)
    (source : PeerPathSource) (seenAt : Nat) :
    (state.refreshEndpoint endpoint source seenAt).endpoints.lookup other =
      if other = endpoint then some (.announce (state.endpoints.lookup endpoint) source seenAt)
      else state.endpoints.lookup other := by
  split_ifs with eq
  · subst eq
    exact AList.lookup_insert _
  · exact AList.lookup_insert_ne eq

theorem lookup_foldl_refreshEndpoint (announced : List (String × PeerPathSource)) (seenAt : Nat)
    (nodup : (announced.map Prod.fst).Nodup) (state : PeerPathState) (endpoint : String) :
    (announced.foldl (fun state (endpoint, source) =>
      state.refreshEndpoint endpoint source seenAt) state).endpoints.lookup endpoint =
    match announced.lookup endpoint with
    | none => state.endpoints.lookup endpoint
    | some source => some (.announce (state.endpoints.lookup endpoint) source seenAt) := by
  induction announced generalizing state with
  | nil => rfl
  | cons e rest ih =>
    obtain ⟨announced, source⟩ := e
    obtain ⟨fresh, restNodup⟩ := List.nodup_cons.mp nodup
    rw [List.foldl_cons, ih restNodup, List.lookup_cons, lookup_refreshEndpoint]
    by_cases eq : endpoint = announced
    · subst eq
      have absent : rest.lookup endpoint = none := by
        rw [List.lookup_eq_none_iff]
        intro e mem
        have ne : e.1 ≠ endpoint := fun eq => fresh (List.mem_map.mpr ⟨e, mem, eq⟩)
        simpa using Ne.symm ne
      simp [absent]
    · have skip : (endpoint == announced) = false := by simpa using eq
      simp [eq, skip]

theorem currentEndpoint_foldl_refreshEndpoint (announced : List (String × PeerPathSource))
    (seenAt : Nat) (state : PeerPathState) :
    (announced.foldl (fun state (endpoint, source) =>
      state.refreshEndpoint endpoint source seenAt) state).currentEndpoint =
        state.currentEndpoint := by
  induction announced generalizing state with
  | nil => rfl
  | cons e rest ih => rw [List.foldl_cons, ih]; rfl

theorem lookup_endpoints_refresh (state : PeerPathState) (a : PeerAnnouncement) (seenAt : Nat)
    (endpoint : String) :
    (state.refresh a seenAt).endpoints.lookup endpoint = state.refreshedPath a seenAt endpoint := by
  unfold refresh
  rw [lookup_foldl_refreshEndpoint _ _ (nodup_announcementEndpoints a)]
  simp only [dropStaleCurrent, HashMap.lookup_retain]
  rfl

theorem currentEndpoint_of_refresh {state : PeerPathState} {a : PeerAnnouncement} {seenAt : Nat}
    {endpoint : String} (h : (state.refresh a seenAt).currentEndpoint = some endpoint) :
    state.currentEndpoint = some endpoint := by
  unfold refresh at h
  rw [currentEndpoint_foldl_refreshEndpoint] at h
  exact (Option.filter_eq_some_iff.mp h).1

/-! ## Leaving an endpoint -/

/-- The time of a success that still applies, and 0 when there is none. -/
def appliedSuccess (ownLocalEndpoints : List String) (endpoint : String)
    (tracked : TrackedPeerPath) : Nat :=
  if pathSuccessStillApplies endpoint tracked
    (endpointSharesPrivateIpv4Subnet endpoint ownLocalEndpoints) then tracked.lastSuccessAt.getD 0
  else 0

/-- Nothing holds the selection at an endpoint against `other`: the book is not at the endpoint, it
is on a foreign local network, `other` succeeded later, or no success holds it and the retry time
of its last selection is over. -/
def Releases (state : PeerPathState) (ownLocalEndpoints : List String) (now retryAfterSecs : Nat)
    (endpoint : String) (tracked : TrackedPeerPath) (other : String) (otherPath : TrackedPeerPath) :
    Prop :=
  state.currentEndpoint ≠ some endpoint ∨
    (endpointIsLocalOnly endpoint && !endpointSharesPrivateIpv4Subnet endpoint ownLocalEndpoints) ∨
    appliedSuccess ownLocalEndpoints endpoint tracked <
      appliedSuccess ownLocalEndpoints other otherPath ∧
      0 < appliedSuccess ownLocalEndpoints endpoint tracked ∨
    appliedSuccess ownLocalEndpoints endpoint tracked = 0 ∧
      tracked.lastSelectedAt.all fun at' => retryAfterSecs ≤ now - at'

/-- If the refreshed book tracks the endpoint at all, then it tracks one of a higher rank and
nothing holds the selection. -/
def Displaced (state : PeerPathState) (a : PeerAnnouncement) (ownLocalEndpoints : List String)
    (now retryAfterSecs : Nat) (endpoint : String) : Prop :=
  let defaultEndpoint := selectPeerEndpointFromLocalEndpoints a ownLocalEndpoints
  ∀ tracked, state.refreshedPath a now endpoint = some tracked →
    ∃ other otherPath, state.refreshedPath a now other = some otherPath ∧
      candidateRank endpoint tracked ownLocalEndpoints defaultEndpoint <
        candidateRank other otherPath ownLocalEndpoints defaultEndpoint ∧
      state.Releases ownLocalEndpoints now retryAfterSecs endpoint tracked other otherPath

/-- A relay that is announced no more, and that the book tracks as nothing else, is forgotten. -/
theorem refreshedPath_eq_none_of_relay {state : PeerPathState} {a : PeerAnnouncement} {seenAt : Nat}
    {endpoint : String} (unannounced : endpoint ∉ (announcementEndpoints a).map Prod.fst)
    (relay : ∀ tracked, state.endpoints.lookup endpoint = some tracked →
      tracked.source = .Relay) : state.refreshedPath a seenAt endpoint = none := by
  have absent : (announcementEndpoints a).lookup endpoint = none := by
    rw [List.lookup_eq_none_iff]
    intro e mem
    have ne : e.1 ≠ endpoint := fun eq => unannounced (List.mem_map.mpr ⟨e, mem, eq⟩)
    simpa using Ne.symm ne
  have dropped : ∀ tracked, state.endpoints.lookup endpoint = some tracked →
      keptByRefresh a seenAt endpoint tracked = false := by
    intro tracked found
    have notRelay : endpoint ∉ ((announcementEndpoints a).filter fun e =>
        e.2 == PeerPathSource.Relay).map Prod.fst :=
      fun mem => unannounced (List.map_subset _ (List.filter_subset_self _) mem)
    simp [keptByRefresh, relay tracked found, notRelay]
  simpa [refreshedPath, absent, Option.filter_eq_none_iff] using dropped

theorem displaced_of_forgotten {state : PeerPathState} {a : PeerAnnouncement}
    {ownLocalEndpoints : List String} {now retryAfterSecs : Nat} {endpoint : String}
    (h : state.refreshedPath a now endpoint = none) :
    state.Displaced a ownLocalEndpoints now retryAfterSecs endpoint := by
  intro tracked found
  rw [h] at found
  cases found

theorem appliedSuccess_le_of_rank_le {ownLocalEndpoints : List String} {defaultEndpoint : String}
    {endpoint other : String} {tracked otherPath : TrackedPeerPath}
    (h : candidateRank endpoint tracked ownLocalEndpoints defaultEndpoint ≤
      candidateRank other otherPath ownLocalEndpoints defaultEndpoint) :
    appliedSuccess ownLocalEndpoints endpoint tracked ≤
      appliedSuccess ownLocalEndpoints other otherPath := by
  rcases Prod.Lex.le_iff.mp h with less | same
  · exact less.le
  · exact same.1.le

/-- Only a tracked endpoint is selected. -/
theorem lookup_of_selectEndpoint {state : PeerPathState} {ownLocalEndpoints : List String}
    {defaultEndpoint endpoint : String} {now retryAfterSecs : Nat}
    (h : state.selectEndpoint ownLocalEndpoints defaultEndpoint now retryAfterSecs =
      some endpoint) : ∃ tracked, state.endpoints.lookup endpoint = some tracked := by
  unfold selectEndpoint at h
  generalize best : @maxByKey _ (Nat ×ₗ Nat ×ₗ Nat ×ₗ Nat) _ _ _ state.endpoints.toList = first at h
  cases first with
  | none => simp at h
  | some preferred =>
    have foundPreferred := HashMap.mem_toList.mp (mem_of_maxByKey best)
    cases current : state.currentEndpoint with
    | none => grind
    | some currentEndpoint =>
      cases at' : state.endpoints.lookup currentEndpoint with
      | none => simp only [current, at', Option.bind_eq_bind, Option.bind_some] at h; grind
      | some path =>
        simp only [current, at', Option.bind_eq_bind, Option.bind_some] at h
        grind

/-- An endpoint of a lower rank than another tracked one is not preferred, and it is selected only
while the book is held at it. -/
theorem selectEndpoint_ne_of_outranked {state : PeerPathState} {ownLocalEndpoints : List String}
    {defaultEndpoint endpoint other : String} {now retryAfterSecs : Nat}
    {tracked otherPath : TrackedPeerPath}
    (found : state.endpoints.lookup endpoint = some tracked)
    (foundOther : state.endpoints.lookup other = some otherPath)
    (outranked : candidateRank endpoint tracked ownLocalEndpoints defaultEndpoint <
      candidateRank other otherPath ownLocalEndpoints defaultEndpoint)
    (releases : state.Releases ownLocalEndpoints now retryAfterSecs endpoint tracked other otherPath) :
    state.selectEndpoint ownLocalEndpoints defaultEndpoint now retryAfterSecs ≠ some endpoint := by
  unfold selectEndpoint
  generalize best : @maxByKey _ (Nat ×ₗ Nat ×ₗ Nat ×ₗ Nat) _ _ _ state.endpoints.toList = first
  cases first with
  | none => simp
  | some preferred =>
    obtain ⟨preferred, preferredPath⟩ := preferred
    have foundPreferred := HashMap.mem_toList.mp (mem_of_maxByKey best)
    have above := le_of_maxByKey best _ (HashMap.mem_toList.mpr foundOther)
    dsimp only at above
    have ne : preferred ≠ endpoint := by
      rintro rfl
      obtain rfl := Option.some.inj (foundPreferred.symm.trans found)
      exact absurd outranked above.not_gt
    have later := appliedSuccess_le_of_rank_le above
    cases current : state.currentEndpoint with
    | none => exact fun eq => ne (Option.some.inj eq)
    | some currentEndpoint =>
      by_cases here : currentEndpoint = endpoint
      · subst here
        have skip : ¬ currentEndpoint = preferred := Ne.symm ne
        unfold appliedSuccess at later
        unfold Releases appliedSuccess at releases
        simp only [found, skip, if_false, Option.bind_eq_bind, Option.bind_some]
        grind
      · cases at' : state.endpoints.lookup currentEndpoint with
        | none =>
          simp only [at', Option.bind_eq_bind, Option.bind_some]
          exact fun eq => ne (Option.some.inj eq)
        | some path =>
          simp only [at', Option.bind_eq_bind, Option.bind_some]
          grind

theorem selectEndpoint_refresh_ne {state : PeerPathState} {a : PeerAnnouncement}
    {ownLocalEndpoints : List String} {now retryAfterSecs : Nat} {endpoint : String}
    (h : state.Displaced a ownLocalEndpoints now retryAfterSecs endpoint) :
    (state.refresh a now).selectEndpoint ownLocalEndpoints
      (selectPeerEndpointFromLocalEndpoints a ownLocalEndpoints) now retryAfterSecs ≠
        some endpoint := by
  cases found : (state.refresh a now).endpoints.lookup endpoint with
  | none =>
    intro selected
    obtain ⟨tracked, found'⟩ := lookup_of_selectEndpoint selected
    exact absurd found' (by simp [found])
  | some tracked =>
    have path := found
    rw [lookup_endpoints_refresh] at path
    obtain ⟨other, otherPath, foundOther, outranked, releases⟩ := h tracked path
    rw [← lookup_endpoints_refresh] at foundOther
    refine selectEndpoint_ne_of_outranked found foundOther outranked ?_
    rcases releases with away | held
    · exact Or.inl fun at' => away (currentEndpoint_of_refresh at')
    · exact Or.inr held

end PeerPathState

end NostrVpn.Core
