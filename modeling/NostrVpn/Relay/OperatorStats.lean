import NostrVpn.Relay.RelayService
import NostrVpn.Rust.Slice
import NostrVpn.Rust.Vec
import Mathlib.Data.Prod.Lex

/-!
# The statistics of the relay operator

The state that the relay service writes (`snapshot` of `relay_runtime.rs`, the records of
`nostr-vpn-core/src/relay.rs`) and its rendering by `nvpn stats` (`render_service_operator_stats` of
`nostr-vpn-cli/src/main.rs`). A slice of a string or of a table that would panic is `none`. The floating-point
operations that scale a byte count are a parameter.
-/
namespace NostrVpn.Relay

open Rust Rust.Net NostrVpn.Core Transition

/-! ## The written state -/

structure RelayOperatorState where
  updatedAt : Nat
  relayPubkey : String
  advertisedEndpoint : String
  totalSessionsServed : Nat
  totalForwardedBytes : Nat
  currentForwardBps : Nat
  uniquePeerCount : Nat
  knownPeerPubkeys : List String
  activeSessions : List RelayOperatorSessionState

structure NatAssistOperatorState where
  updatedAt : Nat
  advertisedEndpoint : String
  totalDiscoveryRequests : Nat
  totalPunchRequests : Nat
  currentRequestBps : Nat
  uniqueClientCount : Nat

structure ServiceOperatorState where
  updatedAt : Nat
  operatorPubkey : String
  relay : Option RelayOperatorState
  natAssist : Option NatAssistOperatorState

/-- What `snapshot` returns; `RelayRuntimeState.snapshot` is the state it leaves. -/
def RelayRuntimeState.operatorState (state : RelayRuntimeState) (relayPubkey advertisedEndpoint : String)
    (now : Nat) : RelayOperatorState :=
  let state := state.snapshot now
  { updatedAt := now
    relayPubkey, advertisedEndpoint
    totalSessionsServed := state.totalSessionsServed
    totalForwardedBytes := state.totalForwardedBytes
    currentForwardBps := state.currentForwardBps
    uniquePeerCount := state.knownPeerPubkeys.length
    knownPeerPubkeys := sortByKey id state.knownPeerPubkeys
    activeSessions := sortByKey (fun session => toLex (session.startedAt, session.requestId))
      state.activeSessions.values }

/-! ## The rendering -/

/-- The operations on `f64` of `format_human_bytes`. -/
structure FloatOps (F : Type) where
  ofU64 : Nat → F
  div1024 : F → F
  ge : F → Nat → Bool
  fmt : F → Nat → String

def UNITS : List String := ["B", "KiB", "MiB", "GiB", "TiB"]

section Render
variable {F : Type} (float : FloatOps F)

/-- The loop of `format_human_bytes`, with the turns that the guard on the index leaves. -/
def scaleBytes : Nat → F → Nat → F × Nat
  | 0, value, unitIndex => (value, unitIndex)
  | turns + 1, value, unitIndex =>
    if float.ge value 1024 && unitIndex < UNITS.length - 1 then
      scaleBytes turns (float.div1024 value) (unitIndex + 1)
    else (value, unitIndex)

def formatHumanBytes (bytes : Nat) : Option String :=
  if bytes < 1024 then some (fmtNat bytes ++ " B")
  else
    let (value, unitIndex) := scaleBytes float (UNITS.length - 1) (float.ofU64 bytes) 0
    (UNITS[unitIndex]?).map fun unit => float.fmt value (if float.ge value 10 then 1 else 2) ++ " " ++ unit

def formatElapsedSecs (secs : Nat) : String :=
  if secs < 60 then fmtNat secs ++ "s ago"
  else if secs < 3600 then fmtNat (secs / 60) ++ "m ago"
  else if secs < 86400 then fmtNat (secs / 3600) ++ "h ago"
  else fmtNat (secs / 86400) ++ "d ago"

def formatRelativeTimestamp (timestamp now : Nat) : String :=
  if timestamp = 0 then "unknown"
  else formatElapsedSecs (now - timestamp) ++ " (unix " ++ fmtNat timestamp ++ ")"

def formatRemainingSecs (secs : Nat) : String :=
  if secs < 60 then fmtNat secs ++ "s"
  else if secs < 3600 then fmtNat (secs / 60) ++ "m"
  else if secs < 86400 then fmtNat (secs / 3600) ++ "h"
  else fmtNat (secs / 86400) ++ "d"

def abbreviateId (value : String) : Option String :=
  if value.utf8ByteSize ≤ 8 + 8 + 1 then some value
  else do
    let head ← sliceTo value 8
    let tail ← sliceFrom value (value.utf8ByteSize - 8)
    return head ++ ".." ++ tail

/-- The line of one session. -/
def sessionLine (now : Nat) (session : RelayOperatorSessionState) : Option String := do
  let requester ← abbreviateId session.requesterPubkey
  let target ← abbreviateId session.targetPubkey
  let forwarded ← formatHumanBytes float (saturatingAdd session.bytesFromRequester session.bytesFromTarget)
  return "session " ++ session.requestId ++ ": " ++ requester ++ " -> " ++ target ++ " forwarded=" ++ forwarded ++
    " expires_in=" ++ formatRemainingSecs (session.expiresAt - now) ++ "\n"

/-- The lines before the sessions. -/
def renderHead (stateFile : String) (state : ServiceOperatorState) (now : Nat) : Option String := do
  let head := "state_file: " ++ stateFile ++ "\n" ++
    "updated: " ++ formatRelativeTimestamp state.updatedAt now ++ "\n" ++
    if isBlank state.operatorPubkey then "" else "operator_pubkey: " ++ state.operatorPubkey ++ "\n"
  match state.relay with
  | none => return head ++ "relay: disabled\n"
  | some relay =>
    let total ← formatHumanBytes float relay.totalForwardedBytes
    let rate ← formatHumanBytes float relay.currentForwardBps
    return head ++ "relay: enabled\n" ++
      (if isBlank relay.advertisedEndpoint then "" else "relay_endpoint: " ++ relay.advertisedEndpoint ++ "\n") ++
      "total_sessions_served: " ++ fmtNat relay.totalSessionsServed ++ "\n" ++
      "unique_peers_served: " ++ fmtNat relay.uniquePeerCount ++ "\n" ++
      "active_sessions: " ++ fmtNat relay.activeSessions.length ++ "\n" ++
      "total_forwarded: " ++ total ++ " (" ++ fmtNat relay.totalForwardedBytes ++ " B)\n" ++
      "current_forward_rate: " ++ rate ++ "/s\n"

/-- The lines behind the sessions. -/
def renderTail (state : ServiceOperatorState) : String :=
  match state.natAssist with
  | none => "nat_assist: disabled\n"
  | some natAssist => "nat_assist: enabled\n" ++
      (if isBlank natAssist.advertisedEndpoint then ""
        else "nat_assist_endpoint: " ++ natAssist.advertisedEndpoint ++ "\n") ++
      "nat_assist_unique_clients: " ++ fmtNat natAssist.uniqueClientCount ++ "\n" ++
      "nat_assist_discovery_requests: " ++ fmtNat natAssist.totalDiscoveryRequests ++ "\n" ++
      "nat_assist_punch_requests: " ++ fmtNat natAssist.totalPunchRequests ++ "\n" ++
      "nat_assist_request_rate: " ++ fmtNat natAssist.currentRequestBps ++ " req/s\n"

def renderServiceOperatorStats (stateFile : String) (state : ServiceOperatorState) (now : Nat) : Option String := do
  let head ← renderHead float stateFile state now
  let lines ← (state.relay.elim [] RelayOperatorState.activeSessions).mapM (sessionLine float now)
  return head ++ String.join lines ++ renderTail state

/-! ## When a state is rendered -/

/-- The cuts of `abbreviate_id` are boundaries. -/
def Sliceable (value : String) : Prop :=
  value.utf8ByteSize ≤ 17 ∨ (isCharBoundary value 8 ∧ isCharBoundary value (value.utf8ByteSize - 8))

instance (value : String) : Decidable (Sliceable value) := inferInstanceAs (Decidable (_ ∨ _))

structure SliceableSession (session : RelayOperatorSessionState) : Prop where
  requester : Sliceable session.requesterPubkey
  target : Sliceable session.targetPubkey

theorem abbreviateId_isSome (value : String) : (abbreviateId value).isSome ↔ Sliceable value := by
  unfold abbreviateId Sliceable
  rw [← isSome_sliceTo, ← isSome_sliceFrom]
  split_ifs with short
  · simp [short]
  · cases sliceTo value 8 <;> cases sliceFrom value (value.utf8ByteSize - 8) <;> simp <;> omega

/-- A key of hexadecimal digits can be cut anywhere. -/
theorem sliceable_of_ascii {value : String} (ascii : ∀ c ∈ value.toList, c.utf8Size = 1)
    (size : value.utf8ByteSize = value.length) (long : 8 ≤ value.length) : Sliceable value := by
  rw [← String.length_toList] at size long
  exact Or.inr ⟨isSome_splitAtByte_of_ascii ascii long, isSome_splitAtByte_of_ascii ascii (by omega)⟩

theorem snd_scaleBytes_le (turns : Nat) (value : F) (unitIndex : Nat) :
    (scaleBytes float turns value unitIndex).2 ≤ unitIndex + turns := by
  induction turns generalizing value unitIndex with
  | zero => exact le_rfl
  | succ turns ih =>
    unfold scaleBytes
    split_ifs
    · exact (ih _ _).trans (by omega)
    · exact Nat.le_add_right _ _

/-- The index into the table of units is in range. -/
theorem formatHumanBytes_isSome (bytes : Nat) : (formatHumanBytes float bytes).isSome := by
  unfold formatHumanBytes
  split_ifs
  · rfl
  · have index := snd_scaleBytes_le float (UNITS.length - 1) (float.ofU64 bytes) 0
    generalize scaleBytes float (UNITS.length - 1) (float.ofU64 bytes) 0 = scaled at index
    have inside : scaled.2 < UNITS.length := by
      have units : UNITS.length = 5 := rfl
      omega
    simp [List.getElem?_eq_getElem inside]

theorem sessionLine_isSome (now : Nat) (session : RelayOperatorSessionState) :
    (sessionLine float now session).isSome ↔ SliceableSession session := by
  have forwarded := formatHumanBytes_isSome float (saturatingAdd session.bytesFromRequester session.bytesFromTarget)
  have requester := abbreviateId_isSome session.requesterPubkey
  have target := abbreviateId_isSome session.targetPubkey
  obtain ⟨text, found⟩ := Option.isSome_iff_exists.mp forwarded
  unfold sessionLine
  rw [found]
  constructor
  · intro some'
    refine ⟨requester.mp ?_, target.mp ?_⟩
    · cases here : abbreviateId session.requesterPubkey with
      | none => simp [here] at some'
      | some _ => rfl
    · cases here : abbreviateId session.targetPubkey with
      | none => cases abbreviateId session.requesterPubkey <;> simp [here] at some'
      | some _ => rfl
  · rintro ⟨cut, cut'⟩
    obtain ⟨a, left⟩ := Option.isSome_iff_exists.mp (requester.mpr cut)
    obtain ⟨b, right⟩ := Option.isSome_iff_exists.mp (target.mpr cut')
    simp [left, right]

theorem renderHead_isSome (stateFile : String) (state : ServiceOperatorState) (now : Nat) :
    (renderHead float stateFile state now).isSome := by
  unfold renderHead
  cases state.relay with
  | none => rfl
  | some relay =>
    obtain ⟨total, found⟩ := Option.isSome_iff_exists.mp (formatHumanBytes_isSome float relay.totalForwardedBytes)
    obtain ⟨rate, found'⟩ := Option.isSome_iff_exists.mp (formatHumanBytes_isSome float relay.currentForwardBps)
    simp [found, found']

theorem mapM_isSome {α β : Type} {f : α → Option β} {l : List α} :
    (l.mapM f).isSome ↔ ∀ x ∈ l, (f x).isSome := by
  induction l with
  | nil => simp
  | cons x l ih =>
    rw [List.mapM_cons, List.forall_mem_cons, ← ih]
    cases f x <;> cases l.mapM f <;> simp

/-- The rendered text: the lines of the sessions, one for each, between the head and the tail. -/
structure Lists (stateFile : String) (state : ServiceOperatorState) (table : List RelayOperatorSessionState)
    (now : Nat) (text : String) : Prop where
  once : ∃ (head : String) (sessions : List RelayOperatorSessionState) (lines : List String),
    renderHead float stateFile state now = some head ∧ sessions.Perm table ∧
    sessions.mapM (sessionLine float now) = some lines ∧
    text = head ++ String.join lines ++ renderTail state

/-- A state is rendered exactly when the keys of all its sessions can be cut, and then every session is listed
once. -/
theorem render_iff (stateFile : String) (state : ServiceOperatorState) {table : List RelayOperatorSessionState}
    (same : (state.relay.elim [] RelayOperatorState.activeSessions).Perm table) (now : Nat) :
    (∃ text, renderServiceOperatorStats float stateFile state now = some text ∧
      Lists float stateFile state table now text) ↔ ∀ session ∈ table, SliceableSession session := by
  have lines := @mapM_isSome _ _ (sessionLine float now) (state.relay.elim [] RelayOperatorState.activeSessions)
  simp only [sessionLine_isSome, same.mem_iff] at lines
  obtain ⟨head, head'⟩ := Option.isSome_iff_exists.mp (renderHead_isSome float stateFile state now)
  rw [← lines]
  unfold renderServiceOperatorStats
  rw [head']
  cases found : (state.relay.elim [] RelayOperatorState.activeSessions).mapM (sessionLine float now) with
  | none => simp
  | some lines => exact iff_of_true ⟨_, rfl, ⟨head, _, lines, head', same, found, rfl⟩⟩ rfl

end Render

/-! ## Runs of the service -/

/-- What is fixed when the programs are started, and what the NAT assist counts when the state is written. -/
structure Operator where
  operatorPubkey : String
  advertisedEndpoint : String
  stateFile : String
  natAssist : Nat → Option NatAssistOperatorState

namespace RelayService
variable {F : Type} (float : FloatOps F) (operator : Operator) (args : Args) (refill : Nat → Nat → Nat)

/-- The state that the service writes. -/
def written (st : RelayService) (now : Nat) : ServiceOperatorState where
  updatedAt := now
  operatorPubkey := operator.operatorPubkey
  relay := some (st.runtime.operatorState operator.operatorPubkey operator.advertisedEndpoint now)
  natAssist := operator.natAssist now

/-- The service after it was started: no session is taken over from an earlier state file. -/
def started (runtime : RelayRuntimeState) : RelayService := { runtime := { runtime with activeSessions := ∅ } }

/-- The sessions that have not expired when the state is written. -/
def unexpired (st : RelayService) (now : Nat) : List RelayOperatorSessionState :=
  (st.runtime.pruneExpiredSessions now).activeSessions.values

/-- A state that is written is rendered at any later time, with every active session once. -/
def RendersAtWrite (st : RelayService) : ServiceEvent → Prop
  | .writeState now => st.running → ∀ readAt, ∃ text,
      renderServiceOperatorStats float operator.stateFile (st.written operator now) readAt = some text ∧
        Lists float operator.stateFile (st.written operator now) (st.unexpired now) readAt text
  | _ => True

def SliceableAtWrite (st : RelayService) : ServiceEvent → Prop
  | .writeState now => st.running → ∀ session ∈ st.unexpired now, SliceableSession session
  | _ => True

/-- The request that a message carries names a target whose key can be cut, and so can the sender's. -/
def SliceableRequest (_ : RelayService) : ServiceEvent → Prop
  | .message envelope _ _ _ _ => ∀ request ∈ served args envelope,
      Sliceable envelope.senderPubkey ∧ Sliceable request.2.2.1
  | _ => True

theorem rendersAtWrite_iff (st : RelayService) (e : ServiceEvent) :
    st.RendersAtWrite float operator e ↔ st.SliceableAtWrite e := by
  cases e with
  | writeState now =>
    have same : ((st.written operator now).relay.elim [] RelayOperatorState.activeSessions).Perm
        (st.unexpired now) := by
      simp only [written, Option.elim, RelayRuntimeState.operatorState, unexpired]
      rw [← RelayRuntimeState.activeSessions_snapshot]
      exact perm_sortByKey _ _
    refine imp_congr_right fun _ => ?_
    simp only [render_iff float operator.stateFile _ same, forall_const]
  | _ => exact Iff.rfl

/-! ## The table of sessions -/

/-- The keys of the sessions of the table, and of the one that is being granted, can be cut. -/
structure SliceableTable (st : RelayService) : Prop where
  table : st.runtime.activeSessions.All fun _ session => SliceableSession session
  granting : ∀ grant ∈ st.granting, SliceableSession grant.session

variable {args} {st : RelayService}

theorem sliceable_of_grantOf {envelope : ServiceEnvelope} {instant startedAt : Nat} {bound : String × String}
    {grant : Granting} (request : ∀ request ∈ served args envelope,
      Sliceable envelope.senderPubkey ∧ Sliceable request.2.2.1)
    (granted : grantOf args instant envelope startedAt bound = some grant) : SliceableSession grant.session := by
  obtain ⟨served, carries, rfl⟩ := Option.map_eq_some_iff.mp granted
  have keys := request served carries
  exact ⟨keys.1, keys.2⟩

theorem SliceableTable.prune (kept : st.SliceableTable) (now : Nat) :
    ({ st with runtime := st.runtime.pruneExpiredSessions now } : RelayService).SliceableTable :=
  ⟨kept.table.retain _, kept.granting⟩

theorem SliceableTable.exit (kept : st.SliceableTable) : st.exit.SliceableTable :=
  ⟨kept.table, fun grant mem => absurd mem (Option.not_mem_none grant)⟩

theorem SliceableTable.message (kept : st.SliceableTable) {envelope : ServiceEnvelope}
    (request : ∀ request ∈ served args envelope, Sliceable envelope.senderPubkey ∧ Sliceable request.2.2.1)
    (checkedAt startedAt : Nat) (bound : Option (String × String)) (rejectionSent : Bool) :
    (st.onMessage args envelope checkedAt startedAt bound rejectionSent).SliceableTable := by
  have swept := kept.prune checkedAt
  rw [← RelayRuntimeState.snd_allocationRejection st.runtime envelope.senderPubkey checkedAt args.relayLimits]
    at swept
  unfold onMessage
  by_cases serves : (served args envelope).isNone
  · rw [if_pos serves]
    exact kept
  rw [if_neg serves]
  dsimp only
  split
  · split_ifs
    · exact swept
    · exact swept.exit
  · refine ⟨swept.table, fun grant mem => ?_⟩
    obtain ⟨ends, -, granted⟩ := Option.bind_eq_some_iff.mp mem
    exact sliceable_of_grantOf request granted

theorem SliceableTable.published (kept : st.SliceableTable) {grant : Granting} (pending : st.granting = some grant)
    (ok : Bool) (now : Nat) : (st.onPublished grant ok now).SliceableTable := by
  cases ok with
  | false => exact kept.exit
  | true =>
    have swept := (kept.prune now).table
    exact ⟨swept.insert (kept.granting grant pending), fun grant mem => absurd mem (Option.not_mem_none grant)⟩

theorem SliceableTable.forwarded (kept : st.SliceableTable) (requestId : String) (requesterLeg : Bool)
    (bytes : Nat) : ({ st with runtime := st.runtime.noteForwardedBytes requestId requesterLeg bytes } :
      RelayService).SliceableTable := by
  refine ⟨kept.table.mapEntries fun id session cut => ?_, kept.granting⟩
  dsimp only
  split_ifs <;> exact ⟨cut.requester, cut.target⟩

theorem SliceableTable.packet (kept : st.SliceableTable) (limits : RelayServiceLimits) (i : Nat)
    (requesterLeg : Bool) (src : SocketAddr) (len : Nat) (sent : Option Nat) :
    (st.onPacket refill limits i requesterLeg src len sent).SliceableTable := by
  unfold onPacket
  split
  · exact kept
  · split_ifs
    · exact kept
    · dsimp only
      split
      · have pairs : ({ st with pairs := st.pairs.modify i fun pair =>
            (pair.receive refill limits st.instant requesterLeg src len).2 } : RelayService).SliceableTable :=
          ⟨kept.table, kept.granting⟩
        exact pairs.forwarded _ _ _
      · exact ⟨kept.table, kept.granting⟩

theorem SliceableTable.step (kept : st.SliceableTable) {e : ServiceEvent} (request : st.SliceableRequest args e) :
    (st.step args refill e).SliceableTable := by
  cases e with
  | elapse nanos => exact ⟨kept.table, kept.granting⟩
  | message envelope checkedAt startedAt bound rejectionSent =>
    simp only [RelayService.step]
    split_ifs
    · exact kept.message request checkedAt startedAt bound rejectionSent
    · exact kept
  | published ok now =>
    simp only [RelayService.step]
    split
    · rename_i grant pending
      split_ifs
      · exact kept.published pending ok now
      · exact kept
    · exact kept
  | writeState now =>
    simp only [RelayService.step]
    split_ifs
    · refine ⟨?_, kept.granting⟩
      rw [RelayRuntimeState.activeSessions_snapshot]
      exact (kept.prune now).table
    · exact kept
  | packet i requesterLeg src len sent => exact kept.packet refill args.relayLimits i requesterLeg src len sent
  | legEnded i requesterLeg => exact ⟨kept.table, kept.granting⟩

theorem SliceableTable.atWrite (kept : st.SliceableTable) (e : ServiceEvent) : st.SliceableAtWrite e := by
  cases e with
  | writeState now =>
    intro _ session active
    exact (kept.prune now).table.of_mem_values active
  | _ => trivial

theorem sliceableTable_started (runtime : RelayRuntimeState) : (started runtime).SliceableTable :=
  ⟨HashMap.All.empty, fun grant mem => absurd mem (Option.not_mem_none grant)⟩

/-! ## The statistics of a run -/

/-- Every state that a run writes is rendered with every active session once, exactly when at each write the
keys of the active sessions can be cut; and so they can when every request that is served brings such keys. -/
theorem operator_stats_render_iff (args : Args) (runtime : RelayRuntimeState) (es : List ServiceEvent) :
    (Along (step args refill) (RendersAtWrite float operator) (started runtime) es ↔
      Along (step args refill) SliceableAtWrite (started runtime) es) ∧
    (Along (step args refill) (SliceableRequest args) (started runtime) es →
      Along (step args refill) (RendersAtWrite float operator) (started runtime) es) := by
  have same : Along (step args refill) (RendersAtWrite float operator) (started runtime) es ↔
      Along (step args refill) SliceableAtWrite (started runtime) es :=
    ⟨Along.mono fun st e => (rendersAtWrite_iff float operator st e).mp,
      Along.mono fun st e => (rendersAtWrite_iff float operator st e).mpr⟩
  refine ⟨same, fun requests => same.mpr ?_⟩
  exact requests.strengthen (fun st e kept request => SliceableTable.step refill kept request)
    (fun st e kept _ => kept.atWrite e) (sliceableTable_started runtime)

/-! ## A target with a letter of two bytes -/

/-- The eighth byte of the key is inside its eighth letter. -/
def cutTarget : String := "target-é-not-a-key"

def sampleOperator : Operator where
  operatorPubkey := "operator"
  advertisedEndpoint := "203.0.113.1:0"
  stateFile := "service.json"
  natAssist _ := none

/-- The floating-point operations on numbers of 1024ths. -/
def roughFloat : FloatOps Nat where
  ofU64 := id
  div1024 value := value / 1024
  ge value bound := bound ≤ value
  fmt value _ := fmtNat value

/-- A client names a target that is no key: the state that lists its session is not rendered. -/
theorem foreign_target_is_not_rendered :
    ¬ ∀ (F : Type) (float : FloatOps F) (operator : Operator) (args : Args) (refill : Nat → Nat → Nat)
      (runtime : RelayRuntimeState) (es : List ServiceEvent),
        Along (step args refill) (RendersAtWrite float operator) (started runtime) es := by
  intro all
  have renders := all Nat roughFloat sampleOperator twoSessionArgs (fun _ _ => 0) { activeSessions := ∅ }
    [.message ⟨"sender", .RelayAllocationRequest ⟨"id", "mesh", cutTarget, 100⟩⟩ 100 100
      (some ("203.0.113.1:40000", "203.0.113.1:40001")) true, .published true 100, .writeState 101]
  obtain ⟨text, rendered, -⟩ := renders.2.2.1 (by decide +kernel) 102
  have failed : (renderServiceOperatorStats roughFloat sampleOperator.stateFile _ 102).isSome = true :=
    Option.isSome_iff_exists.mpr ⟨text, rendered⟩
  exact absurd failed (by decide +kernel)

end RelayService
end NostrVpn.Relay
