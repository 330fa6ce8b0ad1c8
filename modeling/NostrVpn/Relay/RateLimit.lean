import NostrVpn.Relay.RelayRuntime

/-!
# The rate window of a relay session

A token bucket on whole bytes: a call credits the bytes since the last one, rounded down, and starts
counting anew. What it forwards is bounded; what it rounds off is lost, also at calls that it refuses.
-/
namespace NostrVpn.Relay

open Rust NostrVpn.Core

/-- The refill of so many nanoseconds, in exact arithmetic. -/
def exactRefill (elapsed bps : Nat) : Nat := elapsed * bps / 1000000000

structure ForwardCall where
  now : Nat
  bytes : Nat
  deriving DecidableEq, Repr

def InOrder (calls : List ForwardCall) : Prop := calls.Pairwise fun c d => c.now ≤ d.now

/-- The window as a call finds it. -/
def ForwardWindow.refilled (window : ForwardWindow) (bps now bytes : Nat) : ForwardWindow :=
  if 0 < now - window.lastRefill then
    ⟨now, min (window.availableBytes + exactRefill (now - window.lastRefill) bps) (max bps bytes)⟩
  else window

namespace SessionForwardingState

def windowAt (state : SessionForwardingState) (bps now bytes : Nat) : ForwardWindow :=
  (state.forwardWindow.getD ⟨now, max bps bytes⟩).refilled bps now bytes

/-- One call of a session with a rate limit. -/
def forward (limits : RelayServiceLimits) (state : SessionForwardingState) (call : ForwardCall) :
    Except RelayAllocationRejectReason Unit × SessionForwardingState :=
  state.allowForward exactRefill limits call.now call.bytes

/-- The state that a refusal for the rate leaves. -/
def refuse (state : SessionForwardingState) (window : ForwardWindow) : SessionForwardingState :=
  { state with forwardWindow := some window }

/-- The state that an allowed call leaves. -/
def spend (state : SessionForwardingState) (window : ForwardWindow) (bytes : Nat) :
    SessionForwardingState :=
  { state with
    forwardWindow := some { window with availableBytes := window.availableBytes - bytes }
    totalForwardedBytes := saturatingAdd state.totalForwardedBytes bytes }

variable {limits : RelayServiceLimits} {bps : Nat} {state : SessionForwardingState}
  {call : ForwardCall}

/-- The session is closed by its byte cap, or the window decides. -/
theorem forward_cases (rate : limits.maxForwardBps = some bps) (state : SessionForwardingState)
    (call : ForwardCall) :
    ((state.closed = false →
        limits.maxBytesPerSession < saturatingAdd state.totalForwardedBytes call.bytes) ∧
      (state.forward limits call).1 = .error .ByteLimitExceeded ∧
      (state.forward limits call).2.closed = true) ∨
    (state.closed = false ∧
      saturatingAdd state.totalForwardedBytes call.bytes ≤ limits.maxBytesPerSession ∧
      ((state.windowAt bps call.now call.bytes).availableBytes < call.bytes ∧
        state.forward limits call =
          (.error .RateLimited, state.refuse (state.windowAt bps call.now call.bytes)) ∨
      call.bytes ≤ (state.windowAt bps call.now call.bytes).availableBytes ∧
        state.forward limits call =
          (.ok (), state.spend (state.windowAt bps call.now call.bytes) call.bytes))) := by
  obtain ⟨window, total, closed⟩ := state
  unfold forward allowForward
  cases closed with
  | true => exact Or.inl (by simp)
  | false =>
    by_cases exceeds : limits.maxBytesPerSession < saturatingAdd total call.bytes
    · exact Or.inl (by simp [exceeds])
    · refine Or.inr ⟨rfl, Nat.not_lt.mp exceeds, ?_⟩
      simp only [exceeds, rate, Bool.false_eq_true, if_false]
      by_cases short : (windowAt ⟨window, total, false⟩ bps call.now call.bytes).availableBytes <
          call.bytes
      · exact Or.inl ⟨short, if_pos short⟩
      · exact Or.inr ⟨Nat.not_lt.mp short, if_neg short⟩

theorem forward_closed (closed : state.closed = true) :
    state.forward limits call = (.error .ByteLimitExceeded, state) :=
  allowForward_closed closed

end SessionForwardingState

/-! ## What a session forwards -/

/-- The bytes of the calls from `lo` to `hi` that are allowed. -/
def bytesAllowed (limits : RelayServiceLimits) (lo hi : Nat) :
    SessionForwardingState → List ForwardCall → Nat
  | _, [] => 0
  | state, call :: calls =>
    (if (state.forward limits call).1 = .ok () ∧ lo ≤ call.now ∧ call.now ≤ hi then call.bytes
      else 0) + bytesAllowed limits lo hi (state.forward limits call).2 calls

section Window
variable {window : ForwardWindow} {bps now bytes : Nat}

@[simp] theorem exactRefill_zero (bps : Nat) : exactRefill 0 bps = 0 := by simp [exactRefill]

theorem mul_exactRefill_le (elapsed bps : Nat) :
    1000000000 * exactRefill elapsed bps ≤ elapsed * bps := Nat.mul_div_le ..

theorem lastRefill_refilled (past : window.lastRefill ≤ now) :
    (window.refilled bps now bytes).lastRefill = now := by
  unfold ForwardWindow.refilled
  split_ifs
  · rfl
  · omega

theorem availableBytes_refilled_le :
    (window.refilled bps now bytes).availableBytes ≤
      window.availableBytes + exactRefill (now - window.lastRefill) bps := by
  unfold ForwardWindow.refilled
  split_ifs
  · exact Nat.min_le_left ..
  · exact Nat.le_add_right ..

theorem availableBytes_refilled_le_of_le {burst : Nat} (h : window.availableBytes ≤ burst)
    (fits : max bps bytes ≤ burst) : (window.refilled bps now bytes).availableBytes ≤ burst := by
  unfold ForwardWindow.refilled
  split_ifs
  · exact (Nat.min_le_right ..).trans fits
  · exact h

end Window

section Bound
variable {limits : RelayServiceLimits} {bps lo hi : Nat} {state : SessionForwardingState}
  {calls : List ForwardCall}

theorem bytesAllowed_closed (closed : state.closed = true) :
    bytesAllowed limits lo hi state calls = 0 := by
  induction calls with
  | nil => rfl
  | cons call calls ih =>
    simp [bytesAllowed, SessionForwardingState.forward_closed closed, ih]

theorem bytesAllowed_late (late : ∀ call ∈ calls, hi < call.now) :
    bytesAllowed limits lo hi state calls = 0 := by
  induction calls generalizing state with
  | nil => rfl
  | cons call calls ih =>
    have first := late call (by simp)
    rw [bytesAllowed, ih fun c mem => late c (by simp [mem]), if_neg (by omega)]

/-- From a window on, a session forwards what the window holds and what is credited until the end. -/
theorem bytesAllowed_le_of_window (rate : limits.maxForwardBps = some bps) {window : ForwardWindow}
    (open_ : state.forwardWindow = some window) (ordered : InOrder calls)
    (after : ∀ call ∈ calls, window.lastRefill ≤ call.now) :
    1000000000 * bytesAllowed limits lo hi state calls ≤
      1000000000 * window.availableBytes + (hi - window.lastRefill) * bps := by
  induction calls generalizing state window with
  | nil => simp [bytesAllowed]
  | cons call calls ih =>
    obtain ⟨next, rest⟩ := List.pairwise_cons.mp ordered
    have past := after call (by simp)
    by_cases late : hi < call.now
    · have none' : ∀ c ∈ call :: calls, hi < c.now := by
        simp only [List.forall_mem_cons]
        exact ⟨late, fun c mem => Nat.lt_of_lt_of_le late (next c mem)⟩
      rw [bytesAllowed_late none']
      omega
    · have found : state.windowAt bps call.now call.bytes =
          window.refilled bps call.now call.bytes := by
        rw [SessionForwardingState.windowAt, open_, Option.getD_some]
      have at' := @lastRefill_refilled window bps call.now call.bytes past
      have credited : 1000000000 * (window.refilled bps call.now call.bytes).availableBytes +
          (hi - call.now) * bps ≤ 1000000000 * window.availableBytes +
            (hi - window.lastRefill) * bps := by
        have whole := @availableBytes_refilled_le window bps call.now call.bytes
        have exact' := mul_exactRefill_le (call.now - window.lastRefill) bps
        have split : (hi - window.lastRefill) * bps =
            (call.now - window.lastRefill) * bps + (hi - call.now) * bps := by
          rw [← Nat.add_mul]
          congr 1
          omega
        omega
      rw [bytesAllowed]
      rcases SessionForwardingState.forward_cases rate state call with
        ⟨-, refused, closed⟩ | ⟨-, -, ⟨-, outcome⟩ | ⟨enough, outcome⟩⟩
      · rw [bytesAllowed_closed closed, if_neg (by simp [refused])]
        omega
      · have later := @ih (state.refuse (state.windowAt bps call.now call.bytes)) _ rfl rest
          (by rw [found, at']; exact next)
        rw [outcome, if_neg (by simp)]
        rw [found, at'] at later
        dsimp only
        rw [found]
        omega
      · have later := @ih (state.spend (state.windowAt bps call.now call.bytes) call.bytes) _ rfl rest
          (by rw [found]; simpa [at'] using next)
        rw [found] at enough later
        rw [at'] at later
        rw [outcome, found]
        dsimp only at later ⊢
        split_ifs <;> omega

/-- The window of a session whose datagrams have at most so many bytes. -/
def WindowBelow (burst : Nat) (state : SessionForwardingState) (calls : List ForwardCall) : Prop :=
  ∀ window ∈ state.forwardWindow, window.availableBytes ≤ burst ∧
    ∀ call ∈ calls, window.lastRefill ≤ call.now

/-- The bytes allowed from `lo` to `hi` are one burst and what the rate gives in between, at most. -/
theorem bytesAllowed_le (rate : limits.maxForwardBps = some bps) {largest : Nat}
    (sizes : ∀ call ∈ calls, call.bytes ≤ largest) (ordered : InOrder calls)
    (below : WindowBelow (max bps largest) state calls) :
    1000000000 * bytesAllowed limits lo hi state calls ≤
      1000000000 * max bps largest + (hi - lo) * bps := by
  induction calls generalizing state with
  | nil => simp [bytesAllowed]
  | cons call calls ih =>
    obtain ⟨next, rest⟩ := List.pairwise_cons.mp ordered
    have fits : max bps call.bytes ≤ max bps largest :=
      max_le_max le_rfl (sizes call (by simp))
    -- the window that the call finds, whether it opens it or not
    obtain ⟨filled, at'⟩ : (state.windowAt bps call.now call.bytes).availableBytes ≤ max bps largest ∧
        (state.windowAt bps call.now call.bytes).lastRefill = call.now := by
      unfold SessionForwardingState.windowAt
      cases open_ : state.forwardWindow with
      | none => exact ⟨availableBytes_refilled_le_of_le fits fits, lastRefill_refilled le_rfl⟩
      | some window =>
        obtain ⟨held, past⟩ := below window open_
        exact ⟨availableBytes_refilled_le_of_le held fits, lastRefill_refilled (past call (by simp))⟩
    have cases' := SessionForwardingState.forward_cases rate state call
    have smaller := fun c mem => sizes c (List.mem_cons_of_mem call mem)
    rw [bytesAllowed]
    generalize state.windowAt bps call.now call.bytes = window at *
    rcases cases' with ⟨-, refused, closed⟩ | ⟨-, -, ⟨-, outcome⟩ | ⟨enough, outcome⟩⟩
    · rw [bytesAllowed_closed closed, if_neg (by simp [refused])]
      omega
    · have kept : WindowBelow (max bps largest) (state.refuse window) calls := by
        rintro _ ⟨rfl⟩
        exact ⟨filled, at' ▸ next⟩
      rw [outcome, if_neg (by simp), Nat.zero_add]
      exact ih smaller rest kept
    · have kept : WindowBelow (max bps largest) (state.spend window call.bytes) calls := by
        rintro _ ⟨rfl⟩
        exact ⟨(Nat.sub_le ..).trans filled, at' ▸ next⟩
      have later := ih smaller rest kept
      rw [outcome]
      dsimp only
      by_cases early : call.now < lo
      · rw [if_neg (by omega), Nat.zero_add]
        exact later
      · -- the first call of the interval opens the account
        have account := @bytesAllowed_le_of_window limits bps lo hi (state.spend window call.bytes)
          calls rate _ rfl rest (by dsimp only; rw [at']; exact next)
        have span : (hi - window.lastRefill) * bps ≤ (hi - lo) * bps :=
          Nat.mul_le_mul_right _ (by omega)
        dsimp only at account
        split_ifs <;> omega

end Bound

/-! ## Calls that are inserted -/

/-- The calls of a session in order, with those that are inserted marked, and the session with and
without them: while the inserted ones are refused for the rate, a call that is allowed without them
is allowed with them. -/
def Undisturbed (limits : RelayServiceLimits) :
    SessionForwardingState → SessionForwardingState → List (Bool × ForwardCall) → Prop
  | _, _, [] => True
  | own, polled, (true, call) :: calls =>
    (polled.forward limits call).1 = .error .RateLimited →
      Undisturbed limits own (polled.forward limits call).2 calls
  | own, polled, (false, call) :: calls =>
    ((own.forward limits call).1 = .ok () → (polled.forward limits call).1 = .ok ()) ∧
      Undisturbed limits (own.forward limits call).2 (polled.forward limits call).2 calls

/-- The times of the calls, with those that are inserted marked. -/
abbrev Schedule := List (Bool × Nat)

def scheduleOf (calls : List (Bool × ForwardCall)) : Schedule := calls.map fun e => (e.1, e.2.now)

/-- The bytes credited at the inserted calls since the last own one, and then at the next own one, are
those that it would be credited alone. `since` is the time of the last own call, `last` that of the
last call, and `credited` what the calls in between were credited. -/
def KeepsBytes (bps : Nat) : (since last credited : Nat) → Schedule → Prop
  | _, _, _, [] => True
  | since, last, credited, (true, now) :: rest =>
    KeepsBytes bps since now (credited + exactRefill (now - last) bps) rest
  | since, last, credited, (false, now) :: rest =>
    credited + exactRefill (now - last) bps = exactRefill (now - since) bps ∧
      KeepsBytes bps now now 0 rest

/-- No inserted call takes the very instant of the next own one, unless the last own one did. -/
def PollsApart : (since last : Nat) → Schedule → Prop
  | _, _, [] => True
  | since, _, (true, now) :: rest => PollsApart since now rest
  | since, last, (false, now) :: rest => (now = last → now = since) ∧ PollsApart now now rest

/-- A schedule that starts with an own call satisfies the condition from there on; before the first
call of a session no call is refused. -/
def FromFirstCall (P : Nat → Schedule → Prop) : Schedule → Prop
  | (false, first) :: rest => P first rest
  | _ => True

section Polls
variable {limits : RelayServiceLimits} {bps : Nat} {own polled : SessionForwardingState}

theorem undisturbed_of_closed (closed : own.closed = true) (calls : List (Bool × ForwardCall)) :
    Undisturbed limits own polled calls := by
  induction calls generalizing polled with
  | nil => trivial
  | cons e calls ih =>
    obtain ⟨inserted, call⟩ := e
    have refused := @SessionForwardingState.forward_closed limits own call closed
    cases inserted with
    | true => exact fun _ => ih
    | false =>
      refine ⟨fun allowed => ?_, ?_⟩
      · rw [refused] at allowed
        cases allowed
      · rw [refused]
        exact ih

/-- The sessions differ in the inserted calls since the last own one alone. -/
structure Lockstep (own polled : SessionForwardingState) (since last credited : Nat) : Prop where
  closed : polled.closed = own.closed
  total : polled.totalForwardedBytes = own.totalForwardedBytes
  windows : ∃ available, own.forwardWindow = some ⟨since, available⟩ ∧
    polled.forwardWindow = some ⟨last, available + credited⟩
  past : since ≤ last

/-- A refused call was credited in full: its own size is no cap. -/
theorem availableBytes_of_refused {window : ForwardWindow} {now bytes : Nat}
    (short : (window.refilled bps now bytes).availableBytes < bytes) :
    (window.refilled bps now bytes).availableBytes =
      window.availableBytes + exactRefill (now - window.lastRefill) bps := by
  unfold ForwardWindow.refilled at short ⊢
  split_ifs at short ⊢ with passed
  · dsimp only at short ⊢
    omega
  · have none' : now - window.lastRefill = 0 := by omega
    simp [none']

/-- An own call finds the same window with and without the inserted calls. -/
theorem refilled_eq_of_lockstep {since last credited available now bytes : Nat}
    (past : since ≤ last) (later : last ≤ now)
    (keeps : credited + exactRefill (now - last) bps = exactRefill (now - since) bps)
    (apart : now = last → now = since) :
    (⟨last, available + credited⟩ : ForwardWindow).refilled bps now bytes =
      (⟨since, available⟩ : ForwardWindow).refilled bps now bytes := by
  by_cases same : now = last
  · obtain rfl := apart same
    obtain rfl := same
    have none' : credited = 0 := by simpa using keeps
    rw [none', Nat.add_zero]
  · have passed : 0 < now - last := by omega
    have passed' : 0 < now - since := by omega
    simp only [ForwardWindow.refilled, if_pos passed, if_pos passed', Nat.add_assoc, keeps]

theorem undisturbed_of_lockstep (rate : limits.maxForwardBps = some bps) {since last credited : Nat}
    (same : Lockstep own polled since last credited) {calls : List (Bool × ForwardCall)}
    (ordered : InOrder (calls.map Prod.snd)) (after : ∀ e ∈ calls, last ≤ e.2.now)
    (keeps : KeepsBytes bps since last credited (scheduleOf calls))
    (apart : PollsApart since last (scheduleOf calls)) : Undisturbed limits own polled calls := by
  induction calls generalizing own polled since last credited with
  | nil => trivial
  | cons e calls ih =>
    obtain ⟨inserted, call⟩ := e
    obtain ⟨next, rest⟩ := List.pairwise_cons.mp ordered
    have next' : ∀ e ∈ calls, call.now ≤ e.2.now := fun e mem =>
      next e.2 (List.mem_map_of_mem mem)
    obtain ⟨available, ownWindow, polledWindow⟩ := same.windows
    have later : last ≤ call.now := after (inserted, call) (by simp)
    have found : polled.windowAt bps call.now call.bytes =
        (⟨last, available + credited⟩ : ForwardWindow).refilled bps call.now call.bytes := by
      rw [SessionForwardingState.windowAt, polledWindow, Option.getD_some]
    have at' : ((⟨last, available + credited⟩ : ForwardWindow).refilled bps call.now
        call.bytes).lastRefill = call.now := lastRefill_refilled later
    cases inserted with
    | true =>
      intro refused
      rcases SessionForwardingState.forward_cases rate polled call with
        ⟨-, capped, -⟩ | ⟨-, -, ⟨short, outcome⟩ | ⟨-, outcome⟩⟩
      · rw [capped] at refused
        cases refused
      · rw [found] at short
        have credit := availableBytes_of_refused short
        rw [outcome]
        refine ih ⟨same.closed, same.total, ⟨available, ownWindow, ?_⟩, same.past.trans later⟩ rest
          next' keeps apart
        rw [found, ← Nat.add_assoc, ← credit]
        exact congrArg some (congrArg (ForwardWindow.mk · _) at')
      · rw [outcome] at refused
        cases refused
    | false =>
      obtain ⟨whole, keeps⟩ := keeps
      obtain ⟨strict, apart⟩ := apart
      have agree := @refilled_eq_of_lockstep bps since last credited available call.now call.bytes
        same.past later whole strict
      have alone : own.windowAt bps call.now call.bytes =
          (⟨since, available⟩ : ForwardWindow).refilled bps call.now call.bytes := by
        rw [SessionForwardingState.windowAt, ownWindow, Option.getD_some]
      rw [agree] at found at'
      rcases SessionForwardingState.forward_cases rate own call with
        ⟨-, refused, closed⟩ | ⟨ownOpen, room, decision⟩
      · exact ⟨fun allowed => (by rw [refused] at allowed; cases allowed),
          undisturbed_of_closed closed calls⟩
      rcases SessionForwardingState.forward_cases rate polled call with
        ⟨full, -⟩ | ⟨-, -, decision'⟩
      · rw [same.closed, same.total] at full
        exact absurd (full ownOpen) (Nat.not_lt.mpr room)
      rw [alone] at decision
      rw [found] at decision'
      generalize (⟨since, available⟩ : ForwardWindow).refilled bps call.now call.bytes = window at *
      rcases decision with ⟨short, outcome⟩ | ⟨enough, outcome⟩
      · rcases decision' with ⟨-, outcome'⟩ | ⟨enough, -⟩
        · rw [Undisturbed, outcome, outcome']
          exact ⟨fun allowed => (by cases allowed), ih ⟨same.closed, same.total, ⟨window.availableBytes,
            (by rw [← at']; rfl), (by rw [← at']; rfl)⟩, le_rfl⟩ rest next' keeps apart⟩
        · omega
      · rcases decision' with ⟨short, -⟩ | ⟨-, outcome'⟩
        · omega
        · rw [Undisturbed, outcome, outcome']
          refine ⟨fun _ => rfl, ih ⟨same.closed, ?_, ⟨window.availableBytes - call.bytes,
            (by rw [← at']; rfl), (by rw [← at']; rfl)⟩, le_rfl⟩ rest next' keeps apart⟩
          exact congrArg (saturatingAdd · call.bytes) same.total

/-- The first call of a session finds the window that it opens. -/
theorem windowAt_fresh (bps : Nat) (call : ForwardCall) :
    (({} : SessionForwardingState).windowAt bps call.now call.bytes) =
      ⟨call.now, max bps call.bytes⟩ := by
  simp [SessionForwardingState.windowAt, ForwardWindow.refilled]

theorem forward_fresh (rate : limits.maxForwardBps = some bps) (call : ForwardCall) :
    (limits.maxBytesPerSession < saturatingAdd 0 call.bytes ∧
      (({} : SessionForwardingState).forward limits call).1 = .error .ByteLimitExceeded ∧
      (({} : SessionForwardingState).forward limits call).2.closed = true) ∨
    ({} : SessionForwardingState).forward limits call =
      (.ok (), ({} : SessionForwardingState).spend ⟨call.now, max bps call.bytes⟩ call.bytes) := by
  rcases SessionForwardingState.forward_cases rate {} call with
    ⟨full, refused⟩ | ⟨-, -, ⟨short, -⟩ | ⟨-, outcome⟩⟩
  · exact Or.inl ⟨full rfl, refused⟩
  · rw [windowAt_fresh] at short
    exact absurd (le_max_right bps call.bytes) (Nat.not_le.mpr short)
  · rw [windowAt_fresh] at outcome
    exact Or.inr outcome

theorem lockstep_spend (call : ForwardCall) (window : ForwardWindow)
    (at' : window.lastRefill = call.now) (state : SessionForwardingState) :
    Lockstep (state.spend window call.bytes) (state.spend window call.bytes) call.now call.now 0 :=
  ⟨rfl, rfl, ⟨window.availableBytes - call.bytes, (by rw [← at']; rfl), (by rw [← at']; rfl)⟩, le_rfl⟩

/-- While no bytes are lost, the inserted calls do not take what the session is allowed alone. -/
theorem undisturbed_of_keepsBytes (rate : limits.maxForwardBps = some bps)
    {calls : List (Bool × ForwardCall)} (ordered : InOrder (calls.map Prod.snd))
    (keeps : FromFirstCall (fun first => KeepsBytes bps first first 0) (scheduleOf calls))
    (apart : FromFirstCall (fun first => PollsApart first first) (scheduleOf calls)) :
    Undisturbed limits {} {} calls := by
  rcases calls with _ | ⟨⟨inserted, call⟩, calls⟩
  · trivial
  obtain ⟨next, rest⟩ := List.pairwise_cons.mp ordered
  have next' : ∀ e ∈ calls, call.now ≤ e.2.now := fun e mem => next e.2 (List.mem_map_of_mem mem)
  cases inserted with
  | true =>
    intro refused
    rcases forward_fresh rate call with ⟨-, capped, -⟩ | outcome
    · rw [capped] at refused
      cases refused
    · rw [outcome] at refused
      cases refused
  | false =>
    refine ⟨id, ?_⟩
    rcases forward_fresh rate call with ⟨-, -, closed⟩ | outcome
    · exact undisturbed_of_closed closed calls
    · rw [outcome]
      exact undisturbed_of_lockstep rate (lockstep_spend call _ rfl _) rest next' keeps apart

end Polls

/-! ## Calls that lose bytes -/

/-- Calls that drain the window: an own call takes what it is credited alone, an inserted one asks for
one byte more than there is. -/
def drain (bps : Nat) : (since last credited : Nat) → Schedule → List (Bool × ForwardCall)
  | _, _, _, [] => []
  | since, last, credited, (true, now) :: rest =>
    (true, ⟨now, credited + exactRefill (now - last) bps + 1⟩) ::
      drain bps since now (credited + exactRefill (now - last) bps) rest
  | since, _, _, (false, now) :: rest =>
    (false, ⟨now, exactRefill (now - since) bps⟩) :: drain bps now now 0 rest

section Drain
variable {limits : RelayServiceLimits} {bps : Nat} {own polled : SessionForwardingState}

theorem scheduleOf_drain (since last credited : Nat) (schedule : Schedule) :
    scheduleOf (drain bps since last credited schedule) = schedule := by
  induction schedule generalizing since last credited with
  | nil => rfl
  | cons e rest ih =>
    obtain ⟨inserted, now⟩ := e
    cases inserted <;> simp [drain, scheduleOf] <;> exact ih ..

/-- Rounding down twice loses no less than rounding down once. -/
theorem exactRefill_add_le {since last now credited : Nat} (past : since ≤ last) (later : last ≤ now)
    (whole : credited ≤ exactRefill (last - since) bps) :
    credited + exactRefill (now - last) bps ≤ exactRefill (now - since) bps := by
  have split : (now - since) * bps = (last - since) * bps + (now - last) * bps := by
    rw [← Nat.add_mul]
    congr 1
    omega
  unfold exactRefill at *
  rw [split]
  exact (Nat.add_le_add_right whole _).trans Nat.div_add_div_le_add_div

/-- A session that nothing but its rate limits decides by its window. -/
theorem forward_of_roomy (rate : limits.maxForwardBps = some bps)
    (roomy : limits.maxBytesPerSession = u64Max) {state : SessionForwardingState}
    (open_ : state.closed = false) {window : ForwardWindow}
    (held : state.forwardWindow = some window) (call : ForwardCall) :
    ((window.refilled bps call.now call.bytes).availableBytes < call.bytes →
      state.forward limits call =
        (.error .RateLimited, state.refuse (window.refilled bps call.now call.bytes))) ∧
    (call.bytes ≤ (window.refilled bps call.now call.bytes).availableBytes →
      state.forward limits call =
        (.ok (), state.spend (window.refilled bps call.now call.bytes) call.bytes)) := by
  have found : state.windowAt bps call.now call.bytes =
      window.refilled bps call.now call.bytes := by
    rw [SessionForwardingState.windowAt, held, Option.getD_some]
  have fits : ¬ limits.maxBytesPerSession < saturatingAdd state.totalForwardedBytes call.bytes := by
    rw [roomy, Nat.not_lt]
    exact Nat.min_le_right ..
  have decision := SessionForwardingState.forward_cases rate state call
  rw [found] at decision
  rcases decision with ⟨full, -⟩ | ⟨-, -, ⟨short, outcome⟩ | ⟨enough, outcome⟩⟩
  · exact absurd (full open_) fits
  · exact ⟨fun _ => outcome, fun enough => absurd short (Nat.not_lt.mpr enough)⟩
  · exact ⟨fun short => absurd short (Nat.not_lt.mpr enough), fun _ => outcome⟩

/-- A drained window at the next call, which asks for no less than it is credited. -/
theorem refilled_of_credit {last credited now bytes : Nat}
    (asks : credited + exactRefill (now - last) bps ≤ max bps bytes) (past : last ≤ now) :
    (⟨last, credited⟩ : ForwardWindow).refilled bps now bytes =
      ⟨now, credited + exactRefill (now - last) bps⟩ := by
  unfold ForwardWindow.refilled
  split_ifs with passed
  · rw [Nat.min_eq_left asks]
  · obtain rfl : last = now := by
      dsimp only at passed
      omega
    simp

theorem keepsBytes_of_undisturbed (rate : limits.maxForwardBps = some bps)
    (roomy : limits.maxBytesPerSession = u64Max) {since last credited : Nat} {schedule : Schedule}
    (ordered : schedule.Pairwise fun e f => e.2 ≤ f.2) (after : ∀ e ∈ schedule, last ≤ e.2)
    (past : since ≤ last) (whole : credited ≤ exactRefill (last - since) bps)
    (ownOpen : own.closed = false) (polledOpen : polled.closed = false)
    (drained : own.forwardWindow = some ⟨since, 0⟩)
    (polledWindow : polled.forwardWindow = some ⟨last, credited⟩)
    (h : Undisturbed limits own polled (drain bps since last credited schedule)) :
    KeepsBytes bps since last credited schedule := by
  induction schedule generalizing own polled since last credited with
  | nil => trivial
  | cons e rest ih =>
    obtain ⟨inserted, now⟩ := e
    obtain ⟨next, inOrder⟩ := List.pairwise_cons.mp ordered
    have later : last ≤ now := after (inserted, now) (by simp)
    have fits : credited + exactRefill (now - last) bps ≤ exactRefill (now - since) bps :=
      exactRefill_add_le past later whole
    cases inserted with
    | true =>
      have found := @refilled_of_credit bps last credited now
        (credited + exactRefill (now - last) bps + 1) (by omega) later
      have refused := (forward_of_roomy rate roomy polledOpen polledWindow
        ⟨now, credited + exactRefill (now - last) bps + 1⟩).1
      dsimp only at refused
      rw [found] at refused
      have outcome := refused (Nat.lt_succ_self _)
      rw [drain, Undisturbed, outcome] at h
      refine ih inOrder next (past.trans later) fits ?_ ?_ ?_ ?_ (h rfl)
      exacts [ownOpen, polledOpen, drained, rfl]
    | false =>
      have alone := @refilled_of_credit bps since 0 now (exactRefill (now - since) bps)
        (by omega) (past.trans later)
      have found := @refilled_of_credit bps last credited now (exactRefill (now - since) bps)
        (by omega) later
      have allowed := (forward_of_roomy rate roomy ownOpen drained
        ⟨now, exactRefill (now - since) bps⟩).2
      have decision := forward_of_roomy rate roomy polledOpen polledWindow
        ⟨now, exactRefill (now - since) bps⟩
      dsimp only at allowed decision
      rw [alone] at allowed
      rw [found] at decision
      have outcome := allowed (by simp)
      obtain ⟨verdict, later'⟩ := h
      have enough : exactRefill (now - since) bps ≤ credited + exactRefill (now - last) bps := by
        by_contra short
        rw [outcome, decision.1 (Nat.not_le.mp short)] at verdict
        cases verdict rfl
      have outcome' := decision.2 enough
      rw [outcome, outcome'] at later'
      refine ⟨le_antisymm fits enough,
        ih inOrder next le_rfl (Nat.zero_le _) ?_ ?_ ?_ ?_ later'⟩
      · exact ownOpen
      · exact polledOpen
      · simp [SessionForwardingState.spend]
      · simp [SessionForwardingState.spend, Nat.sub_eq_zero_of_le fits]

/-- Times at which bytes are lost disturb a session that is drained. -/
theorem keepsBytes_of_forall_undisturbed {schedule : Schedule}
    (ordered : schedule.Pairwise fun e f => e.2 ≤ f.2)
    (h : ∀ (limits : RelayServiceLimits) (calls : List (Bool × ForwardCall)),
      limits.maxForwardBps = some bps → scheduleOf calls = schedule →
        Undisturbed limits {} {} calls) :
    FromFirstCall (fun first => KeepsBytes bps first first 0) schedule := by
  rcases schedule with _ | ⟨⟨inserted, first⟩, rest⟩
  · trivial
  obtain ⟨next, inOrder⟩ := List.pairwise_cons.mp ordered
  cases inserted with
  | true => trivial
  | false =>
    have undisturbed := h ⟨0, 0, u64Max, some bps⟩
      ((false, ⟨first, bps⟩) :: drain bps first first 0 rest) rfl
      (congrArg _ (scheduleOf_drain ..))
    rcases @forward_fresh ⟨0, 0, u64Max, some bps⟩ bps rfl ⟨first, bps⟩ with ⟨full, -⟩ | outcome
    · exact absurd (Nat.min_le_right ..) (Nat.not_le.mpr full)
    · have later := undisturbed.2
      rw [outcome] at later
      refine keepsBytes_of_undisturbed rfl rfl inOrder next le_rfl (Nat.zero_le _) ?_ ?_ ?_ ?_ later
      · rfl
      · rfl
      · simp [SessionForwardingState.spend]
      · simp [SessionForwardingState.spend]

end Drain

/-! ## The rate of a session -/

/-- At any rate a session forwards one burst and what the rate gives, at most; and the calls that it
refuses take nothing from the later ones while no bytes are lost to rounding and no refused call takes
the instant of the next one. Where bytes are lost, some session is disturbed. -/
theorem rate_limit (bps : Nat) :
    (∀ (limits : RelayServiceLimits) (calls : List ForwardCall) (largest lo hi : Nat),
      limits.maxForwardBps = some bps → InOrder calls → (∀ call ∈ calls, call.bytes ≤ largest) →
        1000000000 * bytesAllowed limits lo hi {} calls ≤
          1000000000 * max bps largest + (hi - lo) * bps) ∧
    (∀ (limits : RelayServiceLimits) (calls : List (Bool × ForwardCall)),
      limits.maxForwardBps = some bps → InOrder (calls.map Prod.snd) →
        FromFirstCall (fun first => KeepsBytes bps first first 0) (scheduleOf calls) →
        FromFirstCall (fun first => PollsApart first first) (scheduleOf calls) →
          Undisturbed limits {} {} calls) ∧
    ∀ schedule : Schedule, schedule.Pairwise (fun e f => e.2 ≤ f.2) →
      (∀ (limits : RelayServiceLimits) (calls : List (Bool × ForwardCall)),
        limits.maxForwardBps = some bps → scheduleOf calls = schedule →
          Undisturbed limits {} {} calls) →
        FromFirstCall (fun first => KeepsBytes bps first first 0) schedule := by
  refine ⟨?burst, ?polls, ?lost⟩
  case burst =>
    intro limits calls largest lo hi rate ordered sizes
    refine bytesAllowed_le rate sizes ordered ?_
    rintro _ ⟨⟩
  case polls =>
    exact fun limits calls rate ordered keeps apart => undisturbed_of_keepsBytes rate ordered keeps apart
  case lost => exact fun schedule ordered h => keepsBytes_of_forall_undisturbed ordered h

def oneByteAMillisecond : RelayServiceLimits := ⟨1, 1, 1000000, some 1000⟩

/-- At a thousand bytes a second a datagram of one byte is allowed a millisecond after the burst, and
no longer when another one was refused half way. -/
theorem polling_starves :
    InOrder [⟨0, 1000⟩, ⟨500000, 1⟩, ⟨1000000, 1⟩] ∧
    ¬ Undisturbed oneByteAMillisecond {} {}
      [(false, ⟨0, 1000⟩), (true, ⟨500000, 1⟩), (false, ⟨1000000, 1⟩)] := by
  refine ⟨by simp [InOrder], fun h => ?_⟩
  have refused := (h.2 (by decide +kernel)).1 (by decide +kernel)
  exact absurd refused (by decide +kernel)

end NostrVpn.Relay
