import NostrVpn.Relay.RelayService

/-!
# The two leg tasks of a relay session

`spawn_leg` in `nostr-vpn-relay/src/bin/nvpn-udp-relay.rs`. Under the session lock a task admits a datagram,
compares its source with the bound address of the leg and picks the destination; it sends after the
lock is released, and receives nothing meanwhile. The other task may run in between.

Admission comes before the comparison, so a datagram that is never forwarded still uses up the limits
of the session. The bound addresses and the byte limit hold along every interleaving.
-/
namespace NostrVpn.Relay

open Rust Rust.Net NostrVpn.Core Transition

/-- A datagram on its way from one leg to the other. -/
structure Forward where
  requesterLeg : Bool
  src : SocketAddr
  dest : SocketAddr
  len : Nat
  deriving DecidableEq

namespace PortPair

def bound (pair : PortPair) (requesterLeg : Bool) : Option SocketAddr :=
  if requesterLeg then pair.requesterBound else pair.targetBound

def bind (pair : PortPair) (requesterLeg : Bool) (src : SocketAddr) : PortPair :=
  if requesterLeg then { pair with requesterBound := some src }
  else { pair with targetBound := some src }

/-- The source is the bound address of the leg, or becomes it. -/
def Accepts (pair : PortPair) (requesterLeg : Bool) (src : SocketAddr) : Prop :=
  ∀ addr ∈ pair.bound requesterLeg, addr = src

instance (pair : PortPair) (requesterLeg : Bool) (src : SocketAddr) :
    Decidable (pair.Accepts requesterLeg src) := inferInstanceAs (Decidable (∀ _ ∈ _, _))

/-- The datagram has a destination, once it is admitted. -/
def Addressed (pair : PortPair) (requesterLeg : Bool) (src : SocketAddr) : Prop :=
  pair.Accepts requesterLeg src ∧ (pair.bound !requesterLeg).isSome

instance (pair : PortPair) (requesterLeg : Bool) (src : SocketAddr) :
    Decidable (pair.Addressed requesterLeg src) := inferInstanceAs (Decidable (_ ∧ _))

@[simp] theorem bound_bind (pair : PortPair) (requesterLeg : Bool) (src : SocketAddr) :
    (pair.bind requesterLeg src).bound requesterLeg = some src := by
  cases requesterLeg <;> rfl

@[simp] theorem bound_bind_not (pair : PortPair) (requesterLeg : Bool) (src : SocketAddr) :
    (pair.bind requesterLeg src).bound (!requesterLeg) = pair.bound !requesterLeg := by
  cases requesterLeg <;> rfl

@[simp] theorem forwarding_bind (pair : PortPair) (requesterLeg : Bool) (src : SocketAddr) :
    (pair.bind requesterLeg src).forwarding = pair.forwarding := by
  cases requesterLeg <;> rfl

@[simp] theorem bound_endLeg (pair : PortPair) (ended requesterLeg : Bool) :
    (pair.endLeg ended).bound requesterLeg = pair.bound requesterLeg := by
  cases ended <;> rfl

@[simp] theorem forwarding_endLeg (pair : PortPair) (ended : Bool) :
    (pair.endLeg ended).forwarding = pair.forwarding := by
  cases ended <;> rfl

/-- An accepted source stays, or becomes, the bound address of its leg. -/
theorem bound_bind_of_accepts {pair : PortPair} {requesterLeg : Bool} {src : SocketAddr}
    (accepted : pair.Accepts requesterLeg src) {leg : Bool} {addr : SocketAddr}
    (h : pair.bound leg = some addr) : (pair.bind requesterLeg src).bound leg = some addr := by
  by_cases same : leg = requesterLeg
  · subst same
    rw [bound_bind, accepted addr h]
  · rw [Bool.eq_not_of_ne same] at h ⊢
    rw [bound_bind_not, h]

variable (refill : Nat → Nat → Nat) (limits : RelayServiceLimits)

/-- Admission first, then the source of the datagram. -/
theorem receive_of_refused {instant : Nat} {pair : PortPair} {requesterLeg : Bool} {src : SocketAddr}
    {len : Nat} {e : RelayAllocationRejectReason}
    (h : (pair.forwarding.allowForward refill limits instant len).1 = .error e) :
    pair.receive refill limits instant requesterLeg src len =
      (none, { pair with forwarding := (pair.forwarding.allowForward refill limits instant len).2 }) := by
  unfold receive
  simp only [h]

theorem receive_of_admitted {instant : Nat} {pair : PortPair} {requesterLeg : Bool}
    {src : SocketAddr} {len : Nat}
    (h : (pair.forwarding.allowForward refill limits instant len).1 = .ok ()) :
    pair.receive refill limits instant requesterLeg src len =
      if pair.Accepts requesterLeg src then
        (pair.bound !requesterLeg, { pair with
          forwarding := (pair.forwarding.allowForward refill limits instant len).2 }.bind
            requesterLeg src)
      else (none, { pair with
        forwarding := (pair.forwarding.allowForward refill limits instant len).2 }) := by
  unfold receive
  simp only [h]
  cases requesterLeg with
  | true =>
    cases eq : pair.requesterBound with
    | none => simp [Accepts, bound, bind, eq]
    | some addr => by_cases same : addr = src <;> simp [Accepts, bound, bind, eq, same]
  | false =>
    cases eq : pair.targetBound with
    | none => simp [Accepts, bound, bind, eq]
    | some addr => by_cases same : addr = src <;> simp [Accepts, bound, bind, eq, same]

end PortPair

/-! ## Admission -/

namespace SessionForwardingState

variable {refill : Nat → Nat → Nat} {limits : RelayServiceLimits} {state : SessionForwardingState}
  {now bytes : Nat}

/-- Admission control keeps no trace of such a datagram. -/
def Inert (limits : RelayServiceLimits) (state : SessionForwardingState) (now bytes : Nat) : Prop :=
  state.closed = true ∨
    saturatingAdd state.totalForwardedBytes bytes ≤ limits.maxBytesPerSession ∧
      match limits.maxForwardBps with
      | none => saturatingAdd state.totalForwardedBytes bytes = state.totalForwardedBytes
      | some _ => ∃ window ∈ state.forwardWindow, now ≤ window.lastRefill ∧
          (window.availableBytes < bytes ∨ bytes = 0)

/-- What admission does to the byte count, and that a refusal keeps it. -/
theorem totalForwardedBytes_allowForward :
    (state.allowForward refill limits now bytes).1 = .ok () ∧
        saturatingAdd state.totalForwardedBytes bytes ≤ limits.maxBytesPerSession ∧
        (state.allowForward refill limits now bytes).2.totalForwardedBytes =
          saturatingAdd state.totalForwardedBytes bytes ∨
      (∃ e, (state.allowForward refill limits now bytes).1 = .error e) ∧
        (state.allowForward refill limits now bytes).2.totalForwardedBytes =
          state.totalForwardedBytes := by
  unfold allowForward
  dsimp only
  split_ifs with closed exceeds
  · exact .inr ⟨⟨_, rfl⟩, rfl⟩
  · exact .inr ⟨⟨_, rfl⟩, rfl⟩
  · have within := Nat.not_lt.mp exceeds
    cases limits.maxForwardBps with
    | none => exact .inl ⟨rfl, within, rfl⟩
    | some maxForwardBps =>
      dsimp only
      split_ifs
      · exact .inr ⟨⟨_, rfl⟩, rfl⟩
      · exact .inl ⟨rfl, within, rfl⟩
      · exact .inr ⟨⟨_, rfl⟩, rfl⟩
      · exact .inl ⟨rfl, within, rfl⟩

theorem saturatingAdd_zero {a : Nat} (h : a ≤ u64Max) : saturatingAdd a 0 = a := by
  simp only [saturatingAdd]; omega

/-- The inert datagrams are those that leave the session state as it is. -/
theorem allowForward_snd_eq_iff (fits : state.totalForwardedBytes ≤ u64Max) :
    (state.allowForward refill limits now bytes).2 = state ↔ state.Inert limits now bytes := by
  obtain ⟨window, total, closed⟩ := state
  unfold allowForward Inert
  cases closed with
  | true => simp
  | false =>
    simp only [Bool.false_eq_true, if_false, false_or]
    split_ifs with exceeds
    · simp [Nat.not_le.mpr exceeds]
    · simp only [Nat.not_lt.mp exceeds, true_and]
      cases limits.maxForwardBps with
      | none => simp
      | some maxForwardBps =>
        cases window with
        | none => dsimp only; split_ifs <;> simp
        | some window =>
          obtain ⟨lastRefill, available⟩ := window
          simp only [Option.getD_some, Option.mem_def, Option.some.injEq, exists_eq_left']
          by_cases elapsed : 0 < now - lastRefill
          · have late : ¬ now ≤ lastRefill := by omega
            simp only [if_pos elapsed, late, false_and, iff_false]
            split_ifs <;> simp <;> omega
          · have early : now ≤ lastRefill := by omega
            simp only [if_neg elapsed, early, true_and]
            split_ifs with short
            · simp [short]
            · simp only [short, false_or, SessionForwardingState.mk.injEq, Option.some.injEq,
                ForwardWindow.mk.injEq, true_and, and_true]
              constructor
              · intro h; omega
              · rintro rfl
                exact ⟨by omega, saturatingAdd_zero fits⟩

end SessionForwardingState

/-! ## The tasks -/

/-- The pair, the datagram each task is sending, and those that were sent. -/
structure LegTasks where
  pair : PortPair
  sending : Bool → Option Forward := fun _ => none
  forwarded : List Forward := []

/-- `now` is the instant at which the task holds the lock. -/
inductive LegEvent where
  | datagram (requesterLeg : Bool) (src : SocketAddr) (len now : Nat)
  | sent (requesterLeg ok : Bool)
  | ended (requesterLeg : Bool)
  deriving DecidableEq

namespace LegTasks

def spawned (lease : Lease) (deadline : Nat) : LegTasks := { pair := { lease, deadline } }

/-- The task waits for a datagram. -/
def receiving (s : LegTasks) (requesterLeg : Bool) : Bool :=
  s.pair.legRunning requesterLeg && (s.sending requesterLeg).isNone

def step (refill : Nat → Nat → Nat) (limits : RelayServiceLimits) (s : LegTasks) : LegEvent → LegTasks
  | .datagram requesterLeg src len now =>
    if !s.receiving requesterLeg then s
    else
      let (dest, pair) := s.pair.receive refill limits now requesterLeg src len
      { s with
        pair
        sending := Function.update s.sending requesterLeg
          (dest.map fun dest => ⟨requesterLeg, src, dest, len⟩) }
  | .sent requesterLeg ok =>
    { s with
      sending := Function.update s.sending requesterLeg none
      forwarded := if ok then s.forwarded ++ (s.sending requesterLeg).toList else s.forwarded }
  | .ended requesterLeg =>
    if !s.receiving requesterLeg then s else { s with pair := s.pair.endLeg requesterLeg }

def forwardedBytes (s : LegTasks) : Nat := (s.forwarded.map Forward.len).sum

def sendingBytes (s : LegTasks) : Nat :=
  (s.sending true).elim 0 Forward.len + (s.sending false).elim 0 Forward.len

variable {refill : Nat → Nat → Nat} {limits : RelayServiceLimits} {s : LegTasks}

/-- A received datagram is dropped, or is admitted with an accepted source and binds it. -/
theorem step_datagram {requesterLeg : Bool} {src : SocketAddr} {len now : Nat}
    (waits : s.receiving requesterLeg = true) : ∃ (pair : PortPair) (out : Option Forward),
      s.step refill limits (.datagram requesterLeg src len now) = { s with
        pair := { pair with
          forwarding := (s.pair.forwarding.allowForward refill limits now len).2 }
        sending := Function.update s.sending requesterLeg out } ∧
      (((s.pair.forwarding.allowForward refill limits now len).1 ≠ .ok () ∨
            ¬ s.pair.Accepts requesterLeg src) ∧ pair = s.pair ∧ out = none ∨
        (s.pair.forwarding.allowForward refill limits now len).1 = .ok () ∧
          s.pair.Accepts requesterLeg src ∧ pair = s.pair.bind requesterLeg src ∧
          out = (s.pair.bound !requesterLeg).map fun dest => ⟨requesterLeg, src, dest, len⟩) := by
  simp only [step, waits, Bool.not_true, Bool.false_eq_true, if_false]
  cases verdict : (s.pair.forwarding.allowForward refill limits now len).1 with
  | error e =>
    rw [PortPair.receive_of_refused refill limits verdict]
    exact ⟨s.pair, none, rfl, .inl ⟨.inl (by simp), rfl, rfl⟩⟩
  | ok =>
    rw [PortPair.receive_of_admitted refill limits verdict]
    split_ifs with accepted
    · refine ⟨_, _, ?_, .inr ⟨rfl, accepted, rfl, rfl⟩⟩
      cases requesterLeg <;> rfl
    · exact ⟨s.pair, none, rfl, .inl ⟨.inr accepted, rfl, rfl⟩⟩

theorem bound_step {leg : Bool} {addr : SocketAddr} (h : s.pair.bound leg = some addr)
    (e : LegEvent) : (s.step refill limits e).pair.bound leg = some addr := by
  cases e with
  | datagram requesterLeg src len now =>
    by_cases waits : s.receiving requesterLeg = true
    · obtain ⟨pair, out, eq, ⟨-, rfl, -⟩ | ⟨-, accepted, rfl, -⟩⟩ :=
        @step_datagram refill limits s requesterLeg src len now waits
      · rw [eq]; exact h
      · rw [eq]; exact PortPair.bound_bind_of_accepts accepted h
    · simpa [step, waits] using h
  | sent requesterLeg ok => exact h
  | ended requesterLeg =>
    simp only [step]
    split_ifs
    · exact h
    · rwa [PortPair.bound_endLeg]

/-- A bound address stays for the rest of the run. -/
theorem bound_run {leg : Bool} {addr : SocketAddr} (h : s.pair.bound leg = some addr)
    (es : List LegEvent) : (run (step refill limits) s es).pair.bound leg = some addr :=
  @run_invariant _ _ _ (fun s : LegTasks => s.pair.bound leg = some addr)
    (fun _ e h => bound_step h e) _ h es

/-! ## What is forwarded -/

/-- The datagrams sent and being sent. -/
def taken (s : LegTasks) : List Forward :=
  s.forwarded ++ (s.sending true).toList ++ (s.sending false).toList

theorem mem_taken {f : Forward} :
    f ∈ s.taken ↔ f ∈ s.forwarded ∨ ∃ leg, s.sending leg = some f := by
  simp [taken, Bool.exists_bool, or_comm]

/-- Replacing what a task sends. -/
theorem sendingBytes_update (leg : Bool) (out : Option Forward) :
    { s with sending := Function.update s.sending leg out }.sendingBytes +
        (s.sending leg).elim 0 Forward.len =
      s.sendingBytes + out.elim 0 Forward.len := by
  cases leg <;> simp only [sendingBytes, Function.update_apply] <;> simp <;> omega

/-- A datagram came from the bound address of its leg and goes to the one of the other leg. -/
def Routed (s : LegTasks) (f : Forward) : Prop :=
  s.pair.bound f.requesterLeg = some f.src ∧ s.pair.bound (!f.requesterLeg) = some f.dest

theorem Routed.step {f : Forward} (h : s.Routed f) (e : LegEvent) :
    (s.step refill limits e).Routed f :=
  ⟨bound_step h.1 e, bound_step h.2 e⟩

theorem mem_taken_update {pair : PortPair} {leg : Bool} {out : Option Forward} {f : Forward}
    (h : f ∈ { s with pair, sending := Function.update s.sending leg out }.taken) :
    f ∈ s.taken ∨ out = some f := by
  rw [mem_taken] at h ⊢
  rcases h with sent | ⟨other, sending⟩
  · exact .inl (.inl sent)
  · by_cases same : other = leg
    · subst same
      exact .inr (by simpa using sending)
    · exact .inl (.inr ⟨other, by simpa [same] using sending⟩)

/-- What is taken after a step was taken before it, or is routed. -/
theorem taken_step {f : Forward} {e : LegEvent} (h : f ∈ (s.step refill limits e).taken) :
    f ∈ s.taken ∨ (s.step refill limits e).Routed f := by
  cases e with
  | datagram requesterLeg src len now =>
    by_cases waits : s.receiving requesterLeg = true
    · obtain ⟨pair, out, eq, ⟨-, -, rfl⟩ | ⟨-, -, rfl, rfl⟩⟩ :=
        @step_datagram refill limits s requesterLeg src len now waits
      · rw [eq] at h
        exact .inl ((mem_taken_update h).resolve_right (by simp))
      · rw [eq] at h ⊢
        refine (mem_taken_update h).imp_right fun new => ?_
        obtain ⟨dest, other, rfl⟩ := Option.map_eq_some_iff.mp new
        refine ⟨?_, ?_⟩
        · exact PortPair.bound_bind s.pair requesterLeg src
        · exact (PortPair.bound_bind_not s.pair requesterLeg src).trans other
    · exact .inl (by simpa [LegTasks.step, waits] using h)
  | sent requesterLeg ok =>
    refine .inl ?_
    rw [mem_taken] at h ⊢
    rcases h with sent | ⟨leg, sending⟩
    · cases ok with
      | false => exact .inl sent
      | true =>
        refine (List.mem_append.mp sent).imp_right fun last => ⟨requesterLeg, ?_⟩
        simpa using last
    · by_cases same : leg = requesterLeg
      · simp [LegTasks.step, same] at sending
      · exact .inr ⟨leg, by simpa [LegTasks.step, same] using sending⟩
  | ended requesterLeg =>
    simp only [LegTasks.step] at h
    split_ifs at h <;> exact .inl h

theorem routed_run (lease : Lease) (deadline : Nat) (es : List LegEvent) :
    ∀ f ∈ (run (step refill limits) (spawned lease deadline) es).taken,
      (run (step refill limits) (spawned lease deadline) es).Routed f := by
  refine @run_invariant _ _ _ (fun s : LegTasks => ∀ f ∈ s.taken, s.Routed f) ?_ _ ?_ es
  · intro s e routed f taken
    exact (taken_step taken).elim (fun old => (routed f old).step e) id
  · intro f taken
    simp [LegTasks.taken, spawned] at taken

/-! ## How much is forwarded -/

/-- The bytes sent and being sent. -/
def takenBytes (s : LegTasks) : Nat := s.forwardedBytes + s.sendingBytes

theorem takenBytes_datagram {pair : PortPair} {requesterLeg : Bool} {out : Option Forward}
    (waits : s.receiving requesterLeg = true) :
    { s with pair, sending := Function.update s.sending requesterLeg out }.takenBytes =
      s.takenBytes + out.elim 0 Forward.len := by
  have idle : s.sending requesterLeg = none := by
    simp only [receiving, Bool.and_eq_true, Option.isNone_iff_eq_none] at waits
    exact waits.2
  have replaced := sendingBytes_update (s := s) requesterLeg out
  rw [idle, Option.elim_none] at replaced
  simp only [takenBytes, forwardedBytes, sendingBytes] at replaced ⊢
  omega

theorem takenBytes_sent (requesterLeg ok : Bool) :
    (s.step refill limits (.sent requesterLeg ok)).takenBytes +
        (if ok then 0 else (s.sending requesterLeg).elim 0 Forward.len) = s.takenBytes := by
  have replaced := sendingBytes_update (s := s) requesterLeg none
  cases ok <;> cases out : s.sending requesterLeg <;>
    simp_all [takenBytes, forwardedBytes, sendingBytes, LegTasks.step] <;> omega

/-- Away from the end of its range the byte count covers what is taken, and keeps the limit. -/
structure Metered (limits : RelayServiceLimits) (s : LegTasks) : Prop where
  taken_le : s.takenBytes ≤ s.pair.forwarding.totalForwardedBytes
  total_le : s.pair.forwarding.totalForwardedBytes ≤ limits.maxBytesPerSession

theorem Metered.step (small : limits.maxBytesPerSession < u64Max) (h : s.Metered limits)
    (e : LegEvent) : (s.step refill limits e).Metered limits := by
  obtain ⟨taken, total⟩ := h
  cases e with
  | datagram requesterLeg src len now =>
    by_cases waits : s.receiving requesterLeg = true
    · obtain ⟨pair, out, eq, which⟩ := @step_datagram refill limits s requesterLeg src len now waits
      have bytes := @takenBytes_datagram s { pair with
        forwarding := (s.pair.forwarding.allowForward refill limits now len).2 } _ out waits
      rw [eq]
      rcases @SessionForwardingState.totalForwardedBytes_allowForward refill limits
        s.pair.forwarding now len with ⟨admitted, within, count⟩ | ⟨⟨e, refused⟩, count⟩
      · have out_le : out.elim 0 Forward.len ≤ len := by
          rcases which with ⟨-, -, rfl⟩ | ⟨-, -, -, rfl⟩
          · exact Nat.zero_le len
          · cases s.pair.bound !requesterLeg <;> simp
        refine ⟨?_, ?_⟩ <;> simp only [count, bytes, saturatingAdd] at within ⊢ <;> omega
      · obtain ⟨-, -, rfl⟩ := which.resolve_right fun admitted => by simp [refused] at admitted
        refine ⟨?_, ?_⟩ <;> simp only [count, bytes, Option.elim_none] <;> omega
    · simpa [LegTasks.step, waits] using Metered.mk taken total
  | sent requesterLeg ok =>
    have bytes := @takenBytes_sent refill limits s requesterLeg ok
    refine ⟨le_trans ?_ taken, total⟩
    omega
  | ended requesterLeg =>
    simp only [LegTasks.step]
    split_ifs
    · exact ⟨taken, total⟩
    · refine ⟨?_, ?_⟩
      · rw [PortPair.forwarding_endLeg]; exact taken
      · rw [PortPair.forwarding_endLeg]; exact total

/-- Two tasks of a session, in any interleaving: a bound address is kept, every datagram goes from
the bound address of its leg to that of the other one, and the sizes keep a limit below `u64::MAX`. -/
theorem relayLegs_safe (refill : Nat → Nat → Nat) (limits : RelayServiceLimits) (lease : Lease)
    (deadline : Nat) (es : List LegEvent) :
    (∀ leg addr, (run (step refill limits) (spawned lease deadline) es).pair.bound leg = some addr →
      ∀ later, (run (step refill limits) (spawned lease deadline) (es ++ later)).pair.bound leg =
        some addr) ∧
    (∀ f ∈ (run (step refill limits) (spawned lease deadline) es).forwarded,
      (run (step refill limits) (spawned lease deadline) es).Routed f) ∧
    (limits.maxBytesPerSession < u64Max →
      (run (step refill limits) (spawned lease deadline) es).forwardedBytes ≤
        limits.maxBytesPerSession) := by
  refine ⟨fun leg addr h later => ?_, fun f sent => ?_, fun small => ?_⟩
  · rw [run_append]
    exact bound_run h later
  · exact routed_run lease deadline es f (mem_taken.mpr (.inl sent))
  · have metered := @run_invariant _ _ (step refill limits) (Metered limits)
      (fun _ e h => h.step small e) (spawned lease deadline) ⟨Nat.zero_le _, Nat.zero_le _⟩ es
    have taken := metered.taken_le
    have total := metered.total_le
    simp only [takenBytes] at taken
    omega

/-! ### A session without limits -/

def unlimited : RelayServiceLimits where
  maxActiveSessions := 1
  maxSessionsPerRequester := 1
  maxBytesPerSession := u64Max
  maxForwardBps := none

/-- The limit at the end of the range of `u64` admits every datagram. -/
theorem allowForward_unlimited {state : SessionForwardingState} (opened : state.closed = false)
    (now bytes : Nat) : state.allowForward refill unlimited now bytes =
      (.ok (), { state with
        totalForwardedBytes := saturatingAdd state.totalForwardedBytes bytes }) := by
  have within : ¬ u64Max < saturatingAdd state.totalForwardedBytes bytes := by
    simp only [saturatingAdd]; omega
  simp [SessionForwardingState.allowForward, opened, unlimited, within]

/-- Both legs are bound and the requester's task waits. -/
structure Flowing (src dest : SocketAddr) (s : LegTasks) : Prop where
  requester : s.pair.bound true = some src
  target : s.pair.bound false = some dest
  waits : s.receiving true = true
  opened : s.pair.forwarding.closed = false

/-- A datagram of the requester that is received and sent. -/
def relayed (src : SocketAddr) (len : Nat) : List LegEvent :=
  [.datagram true src len 0, .sent true true]

theorem Flowing.relayed {src dest : SocketAddr} (h : s.Flowing src dest) (len : Nat) :
    (run (step refill unlimited) s (relayed src len)).Flowing src dest ∧
      (run (step refill unlimited) s (relayed src len)).forwardedBytes = s.forwardedBytes + len := by
  have admits := @allowForward_unlimited refill s.pair.forwarding h.opened 0 len
  have accepted : s.pair.Accepts true src := by simp [PortPair.Accepts, h.requester]
  have received := @PortPair.receive_of_admitted refill unlimited 0 s.pair true src len (by rw [admits])
  rw [if_pos accepted, Bool.not_true, h.target, admits] at received
  have waits := h.waits
  simp only [receiving, Bool.and_eq_true] at waits
  simp only [LegTasks.relayed, run_cons, run_nil, step, h.waits, received]
  refine ⟨⟨rfl, h.target, ?_, h.opened⟩, ?_⟩
  · simpa [receiving, PortPair.legRunning, PortPair.bind] using waits.1
  · simp [forwardedBytes]

theorem Flowing.repeated {src dest : SocketAddr} (h : s.Flowing src dest) (len n : Nat) :
    s.forwardedBytes + n * len ≤
      (run (step refill unlimited) s (List.replicate n (LegTasks.relayed src len)).flatten).forwardedBytes := by
  induction n generalizing s with
  | zero => simp
  | succ n ih =>
    obtain ⟨flowing, bytes⟩ := @Flowing.relayed refill s src dest h len
    have rest := ih flowing
    rw [bytes] at rest
    rw [List.replicate_succ, List.flatten_cons, run_append, Nat.succ_mul]
    omega

def sampleAddr (host : Nat) : SocketAddr := .v4 (.ofOctets 203 0 113 host) 40000

/-- The source of each leg sends one byte, and the target's byte goes out. -/
def bindBoth : List LegEvent :=
  [.datagram true (sampleAddr 1) 1 0, .datagram false (sampleAddr 2) 1 0, .sent false true]

/-- At the end of its range the byte count stops, and the limit `u64::MAX` is exceeded. -/
theorem relayLegs_exceed_max_limit :
    ¬∀ (refill : Nat → Nat → Nat) (limits : RelayServiceLimits) (lease : Lease) (deadline : Nat)
      (es : List LegEvent), limits.maxBytesPerSession ≤ u64Max →
      (run (step refill limits) (spawned lease deadline) es).forwardedBytes ≤
        limits.maxBytesPerSession := by
  intro capped
  have flowing : (run (step (fun _ _ => 0) unlimited) (spawned ⟨"a:1", "a", 120⟩ 0) bindBoth).Flowing
      (sampleAddr 1) (sampleAddr 2) := ⟨by decide, by decide, by decide, by decide⟩
  have exceeds := @Flowing.repeated (fun _ _ => 0) _ _ _ flowing 65535 (2 ^ 48 + 2 ^ 33)
  have within := capped (fun _ _ => 0) unlimited ⟨"a:1", "a", 120⟩ 0
    (bindBoth ++ (List.replicate (2 ^ 48 + 2 ^ 33) (relayed (sampleAddr 1) 65535)).flatten) le_rfl
  rw [run_append] at within
  have total := exceeds.trans within
  simp only [unlimited, u64Max] at total
  omega

/-! ## The accounting -/

/-- The session state changes by a datagram that has a destination alone, and its byte count by one
that goes there. -/
def AccountedFor (refill : Nat → Nat → Nat) (limits : RelayServiceLimits) (s : LegTasks)
    (e : LegEvent) : Prop :=
  (s.step refill limits e).pair.forwarding = s.pair.forwarding ∨
    ∃ requesterLeg src len now, e = .datagram requesterLeg src len now ∧
      s.pair.Addressed requesterLeg src ∧
      ((s.step refill limits e).pair.forwarding.totalForwardedBytes =
          s.pair.forwarding.totalForwardedBytes ∨
        ∃ dest, (s.step refill limits e).sending requesterLeg = some ⟨requesterLeg, src, dest, len⟩)

/-- A received datagram has a destination and fits the byte count, or has none and is inert. -/
def Chargeable (limits : RelayServiceLimits) (s : LegTasks) : LegEvent → Prop
  | .datagram requesterLeg src len now => s.receiving requesterLeg = true →
    (s.pair.Addressed requesterLeg src → limits.maxBytesPerSession < u64Max ∨
      s.pair.forwarding.totalForwardedBytes + len ≤ u64Max) ∧
    (¬ s.pair.Addressed requesterLeg src → s.pair.forwarding.Inert limits now len)
  | _ => True

/-- What a received datagram does to the session state and to what is taken. -/
theorem step_of_chargeable {requesterLeg : Bool} {src : SocketAddr} {len now : Nat} {s' : LegTasks}
    (eq : s.step refill limits (.datagram requesterLeg src len now) = s')
    (waits : s.receiving requesterLeg = true)
    (fits : s.pair.forwarding.totalForwardedBytes ≤ u64Max)
    (charge : s.Chargeable limits (.datagram requesterLeg src len now)) :
    s'.pair.forwarding = s.pair.forwarding ∧ s'.takenBytes = s.takenBytes ∨
      s.pair.Addressed requesterLeg src ∧
        (s'.pair.forwarding.totalForwardedBytes = s.pair.forwarding.totalForwardedBytes ∧
            s'.takenBytes = s.takenBytes ∨
          (∃ dest, s'.sending requesterLeg = some ⟨requesterLeg, src, dest, len⟩) ∧
            s'.pair.forwarding.totalForwardedBytes =
              s.pair.forwarding.totalForwardedBytes + len ∧
            s'.takenBytes = s.takenBytes + len) := by
  obtain ⟨room, inert⟩ := charge waits
  obtain ⟨pair, out, result, which⟩ := @step_datagram refill limits s requesterLeg src len now waits
  obtain rfl := eq.symm.trans result
  have bytes := @takenBytes_datagram s { pair with
    forwarding := (s.pair.forwarding.allowForward refill limits now len).2 } _ out waits
  by_cases addressed : s.pair.Addressed requesterLeg src
  · refine .inr ⟨addressed, ?_⟩
    obtain ⟨accepted, other⟩ := addressed
    obtain ⟨dest, other⟩ := Option.isSome_iff_exists.mp other
    rcases @SessionForwardingState.totalForwardedBytes_allowForward refill limits
      s.pair.forwarding now len with ⟨admitted, within, count⟩ | ⟨⟨e, refused⟩, count⟩
    · obtain ⟨-, -, -, rfl⟩ := which.resolve_left (by simp [admitted, accepted])
      rw [other] at bytes
      have exact' : saturatingAdd s.pair.forwarding.totalForwardedBytes len =
          s.pair.forwarding.totalForwardedBytes + len := by
        have room := room ⟨accepted, by simp [other]⟩
        simp only [saturatingAdd] at within ⊢
        omega
      exact .inr ⟨⟨dest, by simp [other]⟩, count.trans exact', by rw [other]; exact bytes⟩
    · obtain ⟨-, -, rfl⟩ := which.resolve_right (by simp [refused])
      exact .inl ⟨count, bytes⟩
  · have same := (@SessionForwardingState.allowForward_snd_eq_iff refill limits s.pair.forwarding
      now len fits).mpr (inert addressed)
    have unsent : out = none := by
      rcases which with ⟨-, -, rfl⟩ | ⟨-, accepted, -, rfl⟩
      · rfl
      · simpa [PortPair.Addressed, accepted] using addressed
    subst unsent
    exact .inl ⟨same, bytes⟩

/-- The byte count of `u64` stays in its range. -/
theorem fits_step (fits : s.pair.forwarding.totalForwardedBytes ≤ u64Max) (e : LegEvent) :
    (s.step refill limits e).pair.forwarding.totalForwardedBytes ≤ u64Max := by
  cases e with
  | datagram requesterLeg src len now =>
    by_cases waits : s.receiving requesterLeg = true
    · obtain ⟨pair, out, eq, -⟩ := @step_datagram refill limits s requesterLeg src len now waits
      rw [eq]
      rcases @SessionForwardingState.totalForwardedBytes_allowForward refill limits
        s.pair.forwarding now len with ⟨-, -, count⟩ | ⟨-, count⟩
      · exact count.trans_le (Nat.min_le_right _ _)
      · exact count.trans_le fits
    · simpa [LegTasks.step, waits] using fits
  | sent requesterLeg ok => exact fits
  | ended requesterLeg =>
    simp only [LegTasks.step]
    split_ifs
    · exact fits
    · rwa [PortPair.forwarding_endLeg]

theorem accountedFor_of_chargeable {e : LegEvent}
    (fits : s.pair.forwarding.totalForwardedBytes ≤ u64Max) (charge : s.Chargeable limits e) :
    s.AccountedFor refill limits e := by
  cases e with
  | datagram requesterLeg src len now =>
    by_cases waits : s.receiving requesterLeg = true
    · rcases step_of_chargeable rfl waits fits charge with ⟨same, -⟩ | ⟨addressed, budget⟩
      · exact .inl same
      · exact .inr ⟨_, _, _, _, rfl, addressed, budget.imp And.left And.left⟩
    · exact .inl (by simp [step, waits])
  | sent requesterLeg ok => exact .inl rfl
  | ended requesterLeg =>
    refine .inl ?_
    simp only [step]
    split_ifs <;> simp

/-- The byte count is what is taken. -/
def Balanced (s : LegTasks) : Prop :=
  s.pair.forwarding.totalForwardedBytes = s.takenBytes ∧
    s.pair.forwarding.totalForwardedBytes ≤ u64Max

theorem Balanced.step {e : LegEvent} (h : s.Balanced) (charge : s.Chargeable limits e)
    (succeeds : ∀ leg, e ≠ .sent leg false) : (s.step refill limits e).Balanced := by
  refine ⟨?_, fits_step h.2 e⟩
  cases e with
  | datagram requesterLeg src len now =>
    by_cases waits : s.receiving requesterLeg = true
    · have same := h.1
      rcases step_of_chargeable rfl waits h.2 charge with ⟨kept, taken⟩ | ⟨-, kept | sent⟩
      · rw [kept, taken, same]
      · rw [kept.1, kept.2, same]
      · rw [sent.2.1, sent.2.2, same]
    · simpa [LegTasks.step, waits] using h.1
  | sent requesterLeg ok =>
    have taken := @takenBytes_sent refill limits s requesterLeg ok
    obtain rfl : ok = true := by
      cases ok
      · exact absurd rfl (succeeds requesterLeg)
      · rfl
    exact h.1.trans taken.symm
  | ended requesterLeg =>
    simp only [LegTasks.step]
    split_ifs
    · exact h.1
    · rw [PortPair.forwarding_endLeg]; exact h.1

/-- Along every run of chargeable datagrams the session state changes by datagrams that have a
destination alone, and without send errors the byte count is what is sent and being sent. -/
theorem forwarding_accounted_along (refill : Nat → Nat → Nat) (limits : RelayServiceLimits)
    (lease : Lease) (deadline : Nat) (es : List LegEvent)
    (charge : Along (step refill limits) (Chargeable limits) (spawned lease deadline) es) :
    Along (step refill limits) (AccountedFor refill limits) (spawned lease deadline) es ∧
      ((∀ leg, .sent leg false ∉ es) →
        (run (step refill limits) (spawned lease deadline) es).pair.forwarding.totalForwardedBytes =
          (run (step refill limits) (spawned lease deadline) es).forwardedBytes +
            (run (step refill limits) (spawned lease deadline) es).sendingBytes) := by
  constructor
  · exact @Along.strengthen _ _ _
      (fun s : LegTasks => s.pair.forwarding.totalForwardedBytes ≤ u64Max) _ _
      (fun _ e fits _ => fits_step fits e) (fun _ _ fits => accountedFor_of_chargeable fits) _ es
      (Nat.zero_le _) charge
  · intro succeeds
    have sent : Along (step refill limits) (fun _ e => ∀ leg, e ≠ .sent leg false)
        (spawned lease deadline) es := Along.of_forall fun e mem _ leg eq => succeeds leg (eq ▸ mem)
    have balanced := @invariant _ _ (step refill limits) Balanced _
      (fun _ _ h guard => Balanced.step h guard.1 guard.2) _ es ⟨rfl, Nat.zero_le _⟩
      (charge.and sent)
    exact balanced.1

/-! ### One spoofed datagram -/

def sampleLimits : RelayServiceLimits where
  maxActiveSessions := 1
  maxSessionsPerRequester := 1
  maxBytesPerSession := 1000
  maxForwardBps := none

/-- An empty datagram binds the requester's leg, and the first one of the target goes there. -/
def emptyBinding : List LegEvent :=
  [.datagram true (sampleAddr 1) 0 1, .datagram false (sampleAddr 2) 9 2, .sent false true]

theorem forwarding_accounted_along_of_empty_binding :
    Along (step (fun _ _ => 0) sampleLimits) (AccountedFor (fun _ _ => 0) sampleLimits)
        (spawned ⟨"a:1", "a", 120⟩ 0) emptyBinding ∧
      ((∀ leg, .sent leg false ∉ emptyBinding) →
        (run (step (fun _ _ => 0) sampleLimits) (spawned ⟨"a:1", "a", 120⟩ 0)
            emptyBinding).pair.forwarding.totalForwardedBytes =
          (run (step (fun _ _ => 0) sampleLimits) (spawned ⟨"a:1", "a", 120⟩ 0)
              emptyBinding).forwardedBytes +
            (run (step (fun _ _ => 0) sampleLimits) (spawned ⟨"a:1", "a", 120⟩ 0)
              emptyBinding).sendingBytes) :=
  forwarding_accounted_along (fun _ _ => 0) sampleLimits ⟨"a:1", "a", 120⟩ 0 emptyBinding
    ⟨fun _ => ⟨fun addressed => absurd addressed (by decide), fun _ => .inr ⟨by decide, rfl⟩⟩,
      fun _ => ⟨fun _ => .inl (by decide), fun other => absurd (by decide) other⟩, trivial, trivial⟩

/-- A datagram of a third address closes the session, though it is never forwarded. -/
theorem forwarding_unaccounted_of_spoofed :
    ¬∀ (refill : Nat → Nat → Nat) (limits : RelayServiceLimits) (lease : Lease) (deadline : Nat)
      (es : List LegEvent),
      Along (step refill limits) (AccountedFor refill limits) (spawned lease deadline) es := by
  intro accounted
  obtain ⟨-, -, -, spoofed, -⟩ := accounted (fun _ _ => 0) sampleLimits ⟨"a:1", "a", 120⟩ 0
    (bindBoth ++ [.datagram true (sampleAddr 3) 1001 5])
  rcases spoofed with same | ⟨requesterLeg, src, len, now, same, addressed, -⟩
  · exact absurd same (by decide)
  · obtain ⟨rfl, rfl, rfl, rfl⟩ := LegEvent.datagram.inj same
    exact absurd addressed (by decide)

end LegTasks
end NostrVpn.Relay
