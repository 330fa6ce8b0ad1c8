import NostrVpn.RingScan
import Mathlib.Data.List.Find
import NostrVpn.Rust.Net
import NostrVpn.Transition

/-!
# The relay port allocator

`nostr-vpn-relay/src/bin/nvpn_udp_relay/port_allocator.rs`: the search for two free ports, from a cursor
around the configured range. What the operating system answers to a bind is a function of the sockets that
the allocator holds and of the port; the held sockets are passed along.
-/
namespace NostrVpn.Relay

open Rust Rust.Net RingScan Transition

structure RelayPortRange where
  start : UInt16
  stop : UInt16
  deriving DecidableEq, Repr

namespace RelayPortRange

def new (start stop : UInt16) : Except String RelayPortRange :=
  if start = 0 ∨ stop = 0 then .error "relay port range cannot include port 0"
  else if stop < start then
    .error ("invalid relay port range " ++ fmtNat start.toNat ++ "-" ++ fmtNat stop.toNat ++ ": end must be >= start")
  else .ok ⟨start, stop⟩

def len (range : RelayPortRange) : Nat := (range.stop - range.start).toNat + 1

def contains (range : RelayPortRange) (port : UInt16) : Bool := range.start ≤ port && port ≤ range.stop

def nextAfter (range : RelayPortRange) (port : UInt16) : UInt16 :=
  if range.stop ≤ port then range.start else port + 1

end RelayPortRange

structure RelayPortAllocator where
  range : RelayPortRange
  nextPort : UInt16
  deriving DecidableEq, Repr

inductive BindOutcome where
  | bound | addrInUse
  | failed
  deriving DecidableEq, Repr

/-- The sockets are given by their ports. -/
structure RelayLegPair where
  requesterPort : UInt16
  targetPort : UInt16
  requesterIngressEndpoint : String
  targetIngressEndpoint : String
  deriving DecidableEq, Repr

def parseAdvertiseIp (value : String) : Except String IpAddr :=
  match IpAddr.parse value with
  | some ip => .ok ip
  | none => .error ("invalid advertise host '" ++ value ++ "', expected an IP address")

namespace RelayPortAllocator

def new (range : RelayPortRange) : RelayPortAllocator := ⟨range, range.start⟩

section Search
variable (bind : List UInt16 → UInt16 → BindOutcome) (bindIp : IpAddr)

/-- One turn of the inner loop. `break` ends it without a socket. -/
def tryTarget (firstPort : UInt16) (held : List UInt16) (secondPort : UInt16) :
    Option (Option (Option (Except String UInt16)) × List UInt16) :=
  if secondPort = firstPort then some (some none, held)
  else match bind held secondPort with
    | .bound => some (some (some (.ok secondPort)), secondPort :: held)
    | .addrInUse => some (none, held)
    | .failed => some (some (some (.error ("failed to bind target relay leg on " ++
        (SocketAddr.new bindIp secondPort).fmt))), held)

/-- One turn of the outer loop: the ports of a pair or an error end it. The requester socket is dropped when
no second port is found. -/
def tryRequester (range : RelayPortRange) (fuel : Nat) (held : List UInt16) (firstPort : UInt16) :
    Option (Option (Except String (UInt16 × UInt16)) × List UInt16) :=
  match bind held firstPort with
  | .addrInUse => some (none, held)
  | .failed => some (some (.error ("failed to bind requester relay leg on " ++
      (SocketAddr.new bindIp firstPort).fmt)), held)
  | .bound =>
    let secondStart := range.nextAfter firstPort
    match scan range.nextAfter secondStart (tryTarget bind bindIp firstPort) fuel false (firstPort :: held)
      secondStart with
    | none => none
    | some (some (some (.ok secondPort)), held) => some (some (.ok (firstPort, secondPort)), held)
    | some (some (some (.error error)), held) => some (some (.error error), held.erase firstPort)
    | some (some none, held) | some (none, held) => some (none, held.erase firstPort)

/-- The result with the sockets that are still bound and the allocator after the call; `none` when the fuel of
the two loops does not suffice. -/
def bindPair (fuel : Nat) (self : RelayPortAllocator) (advertiseHost : String) :
    Option (Except String RelayLegPair × List UInt16 × RelayPortAllocator) :=
  match parseAdvertiseIp advertiseHost with
  | .error error => some (.error error, [], self)
  | .ok advertiseIp =>
    match scan self.range.nextAfter self.nextPort (tryRequester bind bindIp self.range fuel) fuel false []
      self.nextPort with
    | none => none
    | some (some (.ok (firstPort, secondPort)), held) =>
      some (.ok ⟨firstPort, secondPort, (SocketAddr.new advertiseIp firstPort).fmt,
        (SocketAddr.new advertiseIp secondPort).fmt⟩, held,
        { self with nextPort := self.range.nextAfter secondPort })
    | some (some (.error error), held) => some (.error error, held, self)
    | some (none, held) => some (.error ("no free relay port pair available in configured range " ++
        fmtNat self.range.start.toNat ++ "-" ++ fmtNat self.range.stop.toNat), held, self)

end Search
end RelayPortAllocator

/-- A bind fails on a busy port and on one that the allocator holds. -/
def bindFree (busy : UInt16 → Bool) (held : List UInt16) (port : UInt16) : BindOutcome :=
  if busy port || held.contains port then .addrInUse else .bound

/-! ## The ring of ports -/

namespace RelayPortRange
variable {range : RelayPortRange} {port : UInt16}

/-- What `new` accepts. -/
def Accepted (range : RelayPortRange) : Prop := 0 < range.start.toNat ∧ range.start.toNat ≤ range.stop.toNat

theorem accepted_of_new {start stop : UInt16} (made : new start stop = .ok range) : range.Accepted := by
  unfold new at made
  split_ifs at made with zero order
  obtain rfl := Except.ok.inj made
  have positive : 0 < start.toNat := Nat.pos_of_ne_zero fun eq =>
    zero (Or.inl (UInt16.toNat_inj.mp (eq.trans UInt16.toNat_zero.symm)))
  exact ⟨positive, UInt16.le_iff_toNat_le.mp (UInt16.not_lt.mp order)⟩

theorem len_eq (accepted : range.Accepted) : range.len = range.stop.toNat - range.start.toNat + 1 := by
  rw [len, UInt16.toNat_sub_of_le _ _ (UInt16.le_iff_toNat_le.mpr accepted.2)]

theorem contains_iff : range.contains port ↔ range.start.toNat ≤ port.toNat ∧ port.toNat ≤ range.stop.toNat := by
  simp [contains, UInt16.le_iff_toNat_le]

/-- The successor of a port, computed without overflow. -/
theorem toNat_nextAfter (inside : range.contains port) : (range.nextAfter port).toNat =
    if range.stop.toNat ≤ port.toNat then range.start.toNat else port.toNat + 1 := by
  obtain ⟨-, upper⟩ := contains_iff.mp inside
  have bound := range.stop.toNat_lt
  unfold nextAfter
  simp only [UInt16.le_iff_toNat_le]
  split_ifs with last
  · rfl
  · rw [UInt16.toNat_add, UInt16.toNat_one, Nat.mod_eq_of_lt (by omega)]

theorem contains_nextAfter (accepted : range.Accepted) (inside : range.contains port) :
    range.contains (range.nextAfter port) := by
  have next := toNat_nextAfter inside
  obtain ⟨lower, upper⟩ := contains_iff.mp inside
  obtain ⟨-, order⟩ := accepted
  rw [contains_iff, next]
  split_ifs <;> omega

/-- The port `k` positions further, for `k` up to the length of the range. -/
theorem iterate_nextAfter (accepted : range.Accepted) (inside : range.contains port) {k : Nat}
    (short : k ≤ range.len) : range.contains (range.nextAfter^[k] port) ∧ (range.nextAfter^[k] port).toNat =
      if port.toNat + k ≤ range.stop.toNat then port.toNat + k else port.toNat + k - range.len := by
  have length := len_eq accepted
  have order := accepted.2
  obtain ⟨lower, upper⟩ := contains_iff.mp inside
  induction k with
  | zero => exact ⟨inside, by simp [upper]⟩
  | succ k ih =>
    obtain ⟨there, position⟩ := ih (by omega)
    rw [Function.iterate_succ_apply']
    refine ⟨contains_nextAfter accepted there, ?_⟩
    rw [toNat_nextAfter there, position]
    split_ifs <;> omega

theorem isRing (accepted : range.Accepted) (inside : range.contains port) :
    IsRing range.nextAfter port range.len := by
  have length := len_eq accepted
  obtain ⟨lower, upper⟩ := contains_iff.mp inside
  refine ⟨by omega, ?_, fun k some' short same => ?_⟩
  · have position := (iterate_nextAfter accepted inside le_rfl).2
    rw [if_neg (by omega)] at position
    exact UInt16.toNat_inj.mp (by omega)
  · have position := (iterate_nextAfter accepted inside short.le).2
    rw [same] at position
    split_ifs at position <;> omega

/-- The ports of the range from one of them on. -/
def ports (range : RelayPortRange) (port : UInt16) : List UInt16 := List.iterate range.nextAfter port range.len

theorem mem_ports (accepted : range.Accepted) (inside : range.contains port) {other : UInt16} :
    other ∈ range.ports port ↔ range.contains other := by
  have length := len_eq accepted
  have order := accepted.2
  obtain ⟨lower, upper⟩ := contains_iff.mp inside
  rw [ports, List.mem_iterate]
  constructor
  · rintro ⟨k, short, rfl⟩
    exact (iterate_nextAfter accepted inside short.le).1
  · intro there
    obtain ⟨lower', upper'⟩ := contains_iff.mp there
    have position (k : Nat) (short : k < range.len) := (iterate_nextAfter accepted inside short.le).2
    rcases Nat.le_total port.toNat other.toNat with ahead | behind
    · refine ⟨other.toNat - port.toNat, by omega, UInt16.toNat_inj.mp ?_⟩
      rw [position _ (by omega)]
      split_ifs <;> omega
    · by_cases same : other = port
      · exact ⟨0, by omega, by simp [same]⟩
      · have apart : other.toNat ≠ port.toNat := fun eq => same (UInt16.toNat_inj.mp eq)
        refine ⟨other.toNat + range.len - port.toNat, by omega, UInt16.toNat_inj.mp ?_⟩
        rw [position _ (by omega)]
        split_ifs <;> omega

/-- The other ports of the range, in the order in which they are tried after this one. -/
def others (range : RelayPortRange) (port : UInt16) : List UInt16 :=
  List.iterate range.nextAfter (range.nextAfter port) (range.len - 1)

/-- Another port of the range is free. -/
def hasPartner (range : RelayPortRange) (busy : UInt16 → Bool) (port : UInt16) : Bool :=
  (range.others port).any fun other => !busy other

theorem mem_others (accepted : range.Accepted) (inside : range.contains port) {other : UInt16} :
    other ∈ range.others port ↔ range.contains other ∧ other ≠ port := by
  have ring := isRing accepted inside
  have all := @mem_ports range _ accepted (contains_nextAfter accepted inside) other
  rw [ports, ring.iterate_next, List.mem_append, List.mem_singleton] at all
  constructor
  · intro mem
    refine ⟨all.mp (Or.inl mem), ?_⟩
    rintro rfl
    exact ring.first_notMem mem
  · rintro ⟨there, apart⟩
    exact (all.mpr there).resolve_right apart

end RelayPortRange

/-! ## One call -/

namespace RelayPortAllocator
variable {self : RelayPortAllocator} {range : RelayPortRange} {busy : UInt16 → Bool} {bindIp : IpAddr} {fuel : Nat}

theorem tryTarget_scan (accepted : range.Accepted) {firstPort : UInt16} (inside : range.contains firstPort)
    (enough : range.len < fuel) :
    scan range.nextAfter (range.nextAfter firstPort) (tryTarget (bindFree busy) bindIp firstPort) fuel false
        [firstPort] (range.nextAfter firstPort) =
      match (range.others firstPort).find? fun port => !busy port with
      | none => some (some none, [firstPort])
      | some port => some (some (some (.ok port)), [port, firstPort]) := by
  have next := RelayPortRange.contains_nextAfter accepted inside
  have tries (port : UInt16) : tryTarget (bindFree busy) bindIp firstPort [firstPort] port =
      if port = firstPort then some (some none, [firstPort])
      else if busy port then some (none, [firstPort])
      else some (some (some (.ok port)), [port, firstPort]) := by
    unfold tryTarget bindFree
    split_ifs with same taken <;> simp_all
  rw [scan_eq (RelayPortRange.isRing accepted next) enough]
  rw [@scanList_eq _ _ _ _ _ fun port => port == firstPort || !busy port]
  · -- the first port itself is the last one that is tried
    have ring := RelayPortRange.isRing accepted inside
    have same : (range.others firstPort).find? (fun port => port == firstPort || !busy port) =
        (range.others firstPort).find? fun port => !busy port := by
      refine List.find?_congr fun port mem => ?_
      have apart : port ≠ firstPort := ((RelayPortRange.mem_others accepted inside).mp mem).2
      simp [apart]
    rw [ring.iterate_next, List.find?_append, ← RelayPortRange.others, same]
    cases found : (range.others firstPort).find? fun port => !busy port with
    | none => simp [tries]
    | some port =>
      have mem := List.mem_of_find?_eq_some found
      have free : busy port = false := by simpa using List.find?_some found
      have apart : port ≠ firstPort := ((RelayPortRange.mem_others accepted inside).mp mem).2
      simp [tries, free, apart]
  · intro port _ goes
    obtain ⟨other, taken⟩ : port ≠ firstPort ∧ busy port = true := by simpa using goes
    rw [tries, if_neg other, if_pos taken]
  · intro port _ halts
    rw [tries]
    split_ifs with same taken
    · exact ⟨_, _, rfl⟩
    · simp [same, taken] at halts
    · exact ⟨_, _, rfl⟩

/-- The turn of the outer loop at a free port. -/
theorem tryRequester_eq (accepted : range.Accepted) {firstPort : UInt16} (inside : range.contains firstPort)
    (enough : range.len < fuel) : tryRequester (bindFree busy) bindIp range fuel [] firstPort =
      if busy firstPort then some (none, [])
      else match (range.others firstPort).find? fun port => !busy port with
        | none => some (none, [])
        | some secondPort => some (some (.ok (firstPort, secondPort)), [secondPort, firstPort]) := by
  unfold tryRequester
  split_ifs with taken
  · simp [bindFree, taken]
  · have bound : bindFree busy [] firstPort = .bound := by simp [bindFree, taken]
    simp only [bound, tryTarget_scan accepted inside enough]
    cases (range.others firstPort).find? fun port => !busy port with
    | none => simp
    | some secondPort => rfl

/-- The outer loop stops at the first free port that has a partner. -/
theorem tryRequester_scan (accepted : range.Accepted) {port : UInt16} (inside : range.contains port)
    (enough : range.len < fuel) :
    scan range.nextAfter port (tryRequester (bindFree busy) bindIp range fuel) fuel false [] port =
      match (range.ports port).find? fun firstPort => !busy firstPort && range.hasPartner busy firstPort with
      | none => some (none, [])
      | some firstPort => tryRequester (bindFree busy) bindIp range fuel [] firstPort := by
  rw [scan_eq (RelayPortRange.isRing accepted inside) enough, ← RelayPortRange.ports]
  rw [@scanList_eq _ _ _ _ _ fun firstPort => !busy firstPort && range.hasPartner busy firstPort]
  · cases (range.ports port).find? fun firstPort => !busy firstPort && range.hasPartner busy firstPort <;> rfl
  · intro firstPort mem goes
    rw [tryRequester_eq accepted ((RelayPortRange.mem_ports accepted inside).mp mem) enough]
    split_ifs with taken
    · rfl
    · have alone : (range.others firstPort).find? (fun port => !busy port) = none := by
        simpa [taken, RelayPortRange.hasPartner] using goes
      rw [alone]
  · intro firstPort mem halts
    rw [tryRequester_eq accepted ((RelayPortRange.mem_ports accepted inside).mp mem) enough]
    obtain ⟨free, partner⟩ := Bool.and_eq_true_iff.mp halts
    rw [if_neg (by simpa using free)]
    cases next : (range.others firstPort).find? fun port => !busy port with
    | none =>
      obtain ⟨other, mem, open'⟩ := List.any_eq_true.mp partner
      exact absurd open' (List.find?_eq_none.mp next other mem)
    | some secondPort => exact ⟨_, _, rfl⟩

/-- What a call does when its host is an address and ports are free or busy. -/
theorem bindPair_eq (accepted : self.range.Accepted) (inside : self.range.contains self.nextPort)
    (enough : self.range.len < fuel) {advertiseHost : String} {ip : IpAddr}
    (valid : parseAdvertiseIp advertiseHost = .ok ip) :
    (∃ firstPort secondPort, self.range.contains firstPort ∧ self.range.contains secondPort ∧
      secondPort ≠ firstPort ∧ busy firstPort = false ∧ busy secondPort = false ∧
      bindPair (bindFree busy) bindIp fuel self advertiseHost =
        some (.ok ⟨firstPort, secondPort, (SocketAddr.new ip firstPort).fmt, (SocketAddr.new ip secondPort).fmt⟩,
          [secondPort, firstPort], { self with nextPort := self.range.nextAfter secondPort })) ∨
    (∀ firstPort secondPort, self.range.contains firstPort → self.range.contains secondPort →
      secondPort ≠ firstPort → busy firstPort = false → busy secondPort = true) ∧
      bindPair (bindFree busy) bindIp fuel self advertiseHost =
        some (.error ("no free relay port pair available in configured range " ++
          fmtNat self.range.start.toNat ++ "-" ++ fmtNat self.range.stop.toNat), [], self) := by
  unfold bindPair
  simp only [valid, tryRequester_scan accepted inside enough]
  cases found : (self.range.ports self.nextPort).find? fun firstPort =>
      !busy firstPort && self.range.hasPartner busy firstPort with
  | none =>
    refine Or.inr ⟨fun firstPort secondPort first second apart free => ?_, rfl⟩
    have alone := List.find?_eq_none.mp found firstPort ((RelayPortRange.mem_ports accepted inside).mpr first)
    by_contra open'
    refine alone ?_
    simp only [free, Bool.not_false, Bool.true_and, RelayPortRange.hasPartner, List.any_eq_true]
    exact ⟨secondPort, (RelayPortRange.mem_others accepted first).mpr ⟨second, apart⟩, by simpa using open'⟩
  | some firstPort =>
    have first := (RelayPortRange.mem_ports accepted inside).mp (List.mem_of_find?_eq_some found)
    have stops : (!busy firstPort && self.range.hasPartner busy firstPort) = true := by
      simpa using List.find?_some found
    obtain ⟨free, partner⟩ := Bool.and_eq_true_iff.mp stops
    have free : busy firstPort = false := by simpa using free
    cases next : (self.range.others firstPort).find? fun port => !busy port with
    | none =>
      obtain ⟨other, mem, open'⟩ := List.any_eq_true.mp partner
      exact absurd open' (List.find?_eq_none.mp next other mem)
    | some secondPort =>
      obtain ⟨second, apart⟩ := (RelayPortRange.mem_others accepted first).mp (List.mem_of_find?_eq_some next)
      have open' : busy secondPort = false := by simpa using List.find?_some next
      refine Or.inl ⟨firstPort, secondPort, first, second, apart, free, open', ?_⟩
      simp only [tryRequester_eq accepted first enough, free, next, Bool.false_eq_true, if_false]

end RelayPortAllocator

/-! ## Sequences of calls -/

/-- A call, with the ports that are busy while it runs. -/
structure PortCall where
  bindIp : IpAddr
  advertiseHost : String
  busy : UInt16 → Bool

namespace RelayPortAllocator

def callResult (fuel : Nat) (self : RelayPortAllocator) (call : PortCall) :
    Option (Except String RelayLegPair × List UInt16 × RelayPortAllocator) :=
  bindPair (bindFree call.busy) call.bindIp fuel self call.advertiseHost

/-- A call that does not return leaves nothing to go on with. -/
def step (fuel : Nat) (self : RelayPortAllocator) (call : PortCall) : RelayPortAllocator :=
  match self.callResult fuel call with
  | some (_, _, after) => after
  | none => self

/-- The range has two free ports. -/
def TwoFree (range : RelayPortRange) (busy : UInt16 → Bool) : Prop :=
  ∃ p q, range.contains p ∧ range.contains q ∧ p ≠ q ∧ busy p = false ∧ busy q = false

/-- The sockets of two free ports of the range, advertised at the host. -/
structure FreePair (range : RelayPortRange) (busy : UInt16 → Bool) (ip : IpAddr) (pair : RelayLegPair) : Prop where
  distinct : pair.requesterPort ≠ pair.targetPort
  inside : range.contains pair.requesterPort ∧ range.contains pair.targetPort
  free : busy pair.requesterPort = false ∧ busy pair.targetPort = false
  advertised : pair.requesterIngressEndpoint = (SocketAddr.new ip pair.requesterPort).fmt ∧
    pair.targetIngressEndpoint = (SocketAddr.new ip pair.targetPort).fmt

/-- The call returns two free ports of the range when there are two, and else an error with nothing bound. -/
def Allocates (fuel : Nat) (self : RelayPortAllocator) (call : PortCall) : Prop :=
  ∀ ip, parseAdvertiseIp call.advertiseHost = .ok ip → ∃ result held after,
    self.callResult fuel call = some (result, held, after) ∧
    (TwoFree self.range call.busy → ∃ pair, result = .ok pair ∧ FreePair self.range call.busy ip pair ∧
      held = [pair.targetPort, pair.requesterPort]) ∧
    (¬ TwoFree self.range call.busy → (∃ error, result = .error error) ∧ held = [])

/-- The range was accepted and the cursor is in it. -/
structure CursorInside (allocator : RelayPortAllocator) : Prop where
  accepted : allocator.range.Accepted
  inside : allocator.range.contains allocator.nextPort

variable {self : RelayPortAllocator} {fuel : Nat} {call : PortCall}

theorem CursorInside.allocates (cursor : self.CursorInside) (enough : self.range.len < fuel) :
    self.Allocates fuel call := by
  intro ip valid
  rcases bindPair_eq cursor.accepted cursor.inside enough valid with
    ⟨firstPort, secondPort, first, second, apart, free, open', eq⟩ | ⟨none', eq⟩
  · refine ⟨_, _, _, eq, fun _ => ⟨_, rfl, ⟨apart.symm, ⟨first, second⟩, ⟨free, open'⟩, rfl, rfl⟩, rfl⟩, ?_⟩
    exact fun never => absurd ⟨firstPort, secondPort, first, second, apart.symm, free, open'⟩ never
  · refine ⟨_, _, _, eq, ?_, fun _ => ⟨⟨_, rfl⟩, rfl⟩⟩
    rintro ⟨p, q, first, second, apart, free, open'⟩
    exact absurd (none' p q first second apart.symm free) (by simp [open'])

theorem CursorInside.step (cursor : self.CursorInside) (enough : self.range.len < fuel) (call : PortCall) :
    (self.step fuel call).CursorInside ∧ (self.step fuel call).range = self.range := by
  unfold RelayPortAllocator.step callResult
  cases valid : parseAdvertiseIp call.advertiseHost with
  | error error => simpa [bindPair, valid] using cursor
  | ok ip =>
    rcases bindPair_eq cursor.accepted cursor.inside enough valid with
      ⟨firstPort, secondPort, first, second, apart, free, open', eq⟩ | ⟨none', eq⟩
    · rw [eq]
      exact ⟨⟨cursor.accepted, RelayPortRange.contains_nextAfter cursor.accepted second⟩, rfl⟩
    · rw [eq]
      exact ⟨cursor, rfl⟩

/-- With fuel for one round of the range, every call of every sequence returns and allocates, and the cursor
never leaves the range. -/
theorem relay_ports_are_allocated {start stop : UInt16} {range : RelayPortRange}
    (accepted : RelayPortRange.new start stop = .ok range) {fuel : Nat} (enough : range.len < fuel)
    (calls : List PortCall) : Along (step fuel) (Allocates fuel) (new range) calls ∧
      (run (step fuel) (new range) calls).range = range ∧
      range.contains (run (step fuel) (new range) calls).nextPort := by
  have accepted := RelayPortRange.accepted_of_new accepted
  have init : (new range).CursorInside ∧ (new range).range = range :=
    ⟨⟨accepted, RelayPortRange.contains_iff.mpr ⟨le_rfl, accepted.2⟩⟩, rfl⟩
  have keep (self : RelayPortAllocator) (call : PortCall) (inv : self.CursorInside ∧ self.range = range) :
      (self.step fuel call).CursorInside ∧ (self.step fuel call).range = range := by
    obtain ⟨cursor, same⟩ := inv
    obtain ⟨cursor', same'⟩ := cursor.step (same ▸ enough) call
    exact ⟨cursor', same'.trans same⟩
  refine ⟨?_, ?_⟩
  · refine Along.strengthen (fun self call inv _ => keep self call inv) (fun self call inv _ => ?_) init
      (Along.of_forall fun _ _ _ => trivial)
    exact inv.1.allocates (inv.2 ▸ enough)
  · obtain ⟨cursor, same⟩ := run_invariant keep init calls
    have inside := cursor.inside
    rw [same] at inside
    exact ⟨same, inside⟩

/-- Two ports, of which one is busy first. -/
theorem relay_ports_are_allocated_pair :
    let range : RelayPortRange := ⟨40000, 40001⟩
    let calls := [⟨.v4 ⟨0⟩, "203.0.113.9", fun port => port == 40000⟩, ⟨.v4 ⟨0⟩, "203.0.113.9", fun _ => false⟩]
    Along (step 3) (Allocates 3) (new range) calls ∧ (run (step 3) (new range) calls).range = range ∧
      range.contains (run (step 3) (new range) calls).nextPort :=
  relay_ports_are_allocated (show RelayPortRange.new 40000 40001 = .ok _ from rfl) (by decide) _

end RelayPortAllocator
end NostrVpn.Relay
