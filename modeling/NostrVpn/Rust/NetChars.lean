import NostrVpn.Rust.Prefix

/-!
# The characters of an address text

A text that parses as an address, a socket address or a prefix holds no other characters than
hexadecimal digits and the punctuation of addresses. So it is safe inside a larger text whose
separators are none of these.
-/
namespace Rust.Net

def isAddressChar (c : Char) : Bool :=
  (toDigit 16 c).isSome || c == '.' || c == ':' || c == '[' || c == ']' || c == '%'

/-- What stands before the rest is made of address characters. -/
def Consumed (s rest : List Char) : Prop :=
  ∃ used, s = used ++ rest ∧ ∀ c ∈ used, isAddressChar c

theorem Consumed.refl (s : List Char) : Consumed s s := ⟨[], rfl, by simp⟩

theorem Consumed.trans {s mid rest : List Char} (h : Consumed s mid) (h' : Consumed mid rest) :
    Consumed s rest := by
  obtain ⟨used, rfl, chars⟩ := h
  obtain ⟨used', rfl, chars'⟩ := h'
  refine ⟨used ++ used', by simp, ?_⟩
  intro c mem
  exact (List.mem_append.mp mem).elim (chars c) (chars' c)

/-- The parser only consumes address characters. -/
def ConsumesAddress {α : Type} (p : Parser α) : Prop :=
  ∀ s a rest, p s = some (a, rest) → Consumed s rest

theorem consumed_of_readChar {c : Char} {s rest : List Char} (address : isAddressChar c)
    (h : readChar c s = some rest) : Consumed s rest := by
  cases s with
  | nil => cases h
  | cons d s =>
    simp only [readChar] at h
    split_ifs at h with eq
    obtain rfl := Option.some.inj h
    exact ⟨[d], rfl, by simpa [eq] using address⟩

theorem isAddressChar_of_digit {radix : Nat} (hr : radix ≤ 16) {c : Char}
    (h : (toDigit radix c).isSome) : isAddressChar c := by
  have hex : (toDigit 16 c).isSome := by
    simp only [toDigit] at h ⊢
    split_ifs at h ⊢ <;> simp_all <;> omega
  simp [isAddressChar, hex]

theorem consumes_readNumber {radix : Nat} (hr : radix ≤ 16) (maxDigits : Option Nat)
    (allowZeroPrefix : Bool) (max : Nat) :
    ConsumesAddress (readNumber radix maxDigits allowZeroPrefix max) := by
  intro s a rest h
  simp only [readNumber] at h
  split_ifs at h
  split at h
  · split_ifs at h
    obtain ⟨rfl, rfl⟩ := Prod.mk.inj (Option.some.inj h)
    refine ⟨s.takeWhile fun c => (toDigit radix c).isSome, ?_, ?_⟩
    · have prefixed := List.takeWhile_prefix (l := s) fun c => (toDigit radix c).isSome
      exact (List.prefix_iff_eq_append.mp prefixed).symm
    · intro c mem
      have digit := (List.all_takeWhile (l := s) (p := fun c => (toDigit radix c).isSome))
      exact isAddressChar_of_digit hr (List.all_eq_true.mp digit c mem)
  · cases h

theorem consumes_readSeparator {α : Type} {inner : Parser α} (h : ConsumesAddress inner)
    {sep : Char} (address : isAddressChar sep) (first : Bool) :
    ConsumesAddress (readSeparator sep first inner) := by
  intro s a rest read
  cases first with
  | true => exact h s a rest read
  | false =>
    obtain ⟨mid, sepRead, innerRead⟩ := Option.bind_eq_some_iff.mp read
    exact (consumed_of_readChar address sepRead).trans (h mid a rest innerRead)

theorem consumes_readIpv4 : ConsumesAddress readIpv4 := by
  intro s ip rest h
  have digits : ConsumesAddress readOctet := consumes_readNumber (by omega) _ _ _
  have octet (first : Bool) : ConsumesAddress (readSeparator '.' first readOctet) :=
    consumes_readSeparator digits (by decide) first
  unfold readIpv4 at h
  simp only [Option.bind_eq_bind, Option.bind_eq_some_iff, Prod.exists] at h
  obtain ⟨a, s₁, ha, b, s₂, hb, c, s₃, hc, d, s₄, hd, last⟩ := h
  obtain ⟨-, rfl⟩ := Prod.mk.inj (Option.some.inj last)
  exact (((octet _ _ _ _ ha).trans (octet _ _ _ _ hb)).trans (octet _ _ _ _ hc)).trans
    (octet _ _ _ _ hd)

theorem consumed_readGroups (first : Bool) (limit : Nat) (s : List Char) :
    Consumed s (readGroups first limit s).2.2 := by
  induction limit generalizing first s with
  | zero => exact Consumed.refl s
  | succ limit ih =>
    have digits : ConsumesAddress (readNumber 16 (some 4) true 0xffff) :=
      consumes_readNumber (by omega) _ _ _
    have embedded : ConsumesAddress (readSeparator ':' first readIpv4) :=
      consumes_readSeparator consumes_readIpv4 (by decide) first
    have group : ConsumesAddress (readSeparator ':' first (readNumber 16 (some 4) true 0xffff)) :=
      consumes_readSeparator digits (by decide) first
    unfold readGroups
    split
    · rename_i ip rest h
      split_ifs at h
      exact embedded s ip rest h
    · split
      · rename_i g rest h
        exact (group s g rest h).trans (ih false rest)
      · exact Consumed.refl s

theorem consumes_readIpv6 : ConsumesAddress readIpv6 := by
  intro s ip rest h
  have head := consumed_readGroups true 8 s
  simp only [readIpv6] at h
  split_ifs at h
  · obtain ⟨-, rfl⟩ := Prod.mk.inj (Option.some.inj h)
    exact head
  · simp only [Option.bind_eq_bind, Option.bind_eq_some_iff] at h
    obtain ⟨s₁, first, s₂, second, last⟩ := h
    obtain ⟨-, rfl⟩ := Prod.mk.inj (Option.some.inj last)
    exact ((head.trans (consumed_of_readChar (by decide) first)).trans
      (consumed_of_readChar (by decide) second)).trans (consumed_readGroups true _ s₂)

theorem consumes_readIp : ConsumesAddress readIp := by
  intro s ip rest h
  unfold readIp at h
  split at h
  · rename_i v4 rest' read
    obtain ⟨-, rfl⟩ := Prod.mk.inj (Option.some.inj h)
    exact consumes_readIpv4 s v4 _ read
  · obtain ⟨⟨v6, rest'⟩, read, eq⟩ := Option.map_eq_some_iff.mp h
    obtain ⟨-, rfl⟩ := Prod.mk.inj eq
    exact consumes_readIpv6 s v6 _ read

theorem consumes_readPort : ConsumesAddress readPort := by
  intro s port rest h
  unfold readPort at h
  simp only [Option.bind_eq_bind, Option.bind_eq_some_iff, Prod.exists] at h
  obtain ⟨s₁, colon, n, s₂, digits, last⟩ := h
  obtain ⟨-, rfl⟩ := Prod.mk.inj (Option.some.inj last)
  exact (consumed_of_readChar (by decide) colon).trans
    (consumes_readNumber (by omega) _ _ _ _ _ _ digits)

theorem consumes_readScopeId : ConsumesAddress readScopeId := by
  intro s scope rest h
  unfold readScopeId at h
  simp only [Option.bind_eq_bind, Option.bind_eq_some_iff, Prod.exists] at h
  obtain ⟨s₁, percent, n, s₂, digits, last⟩ := h
  obtain ⟨-, rfl⟩ := Prod.mk.inj (Option.some.inj last)
  exact (consumed_of_readChar (by decide) percent).trans
    (consumes_readNumber (by omega) _ _ _ _ _ _ digits)

theorem consumes_readSocketAddrV4 : ConsumesAddress readSocketAddrV4 := by
  intro s addr rest h
  unfold readSocketAddrV4 at h
  simp only [Option.bind_eq_bind, Option.bind_eq_some_iff, Prod.exists] at h
  obtain ⟨ip, s₁, ipRead, port, s₂, portRead, last⟩ := h
  obtain ⟨-, rfl⟩ := Prod.mk.inj (Option.some.inj last)
  exact (consumes_readIpv4 _ _ _ ipRead).trans (consumes_readPort _ _ _ portRead)

theorem consumes_readSocketAddrV6 : ConsumesAddress readSocketAddrV6 := by
  intro s addr rest h
  unfold readSocketAddrV6 at h
  simp only [Option.bind_eq_bind, Option.bind_eq_some_iff, Prod.exists] at h
  obtain ⟨s₁, open_, ip, s₂, ipRead, s₃, close, port, s₄, portRead, last⟩ := h
  obtain ⟨-, rfl⟩ := Prod.mk.inj (Option.some.inj last)
  have scope : Consumed s₂ ((readScopeId s₂).getD (0, s₂)).2 := by
    cases read : readScopeId s₂ with
    | none => exact Consumed.refl s₂
    | some out => exact consumes_readScopeId _ _ _ read
  exact ((((consumed_of_readChar (by decide) open_).trans (consumes_readIpv6 _ _ _ ipRead)).trans
    scope).trans (consumed_of_readChar (by decide) close)).trans
      (consumes_readPort _ _ _ portRead)

theorem consumes_readSocketAddr : ConsumesAddress readSocketAddr := by
  intro s addr rest h
  unfold readSocketAddr at h
  cases v4 : readSocketAddrV4 s with
  | some out =>
    rw [v4] at h
    obtain rfl := Option.some.inj h
    exact consumes_readSocketAddrV4 _ _ _ v4
  | none =>
    rw [v4] at h
    exact consumes_readSocketAddrV6 _ _ _ h

/-! ## Whole texts -/

theorem isAddressChar_of_parseWith {α : Type} {p : Parser α} (consumes : ConsumesAddress p)
    {s : String} {a : α} (h : parseWith p s = some a) : ∀ c ∈ s.toList, isAddressChar c := by
  unfold parseWith at h
  split at h
  · rename_i b read
    obtain ⟨used, eq, chars⟩ := consumes _ _ _ read
    rw [eq, List.append_nil]
    exact chars
  · cases h

theorem isAddressChar_of_ip {s : String} {ip : IpAddr} (h : IpAddr.parse s = some ip) :
    ∀ c ∈ s.toList, isAddressChar c :=
  isAddressChar_of_parseWith consumes_readIp h

theorem isAddressChar_of_socketAddr {s : String} {addr : SocketAddr}
    (h : SocketAddr.parse s = some addr) : ∀ c ∈ s.toList, isAddressChar c :=
  isAddressChar_of_parseWith consumes_readSocketAddr h

theorem digits_of_parseUnsigned {max : Nat} {s : String} (h : (parseUnsigned max s).isSome) :
    ∀ c ∈ s.toList, (toDigit 10 c).isSome ∨ c = '+' := by
  have digits {cs : List Char} (h : (digitsValue 10 cs).isSome) : ∀ c ∈ cs, (toDigit 10 c).isSome := by
    unfold digitsValue at h
    induction cs with
    | nil => simp
    | cons c cs ih =>
      cases first : toDigit 10 c <;> cases rest : cs.mapM (toDigit 10) <;> simp_all
  have valued : (digitsValue 10 (stripPlus s.toList)).isSome := by
    simp only [parseUnsigned] at h
    split_ifs at h with empty
    · cases h
    · obtain ⟨n, found⟩ := Option.isSome_iff_exists.mp h
      rw [(Option.filter_eq_some_iff.mp found).1]
      rfl
  intro c mem
  cases text : s.toList with
  | nil => simp [text] at mem
  | cons d cs =>
    rw [text] at mem valued
    by_cases plus : d = '+'
    · subst plus
      rcases List.mem_cons.mp mem with eq | mem
      · exact Or.inr eq
      · exact Or.inl (digits (by simpa [stripPlus] using valued) c mem)
    · exact Or.inl (digits (by simpa [stripPlus, plus] using valued) c mem)

/-- A prefix text is an address, a slash and a length. -/
theorem exists_parts_of_prefix {s : String} {p : IpPrefix} (h : IpPrefix.ofText s = some p) :
    ∃ addr bits, s = addr ++ "/" ++ bits ∧ (IpAddr.parse addr).isSome ∧
      (parseUnsigned 255 bits).isSome := by
  unfold IpPrefix.ofText at h
  simp only [Option.bind_eq_bind, Option.bind_eq_some_iff, Prod.exists] at h
  obtain ⟨addr, bits, split, ip, ipRead, n, bitsRead, -⟩ := h
  refine ⟨addr, bits, ?_, by simp [ipRead], by simp [bitsRead]⟩
  exact (splitOnce_eq_some split).1

/-- What a prefix text cannot contain. -/
theorem notMem_of_prefix {s : String} {p : IpPrefix} (h : IpPrefix.ofText s = some p) {c : Char}
    (address : isAddressChar c = false) (slash : c ≠ '/') (plus : c ≠ '+') : c ∉ s.toList := by
  obtain ⟨addr, bits, rfl, addrRead, bitsRead⟩ := exists_parts_of_prefix h
  obtain ⟨ip, addrRead⟩ := Option.isSome_iff_exists.mp addrRead
  have inAddr : c ∉ addr.toList := fun mem => by
    simp [isAddressChar_of_ip addrRead c mem] at address
  have inBits : c ∉ bits.toList := fun mem => by
    rcases digits_of_parseUnsigned bitsRead c mem with digit | eq
    · simp [isAddressChar_of_digit (by omega) digit] at address
    · exact plus eq
  simp [inAddr, inBits, slash]

/-- A prefix text has exactly one slash. -/
theorem count_slash_of_prefix {s : String} {p : IpPrefix} (h : IpPrefix.ofText s = some p) :
    s.toList.count '/' = 1 := by
  obtain ⟨addr, bits, rfl, addrRead, bitsRead⟩ := exists_parts_of_prefix h
  obtain ⟨ip, addrRead⟩ := Option.isSome_iff_exists.mp addrRead
  have inAddr : '/' ∉ addr.toList := fun mem =>
    absurd (isAddressChar_of_ip addrRead '/' mem) (by decide)
  have inBits : '/' ∉ bits.toList := fun mem => by
    rcases digits_of_parseUnsigned bitsRead '/' mem with digit | eq
    · exact absurd digit (by decide)
    · exact absurd eq (by decide)
  simp [List.count_eq_zero_of_not_mem inAddr, List.count_eq_zero_of_not_mem inBits]

/-! ## No white space -/

theorem isWhitespace_of_isAddressChar {c : Char} (address : isAddressChar c) : isWhitespace c = false := by
  have range : 37 ≤ c.toNat ∧ c.toNat ≤ 102 := by
    simp only [isAddressChar, Bool.or_eq_true, beq_iff_eq] at address
    rcases address with ((((digit | rfl) | rfl) | rfl) | rfl) | rfl
    · unfold toDigit at digit
      grind
    all_goals decide
  simp only [isWhitespace]
  grind

theorem trim_ofText {s : String} {ip : IpAddr} (h : IpAddr.parse s = some ip) : trim s = s :=
  trim_eq_self fun c mem => isWhitespace_of_isAddressChar (isAddressChar_of_ip h c mem)

theorem isWhitespace_of_mem_fmtNat {n : Nat} {c : Char} (mem : c ∈ (fmtNat n).toList) : isWhitespace c = false := by
  rw [fmtNat, String.toList_ofList] at mem
  exact isWhitespace_of_isAddressChar
    (isAddressChar_of_digit (by decide) (toDigit_of_mem_fmtRadix (by decide) (by decide) mem))

theorem trim_fmtNat (n : Nat) : trim (fmtNat n) = fmtNat n :=
  trim_eq_self fun _ mem => isWhitespace_of_mem_fmtNat mem

end Rust.Net
