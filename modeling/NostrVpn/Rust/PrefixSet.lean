import Mathlib.Data.Set.Basic
import NostrVpn.Rust.Prefix

/-!
# The addresses of a prefix

A prefix of some length stands for the addresses of its family that agree with it in its first bits. Different
prefixes stand for different sets.
-/
namespace Rust.Net

namespace IpAddr

/-- A bit of an address, counted from the most significant one. -/
def bit (i : Nat) : IpAddr → Bool
  | .v4 ip => ip.bits.getMsbD i
  | .v6 ip => ip.bits.getMsbD i

/-- The address with one bit inverted. -/
def flip (i : Nat) : IpAddr → IpAddr
  | .v4 ip => .v4 ⟨ip.bits ^^^ BitVec.twoPow 32 (31 - i)⟩
  | .v6 ip => .v6 ⟨ip.bits ^^^ BitVec.twoPow 128 (127 - i)⟩

/-- The addresses of the family that agree with the address in the first bits. -/
def block (ip : IpAddr) (bits : Nat) : Set IpAddr :=
  {x | x.width = ip.width ∧ ∀ i < bits, x.bit i = ip.bit i}

variable {ip other : IpAddr} {bits bits' i : Nat}

theorem self_mem_block (ip : IpAddr) (bits : Nat) : ip ∈ ip.block bits := ⟨rfl, fun _ _ => rfl⟩

theorem eq_of_bits (width : ip.width = other.width) (same : ∀ i < ip.width, ip.bit i = other.bit i) :
    ip = other := by
  cases ip with
  | v4 a =>
    cases other with
    | v4 b => exact congrArg (fun bits => IpAddr.v4 ⟨bits⟩) (BitVec.eq_of_getMsbD_eq same)
    | v6 b => cases width
  | v6 a =>
    cases other with
    | v4 b => cases width
    | v6 b => exact congrArg (fun bits => IpAddr.v6 ⟨bits⟩) (BitVec.eq_of_getMsbD_eq same)

theorem bit_mask (fits : bits ≤ ip.width) (i : Nat) : (ip.mask bits).bit i = (decide (i < bits) && ip.bit i) := by
  have mask {w : Nat} (a : BitVec w) (fits : bits ≤ w) :
      (a &&& BitVec.allOnes w <<< (w - bits)).getMsbD i = (decide (i < bits) && a.getMsbD i) := by
    rw [BitVec.getMsbD_and, BitVec.getMsbD_shiftLeft, BitVec.getMsbD_allOnes, Bool.and_comm]
    congr 1
    exact decide_eq_decide.mpr (by omega)
  cases ip with
  | v4 a => exact mask a.bits fits
  | v6 a => exact mask a.bits fits

@[simp] theorem width_flip (i : Nat) (ip : IpAddr) : (ip.flip i).width = ip.width := by cases ip <;> rfl

theorem bit_flip (inside : i < ip.width) (j : Nat) : (ip.flip i).bit j = (ip.bit j ^^ decide (j = i)) := by
  have single {w : Nat} (a : BitVec w) (inside : i < w) :
      (a ^^^ BitVec.twoPow w (w - 1 - i)).getMsbD j = (a.getMsbD j ^^ decide (j = i)) := by
    rw [BitVec.getMsbD_xor, @BitVec.getMsbD_eq_getLsbD w (BitVec.twoPow w (w - 1 - i)), BitVec.getLsbD_twoPow]
    congr 1
    by_cases here : j = i
    · subst here
      simp [inside]
      omega
    · simp [here]
      omega
  cases ip with
  | v4 a => exact single a.bits inside
  | v6 a => exact single a.bits inside

/-- Addresses of one family agree in their first bits exactly when they agree under the mask. -/
theorem mask_eq_iff (fits : bits ≤ ip.width) (width : other.width = ip.width) :
    other.mask bits = ip.mask bits ↔ ∀ i < bits, other.bit i = ip.bit i := by
  constructor
  · intro same i inside
    have bit := congrArg (IpAddr.bit i) same
    rw [bit_mask fits, bit_mask (width ▸ fits), decide_eq_true inside, Bool.true_and, Bool.true_and] at bit
    exact bit
  · intro agree
    refine eq_of_bits (by simpa using width) fun i _ => ?_
    rw [bit_mask fits, bit_mask (width ▸ fits)]
    by_cases inside : i < bits
    · rw [agree i inside]
    · simp [inside]

theorem mem_block_iff (fits : bits ≤ ip.width) : other ∈ ip.block bits ↔
    other.width = ip.width ∧ other.mask bits = ip.mask bits :=
  and_congr_right fun width => (mask_eq_iff fits width).symm

/-- The host bits do not matter. -/
theorem block_mask (fits : bits ≤ ip.width) : (ip.mask bits).block bits = ip.block bits := by
  ext other
  rw [mem_block_iff (by simpa using fits), mem_block_iff fits, width_mask, mask_mask]

/-- A shorter prefix has an address that a longer one of the same family has not. -/
theorem block_ne_of_lt (fits : bits' ≤ other.width) (shorter : bits < bits') :
    ip.block bits ≠ other.block bits' := by
  intro same
  have mem : other ∈ ip.block bits := by rw [same]; exact other.self_mem_block bits'
  have inside : bits < other.width := Nat.lt_of_lt_of_le shorter fits
  have flipped : other.flip bits ∈ ip.block bits := by
    refine ⟨(width_flip bits other).trans mem.1, fun i before => ?_⟩
    rw [bit_flip inside, decide_eq_false (Nat.ne_of_lt before), Bool.xor_false]
    exact mem.2 i before
  rw [same] at flipped
  have bit := flipped.2 bits shorter
  rw [bit_flip inside, decide_eq_true rfl] at bit
  simp at bit

end IpAddr

namespace IpPrefix

/-- The addresses that lie in the prefix. -/
def addresses (p : IpPrefix) : Set IpAddr := p.net.block p.bits

theorem addresses_ofIp {ip : IpAddr} {bits : Nat} {p : IpPrefix} (of : ofIp ip bits = some p) :
    p.addresses = ip.block bits := by
  unfold ofIp at of
  split_ifs at of with fits
  obtain rfl := Option.some.inj of
  exact IpAddr.block_mask fits

/-- A prefix is known by its addresses. -/
theorem addresses_injective : Function.Injective addresses := by
  intro p q same
  have length : p.bits = q.bits := by
    rcases Nat.lt_trichotomy p.bits q.bits with less | eq | greater
    · exact absurd same (IpAddr.block_ne_of_lt q.fits less)
    · exact eq
    · exact absurd same.symm (IpAddr.block_ne_of_lt p.fits greater)
  have mem : p.net ∈ q.addresses := same ▸ p.net.self_mem_block p.bits
  obtain ⟨-, masked⟩ := (IpAddr.mem_block_iff q.fits).mp mem
  refine IpPrefix.ext ?_ length
  rw [← length, p.masked, length, q.masked] at masked
  exact masked

end IpPrefix

end Rust.Net
