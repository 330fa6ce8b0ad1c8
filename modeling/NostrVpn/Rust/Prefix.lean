import NostrVpn.Rust.NetText

/-!
# IP prefixes

A prefix carries its canonical form: the host bits of its network address are zero and its length
fits the address family. A text `address/length` denotes the prefix its address lies in, and the
printed form of a prefix denotes that prefix.
-/
namespace Rust.Net

variable {radix : Nat}

namespace IpAddr

/-- The number of bits of an address. -/
def width : IpAddr → Nat
  | .v4 _ => 32
  | .v6 _ => 128

/-- `ip & (MAX << (width - bits))`. -/
def mask (bits : Nat) : IpAddr → IpAddr
  | .v4 ip => .v4 ⟨ip.bits &&& (BitVec.allOnes 32 <<< (32 - bits))⟩
  | .v6 ip => .v6 ⟨ip.bits &&& (BitVec.allOnes 128 <<< (128 - bits))⟩

@[simp] theorem width_mask (bits : Nat) (ip : IpAddr) : (ip.mask bits).width = ip.width := by
  cases ip <;> rfl

@[simp] theorem mask_mask (bits : Nat) (ip : IpAddr) : (ip.mask bits).mask bits = ip.mask bits := by
  cases ip <;> simp [mask, BitVec.and_assoc]

end IpAddr

@[ext] structure IpPrefix where
  net : IpAddr
  bits : Nat
  fits : bits ≤ net.width
  masked : net.mask bits = net
  deriving DecidableEq

namespace IpPrefix

/-- The prefix of the given length that an address lies in. -/
def ofIp (ip : IpAddr) (bits : Nat) : Option IpPrefix :=
  if h : bits ≤ ip.width then some ⟨ip.mask bits, bits, by simpa using h, by simp⟩ else none

/-- The prefix that a text `address/length` denotes. -/
def ofText (s : String) : Option IpPrefix := do
  let (addr, bits) ← splitOnce '/' s
  let addr ← IpAddr.parse addr
  let bits ← parseUnsigned 255 bits
  ofIp addr bits

def fmt (p : IpPrefix) : String := p.net.fmt ++ "/" ++ fmtNat p.bits

theorem ofIp_net (p : IpPrefix) : ofIp p.net p.bits = some p := by
  rw [ofIp, dif_pos p.fits]
  congr 1
  exact IpPrefix.ext p.masked rfl

end IpPrefix

/-! ## Printed prefixes are read back -/

theorem slash_notMem_fmtRadix (h1 : 1 < radix) (hr : radix ≤ 16) (n : Nat) :
    '/' ∉ fmtRadix radix n := by
  intro mem
  have digit := toDigit_of_mem_fmtRadix h1 hr mem
  have none : ∀ r ≤ 16, toDigit r '/' = none := by decide
  simp [none radix hr] at digit

theorem slash_notMem_displayV4 (ip : Ipv4Addr) : '/' ∉ ip.display := by
  simp [Ipv4Addr.display, slash_notMem_fmtRadix]

theorem slash_notMem_fmtSubslice (gs : List Nat) : '/' ∉ fmtSubslice gs := by
  cases gs with
  | nil => simp [fmtSubslice]
  | cons g gs => simp [fmtSubslice_cons, fmtGroups, slash_notMem_fmtRadix]

theorem slash_notMem_displayV6 (ip : Ipv6Addr) : '/' ∉ ip.display := by
  rw [Ipv6Addr.display]
  cases ip.toIpv4Mapped with
  | some v4 => simp [slash_notMem_displayV4]
  | none =>
    dsimp only
    split_ifs <;> simp [slash_notMem_fmtSubslice]

theorem slash_notMem_display (ip : IpAddr) : '/' ∉ ip.display := by
  cases ip with
  | v4 ip => exact slash_notMem_displayV4 ip
  | v6 ip => exact slash_notMem_displayV6 ip

theorem IpPrefix.ofText_fmt (p : IpPrefix) : IpPrefix.ofText p.fmt = some p := by
  have small : p.bits ≤ 255 := by
    have fits := p.fits
    cases eq : p.net <;> simp [eq, IpAddr.width] at fits <;> omega
  have noSlash : '/' ∉ p.net.fmt.toList := by simpa [IpAddr.fmt] using slash_notMem_display p.net
  have split : splitOnce '/' p.fmt = some (p.net.fmt, fmtNat p.bits) := splitOnce_append _ noSlash
  simp [ofText, split, IpAddr.parse_fmt, parseUnsigned_fmtNat small, ofIp_net]

end Rust.Net
