import NostrVpn.Rust.Str

/-!
# Addresses of `std::net`

The address types, their text parsers and their `Display` forms. A parser consumes a prefix of the
characters; `parse` accepts when nothing is left, as `Parser::parse_with` does. The length check
that `Ipv4Addr::from_str` makes first is implied by the three digits an octet may have.
-/
namespace Rust.Net

structure Ipv4Addr where
  bits : BitVec 32
  deriving DecidableEq, Repr

structure Ipv6Addr where
  bits : BitVec 128
  deriving DecidableEq, Repr

inductive IpAddr where
  | v4 (ip : Ipv4Addr)
  | v6 (ip : Ipv6Addr)
  deriving DecidableEq, Repr

/-- `SocketAddrV6` also carries a flow label, which no text form sets. -/
inductive SocketAddr where
  | v4 (ip : Ipv4Addr) (port : UInt16)
  | v6 (ip : Ipv6Addr) (port : UInt16) (scopeId : UInt32)
  deriving DecidableEq, Repr

def SocketAddr.ip : SocketAddr → IpAddr
  | .v4 ip _ => .v4 ip
  | .v6 ip _ _ => .v6 ip

/-- `SocketAddr::new`. -/
def SocketAddr.new : IpAddr → UInt16 → SocketAddr
  | .v4 ip, port => .v4 ip port
  | .v6 ip, port => .v6 ip port 0

namespace Ipv4Addr

def ofOctets (a b c d : Nat) : Ipv4Addr := ⟨.ofNat 32 (a * 2 ^ 24 + b * 2 ^ 16 + c * 2 ^ 8 + d)⟩

def octet (ip : Ipv4Addr) (i : Nat) : Nat := ip.bits.toNat / 2 ^ (8 * (3 - i)) % 256

def isPrivate (ip : Ipv4Addr) : Bool :=
  ip.octet 0 == 10 || (ip.octet 0 == 172 && 16 ≤ ip.octet 1 && ip.octet 1 ≤ 31) ||
    (ip.octet 0 == 192 && ip.octet 1 == 168)

def isLinkLocal (ip : Ipv4Addr) : Bool := ip.octet 0 == 169 && ip.octet 1 == 254

def isLoopback (ip : Ipv4Addr) : Bool := ip.octet 0 == 127

end Ipv4Addr

namespace Ipv6Addr

def ofSegments (segments : List Nat) : Ipv6Addr :=
  ⟨.ofNat 128 (Nat.ofDigits 65536 segments.reverse)⟩

def segment (ip : Ipv6Addr) (i : Nat) : Nat := ip.bits.toNat / 65536 ^ (7 - i) % 65536

def segments (ip : Ipv6Addr) : List Nat := (List.range 8).map ip.segment

def isLoopback (ip : Ipv6Addr) : Bool := ip.bits == 1

def isUnicastLinkLocal (ip : Ipv6Addr) : Bool := ip.segment 0 / 64 == 0xfe80 / 64

def isUniqueLocal (ip : Ipv6Addr) : Bool := ip.segment 0 / 512 == 0xfc00 / 512

end Ipv6Addr

/-! ## Parsing -/

abbrev Parser (α : Type) := List Char → Option (α × List Char)

def readChar (c : Char) : List Char → Option (List Char)
  | d :: s => if d = c then some s else none
  | [] => none

/-- `read_number`: digits up to a bound on their count, a rule for leading zeros and a bound on
the value. -/
def readNumber (radix : Nat) (maxDigits : Option Nat) (allowZeroPrefix : Bool) (max : Nat) :
    Parser Nat := fun s =>
  let digits := s.takeWhile fun c => (toDigit radix c).isSome
  if digits = [] ∨ maxDigits.any (· < digits.length) ∨
      (!allowZeroPrefix && digits.head? == some '0' && 1 < digits.length) then none
  else match digitsValue radix digits with
    | some v => if v ≤ max then some (v, s.drop digits.length) else none
    | none => none

/-- `read_separator`: the separator is expected before every item but the first. -/
def readSeparator {α : Type} (sep : Char) (first : Bool) (inner : Parser α) : Parser α := fun s =>
  if first then inner s else (readChar sep s).bind inner

def readOctet : Parser Nat := readNumber 10 (some 3) false 255

def readIpv4 : Parser Ipv4Addr := fun s => do
  let (a, s) ← readSeparator '.' true readOctet s
  let (b, s) ← readSeparator '.' false readOctet s
  let (c, s) ← readSeparator '.' false readOctet s
  let (d, s) ← readSeparator '.' false readOctet s
  return (.ofOctets a b c d, s)

/-- `read_groups`: up to `limit` groups, and whether the last two came from an embedded IPv4
address. `first` says whether a separator is expected before the next group. -/
def readGroups (first : Bool) : Nat → List Char → List Nat × Bool × List Char
  | 0, s => ([], false, s)
  | limit + 1, s =>
    match if 1 ≤ limit then readSeparator ':' first readIpv4 s else none with
    | some (ip, rest) =>
      ([ip.octet 0 * 256 + ip.octet 1, ip.octet 2 * 256 + ip.octet 3], true, rest)
    | none =>
      match readSeparator ':' first (readNumber 16 (some 4) true 0xffff) s with
      | some (group, rest) =>
        let (groups, embedded, rest) := readGroups false limit rest
        (group :: groups, embedded, rest)
      | none => ([], false, s)

def readIpv6 : Parser Ipv6Addr := fun s =>
  let (head, embedded, s) := readGroups true 8 s
  if head.length = 8 then some (.ofSegments head, s)
  else if embedded then none
  else do
    let s ← readChar ':' s
    let s ← readChar ':' s
    let (tail, _, s) := readGroups true (8 - (head.length + 1)) s
    let zeros := List.replicate (8 - head.length - tail.length) 0
    return (.ofSegments (head ++ zeros ++ tail), s)

def readIp : Parser IpAddr := fun s =>
  match readIpv4 s with
  | some (ip, rest) => some (.v4 ip, rest)
  | none => (readIpv6 s).map fun (ip, rest) => (.v6 ip, rest)

def readPort : Parser UInt16 := fun s => do
  let s ← readChar ':' s
  let (port, s) ← readNumber 10 none true 0xffff s
  return (.ofNat port, s)

def readScopeId : Parser UInt32 := fun s => do
  let s ← readChar '%' s
  let (scope, s) ← readNumber 10 none true 0xffffffff s
  return (.ofNat scope, s)

def readSocketAddrV4 : Parser SocketAddr := fun s => do
  let (ip, s) ← readIpv4 s
  let (port, s) ← readPort s
  return (.v4 ip port, s)

def readSocketAddrV6 : Parser SocketAddr := fun s => do
  let s ← readChar '[' s
  let (ip, s) ← readIpv6 s
  let (scope, s) := (readScopeId s).getD (0, s)
  let s ← readChar ']' s
  let (port, s) ← readPort s
  return (.v6 ip port scope, s)

def readSocketAddr : Parser SocketAddr := fun s =>
  (readSocketAddrV4 s).orElse fun _ => readSocketAddrV6 s

def parseWith {α : Type} (p : Parser α) (s : String) : Option α :=
  match p s.toList with
  | some (a, []) => some a
  | _ => none

def Ipv4Addr.parse : String → Option Ipv4Addr := parseWith readIpv4
def IpAddr.parse : String → Option IpAddr := parseWith readIp
def SocketAddr.parse : String → Option SocketAddr := parseWith readSocketAddr

/-! ## Printing -/

def Ipv4Addr.display (ip : Ipv4Addr) : List Char :=
  fmtRadix 10 (ip.octet 0) ++ '.' :: fmtRadix 10 (ip.octet 1) ++
    '.' :: fmtRadix 10 (ip.octet 2) ++ '.' :: fmtRadix 10 (ip.octet 3)

/-- A run of zero segments. -/
structure Span where
  start : Nat
  len : Nat
  deriving DecidableEq, Repr

/-- The first longest run of zeros, with the source's accumulators. -/
def longestZeroes (segments : List Nat) : Span :=
  (segments.zipIdx.foldl
    (fun (acc : Span × Span) (segment, i) =>
      let (longest, current) := acc
      if segment = 0 then
        let current : Span := ⟨if current.len = 0 then i else current.start, current.len + 1⟩
        (if longest.len < current.len then current else longest, current)
      else (longest, ⟨0, 0⟩))
    (⟨0, 0⟩, ⟨0, 0⟩)).1

/-- `fmt_subslice`: hexadecimal segments separated by colons. -/
def fmtSubslice : List Nat → List Char
  | [] => []
  | [g] => fmtRadix 16 g
  | g :: h :: gs => fmtRadix 16 g ++ ':' :: fmtSubslice (h :: gs)

/-- `to_ipv4_mapped`. -/
def Ipv6Addr.toIpv4Mapped (ip : Ipv6Addr) : Option Ipv4Addr :=
  if ip.bits.toNat / 2 ^ 32 = 0xffff then some ⟨.ofNat 32 ip.bits.toNat⟩ else none

def Ipv6Addr.display (ip : Ipv6Addr) : List Char :=
  match ip.toIpv4Mapped with
  | some v4 => "::ffff:".toList ++ v4.display
  | none =>
    let zeroes := longestZeroes ip.segments
    if 1 < zeroes.len then
      fmtSubslice (ip.segments.take zeroes.start) ++
        ':' :: ':' :: fmtSubslice (ip.segments.drop (zeroes.start + zeroes.len))
    else fmtSubslice ip.segments

def IpAddr.display : IpAddr → List Char
  | .v4 ip => ip.display
  | .v6 ip => ip.display

def SocketAddr.display : SocketAddr → List Char
  | .v4 ip port => ip.display ++ ':' :: fmtRadix 10 port.toNat
  | .v6 ip port scopeId =>
    let scope := if scopeId = 0 then [] else '%' :: fmtRadix 10 scopeId.toNat
    '[' :: (ip.display ++ scope ++ ']' :: ':' :: fmtRadix 10 port.toNat)

def IpAddr.fmt (ip : IpAddr) : String := .ofList ip.display
def SocketAddr.fmt (addr : SocketAddr) : String := .ofList addr.display

example : (SocketAddr.parse "[fe80::0:1%3]:00080").map SocketAddr.fmt = some "[fe80::1%3]:80" := by
  decide

end Rust.Net
