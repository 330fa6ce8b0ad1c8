import NostrVpn.Core.NetworkRoutes
import NostrVpn.Rust.NetChars
import NostrVpn.Rust.PrefixSet

/-!
# Canonical routes

A route text is an address and a length with a slash between them, and may have blanks around each. It denotes
the addresses that agree with its own in the first bits. `normalize_advertised_route` gives the same text to all
routes with the same addresses.
-/
namespace NostrVpn.Core

open Rust Rust.Net

/-- The addresses that a route text denotes. -/
inductive Denotes : String → Set IpAddr → Prop where
  | mk {route addrText bitsText : String} {addr : IpAddr} {bits : Nat}
      (split : splitOnce '/' (trim route) = some (addrText, bitsText))
      (parsed : IpAddr.parse (trim addrText) = some addr) (length : parseUnsigned 255 (trim bitsText) = some bits)
      (fits : bits ≤ addr.width) : Denotes route (addr.block bits)

section Routes
variable {route text : String} {block block' : Set IpAddr} {p : IpPrefix}

theorem Denotes.unique (left : Denotes route block) (right : Denotes route block') : block = block' := by
  obtain ⟨split, parsed, length, -⟩ := left
  obtain ⟨split', parsed', length', -⟩ := right
  obtain ⟨rfl, rfl⟩ := Prod.mk.inj (Option.some.inj (split.symm.trans split'))
  obtain rfl := Option.some.inj (parsed.symm.trans parsed')
  obtain rfl := Option.some.inj (length.symm.trans length')
  rfl

theorem Denotes.exists_prefix (denotes : Denotes route block) : ∃ p : IpPrefix, p.addresses = block := by
  obtain ⟨-, -, -, fits⟩ := denotes
  exact ⟨_, IpPrefix.addresses_ofIp (dif_pos fits)⟩

/-- A route normalises to the text of the prefix that it denotes. -/
theorem normalizeAdvertisedRoute_eq_some :
    normalizeAdvertisedRoute route = some text ↔ ∃ p : IpPrefix, text = p.fmt ∧ Denotes route p.addresses := by
  constructor
  · intro normal
    simp only [normalizeAdvertisedRoute, Option.bind_eq_bind, Option.bind_eq_some_iff] at normal
    obtain ⟨⟨addrText, bitsText⟩, split, addr, parsed, bits, length, normal⟩ := normal
    split_ifs at normal with wide
    have fits := Nat.not_lt.mp wide
    obtain ⟨p, of⟩ : ∃ p, IpPrefix.ofIp addr bits = some p := ⟨_, dif_pos fits⟩
    refine ⟨p, ?_, IpPrefix.addresses_ofIp of ▸ .mk split parsed length fits⟩
    rw [IpPrefix.ofIp, dif_pos fits] at of
    obtain rfl := Option.some.inj of
    exact (Option.some.inj normal).symm
  · rintro ⟨p, rfl, denotes⟩
    generalize eq : p.addresses = block at denotes
    obtain ⟨split, parsed, length, fits⟩ := denotes
    rename_i addr bits
    obtain ⟨q, of⟩ : ∃ q, IpPrefix.ofIp addr bits = some q := ⟨_, dif_pos fits⟩
    obtain rfl : p = q := IpPrefix.addresses_injective (eq.trans (IpPrefix.addresses_ofIp of).symm)
    rw [IpPrefix.ofIp, dif_pos fits] at of
    obtain rfl := Option.some.inj of
    simp only [normalizeAdvertisedRoute, split, parsed, length, Option.bind_eq_bind, Option.bind_some]
    exact if_neg (Nat.not_lt.mpr fits)

/-- A printed prefix denotes the addresses of the prefix. -/
theorem denotes_fmt (p : IpPrefix) : Denotes p.fmt p.addresses := by
  have small : p.bits ≤ 255 := by
    have fits := p.fits
    cases eq : p.net <;> simp only [eq, IpAddr.width] at fits <;> omega
  have noSlash : '/' ∉ p.net.fmt.toList := by simpa [IpAddr.fmt] using slash_notMem_display p.net
  have chars (c : Char) (mem : c ∈ p.fmt.toList) : isWhitespace c = false := by
    have parts : c ∈ p.net.fmt.toList ∨ c = '/' ∨ c ∈ (fmtNat p.bits).toList := by
      simpa [IpPrefix.fmt] using mem
    rcases parts with address | rfl | digit
    · exact isWhitespace_of_isAddressChar (isAddressChar_of_ip (IpAddr.parse_fmt p.net) c address)
    · decide
    · rw [fmtNat, String.toList_ofList] at digit
      exact isWhitespace_of_isAddressChar
        (isAddressChar_of_digit (by decide) (toDigit_of_mem_fmtRadix (by decide) (by decide) digit))
  refine @Denotes.mk p.fmt p.net.fmt (fmtNat p.bits) p.net p.bits ?_ ?_ ?_ p.fits
  · rw [trim_eq_self chars]
    exact splitOnce_append _ noSlash
  · rw [trim_ofText (IpAddr.parse_fmt p.net), IpAddr.parse_fmt]
  · rw [trim_fmtNat, parseUnsigned_fmtNat small]

end Routes

/-- A normalised route is a printed prefix with the addresses of the route and normalises to itself. Routes with
the same addresses normalise to the same text, and routes with different addresses to different texts. -/
theorem normalize_advertised_route_is_canonical (r r' : String) :
    (∀ t, normalizeAdvertisedRoute r = some t → normalizeAdvertisedRoute t = some t ∧
      ∃ p : IpPrefix, t = p.fmt ∧ Denotes r p.addresses ∧ Denotes t p.addresses) ∧
    (∀ block, Denotes r block → Denotes r' block →
      ∃ t, normalizeAdvertisedRoute r = some t ∧ normalizeAdvertisedRoute r' = some t) ∧
    (∀ t t', normalizeAdvertisedRoute r = some t → normalizeAdvertisedRoute r' = some t' →
      (t = t' ↔ ∃ block, Denotes r block ∧ Denotes r' block)) := by
  refine ⟨fun t normal => ?_, fun block left right => ?_, fun t t' left right => ?_⟩
  · obtain ⟨p, rfl, denotes⟩ := normalizeAdvertisedRoute_eq_some.mp normal
    exact ⟨normalizeAdvertisedRoute_eq_some.mpr ⟨p, rfl, denotes_fmt p⟩, p, rfl, denotes, denotes_fmt p⟩
  · obtain ⟨p, rfl⟩ := left.exists_prefix
    exact ⟨p.fmt, normalizeAdvertisedRoute_eq_some.mpr ⟨p, rfl, left⟩,
      normalizeAdvertisedRoute_eq_some.mpr ⟨p, rfl, right⟩⟩
  · obtain ⟨p, rfl, denotes⟩ := normalizeAdvertisedRoute_eq_some.mp left
    obtain ⟨q, rfl, denotes'⟩ := normalizeAdvertisedRoute_eq_some.mp right
    constructor
    · intro same
      have printed := denotes_fmt p
      rw [same] at printed
      rw [printed.unique (denotes_fmt q)] at denotes
      exact ⟨_, denotes, denotes'⟩
    · rintro ⟨block, here, there⟩
      have one : p.addresses = q.addresses := (denotes.unique here).trans (there.unique denotes')
      rw [IpPrefix.addresses_injective one]

/-- Two texts of one prefix. -/
theorem canonical_form_of_ten :
    (∀ block, Denotes " 10.1.2.3 / 8" block → Denotes "10.0.0.0/+8" block →
      ∃ t, normalizeAdvertisedRoute " 10.1.2.3 / 8" = some t ∧ normalizeAdvertisedRoute "10.0.0.0/+8" = some t) ∧
    normalizeAdvertisedRoute "10.0.0.0/8" = some "10.0.0.0/8" :=
  ⟨(normalize_advertised_route_is_canonical " 10.1.2.3 / 8" "10.0.0.0/+8").2.1,
    ((normalize_advertised_route_is_canonical " 10.1.2.3 / 8" "").1 "10.0.0.0/8" (by decide)).1⟩

end NostrVpn.Core
