import NostrVpn.Rust.Prefix
import NostrVpn.Rust.Vec

/-!
# Advertised routes

`nostr-vpn-core/src/network_routes.rs`. A normalised route is the printed form of a prefix, so equal
texts and equal prefixes are the same thing.
-/
namespace NostrVpn.Core

open Rust Rust.Net

def normalizeAdvertisedRoute (value : String) : Option String := do
  let (addr, bits) ← splitOnce '/' (trim value)
  let addr ← IpAddr.parse (trim addr)
  let bits ← parseUnsigned 255 (trim bits)
  if addr.width < bits then none else some ((addr.mask bits).fmt ++ "/" ++ fmtNat bits)

/-- The loop of the two functions that collect routes: what does not normalise or is not kept is
skipped, and a route is pushed once. -/
def normalizeRoutes (keep : String → Bool) (routes : List String) : List String :=
  (routes.filterMap fun route => (normalizeAdvertisedRoute route).filter keep).foldl pushUnique []

def normalizeAdvertisedRoutes (routes : List String) : List String :=
  normalizeRoutes (fun _ => true) routes

def exitNodeDefaultRoutes : List String := ["0.0.0.0/0", "::/0"]

def isExitNodeRoute (route : String) : Bool := route == "0.0.0.0/0" || route == "::/0"

def effectiveAdvertisedRoutes (routes : List String) (advertiseExitNode : Bool) : List String :=
  let effective := normalizeAdvertisedRoutes routes
  if advertiseExitNode then exitNodeDefaultRoutes.foldl pushUnique effective else effective

/-- A normalised route is a printed prefix. -/
theorem exists_prefix_of_normalizeAdvertisedRoute {value route : String}
    (h : normalizeAdvertisedRoute value = some route) : ∃ p : IpPrefix, route = p.fmt := by
  simp only [normalizeAdvertisedRoute, Option.bind_eq_bind, Option.bind_eq_some_iff] at h
  obtain ⟨⟨addr, bits⟩, -, addr, -, bits, -, h⟩ := h
  split_ifs at h with fits
  have text := Option.some.inj h
  refine ⟨⟨addr.mask bits, bits, by simpa using Nat.not_lt.mp fits, by simp⟩, text.symm⟩

theorem mem_normalizeRoutes {keep : String → Bool} {routes : List String} {r : String} :
    r ∈ normalizeRoutes keep routes ↔
      keep r ∧ ∃ value ∈ routes, normalizeAdvertisedRoute value = some r := by
  rw [normalizeRoutes, mem_foldl_pushUnique]
  simp only [List.not_mem_nil, false_or, List.mem_filterMap, Option.filter_eq_some_iff]
  exact ⟨fun ⟨v, hv, eq, kept⟩ => ⟨kept, v, hv, eq⟩, fun ⟨kept, v, hv, eq⟩ => ⟨v, hv, eq, kept⟩⟩

example : normalizeAdvertisedRoute " 10.1.2.3 / 8" = some "10.0.0.0/8" := by decide

end NostrVpn.Core
