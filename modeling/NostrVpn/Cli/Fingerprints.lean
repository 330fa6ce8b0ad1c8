import NostrVpn.Cli.SessionState
import NostrVpn.Cli.TunnelFingerprint
import NostrVpn.Rust.JoinedTexts

/-!
# The states that a fingerprint determines

The fingerprints of `nostr-vpn-cli/src/main.rs` by which an update is skipped are texts joined from texts. For
each of them, exactly the states are found whose text no other state has.
-/
namespace NostrVpn.Cli

open Rust Rust.Net NostrVpn.Core

/-! ## Bars -/

theorem exists_bar {s : String} (mem : '|' ∈ s.toList) : ∃ head tail, s = head ++ "|" ++ tail := by
  obtain ⟨head, tail, cut, -⟩ := exists_cut mem
  exact ⟨head, tail, cut⟩

theorem noBar {s : String} (other : ∀ head tail, s ≠ head ++ "|" ++ tail) : '|' ∉ s.toList := by
  intro mem
  obtain ⟨head, tail, cut⟩ := exists_bar mem
  exact other head tail cut

theorem ne_cut {head tail sep : String} (nonempty : sep ≠ "") : head ≠ head ++ sep ++ tail := by
  intro same
  rw [String.append_assoc, ← String.toList_inj, String.toList_append] at same
  have rest := congrArg List.length same
  have some' : sep.toList.length ≠ 0 := by simpa using nonempty
  simp only [String.toList_append, List.length_append] at rest
  omega

theorem bar_notMem_fmtNat (n : Nat) : '|' ∉ (fmtNat n).toList := by
  intro mem
  rw [fmtNat, String.toList_ofList] at mem
  have digit := @toDigit_of_mem_fmtRadix 10 (by decide) (by decide) n '|' mem
  exact absurd digit (by decide)

theorem pieces_eq {l l' : List String} (clean : ∀ piece ∈ l, '|' ∉ piece.toList) (eq : join "|" l' = join "|" l)
    (length : l'.length = l.length) : l' = l := join_eq_join_of_length clean length eq

theorem eq_some_of_getD {α : Type} {o : Option α} {default x : α} (value : o.getD default = x) (ne : x ≠ default) :
    o = some x := by
  cases o with
  | none => exact absurd value.symm ne
  | some y => exact congrArg some value

/-! ## Announcements -/

/-- Every announcement with the text of this one is this one, up to the time. -/
def DeterminesAnnouncement (a : PeerAnnouncement) : Prop :=
  ∀ b, announcementFingerprint b = announcementFingerprint a → { b with timestamp := a.timestamp } = a

/-- No text has a bar, every optional field is present and not the default it is rendered by, and there is one
route. -/
structure SeparatedAnnouncement (a : PeerAnnouncement) : Prop where
  nodeId : '|' ∉ a.nodeId.toList
  publicKey : '|' ∉ a.publicKey.toList
  endpoint : '|' ∉ a.endpoint.toList
  localEndpoint : ∃ t ∈ a.localEndpoint, t ≠ "" ∧ '|' ∉ t.toList
  publicEndpoint : ∃ t ∈ a.publicEndpoint, t ≠ "" ∧ '|' ∉ t.toList
  relayEndpoint : ∃ t ∈ a.relayEndpoint, t ≠ "" ∧ '|' ∉ t.toList
  relayPubkey : ∃ t ∈ a.relayPubkey, t ≠ "" ∧ '|' ∉ t.toList
  relayExpiresAt : ∃ n ∈ a.relayExpiresAt, n ≠ 0
  tunnelIp : '|' ∉ a.tunnelIp.toList
  advertisedRoutes : ∃ t, a.advertisedRoutes = [t] ∧ t ≠ "" ∧ ',' ∉ t.toList ∧ '|' ∉ t.toList

def announcementPieces (a : PeerAnnouncement) : List String :=
  [a.nodeId, a.publicKey, a.endpoint, a.localEndpoint.getD "", a.publicEndpoint.getD "", a.relayEndpoint.getD "",
    a.relayPubkey.getD "", fmtNat (a.relayExpiresAt.getD 0), a.tunnelIp, join "," a.advertisedRoutes]

theorem SeparatedAnnouncement.determines {a : PeerAnnouncement} (separated : SeparatedAnnouncement a) :
    DeterminesAnnouncement a := by
  intro b same
  obtain ⟨localEndpoint, isLocal, local', localBar⟩ := separated.localEndpoint
  obtain ⟨publicEndpoint, isPublic, public', publicBar⟩ := separated.publicEndpoint
  obtain ⟨relayEndpoint, isRelay, relay', relayBar⟩ := separated.relayEndpoint
  obtain ⟨relayPubkey, isPubkey, pubkey', pubkeyBar⟩ := separated.relayPubkey
  obtain ⟨expiresAt, isExpires, expires'⟩ := separated.relayExpiresAt
  obtain ⟨route, routes, route', routeComma, routeBar⟩ := separated.advertisedRoutes
  have clean : ∀ s ∈ announcementPieces a, '|' ∉ s.toList := by
    simp [announcementPieces, separated.nodeId, separated.publicKey, separated.endpoint, separated.tunnelIp,
      Option.mem_def.mp isLocal, Option.mem_def.mp isPublic, Option.mem_def.mp isRelay,
      Option.mem_def.mp isPubkey, localBar, publicBar, relayBar, pubkeyBar, bar_notMem_fmtNat, routes, routeBar, join]
  have pieces : announcementPieces b = announcementPieces a := pieces_eq clean same rfl
  simp only [announcementPieces, List.cons.injEq, and_true] at pieces
  obtain ⟨nodeId, publicKey, endpoint, localText, publicText, relayText, pubkeyText, expiresText, tunnelIp,
    routesText⟩ := pieces
  rw [Option.mem_def.mp isLocal] at localText
  rw [Option.mem_def.mp isPublic] at publicText
  rw [Option.mem_def.mp isRelay] at relayText
  rw [Option.mem_def.mp isPubkey] at pubkeyText
  rw [Option.mem_def.mp isExpires] at expiresText
  rw [routes] at routesText
  have sameLocal := eq_some_of_getD localText local'
  have samePublic := eq_some_of_getD publicText public'
  have sameRelay := eq_some_of_getD relayText relay'
  have samePubkey := eq_some_of_getD pubkeyText pubkey'
  have sameExpires := eq_some_of_getD (fmtNat_injective expiresText) expires'
  have sameRoutes : b.advertisedRoutes = [route] := eq_singleton_of_join routeComma route' routesText
  cases a
  cases b
  simp_all

/-- An optional text that can be told from an absent one and from its neighbours. -/
theorem exists_present {o : Option String} (present : o ≠ none) (nonempty : o ≠ some "")
    (clean : ∀ head tail, o ≠ some (head ++ "|" ++ tail)) : ∃ t ∈ o, t ≠ "" ∧ '|' ∉ t.toList := by
  cases o with
  | none => exact absurd rfl present
  | some t => exact ⟨t, rfl, fun empty => nonempty (congrArg some empty),
      noBar fun head tail cut => clean head tail (congrArg some cut)⟩

theorem DeterminesAnnouncement.separated {a : PeerAnnouncement} (determines : DeterminesAnnouncement a) :
    SeparatedAnnouncement a where
  nodeId := noBar fun head tail cut => by
    have same := determines { a with nodeId := head, publicKey := tail ++ "|" ++ a.publicKey }
      (by simp [announcementFingerprint, join, cut, String.append_assoc])
    exact ne_cut (by decide) ((congrArg PeerAnnouncement.nodeId same).trans cut)
  publicKey := noBar fun head tail cut => by
    have same := determines { a with publicKey := head, endpoint := tail ++ "|" ++ a.endpoint }
      (by simp [announcementFingerprint, join, cut, String.append_assoc])
    exact ne_cut (by decide) ((congrArg PeerAnnouncement.publicKey same).trans cut)
  endpoint := noBar fun head tail cut => by
    have same := determines
      { a with endpoint := head, localEndpoint := some (tail ++ "|" ++ a.localEndpoint.getD "") }
      (by simp [announcementFingerprint, join, cut, String.append_assoc])
    exact ne_cut (by decide) ((congrArg PeerAnnouncement.endpoint same).trans cut)
  localEndpoint := by
    refine exists_present (fun absent => ?_) (fun empty => ?_) fun head tail cut => ?_
    · have same := determines { a with localEndpoint := some "" } (by simp [announcementFingerprint, absent])
      simpa [absent] using congrArg PeerAnnouncement.localEndpoint same
    · have same := determines { a with localEndpoint := none } (by simp [announcementFingerprint, empty])
      simpa [empty] using congrArg PeerAnnouncement.localEndpoint same
    · have same := determines
        { a with localEndpoint := some head, publicEndpoint := some (tail ++ "|" ++ a.publicEndpoint.getD "") }
        (by simp [announcementFingerprint, join, cut, String.append_assoc])
      exact ne_cut (by decide) (Option.some.inj ((congrArg PeerAnnouncement.localEndpoint same).trans cut))
  publicEndpoint := by
    refine exists_present (fun absent => ?_) (fun empty => ?_) fun head tail cut => ?_
    · have same := determines { a with publicEndpoint := some "" } (by simp [announcementFingerprint, absent])
      simpa [absent] using congrArg PeerAnnouncement.publicEndpoint same
    · have same := determines { a with publicEndpoint := none } (by simp [announcementFingerprint, empty])
      simpa [empty] using congrArg PeerAnnouncement.publicEndpoint same
    · have same := determines
        { a with publicEndpoint := some head, relayEndpoint := some (tail ++ "|" ++ a.relayEndpoint.getD "") }
        (by simp [announcementFingerprint, join, cut, String.append_assoc])
      exact ne_cut (by decide) (Option.some.inj ((congrArg PeerAnnouncement.publicEndpoint same).trans cut))
  relayEndpoint := by
    refine exists_present (fun absent => ?_) (fun empty => ?_) fun head tail cut => ?_
    · have same := determines { a with relayEndpoint := some "" } (by simp [announcementFingerprint, absent])
      simpa [absent] using congrArg PeerAnnouncement.relayEndpoint same
    · have same := determines { a with relayEndpoint := none } (by simp [announcementFingerprint, empty])
      simpa [empty] using congrArg PeerAnnouncement.relayEndpoint same
    · have same := determines
        { a with relayEndpoint := some head, relayPubkey := some (tail ++ "|" ++ a.relayPubkey.getD "") }
        (by simp [announcementFingerprint, join, cut, String.append_assoc])
      exact ne_cut (by decide) (Option.some.inj ((congrArg PeerAnnouncement.relayEndpoint same).trans cut))
  relayPubkey := by
    -- the next piece is a number, so a bar moves the front of the key into the endpoint before it
    refine exists_present (fun absent => ?_) (fun empty => ?_) fun head tail cut => ?_
    · have same := determines { a with relayPubkey := some "" } (by simp [announcementFingerprint, absent])
      simpa [absent] using congrArg PeerAnnouncement.relayPubkey same
    · have same := determines { a with relayPubkey := none } (by simp [announcementFingerprint, empty])
      simpa [empty] using congrArg PeerAnnouncement.relayPubkey same
    · have same := determines
        { a with relayEndpoint := some (a.relayEndpoint.getD "" ++ "|" ++ head), relayPubkey := some tail }
        (by simp [announcementFingerprint, join, cut, String.append_assoc])
      have key := Option.some.inj ((congrArg PeerAnnouncement.relayPubkey same).trans cut)
      have lengths := congrArg String.length key
      simp at lengths
  relayExpiresAt := by
    cases expires : a.relayExpiresAt with
    | none =>
      have same := determines { a with relayExpiresAt := some 0 } (by simp [announcementFingerprint, expires])
      simpa [expires] using congrArg PeerAnnouncement.relayExpiresAt same
    | some n =>
      refine ⟨n, rfl, fun zero => ?_⟩
      have same := determines { a with relayExpiresAt := none } (by simp [announcementFingerprint, expires, zero])
      simpa [expires] using congrArg PeerAnnouncement.relayExpiresAt same
  tunnelIp := noBar fun head tail cut => by
    have same := determines
      { a with tunnelIp := head, advertisedRoutes := [tail ++ "|" ++ join "," a.advertisedRoutes] }
      (by simp [announcementFingerprint, join, cut, String.append_assoc])
    exact ne_cut (by decide) ((congrArg PeerAnnouncement.tunnelIp same).trans cut)
  advertisedRoutes := by
    have single : ∃ t, a.advertisedRoutes = [t] ∧ t ≠ "" ∧ ',' ∉ t.toList := by
      by_contra other
      obtain ⟨routes, text, ne⟩ := exists_other_list other
      have text : join "," routes = join "," a.advertisedRoutes := text
      have same := determines { a with advertisedRoutes := routes } (by simp [announcementFingerprint, text])
      exact ne (congrArg PeerAnnouncement.advertisedRoutes same)
    obtain ⟨route, routes, nonempty, comma⟩ := single
    refine ⟨route, routes, nonempty, comma, noBar fun head tail cut => ?_⟩
    subst cut
    have same := determines { a with tunnelIp := a.tunnelIp ++ "|" ++ head, advertisedRoutes := [tail] }
      (by simp [announcementFingerprint, join, routes, String.append_assoc])
    exact ne_cut (by decide) (congrArg PeerAnnouncement.tunnelIp same).symm

theorem determinesAnnouncement_iff (a : PeerAnnouncement) : DeterminesAnnouncement a ↔ SeparatedAnnouncement a :=
  ⟨DeterminesAnnouncement.separated, SeparatedAnnouncement.determines⟩

/-! ## Tunnels -/

/-- What `tunnel_fingerprint` reads. -/
structure TunnelInput where
  iface : String
  privateKey : String
  listenPort : UInt16
  localAddress : String
  peers : List TunnelPeer

def peerEntries (peers : List TunnelPeer) : String := join ";" (sort (peers.map peerEntry))

namespace TunnelInput

def fingerprint (s : TunnelInput) : String :=
  tunnelFingerprint s.iface s.privateKey s.listenPort s.localAddress s.peers

/-- Equal up to the order of the peers. -/
structure Same (s t : TunnelInput) : Prop where
  iface : s.iface = t.iface
  privateKey : s.privateKey = t.privateKey
  listenPort : s.listenPort = t.listenPort
  localAddress : s.localAddress = t.localAddress
  peers : ∀ peer, peer ∈ s.peers ↔ peer ∈ t.peers

/-- Every tunnel with the text of this one is this one. -/
def Determines (s : TunnelInput) : Prop := ∀ t : TunnelInput, t.fingerprint = s.fingerprint → t.Same s

/-- No peer, and an address that leaves no doubt where the port is. -/
structure WithoutPeers (s : TunnelInput) : Prop where
  peers : s.peers = []
  localAddress : '|' ∉ s.localAddress.toList ∨ ∃ head tail, s.localAddress = head ++ "|" ++ tail ∧
    '|' ∉ head.toList ∧ '|' ∉ tail.toList ∧ ∀ port : UInt16, head ≠ fmtNat port.toNat

/-- One peer with one allowed address, and no bar in any text. -/
structure OfPeer (s : TunnelInput) (peer : TunnelPeer) (ip : String) : Prop where
  peers : s.peers = [peer]
  allowedIps : peer.allowedIps = [ip]
  localAddress : '|' ∉ s.localAddress.toList
  pubkeyHex : '|' ∉ peer.pubkeyHex.toList
  endpoint : '|' ∉ peer.endpoint.toList
  noBar : '|' ∉ ip.toList
  noComma : ',' ∉ ip.toList
  nonempty : ip ≠ ""

structure Separated (s : TunnelInput) : Prop where
  iface : '|' ∉ s.iface.toList
  privateKey : '|' ∉ s.privateKey.toList
  peers : s.WithoutPeers ∨ ∃ peer ip, s.OfPeer peer ip

def bars (s : String) : Nat := s.toList.count '|'

theorem bars_eq_zero {s : String} : bars s = 0 ↔ '|' ∉ s.toList := List.count_eq_zero

@[simp] theorem bars_append (s t : String) : bars (s ++ t) = bars s + bars t := by simp [bars]

@[simp] theorem bars_bar : bars "|" = 1 := by decide

@[simp] theorem bars_fmtNat (n : Nat) : bars (fmtNat n) = 0 := bars_eq_zero.mpr (bar_notMem_fmtNat n)

theorem bars_peerEntry (peer : TunnelPeer) : bars (peerEntry peer) =
    bars peer.pubkeyHex + bars peer.endpoint + bars (join "," peer.allowedIps) + 2 := by
  rw [peerEntry_eq]
  simp only [bars_append, bars_bar]
  omega

theorem mul_length_le_bars (peers : List TunnelPeer) : 2 * peers.length ≤ bars (peerEntries peers) := by
  have entries := @mul_length_le_count_join (sort (peers.map peerEntry)) '|' 2 ";" fun text listed => by
    obtain ⟨peer, -, rfl⟩ := mem_sortedEntries.mp listed
    exact (Nat.le_add_left ..).trans_eq (bars_peerEntry peer).symm
  rwa [(perm_sort _).length_eq, List.length_map] at entries

@[simp] theorem peerEntries_nil : peerEntries [] = "" := rfl

@[simp] theorem peerEntries_singleton (peer : TunnelPeer) : peerEntries [peer] = peerEntry peer := rfl

theorem fingerprint_eq (s : TunnelInput) : s.fingerprint =
    join "|" [s.iface, s.privateKey, fmtNat s.listenPort.toNat, s.localAddress, peerEntries s.peers] := by
  rw [fingerprint, tunnelFingerprint_eq]
  refine String.toList_inj.mp ?_
  simp [fingerprintHead, join, peerEntries, toString]

theorem bars_fingerprint (s : TunnelInput) : bars s.fingerprint =
    bars s.iface + bars s.privateKey + bars s.localAddress + bars (peerEntries s.peers) + 4 := by
  simp only [fingerprint_eq, join, bars_append, bars_bar, bars_fmtNat]
  omega

theorem peers_eq_nil {peers : List TunnelPeer} (few : bars (peerEntries peers) < 2) : peers = [] := by
  have entries := mul_length_le_bars peers
  have none' : peers.length = 0 := by omega
  exact List.length_eq_zero_iff.mp none'

theorem listenPort_eq {port port' : UInt16} (text : fmtNat port.toNat = fmtNat port'.toNat) : port = port' :=
  UInt16.toNat_inj.mp (fmtNat_injective text)

variable {s t : TunnelInput}

/-- The pieces of a text without peers. -/
theorem same_of_pieces (none' : s.peers = []) (noPeers : t.peers = []) (iface : t.iface = s.iface)
    (key : t.privateKey = s.privateKey) (port : fmtNat t.listenPort.toNat = fmtNat s.listenPort.toNat)
    (address : t.localAddress = s.localAddress) : t.Same s :=
  ⟨iface, key, listenPort_eq port, address, fun peer => by rw [none', noPeers]⟩

theorem WithoutPeers.determines (without : s.WithoutPeers) (iface : '|' ∉ s.iface.toList)
    (key : '|' ∉ s.privateKey.toList) (same : t.fingerprint = s.fingerprint) : t.Same s := by
  have counts := congrArg bars same
  have iface0 := bars_eq_zero.mpr iface
  have key0 := bars_eq_zero.mpr key
  have empty : bars "" = 0 := by decide
  rw [bars_fingerprint, bars_fingerprint, iface0, key0, without.peers, peerEntries_nil, empty] at counts
  rcases without.localAddress with clean | ⟨head, tail, cut, headBar, tailBar, noPort⟩
  · rw [bars_eq_zero.mpr clean] at counts
    have noPeers : t.peers = [] := peers_eq_nil (by omega)
    rw [fingerprint_eq, fingerprint_eq, without.peers, noPeers] at same
    have pieces := pieces_eq (by simp [iface, key, clean, bar_notMem_fmtNat]) same rfl
    simp only [List.cons.injEq, and_true] at pieces
    exact same_of_pieces without.peers noPeers pieces.1 pieces.2.1 pieces.2.2.1 pieces.2.2.2
  · rw [cut, bars_append, bars_append, bars_bar, bars_eq_zero.mpr headBar, bars_eq_zero.mpr tailBar] at counts
    have noPeers : t.peers = [] := peers_eq_nil (by omega)
    rw [noPeers, peerEntries_nil, empty] at counts
    have clean : ∀ piece ∈ [s.iface, s.privateKey, fmtNat s.listenPort.toNat, head, tail, ""],
        '|' ∉ piece.toList := by
      simp [iface, key, headBar, tailBar, bar_notMem_fmtNat]
    have text : s.fingerprint = join "|" [s.iface, s.privateKey, fmtNat s.listenPort.toNat, head, tail, ""] := by
      simp [fingerprint_eq, without.peers, cut, join, String.append_assoc]
    -- one of three texts has the bar, and only in the address it leaves the port where it is
    have bar : bars t.iface ≠ 0 ∨ bars t.privateKey ≠ 0 ∨ bars t.localAddress ≠ 0 := by omega
    simp only [ne_eq, bars_eq_zero, not_not] at bar
    rcases bar with mem | mem | mem
    · obtain ⟨front, back, cut'⟩ := exists_bar mem
      have text' : t.fingerprint =
          join "|" [front, back, t.privateKey, fmtNat t.listenPort.toNat, t.localAddress, ""] := by
        simp [fingerprint_eq, noPeers, cut', join, String.append_assoc]
      have pieces := pieces_eq clean (text'.symm.trans (same.trans text)) rfl
      simp only [List.cons.injEq] at pieces
      exact absurd pieces.2.2.2.1.symm (noPort t.listenPort)
    · obtain ⟨front, back, cut'⟩ := exists_bar mem
      have text' : t.fingerprint =
          join "|" [t.iface, front, back, fmtNat t.listenPort.toNat, t.localAddress, ""] := by
        simp [fingerprint_eq, noPeers, cut', join, String.append_assoc]
      have pieces := pieces_eq clean (text'.symm.trans (same.trans text)) rfl
      simp only [List.cons.injEq] at pieces
      exact absurd pieces.2.2.2.1.symm (noPort t.listenPort)
    · obtain ⟨front, back, cut'⟩ := exists_bar mem
      have text' : t.fingerprint =
          join "|" [t.iface, t.privateKey, fmtNat t.listenPort.toNat, front, back, ""] := by
        simp [fingerprint_eq, noPeers, cut', join, String.append_assoc]
      have pieces := pieces_eq clean (text'.symm.trans (same.trans text)) rfl
      simp only [List.cons.injEq, and_true] at pieces
      obtain ⟨iface, key, port, rfl, rfl⟩ := pieces
      exact same_of_pieces without.peers noPeers iface key port (cut'.trans cut.symm)

theorem OfPeer.determines {peer : TunnelPeer} {ip : String} (of : s.OfPeer peer ip)
    (iface : '|' ∉ s.iface.toList) (key : '|' ∉ s.privateKey.toList) (same : t.fingerprint = s.fingerprint) :
    t.Same s := by
  have text : s.fingerprint = join "|" [s.iface, s.privateKey, fmtNat s.listenPort.toNat, s.localAddress,
      peer.pubkeyHex, peer.endpoint, ip] := by
    simp [fingerprint_eq, of.peers, peerEntry_eq, of.allowedIps, join, String.append_assoc]
  have clean : ∀ piece ∈ [s.iface, s.privateKey, fmtNat s.listenPort.toNat, s.localAddress, peer.pubkeyHex,
      peer.endpoint, ip], '|' ∉ piece.toList := by
    simp [iface, key, of.localAddress, of.pubkeyHex, of.endpoint, of.noBar, bar_notMem_fmtNat]
  have last : (split '|' s.fingerprint).getLast? = some ip := by
    rw [text]
    exact congrArg List.getLast? (split_join (by simp) clean)
  have some' : t.peers ≠ [] := by
    intro noPeers
    have bare : split '|' t.fingerprint = split '|' (join "|" [t.iface, t.privateKey,
        fmtNat t.listenPort.toNat, t.localAddress]) ++ split '|' "" := by
      rw [← split_append_append, fingerprint_eq, noPeers]
      refine congrArg (split '|') ?_
      simp [join, String.append_assoc]
    rw [← same, bare] at last
    exact of.nonempty (by simpa [split, splitChars] using last.symm)
  have counts := congrArg bars same
  have bars0 : bars s.iface = 0 ∧ bars s.privateKey = 0 ∧ bars s.localAddress = 0 ∧
      bars (peerEntries s.peers) = 2 := by
    simp [of.peers, bars_peerEntry, of.allowedIps, join, bars_eq_zero, iface, key, of.localAddress,
      of.pubkeyHex, of.endpoint, of.noBar]
  have length := mul_length_le_bars t.peers
  have positive := List.length_pos_iff.mpr some'
  rw [bars_fingerprint, bars_fingerprint] at counts
  obtain ⟨peer', only⟩ := List.length_eq_one_iff.mp (by omega : t.peers.length = 1)
  have text' : t.fingerprint = join "|" [t.iface, t.privateKey, fmtNat t.listenPort.toNat, t.localAddress,
      peer'.pubkeyHex, peer'.endpoint, join "," peer'.allowedIps] := by
    simp [fingerprint_eq, only, peerEntry_eq, join, String.append_assoc]
  have pieces := pieces_eq clean (text'.symm.trans (same.trans text)) rfl
  simp only [List.cons.injEq, and_true] at pieces
  obtain ⟨iface, key, port, address, pubkeyHex, endpoint, ips⟩ := pieces
  have allowedIps : peer'.allowedIps = [ip] := eq_singleton_of_join of.noComma of.nonempty ips
  have samePeer : peer' = peer := by
    have given := of.allowedIps
    cases peer
    cases peer'
    simp_all
  refine ⟨iface, key, listenPort_eq port, address, fun other => ?_⟩
  rw [only, of.peers, samePeer]

theorem Separated.determines (separated : s.Separated) : s.Determines := by
  intro t same
  rcases separated.peers with without | ⟨peer, ip, of⟩
  · exact without.determines separated.iface separated.privateKey same
  · exact of.determines separated.iface separated.privateKey same

/-- A text with three bars in four parts. -/
theorem exists_three_bars {text : String} (three : 3 ≤ bars text) :
    ∃ a b c d, text = a ++ "|" ++ b ++ "|" ++ c ++ "|" ++ d := by
  have cut {text : String} {n : Nat} (more : n + 1 ≤ bars text) :
      ∃ head tail, text = head ++ "|" ++ tail ∧ n ≤ bars tail := by
    have mem : '|' ∈ text.toList := List.count_pos_iff.mp (by unfold bars at more; omega)
    obtain ⟨head, tail, eq, clean⟩ := exists_cut mem
    refine ⟨head, tail, eq, ?_⟩
    have eq : text = head ++ "|" ++ tail := eq
    rw [eq, bars_append, bars_append, bars_bar, bars_eq_zero.mpr clean] at more
    omega
  obtain ⟨a, rest, rfl, two⟩ := cut three
  obtain ⟨b, rest, rfl, one⟩ := cut two
  obtain ⟨c, d, rfl, -⟩ := cut one
  exact ⟨a, b, c, d, by simp only [String.append_assoc]⟩

theorem Determines.withoutPeers (determines : s.Determines) (empty : s.peers = []) : s.WithoutPeers := by
  refine ⟨empty, ?_⟩
  by_cases clean : '|' ∉ s.localAddress.toList
  · exact Or.inl clean
  · obtain ⟨head, tail, cut, headBar⟩ := exists_cut (not_not.mp clean)
    have cut : s.localAddress = head ++ "|" ++ tail := cut
    refine Or.inr ⟨head, tail, cut, headBar, noBar fun middle rest cut' => ?_, fun port numeral => ?_⟩
    · have same := determines { s with localAddress := head, peers := [⟨middle, rest, []⟩] }
        (by simp [fingerprint_eq, empty, peerEntry_eq, cut, cut', join, String.append_assoc])
      exact absurd ((same.peers _).mp List.mem_cons_self) (by simp [empty])
    · have same := determines { s with
          privateKey := s.privateKey ++ "|" ++ fmtNat s.listenPort.toNat, listenPort := port, localAddress := tail }
        (by simp [fingerprint_eq, empty, cut, numeral, join, String.append_assoc])
      exact ne_cut (by decide) same.privateKey.symm

theorem Determines.ofPeer (determines : s.Determines) (some' : s.peers ≠ []) : ∃ peer ip, s.OfPeer peer ip := by
  have length := mul_length_le_bars s.peers
  have positive := List.length_pos_iff.mpr some'
  have two : bars (peerEntries s.peers) = 2 := by
    by_contra other
    obtain ⟨a, b, c, d, entries⟩ := exists_three_bars (by omega : 3 ≤ bars (peerEntries s.peers))
    have same := determines { s with localAddress := s.localAddress ++ "|" ++ a, peers := [⟨b, c, [d]⟩] }
      (by simp [fingerprint_eq, entries, peerEntry_eq, join, String.append_assoc])
    exact ne_cut (by decide) same.localAddress.symm
  obtain ⟨peer, only⟩ := List.length_eq_one_iff.mp (by omega : s.peers.length = 1)
  rw [only, peerEntries_singleton, bars_peerEntry] at two
  have single : ∃ ip, peer.allowedIps = [ip] ∧ ip ≠ "" ∧ ',' ∉ ip.toList := by
    by_contra other
    obtain ⟨ips, text, ne⟩ := exists_other_list other
    have text : join "," ips = join "," peer.allowedIps := text
    have same := determines { s with peers := [{ peer with allowedIps := ips }] }
      (by simp [fingerprint_eq, only, peerEntry_eq, text])
    have listed := (same.peers _).mp List.mem_cons_self
    rw [only, List.mem_singleton] at listed
    exact ne (congrArg TunnelPeer.allowedIps listed)
  obtain ⟨ip, ips, nonempty, noComma⟩ := single
  have text : bars (join "," peer.allowedIps) = bars ip := by rw [ips]; rfl
  refine ⟨peer, ip, only, ips, noBar fun head tail cut => ?_, bars_eq_zero.mp (by omega),
    bars_eq_zero.mp (by omega), bars_eq_zero.mp (by omega), noComma, nonempty⟩
  have same := determines { s with
      localAddress := head, peers := [⟨tail, peer.pubkeyHex, [peer.endpoint ++ "|" ++ ip]⟩] }
    (by simp [fingerprint_eq, only, ips, peerEntry_eq, cut, join, String.append_assoc])
  exact ne_cut (by decide) (same.localAddress.trans cut)

theorem Determines.separated (determines : s.Determines) : s.Separated where
  iface := noBar fun head tail cut => by
    have same := determines { s with iface := head, privateKey := tail ++ "|" ++ s.privateKey }
      (by simp [fingerprint_eq, cut, join, String.append_assoc])
    exact ne_cut (by decide) (same.iface.trans cut)
  privateKey := noBar fun head tail cut => by
    have same := determines { s with iface := s.iface ++ "|" ++ head, privateKey := tail }
      (by simp [fingerprint_eq, cut, join, String.append_assoc])
    exact ne_cut (by decide) same.iface.symm
  peers := by
    by_cases empty : s.peers = []
    · exact Or.inl (determines.withoutPeers empty)
    · exact Or.inr (determines.ofPeer empty)

theorem determines_iff (s : TunnelInput) : s.Determines ↔ s.Separated :=
  ⟨Determines.separated, Separated.determines⟩

end TunnelInput

/-! ## Routes -/

/-- Every base and every list of targets with this text are this base and these targets. -/
def DeterminesRoutes (base : String) (routeTargets : List String) : Prop :=
  ∀ base' routeTargets', tunnelRuntimeFingerprint base' routeTargets' = tunnelRuntimeFingerprint base routeTargets →
    base' = base ∧ ∀ target, target ∈ routeTargets' ↔ target ∈ routeTargets

def MarkerFree (text : String) : Prop := ∀ front back, text ≠ front ++ "|routes=" ++ back

/-- The marker is in neither part, and there is one target that cannot be cut into sorted ones. -/
structure SeparatedRoutes (base : String) (routeTargets : List String) : Prop where
  base : MarkerFree base
  targets : ∃ target, routeTargets = [target] ∧ target ≠ "" ∧ CutsDescend ',' target ∧ MarkerFree target

theorem tunnelRuntimeFingerprint_eq (base : String) (routeTargets : List String) :
    tunnelRuntimeFingerprint base routeTargets = base ++ "|routes=" ++ join "," (sort routeTargets) := by
  refine String.toList_inj.mp ?_
  simp [tunnelRuntimeFingerprint, toString]

theorem MarkerFree.chars {text : String} (free : MarkerFree text) (pre post : List Char) :
    text.toList ≠ pre ++ '|' :: "routes=".toList ++ post := by
  intro eq
  refine free (.ofList pre) (.ofList post) (String.toList_inj.mp ?_)
  rw [eq]
  simp

theorem SeparatedRoutes.determines {base : String} {routeTargets : List String}
    (separated : SeparatedRoutes base routeTargets) : DeterminesRoutes base routeTargets := by
  intro base' routeTargets' same
  obtain ⟨target, rfl, nonempty, descend, free⟩ := separated.targets
  rw [tunnelRuntimeFingerprint_eq, tunnelRuntimeFingerprint_eq, ← String.toList_inj] at same
  have text : join "," (sort [target]) = target := rfl
  simp only [text, String.toList_append] at same
  have own : '|' ∉ "routes=".toList := by decide
  obtain ⟨front, back⟩ := cut_at_marker own separated.base.chars free.chars same
  have targets := eq_singleton_of_join_sort nonempty descend (String.toList_inj.mp back)
  exact ⟨String.toList_inj.mp front, fun other => by rw [targets]⟩

theorem DeterminesRoutes.separated {base : String} {routeTargets : List String}
    (determines : DeterminesRoutes base routeTargets) : SeparatedRoutes base routeTargets := by
  have single : ∃ target, routeTargets = [target] ∧ target ≠ "" ∧ CutsDescend ',' target := by
    by_contra other
    obtain ⟨targets, text, ne⟩ := exists_other_sorted other
    have text : join "," (sort targets) = join "," (sort routeTargets) := text
    exact ne (determines base targets (by rw [tunnelRuntimeFingerprint_eq, tunnelRuntimeFingerprint_eq, text])).2
  obtain ⟨target, rfl, nonempty, descend⟩ := single
  refine ⟨fun front back cut => ?_, target, rfl, nonempty, descend, fun front back cut => ?_⟩
  · have same := determines front [back ++ "|routes=" ++ target]
      (by simp [tunnelRuntimeFingerprint_eq, cut, sort, join, String.append_assoc])
    exact ne_cut (by decide) (same.1.trans cut)
  · have same := determines (base ++ "|routes=" ++ front) [back]
      (by simp [tunnelRuntimeFingerprint_eq, cut, sort, join, String.append_assoc])
    exact ne_cut (by decide) same.1.symm

theorem determinesRoutes_iff (base : String) (routeTargets : List String) :
    DeterminesRoutes base routeTargets ↔ SeparatedRoutes base routeTargets :=
  ⟨DeterminesRoutes.separated, SeparatedRoutes.determines⟩

/-! ## Fingerprints -/

/-- Which announcements, tunnels and routes their fingerprints determine among all others, and that a tunnel and
its routes are determined together when each is. -/
theorem fingerprint_determines_iff (a : PeerAnnouncement) (s : TunnelInput) (base : String)
    (routeTargets : List String) :
    (DeterminesAnnouncement a ↔ SeparatedAnnouncement a) ∧ (s.Determines ↔ s.Separated) ∧
    (DeterminesRoutes base routeTargets ↔ SeparatedRoutes base routeTargets) ∧
    (s.Separated → SeparatedRoutes s.fingerprint routeTargets → ∀ (t : TunnelInput) (routeTargets' : List String),
      tunnelRuntimeFingerprint t.fingerprint routeTargets' = tunnelRuntimeFingerprint s.fingerprint routeTargets →
        t.Same s ∧ ∀ target, target ∈ routeTargets' ↔ target ∈ routeTargets) := by
  refine ⟨determinesAnnouncement_iff a, s.determines_iff, determinesRoutes_iff base routeTargets, ?_⟩
  intro tunnel routes t routeTargets' same
  obtain ⟨bases, targets⟩ := routes.determines _ _ same
  exact ⟨tunnel.determines t bases, targets⟩

def barredAnnouncement : PeerAnnouncement where
  nodeId := "node|key"
  publicKey := "public"
  endpoint := "203.0.113.20:51820"
  tunnelIp := "10.44.0.2/32"
  timestamp := 1

/-- A bar in a text, a comma in a route and a comma in an allowed address are read as separators. -/
theorem fingerprints_are_not_injective :
    ¬ ((∀ a, DeterminesAnnouncement a) ∧ (∀ s : TunnelInput, s.Determines) ∧
      ∀ base routeTargets, DeterminesRoutes base routeTargets) ∧
    (¬ ∀ a, DeterminesAnnouncement a) ∧ (¬ ∀ s : TunnelInput, s.Determines) ∧
      ¬ ∀ base routeTargets, DeterminesRoutes base routeTargets := by
  have announcements : ¬ ∀ a, DeterminesAnnouncement a := by
    intro all
    have same := all barredAnnouncement { barredAnnouncement with nodeId := "node", publicKey := "key|public" }
      (by decide +kernel)
    exact absurd (congrArg PeerAnnouncement.nodeId same) (by decide)
  have tunnels : ¬ ∀ s : TunnelInput, s.Determines := by
    intro all
    have same := all ⟨"utun100", "key", 51820, "10.44.0.1/32", [⟨"peer", "endpoint", ["10.44.0.2/32,10.55.0.0/24"]⟩]⟩
      ⟨"utun100", "key", 51820, "10.44.0.1/32", [⟨"peer", "endpoint", ["10.44.0.2/32", "10.55.0.0/24"]⟩]⟩
      (by decide +kernel)
    exact absurd ((same.peers _).mp List.mem_cons_self) (by decide)
  have routes : ¬ ∀ base routeTargets, DeterminesRoutes base routeTargets := by
    intro all
    have same := all "base" [] "base" [""] (by decide +kernel)
    exact absurd ((same.2 "").mp List.mem_cons_self) (by simp)
  exact ⟨fun all => announcements all.1, announcements, tunnels, routes⟩

end NostrVpn.Cli
