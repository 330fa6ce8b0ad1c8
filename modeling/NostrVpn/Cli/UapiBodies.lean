import NostrVpn.Cli.CryptokeyRouting
import NostrVpn.Cli.PlanIsolation
import NostrVpn.WireGuard.Uapi

/-!
# The configuration requests of a plan

`nostr-vpn-cli/src/main.rs`: applying a plan empties the peer table and then sends one request for each
peer, built by string concatenation from announced texts. The device ends up with exactly the plan
when every announced tunnel address is an address and no two peers announce one key.
-/
namespace NostrVpn.Cli

open Rust Rust.Net NostrVpn.Core WireGuard

/-- `hex::encode` writes two lowercase digits for each byte. -/
structure KeyCodec.Lawful (codec : KeyCodec) : Prop where
  encode_hex : ∀ bytes, codec.encodeHex bytes = .ofList (WireGuard.encodeHex bytes)

theorem sampleCodec_lawful : sampleCodec.Lawful := ⟨fun _ => rfl⟩

/-- The text that `wg_set` writes. -/
def wgSetText (body : String) : String := s!"set=1\n{body}\n\n"

/-- The body for one peer. -/
def peerBody (peer : TunnelPeer) : String :=
  let body := s!"public_key={peer.pubkeyHex}\nendpoint={peer.endpoint}\nreplace_allowed_ips=true"
  let body := peer.allowedIps.foldl (fun body allowedIp => body ++ s!"\nallowed_ip={allowedIp}") body
  body ++ "\npersistent_keepalive_interval=5"

/-- The bodies that an apply sends after the listen port is set. -/
def uapiBodies (peers : List TunnelPeer) : List String := "replace_peers=true" :: peers.map peerBody

def setAll (device : Device) (bodies : List String) : Except Device Device :=
  bodies.foldlM (fun device body => device.set (wgSetText body)) device

/-! ## One body -/

/-- What planning makes of a peer: only the announced tunnel address is a text of the announcer. -/
structure Shape (peer : TunnelPeer) (config : PeerConfig) (ip : String) (routes : List String) :
    Prop where
  pubkeyHex : peer.pubkeyHex = config.key.fmt
  endpoint : peer.endpoint = config.addr.fmt
  allowedIps : peer.allowedIps = (ip ++ "/32") :: routes
  prefixes : config.allowedIps = peerPrefixes peer
  slash : '/' ∉ ip.toList
  route : ∀ r ∈ routes, (IpPrefix.ofText r).isSome

variable {peer : TunnelPeer} {config : PeerConfig} {ip : String} {routes : List String}

def bodyLines (peer : TunnelPeer) : List String :=
  ["public_key=" ++ peer.pubkeyHex, "endpoint=" ++ peer.endpoint, "replace_allowed_ips=true"] ++
    ((peer.allowedIps.map fun ip => "allowed_ip=" ++ ip) ++ ["persistent_keepalive_interval=5"])

theorem append_foldl (pre text : String) (ips : List String) :
    pre ++ ips.foldl (fun body ip => body ++ s!"\nallowed_ip={ip}") text =
      (ips.map fun ip => "allowed_ip=" ++ ip).foldl (fun text piece => text ++ "\n" ++ piece)
        (pre ++ text) := by
  induction ips generalizing text with
  | nil => rfl
  | cons ip ips ih =>
    have line : s!"\nallowed_ip={ip}" = "\n" ++ ("allowed_ip=" ++ ip) := by
      rw [← String.append_assoc]
      rfl
    rw [List.foldl_cons, ih, List.map_cons, List.foldl_cons, line]
    simp only [String.append_assoc]

theorem wgSetText_eq_join (peer : TunnelPeer) :
    wgSetText (peerBody peer) = join "\n" ("set=1" :: (bodyLines peer ++ ["", ""])) := by
  have head : "set=1\n" ++ s!"public_key={peer.pubkeyHex}\nendpoint={peer.endpoint}\nreplace_allowed_ips=true"
      = "set=1" ++ "\n" ++ ("public_key=" ++ peer.pubkeyHex) ++ "\n" ++
        ("endpoint=" ++ peer.endpoint) ++ "\n" ++ "replace_allowed_ips=true" := by
    refine String.toList_inj.mp ?_
    simp [toString]
  rw [join_eq_foldl, bodyLines, List.append_assoc, List.append_assoc, List.foldl_append,
    List.foldl_append, List.foldl_append]
  simp only [List.foldl_cons, List.foldl_nil]
  rw [← head, ← append_foldl]
  refine String.toList_inj.mp ?_
  simp [wgSetText, peerBody, toString]

theorem Shape.notMem_pubkeyHex (shape : Shape peer config ip routes) {c : Char}
    (h : (toDigit 16 c).isSome = false) : c ∉ peer.pubkeyHex.toList := by
  rw [shape.pubkeyHex, Key.fmt, String.toList_ofList]
  intro mem
  simp [hexDigit_of_mem_encodeHex mem] at h

theorem Shape.notMem_endpoint (shape : Shape peer config ip routes) {c : Char}
    (h : isAddressChar c = false) : c ∉ peer.endpoint.toList := by
  rw [shape.endpoint]
  intro mem
  simp [isAddressChar_of_socketAddr (SocketAddr.parse_fmt config.addr) c mem] at h

/-- Without a line break in the announced address, no line of the request has one. -/
theorem Shape.newline_notMem (shape : Shape peer config ip routes) (clean : '\n' ∉ ip.toList) :
    ∀ line ∈ "set=1" :: (bodyLines peer ++ ["", ""]), '\n' ∉ line.toList := by
  have key : '\n' ∉ peer.pubkeyHex.toList := shape.notMem_pubkeyHex (by decide)
  have endpoint : '\n' ∉ peer.endpoint.toList := shape.notMem_endpoint (by decide)
  have allowed : ∀ text ∈ peer.allowedIps, '\n' ∉ text.toList := by
    rw [shape.allowedIps]
    intro text mem
    rcases List.mem_cons.mp mem with rfl | mem
    · simpa using clean
    · obtain ⟨p, parsed⟩ := Option.isSome_iff_exists.mp (shape.route text mem)
      exact notMem_of_prefix parsed (by decide) (by decide) (by decide)
  intro line mem
  simp only [bodyLines, List.mem_cons, List.mem_append, List.mem_map, List.not_mem_nil,
    or_false] at mem
  rcases mem with rfl | ((rfl | rfl | rfl) | ⟨text, mem, rfl⟩ | rfl) | rfl | rfl
  · decide
  · simpa using key
  · simpa using endpoint
  · decide
  · simpa using allowed text mem
  · decide
  · decide
  · decide

theorem Shape.bodyLines_eq (shape : Shape peer config ip routes) :
    bodyLines peer = Device.peerLines config.key config.addr peer.allowedIps 5 := by
  rw [bodyLines, shape.pubkeyHex, shape.endpoint, Device.peerLines]
  have five : fmtNat 5 = "5" := by decide
  rw [five]
  rfl

theorem bodyLines_ne_empty (peer : TunnelPeer) : ∀ line ∈ bodyLines peer, line ≠ "" := by
  intro line mem
  simp only [bodyLines, List.mem_append, List.mem_cons, List.mem_map, List.not_mem_nil,
    or_false] at mem
  rcases mem with (rfl | rfl | rfl) | ⟨text, -, rfl⟩ | rfl <;>
    simp [← String.toList_inj]

/-- A line break in the announced address: what is left of its line has no prefix length. -/
theorem Shape.set_peerBody_ne_ok (shape : Shape peer config ip routes) (broken : '\n' ∈ ip.toList)
    (device device' : Device) : device.set (wgSetText (peerBody peer)) ≠ .ok device' := by
  have key : '\n' ∉ peer.pubkeyHex.toList := shape.notMem_pubkeyHex (by decide)
  have endpoint : '\n' ∉ peer.endpoint.toList := shape.notMem_endpoint (by decide)
  obtain ⟨head, rest, -, chars, cut⟩ := exists_split_append
    ("/32" ++ "\n" ++ join "\n" ((routes.map fun ip => "allowed_ip=" ++ ip) ++
      ["persistent_keepalive_interval=5", "", ""])) broken
  have text : wgSetText (peerBody peer) = "set=1" ++ "\n" ++ ("public_key=" ++ peer.pubkeyHex ++ "\n" ++
      ("endpoint=" ++ peer.endpoint ++ "\n" ++ ("replace_allowed_ips=true" ++ "\n" ++
        ("allowed_ip=" ++ (ip ++ ("/32" ++ "\n" ++ join "\n" ((routes.map fun ip =>
          "allowed_ip=" ++ ip) ++ ["persistent_keepalive_interval=5", "", ""]))))))) := by
    rw [wgSetText_eq_join, bodyLines, shape.allowedIps]
    simp [join_cons, String.append_assoc]
  have lines : split '\n' (wgSetText (peerBody peer)) = "set=1" :: ("public_key=" ++ peer.pubkeyHex) ::
      ("endpoint=" ++ peer.endpoint) :: "replace_allowed_ips=true" ::
        ("allowed_ip=" ++ head) :: rest := by
    have line {s : String} (tail : String) (h : '\n' ∉ s.toList) :
        split '\n' (s ++ "\n" ++ tail) = s :: split '\n' tail := split_append tail h
    have cutLine : split '\n' ("allowed_ip=" ++ _) = ("allowed_ip=" ++ head) :: rest :=
      split_prepend (by decide) cut
    rw [text, line _ (by decide), line _ (by simpa using key), line _ (by simpa using endpoint),
      line _ (by decide), cutLine]
  have invalid : Setting.parse ("allowed_ip=" ++ head) = none := by
    rw [parse_allowed_ip]
    cases parsed : IpPrefix.ofText head with
    | none => rfl
    | some p =>
      have one := count_slash_of_prefix parsed
      have slash : '/' ∉ head.toList := fun mem => shape.slash (chars _ mem)
      rw [List.count_eq_zero_of_not_mem slash] at one
      cases one
  have sent : "allowed_ip=" ++ head ∈ (("public_key=" ++ peer.pubkeyHex) ::
      ("endpoint=" ++ peer.endpoint) :: "replace_allowed_ips=true" ::
        ("allowed_ip=" ++ head) :: rest).takeWhile (· ≠ "") := by
    rw [List.takeWhile_cons_of_pos (by simp),
      List.takeWhile_cons_of_pos (by simp),
      List.takeWhile_cons_of_pos (by simp),
      List.takeWhile_cons_of_pos (by simp)]
    simp
  simp only [Device.set, lines]
  cases result : (("public_key=" ++ peer.pubkeyHex) :: ("endpoint=" ++ peer.endpoint) ::
      "replace_allowed_ips=true" :: ("allowed_ip=" ++ head) :: rest).takeWhile (· ≠ "")
        |>.foldlM Device.applyLine (device, none) with
  | error stopped =>
    intro h
    cases h
  | ok state => exact absurd result (Device.foldlM_ne_ok sent invalid _ _)

/-- A body succeeds exactly when every allowed IP is a prefix, and then configures its peer. -/
theorem Shape.set_peerBody (shape : Shape peer config ip routes) (device : Device)
    {device' : Device} :
    device.set (wgSetText (peerBody peer)) = .ok device' ↔
      (IpPrefix.ofText (ip ++ "/32")).isSome ∧
      device' = device.putPeer config.key config.addr config.allowedIps 5 := by
  by_cases clean : '\n' ∈ ip.toList
  · have unread : ¬(IpPrefix.ofText (ip ++ "/32")).isSome := by
      intro parsed
      obtain ⟨p, parsed⟩ := Option.isSome_iff_exists.mp parsed
      have inside : '\n' ∈ (ip ++ "/32").toList := by simp [clean]
      exact notMem_of_prefix parsed (by decide) (by decide) (by decide) inside
    simp [shape.set_peerBody_ne_ok clean, unread]
  · have lines : split '\n' (wgSetText (peerBody peer)) =
        "set=1" :: (bodyLines peer ++ ["", ""]) := by
      rw [wgSetText_eq_join]
      exact split_join (by simp) (shape.newline_notMem clean)
    have request : (bodyLines peer ++ ["", ""]).takeWhile (· ≠ "") = bodyLines peer := by
      rw [List.takeWhile_append_of_pos fun line mem => by simp [bodyLines_ne_empty peer line mem]]
      simp
    have texts : (∀ text ∈ peer.allowedIps, (IpPrefix.ofText text).isSome) ↔
        (IpPrefix.ofText (ip ++ "/32")).isSome := by
      rw [shape.allowedIps, List.forall_mem_cons, and_iff_left shape.route]
    have ips : peer.allowedIps.filterMap IpPrefix.ofText = config.allowedIps :=
      shape.prefixes.symm
    have mapped (r : Except Device (Device × Option Key)) :
        r.map Prod.fst = .ok device' ↔ ∃ state, r = .ok state ∧ state.1 = device' := by
      cases r <;> simp [Except.map]
    simp only [Device.set, lines, request]
    rw [shape.bodyLines_eq, ← texts, mapped]
    simp only [Device.foldlM_peerLines none config.key config.addr (by omega : 5 ≤ 0xffff), ips]
    constructor
    · rintro ⟨state, ⟨all, eq⟩, fst⟩
      exact ⟨all, by rw [← fst, eq]⟩
    · rintro ⟨all, eq⟩
      exact ⟨_, ⟨all, rfl⟩, eq.symm⟩

/-! ## All bodies -/

/-- The peers have the shape of planned peers, with these configurations. -/
def Shaped (peers : List TunnelPeer) (configs : List PeerConfig) : Prop :=
  List.Forall₂ (fun peer config => ∃ ip routes, Shape peer config ip routes) peers configs

theorem set_replacePeers (device : Device) :
    device.set (wgSetText "replace_peers=true") = .ok { device with peers := ∅ } := by
  have lines : split '\n' (wgSetText "replace_peers=true") =
      ["set=1", "replace_peers=true", "", ""] := by decide
  have parsed : Setting.parse "replace_peers=true" = some .replacePeers := by decide
  simp [Device.set, lines, Device.applyLine, parsed, Device.apply, Except.map, bind, Except.bind,
    pure, Except.pure]

/-- The bodies of shaped peers succeed exactly when every allowed IP is a prefix. -/
theorem setAll_bodies {peers : List TunnelPeer} {configs : List PeerConfig}
    (shaped : Shaped peers configs) (device device' : Device) :
    setAll device (peers.map peerBody) = .ok device' ↔
      (∀ peer ∈ peers, ∀ ip ∈ peer.allowedIps, (IpPrefix.ofText ip).isSome) ∧
      device' = device.putPeers configs 5 := by
  induction shaped generalizing device with
  | nil => exact ⟨fun h => ⟨by simp, (Except.ok.inj h).symm⟩, fun h => congrArg Except.ok h.2.symm⟩
  | @cons peer config peers configs shape shaped ih =>
    obtain ⟨ip, routes, shape⟩ := shape
    have texts : (∀ ip ∈ peer.allowedIps, (IpPrefix.ofText ip).isSome) ↔
        (IpPrefix.ofText (ip ++ "/32")).isSome := by
      rw [shape.allowedIps, List.forall_mem_cons, and_iff_left shape.route]
    rw [List.forall_mem_cons, texts, Device.putPeers, List.foldl_cons, ← Device.putPeers]
    cases result : device.set (wgSetText (peerBody peer)) with
    | error stopped =>
      have unread : ¬(IpPrefix.ofText (ip ++ "/32")).isSome := by
        intro read
        have good := (shape.set_peerBody device).mpr ⟨read, rfl⟩
        rw [result] at good
        cases good
      simp [setAll, result, unread, bind, Except.bind]
    | ok next =>
      obtain ⟨read, rfl⟩ := (shape.set_peerBody device).mp result
      have rest := ih (device.putPeer config.key config.addr config.allowedIps 5)
      simp only [setAll, List.map_cons, List.foldlM_cons, result, bind, Except.bind] at rest ⊢
      rw [rest, and_assoc, and_iff_right read]

theorem setAll_uapiBodies {peers : List TunnelPeer} {configs : List PeerConfig}
    (shaped : Shaped peers configs) (device device' : Device) :
    setAll device (uapiBodies peers) = .ok device' ↔
      (∀ peer ∈ peers, ∀ ip ∈ peer.allowedIps, (IpPrefix.ofText ip).isSome) ∧
      device' = ({ device with peers := ∅ } : Device).putPeers configs 5 := by
  rw [← setAll_bodies shaped]
  simp only [setAll, uapiBodies, List.foldlM_cons, set_replacePeers, bind, Except.bind]

/-! ## The bodies of a plan -/

section Plan

variable {ctx : PlanContext} {book : PeerPathBook} {plan : List PlannedTunnelPeer}

/-- The peer of a participant has the shape of its announcement. -/
theorem exists_shape (codec : ctx.codec.Lawful) {p : String} {a : PeerAnnouncement}
    (ok : ctx.peerOf book p a = .ok peer) :
    ∃ config routes, Shape peer config (stripCidr a.tunnelIp) routes ∧
      ctx.codec.decodeBase64 a.publicKey = .ok config.key.bytes := by
  obtain ⟨addr, hex, -, key, rfl⟩ := tunnelPeerFromEndpoint_eq_ok.mp ok
  rw [PeerAnnouncement.publicKey_withoutExpiredRelay] at key
  obtain ⟨bytes, decoded, length, rfl⟩ := keyB64ToHex_eq_ok.mp key
  have owned := @mem_assignedRoutes ctx.app ctx.ownPubkey ctx.announcements p
  refine ⟨⟨⟨bytes, length⟩, addr, _⟩, (ctx.routesOf p).filter (· ≠ announcedIp a),
    ⟨codec.encode_hex bytes, rfl, ?_, rfl, ?_, ?_⟩, decoded⟩
  · have head : announcedIp (a.withoutExpiredRelay ctx.now) = announcedIp a := by simp [announcedIp]
    rw [head]
    exact foldl_pushUnique_singleton (nodup_assignedRoutes ..)
  · intro mem
    have stop := List.all_eq_true.mp (List.all_takeWhile (p := (· != '/')) (l := a.tunnelIp.toList))
      '/' (by simpa [stripCidr, splitFirst] using mem)
    simp at stop
  · intro r mem
    obtain ⟨x, rfl⟩ := exists_prefix_of_owner (owned.mp (List.mem_filter.mp mem).1)
    rw [IpPrefix.ofText_fmt]
    rfl

/-- The configuration that the texts of a planned peer denote. -/
def configOf (planned : PlannedTunnelPeer) : Option PeerConfig := do
  let key ← Key.parse planned.peer.pubkeyHex
  let addr ← SocketAddr.parse planned.peer.endpoint
  return ⟨key, addr, peerPrefixes planned.peer⟩

theorem Shape.configOf_eq {planned : PlannedTunnelPeer}
    (shape : Shape planned.peer config ip routes) : configOf planned = some config := by
  simp [configOf, shape.pubkeyHex, shape.endpoint, SocketAddr.parse_fmt, ← shape.prefixes]

/-- The device has exactly one peer for each planned participant, with its endpoint and prefixes. -/
structure DeviceFollows (device : Device) (plan : List PlannedTunnelPeer) : Prop where
  complete : ∀ planned ∈ plan, ∃ key peer, Key.parse planned.peer.pubkeyHex = some key ∧
    device.peers.lookup key = some peer ∧
    peer.endpoint = SocketAddr.parse planned.peer.endpoint ∧ peer.endpoint.isSome ∧
    ∀ ip, ip ∈ peer.allowedIps ↔ ip ∈ peerPrefixes planned.peer
  sole : ∀ key peer, device.peers.lookup key = some peer →
    ∃! planned, planned ∈ plan ∧ Key.parse planned.peer.pubkeyHex = some key

/-- One peer of a device serves one entry of the plan. -/
theorem DeviceFollows.eq_of_key {device : Device} (follows : DeviceFollows device plan)
    {x y : PlannedTunnelPeer} (memX : x ∈ plan) (memY : y ∈ plan) {key : Key}
    (keyX : Key.parse x.peer.pubkeyHex = some key) (keyY : Key.parse y.peer.pubkeyHex = some key) :
    x = y := by
  obtain ⟨key', peer, keyX', found, -⟩ := follows.complete x memX
  obtain rfl := Option.some.inj (keyX.symm.trans keyX')
  obtain ⟨_, _, unique⟩ := follows.sole key peer found
  exact (unique x ⟨memX, keyX⟩).trans (unique y ⟨memY, keyY⟩).symm

/-- The announced tunnel address of every reachable participant is an address. -/
def AddressesParse (ctx : PlanContext) (book : PeerPathBook) : Prop :=
  ∀ p a, Reachable ctx book p a → (IpAddr.parse (stripCidr a.tunnelIp)).isSome

/-- No two reachable participants announce one key. -/
def KeysDistinct (ctx : PlanContext) (book : PeerPathBook) : Prop :=
  ∀ p q a b, Reachable ctx book p a → Reachable ctx book q b → p ≠ q →
    ctx.codec.decodeBase64 a.publicKey ≠ ctx.codec.decodeBase64 b.publicKey

theorem isSome_ofText_slash32 {text : String} (slash : '/' ∉ text.toList) :
    (IpPrefix.ofText (text ++ "/32")).isSome ↔ (IpAddr.parse text).isSome := by
  have cut : splitOnce '/' (text ++ "/32") = some (text, "32") := by
    have parts : text ++ "/32" = text ++ String.ofList ['/'] ++ "32" := by
      rw [String.append_assoc]
      rfl
    rw [parts]
    exact splitOnce_append _ slash
  have bits : parseUnsigned 255 "32" = some 32 := by decide
  unfold IpPrefix.ofText
  cases parsed : IpAddr.parse text with
  | none => simp [cut, parsed]
  | some addr =>
    have fits : 32 ≤ addr.width := by cases addr <;> simp [IpAddr.width]
    simp [cut, parsed, bits, IpPrefix.ofIp, fits]

theorem forall₂_filterMap {α β : Type} {R : α → β → Prop} {f : α → Option β} {l : List α}
    (h : ∀ x ∈ l, ∃ y, f x = some y ∧ R x y) : List.Forall₂ R l (l.filterMap f) := by
  induction l with
  | nil => exact .nil
  | cons x l ih =>
    obtain ⟨y, found, related⟩ := h x List.mem_cons_self
    rw [List.filterMap_cons_some found]
    exact .cons related (ih fun z mem => h z (List.mem_cons_of_mem x mem))

/-- A planned peer is a reachable participant with its shape. -/
theorem exists_reachable (codec : ctx.codec.Lawful)
    (h : (plannedTunnelPeersForLocalEndpoints ctx book).1 = .ok plan) {planned : PlannedTunnelPeer}
    (mem : planned ∈ plan) :
    ∃ a config routes, Reachable ctx book planned.participant a ∧
      Shape planned.peer config (stripCidr a.tunnelIp) routes ∧
      ctx.codec.decodeBase64 a.publicKey = .ok config.key.bytes := by
  obtain ⟨p, others, as⟩ := (mem_plan h).mp mem
  obtain ⟨a, reach, ok⟩ := as.reachable others
  obtain ⟨config, routes, shape, decoded⟩ := exists_shape codec ok
  exact ⟨a, config, routes, as.participant_eq ▸ reach, shape, decoded⟩

/-- A reachable participant is planned. -/
theorem exists_planned (h : (plannedTunnelPeersForLocalEndpoints ctx book).1 = .ok plan)
    {p : String} {a : PeerAnnouncement} (reach : Reachable ctx book p a) :
    ∃ planned ∈ plan, planned.participant = p := by
  obtain ⟨others, announced, free⟩ := reach
  obtain ⟨peer, ok⟩ := (planned_eq_ok.mp h).1 p others a announced free
  exact ⟨_, (mem_plan h).mpr ⟨p, others, a, peer, announced, free, ok, rfl⟩, rfl⟩

theorem Reachable.announcement_eq {p : String} {a b : PeerAnnouncement}
    (ha : Reachable ctx book p a) (hb : Reachable ctx book p b) : a = b :=
  Option.some.inj (ha.2.1.symm.trans hb.2.1)

theorem shaped_plan (codec : ctx.codec.Lawful)
    (h : (plannedTunnelPeersForLocalEndpoints ctx book).1 = .ok plan) :
    Shaped (plan.map PlannedTunnelPeer.peer) (plan.filterMap configOf) := by
  rw [Shaped, List.forall₂_map_left_iff]
  refine forall₂_filterMap fun planned mem => ?_
  obtain ⟨a, config, routes, -, shape, -⟩ := exists_reachable codec h mem
  exact ⟨config, shape.configOf_eq, _, _, shape⟩

/-- With distinct keys a key belongs to one entry of the plan. -/
theorem planned_eq_of_key (codec : ctx.codec.Lawful)
    (h : (plannedTunnelPeersForLocalEndpoints ctx book).1 = .ok plan)
    (distinct : KeysDistinct ctx book) {x y : PlannedTunnelPeer} (memX : x ∈ plan)
    (memY : y ∈ plan) {key : Key} (keyX : Key.parse x.peer.pubkeyHex = some key)
    (keyY : Key.parse y.peer.pubkeyHex = some key) : x = y := by
  obtain ⟨a, configX, _, reachX, shapeX, decodedX⟩ := exists_reachable codec h memX
  obtain ⟨b, configY, _, reachY, shapeY, decodedY⟩ := exists_reachable codec h memY
  rw [shapeX.pubkeyHex, Key.parse_fmt] at keyX
  rw [shapeY.pubkeyHex, Key.parse_fmt] at keyY
  refine List.inj_on_of_nodup_map (nodup_participants_plan h) memX memY ?_
  by_contra ne
  refine distinct _ _ a b reachX reachY ne ?_
  rw [decodedX, decodedY, Option.some.inj keyX, Option.some.inj keyY]

/-- No two entries of the plan have one key. -/
def KeysApart (plan : List PlannedTunnelPeer) : Prop :=
  ∀ x ∈ plan, ∀ y ∈ plan, x.peer.pubkeyHex = y.peer.pubkeyHex → x = y

theorem keysApart_of_distinct (codec : ctx.codec.Lawful)
    (h : (plannedTunnelPeersForLocalEndpoints ctx book).1 = .ok plan)
    (distinct : KeysDistinct ctx book) : KeysApart plan := by
  intro x memX y memY same
  obtain ⟨a, config, _, -, shape, -⟩ := exists_reachable codec h memX
  have keyX : Key.parse x.peer.pubkeyHex = some config.key := by
    rw [shape.pubkeyHex, Key.parse_fmt]
  exact planned_eq_of_key codec h distinct memX memY keyX (same ▸ keyX)

theorem compatible_plan (codec : ctx.codec.Lawful)
    (h : (plannedTunnelPeersForLocalEndpoints ctx book).1 = .ok plan) (apart : Unambiguous plan)
    (keys : KeysApart plan) : (plan.filterMap configOf).Pairwise Compatible := by
  rw [List.pairwise_filterMap]
  have different : plan.Nodup := List.Nodup.of_map _ (nodup_participants_plan h)
  refine (apart.and different).imp_of_mem ?_
  rintro x y memX memY ⟨disjoint, ne⟩ configX foundX configY foundY
  obtain ⟨a, configX', _, -, shapeX, -⟩ := exists_reachable codec h memX
  obtain ⟨b, configY', _, -, shapeY, -⟩ := exists_reachable codec h memY
  obtain rfl := Option.some.inj (shapeX.configOf_eq.symm.trans foundX)
  obtain rfl := Option.some.inj (shapeY.configOf_eq.symm.trans foundY)
  refine ⟨fun same => ne (keys x memX y memY ?_), ?_⟩
  · rw [shapeX.pubkeyHex, shapeY.pubkeyHex, same]
  · rw [shapeX.prefixes, shapeY.prefixes]
    exact disjoint

/-- A device that holds the configurations of a plan follows the plan. -/
theorem DeviceFollows.of_holds (codec : ctx.codec.Lawful)
    (h : (plannedTunnelPeersForLocalEndpoints ctx book).1 = .ok plan)
    (distinct : KeysDistinct ctx book) {device : Device}
    (holds : device.Holds (plan.filterMap configOf)) : DeviceFollows device plan where
  complete := by
    intro planned mem
    obtain ⟨a, config, _, -, shape, -⟩ := exists_reachable codec h mem
    have listed : config ∈ plan.filterMap configOf :=
      List.mem_filterMap.mpr ⟨planned, mem, shape.configOf_eq⟩
    obtain ⟨peer, found, endpoint, members⟩ := holds.complete config listed
    refine ⟨config.key, peer, ?_, found, ?_, by simp [endpoint], fun ip => ?_⟩
    · rw [shape.pubkeyHex, Key.parse_fmt]
    · rw [endpoint, shape.endpoint, SocketAddr.parse_fmt]
    · rw [members, shape.prefixes]
  sole := by
    intro key peer found
    obtain ⟨config, listed, rfl⟩ := holds.sole key peer found
    obtain ⟨planned, mem, eq⟩ := List.mem_filterMap.mp listed
    obtain ⟨a, config', _, -, shape, -⟩ := exists_reachable codec h mem
    obtain rfl := Option.some.inj (shape.configOf_eq.symm.trans eq)
    have key : Key.parse planned.peer.pubkeyHex = some config'.key := by
      rw [shape.pubkeyHex, Key.parse_fmt]
    exact ⟨planned, ⟨mem, key⟩, fun other ⟨memOther, keyOther⟩ =>
      planned_eq_of_key codec h distinct memOther mem keyOther key⟩

/-- The requests of a plan succeed exactly when every announced tunnel address is an address. -/
theorem allowedIps_parse_iff (codec : ctx.codec.Lawful)
    (h : (plannedTunnelPeersForLocalEndpoints ctx book).1 = .ok plan) :
    (∀ peer ∈ plan.map PlannedTunnelPeer.peer, ∀ ip ∈ peer.allowedIps, (IpPrefix.ofText ip).isSome) ↔
      AddressesParse ctx book := by
  rw [List.forall_mem_map]
  constructor
  · intro all p a reach
    obtain ⟨planned, mem, rfl⟩ := exists_planned h reach
    obtain ⟨b, config, routes, reach', shape, -⟩ := exists_reachable codec h mem
    obtain rfl := reach.announcement_eq reach'
    have first := all planned mem (stripCidr a.tunnelIp ++ "/32") (by simp [shape.allowedIps])
    exact (isSome_ofText_slash32 shape.slash).mp first
  · intro parse planned mem ip listed
    obtain ⟨a, config, routes, reach, shape, -⟩ := exists_reachable codec h mem
    rw [shape.allowedIps] at listed
    rcases List.mem_cons.mp listed with rfl | route
    · exact (isSome_ofText_slash32 shape.slash).mpr (parse _ a reach)
    · exact shape.route ip route

/-- The requests of a plan with disjoint prefixes leave the device with exactly the plan when every
announced tunnel address is an address and no two peers announce one key, and only then. -/
theorem uapi_faithful_iff (codec : ctx.codec.Lawful)
    (h : (plannedTunnelPeersForLocalEndpoints ctx book).1 = .ok plan) (apart : Unambiguous plan)
    (device : Device) :
    (∃ device', setAll device (uapiBodies (plan.map PlannedTunnelPeer.peer)) = .ok device' ∧
      DeviceFollows device' plan) ↔ AddressesParse ctx book ∧ KeysDistinct ctx book := by
  have requests := setAll_uapiBodies (shaped_plan codec h) device
  constructor
  · rintro ⟨device', sent, follows⟩
    refine ⟨(allowedIps_parse_iff codec h).mp ((requests device').mp sent).1, ?_⟩
    intro p q a b reachP reachQ ne same
    obtain ⟨x, memX, rfl⟩ := exists_planned h reachP
    obtain ⟨y, memY, rfl⟩ := exists_planned h reachQ
    obtain ⟨_, configX, _, reachX, shapeX, decodedX⟩ := exists_reachable codec h memX
    obtain ⟨_, configY, _, reachY, shapeY, decodedY⟩ := exists_reachable codec h memY
    obtain rfl := reachP.announcement_eq reachX
    obtain rfl := reachQ.announcement_eq reachY
    have keys : configY.key = configX.key := by
      rw [decodedX, decodedY] at same
      exact (Key.ext (Except.ok.inj same)).symm
    have keyX : Key.parse x.peer.pubkeyHex = some configX.key := by
      rw [shapeX.pubkeyHex, Key.parse_fmt]
    have keyY : Key.parse y.peer.pubkeyHex = some configX.key := by
      rw [shapeY.pubkeyHex, Key.parse_fmt, keys]
    exact ne (congrArg _ (follows.eq_of_key memX memY keyX keyY))
  · rintro ⟨parse, distinct⟩
    refine ⟨_, (requests _).mpr ⟨(allowedIps_parse_iff codec h).mpr parse, rfl⟩, ?_⟩
    refine DeviceFollows.of_holds codec h distinct ?_
    exact ((Device.Took.nil device).putPeers 5).holds
      (compatible_plan codec h apart (keysApart_of_distinct codec h distinct))

end Plan

/-- Two participants with addresses of their own that announce one key. -/
def doubledKey : PlanContext :=
  sampleContext [sampleAnnouncement 0 "10.44.7.7/32" [], sampleAnnouncement 0 "10.44.8.8/32" []]

/-- Two participants with a key and an address each. -/
def twoPeers : PlanContext :=
  sampleContext [sampleAnnouncement 0 "10.44.7.7/32" [], sampleAnnouncement 1 "10.44.8.8/32" []]

/-- The second body overwrites the peer of the first, so no device follows the plan. -/
theorem uapi_unfaithful_of_doubled_key :
    ∃ plan, (plannedTunnelPeersForLocalEndpoints doubledKey sampleBook).1 = .ok plan ∧
      Unambiguous plan ∧ ∀ device device',
        setAll device (uapiBodies (plan.map PlannedTunnelPeer.peer)) = .ok device' →
          ¬ DeviceFollows device' plan := by
  refine ⟨planOf doubledKey sampleBook, by decide +kernel, by decide +kernel, ?_⟩
  intro device device' _ follows
  have shared : ∃ x ∈ planOf doubledKey sampleBook, ∃ y ∈ planOf doubledKey sampleBook,
      x ≠ y ∧ ∃ key ∈ Key.parse x.peer.pubkeyHex, key ∈ Key.parse y.peer.pubkeyHex := by
    decide +kernel
  obtain ⟨x, memX, y, memY, ne, key, keyX, keyY⟩ := shared
  exact ne (follows.eq_of_key memX memY keyX keyY)

theorem uapi_faithful_iff_of_two_peers :
    (∃ device', setAll { peers := ∅ }
          (uapiBodies ((planOf twoPeers sampleBook).map PlannedTunnelPeer.peer)) = .ok device' ∧
        DeviceFollows device' (planOf twoPeers sampleBook)) ↔
      AddressesParse twoPeers sampleBook ∧ KeysDistinct twoPeers sampleBook :=
  uapi_faithful_iff sampleCodec_lawful (by decide +kernel) (by decide +kernel) { peers := ∅ }

end NostrVpn.Cli
