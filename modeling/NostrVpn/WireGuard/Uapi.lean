import NostrVpn.Rust.HashMap
import NostrVpn.Rust.NetChars
import NostrVpn.Rust.Split

/-!
# The WireGuard configuration protocol

A device as its configuration socket sees it, and the line-oriented `set` operation: `public_key`
selects or creates a peer, the lines after it configure that peer, and `allowed_ip` takes the prefix
away from every other peer. An invalid line ends the operation with an error; the lines before it
have taken effect.
-/
namespace WireGuard

open Rust Rust.Net

/-! ## Keys -/

def encodeHex (bytes : List UInt8) : List Char :=
  bytes.flatMap fun byte => [Nat.digitChar (byte.toNat / 16), Nat.digitChar (byte.toNat % 16)]

def decodeHex : List Char → Option (List UInt8)
  | [] => some []
  | [_] => none
  | high :: low :: rest => do
    let high ← toDigit 16 high
    let low ← toDigit 16 low
    let rest ← decodeHex rest
    return UInt8.ofNat (high * 16 + low) :: rest

@[simp] theorem decodeHex_encodeHex (bytes : List UInt8) :
    decodeHex (encodeHex bytes) = some bytes := by
  induction bytes with
  | nil => rfl
  | cons byte bytes ih =>
    have small : byte.toNat < 256 := byte.toNat_lt_size
    have high := @toDigit_digitChar 16 (byte.toNat / 16) (by omega) (by omega)
    have low := @toDigit_digitChar 16 (byte.toNat % 16) (by omega) (by omega)
    have whole : byte.toNat / 16 * 16 + byte.toNat % 16 = byte.toNat := by omega
    have text : encodeHex (byte :: bytes) = Nat.digitChar (byte.toNat / 16) ::
        Nat.digitChar (byte.toNat % 16) :: encodeHex bytes := rfl
    simp only [text, decodeHex, high, low, ih, Option.bind_eq_bind, Option.bind_some, whole,
      UInt8.ofNat_toNat]
    rfl

theorem length_encodeHex (bytes : List UInt8) : (encodeHex bytes).length = 2 * bytes.length := by
  induction bytes with
  | nil => rfl
  | cons byte bytes ih =>
    have text : encodeHex (byte :: bytes) = Nat.digitChar (byte.toNat / 16) ::
        Nat.digitChar (byte.toNat % 16) :: encodeHex bytes := rfl
    simp only [text, List.length_cons, ih]
    omega

theorem hexDigit_of_mem_encodeHex {bytes : List UInt8} {c : Char} (h : c ∈ encodeHex bytes) :
    (toDigit 16 c).isSome := by
  obtain ⟨byte, -, mem⟩ := List.mem_flatMap.mp h
  have small : byte.toNat < 256 := byte.toNat_lt_size
  simp only [List.mem_cons, List.not_mem_nil, or_false] at mem
  rcases mem with rfl | rfl
  · rw [@toDigit_digitChar 16 (byte.toNat / 16) (by omega) (by omega)]
    rfl
  · rw [@toDigit_digitChar 16 (byte.toNat % 16) (by omega) (by omega)]
    rfl

@[ext] structure Key where
  bytes : List UInt8
  length : bytes.length = 32
  deriving DecidableEq

def Key.parse (s : String) : Option Key := do
  let bytes ← decodeHex s.toList
  if length : bytes.length = 32 then some ⟨bytes, length⟩ else none

def Key.fmt (key : Key) : String := .ofList (encodeHex key.bytes)

@[simp] theorem Key.parse_fmt (key : Key) : Key.parse key.fmt = some key := by
  simp [Key.parse, Key.fmt, key.length]

/-! ## The device -/

structure Peer where
  endpoint : Option SocketAddr := none
  allowedIps : List IpPrefix := []
  keepalive : Nat := 0
  deriving DecidableEq

structure Device where
  privateKey : Option Key := none
  listenPort : Nat := 0
  peers : HashMap Key Peer

inductive Setting where
  | privateKey (key : Key)
  | listenPort (port : Nat)
  | replacePeers
  | publicKey (key : Key)
  | endpoint (addr : SocketAddr)
  | replaceAllowedIps
  | allowedIp (ip : IpPrefix)
  | keepalive (secs : Nat)
  deriving DecidableEq

def Setting.named (name value : String) : Option Setting :=
  match name with
  | "private_key" => (Key.parse value).map .privateKey
  | "listen_port" => (parseUnsigned 0xffff value).map .listenPort
  | "replace_peers" => if value = "true" then some .replacePeers else none
  | "public_key" => (Key.parse value).map .publicKey
  | "endpoint" => (SocketAddr.parse value).map .endpoint
  | "replace_allowed_ips" => if value = "true" then some .replaceAllowedIps else none
  | "allowed_ip" => (IpPrefix.ofText value).map .allowedIp
  | "persistent_keepalive_interval" => (parseUnsigned 0xffff value).map .keepalive
  | _ => none

def Setting.parse (line : String) : Option Setting :=
  (splitOnce '=' line).bind fun (name, value) => Setting.named name value

theorem Setting.parse_line {line name : String} (value : String) (h : '=' ∉ name.toList)
    (eq : line = name ++ String.ofList ['=']) :
    Setting.parse (line ++ value) = Setting.named name value := by
  rw [Setting.parse, eq, splitOnce_append value h]
  rfl

theorem parse_private_key (value : String) :
    Setting.parse ("private_key=" ++ value) = (Key.parse value).map .privateKey :=
  Setting.parse_line value (by decide) (by decide : _ = "private_key" ++ _)

theorem parse_listen_port (value : String) : Setting.parse ("listen_port=" ++ value) =
    (parseUnsigned 0xffff value).map .listenPort :=
  Setting.parse_line value (by decide) (by decide : _ = "listen_port" ++ _)

theorem parse_public_key (value : String) :
    Setting.parse ("public_key=" ++ value) = (Key.parse value).map .publicKey :=
  Setting.parse_line value (by decide) (by decide : _ = "public_key" ++ _)

theorem parse_endpoint (value : String) :
    Setting.parse ("endpoint=" ++ value) = (SocketAddr.parse value).map .endpoint :=
  Setting.parse_line value (by decide) (by decide : _ = "endpoint" ++ _)

theorem parse_keepalive (value : String) :
    Setting.parse ("persistent_keepalive_interval=" ++ value) =
      (parseUnsigned 0xffff value).map .keepalive :=
  Setting.parse_line value (by decide) (by decide : _ = "persistent_keepalive_interval" ++ _)

theorem parse_allowed_ip (value : String) :
    Setting.parse ("allowed_ip=" ++ value) = (IpPrefix.ofText value).map .allowedIp :=
  Setting.parse_line value (by decide) (by decide : _ = "allowed_ip" ++ _)

namespace Device

def modifyPeer (device : Device) (key : Key) (f : Peer → Peer) : Device :=
  { device with peers := device.peers.modify key f }

/-- Routing a prefix to a peer takes it from whoever had it. -/
def route (device : Device) (key : Key) (ip : IpPrefix) : Device :=
  { device with
    peers := device.peers.mapEntries fun other peer =>
      let kept := peer.allowedIps.filter fun held => held ≠ ip
      { peer with allowedIps := if other = key then kept ++ [ip] else kept } }

/-- A setting at the device or, after a `public_key`, at the selected peer. -/
def apply (device : Device) (selected : Option Key) : Setting → Option (Device × Option Key)
  | .privateKey key => some ({ device with privateKey := some key }, selected)
  | .listenPort port => some ({ device with listenPort := port }, selected)
  | .replacePeers => some ({ device with peers := ∅ }, selected)
  | .publicKey key => some ({ device with peers := device.peers.orInsert key {} }, some key)
  | .endpoint addr => selected.map fun key =>
    (device.modifyPeer key fun peer => { peer with endpoint := some addr }, selected)
  | .replaceAllowedIps => selected.map fun key =>
    (device.modifyPeer key fun peer => { peer with allowedIps := [] }, selected)
  | .allowedIp ip => selected.map fun key => (device.route key ip, selected)
  | .keepalive secs => selected.map fun key =>
    (device.modifyPeer key fun peer => { peer with keepalive := secs }, selected)

/-- One line of a request; an error carries the device as the lines before have left it. -/
def applyLine (state : Device × Option Key) (line : String) : Except Device (Device × Option Key) :=
  match (Setting.parse line).bind (state.1.apply state.2) with
  | some state => .ok state
  | none => .error state.1

/-- The `set` operation on the text of a request, up to the empty line that ends it. -/
def set (device : Device) (text : String) : Except Device Device :=
  match split '\n' text with
  | "set=1" :: lines =>
    ((lines.takeWhile (· ≠ "")).foldlM applyLine (device, none)).map Prod.fst
  | _ => .error device

/-- The device when it has read only the given number of lines of a request. -/
def afterLines (device : Device) (text : String) (lines : Nat) : Device :=
  match (split '\n' text).take lines with
  | "set=1" :: lines =>
    match (lines.takeWhile (· ≠ "")).foldlM applyLine (device, none) with
    | .ok state => state.1
    | .error stopped => stopped
  | _ => device

/-- A peer that was selected and has a new endpoint and no prefixes yet. -/
def preparePeer (device : Device) (key : Key) (addr : SocketAddr) : Device :=
  let created : Device := { device with peers := device.peers.orInsert key {} }
  let addressed := created.modifyPeer key fun peer => { peer with endpoint := some addr }
  addressed.modifyPeer key fun peer => { peer with allowedIps := [] }

/-- What the lines for one peer amount to. -/
def putPeer (device : Device) (key : Key) (addr : SocketAddr) (ips : List IpPrefix) (secs : Nat) :
    Device :=
  let routed := ips.foldl (fun device ip => device.route key ip) (device.preparePeer key addr)
  routed.modifyPeer key fun peer => { peer with keepalive := secs }

end Device

namespace Device

variable {device : Device} {key other : Key}

theorem lookup_modifyPeer (key other : Key) (f : Peer → Peer) :
    (device.modifyPeer key f).peers.lookup other =
      (device.peers.lookup other).map fun peer => if other = key then f peer else peer :=
  HashMap.lookup_mapEntries _ _ _

/-- A list of prefixes routed one after the other. -/
theorem lookup_foldl_route (ips : List IpPrefix) (device : Device) (key other : Key) :
    ∃ change : Peer → Peer,
      (ips.foldl (fun device ip => device.route key ip) device).peers.lookup other =
        (device.peers.lookup other).map change ∧
      ∀ peer, (change peer).endpoint = peer.endpoint ∧ (change peer).keepalive = peer.keepalive ∧
        ∀ ip, ip ∈ (change peer).allowedIps ↔
          if other = key then ip ∈ peer.allowedIps ∨ ip ∈ ips else ip ∈ peer.allowedIps ∧ ip ∉ ips := by
  induction ips generalizing device with
  | nil => exact ⟨id, by simp, fun peer => ⟨rfl, rfl, by simp⟩⟩
  | cons ip ips ih =>
    obtain ⟨change, found, spec⟩ := ih (device.route key ip)
    have routed : (device.route key ip).peers.lookup other = (device.peers.lookup other).map
        fun peer => { peer with
          allowedIps := if other = key then (peer.allowedIps.filter fun held => held ≠ ip) ++ [ip]
            else peer.allowedIps.filter fun held => held ≠ ip } :=
      HashMap.lookup_mapEntries _ _ _
    rw [routed, Option.map_map] at found
    refine ⟨_, found, fun peer => ?_⟩
    obtain ⟨endpoint, keepalive, members⟩ := spec { peer with
      allowedIps := if other = key then (peer.allowedIps.filter fun held => held ≠ ip) ++ [ip]
        else peer.allowedIps.filter fun held => held ≠ ip }
    refine ⟨endpoint, keepalive, fun x => (members x).trans ?_⟩
    by_cases same : other = key
    · by_cases new : x = ip <;> simp [same, new]
    · by_cases new : x = ip <;> simp [same, new]

theorem lookup_preparePeer (device : Device) (key other : Key) (addr : SocketAddr) :
    (device.preparePeer key addr).peers.lookup other =
      if other = key then
        some { (device.peers.lookup key).getD {} with endpoint := some addr, allowedIps := [] }
      else device.peers.lookup other := by
  simp only [preparePeer, lookup_modifyPeer, HashMap.lookup_orInsert]
  by_cases same : other = key
  · subst same
    cases device.peers.lookup other <;> simp
  · simp [same]

/-- The peer that was put has the given endpoint, prefixes and keepalive. -/
theorem lookup_putPeer_self (device : Device) (key : Key) (addr : SocketAddr)
    (ips : List IpPrefix) (secs : Nat) :
    ∃ peer, (device.putPeer key addr ips secs).peers.lookup key = some peer ∧
      peer.endpoint = some addr ∧ peer.keepalive = secs ∧ ∀ ip, ip ∈ peer.allowedIps ↔ ip ∈ ips := by
  obtain ⟨change, found, spec⟩ := lookup_foldl_route ips (device.preparePeer key addr) key key
  rw [putPeer, lookup_modifyPeer, found, lookup_preparePeer, if_pos rfl]
  refine ⟨_, rfl, ?_⟩
  simp only [if_true]
  exact ⟨(spec _).1, trivial, fun ip => ((spec _).2.2 ip).trans (by simp)⟩

/-- Every other peer only loses the prefixes that were put. -/
theorem lookup_putPeer_ne (h : other ≠ key) (addr : SocketAddr) (ips : List IpPrefix) (secs : Nat) :
    ∃ change : Peer → Peer,
      (device.putPeer key addr ips secs).peers.lookup other = (device.peers.lookup other).map change ∧
      ∀ peer, (change peer).endpoint = peer.endpoint ∧ (change peer).keepalive = peer.keepalive ∧
        ∀ ip, ip ∈ (change peer).allowedIps ↔ ip ∈ peer.allowedIps ∧ ip ∉ ips := by
  obtain ⟨change, found, spec⟩ := lookup_foldl_route ips (device.preparePeer key addr) key other
  rw [lookup_preparePeer, if_neg h] at found
  refine ⟨change, ?_, fun peer => ⟨(spec peer).1, (spec peer).2.1, fun ip => ?_⟩⟩
  · rw [putPeer, lookup_modifyPeer, found]
    simp [h, Option.map_map, Function.comp_def]
  · simpa [h] using (spec peer).2.2 ip

/-! ## The lines of one peer -/

theorem applyLine_eq_ok {state state' : Device × Option Key} {line : String} :
    applyLine state line = .ok state' ↔
      ∃ setting, Setting.parse line = some setting ∧ state.1.apply state.2 setting = some state' := by
  unfold applyLine
  cases Setting.parse line with
  | none => simp
  | some setting => cases found : state.1.apply state.2 setting <;> simp [found]

/-- A request with an invalid line fails. -/
theorem foldlM_ne_ok {lines : List String} {line : String} (mem : line ∈ lines)
    (invalid : Setting.parse line = none) (state state' : Device × Option Key) :
    lines.foldlM applyLine state ≠ .ok state' := by
  induction lines generalizing state with
  | nil => cases mem
  | cons first lines ih =>
    rw [List.foldlM_cons]
    cases step : applyLine state first with
    | error stopped => exact fun h => nomatch h
    | ok next =>
      have later : line ∈ lines := by
        rcases List.mem_cons.mp mem with rfl | later
        · obtain ⟨setting, parsed, -⟩ := applyLine_eq_ok.mp step
          rw [invalid] at parsed
          cases parsed
        · exact later
      exact ih later next

/-- Allowed-IP lines after a key was selected: all of them parse, and the prefixes are routed. -/
theorem foldlM_allowedIps {texts : List String} {state' : Device × Option Key} :
    (texts.map fun text => "allowed_ip=" ++ text).foldlM applyLine (device, some key) = .ok state' ↔
      (∀ text ∈ texts, (IpPrefix.ofText text).isSome) ∧
      state' = ((texts.filterMap IpPrefix.ofText).foldl (fun device ip => device.route key ip) device,
        some key) := by
  induction texts generalizing device with
  | nil =>
    exact ⟨fun h => ⟨by simp, (Except.ok.inj h).symm⟩, fun h => congrArg Except.ok h.2.symm⟩
  | cons text texts ih =>
    rw [List.map_cons, List.foldlM_cons]
    cases parsed : IpPrefix.ofText text with
    | none =>
      have bad : applyLine (device, some key) ("allowed_ip=" ++ text) = .error device := by
        simp [applyLine, parse_allowed_ip, parsed]
      simp [bad, bind, Except.bind, parsed]
    | some ip =>
      have good : applyLine (device, some key) ("allowed_ip=" ++ text) =
          .ok (device.route key ip, some key) := by
        simp [applyLine, parse_allowed_ip, parsed, apply]
      rw [good]
      simp only [bind, Except.bind, ih]
      simp [parsed]

/-- The lines that configure one peer. -/
def peerLines (key : Key) (addr : SocketAddr) (texts : List String) (secs : Nat) : List String :=
  ["public_key=" ++ key.fmt, "endpoint=" ++ addr.fmt, "replace_allowed_ips=true"] ++
    ((texts.map fun text => "allowed_ip=" ++ text) ++
      ["persistent_keepalive_interval=" ++ fmtNat secs])

/-- The lines of a peer succeed exactly when every allowed IP is a prefix. -/
theorem foldlM_peerLines {texts : List String} (selected : Option Key) (key : Key)
    (addr : SocketAddr) {secs : Nat} (small : secs ≤ 0xffff) {state' : Device × Option Key} :
    (peerLines key addr texts secs).foldlM applyLine (device, selected) = .ok state' ↔
      (∀ text ∈ texts, (IpPrefix.ofText text).isSome) ∧
      state' = (device.putPeer key addr (texts.filterMap IpPrefix.ofText) secs, some key) := by
  have prepared : (["public_key=" ++ key.fmt, "endpoint=" ++ addr.fmt,
      "replace_allowed_ips=true"]).foldlM applyLine (device, selected) =
        .ok (device.preparePeer key addr, some key) := by
    have parsed : Setting.parse "replace_allowed_ips=true" = some .replaceAllowedIps := by decide
    simp [applyLine, parse_public_key, parse_endpoint, SocketAddr.parse_fmt, parsed, apply,
      preparePeer, bind, Except.bind, pure, Except.pure]
  have alive (device : Device) :
      applyLine (device, some key) ("persistent_keepalive_interval=" ++ fmtNat secs) =
        .ok (device.modifyPeer key fun peer => { peer with keepalive := secs }, some key) := by
    simp [applyLine, parse_keepalive, parseUnsigned_fmtNat small, apply]
  rw [peerLines, List.foldlM_append, prepared]
  simp only [bind, Except.bind, List.foldlM_append, List.foldlM_cons, List.foldlM_nil]
  cases routed : (texts.map fun text => "allowed_ip=" ++ text).foldlM applyLine
      (device.preparePeer key addr, some key) with
  | error stopped =>
    have bad : ¬∀ text ∈ texts, (IpPrefix.ofText text).isSome := by
      intro all
      have good := (@foldlM_allowedIps (device.preparePeer key addr) key texts _).mpr ⟨all, rfl⟩
      rw [routed] at good
      cases good
    simp [bad]
  | ok state =>
    obtain ⟨all, rfl⟩ := foldlM_allowedIps.mp routed
    simp only [alive, pure, Except.pure, Except.ok.injEq]
    exact ⟨fun eq => ⟨all, eq.symm⟩, fun h => h.2.symm⟩

/-- A setting of the device itself. -/
def KeepsPeers (setting : Setting) : Prop :=
  (∃ key, setting = .privateKey key) ∨ ∃ port, setting = .listenPort port

/-- The device in the result of a request, whether it succeeded or not. -/
def leftBy : Except Device (Device × Option Key) → Device
  | .ok state => state.1
  | .error stopped => stopped

theorem peers_foldlM {lines : List String} (keeps : ∀ line ∈ lines, ∀ setting,
    Setting.parse line = some setting → KeepsPeers setting) (state : Device × Option Key) :
    (leftBy (lines.foldlM applyLine state)).peers = state.1.peers := by
  induction lines generalizing state with
  | nil => rfl
  | cons line lines ih =>
    have rest := ih fun other mem => keeps other (List.mem_cons_of_mem line mem)
    rw [List.foldlM_cons]
    cases step : applyLine state line with
    | error stopped =>
      have same : stopped = state.1 := by
        unfold applyLine at step
        split at step <;> cases step
        rfl
      simp only [bind, Except.bind, leftBy, same]
    | ok next =>
      obtain ⟨setting, parsed, applied⟩ := applyLine_eq_ok.mp step
      have same : next.1.peers = state.1.peers := by
        rcases keeps line List.mem_cons_self setting parsed with ⟨key, rfl⟩ | ⟨port, rfl⟩ <;>
          · obtain rfl := Option.some.inj applied
            rfl
      exact (rest next).trans same

/-- A request with settings of the device only leaves the peers alone, however far it is read. -/
theorem peers_set {text : String} {lines : List String} (cut : split '\n' text = "set=1" :: lines)
    (keeps : ∀ line ∈ lines, ∀ setting, Setting.parse line = some setting → KeepsPeers setting) :
    (∀ device', device.set text = .ok device' ∨ device.set text = .error device' →
      device'.peers = device.peers) ∧
    ∀ n, (device.afterLines text n).peers = device.peers := by
  have folded (read : List String) (sub : ∀ line ∈ read, line ∈ lines) :=
    @peers_foldlM read (fun line mem => keeps line (sub line mem)) (device, none)
  refine ⟨fun device' result => ?_, fun n => ?_⟩
  · have here := folded (lines.takeWhile (· ≠ "")) fun line mem => (List.takeWhile_sublist _).mem mem
    simp only [Device.set, cut] at result
    cases outcome : (lines.takeWhile (· ≠ "")).foldlM applyLine (device, none) with
    | error stopped =>
      rw [outcome] at here result
      rcases result with result | result <;> cases result
      exact here
    | ok state =>
      rw [outcome] at here result
      rcases result with result | result <;> cases result
      exact here
  · cases n with
    | zero => simp [afterLines]
    | succ n =>
      have here := folded ((lines.take n).takeWhile (· ≠ "")) fun line mem =>
        List.mem_of_mem_take ((List.takeWhile_sublist _).mem mem)
      simp only [afterLines, cut, List.take_succ_cons]
      cases outcome : ((lines.take n).takeWhile (· ≠ "")).foldlM applyLine (device, none) <;>
        · rw [outcome] at here
          exact here

end Device

/-! ## A list of peers -/

structure PeerConfig where
  key : Key
  addr : SocketAddr
  allowedIps : List IpPrefix
  deriving DecidableEq

/-- Two configurations that can be installed side by side. -/
def Compatible (x y : PeerConfig) : Prop := x.key ≠ y.key ∧ ∀ ip ∈ x.allowedIps, ip ∉ y.allowedIps

instance : Std.Symm Compatible where
  symm _ _ h := ⟨h.1.symm, fun ip inY inX => h.2 ip inX inY⟩

namespace Device

variable {device : Device}

/-- The device has exactly the given peers, each with its endpoint and its prefixes. -/
structure Holds (device : Device) (configs : List PeerConfig) : Prop where
  complete : ∀ config ∈ configs, ∃ peer, device.peers.lookup config.key = some peer ∧
    peer.endpoint = some config.addr ∧ ∀ ip, ip ∈ peer.allowedIps ↔ ip ∈ config.allowedIps
  sole : ∀ key peer, device.peers.lookup key = some peer → ∃ config ∈ configs, config.key = key

def putPeers (device : Device) (configs : List PeerConfig) (secs : Nat) : Device :=
  configs.foldl (fun device config =>
    device.putPeer config.key config.addr config.allowedIps secs) device

/-- The device has taken the configurations, which may overlap: an entry for every key that was put and no
other, with prefixes put for its own key only. A configuration that shares neither its key nor a prefix with
another one is there in full. -/
structure Took (device : Device) (configs : List PeerConfig) : Prop where
  listed : ∀ key, (device.peers.lookup key).isSome ↔ ∃ config ∈ configs, config.key = key
  routed : ∀ key peer, device.peers.lookup key = some peer → ∀ ip ∈ peer.allowedIps,
    ∃ config ∈ configs, config.key = key ∧ ip ∈ config.allowedIps
  given : ∀ config ∈ configs, (∀ other ∈ configs, other ≠ config → Compatible other config) →
    ∀ peer, device.peers.lookup config.key = some peer →
      peer.endpoint = some config.addr ∧ ∀ ip ∈ config.allowedIps, ip ∈ peer.allowedIps

theorem Took.nil (device : Device) : ({ device with peers := ∅ } : Device).Took [] where
  listed := by simp
  routed := by simp
  given := by simp

theorem Took.putPeer {configs : List PeerConfig} (h : device.Took configs) (config : PeerConfig)
    (secs : Nat) :
    (device.putPeer config.key config.addr config.allowedIps secs).Took (configs ++ [config]) where
  listed := by
    intro key
    by_cases same : key = config.key
    · obtain ⟨peer, found, -⟩ :=
        lookup_putPeer_self device config.key config.addr config.allowedIps secs
      subst same
      exact iff_of_true (by simp [found]) ⟨config, by simp, rfl⟩
    · obtain ⟨change, found, -⟩ :=
        @lookup_putPeer_ne device config.key key same config.addr config.allowedIps secs
      simp [found, h.listed, or_and_right, exists_or, Ne.symm same]
  routed := by
    intro key peer found ip held
    by_cases same : key = config.key
    · obtain ⟨put, found', -, -, members⟩ :=
        lookup_putPeer_self device config.key config.addr config.allowedIps secs
      obtain rfl := Option.some.inj (found'.symm.trans (same ▸ found))
      exact ⟨config, by simp, same.symm, (members ip).mp held⟩
    · obtain ⟨change, found', spec⟩ :=
        @lookup_putPeer_ne device config.key key same config.addr config.allowedIps secs
      rw [found'] at found
      obtain ⟨before, had, rfl⟩ := Option.map_eq_some_iff.mp found
      obtain ⟨other, mem, eq, ips⟩ := h.routed key before had ip (((spec before).2.2 ip).mp held).1
      exact ⟨other, List.mem_append_left _ mem, eq, ips⟩
  given := by
    intro taken mem alone peer found
    by_cases last : taken = config
    · subst last
      obtain ⟨put, found', endpoint, -, members⟩ :=
        lookup_putPeer_self device taken.key taken.addr taken.allowedIps secs
      obtain rfl := Option.some.inj (found'.symm.trans found)
      exact ⟨endpoint, fun ip => (members ip).mpr⟩
    · have old : taken ∈ configs := by simpa [last] using mem
      obtain ⟨ne, disjoint⟩ := alone config (by simp) (Ne.symm last)
      obtain ⟨change, found', spec⟩ :=
        @lookup_putPeer_ne device config.key taken.key ne.symm config.addr config.allowedIps secs
      rw [found'] at found
      obtain ⟨before, had, rfl⟩ := Option.map_eq_some_iff.mp found
      obtain ⟨endpoint, ips⟩ := h.given taken old
        (fun other mem => alone other (List.mem_append_left _ mem)) before had
      exact ⟨(spec before).1.trans endpoint, fun ip mem =>
        ((spec before).2.2 ip).mpr ⟨ips ip mem, fun put => disjoint ip put mem⟩⟩

theorem Took.putPeers {done configs : List PeerConfig} (h : device.Took done) (secs : Nat) :
    (device.putPeers configs secs).Took (done ++ configs) := by
  induction configs generalizing device done with
  | nil => simpa [Device.putPeers] using h
  | cons config configs ih =>
    rw [Device.putPeers, List.foldl_cons, ← Device.putPeers]
    simpa using ih (h.putPeer config secs)

/-- Configurations that can all be installed side by side are all there in full. -/
theorem Took.holds {configs : List PeerConfig} (h : device.Took configs)
    (apart : configs.Pairwise Compatible) : device.Holds configs where
  complete := by
    intro config mem
    have alone : ∀ other ∈ configs, other ≠ config → Compatible other config := fun other listed ne =>
      apart.forall listed mem ne
    obtain ⟨peer, found⟩ := Option.isSome_iff_exists.mp ((h.listed config.key).mpr ⟨config, mem, rfl⟩)
    obtain ⟨endpoint, ips⟩ := h.given config mem alone peer found
    refine ⟨peer, found, endpoint, fun ip => ⟨fun held => ?_, ips ip⟩⟩
    obtain ⟨other, listed, same, put⟩ := h.routed config.key peer found ip held
    by_cases eq : other = config
    · exact eq ▸ put
    · exact absurd same (alone other listed eq).1
  sole := fun key peer found => (h.listed key).mp (by simp [found])

end Device

end WireGuard
