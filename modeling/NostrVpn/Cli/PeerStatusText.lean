import NostrVpn.Cli.TunnelRuntime
import NostrVpn.Rust.Replace

/-!
# The status of the peers, from the text of the device

`parse_wg_peer_status` goes through the lines of the answer to `get=1`. The lines after `public_key=` belong to
that peer, and they come in any order.
-/
namespace NostrVpn.Cli

open Rust Rust.Net NostrVpn.Core WireGuard

/-! ## The loop over the lines -/

/-- `str::to_lowercase`, by the tables of Unicode. They say of ASCII texts what `to_ascii_lowercase` does. -/
structure Lowercase where
  toLowercase : String → String
  ascii : ∀ text : String, (∀ c ∈ text.toList, c.val < 128) → toLowercase text = toAsciiLowercase text

/-- `value.trim().parse::<u64>()`. -/
def parseTrimmed (value : String) : Option Nat := parseUnsigned u64Max (trim value)

/-- What a line changes in the status of the current peer. -/
def WireGuardPeerStatus.readLine (status : WireGuardPeerStatus) (line : String) : WireGuardPeerStatus :=
  match stripPrefix "endpoint=" line with
  | some value => { status with endpoint := some (trim value) }
  | none => match stripPrefix "last_handshake_time_sec=" line with
    | some value => { status with lastHandshakeSec := (parseTrimmed value).or status.lastHandshakeSec }
    | none => match (stripPrefix "last_handshake_time_nsec=" line).bind parseTrimmed with
      | some parsed => { status with lastHandshakeNsec := some parsed }
      | none => match stripPrefix "tx_bytes=" line with
        | some value => { status with txBytes := (parseTrimmed value).getD status.txBytes }
        | none => match (stripPrefix "rx_bytes=" line).bind parseTrimmed with
          | some parsed => { status with rxBytes := parsed }
          | none => status

/-- The variables of `parse_wg_peer_status`. -/
structure StatusParser where
  peers : PeerStatuses := ∅
  currentPubkey : Option String := none
  current : WireGuardPeerStatus := {}

def StatusParser.commitCurrent (parser : StatusParser) : StatusParser :=
  match parser.currentPubkey with
  | some pubkey => { peers := parser.peers.insert pubkey parser.current }
  | none => parser

/-- The body of the loop. -/
def StatusParser.line (lowercase : Lowercase) (parser : StatusParser) (line : String) : StatusParser :=
  if line = "" ∨ line = "errno=0" then parser
  else match stripPrefix "public_key=" line with
    | some value =>
      { parser.commitCurrent with currentPubkey := some (lowercase.toLowercase (trim value)) }
    | none =>
      if parser.currentPubkey = none then parser
      else { parser with current := parser.current.readLine line }

def parseWgPeerStatus (lowercase : Lowercase) (response : String) : PeerStatuses :=
  ((lines response).foldl (StatusParser.line lowercase) {}).commitCurrent.peers

/-! ## What the device reports -/

/-- A text without white space. -/
structure SolidText where
  text : String
  solid : ∀ c ∈ text.toList, isWhitespace c = false
deriving DecidableEq

/-- The text of an address. -/
def SolidText.ofAddr (addr : SocketAddr) : SolidText :=
  ⟨addr.fmt, fun c mem =>
    isWhitespace_of_isAddressChar (isAddressChar_of_socketAddr (SocketAddr.parse_fmt addr) c mem)⟩

/-- What the lines begin with that `parse_wg_peer_status` reads. -/
def statusNames : List String :=
  ["public_key=", "endpoint=", "last_handshake_time_sec=", "last_handshake_time_nsec=", "tx_bytes=", "rx_bytes="]

/-- A line that begins with none of the names. -/
structure UnknownLine (names : List String) where
  line : String
  whole : '\n' ∉ line.toList
  unknown : ∀ name ∈ names, startsWith name line = false
deriving DecidableEq

/-- A line about a peer. -/
inductive StatusLine where
  | endpoint (endpoint : SolidText)
  | lastHandshakeSec (secs : UInt64)
  | lastHandshakeNsec (nanos : UInt64)
  | txBytes (bytes : UInt64)
  | rxBytes (bytes : UInt64)
  | unknown (line : UnknownLine statusNames)
deriving DecidableEq

namespace StatusLine

def text : StatusLine → String
  | .endpoint value => "endpoint=" ++ value.text
  | .lastHandshakeSec secs => "last_handshake_time_sec=" ++ fmtNat secs.toNat
  | .lastHandshakeNsec nanos => "last_handshake_time_nsec=" ++ fmtNat nanos.toNat
  | .txBytes bytes => "tx_bytes=" ++ fmtNat bytes.toNat
  | .rxBytes bytes => "rx_bytes=" ++ fmtNat bytes.toNat
  | .unknown line => line.line

/-- The status with what the line says. -/
def set (status : WireGuardPeerStatus) : StatusLine → WireGuardPeerStatus
  | .endpoint value => { status with endpoint := some value.text }
  | .lastHandshakeSec secs => { status with lastHandshakeSec := some secs.toNat }
  | .lastHandshakeNsec nanos => { status with lastHandshakeNsec := some nanos.toNat }
  | .txBytes bytes => { status with txBytes := bytes.toNat }
  | .rxBytes bytes => { status with rxBytes := bytes.toNat }
  | .unknown _ => status

end StatusLine

/-- A peer of the device; a field that is missing is not reported. -/
structure DevicePeer where
  key : Key
  endpoint : Option SolidText := none
  lastHandshakeSec : Option UInt64 := none
  lastHandshakeNsec : Option UInt64 := none
  txBytes : Option UInt64 := none
  rxBytes : Option UInt64 := none

namespace DevicePeer

variable (peer : DevicePeer)

/-- The fields of the peer, the missing ones with their defaults. -/
def status : WireGuardPeerStatus where
  endpoint := peer.endpoint.map SolidText.text
  lastHandshakeSec := peer.lastHandshakeSec.map UInt64.toNat
  lastHandshakeNsec := peer.lastHandshakeNsec.map UInt64.toNat
  txBytes := (peer.txBytes.map UInt64.toNat).getD 0
  rxBytes := (peer.rxBytes.map UInt64.toNat).getD 0

/-- A line for each field that is there. -/
def fields : List StatusLine :=
  (peer.endpoint.map .endpoint).toList ++ (peer.lastHandshakeSec.map .lastHandshakeSec).toList ++
    (peer.lastHandshakeNsec.map .lastHandshakeNsec).toList ++ (peer.txBytes.map .txBytes).toList ++
    (peer.rxBytes.map .rxBytes).toList

end DevicePeer

/-- The lines of a peer: its fields in any order, and unknown lines anywhere among them. -/
structure PeerReport where
  peer : DevicePeer
  unknown : List (UnknownLine statusNames)
  lines : List StatusLine
  perm : lines.Perm (peer.fields ++ unknown.map .unknown)

def PeerReport.text (report : PeerReport) : List String :=
  ("public_key=" ++ report.peer.key.fmt) :: report.lines.map StatusLine.text

/-- The lines of the interface, and the peers with distinct keys. -/
structure StatusReport where
  interface : List (UnknownLine ["public_key="])
  peers : List PeerReport
  distinct : (peers.map fun report => report.peer.key).Nodup

def StatusReport.text (report : StatusReport) : String :=
  unlines (report.interface.map UnknownLine.line ++ report.peers.flatMap PeerReport.text)

/-! ## One line -/

section Line
variable {status : WireGuardPeerStatus} {parser : StatusParser} {lowercase : Lowercase} {pubkey : String}

theorem parseTrimmed_fmtNat (n : UInt64) : parseTrimmed (fmtNat n.toNat) = some n.toNat := by
  have small : n.toNat ≤ u64Max := Nat.le_sub_one_of_lt n.toNat_lt
  rw [parseTrimmed, trim_fmtNat, parseUnsigned_fmtNat small]

/-- The line as `lines` gives it. -/
def asRead (line : String) : String := .ofList (stripCarriageReturn line.toList)

theorem asRead_of_solid {line : String} (solid : ∀ c ∈ line.toList, isWhitespace c = false) :
    asRead line = line := by
  have whole : '\r' ∉ line.toList := fun mem => by simpa [isWhitespace] using solid _ mem
  rw [asRead, stripCarriageReturn_of_notMem whole, String.ofList_toList]

theorem startsWith_asRead {names : List String} (line : UnknownLine names) {name : String} (mem : name ∈ names) :
    startsWith name (asRead line.line) = false := by
  refine Bool.eq_false_iff.mpr fun starts => ?_
  rw [startsWith, asRead, String.toList_ofList, List.isPrefixOf_iff_prefix] at starts
  have known := List.isPrefixOf_iff_prefix.mpr (starts.trans (isPrefix_stripCarriageReturn _))
  have unknown := line.unknown name mem
  rw [startsWith, known] at unknown
  cases unknown

theorem solid_statusNames : ∀ name ∈ statusNames, ∀ c ∈ name.toList, isWhitespace c = false := by decide +kernel

/-- A line of a field has no white space. -/
theorem asRead_field {name value : String} (known : name ∈ statusNames)
    (solid : ∀ c ∈ value.toList, isWhitespace c = false) : asRead (name ++ value) = name ++ value := by
  refine asRead_of_solid fun c mem => ?_
  rw [String.toList_append, List.mem_append] at mem
  exact mem.elim (solid_statusNames name known c) (solid c)

theorem readLine_endpoint (value : String) :
    status.readLine ("endpoint=" ++ value) = { status with endpoint := some (trim value) } := by
  unfold WireGuardPeerStatus.readLine
  rw [stripPrefix_append]

theorem readLine_lastHandshakeSec (secs : UInt64) :
    status.readLine ("last_handshake_time_sec=" ++ fmtNat secs.toNat) =
      { status with lastHandshakeSec := some secs.toNat } := by
  have endpoint := @stripPrefix_append_of_apart "endpoint=" "last_handshake_time_sec=" (by decide) (by decide)
  unfold WireGuardPeerStatus.readLine
  rw [endpoint, stripPrefix_append]
  dsimp only
  rw [parseTrimmed_fmtNat, Option.some_or]

theorem readLine_lastHandshakeNsec (nanos : UInt64) :
    status.readLine ("last_handshake_time_nsec=" ++ fmtNat nanos.toNat) =
      { status with lastHandshakeNsec := some nanos.toNat } := by
  have endpoint := @stripPrefix_append_of_apart "endpoint=" "last_handshake_time_nsec=" (by decide) (by decide)
  have sec := @stripPrefix_append_of_apart "last_handshake_time_sec=" "last_handshake_time_nsec=" (by decide)
    (by decide)
  unfold WireGuardPeerStatus.readLine
  rw [endpoint, sec, stripPrefix_append, Option.bind_some, parseTrimmed_fmtNat]

theorem readLine_txBytes (bytes : UInt64) :
    status.readLine ("tx_bytes=" ++ fmtNat bytes.toNat) = { status with txBytes := bytes.toNat } := by
  have endpoint := @stripPrefix_append_of_apart "endpoint=" "tx_bytes=" (by decide) (by decide)
  have sec := @stripPrefix_append_of_apart "last_handshake_time_sec=" "tx_bytes=" (by decide) (by decide)
  have nsec := @stripPrefix_append_of_apart "last_handshake_time_nsec=" "tx_bytes=" (by decide) (by decide)
  unfold WireGuardPeerStatus.readLine
  rw [endpoint, sec, nsec, stripPrefix_append]
  dsimp only [Option.bind_none]
  rw [parseTrimmed_fmtNat, Option.getD_some]

theorem readLine_rxBytes (bytes : UInt64) :
    status.readLine ("rx_bytes=" ++ fmtNat bytes.toNat) = { status with rxBytes := bytes.toNat } := by
  have endpoint := @stripPrefix_append_of_apart "endpoint=" "rx_bytes=" (by decide) (by decide)
  have sec := @stripPrefix_append_of_apart "last_handshake_time_sec=" "rx_bytes=" (by decide) (by decide)
  have nsec := @stripPrefix_append_of_apart "last_handshake_time_nsec=" "rx_bytes=" (by decide) (by decide)
  have tx := @stripPrefix_append_of_apart "tx_bytes=" "rx_bytes=" (by decide) (by decide)
  unfold WireGuardPeerStatus.readLine
  rw [endpoint, sec, nsec, tx, stripPrefix_append, Option.bind_some, parseTrimmed_fmtNat]
  rfl

theorem readLine_unknown {line : String} (unknown : ∀ name ∈ statusNames, startsWith name line = false) :
    status.readLine line = status := by
  have absent (name : String) (known : name ∈ statusNames) : stripPrefix name line = none :=
    stripPrefix_eq_none (unknown name known)
  unfold WireGuardPeerStatus.readLine
  rw [absent "endpoint=" (by simp [statusNames]), absent "last_handshake_time_sec=" (by simp [statusNames]),
    absent "last_handshake_time_nsec=" (by simp [statusNames]), absent "tx_bytes=" (by simp [statusNames]),
    absent "rx_bytes=" (by simp [statusNames])]
  rfl

/-- What the loop does with a line that names no peer. -/
theorem line_of_other (lowercase : Lowercase) (parser : StatusParser) {line : String} (other : startsWith "public_key=" line = false) :
    parser.line lowercase line = parser ∨
      parser.currentPubkey ≠ none ∧ parser.line lowercase line = { parser with current := parser.current.readLine line } := by
  unfold StatusParser.line
  rw [stripPrefix_eq_none other]
  split_ifs with special idle
  · exact Or.inl rfl
  · exact Or.inl rfl
  · exact Or.inr ⟨idle, rfl⟩

/-- A line of a field of the peer whose key was read before. -/
theorem line_of_field (key : parser.currentPubkey = some pubkey) {name : String} (filled : name ≠ "")
    (apart : startsWith "public_key=" name = false) (apart' : startsWith name "public_key=" = false)
    (last : startsWith name "errno=0" = false) (value : String) :
    parser.line lowercase (name ++ value) = { parser with current := parser.current.readLine (name ++ value) } := by
  have special : ¬ (name ++ value = "" ∨ name ++ value = "errno=0") := by
    rintro (empty | errno)
    · exact filled (String.append_eq_empty_iff.mp empty).1
    · have starts : startsWith name "errno=0" = true := by
        rw [← errno, startsWith, List.isPrefixOf_iff_prefix, String.toList_append]
        exact List.prefix_append _ _
      rw [last] at starts
      cases starts
  rw [StatusParser.line, if_neg special, stripPrefix_append_of_apart apart apart']
  simp only [key, reduceCtorEq, if_false]

theorem line_text (key : parser.currentPubkey = some pubkey) (line : StatusLine) :
    parser.line lowercase (asRead line.text) = { parser with current := line.set parser.current } := by
  have number (name : String) (known : name ∈ statusNames) (n : UInt64) :
      asRead (name ++ fmtNat n.toNat) = name ++ fmtNat n.toNat :=
    asRead_field known fun _ => isWhitespace_of_mem_fmtNat
  cases line with
  | endpoint value =>
    change parser.line lowercase (asRead ("endpoint=" ++ value.text)) = { parser with current := { parser.current with
      endpoint := some value.text } }
    rw [asRead_field (by simp [statusNames]) value.solid,
      line_of_field key (by decide) (by decide) (by decide) (by decide), readLine_endpoint,
      trim_eq_self value.solid]
  | lastHandshakeSec secs =>
    change parser.line lowercase (asRead ("last_handshake_time_sec=" ++ fmtNat secs.toNat)) = { parser with
      current := { parser.current with lastHandshakeSec := some secs.toNat } }
    rw [number _ (by simp [statusNames]), line_of_field key (by decide) (by decide) (by decide) (by decide),
      readLine_lastHandshakeSec]
  | lastHandshakeNsec nanos =>
    change parser.line lowercase (asRead ("last_handshake_time_nsec=" ++ fmtNat nanos.toNat)) = { parser with
      current := { parser.current with lastHandshakeNsec := some nanos.toNat } }
    rw [number _ (by simp [statusNames]), line_of_field key (by decide) (by decide) (by decide) (by decide),
      readLine_lastHandshakeNsec]
  | txBytes bytes =>
    change parser.line lowercase (asRead ("tx_bytes=" ++ fmtNat bytes.toNat)) = { parser with current := { parser.current with
      txBytes := bytes.toNat } }
    rw [number _ (by simp [statusNames]), line_of_field key (by decide) (by decide) (by decide) (by decide),
      readLine_txBytes]
  | rxBytes bytes =>
    change parser.line lowercase (asRead ("rx_bytes=" ++ fmtNat bytes.toNat)) = { parser with current := { parser.current with
      rxBytes := bytes.toNat } }
    rw [number _ (by simp [statusNames]), line_of_field key (by decide) (by decide) (by decide) (by decide),
      readLine_rxBytes]
  | unknown line =>
    have other := startsWith_asRead line (by simp [statusNames] : "public_key=" ∈ statusNames)
    have reads : parser.current.readLine (asRead line.line) = parser.current :=
      readLine_unknown fun name known => startsWith_asRead line known
    change parser.line lowercase (asRead line.line) = parser
    rcases line_of_other lowercase parser other with ignored | ⟨-, read⟩
    · exact ignored
    · rw [read, reads]

theorem line_interface (idle : parser.currentPubkey = none) (line : UnknownLine ["public_key="]) :
    parser.line lowercase (asRead line.line) = parser := by
  rcases line_of_other lowercase parser (startsWith_asRead line (List.mem_singleton_self _)) with ignored | ⟨key, -⟩
  · exact ignored
  · exact absurd idle key

/-- The digits of a key are lowercase. -/
theorem digits_of_key (key : Key) :
    ∀ c ∈ key.fmt.toList, isWhitespace c = false ∧ c.toLower = c ∧ c.val < 128 := by
  have digits : ∀ n < 16, isWhitespace (Nat.digitChar n) = false ∧
      (Nat.digitChar n).toLower = Nat.digitChar n ∧ (Nat.digitChar n).val < 128 := by
    decide
  intro c mem
  rw [Key.fmt, String.toList_ofList, encodeHex, List.mem_flatMap] at mem
  obtain ⟨byte, -, mem⟩ := mem
  have small : byte.toNat < 256 := byte.toNat_lt_size
  simp only [List.mem_cons, List.not_mem_nil, or_false] at mem
  rcases mem with rfl | rfl
  · exact digits _ (by omega)
  · exact digits _ (by omega)

theorem line_public_key (parser : StatusParser) (value : String) : parser.line lowercase ("public_key=" ++ value) =
    { parser.commitCurrent with currentPubkey := some (lowercase.toLowercase (trim value)) } := by
  have special : ¬ ("public_key=" ++ value = "" ∨ "public_key=" ++ value = "errno=0") := by
    simp [← String.toList_inj]
  rw [StatusParser.line, if_neg special, stripPrefix_append]

theorem line_key (parser : StatusParser) (key : Key) :
    parser.line lowercase (asRead ("public_key=" ++ key.fmt)) =
      { parser.commitCurrent with currentPubkey := some key.fmt } := by
  have solid (c : Char) (mem : c ∈ key.fmt.toList) : isWhitespace c = false := (digits_of_key key c mem).1
  have lower : lowercase.toLowercase (trim key.fmt) = key.fmt := by
    rw [trim_eq_self solid, lowercase.ascii _ fun c mem => (digits_of_key key c mem).2.2, toAsciiLowercase,
      List.map_congr_left fun c mem => (digits_of_key key c mem).2.1, List.map_id', String.ofList_toList]
  rw [asRead_field (by simp [statusNames]) solid, line_public_key, lower]

end Line

/-! ## The lines of a peer -/

section Peer
variable {parser : StatusParser} {lowercase : Lowercase}

/-- Two lines of one peer set different fields, or they are the same line. -/
theorem set_comm {peer : DevicePeer} {unknown : List (UnknownLine statusNames)} {first second : StatusLine}
    (listed : first ∈ peer.fields ++ unknown.map .unknown) (listed' : second ∈ peer.fields ++ unknown.map .unknown)
    (status : WireGuardPeerStatus) : StatusLine.set (StatusLine.set status first) second =
      StatusLine.set (StatusLine.set status second) first := by
  cases first <;> cases second <;> try rfl
  all_goals
    simp only [DevicePeer.fields, List.mem_append, Option.mem_toList, Option.map_eq_some_iff,
      List.mem_map] at listed listed'
    grind

/-- The lines of a peer, in whatever order, give its status. -/
theorem foldl_set_lines (report : PeerReport) : report.lines.foldl StatusLine.set {} = report.peer.status := by
  have unknown (lines : List (UnknownLine statusNames)) (status : WireGuardPeerStatus) :
      (lines.map StatusLine.unknown).foldl StatusLine.set status = status := by
    induction lines with
    | nil => rfl
    | cons line lines ih => exact ih
  have ordered := report.perm.foldl_eq' (fun first mem second mem' status =>
    set_comm (report.perm.mem_iff.mp mem) (report.perm.mem_iff.mp mem') status) {}
  rw [ordered, List.foldl_append, unknown]
  obtain ⟨key, endpoint, sec, nsec, tx, rx⟩ := report.peer
  cases endpoint <;> cases sec <;> cases nsec <;> cases tx <;> cases rx <;> rfl

theorem foldl_line_lines {pubkey : String} (lines : List StatusLine) (key : parser.currentPubkey = some pubkey) :
    (lines.map fun line => asRead line.text).foldl (StatusParser.line lowercase) parser =
      { parser with current := lines.foldl StatusLine.set parser.current } := by
  induction lines generalizing parser with
  | nil => rfl
  | cons line lines ih =>
    rw [List.map_cons, List.foldl_cons, line_text key]
    exact @ih { parser with current := line.set parser.current } key

/-- A report leaves its peer to be committed, whatever was read before. -/
theorem commit_report {table : PeerStatuses} (fresh : parser.commitCurrent = { peers := table })
    (report : PeerReport) : ((report.text.map asRead).foldl (StatusParser.line lowercase) parser).commitCurrent =
      { peers := table.insert report.peer.key.fmt report.peer.status } := by
  have lines : (report.text.map asRead) = asRead ("public_key=" ++ report.peer.key.fmt) ::
      report.lines.map fun line => asRead line.text := by
    simp [PeerReport.text]
  rw [lines, List.foldl_cons, line_key, fresh, foldl_line_lines _ rfl]
  dsimp only
  rw [foldl_set_lines]
  rfl

theorem commit_reports {table : PeerStatuses} (fresh : parser.commitCurrent = { peers := table })
    (reports : List PeerReport) :
    (((reports.flatMap PeerReport.text).map asRead).foldl (StatusParser.line lowercase) parser).commitCurrent =
      { peers := reports.foldl (fun table report => table.insert report.peer.key.fmt report.peer.status) table } := by
  induction reports generalizing parser table with
  | nil => exact fresh
  | cons report reports ih =>
    rw [List.flatMap_cons, List.map_append, List.foldl_append, ih (commit_report fresh report), List.foldl_cons]

theorem foldl_line_interface (lines : List (UnknownLine ["public_key="])) :
    ((lines.map UnknownLine.line).map asRead).foldl (StatusParser.line lowercase) {} = {} := by
  induction lines with
  | nil => rfl
  | cons line lines ih =>
    rw [List.map_cons, List.map_cons, List.foldl_cons, line_interface rfl]
    exact ih

end Peer

/-! ## The whole text -/

/-- No line of a report has a line break in it. -/
theorem whole_lines (report : StatusReport) : ∀ line ∈ report.interface.map UnknownLine.line ++
    report.peers.flatMap PeerReport.text, '\n' ∉ line.toList := by
  have field {name value : String} (known : name ∈ statusNames)
      (solid : ∀ c ∈ value.toList, isWhitespace c = false) : '\n' ∉ (name ++ value).toList := by
    rw [String.toList_append, List.mem_append, not_or]
    exact ⟨fun mem => by simpa [isWhitespace] using solid_statusNames name known _ mem,
      fun mem => by simpa [isWhitespace] using solid _ mem⟩
  have number {name : String} (known : name ∈ statusNames) (n : UInt64) :
      '\n' ∉ (name ++ fmtNat n.toNat).toList := field known fun _ => isWhitespace_of_mem_fmtNat
  intro line mem
  rw [List.mem_append, List.mem_map, List.mem_flatMap] at mem
  rcases mem with ⟨line, -, rfl⟩ | ⟨peer, -, mem⟩
  · exact line.whole
  rcases List.mem_cons.mp mem with rfl | mem
  · exact field (by simp [statusNames]) fun c mem => (digits_of_key peer.peer.key c mem).1
  obtain ⟨line, -, rfl⟩ := List.mem_map.mp mem
  cases line with
  | endpoint value => exact @field "endpoint=" _ (by simp [statusNames]) value.solid
  | lastHandshakeSec secs => exact @number "last_handshake_time_sec=" (by simp [statusNames]) secs
  | lastHandshakeNsec nanos => exact @number "last_handshake_time_nsec=" (by simp [statusNames]) nanos
  | txBytes bytes => exact @number "tx_bytes=" (by simp [statusNames]) bytes
  | rxBytes bytes => exact @number "rx_bytes=" (by simp [statusNames]) bytes
  | unknown line => exact line.whole

theorem parseWgPeerStatus_eq (lowercase : Lowercase) (report : StatusReport) : parseWgPeerStatus lowercase report.text =
    HashMap.ofList (report.peers.map fun report => (report.peer.key.fmt, report.peer.status)) := by
  have read : lines report.text =
      (report.interface.map UnknownLine.line ++ report.peers.flatMap PeerReport.text).map asRead :=
    lines_unlines (whole_lines report)
  rw [parseWgPeerStatus, read, List.map_append, List.foldl_append, foldl_line_interface,
    @commit_reports {} lowercase ∅ rfl, HashMap.ofList, List.foldl_map]

/-- The text of a device gives one entry for each of its peers, with the peer's fields. -/
theorem one_status_for_each_peer (lowercase : Lowercase) (report : StatusReport) :
    (parseWgPeerStatus lowercase report.text).toList.Perm
    (report.peers.map fun report => (report.peer.key.fmt, report.peer.status)) := by
  rw [parseWgPeerStatus_eq]
  refine HashMap.toList_ofList_of_nodup ?_
  have injective : Function.Injective Key.fmt := fun key key' same => by
    simpa using congrArg Key.parse same
  simpa [Function.comp_def] using report.distinct.map injective

/-- The lowercase of ASCII texts. -/
def asciiLowercase : Lowercase := ⟨toAsciiLowercase, fun _ _ => rfl⟩

/-- A peer with every field, in another order than its declaration and among lines that are not read. -/
def busyPeer : PeerReport where
  peer := {
    key := ⟨List.replicate 32 0x1b, rfl⟩
    endpoint := some ⟨"203.0.113.7:51820", by decide⟩
    lastHandshakeSec := some 1700000000
    lastHandshakeNsec := some 5
    txBytes := some 100
    rxBytes := some 200 }
  unknown := [⟨"allowed_ip=10.44.0.2/32", by decide, by decide⟩, ⟨"persistent_keepalive_interval=5", by decide, by decide⟩]
  lines := [.unknown ⟨"persistent_keepalive_interval=5", by decide, by decide⟩, .rxBytes 200, .lastHandshakeNsec 5,
    .endpoint ⟨"203.0.113.7:51820", by decide⟩, .unknown ⟨"allowed_ip=10.44.0.2/32", by decide, by decide⟩,
    .txBytes 100, .lastHandshakeSec 1700000000]
  perm := by decide +kernel

/-- A peer that has not answered yet, and the lines at the end. -/
def silentPeer : PeerReport where
  peer := { key := ⟨List.replicate 32 0x2c, rfl⟩, txBytes := some 7 }
  unknown := [⟨"errno=0", by decide, by decide⟩, ⟨"", by decide, by decide⟩]
  lines := [.txBytes 7, .unknown ⟨"errno=0", by decide, by decide⟩, .unknown ⟨"", by decide, by decide⟩]
  perm := List.Perm.refl _

def sampleStatusReport : StatusReport where
  interface := [⟨"own_public_key=" ++ Key.fmt ⟨List.replicate 32 0x0a, rfl⟩, by decide, by decide⟩,
    ⟨"listen_port=51820", by decide, by decide⟩]
  peers := [busyPeer, silentPeer]
  distinct := by decide

/-- Neither peer has a field of the other. -/
theorem one_status_for_each_peer_of_two : (parseWgPeerStatus asciiLowercase sampleStatusReport.text).toList.Perm
    [("1b1b1b1b1b1b1b1b1b1b1b1b1b1b1b1b1b1b1b1b1b1b1b1b1b1b1b1b1b1b1b1b",
        { endpoint := some "203.0.113.7:51820", lastHandshakeSec := some 1700000000, lastHandshakeNsec := some 5
          txBytes := 100, rxBytes := 200 }),
      ("2c2c2c2c2c2c2c2c2c2c2c2c2c2c2c2c2c2c2c2c2c2c2c2c2c2c2c2c2c2c2c2c", { txBytes := 7 })] :=
  one_status_for_each_peer asciiLowercase sampleStatusReport

end NostrVpn.Cli
