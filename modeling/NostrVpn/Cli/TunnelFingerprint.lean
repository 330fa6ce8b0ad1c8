import NostrVpn.Cli.TunnelRuntime

/-!
# What a fingerprint determines

A fingerprint is built by string concatenation from texts that a configuration and other nodes choose.
If the peers of one of two equal fingerprints are made of keys, socket addresses and prefixes, the
other has the same peers: cutting the text at its slashes gives the route targets, and cutting what is
left at its bars gives the peer entries.
-/
namespace NostrVpn.Cli

open Rust Rust.Net NostrVpn.Core WireGuard

/-! ## Texts that end in a slash and a number -/

def isBitsChar (c : Char) : Bool := (toDigit 10 c).isSome || c == '+'

/-- One slash and a number behind it, as in a prefix; what stands before may be any text. -/
def Slashed (text : String) : Prop :=
  ∃ head bits, text = head ++ "/" ++ bits ∧ '/' ∉ head.toList ∧ ∀ c ∈ bits.toList, isBitsChar c

/-- The last slash of the text has only a number behind it. -/
def EndsSlashed (text : String) : Prop :=
  ∃ front bits, text = front ++ "/" ++ bits ∧ ∀ c ∈ bits.toList, isBitsChar c

theorem slashed_of_prefix {text : String} (h : (IpPrefix.ofText text).isSome) : Slashed text := by
  obtain ⟨p, parsed⟩ := Option.isSome_iff_exists.mp h
  obtain ⟨addr, bits, rfl, addrRead, bitsRead⟩ := exists_parts_of_prefix parsed
  obtain ⟨ip, addrRead⟩ := Option.isSome_iff_exists.mp addrRead
  refine ⟨addr, bits, rfl, ?_, ?_⟩
  · intro mem
    exact absurd (isAddressChar_of_ip addrRead '/' mem) (by decide)
  · intro c mem
    rcases digits_of_parseUnsigned bitsRead c mem with digit | rfl
    · simp [isBitsChar, digit]
    · simp [isBitsChar]

theorem slashed_slash32 {ip : String} (slash : '/' ∉ ip.toList) : Slashed (ip ++ "/32") := by
  have number : ("32".toList.all isBitsChar) = true := by decide +kernel
  refine ⟨ip, "32", ?_, slash, List.all_eq_true.mp number⟩
  have ending : String.ofList ['/'] ++ "32" = "/32" := by decide +kernel
  rw [String.append_assoc, ending]

theorem Slashed.endsSlashed {text : String} (h : Slashed text) : EndsSlashed text := by
  obtain ⟨head, bits, eq, -, digits⟩ := h
  exact ⟨head, bits, eq, digits⟩

theorem EndsSlashed.prepend {text : String} (h : EndsSlashed text) (pre : String) :
    EndsSlashed (pre ++ text) := by
  obtain ⟨front, bits, rfl, digits⟩ := h
  exact ⟨pre ++ front, bits, by simp only [String.append_assoc], digits⟩

theorem EndsSlashed.join {sep : String} {l : List String} (ne : l ≠ [])
    (h : ∀ text ∈ l, EndsSlashed text) : EndsSlashed (join sep l) := by
  induction l with
  | nil => exact absurd rfl ne
  | cons text l ih =>
    by_cases last : l = []
    · subst last
      exact h text List.mem_cons_self
    · rw [join_cons sep last]
      exact (ih last fun t mem => h t (List.mem_cons_of_mem text mem)).prepend _

theorem EndsSlashed.slash_mem {text : String} (h : EndsSlashed text) : '/' ∈ text.toList := by
  obtain ⟨front, bits, rfl, -⟩ := h
  simp

/-! ## Lists of slashed texts -/

/-- What follows the number at the start of a piece. -/
def afterBits (piece : String) : List Char := piece.toList.dropWhile isBitsChar

theorem afterBits_append {bits : String} (digits : ∀ c ∈ bits.toList, isBitsChar c) (s : String) :
    afterBits (bits ++ s) = afterBits s := by
  rw [afterBits, String.toList_append, List.dropWhile_append_of_pos digits]
  rfl

/-- A list that goes on does so with a comma. -/
def listTail (l : List String) : String := if l = [] then "" else "," ++ join "," l

theorem join_cons_listTail (text : String) (l : List String) :
    join "," (text :: l) = text ++ listTail l := by
  by_cases last : l = []
  · simp [last, listTail, join]
  · rw [join_cons _ last, listTail, if_neg last, String.append_assoc]

theorem afterBits_listTail (l : List String) : afterBits (listTail l) = (listTail l).toList := by
  by_cases last : l = []
  · simp [last, listTail, afterBits]
  · have comma : isBitsChar ',' = false := by decide
    simp [listTail, last, afterBits, comma]

theorem join_slashed_injective {l l' : List String} (h : ∀ text ∈ l, Slashed text)
    (h' : ∀ text ∈ l', Slashed text) (eq : join "," l = join "," l') : l = l' := by
  have ne_empty {t : String} {l : List String} (h : ∀ text ∈ t :: l, Slashed text) :
      join "," (t :: l) ≠ "" := by
    intro empty
    have slash := (EndsSlashed.join (by simp) fun text mem => (h text mem).endsSlashed :
      EndsSlashed (join "," (t :: l))).slash_mem
    simp [empty] at slash
  induction l generalizing l' with
  | nil =>
    cases l' with
    | nil => rfl
    | cons text' l' => exact absurd eq.symm (ne_empty h')
  | cons text l ih =>
    cases l' with
    | nil => exact absurd eq (ne_empty h)
    | cons text' l' =>
      obtain ⟨head, bits, rfl, slash, digits⟩ := h _ List.mem_cons_self
      obtain ⟨head', bits', rfl, slash', digits'⟩ := h' _ List.mem_cons_self
      rw [join_cons_listTail, join_cons_listTail] at eq
      have cut {head bits : String} (tail : String) (slash : '/' ∉ head.toList) :
          splitOnce '/' (head ++ "/" ++ bits ++ tail) = some (head, bits ++ tail) := by
        rw [@String.append_assoc (head ++ "/")]
        exact splitOnce_append _ slash
      have parts := congrArg (splitOnce '/') eq
      rw [cut _ slash, cut _ slash'] at parts
      obtain ⟨rfl, rest⟩ := Prod.mk.inj (Option.some.inj parts)
      have tails : listTail l = listTail l' := by
        have after := congrArg afterBits rest
        rw [afterBits_append digits, afterBits_append digits', afterBits_listTail,
          afterBits_listTail] at after
        exact String.toList_inj.mp after
      rw [tails] at rest
      obtain rfl := (String.append_left_inj _).mp rest
      have next : l = l' := by
        by_cases last : l = [] <;> by_cases last' : l' = []
        · rw [last, last']
        · simp [listTail, last, last', ← String.toList_inj] at tails
        · simp [listTail, last, last', ← String.toList_inj] at tails
        · refine ih (fun t mem => h t (List.mem_cons_of_mem _ mem))
            (fun t mem => h' t (List.mem_cons_of_mem _ mem)) ?_
          simpa [listTail, last, last'] using tails
      rw [next]

/-- A piece that belongs to a list of slashed texts: a number, and then the list ends or goes on. -/
def InList (piece : String) : Prop := ∀ c ∈ (afterBits piece).head?, c = ','

theorem split_join_slashed {l : List String} (ne : l ≠ []) (h : ∀ text ∈ l, Slashed text) :
    ∃ head rest, split '/' (join "," l) = head :: rest ∧ ∀ piece ∈ rest, InList piece := by
  induction l with
  | nil => exact absurd rfl ne
  | cons text l ih =>
    obtain ⟨head, bits, rfl, slash, digits⟩ := h _ List.mem_cons_self
    have noSlash : '/' ∉ bits.toList := fun mem => absurd (digits '/' mem) (by decide)
    have cut (tail : String) : split '/' (head ++ "/" ++ bits ++ tail) =
        head :: split '/' (bits ++ tail) := by
      rw [@String.append_assoc (head ++ "/")]
      exact split_append _ slash
    rw [join_cons_listTail, cut]
    by_cases last : l = []
    · refine ⟨head, [bits], by simp [listTail, last, split_of_notMem noSlash], ?_⟩
      have ended := afterBits_append digits ""
      rw [String.append_empty] at ended
      have inList : InList bits := by
        rw [InList, ended]
        simp [afterBits]
      simpa using inList
    · obtain ⟨next, rest, eq, inList⟩ := ih last fun t mem => h t (List.mem_cons_of_mem _ mem)
      have comma : '/' ∉ (bits ++ ",").toList := by simpa using noSlash
      have cutComma : split '/' (bits ++ "," ++ join "," l) = (bits ++ "," ++ next) :: rest :=
        split_prepend comma eq
      refine ⟨head, (bits ++ "," ++ next) :: rest, ?_, ?_⟩
      · rw [listTail, if_neg last, ← String.append_assoc, cutComma]
      · intro piece mem
        rcases List.mem_cons.mp mem with rfl | mem
        · have noDigit : isBitsChar ',' = false := by decide
          rw [InList, String.append_assoc, afterBits_append digits]
          simp [afterBits, noDigit]
        · exact inList piece mem

/-! ## Route targets -/

/-- Equal fingerprints are built from the same base and the same route targets. -/
theorem runtimeFingerprint_injective {base base' : String} {targets targets' : List String}
    (ends : EndsSlashed base) (ends' : EndsSlashed base') (ne : targets ≠ []) (ne' : targets' ≠ [])
    (slashed : ∀ text ∈ targets, Slashed text) (slashed' : ∀ text ∈ targets', Slashed text)
    (eq : tunnelRuntimeFingerprint base targets = tunnelRuntimeFingerprint base' targets') :
    base = base' ∧ sort targets = sort targets' := by
  have cut {base : String} {targets : List String} (ends : EndsSlashed base) (ne : targets ≠ [])
      (slashed : ∀ text ∈ targets, Slashed text) :
      ∃ front bits head rest, split '/' (tunnelRuntimeFingerprint base targets) =
          front ++ (bits ++ "|routes=" ++ head) :: rest ∧ (∀ c ∈ bits.toList, isBitsChar c) ∧
        split '/' (join "," (sort targets)) = head :: rest ∧ ∀ piece ∈ rest, InList piece := by
    have sorted_ne : sort targets ≠ [] := by
      obtain ⟨text, mem⟩ := List.exists_mem_of_ne_nil _ ne
      exact List.ne_nil_of_mem (mem_sort.mpr mem)
    obtain ⟨head, rest, eq, inList⟩ := split_join_slashed sorted_ne
      fun text mem => slashed text (mem_sort.mp mem)
    obtain ⟨front, bits, rfl, digits⟩ := ends
    have noSlash : '/' ∉ (bits ++ "|routes=").toList := by
      simpa using fun mem => absurd (digits '/' mem) (by decide)
    have text : tunnelRuntimeFingerprint (front ++ "/" ++ bits) targets =
        front ++ "/" ++ (bits ++ "|routes=" ++ join "," (sort targets)) := by
      refine String.toList_inj.mp ?_
      simp [tunnelRuntimeFingerprint, toString]
    have cutFront : split '/' (front ++ "/" ++ (bits ++ "|routes=" ++ join "," (sort targets))) =
        split '/' front ++ split '/' (bits ++ "|routes=" ++ join "," (sort targets)) :=
      split_append_append front _
    have cutBits := split_prepend noSlash eq
    exact ⟨split '/' front, bits, head, rest, by rw [text, cutFront, cutBits], digits, eq, inList⟩
  obtain ⟨front, bits, head, rest, whole, digits, list, inList⟩ := cut ends ne slashed
  obtain ⟨front', bits', head', rest', whole', digits', list', inList'⟩ := cut ends' ne' slashed'
  -- the piece with the marker is the last one that is not inside the list
  have marker {bits head : String} (digits : ∀ c ∈ bits.toList, isBitsChar c) :
      afterBits (bits ++ "|routes=" ++ head) = ("|routes=" ++ head).toList := by
    have noDigit : isBitsChar '|' = false := by decide
    rw [String.append_assoc, afterBits_append digits]
    simp [afterBits, noDigit]
  have outside {bits head : String} (digits : ∀ c ∈ bits.toList, isBitsChar c) :
      ¬InList (bits ++ "|routes=" ++ head) := by
    simp [InList, marker digits]
  rw [eq, whole'] at whole
  obtain ⟨piece, rfl⟩ := append_cons_inj_of_last (outside digits') (outside digits) inList' inList whole
  have heads := congrArg afterBits piece
  rw [marker digits', marker digits, String.toList_inj] at heads
  obtain rfl := (String.append_right_inj _).mp heads
  have lists : join "," (sort targets) = join "," (sort targets') := by
    have cutList := join_split '/' (join "," (sort targets))
    rw [list, ← list'] at cutList
    exact cutList.symm.trans (join_split '/' _)
  refine ⟨?_, ?_⟩
  · simp only [tunnelRuntimeFingerprint, lists, String.append_left_inj] at eq
    exact eq
  · exact join_slashed_injective (fun text mem => slashed text (mem_sort.mp mem))
      (fun text mem => slashed' text (mem_sort.mp mem)) lists

/-! ## Peer entries -/

/-- What planning makes of a peer: a key, a socket address and slashed texts. -/
structure Entry (peer : TunnelPeer) : Prop where
  pubkeyHex : ∀ c ∈ peer.pubkeyHex.toList, (toDigit 16 c).isSome
  endpoint : ∀ c ∈ peer.endpoint.toList, isAddressChar c
  colon : ':' ∈ peer.endpoint.toList
  allowedIps_ne : peer.allowedIps ≠ []
  slashed : ∀ ip ∈ peer.allowedIps, Slashed ip

/-- All allowed IPs of the peer are prefixes. -/
def Readable (peer : TunnelPeer) : Prop := ∀ ip ∈ peer.allowedIps, (IpPrefix.ofText ip).isSome

theorem Entry.notMem_pubkeyHex {peer : TunnelPeer} (h : Entry peer) {c : Char}
    (digit : (toDigit 16 c).isSome = false) : c ∉ peer.pubkeyHex.toList := by
  intro mem
  simp [h.pubkeyHex c mem] at digit

theorem Entry.notMem_endpoint {peer : TunnelPeer} (h : Entry peer) {c : Char}
    (address : isAddressChar c = false) : c ∉ peer.endpoint.toList := by
  intro mem
  simp [h.endpoint c mem] at address

theorem Readable.notMem_join {peer : TunnelPeer} (h : Readable peer) {c : Char}
    (address : isAddressChar c = false) (slash : c ≠ '/') (plus : c ≠ '+') (comma : c ≠ ',') :
    c ∉ (join "," peer.allowedIps).toList := by
  refine Rust.notMem_join (by simpa using comma) fun ip mem => ?_
  obtain ⟨p, parsed⟩ := Option.isSome_iff_exists.mp (h ip mem)
  exact notMem_of_prefix parsed address slash plus

theorem peerEntry_eq (peer : TunnelPeer) : peerEntry peer = peer.pubkeyHex ++ "|" ++
    (peer.endpoint ++ "|" ++ join "," peer.allowedIps) := by
  refine String.toList_inj.mp ?_
  simp [peerEntry, toString]

theorem Entry.endsSlashed {peer : TunnelPeer} (h : Entry peer) : EndsSlashed (peerEntry peer) := by
  have list : EndsSlashed (join "," peer.allowedIps) :=
    EndsSlashed.join h.allowedIps_ne fun ip mem => (h.slashed ip mem).endsSlashed
  rw [peerEntry_eq]
  exact (list.prepend _).prepend _

/-- The pieces of an entry between its bars. -/
theorem Entry.split_peerEntry {peer : TunnelPeer} (h : Entry peer) (tail : String) :
    split '|' (peerEntry peer ++ tail) =
      peer.pubkeyHex :: peer.endpoint :: split '|' (join "," peer.allowedIps ++ tail) := by
  have key : '|' ∉ peer.pubkeyHex.toList := h.notMem_pubkeyHex (by decide)
  have endpoint : '|' ∉ peer.endpoint.toList := h.notMem_endpoint (by decide)
  have cut {s : String} (rest : String) (clean : '|' ∉ s.toList) :
      split '|' (s ++ "|" ++ rest) = s :: split '|' rest := split_append rest clean
  rw [peerEntry_eq, @String.append_assoc (peer.pubkeyHex ++ "|"), cut _ key,
    @String.append_assoc (peer.endpoint ++ "|"), cut _ endpoint]

/-- Two entries with the same text are of the same peer. -/
theorem Entry.peerEntry_injective {x y : TunnelPeer} (hx : Entry x) (hy : Entry y)
    (readX : Readable x) (readY : Readable y) (eq : peerEntry x = peerEntry y) : x = y := by
  have pieces := congrArg (split '|') eq
  have whole {peer : TunnelPeer} (h : Entry peer) (read : Readable peer) :
      split '|' (peerEntry peer) = [peer.pubkeyHex, peer.endpoint, join "," peer.allowedIps] := by
    have cut := h.split_peerEntry ""
    rw [String.append_empty, String.append_empty] at cut
    have clean : '|' ∉ (join "," peer.allowedIps).toList :=
      read.notMem_join (by decide) (by decide) (by decide) (by decide)
    rw [cut, split_of_notMem clean]
  rw [whole hx readX, whole hy readY] at pieces
  obtain ⟨key, endpoint, list⟩ : x.pubkeyHex = y.pubkeyHex ∧ x.endpoint = y.endpoint ∧
      join "," x.allowedIps = join "," y.allowedIps := by simpa using pieces
  have ips := join_slashed_injective hx.slashed hy.slashed list
  cases x
  cases y
  simp_all

/-- A text of peer entries: behind its first piece every piece has a colon or a slash. -/
theorem split_join_entries {peers : List TunnelPeer} (ne : peers ≠ [])
    (entries : ∀ peer ∈ peers, Entry peer) (readable : ∀ peer ∈ peers, Readable peer) :
    ∃ key rest, split '|' (join ";" (peers.map peerEntry)) = key :: rest ∧
      (':' ∉ key.toList ∧ '/' ∉ key.toList) ∧
      ∀ piece ∈ rest, ¬(':' ∉ piece.toList ∧ '/' ∉ piece.toList) := by
  induction peers with
  | nil => exact absurd rfl ne
  | cons peer peers ih =>
    have entry := entries peer List.mem_cons_self
    have key : ':' ∉ peer.pubkeyHex.toList ∧ '/' ∉ peer.pubkeyHex.toList :=
      ⟨entry.notMem_pubkeyHex (by decide), entry.notMem_pubkeyHex (by decide)⟩
    have slash : '/' ∈ (join "," peer.allowedIps).toList :=
      (EndsSlashed.join entry.allowedIps_ne fun ip mem => (entry.slashed ip mem).endsSlashed).slash_mem
    have clean : '|' ∉ (join "," peer.allowedIps).toList :=
      (readable peer List.mem_cons_self).notMem_join (by decide) (by decide) (by decide) (by decide)
    rw [List.map_cons]
    by_cases last : peers = []
    · have cut := entry.split_peerEntry ""
      rw [String.append_empty, String.append_empty, split_of_notMem clean] at cut
      refine ⟨_, _, by simpa [last, join] using cut, key, ?_⟩
      simp [entry.colon, slash]
    · obtain ⟨key', rest, eq, -, others⟩ := ih last
        (fun p mem => entries p (List.mem_cons_of_mem peer mem))
        (fun p mem => readable p (List.mem_cons_of_mem peer mem))
      have clean : '|' ∉ (join "," peer.allowedIps ++ ";").toList := by simpa using clean
      rw [join_cons _ (by simpa using last), @String.append_assoc (peerEntry peer),
        entry.split_peerEntry, ← String.append_assoc, split_prepend clean eq]
      refine ⟨_, _, rfl, key, ?_⟩
      simpa [entry.colon, slash] using others

/-! ## Equal fingerprints -/

def fingerprintHead (iface privateKey : String) (listenPort : UInt16) (localAddress : String) : String :=
  s!"{iface}|{privateKey}|{fmtNat listenPort.toNat}|{localAddress}"

theorem tunnelFingerprint_eq (iface privateKey : String) (listenPort : UInt16)
    (localAddress : String) (peers : List TunnelPeer) :
    tunnelFingerprint iface privateKey listenPort localAddress peers =
      fingerprintHead iface privateKey listenPort localAddress ++ "|" ++
        join ";" (sort (peers.map peerEntry)) := by
  refine String.toList_inj.mp ?_
  simp [tunnelFingerprint, fingerprintHead, toString]

variable {peers peers' : List TunnelPeer}

theorem mem_sortedEntries {text : String} :
    text ∈ sort (peers.map peerEntry) ↔ ∃ peer ∈ peers, peerEntry peer = text := by
  rw [mem_sort, List.mem_map]

theorem sortedEntries_ne (ne : peers ≠ []) : sort (peers.map peerEntry) ≠ [] := by
  obtain ⟨peer, mem⟩ := List.exists_mem_of_ne_nil _ ne
  exact List.ne_nil_of_mem (mem_sortedEntries.mpr ⟨peer, mem, rfl⟩)

/-- The sorted entries are those of the same peers in another order. -/
theorem exists_sorted_peers (peers : List TunnelPeer) :
    ∃ sorted : List TunnelPeer, sort (peers.map peerEntry) = sorted.map peerEntry ∧
      ∀ peer, peer ∈ sorted → peer ∈ peers := by
  have lifted (texts : List String) (h : ∀ text ∈ texts, ∃ peer ∈ peers, peerEntry peer = text) :
      ∃ sorted : List TunnelPeer, texts = sorted.map peerEntry ∧ ∀ peer ∈ sorted, peer ∈ peers := by
    induction texts with
    | nil => exact ⟨[], rfl, by simp⟩
    | cons text texts ih =>
      obtain ⟨peer, mem, rfl⟩ := h text List.mem_cons_self
      obtain ⟨sorted, rfl, sub⟩ := ih fun t mem => h t (List.mem_cons_of_mem _ mem)
      exact ⟨peer :: sorted, rfl, by simpa [mem] using sub⟩
  exact lifted _ fun text mem => mem_sortedEntries.mp mem

theorem endsSlashed_entries (ne : peers ≠ []) (entries : ∀ peer ∈ peers, Entry peer)
    (head : String) : EndsSlashed (head ++ "|" ++ join ";" (sort (peers.map peerEntry))) := by
  refine EndsSlashed.prepend (EndsSlashed.join (sortedEntries_ne ne) fun text listed => ?_) _
  obtain ⟨peer, mem, rfl⟩ := mem_sortedEntries.mp listed
  exact (entries peer mem).endsSlashed

theorem mem_routeTargets {ip : String} :
    ip ∈ routeTargetsForTunnelPeers peers ↔ ∃ peer ∈ peers, ip ∈ peer.allowedIps := by
  simp [routeTargetsForTunnelPeers]

theorem routeTargets_ne (ne : peers ≠ []) (entries : ∀ peer ∈ peers, Entry peer) :
    routeTargetsForTunnelPeers peers ≠ [] := by
  obtain ⟨peer, mem⟩ := List.exists_mem_of_ne_nil _ ne
  obtain ⟨ip, listed⟩ := List.exists_mem_of_ne_nil _ (entries peer mem).allowedIps_ne
  exact List.ne_nil_of_mem (mem_routeTargets.mpr ⟨peer, mem, listed⟩)

/-- Texts of entries that are cut the same way come from the same peers. -/
theorem peers_of_entries_eq (ne : peers ≠ []) (ne' : peers' ≠ [])
    (entries : ∀ peer ∈ peers, Entry peer) (entries' : ∀ peer ∈ peers', Entry peer)
    (readable : ∀ peer ∈ peers, Readable peer) (readable' : ∀ peer ∈ peers', Readable peer)
    {head head' : String} (eq : head ++ "|" ++ join ";" (sort (peers.map peerEntry)) =
      head' ++ "|" ++ join ";" (sort (peers'.map peerEntry))) :
    head = head' ∧ ∀ peer, peer ∈ peers ↔ peer ∈ peers' := by
  have cut {peers : List TunnelPeer} (ne : peers ≠ []) (entries : ∀ peer ∈ peers, Entry peer)
      (readable : ∀ peer ∈ peers, Readable peer) :
      ∃ key rest, split '|' (join ";" (sort (peers.map peerEntry))) = key :: rest ∧
        (':' ∉ key.toList ∧ '/' ∉ key.toList) ∧
        ∀ piece ∈ rest, ¬(':' ∉ piece.toList ∧ '/' ∉ piece.toList) := by
    obtain ⟨sorted, same, sub⟩ := exists_sorted_peers peers
    have sorted_ne : sorted ≠ [] := by
      rintro rfl
      exact sortedEntries_ne ne same
    rw [same]
    exact split_join_entries sorted_ne (fun peer mem => entries peer (sub peer mem))
      fun peer mem => readable peer (sub peer mem)
  obtain ⟨key, rest, pieces, first, others⟩ := cut ne entries readable
  obtain ⟨key', rest', pieces', first', others'⟩ := cut ne' entries' readable'
  have whole := congrArg (split '|') eq
  have bar (head tail : String) : split '|' (head ++ "|" ++ tail) = split '|' head ++ split '|' tail :=
    split_append_append head tail
  rw [bar, bar, pieces, pieces'] at whole
  obtain ⟨rfl, rfl⟩ := append_cons_inj_of_last (P := fun piece : String =>
    ¬(':' ∉ piece.toList ∧ '/' ∉ piece.toList)) (not_not.mpr first) (not_not.mpr first') others others' whole
  have texts : join ";" (sort (peers.map peerEntry)) = join ";" (sort (peers'.map peerEntry)) := by
    have joined := join_split '|' (join ";" (sort (peers.map peerEntry)))
    rw [pieces, ← pieces'] at joined
    exact joined.symm.trans (join_split '|' _)
  refine ⟨?_, ?_⟩
  · rw [texts, String.append_left_inj, String.append_left_inj] at eq
    exact eq
  · have clean {peers : List TunnelPeer} (entries : ∀ peer ∈ peers, Entry peer)
        (readable : ∀ peer ∈ peers, Readable peer) :
        ∀ text ∈ sort (peers.map peerEntry), ';' ∉ text.toList := by
      intro text listed
      obtain ⟨peer, mem, rfl⟩ := mem_sortedEntries.mp listed
      have key : ';' ∉ peer.pubkeyHex.toList := (entries peer mem).notMem_pubkeyHex (by decide)
      have endpoint : ';' ∉ peer.endpoint.toList := (entries peer mem).notMem_endpoint (by decide)
      have list : ';' ∉ (join "," peer.allowedIps).toList :=
        (readable peer mem).notMem_join (by decide) (by decide) (by decide) (by decide)
      rw [peerEntry_eq]
      simp [key, endpoint, list]
    have lists := join_injective (sortedEntries_ne ne) (sortedEntries_ne ne') (clean entries readable)
      (clean entries' readable') texts
    have sub {peers peers' : List TunnelPeer} (entries : ∀ peer ∈ peers, Entry peer)
        (entries' : ∀ peer ∈ peers', Entry peer) (readable : ∀ peer ∈ peers, Readable peer)
        (readable' : ∀ peer ∈ peers', Readable peer)
        (lists : sort (peers.map peerEntry) = sort (peers'.map peerEntry)) (peer : TunnelPeer)
        (mem : peer ∈ peers) : peer ∈ peers' := by
      have listed := mem_sortedEntries.mpr ⟨peer, mem, rfl⟩
      rw [lists] at listed
      obtain ⟨other, memOther, text⟩ := mem_sortedEntries.mp listed
      obtain rfl := (entries' other memOther).peerEntry_injective (entries peer mem)
        (readable' other memOther) (readable peer mem) text
      exact memOther
    exact fun peer => ⟨sub entries entries' readable readable' lists peer,
      sub entries' entries readable' readable lists.symm peer⟩

/-- Two plans with the same fingerprint, of which the allowed IPs of one are prefixes, have the same
peers, and the fingerprints have the same head. -/
theorem peers_of_fingerprint_eq (ne : peers ≠ []) (ne' : peers' ≠ [])
    (entries : ∀ peer ∈ peers, Entry peer) (entries' : ∀ peer ∈ peers', Entry peer)
    (readable : ∀ peer ∈ peers, Readable peer) {head head' : String}
    (eq : tunnelRuntimeFingerprint (head ++ "|" ++ join ";" (sort (peers.map peerEntry)))
        (routeTargetsForTunnelPeers peers) =
      tunnelRuntimeFingerprint (head' ++ "|" ++ join ";" (sort (peers'.map peerEntry)))
        (routeTargetsForTunnelPeers peers')) :
    head = head' ∧ ∀ peer, peer ∈ peers ↔ peer ∈ peers' := by
  have slashed {peers : List TunnelPeer} (entries : ∀ peer ∈ peers, Entry peer) :
      ∀ ip ∈ routeTargetsForTunnelPeers peers, Slashed ip := by
    intro ip listed
    obtain ⟨peer, mem, listed⟩ := mem_routeTargets.mp listed
    exact (entries peer mem).slashed ip listed
  obtain ⟨bases, targets⟩ := runtimeFingerprint_injective (endsSlashed_entries ne entries head)
    (endsSlashed_entries ne' entries' head') (routeTargets_ne ne entries) (routeTargets_ne ne' entries')
    (slashed entries) (slashed entries') eq
  have readable' : ∀ peer ∈ peers', Readable peer := by
    intro peer mem ip listed
    have target : ip ∈ sort (routeTargetsForTunnelPeers peers') :=
      mem_sort.mpr (mem_routeTargets.mpr ⟨peer, mem, listed⟩)
    rw [← targets, mem_sort, mem_routeTargets] at target
    obtain ⟨other, memOther, listedOther⟩ := target
    exact readable other memOther ip listedOther
  exact peers_of_entries_eq ne ne' entries entries' readable readable' bases

end NostrVpn.Cli
