import NostrVpn.Cli.PeerStatusText
import NostrVpn.Cli.SessionState

/-!
# How recent a handshake is

A device reports the time of the last handshake of a peer, or its age: `WireGuardPeerStatus` tells one from the
other by the size of the number. Times are in nanoseconds here where a status is made from one.
-/
namespace NostrVpn.Cli

open Rust NostrVpn.Core

/-! ## The reports of the devices -/

def nanosPerSec : Nat := 1000000000

/-- What a device reports that gives the time of the handshake. -/
def absoluteStatus (endpoint : Option String) (handshake : Nat) : WireGuardPeerStatus :=
  { endpoint
    lastHandshakeSec := some (handshake / nanosPerSec)
    lastHandshakeNsec := some (handshake % nanosPerSec) }

/-- The status of a peer of the Windows tunnel, from the age that its userspace device gives. -/
def windowsPeerStatus (endpoint : String) (age : Option Nat) : WireGuardPeerStatus :=
  { endpoint := some endpoint
    lastHandshakeSec := age.map (· / nanosPerSec)
    lastHandshakeNsec := age.map (· % nanosPerSec) }

/-- The lines of a peer with a handshake are read as its status. -/
theorem absoluteStatus_of_lines (lowercase : Lowercase) (pubkey endpoint : String) {handshake : Nat}
    (small : handshake / nanosPerSec ≤ u64Max) :
    ((["public_key=" ++ pubkey, "endpoint=" ++ endpoint,
        "last_handshake_time_sec=" ++ fmtNat (handshake / nanosPerSec),
        "last_handshake_time_nsec=" ++ fmtNat (handshake % nanosPerSec)].foldl (StatusParser.line lowercase)
      {}).commitCurrent.peers.lookup (lowercase.toLowercase (trim pubkey))) =
        some (absoluteStatus (some (trim endpoint)) handshake) := by
  have nanos : handshake % nanosPerSec ≤ u64Max := by
    have : handshake % nanosPerSec < nanosPerSec := Nat.mod_lt _ (by decide)
    exact this.le.trans (by decide)
  have sec : (UInt64.ofNat (handshake / nanosPerSec)).toNat = handshake / nanosPerSec :=
    UInt64.toNat_ofNat_of_lt' (Nat.lt_of_le_sub_one (by decide) small)
  have nsec : (UInt64.ofNat (handshake % nanosPerSec)).toNat = handshake % nanosPerSec :=
    UInt64.toNat_ofNat_of_lt' (Nat.lt_of_le_sub_one (by decide) nanos)
  have field {status : WireGuardPeerStatus} {name : String} (filled : name ≠ "")
      (apart : startsWith "public_key=" name = false) (apart' : startsWith name "public_key=" = false)
      (last : startsWith name "errno=0" = false) (value : String) :
      StatusParser.line lowercase ⟨∅, some (lowercase.toLowercase (trim pubkey)), status⟩ (name ++ value) =
        ⟨∅, some (lowercase.toLowercase (trim pubkey)), status.readLine (name ++ value)⟩ :=
    line_of_field rfl filled apart apart' last value
  have key : StatusParser.line lowercase {} ("public_key=" ++ pubkey) =
      ⟨∅, some (lowercase.toLowercase (trim pubkey)), {}⟩ := line_public_key {} pubkey
  rw [List.foldl_cons, List.foldl_cons, List.foldl_cons, List.foldl_cons, List.foldl_nil, key,
    field (by decide) (by decide) (by decide) (by decide), readLine_endpoint,
    field (by decide) (by decide) (by decide) (by decide), ← sec, readLine_lastHandshakeSec,
    field (by decide) (by decide) (by decide) (by decide), ← nsec, readLine_lastHandshakeNsec, sec, nsec]
  exact AList.lookup_insert (∅ : PeerStatuses)

/-! ## Recency -/

variable {status : WireGuardPeerStatus} {now later : Nat}

/-- The statements about one status with a handshake, at two times. -/
structure RecencySound (status : WireGuardPeerStatus) (now later : Nat) : Prop where
  monotone : peerHasRecentHandshake later status → peerHasRecentHandshake now status
  past : ∀ handshakeAt, status.lastHandshakeAt now = some handshakeAt → handshakeAt ≤ now
  known : status.hasHandshake → (status.lastHandshakeAt now).isSome

/-- A status taken at a time is as recent with the time of the handshake as with its age. -/
def RecencyAgrees (endpoint : String) (handshake taken : Nat) : Prop :=
  peerHasRecentHandshake (taken / nanosPerSec) (absoluteStatus (some endpoint) handshake) =
    peerHasRecentHandshake (taken / nanosPerSec) (windowsPeerStatus endpoint (some (taken - handshake)))

/-- The seconds are given, and as a time they are not in the future. -/
def SecondsTell (status : WireGuardPeerStatus) (now : Nat) : Prop :=
  0 < status.lastHandshakeSec.getD 0 ∧
    (status.lastHandshakeSec.getD 0 < WireGuardPeerStatus.absoluteHandshakeTimestampFloor ∨
      status.lastHandshakeSec.getD 0 ≤ now)

/-- A handshake since the year 2000 is a second old, and the seconds on the clock round its age to the same side
of the grace time; the time of an older one is taken for an age, and has to be on the same side. -/
def AgeTells (handshake taken : Nat) : Prop :=
  let at' := handshake / nanosPerSec
  let now := taken / nanosPerSec
  let age := (taken - handshake) / nanosPerSec
  if WireGuardPeerStatus.absoluteHandshakeTimestampFloor ≤ at' then
    age ≠ 0 ∧ ¬ (age = peerOnlineGraceSecs ∧ now - at' = peerOnlineGraceSecs + 1)
  else (1 ≤ at' ∧ at' ≤ peerOnlineGraceSecs ↔ (1 ≤ age ∧ age ≤ peerOnlineGraceSecs) ∨
    (WireGuardPeerStatus.absoluteHandshakeTimestampFloor ≤ age ∧ now - age ≤ peerOnlineGraceSecs))

theorem lastHandshakeAt_eq : status.lastHandshakeAt now =
    if 0 < status.lastHandshakeSec.getD 0 then
      some (if status.lastHandshakeSec.getD 0 < WireGuardPeerStatus.absoluteHandshakeTimestampFloor then
        now - status.lastHandshakeSec.getD 0 else status.lastHandshakeSec.getD 0)
    else none := by
  unfold WireGuardPeerStatus.lastHandshakeAt WireGuardPeerStatus.hasHandshake
  cases sec : status.lastHandshakeSec with
  | none => simp
  | some raw =>
    by_cases given : 0 < raw
    · simp [given]
    · obtain rfl : raw = 0 := by omega
      simp

/-- What `peer_has_recent_handshake` computes from the seconds. -/
theorem recent_iff : peerHasRecentHandshake now status ↔
    0 < status.lastHandshakeSec.getD 0 ∧
      if status.lastHandshakeSec.getD 0 < WireGuardPeerStatus.absoluteHandshakeTimestampFloor then
        min now (status.lastHandshakeSec.getD 0) ≤ peerOnlineGraceSecs
      else now - status.lastHandshakeSec.getD 0 ≤ peerOnlineGraceSecs := by
  rw [peerHasRecentHandshake, lastHandshakeAt_eq]
  split_ifs with given age
  · rw [Option.any_some, decide_eq_true_eq]
    omega
  · rw [Option.any_some, decide_eq_true_eq]
    omega
  · simp [given]
  · simp [given]

/-- A handshake that is recent was recent before. -/
theorem recent_antitone (order : now ≤ later) (recent : peerHasRecentHandshake later status) :
    peerHasRecentHandshake now status := by
  rw [recent_iff] at recent ⊢
  obtain ⟨given, recent⟩ := recent
  refine ⟨given, ?_⟩
  split_ifs at recent ⊢ <;> omega

theorem recencySound_iff (handshake : status.hasHandshake) (order : now ≤ later) :
    RecencySound status now later ↔ SecondsTell status now := by
  constructor
  · rintro ⟨-, past, known⟩
    replace known := known handshake
    rw [lastHandshakeAt_eq] at past known
    split_ifs at past known with given age
    · exact ⟨given, Or.inl age⟩
    · exact ⟨given, Or.inr (past _ rfl)⟩
    · cases known
  · rintro ⟨given, past⟩
    refine ⟨recent_antitone order, fun handshakeAt at' => ?_, fun _ => by rw [lastHandshakeAt_eq, if_pos given]; rfl⟩
    rw [lastHandshakeAt_eq, if_pos given, Option.some.injEq] at at'
    split_ifs at at' with age
    · omega
    · have := past.resolve_left age
      omega

theorem recencyAgrees_iff {endpoint : String} {handshake taken : Nat} (order : handshake ≤ taken) :
    RecencyAgrees endpoint handshake taken ↔ AgeTells handshake taken := by
  have floor : WireGuardPeerStatus.absoluteHandshakeTimestampFloor = 946684800 := rfl
  have grace : peerOnlineGraceSecs = 180 := rfl
  have nanos : nanosPerSec = 1000000000 := rfl
  rw [RecencyAgrees, Bool.eq_iff_iff, recent_iff, recent_iff]
  simp only [absoluteStatus, windowsPeerStatus, AgeTells, Option.getD_some, Option.map_some, floor, grace, nanos]
  have whole : handshake / 1000000000 + (taken - handshake) / 1000000000 ≤ taken / 1000000000 := by omega
  have part : taken / 1000000000 ≤ handshake / 1000000000 + (taken - handshake) / 1000000000 + 1 := by omega
  generalize handshake / 1000000000 = at', taken / 1000000000 = now, (taken - handshake) / 1000000000 = age
    at whole part ⊢
  split_ifs <;> omega

/-- The recency of a handshake is sound exactly when the seconds of the status tell its time or its age. -/
theorem handshake_recency_iff (status : WireGuardPeerStatus) (handshake : status.hasHandshake)
    (now later : Nat) (order : now ≤ later) (endpoint : String) (shaken taken : Nat) (past : shaken ≤ taken) :
    RecencySound status now later ∧ RecencyAgrees endpoint shaken taken ↔
      SecondsTell status now ∧ AgeTells shaken taken :=
  and_congr (recencySound_iff handshake order) (recencyAgrees_iff past)

theorem handshake_recency_sample :
    RecencySound { lastHandshakeSec := some 30 } 1700000000 1700000100 ∧
      RecencyAgrees "203.0.113.20:51820" 1700000000500000000 1700000030500000000 :=
  (handshake_recency_iff { lastHandshakeSec := some 30 } (by decide) 1700000000 1700000100 (by decide)
    "203.0.113.20:51820" 1700000000500000000 1700000030500000000 (by decide)).mpr
    ⟨⟨by decide, Or.inl (by decide)⟩, by unfold AgeTells; decide +kernel⟩

/-- A handshake of half a second ago, as the Windows tunnel reports it: it has no time, and it is not recent while
its time would be. -/
theorem fresh_handshake_is_unknown :
    ¬ RecencySound (windowsPeerStatus "203.0.113.20:51820" (some 500000000)) 1700000000 1700000100 ∧
      ¬ RecencyAgrees "203.0.113.20:51820" 1700000000000000000 1700000000500000000 := by
  refine ⟨fun sound => absurd (sound.known (by decide)) (by decide), ?_⟩
  unfold RecencyAgrees
  decide +kernel

end NostrVpn.Cli
