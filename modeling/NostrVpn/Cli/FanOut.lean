import NostrVpn.Cli.SessionState
import NostrVpn.Rust.TryEach

/-!
# Messages to several peers

The loops of `main.rs` over the peers: the private announcements and the tunnel heartbeats. Each ends at
the first send that fails.
-/
namespace NostrVpn.Cli

open Rust Rust.Net NostrVpn.Core

/-! ## Private announcements -/

section Announce
variable (announcementFor : String → PeerAnnouncement) (published : String → Bool)

/-- The recipients whom the loop of `publish_private_announce_to_participants` sends to, also in vain. -/
def announceAttempts : List String → OutboundAnnounceBook → List String
  | [], _ => []
  | participant :: rest, book =>
    let fingerprint := announcementFingerprint (announcementFor participant)
    if !book.needsSend participant fingerprint then announceAttempts rest book
    else if !published participant then [participant]
    else participant :: announceAttempts rest (book.markSent participant fingerprint)

/-- The last announcement that the participant was sent is another one. -/
def needsAnnounce (book : OutboundAnnounceBook) (participant : String) : Bool :=
  book.needsSend participant (announcementFingerprint (announcementFor participant))

@[simp] theorem fingerprints_markSent (book : OutboundAnnounceBook) (sent fingerprint : String) :
    (book.markSent sent fingerprint).fingerprints = book.fingerprints.insert sent fingerprint := rfl

theorem needsAnnounce_markSent {book : OutboundAnnounceBook} {sent participant fingerprint : String}
    (other : participant ≠ sent) :
    needsAnnounce announcementFor (book.markSent sent fingerprint) participant =
      needsAnnounce announcementFor book participant := by
  simp [needsAnnounce, OutboundAnnounceBook.needsSend, other]

theorem announceAttempts_eq {recipients : List String} (distinct : recipients.Nodup)
    (book : OutboundAnnounceBook) :
    announceAttempts announcementFor published recipients book =
      tried published (recipients.filter (needsAnnounce announcementFor book)) := by
  induction recipients generalizing book with
  | nil => rfl
  | cons participant rest ih =>
    obtain ⟨fresh, distinct⟩ := List.nodup_cons.mp distinct
    by_cases needed : needsAnnounce announcementFor book participant = true
    · -- what is marked now concerns nobody that follows
      have same (fingerprint : String) :
          rest.filter (needsAnnounce announcementFor (book.markSent participant fingerprint)) =
            rest.filter (needsAnnounce announcementFor book) :=
        List.filter_congr fun other mem => needsAnnounce_markSent announcementFor
          (ne_of_mem_of_not_mem mem fresh)
      rw [List.filter_cons_of_pos needed, announceAttempts, tried]
      rw [needsAnnounce] at needed
      cases published participant <;> simp [needed, ih distinct, same]
    · have skipped : needsAnnounce announcementFor book participant = false := by simpa using needed
      rw [List.filter_cons_of_neg needed, ← ih distinct, announceAttempts]
      rw [needsAnnounce] at skipped
      simp [skipped]

/-- What is sent is what is tried with success. -/
theorem sent_publishAnnouncements (recipients : List String) (book : OutboundAnnounceBook) :
    (publishAnnouncements announcementFor published recipients book).2.1 =
      ((announceAttempts announcementFor published recipients book).filter published).map fun p =>
        (p, announcementFor p) := by
  induction recipients generalizing book with
  | nil => rfl
  | cons participant rest ih =>
    unfold publishAnnouncements announceAttempts
    dsimp only
    split_ifs with skipped failed
    · exact ih book
    · simp only [Bool.not_eq_true'] at failed
      simp [failed]
    · simp only [Bool.not_eq_true', Bool.not_eq_false] at failed
      simp [failed, ih]

/-- The book records the successful sends and nothing else. -/
theorem lookup_publishAnnouncements {recipients : List String} (distinct : recipients.Nodup)
    (book : OutboundAnnounceBook) (participant : String) :
    (publishAnnouncements announcementFor published recipients book).2.2.fingerprints.lookup
        participant =
      if participant ∈ (announceAttempts announcementFor published recipients book).filter published
      then some (announcementFingerprint (announcementFor participant))
      else book.fingerprints.lookup participant := by
  induction recipients generalizing book with
  | nil => simp [publishAnnouncements, announceAttempts]
  | cons recipient rest ih =>
    obtain ⟨fresh, distinct⟩ := List.nodup_cons.mp distinct
    cases needed : book.needsSend recipient (announcementFingerprint (announcementFor recipient)) with
    | false => simpa [publishAnnouncements, announceAttempts, needed] using ih distinct book
    | true =>
      cases passes : published recipient with
      | false => simp [publishAnnouncements, announceAttempts, needed, passes]
      | true =>
        have later := ih distinct (book.markSent recipient
          (announcementFingerprint (announcementFor recipient)))
        by_cases same : participant = recipient
        · have never : recipient ∉ announceAttempts announcementFor published rest
              (book.markSent recipient (announcementFingerprint (announcementFor recipient))) := by
            rw [announceAttempts_eq announcementFor published distinct]
            exact fun mem => fresh (List.mem_of_mem_filter ((tried_isPrefix _ _).mem mem))
          obtain rfl := same
          simp [publishAnnouncements, announceAttempts, needed, passes, later, never]
        · simp [publishAnnouncements, announceAttempts, needed, passes, later, same]

end Announce

namespace Session

variable (m : Moment) (session : Session) (participants : List String) (announcements : Announcements)

/-- The recipients of `publish_private_announce_to_participants` that need its message. -/
def announceNeeded : List String :=
  (sortDedup participants).filter
    (needsAnnounce (session.announcementFor m announcements) session.outboundAnnounces)

/-- Those it sends to, also in vain. -/
def announceTried : List String :=
  announceAttempts (session.announcementFor m announcements) m.published (sortDedup participants)
    session.outboundAnnounces

theorem announceTried_iff : session.announceTried m participants announcements =
      session.announceNeeded m participants announcements ↔
    PassesButLast m.published (session.announceNeeded m participants announcements) := by
  rw [announceTried, announceAttempts_eq _ _ (nodup_sortDedup participants), announceNeeded,
    tried_eq_iff]

/-- What was announced, and what the book remembers of it. -/
theorem publishPrivateAnnounceToParticipants_records :
    let tried := (session.announceTried m participants announcements).filter m.published
    let after := (session.publishPrivateAnnounceToParticipants m participants announcements).2
    after.effects = session.effects ++ tried.map (fun p =>
        .announced p (session.announcementFor m announcements p)) ∧
      ∀ p, after.outboundAnnounces.fingerprints.lookup p =
        if p ∈ tried then some (announcementFingerprint (session.announcementFor m announcements p))
        else session.outboundAnnounces.fingerprints.lookup p := by
  refine ⟨?_, fun p => ?_⟩
  · simp [publishPrivateAnnounceToParticipants, record, sent_publishAnnouncements, announceTried]
  · exact lookup_publishAnnouncements _ _ (nodup_sortDedup participants) _ p

end Session

/-! ## Tunnel heartbeats -/

/-- The peers without a recent handshake, by the addresses that they announce. -/
def pendingTunnelHeartbeatIps (codec : KeyCodec) (app : AppConfig) (ownPubkey : Option String)
    (announcements : Announcements) (runtimePeers : Option PeerStatuses) (now : Nat) :
    List Ipv4Addr :=
  (sortByKey (fun ip : Ipv4Addr => ip.bits.toNat)
    ((otherParticipants app ownPubkey).filterMap fun participant => do
      let a ← announcements.lookup participant
      if (peerRuntimeLookup codec a runtimePeers).any (peerHasRecentHandshake now) then none
      else Ipv4Addr.parse (stripCidr a.tunnelIp))).dedup

/-- `send` is `send_tunnel_heartbeat`; the addresses it is called on, and the result. -/
def heartbeatPendingTunnelPeers (send : Ipv4Addr → Except String Unit) (codec : KeyCodec)
    (app : AppConfig) (ownPubkey : Option String) (announcements : Announcements)
    (runtimePeers : Option PeerStatuses) (now : Nat) : List Ipv4Addr × Except String Nat :=
  let targets := pendingTunnelHeartbeatIps codec app ownPubkey announcements runtimePeers now
  let (attempted, result) := tryEach send targets
  (attempted, result.map fun _ => targets.length)

theorem heartbeatPendingTunnelPeers_iff (send : Ipv4Addr → Except String Unit) (codec : KeyCodec)
    (app : AppConfig) (ownPubkey : Option String) (announcements : Announcements)
    (runtimePeers : Option PeerStatuses) (now : Nat) :
    (heartbeatPendingTunnelPeers send codec app ownPubkey announcements runtimePeers now).1 =
        pendingTunnelHeartbeatIps codec app ownPubkey announcements runtimePeers now ↔
      PassesButLast (fun ip => (send ip).isOk)
        (pendingTunnelHeartbeatIps codec app ownPubkey announcements runtimePeers now) := by
  rw [heartbeatPendingTunnelPeers, ← tried_eq_iff, ← fst_tryEach]

end NostrVpn.Cli
