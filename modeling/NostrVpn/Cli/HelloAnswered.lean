import NostrVpn.Cli.ConnectSession
import NostrVpn.Cli.DaemonSession

/-!
# The answer to a Hello

A peer that says Hello may have lost the announcement that it was sent before. The connect loop forgets the
sent fingerprint before it answers. The daemon loop does so only when the signal changed the presence
book, which a Hello never does, so it answers unless the sent announcement is the one it would send.
-/
namespace NostrVpn.Cli

open Rust Rust.Net NostrVpn.Core

inductive SessionLoop where
  | connect (c : Connect)
  | daemon (d : Daemon)

namespace SessionLoop

def session : SessionLoop → Session
  | .connect c => c.session
  | .daemon d => d.session

/-- The loop runs, its session is active and it listens to the relays. -/
def Listening : SessionLoop → Prop
  | .connect c => ¬c.stopped ∧ c.relayConnected
  | .daemon d => ¬d.stopped ∧ d.relayConnected ∧ d.sessionActive

def receive (env : SessionEnv) (m : Nat → Moment) (outcome : RosterOutcome) (envelope : SignalEnvelope) :
    SessionLoop → SessionLoop
  | .connect c => .connect (c.step env m (.message (some envelope)))
  | .daemon d => .daemon (d.step env ⟨.message (some envelope) outcome, m⟩)

/-- The daemon remembers that it sent the participant the announcement it would send now. -/
def Remembers (m : Moment) (participant : String) : SessionLoop → Prop
  | .connect _ => False
  | .daemon d => ¬d.session.outboundAnnounces.needsSend participant
      (announcementFingerprint (d.session.announcementFor m d.session.presence.known participant))

instance : DecidablePred Listening
  | .connect c => inferInstanceAs (Decidable (¬c.stopped ∧ c.relayConnected))
  | .daemon d => inferInstanceAs (Decidable (¬d.stopped ∧ d.relayConnected ∧ d.sessionActive))

instance (m : Moment) (participant : String) : DecidablePred (Remembers m participant)
  | .connect _ => .isFalse id
  | .daemon d => inferInstanceAs (Decidable (¬d.session.outboundAnnounces.needsSend participant
      (announcementFingerprint (d.session.announcementFor m d.session.presence.known participant))))

end SessionLoop

/-- Between the two states an announcement was published to the participant. -/
def Announced (before after : Session) (participant : String) : Prop :=
  ∃ effects, after.effects = before.effects ++ effects ∧
    ∃ announcement, .announced participant announcement ∈ effects

namespace Session

variable (m : Moment) (session : Session)

theorem effects_answer (sender : String) : (session.answer m sender).effects = session.effects ++
    if session.outboundAnnounces.needsSend sender
        (announcementFingerprint (session.announcementFor m session.presence.known sender)) ∧
        m.published sender then
      [.announced sender (session.announcementFor m session.presence.known sender)]
    else [] := by
  have one : sortDedup [sender] = [sender] := rfl
  simp only [answer, publishPrivateAnnounceToParticipants, one, publishAnnouncements, record]
  grind

/-- At most a roster is published. -/
theorem publishActiveNetworkRoster_cases (sdk : NostrSdk) (recipients : Option (List String)) :
    session.publishActiveNetworkRoster sdk recipients = session ∨
      ∃ sent, session.publishActiveNetworkRoster sdk recipients = session.record [.roster sent] := by
  unfold publishActiveNetworkRoster
  grind

theorem announced_answer_of_roster {sdk : NostrSdk} {sender : String} {other : Session}
    (same : other.effects = (session.publishActiveNetworkRoster sdk (some [sender])).effects)
    (published : m.published sender) :
    Announced session (other.answer m sender) sender ↔
      other.outboundAnnounces.needsSend sender
        (announcementFingerprint (other.announcementFor m other.presence.known sender)) := by
  have effects := effects_answer m other sender
  obtain ⟨before, eq, quiet⟩ : ∃ before, other.effects = session.effects ++ before ∧
      ∀ announcement, SessionEffect.announced sender announcement ∉ before := by
    rcases session.publishActiveNetworkRoster_cases sdk (some [sender]) with none | ⟨sent, some⟩
    · exact ⟨[], by simp [same, none], by simp⟩
    · exact ⟨[.roster sent], by rw [same, some]; rfl, by simp⟩
  rw [eq, List.append_assoc] at effects
  constructor
  · rintro ⟨after, eq', announcement, mem⟩
    rw [effects] at eq'
    rw [← List.append_cancel_left eq', List.mem_append] at mem
    by_contra cached
    simp [cached, quiet announcement] at mem
  · intro needed
    exact ⟨_, effects, other.announcementFor m other.presence.known sender, by simp [needed, published]⟩

end Session

/-! ## The two loops -/

/-- The presence book after a Hello: only the time of the last signal is new. -/
def Session.heard (sender : String) (now : Nat) (session : Session) : Session :=
  { session with presence := (session.presence.applySignal sender .Hello now).2 }

theorem Session.roster_heard (sdk : NostrSdk) (recipients : Option (List String)) (sender : String)
    (now : Nat) (session : Session) :
    (session.heard sender now).publishActiveNetworkRoster sdk recipients =
      (session.publishActiveNetworkRoster sdk recipients).heard sender now := by
  simp only [publishActiveNetworkRoster, apply_ite (heard sender now)]
  rfl

section Loops

variable {env : SessionEnv} {m : Nat → Moment} {outcome : RosterOutcome} {envelope : SignalEnvelope}

theorem Connect.step_hello {c : Connect} (running : ¬c.stopped) (connected : c.relayConnected)
    (hello : envelope.payload = .Hello) :
    (c.step env m (.message (some envelope))).session =
      Session.answer (m 1) envelope.senderPubkey (((c.session.publishActiveNetworkRoster env.sdk
        (some [envelope.senderPubkey])).heard envelope.senderPubkey (m 0).now).forgetAnnounces
          [envelope.senderPubkey]) := by
  rw [← Session.roster_heard]
  simp [Connect.step, Connect.message, Connect.receiveSignal, running, connected, hello, Session.heard,
    PeerPresenceBook.applySignal, Connect.answerWithRoster, isHelloOrAnnounce,
    maybeResetTargetedAnnounceCacheForHello, Session.forgetAnnounces]

theorem Daemon.step_hello {d : Daemon} (running : ¬d.stopped) (connected : d.relayConnected)
    (active : d.sessionActive) (hello : envelope.payload = .Hello) :
    (d.step env ⟨.message (some envelope) outcome, m⟩).session =
      Session.answer (m 1) envelope.senderPubkey ((d.session.publishActiveNetworkRoster env.sdk
        (some [envelope.senderPubkey])).heard envelope.senderPubkey (m 0).now) := by
  have listens : d.relaySessionActive := by
    simp only [Daemon.sessionActive] at active
    simp [Daemon.relaySessionActive, Cli.relaySessionActive, active]
  have still : (d.onSession fun session => session.publishActiveNetworkRoster env.sdk
      (some [envelope.senderPubkey])).sessionActive := active
  simp [Daemon.step, Daemon.message, Daemon.receiveSignal, running, connected, listens, still, hello,
    Session.heard, PeerPresenceBook.applySignal, isHelloOrAnnounce]
  rfl

/-- A Hello is answered with an announcement, if publishing does not fail, exactly when the loop is not a
daemon that remembers this announcement. -/
theorem SessionLoop.hello_announced_iff {loop : SessionLoop} (listening : loop.Listening)
    (hello : envelope.payload = .Hello) (published : (m 1).published envelope.senderPubkey) :
    Announced loop.session (loop.receive env m outcome envelope).session envelope.senderPubkey ↔
      ¬loop.Remembers (m 1) envelope.senderPubkey := by
  have heard (session : Session) (sender : String) (now : Nat) :
      (session.heard sender now).effects = session.effects := rfl
  cases loop with
  | connect c =>
    have result := @Connect.step_hello env m envelope c listening.1 listening.2 hello
    simp only [receive, SessionLoop.session, result, Remembers, not_false_eq_true, iff_true]
    have forgotten (session : Session) : (session.forgetAnnounces [envelope.senderPubkey]).effects =
      session.effects := rfl
    have effects := (forgotten _).trans (heard (c.session.publishActiveNetworkRoster env.sdk
      (some [envelope.senderPubkey])) envelope.senderPubkey (m 0).now)
    exact (Session.announced_answer_of_roster (m 1) c.session effects published).mpr
      (OutboundAnnounceBook.needsSend_forget _ _ _)
  | daemon d =>
    obtain ⟨running, connected, active⟩ := listening
    have result := @Daemon.step_hello env m outcome envelope d running connected active hello
    simp only [receive, SessionLoop.session, result, Remembers, not_not]
    rw [Session.announced_answer_of_roster (m 1) d.session (heard _ _ _) published]
    rcases d.session.publishActiveNetworkRoster_cases env.sdk (some [envelope.senderPubkey]) with
      none | ⟨sent, some⟩
    · rw [none]
      rfl
    · rw [some]
      rfl

end Loops

/-! ## A peer that says Hello twice -/

def samplePeerHello : SignalEnvelope where
  networkId := "mesh-home"
  senderPubkey := (samplePubkeys[1]?).getD ""
  payload := .Hello

/-- The daemon after the first Hello of its peer. -/
def greetedDaemon : Daemon := (sampleDaemon (samplePubkeys.drop 1)).step sampleSessionEnv
  (sampleStep 101 (.message (some samplePeerHello) sampleRosterOutcome))

theorem not_announced_of_length {before after : Session} {participant : String}
    (same : after.effects.length = before.effects.length) : ¬Announced before after participant := by
  rintro ⟨effects, eq, announcement, mem⟩
  rw [eq, List.length_append, Nat.add_eq_left, List.length_eq_zero_iff] at same
  simp [same] at mem

/-- A peer that says Hello a second time, after a restart, gets no announcement. -/
theorem second_hello_unanswered :
    ((SessionLoop.daemon greetedDaemon).Listening ∧
      samplePeerHello.senderPubkey ∈ greetedDaemon.session.app.participantPubkeysHex ∧
      (sampleMoment 102).published samplePeerHello.senderPubkey) ∧
    ¬Announced (SessionLoop.daemon greetedDaemon).session
      ((SessionLoop.daemon greetedDaemon).receive sampleSessionEnv (fun _ => sampleMoment 102)
        sampleRosterOutcome samplePeerHello).session samplePeerHello.senderPubkey := by
  refine ⟨by decide +kernel, not_announced_of_length ?_⟩
  decide +kernel

/-- The first Hello is announced to, in both loops. -/
theorem hello_announced_iff_of_first :
    Announced (SessionLoop.daemon (sampleDaemon (samplePubkeys.drop 1))).session
      ((SessionLoop.daemon (sampleDaemon (samplePubkeys.drop 1))).receive sampleSessionEnv
        (fun _ => sampleMoment 101) sampleRosterOutcome samplePeerHello).session
      samplePeerHello.senderPubkey := by
  have first : (SessionLoop.daemon (sampleDaemon (samplePubkeys.drop 1))).Listening ∧
      ¬(SessionLoop.daemon (sampleDaemon (samplePubkeys.drop 1))).Remembers (sampleMoment 101)
        samplePeerHello.senderPubkey := by decide +kernel
  exact (SessionLoop.hello_announced_iff first.1 rfl rfl).mpr first.2

end NostrVpn.Cli
