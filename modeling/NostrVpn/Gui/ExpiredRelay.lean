import NostrVpn.Core.PathSelection
import NostrVpn.Cli.CryptokeyRouting
import NostrVpn.Gui.MobilePlan
import NostrVpn.Transition

/-!
# Plans at expired relays

Runs of a path book under the planners of all platforms. A plan stays off the relay endpoint of an
expired lease as long as the refreshed book lists a better endpoint, or none at all for the relay.
-/
namespace NostrVpn.Gui

open Rust Rust.Net NostrVpn.Core Transition
open NostrVpn.Cli (Announcements)

inductive PathEvent where
  | refresh (participant : String) (a : PeerAnnouncement) (seenAt : Nat)
  | selected (participant endpoint : String) (selectedAt : Nat)
  | success (participant endpoint : String) (successAt : Nat)
  | pruneStale (now staleAfterSecs : Nat)
  | retain (participants : List String)
  | removeRelay (participant : String)
  | clear
  | planCli (ctx : Cli.PlanContext)
  | planAndroid (ctx : PlanContext)
  | planIos (ctx : PlanContext)

def pathStep (book : PeerPathBook) : PathEvent → PeerPathBook
  | .refresh participant a seenAt => book.refreshFromAnnouncement participant a seenAt
  | .selected participant endpoint selectedAt => book.noteSelected participant endpoint selectedAt
  | .success participant endpoint successAt => book.noteSuccess participant endpoint successAt
  | .pruneStale now staleAfterSecs => book.pruneStale now staleAfterSecs
  | .retain participants => book.retainParticipants participants
  | .removeRelay participant => book.removeRelayPathsForParticipant participant
  | .clear => ⟨∅⟩
  | .planCli ctx => (Cli.plannedTunnelPeersForLocalEndpoints ctx book).2
  | .planAndroid ctx => (androidPlannedTunnelPeers ctx book).2
  | .planIos ctx => (iosPlannedTunnelPeers ctx book).2

/-- The announcement lists the endpoint as its relay only, and the lease of the relay is over. -/
structure ExpiredOnlyRelay (a : PeerAnnouncement) (now : Nat) (endpoint : String) : Prop where
  relay : a.relayEndpoint = some endpoint
  expired : a.relayExpiresAt.any (· ≤ now) = true
  notLocal : a.localEndpoint ≠ some endpoint
  notPublic : a.publicEndpoint ≠ some endpoint
  notDirect : a.endpoint ≠ endpoint

/-- No participant of a plan is put at the relay of an expired lease. -/
def AvoidsExpired (announcements : Announcements) (now : Nat)
    (planned : Except String (List (String × String))) : Prop :=
  ∀ peers, planned = .ok peers → ∀ e ∈ peers, ∀ a, announcements.lookup e.1 = some a →
    ¬ ExpiredOnlyRelay a now e.2

def cliPlanned (ctx : Cli.PlanContext) (book : PeerPathBook) :
    Except String (List (String × String)) :=
  (Cli.plannedTunnelPeersForLocalEndpoints ctx book).1.map fun peers =>
    peers.map fun planned => (planned.participant, planned.endpoint)

def mobilePlanned (retryAfterSecs : Nat) (ctx : PlanContext) (book : PeerPathBook) :
    Except String (List (String × String)) :=
  (plannedTunnelPeers retryAfterSecs ctx book).1.map fun peers =>
    peers.map fun planned => (planned.participant, planned.endpoint)

def ExpiredNeverPlanned (book : PeerPathBook) : PathEvent → Prop
  | .planCli ctx => AvoidsExpired ctx.announcements ctx.now (cliPlanned ctx book)
  | .planAndroid ctx => AvoidsExpired ctx.announcements ctx.now
      (mobilePlanned androidSignalStaleAfterSecs ctx book)
  | .planIos ctx => AvoidsExpired ctx.announcements ctx.now
      (mobilePlanned iosSignalStaleAfterSecs ctx book)
  | _ => True

/-! ## When a plan avoids the relay -/

def stateOf (book : PeerPathBook) (participant : String) : PeerPathState :=
  (book.peers.lookup participant).getD .default

/-- Every expired relay of a planned participant is displaced in its entry of the book. -/
def cliDisplaced (ctx : Cli.PlanContext) (book : PeerPathBook) : Prop :=
  ∀ participant ∈ ctx.others, ∀ a, ctx.announcements.lookup participant = some a →
    ∀ endpoint, ExpiredOnlyRelay a ctx.now endpoint →
      (stateOf book participant).Displaced (a.withoutExpiredRelay ctx.now) ctx.ownLocalEndpoints
        ctx.now Cli.peerPathRetryAfterSecs endpoint

/-- The same on a platform whose planner does not drop the relay. -/
def mobileDisplaced (retryAfterSecs : Nat) (ctx : PlanContext) (book : PeerPathBook) : Prop :=
  ∀ participant ∈ Cli.otherParticipants ctx.app ctx.ownPubkey, ∀ a,
    ctx.announcements.lookup participant = some a →
      ∀ endpoint, ExpiredOnlyRelay a ctx.now endpoint →
        (stateOf book participant).Displaced a ctx.ownLocalEndpoint.toList ctx.now retryAfterSecs
          endpoint

def ExpiredDisplaced (book : PeerPathBook) : PathEvent → Prop
  | .planCli ctx => cliDisplaced ctx book
  | .planAndroid ctx => mobileDisplaced androidSignalStaleAfterSecs ctx book
  | .planIos ctx => mobileDisplaced iosSignalStaleAfterSecs ctx book
  | _ => True

theorem withoutExpiredRelay_direct (a : PeerAnnouncement) (now : Nat) :
    (a.withoutExpiredRelay now).localEndpoint = a.localEndpoint ∧
      (a.withoutExpiredRelay now).publicEndpoint = a.publicEndpoint ∧
      (a.withoutExpiredRelay now).endpoint = a.endpoint := by
  unfold PeerAnnouncement.withoutExpiredRelay
  split_ifs <;> exact ⟨rfl, rfl, rfl⟩

/-- The endpoint used when nothing is tracked is an announced direct one. -/
theorem default_ne {a : PeerAnnouncement} {endpoint : String}
    (notLocal : a.localEndpoint ≠ some endpoint) (notPublic : a.publicEndpoint ≠ some endpoint)
    (notDirect : a.endpoint ≠ endpoint) (ownLocalEndpoints : List String) :
    selectPeerEndpointFromLocalEndpoints a ownLocalEndpoints ≠ endpoint := by
  have direct : a.directEndpoint ≠ endpoint := by
    unfold PeerAnnouncement.directEndpoint
    cases public' : a.publicEndpoint with
    | none => simpa using notDirect
    | some value => rw [Option.filter_some]; split_ifs <;> simp_all
  unfold selectPeerEndpointFromLocalEndpoints
  cases local' : a.localEndpoint with
  | none => exact direct
  | some value => dsimp only; split_ifs <;> simp_all

/-- The selection of a refreshed book is not a displaced endpoint. -/
theorem selected_ne {book : PeerPathBook} {participant : String} {a : PeerAnnouncement}
    {ownLocalEndpoints : List String} {now retryAfterSecs : Nat} {endpoint : String}
    (displaced : (stateOf book participant).Displaced a ownLocalEndpoints now retryAfterSecs
      endpoint)
    (default' : selectPeerEndpointFromLocalEndpoints a ownLocalEndpoints ≠ endpoint) :
    ((book.refreshFromAnnouncement participant a now).selectEndpointForLocalEndpoints participant a
      ownLocalEndpoints now retryAfterSecs).getD
        (selectPeerEndpointFromLocalEndpoints a ownLocalEndpoints) ≠ endpoint := by
  have other := PeerPathState.selectEndpoint_refresh_ne displaced
  unfold PeerPathBook.selectEndpointForLocalEndpoints
  rw [PeerPathBook.lookup_refresh]
  dsimp only
  split_ifs with empty
  · exact default'
  · unfold stateOf at other
    cases selection : PeerPathState.selectEndpoint _ _ _ _ _ with
    | none => exact default'
    | some e => rw [selection] at other; simpa using other

theorem cli_avoidsExpired {ctx : Cli.PlanContext} {book : PeerPathBook}
    (h : cliDisplaced ctx book) :
    AvoidsExpired ctx.announcements ctx.now (cliPlanned ctx book) := by
  intro peers eq e mem a announced expired
  unfold cliPlanned at eq
  cases plan : (Cli.plannedTunnelPeersForLocalEndpoints ctx book).1 with
  | error err => rw [plan] at eq; cases eq
  | ok planned =>
    rw [plan] at eq
    obtain rfl := Except.ok.inj eq
    obtain ⟨peer, memPeer, rfl⟩ := List.mem_map.mp mem
    obtain ⟨participant, memP, as⟩ := (Cli.mem_plan plan).mp memPeer
    obtain ⟨a', tunnelPeer, announced', -, -, rfl⟩ := as
    obtain rfl := Option.some.inj (announced'.symm.trans announced)
    obtain ⟨local', public', direct⟩ := withoutExpiredRelay_direct a' ctx.now
    refine selected_ne (h participant memP a' announced _ expired) ?_ rfl
    exact default_ne (local' ▸ expired.notLocal) (public' ▸ expired.notPublic)
      (direct ▸ expired.notDirect) _

theorem mobile_avoidsExpired {retryAfterSecs : Nat} {ctx : PlanContext} {book : PeerPathBook}
    (h : mobileDisplaced retryAfterSecs ctx book) :
    AvoidsExpired ctx.announcements ctx.now (mobilePlanned retryAfterSecs ctx book) := by
  intro peers eq e mem a announced expired
  unfold mobilePlanned at eq
  cases plan : (plannedTunnelPeers retryAfterSecs ctx book).1 with
  | error err => rw [plan] at eq; cases eq
  | ok planned =>
    rw [plan] at eq
    obtain rfl := Except.ok.inj eq
    obtain ⟨peer, memPeer, rfl⟩ := List.mem_map.mp mem
    obtain ⟨memP, a', announced', book', entry, at'⟩ := endpoint_of_mem_plan plan memPeer
    obtain rfl := Option.some.inj (announced'.symm.trans announced)
    have same : stateOf book' peer.participant = stateOf book peer.participant := by
      rw [stateOf, stateOf, entry]
    have displaced := h _ memP a' announced _ expired
    rw [← same] at displaced
    have away := selected_ne displaced
      (default_ne expired.notLocal expired.notPublic expired.notDirect _)
    unfold endpointOf selectPlannedEndpoint at at'
    rw [selectPeerEndpoint_eq] at at'
    exact away at'.symm

/-- On the command line it is enough that the book tracks the relay as nothing but a relay. -/
theorem cliDisplaced_of_tracked_as_relay {ctx : Cli.PlanContext} {book : PeerPathBook}
    (h : ∀ participant ∈ ctx.others, ∀ a, ctx.announcements.lookup participant = some a →
      ∀ endpoint, ExpiredOnlyRelay a ctx.now endpoint →
        ∀ tracked, (stateOf book participant).endpoints.lookup endpoint = some tracked →
          tracked.source = .Relay) : cliDisplaced ctx book := by
  intro participant memP a announced endpoint expired
  refine PeerPathState.displaced_of_forgotten (PeerPathState.refreshedPath_eq_none_of_relay ?_
    (h participant memP a announced endpoint expired))
  intro mem
  obtain ⟨e, memE, rfl⟩ := List.mem_map.mp mem
  obtain ⟨local', public', direct⟩ := withoutExpiredRelay_direct a ctx.now
  have noRelay : (a.withoutExpiredRelay ctx.now).relayEndpoint = none := by
    unfold PeerAnnouncement.withoutExpiredRelay
    rw [if_pos expired.expired]
  rcases mem_announcementEndpoints memE with h | h | h | h
  · exact expired.notLocal (local' ▸ h.1)
  · exact expired.notPublic (public' ▸ h.1)
  · rw [noRelay] at h
    cases h.1
  · exact expired.notDirect (direct ▸ h.1)

/-- In every run whose plans find every expired relay displaced, no plan uses one. -/
theorem expiredRelay_avoided_along {book : PeerPathBook} {events : List PathEvent}
    (along : Along pathStep ExpiredDisplaced book events) :
    Along pathStep ExpiredNeverPlanned book events := by
  refine along.mono fun book event displaced => ?_
  cases event with
  | planCli ctx => exact cli_avoidsExpired displaced
  | planAndroid ctx => exact mobile_avoidsExpired displaced
  | planIos ctx => exact mobile_avoidsExpired displaced
  | _ => trivial

/-! ## A relay that succeeds after its lease -/

def sampleRelay : String := "198.51.100.9:40000"

def samplePeer : String := "79be667ef9dcbbac55a06295ce870b07029bfcdb2dce28d959f2815b16f81798"

/-- A public peer whose relay expires at 90. -/
def leasedAnnouncement : PeerAnnouncement :=
  { Cli.sampleAnnouncement 0 "10.44.7.7/32" [] with
    relayEndpoint := some sampleRelay
    relayPubkey := some samplePeer
    relayExpiresAt := some 90 }

def cliContext (now : Nat) : Cli.PlanContext := { Cli.sampleContext [leasedAnnouncement] with now }

def mobileContext (now : Nat) : PlanContext where
  app := Cli.sampleConfig
  ownPubkey := none
  announcements := HashMap.ofList [(samplePeer, leasedAnnouncement)]
  ownLocalEndpoint := none
  now := now

/-- The relay is dropped with its lease and tracked anew at the next handshake through it. -/
def observedAgain : List PathEvent :=
  [.planCli (cliContext 80), .planCli (cliContext 100), .success samplePeer sampleRelay 105,
   .planCli (cliContext 110)]

theorem expiredOnlyRelay_sample {now : Nat} (h : 90 ≤ now) :
    ExpiredOnlyRelay leasedAnnouncement now sampleRelay :=
  ⟨rfl, by simpa [leasedAnnouncement] using h, by decide, by decide, by decide⟩

theorem not_avoidsExpired_sample {announcements : Announcements} {now : Nat} (late : 90 ≤ now)
    (announced : announcements.lookup samplePeer = some leasedAnnouncement)
    {planned : Except String (List (String × String))}
    (h : planned = .ok [(samplePeer, sampleRelay)]) :
    ¬ AvoidsExpired announcements now planned :=
  fun avoids => avoids _ h (samplePeer, sampleRelay) (by simp) _ announced
    (expiredOnlyRelay_sample late)

/-- All three planners use the relay after its lease. -/
theorem expiredRelay_planned :
    ¬ Along pathStep ExpiredNeverPlanned ⟨∅⟩ observedAgain ∧
      ¬ Along pathStep ExpiredNeverPlanned ⟨∅⟩ [.planAndroid (mobileContext 100)] ∧
      ¬ Along pathStep ExpiredNeverPlanned ⟨∅⟩ [.planIos (mobileContext 100)] := by
  refine ⟨?_, ?_, ?_⟩
  · rintro ⟨-, -, -, last, -⟩
    exact not_avoidsExpired_sample (by decide) (by decide +kernel) (by decide +kernel) last
  · rintro ⟨first, -⟩
    exact not_avoidsExpired_sample (by decide) (by decide +kernel) (by decide +kernel) first
  · rintro ⟨first, -⟩
    exact not_avoidsExpired_sample (by decide) (by decide +kernel) (by decide +kernel) first

theorem expiredOnlyRelay_sample_iff {now : Nat} {endpoint : String}
    (h : ExpiredOnlyRelay leasedAnnouncement now endpoint) : endpoint = sampleRelay ∧ 90 ≤ now :=
  ⟨(Option.some.inj h.relay).symm, by simpa [leasedAnnouncement] using h.expired⟩

theorem cliDisplaced_sample {book : PeerPathBook} {now : Nat}
    (relay : ∀ tracked, (stateOf book samplePeer).endpoints.lookup sampleRelay = some tracked →
      tracked.source = .Relay) : cliDisplaced (cliContext now) book := by
  refine cliDisplaced_of_tracked_as_relay fun participant _ a announced endpoint expired => ?_
  have entries : (cliContext now).announcements.toList = [(samplePeer, leasedAnnouncement)] := rfl
  rw [← HashMap.mem_toList, entries, List.mem_singleton] at announced
  obtain ⟨rfl, rfl⟩ := Prod.mk.inj announced
  obtain ⟨rfl, -⟩ := expiredOnlyRelay_sample_iff expired
  exact relay

/-- The public endpoint succeeds after the lease. -/
def succeededDirectly : List PathEvent :=
  [.planCli (cliContext 80), .planCli (cliContext 100),
   .success samplePeer "203.0.113.20:51820" 104, .planAndroid (mobileContext 105)]

theorem expiredRelay_avoided_along_of_direct_success :
    Along pathStep ExpiredNeverPlanned ⟨∅⟩ succeededDirectly := by
  refine expiredRelay_avoided_along ⟨cliDisplaced_sample ?_, cliDisplaced_sample ?_, trivial, ?_,
    trivial⟩
  · decide +kernel
  · decide +kernel
  · intro participant _ a announced endpoint expired
    have entries : (mobileContext 105).announcements.toList = [(samplePeer, leasedAnnouncement)] :=
      rfl
    rw [← HashMap.mem_toList, entries, List.mem_singleton] at announced
    obtain ⟨rfl, rfl⟩ := Prod.mk.inj announced
    obtain ⟨rfl, -⟩ := expiredOnlyRelay_sample_iff expired
    intro tracked found
    refine ⟨"203.0.113.20:51820", ⟨.Legacy, 105, none, some 104⟩, by decide +kernel, ?_, Or.inl ?_⟩
    · have path : tracked = ⟨.Relay, 105, none, none⟩ :=
        Option.some.inj (found.symm.trans (by decide +kernel))
      subst path
      decide +kernel
    · decide +kernel

end NostrVpn.Gui
