import NostrVpn.Cli.TunnelPlan

/-!
# Planning of tunnel peers on Android and iOS

`nostr-vpn-gui/src-tauri/src/android_session_planning.rs` (again in `android_session_runtime.rs`)
and `ios_packet_tunnel/ios_tunnel_planning.rs`: one planner, with a retry time of its own on each
platform. Their route assignment is the one of the command line, and a plan neither drops an
expired relay nor asks for a public signal.
-/
namespace NostrVpn.Gui

open Rust Rust.Net NostrVpn.Core
open NostrVpn.Cli (Announcements stripCidr otherParticipants)

structure TunnelPeer where
  participant : String
  pubkeyB64 : String
  endpoint : SocketAddr
  allowedIps : List String
  deriving DecidableEq, Repr

structure PlannedTunnelPeer where
  participant : String
  endpoint : String
  peer : TunnelPeer
  deriving DecidableEq, Repr

/-- The inputs of a planning call that its loop only reads. -/
structure PlanContext where
  app : AppConfig
  ownPubkey : Option String
  announcements : Announcements
  ownLocalEndpoint : Option String
  now : Nat

def selectPlannedEndpoint (retryAfterSecs : Nat) (book : PeerPathBook) (participant : String)
    (a : PeerAnnouncement) (ownLocalEndpoint : Option String) (now : Nat) : String :=
  (book.selectEndpoint participant a ownLocalEndpoint now retryAfterSecs).getD
    (selectPeerEndpoint a ownLocalEndpoint)

/-- One round of the loop; an endpoint that is no socket address ends it. -/
def planParticipant (retryAfterSecs : Nat) (ctx : PlanContext)
    (assignments : HashMap String (List String)) (book : PeerPathBook) (participant : String) :
    Except String (Option PlannedTunnelPeer) × PeerPathBook :=
  match ctx.announcements.lookup participant with
  | none => (.ok none, book)
  | some a =>
    let book := book.refreshFromAnnouncement participant a ctx.now
    let selectedEndpoint :=
      selectPlannedEndpoint retryAfterSecs book participant a ctx.ownLocalEndpoint ctx.now
    match SocketAddr.parse selectedEndpoint with
    | none => (.error s!"invalid peer endpoint {selectedEndpoint}", book)
    | some endpoint =>
      let routes := (assignments.lookup participant).getD []
      let allowedIps := routes.foldl pushUnique [stripCidr a.tunnelIp ++ "/32"]
      (.ok (some {
        participant
        endpoint := selectedEndpoint
        peer := { participant, pubkeyB64 := a.publicKey, endpoint, allowedIps } }), book)

def planParticipants (retryAfterSecs : Nat) (ctx : PlanContext)
    (assignments : HashMap String (List String)) :
    PeerPathBook → List String → Except String (List PlannedTunnelPeer) × PeerPathBook
  | book, [] => (.ok [], book)
  | book, participant :: rest =>
    match planParticipant retryAfterSecs ctx assignments book participant with
    | (.error e, book) => (.error e, book)
    | (.ok planned, book) =>
      let (peers, book) := planParticipants retryAfterSecs ctx assignments book rest
      (peers.map fun peers => planned.toList ++ peers, book)

def plannedTunnelPeers (retryAfterSecs : Nat) (ctx : PlanContext) (book : PeerPathBook) :
    Except String (List PlannedTunnelPeer) × PeerPathBook :=
  let participants := otherParticipants ctx.app ctx.ownPubkey
  let assignments := Cli.advertisedRouteAssignments ctx.app ctx.ownPubkey ctx.announcements
  let (peers, book) := planParticipants retryAfterSecs ctx assignments
    (book.retainParticipants participants) participants
  (peers.map fun peers => sortByKey PlannedTunnelPeer.participant peers, book)

def androidSignalStaleAfterSecs : Nat := 45

def iosSignalStaleAfterSecs : Nat := 45

/-- `planned_tunnel_peers` on Android. -/
def androidPlannedTunnelPeers : PlanContext → PeerPathBook →
    Except String (List PlannedTunnelPeer) × PeerPathBook :=
  plannedTunnelPeers androidSignalStaleAfterSecs

/-- `planned_tunnel_peers` on iOS. -/
def iosPlannedTunnelPeers : PlanContext → PeerPathBook →
    Except String (List PlannedTunnelPeer) × PeerPathBook :=
  plannedTunnelPeers iosSignalStaleAfterSecs

/-! ## What a plan holds -/

theorem selectPeerEndpoint_eq (a : PeerAnnouncement) (ownLocalEndpoint : Option String) :
    selectPeerEndpoint a ownLocalEndpoint =
      selectPeerEndpointFromLocalEndpoints a ownLocalEndpoint.toList := by
  unfold selectPeerEndpoint selectPeerEndpointFromLocalEndpoints
  cases a.localEndpoint <;> cases ownLocalEndpoint <;> simp [endpointSharesPrivateIpv4Subnet]

section Loop
variable {retryAfterSecs : Nat} {ctx : PlanContext} {assignments : HashMap String (List String)}
  {book : PeerPathBook}

/-- The endpoint at which the loop would plan an announced participant. -/
def endpointOf (retryAfterSecs : Nat) (ctx : PlanContext) (book : PeerPathBook)
    (participant : String) (a : PeerAnnouncement) : String :=
  selectPlannedEndpoint retryAfterSecs (book.refreshFromAnnouncement participant a ctx.now)
    participant a ctx.ownLocalEndpoint ctx.now

theorem planParticipant_eq_some {participant : String} {planned : PlannedTunnelPeer}
    (h : (planParticipant retryAfterSecs ctx assignments book participant).1 =
      .ok (some planned)) :
    planned.participant = participant ∧ ∃ a, ctx.announcements.lookup participant = some a ∧
      planned.endpoint = endpointOf retryAfterSecs ctx book participant a := by
  unfold planParticipant at h
  cases found : ctx.announcements.lookup participant with
  | none => simp [found] at h
  | some a =>
    rw [found] at h
    dsimp only at h
    split at h
    · cases h
    · obtain rfl := Option.some.inj (Except.ok.inj h)
      exact ⟨rfl, a, rfl, rfl⟩

theorem lookup_planParticipant_ne {participant other : String} (h : other ≠ participant) :
    (planParticipant retryAfterSecs ctx assignments book participant).2.peers.lookup other =
      book.peers.lookup other := by
  unfold planParticipant
  split
  · rfl
  · dsimp only
    split <;> exact PeerPathBook.lookup_refresh_ne h ..

/-- Every planned peer comes from a round on a book that has the participant's own entry still. -/
theorem mem_planParticipants {participants : List String} (nodup : participants.Nodup)
    {peers : List PlannedTunnelPeer}
    (h : (planParticipants retryAfterSecs ctx assignments book participants).1 = .ok peers)
    {planned : PlannedTunnelPeer} (mem : planned ∈ peers) :
    ∃ participant ∈ participants, ∃ book' : PeerPathBook,
      book'.peers.lookup participant = book.peers.lookup participant ∧
      (planParticipant retryAfterSecs ctx assignments book' participant).1 =
        .ok (some planned) := by
  induction participants generalizing book peers with
  | nil =>
    obtain rfl := Except.ok.inj h
    simp at mem
  | cons participant rest ih =>
    obtain ⟨fresh, restNodup⟩ := List.nodup_cons.mp nodup
    have same {other : String} (hne : other ≠ participant) := @lookup_planParticipant_ne
      retryAfterSecs ctx assignments book participant other hne
    rw [planParticipants] at h
    cases round : planParticipant retryAfterSecs ctx assignments book participant with
    | mk result book₁ =>
      rw [round] at h same
      cases result with
      | error e => simp at h
      | ok first =>
        dsimp only at h
        cases tail : (planParticipants retryAfterSecs ctx assignments book₁ rest).1 with
        | error e => rw [tail] at h; cases h
        | ok tailPeers =>
          rw [tail] at h
          obtain rfl := Except.ok.inj h
          rcases List.mem_append.mp mem with here | later
          · refine ⟨participant, by simp, book, rfl, ?_⟩
            rw [round, Option.mem_toList.mp here]
          · obtain ⟨p, memP, book', entry, out⟩ := ih restNodup tail later
            have ne : p ≠ participant := fun eq => fresh (eq ▸ memP)
            exact ⟨p, by simp [memP], book', entry.trans (same ne), out⟩

/-- Where a plan puts a peer. -/
theorem endpoint_of_mem_plan {plan : List PlannedTunnelPeer}
    (h : (plannedTunnelPeers retryAfterSecs ctx book).1 = .ok plan) {planned : PlannedTunnelPeer}
    (mem : planned ∈ plan) :
    planned.participant ∈ otherParticipants ctx.app ctx.ownPubkey ∧
      ∃ a, ctx.announcements.lookup planned.participant = some a ∧ ∃ book' : PeerPathBook,
        book'.peers.lookup planned.participant = book.peers.lookup planned.participant ∧
        planned.endpoint = endpointOf retryAfterSecs ctx book' planned.participant a := by
  unfold plannedTunnelPeers at h
  dsimp only at h
  cases loop : (planParticipants retryAfterSecs ctx (Cli.advertisedRouteAssignments ctx.app
    ctx.ownPubkey ctx.announcements) (book.retainParticipants (otherParticipants ctx.app
    ctx.ownPubkey)) (otherParticipants ctx.app ctx.ownPubkey)).1 with
  | error e => rw [loop] at h; cases h
  | ok peers =>
    rw [loop] at h
    obtain rfl := Except.ok.inj h
    obtain ⟨participant, memP, book', entry, round⟩ := mem_planParticipants
      (ctx.app.nodup_participantPubkeysHex.filter _) loop (mem_sortByKey.mp mem)
    obtain ⟨rfl, a, found, eq⟩ := planParticipant_eq_some round
    have kept := PeerPathBook.lookup_retainParticipants book memP
    exact ⟨memP, a, found, book', entry.trans kept, eq⟩

end Loop

end NostrVpn.Gui
