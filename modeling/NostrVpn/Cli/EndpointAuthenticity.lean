import NostrVpn.Cli.UserspaceWg
import NostrVpn.Transition
import Mathlib.Data.List.Find
import Mathlib.Data.List.Sigma

/-!
# Who may move a peer's endpoint

`receive_datagram` gives a datagram to every peer in turn, and the first one whose tunnel does not answer
with one of ten errors takes it and roams to its source. Among the answers that are left are those of a
datagram that was not authenticated: `Done` for an empty one, a cookie reply, and seven errors.
-/
namespace NostrVpn.Cli

open Rust Rust.Net Transition

variable {ω σ : Type}

/-! ## What a call keeps -/

namespace UserspaceWireGuardPeerRuntime

variable {tunn : Tunn ω σ} {w : ω}

theorem flushQueued_eq (peer : UserspaceWireGuardPeerRuntime σ) :
    peer.flushQueued tunn w =
      if (peer.process (tunn.decapsulate w peer.tunnel none [])).1.isEmpty = true then
        ({}, (peer.process (tunn.decapsulate w peer.tunnel none [])).2)
      else
        ((peer.process (tunn.decapsulate w peer.tunnel none [])).1.extend
            ((peer.process (tunn.decapsulate w peer.tunnel none [])).2.flushQueued tunn w).1,
          ((peer.process (tunn.decapsulate w peer.tunnel none [])).2.flushQueued tunn w).2) := by
  rw [flushQueued]
  rfl

@[simp] theorem endpoint_process (peer : UserspaceWireGuardPeerRuntime σ) (call : TunnResult × σ) :
    (peer.process call).2.endpoint = peer.endpoint := rfl

@[simp] theorem endpoint_flushQueued (peer : UserspaceWireGuardPeerRuntime σ) :
    (peer.flushQueued tunn w).2.endpoint = peer.endpoint := by
  induction peer using flushQueued.induct tunn w with
  | case1 peer next done => rw [flushQueued_eq, if_pos done]; rfl
  | case2 peer next done ih => rw [flushQueued_eq, if_neg done]; exact ih

@[simp] theorem endpoint_tick (peer : UserspaceWireGuardPeerRuntime σ) :
    (peer.tick tunn w).2.endpoint = peer.endpoint := by
  simp [tick]

@[simp] theorem endpoint_tryDatagram (source : SocketAddr) (datagram : List UInt8)
    (peer : UserspaceWireGuardPeerRuntime σ) :
    (peer.tryDatagram tunn w source datagram).2.endpoint = peer.endpoint := by
  unfold tryDatagram
  dsimp only
  split_ifs <;> rfl

@[simp] theorem endpoint_acceptDatagram (source : SocketAddr)
    (tried : DatagramProcessingResult × UserspaceWireGuardPeerRuntime σ) :
    (acceptDatagram tunn w source tried).2.endpoint = source := by
  simp [acceptDatagram]

end UserspaceWireGuardPeerRuntime

namespace UserspaceWireGuardRuntime

def endpoints (rt : UserspaceWireGuardRuntime σ) : List SocketAddr :=
  rt.peers.map UserspaceWireGuardPeerRuntime.endpoint

variable (tunn : Tunn ω σ) (w : ω) (source : SocketAddr) (datagram : List UInt8)

/-- The peer at the index leaves the datagram to the next candidate. -/
def passes (rt : UserspaceWireGuardRuntime σ) (index : Nat) : Bool :=
  (rt.peers[index]?).any fun peer => (peer.tryDatagram tunn w source datagram).1.isNonmatching

/-- The candidate that takes the datagram. -/
def taker (rt : UserspaceWireGuardRuntime σ) : Option Nat :=
  (rt.candidates source).find? fun index => !rt.passes tunn w source datagram index

variable {tunn w source datagram} {rt : UserspaceWireGuardRuntime σ}

theorem endpoints_set {index : Nat} {peer : UserspaceWireGuardPeerRuntime σ} :
    endpoints ⟨rt.peers.set index peer⟩ = rt.endpoints.set index peer.endpoint := by
  simp [endpoints, List.map_set]

/-- A change of one peer that keeps its endpoint keeps them all. -/
theorem endpoints_set_same {index : Nat} {before after : UserspaceWireGuardPeerRuntime σ}
    (at' : rt.peers[index]? = some before) (same : after.endpoint = before.endpoint) :
    endpoints ⟨rt.peers.set index after⟩ = rt.endpoints := by
  obtain ⟨known, rfl⟩ := List.getElem?_eq_some_iff.mp at'
  rw [endpoints_set, same, ← List.getElem_map UserspaceWireGuardPeerRuntime.endpoint]
  exact List.set_getElem_self (by simpa [endpoints] using known)

theorem passes_set_of_ne {index other : Nat} (ne : other ≠ index)
    (peer : UserspaceWireGuardPeerRuntime σ) :
    passes tunn w source datagram ⟨rt.peers.set index peer⟩ other =
      rt.passes tunn w source datagram other := by
  simp [passes, List.getElem?_set_ne ne.symm]

/-- What the loop does: the first candidate that does not pass takes the datagram. The candidates
tried before it keep their endpoints. -/
theorem receiveFrom_cases {indices : List Nat} (nodup : indices.Nodup)
    (known : ∀ index ∈ indices, index < rt.peers.length) :
    ∃ before : UserspaceWireGuardRuntime σ, before.endpoints = rt.endpoints ∧
      (((indices.find? fun index => !rt.passes tunn w source datagram index) = none ∧
          receiveFrom tunn w source datagram rt indices = (.ok {}, before)) ∨
        ∃ index peer, (indices.find? fun index => !rt.passes tunn w source datagram index) =
            some index ∧ rt.peers[index]? = some peer ∧
          receiveFrom tunn w source datagram rt indices =
            (.ok (UserspaceWireGuardPeerRuntime.acceptDatagram tunn w source
                (peer.tryDatagram tunn w source datagram)).1,
              ⟨before.peers.set index (UserspaceWireGuardPeerRuntime.acceptDatagram tunn w source
                (peer.tryDatagram tunn w source datagram)).2⟩)) := by
  induction indices generalizing rt with
  | nil => exact ⟨rt, rfl, .inl ⟨rfl, rfl⟩⟩
  | cons index rest ih =>
    obtain ⟨fresh, restNodup⟩ := List.nodup_cons.mp nodup
    have ne : ∀ other ∈ rest, other ≠ index := fun other mem eq => fresh (eq ▸ mem)
    obtain ⟨peer, at'⟩ : ∃ peer, rt.peers[index]? = some peer :=
      ⟨_, List.getElem?_eq_getElem (known index (by simp))⟩
    rw [receiveFrom, at', List.find?_cons]
    by_cases nonmatching : (peer.tryDatagram tunn w source datagram).1.isNonmatching = true
    · have passed : rt.passes tunn w source datagram index = true := by
        simp [passes, at', nonmatching]
      obtain ⟨before, same, which⟩ :=
        @ih ⟨rt.peers.set index (peer.tryDatagram tunn w source datagram).2⟩ restNodup
          fun other mem => by simpa using known other (by simp [mem])
      have find : rest.find? (fun other => !passes tunn w source datagram
          ⟨rt.peers.set index (peer.tryDatagram tunn w source datagram).2⟩ other) =
          rest.find? fun other => !rt.passes tunn w source datagram other :=
        List.find?_congr fun other mem => by rw [passes_set_of_ne (ne other mem)]
      rw [find] at which
      refine ⟨before, same.trans (endpoints_set_same at' (by simp)), ?_⟩
      simp only [nonmatching, if_true, passed, Bool.not_true]
      refine which.imp_right fun ⟨other, peer', found, there, result⟩ => ?_
      have mem := List.mem_of_find?_eq_some found
      exact ⟨other, peer', found, by rwa [List.getElem?_set_ne (ne other mem).symm] at there, result⟩
    · have taken : rt.passes tunn w source datagram index = false := by
        simp [passes, at', nonmatching]
      refine ⟨rt, rfl, .inr ⟨index, peer, ?_, at', ?_⟩⟩
      · simp [taken]
      · simp [nonmatching]

/-- The candidates are all the peers, each once. -/
theorem perm_candidates : (rt.candidates source).Perm (rt.peers.zipIdx.map Prod.snd) := by
  have split := List.filter_append_perm (fun e => decide (e.1.endpoint = source)) rt.peers.zipIdx
  refine List.Perm.trans (List.Perm.of_eq ?_) (split.map Prod.snd)
  simp [candidates]

theorem nodup_candidates : (rt.candidates source).Nodup :=
  perm_candidates.nodup_iff.mpr (List.nodup_zipIdx_map_snd _)

theorem lt_of_mem_candidates {index : Nat} (h : index ∈ rt.candidates source) :
    index < rt.peers.length := by
  obtain ⟨e, mem, rfl⟩ := List.mem_map.mp (perm_candidates.mem_iff.mp h)
  exact (List.getElem?_eq_some_iff.mp (List.mem_zipIdx_iff_getElem?.mp mem)).1

/-- A datagram moves the endpoint of its taker. -/
theorem endpoints_datagram : (rt.step tunn (.datagram w source datagram)).endpoints =
    match rt.taker tunn w source datagram with
    | some index => rt.endpoints.set index source
    | none => rt.endpoints := by
  obtain ⟨before, same, ⟨none, result⟩ | ⟨index, peer, found, -, result⟩⟩ :=
    @receiveFrom_cases _ _ tunn w source datagram rt (rt.candidates source) nodup_candidates
      fun _ => lt_of_mem_candidates
  · rw [taker, none, step, receiveDatagram, result, same]
  · rw [taker, found, step, receiveDatagram, result, endpoints_set, same]
    simp

/-- Every other call keeps the endpoints. -/
theorem endpoints_step_of_no_datagram {e : WireGuardEvent ω}
    (h : ∀ w source datagram, e ≠ .datagram w source datagram) :
    (rt.step tunn e).endpoints = rt.endpoints := by
  cases e with
  | datagram w source datagram => exact absurd rfl (h w source datagram)
  | packet w packet =>
    simp only [step, queueTunnelPacket]
    split
    · rfl
    · split
      · rfl
      · rename_i at'
        exact endpoints_set_same at' (by simp)
  | timers w => simp [step, tickTimers, endpoints, Function.comp_def]
  | handshakes w => simp [step, initiateHandshakes, endpoints, Function.comp_def]

end UserspaceWireGuardRuntime

/-! ## Authentic changes -/

/-- The message types of a handshake response and of transport data, which confirms one. -/
def isHandshakeReply (packet : List UInt8) : Bool :=
  packet.head? == some 2 || packet.head? == some 4

/-- Decapsulation gave data, a handshake reply or an accepted keepalive. Which datagrams are accepted
keepalives is a parameter: the answer to them is `Done`. -/
def Authenticates (tunn : Tunn ω σ) (keepalive : ω → σ → List UInt8 → Prop) (w : ω) (tunnel : σ)
    (source : SocketAddr) (datagram : List UInt8) : Prop :=
  datagram ≠ [] ∧ match (tunn.decapsulate w tunnel (some source.ip) datagram).1 with
  | .WriteToTunnelV4 .. | .WriteToTunnelV6 .. => True
  | .WriteToNetwork reply => isHandshakeReply reply = true
  | .Done => keepalive w tunnel datagram
  | .Err _ => False

namespace UserspaceWireGuardRuntime

variable (tunn : Tunn ω σ) (keepalive : ω → σ → List UInt8 → Prop)

/-- An endpoint changes to the source of a datagram that its peer authenticates, and otherwise stays. -/
def EndpointsAuthentic (rt : UserspaceWireGuardRuntime σ) (e : WireGuardEvent ω) : Prop :=
  ∀ (index : Nat) (peer : UserspaceWireGuardPeerRuntime σ), rt.peers[index]? = some peer →
    (rt.step tunn e).endpoints[index]? = some peer.endpoint ∨
    ∃ w source datagram, e = .datagram w source datagram ∧
      (rt.step tunn e).endpoints[index]? = some source ∧
      Authenticates tunn keepalive w peer.tunnel source datagram

/-- The peer that takes a datagram authenticates it, or is at its source already. -/
def TakenInGoodFaith (rt : UserspaceWireGuardRuntime σ) : WireGuardEvent ω → Prop
  | .datagram w source datagram => ∀ index peer, rt.taker tunn w source datagram = some index →
    rt.peers[index]? = some peer →
      peer.endpoint = source ∨ Authenticates tunn keepalive w peer.tunnel source datagram
  | _ => True

variable {tunn keepalive} {rt : UserspaceWireGuardRuntime σ}

theorem endpoints_getElem? {index : Nat} {peer : UserspaceWireGuardPeerRuntime σ}
    (at' : rt.peers[index]? = some peer) : rt.endpoints[index]? = some peer.endpoint := by
  simp [endpoints, at']

theorem endpointsAuthentic_iff (e : WireGuardEvent ω) :
    rt.EndpointsAuthentic tunn keepalive e ↔ rt.TakenInGoodFaith tunn keepalive e := by
  cases e with
  | datagram w source datagram =>
    have moved := @endpoints_datagram _ _ tunn w source datagram rt
    constructor
    · intro authentic index peer takes at'
      rw [takes] at moved
      have known : index < rt.endpoints.length := by
        simpa [endpoints] using (List.getElem?_eq_some_iff.mp at').1
      rcases authentic index peer at' with same | ⟨w', source', datagram', same, -, authenticates⟩
      · rw [moved, List.getElem?_set_self known] at same
        exact .inl (Option.some.inj same).symm
      · obtain ⟨rfl, rfl, rfl⟩ := WireGuardEvent.datagram.inj same
        exact .inr authenticates
    · intro faith index peer at'
      cases takes : rt.taker tunn w source datagram with
      | none =>
        rw [takes] at moved
        exact .inl (by rw [moved, endpoints_getElem? at'])
      | some taker =>
        rw [takes] at moved
        by_cases same : taker = index
        · subst same
          have known : taker < rt.endpoints.length := by
            simpa [endpoints] using (List.getElem?_eq_some_iff.mp at').1
          rw [moved, List.getElem?_set_self known]
          rcases faith taker peer takes at' with there | authenticates
          · exact .inl (congrArg some there.symm)
          · exact .inr ⟨w, source, datagram, rfl, rfl, authenticates⟩
        · exact .inl (by rw [moved, List.getElem?_set_ne same, endpoints_getElem? at'])
  | _ =>
    refine ⟨fun _ => trivial, fun _ index peer at' => .inl ?_⟩
    rw [endpoints_step_of_no_datagram (by simp), endpoints_getElem? at']

/-- In every run, from any peers, the endpoints change by authenticated datagrams alone just when
every datagram is taken by a peer that authenticates it or is at its source already. -/
theorem endpoints_authentic_iff (tunn : Tunn ω σ) (keepalive : ω → σ → List UInt8 → Prop)
    (rt : UserspaceWireGuardRuntime σ) (es : List (WireGuardEvent ω)) :
    Along (step tunn) (EndpointsAuthentic tunn keepalive) rt es ↔
      Along (step tunn) (TakenInGoodFaith tunn keepalive) rt es :=
  ⟨Along.mono fun _ e => (endpointsAuthentic_iff e).mp,
    Along.mono fun _ e => (endpointsAuthentic_iff e).mpr⟩

/-! ### An empty datagram -/

/-- A tunnel with no session and nothing queued: an empty datagram is a repeated call and gives `Done`,
and any other one is refused. -/
def idleTunn : Tunn Unit Unit where
  new _ _ _ := ()
  dstAddress _ := none
  encapsulate _ _ _ := (.Done, ())
  decapsulate _ _ _ datagram := (if datagram = [] then .Done else .Err .InvalidPacket, ())
  formatHandshakeInitiation _ _ := (.Done, ())
  updateTimers _ _ := (.Done, ())
  queued _ := 0
  drains _ _ writes := by simp [TunnResult.writes] at writes

def idlePeer : UserspaceWireGuardPeerRuntime Unit where
  participantPubkey := "bob"
  endpoint := .v4 (.ofOctets 203 0 113 7) 51820
  tunnel := ()
  routes := []

/-- An empty datagram from anywhere moves the endpoint of a peer. -/
theorem endpoints_follow_empty_datagram :
    ¬∀ (keepalive : Unit → Unit → List UInt8 → Prop) (es : List (WireGuardEvent Unit)),
      Along (step idleTunn) (EndpointsAuthentic idleTunn keepalive) ⟨[idlePeer]⟩ es := by
  intro authentic
  obtain ⟨stolen, -⟩ := authentic (fun _ _ _ => True)
    [.datagram () (.v4 (.ofOctets 198 51 100 9) 4000) []]
  have faith := (endpointsAuthentic_iff _).mp stolen 0 idlePeer (by decide) rfl
  rcases faith with there | authenticates
  · exact absurd there (by decide)
  · exact authenticates.1 rfl

end UserspaceWireGuardRuntime
end NostrVpn.Cli
