import NostrVpn.Gui.AndroidSession
import NostrVpn.Gui.MobileRoutes
import NostrVpn.Rust.NetChars
import NostrVpn.Rust.NetText
import NostrVpn.Rust.Split

/-!
# What a tunnel fingerprint tells

`tunnel_fingerprint` writes the peers of a plan with the separators `|`, `;` and `,` and escapes none of them.
A public key and a tunnel address come from announcements and may hold any character. Still, a plan with at least
as many peers as a plan without separators in its texts, and with the same fingerprint, asks for the same peers:
its fingerprint has no bars and semicolons to spare.
-/
namespace NostrVpn.Gui

open Rust Rust.Net NostrVpn.Core
open NostrVpn.Cli (stripCidr otherParticipants)

/-- No separator of a fingerprint stands in the text. -/
def Separable (s : String) : Prop := ∀ c ∈ ['|', ';', ','], c ∉ s.toList

instance (s : String) : Decidable (Separable s) := inferInstanceAs (Decidable (∀ c ∈ _, _))

/-! ## What a plan is made of -/

/-- The peer of an announced participant. -/
structure AnnouncedAs (ctx : PlanContext) (planned : PlannedTunnelPeer) (a : PeerAnnouncement) : Prop where
  other : planned.participant ∈ otherParticipants ctx.app ctx.ownPubkey
  announced : ctx.announcements.lookup planned.participant = some a
  participant : planned.peer.participant = planned.participant
  pubkeyB64 : planned.peer.pubkeyB64 = a.publicKey
  allowedIps : ∃ routes, (∀ route ∈ routes, Separable route) ∧
    planned.peer.allowedIps = (stripCidr a.tunnelIp ++ "/32") :: routes

theorem separable_of_prefix (p : IpPrefix) : Separable p.fmt := by
  intro c mem
  have outside : ∀ c ∈ ['|', ';', ','], isAddressChar c = false ∧ c ≠ '/' ∧ c ≠ '+' := by decide
  obtain ⟨address, slash, plus⟩ := outside c mem
  exact notMem_of_prefix p.ofText_fmt address slash plus

theorem separable_of_assigned {ctx : PlanContext} {participant route : String} {routes : List String}
    (found : (Cli.advertisedRouteAssignments ctx.app ctx.ownPubkey ctx.announcements).lookup participant =
      some routes) (mem : route ∈ routes) : Separable route := by
  obtain ⟨-, ⟨-, a, -, value, -, normal⟩, -⟩ := ((Cli.advertisedRouteAssignments_followsPolicy ctx.app
    ctx.ownPubkey ctx.announcements).owner participant route).mp ⟨routes, found, mem⟩
  obtain ⟨p, rfl⟩ := exists_prefix_of_normalizeAdvertisedRoute normal
  exact separable_of_prefix p

theorem foldl_pushUnique_eq_append {α : Type} [DecidableEq α] (l out : List α) :
    ∃ added, (∀ x ∈ added, x ∈ l) ∧ l.foldl pushUnique out = out ++ added := by
  induction l generalizing out with
  | nil => exact ⟨[], by simp, by simp⟩
  | cons x l ih =>
    rw [List.foldl_cons, pushUnique]
    split_ifs
    · obtain ⟨added, inside, eq⟩ := ih out
      exact ⟨added, fun y mem => List.mem_cons_of_mem _ (inside y mem), eq⟩
    · obtain ⟨added, inside, eq⟩ := ih (out ++ [x])
      refine ⟨x :: added, fun y mem => ?_, by rw [eq, List.append_assoc]; rfl⟩
      exact (List.mem_cons.mp mem).elim (fun eq => eq ▸ List.mem_cons_self)
        fun mem => List.mem_cons_of_mem _ (inside y mem)

section Plan
variable {ctx : PlanContext} {book : PeerPathBook} {plan : List PlannedTunnelPeer}

/-- A round plans the announced participant, at some endpoint. -/
theorem planned_of_planParticipant {retryAfterSecs : Nat} {assignments : HashMap String (List String)}
    {participant : String} {planned : Option PlannedTunnelPeer}
    (h : (planParticipant retryAfterSecs ctx assignments book participant).1 = .ok planned) :
    ctx.announcements.lookup participant = none ∧ planned = none ∨
    ∃ a endpoint addr, ctx.announcements.lookup participant = some a ∧ planned = some {
      participant, endpoint
      peer := { participant, pubkeyB64 := a.publicKey, endpoint := addr
                allowedIps := ((assignments.lookup participant).getD []).foldl pushUnique
                  [stripCidr a.tunnelIp ++ "/32"] } } := by
  unfold planParticipant at h
  cases found : ctx.announcements.lookup participant with
  | none =>
    rw [found] at h
    exact .inl ⟨rfl, (Except.ok.inj h).symm⟩
  | some a =>
    rw [found] at h
    dsimp only at h
    split at h
    · cases h
    · exact .inr ⟨a, _, _, rfl, (Except.ok.inj h).symm⟩

theorem map_participant_planParticipants {retryAfterSecs : Nat} {assignments : HashMap String (List String)}
    {participants : List String} {peers : List PlannedTunnelPeer}
    (h : (planParticipants retryAfterSecs ctx assignments book participants).1 = .ok peers) :
    peers.map PlannedTunnelPeer.participant =
      participants.filter fun participant => (ctx.announcements.lookup participant).isSome := by
  induction participants generalizing book peers with
  | nil =>
    obtain rfl := Except.ok.inj h
    rfl
  | cons participant rest ih =>
    rw [planParticipants] at h
    have one := @planned_of_planParticipant ctx book retryAfterSecs assignments participant
    cases round : planParticipant retryAfterSecs ctx assignments book participant with
    | mk result book₁ =>
      rw [round] at h one
      cases result with
      | error e => simp at h
      | ok first =>
        dsimp only at h
        cases tail : (planParticipants retryAfterSecs ctx assignments book₁ rest).1 with
        | error e => rw [tail] at h; cases h
        | ok tailPeers =>
          rw [tail] at h
          obtain rfl := Except.ok.inj h
          rcases one rfl with ⟨none', rfl⟩ | ⟨a, endpoint, addr, found, rfl⟩
          · simp [none', ih tail]
          · simp [found, ih tail]

theorem plan_of_androidPlannedTunnelPeers (h : (androidPlannedTunnelPeers ctx book).1 = .ok plan) :
    (∀ planned ∈ plan, ∃ a, AnnouncedAs ctx planned a) ∧
    (plan.map PlannedTunnelPeer.participant).Perm ((otherParticipants ctx.app ctx.ownPubkey).filter
      fun participant => (ctx.announcements.lookup participant).isSome) := by
  unfold androidPlannedTunnelPeers plannedTunnelPeers at h
  dsimp only at h
  generalize loop : planParticipants _ _ _ _ _ = result at h
  obtain ⟨_ | peers, book'⟩ := result
  · cases h
  · obtain rfl := Except.ok.inj h
    refine ⟨fun planned mem => ?_, ?_⟩
    · obtain ⟨participant, other, book', -, round⟩ := mem_planParticipants
        (ctx.app.nodup_participantPubkeysHex.filter _) (congrArg Prod.fst loop) (mem_sortByKey.mp mem)
      rcases planned_of_planParticipant round with ⟨-, none'⟩ | ⟨a, endpoint, addr, found, eq⟩
      · cases none'
      · obtain rfl := Option.some.inj eq
        obtain ⟨added, inside, eq⟩ := foldl_pushUnique_eq_append
          (((Cli.advertisedRouteAssignments ctx.app ctx.ownPubkey ctx.announcements).lookup participant).getD [])
          [stripCidr a.tunnelIp ++ "/32"]
        refine ⟨a, other, found, rfl, rfl, added, fun route mem => ?_, eq⟩
        cases routes : (Cli.advertisedRouteAssignments ctx.app ctx.ownPubkey ctx.announcements).lookup
            participant with
        | none => simp [routes] at inside; exact absurd mem (inside route)
        | some routes' => exact separable_of_assigned routes (by simpa [routes] using inside route mem)
    · rw [← map_participant_planParticipants (congrArg Prod.fst loop)]
      exact (perm_sortByKey _ _).map _

end Plan

/-! ## Entries -/

/-- No text of the peer has a separator. -/
structure TunnelPeer.Separable (peer : TunnelPeer) : Prop where
  participant : Gui.Separable peer.participant
  pubkeyB64 : Gui.Separable peer.pubkeyB64
  allowedIps : ∀ ip ∈ peer.allowedIps, Gui.Separable ip

/-- The allowed addresses are a host address, which may hold separators, and routes, which do not. -/
def TunnelPeer.Routed (peer : TunnelPeer) : Prop :=
  ∃ host routes, '/' ∉ host.toList ∧ (∀ route ∈ routes, Gui.Separable route) ∧
    peer.allowedIps = (host ++ "/32") :: routes

theorem slash_notMem_stripCidr (value : String) : '/' ∉ (stripCidr value).toList := by
  intro mem
  rw [stripCidr, splitFirst, String.toList_ofList] at mem
  simpa using List.mem_takeWhile_imp mem

theorem AnnouncedAs.routed {ctx : PlanContext} {planned : PlannedTunnelPeer} {a : PeerAnnouncement}
    (planned' : AnnouncedAs ctx planned a) : planned.peer.Routed := by
  obtain ⟨routes, clean, eq⟩ := planned'.allowedIps
  exact ⟨_, routes, slash_notMem_stripCidr _, clean, eq⟩

theorem separable_fmt (addr : SocketAddr) : Separable addr.fmt := by
  intro c mem inside
  have address := isAddressChar_of_socketAddr addr.parse_fmt c inside
  have outside : ∀ c ∈ ['|', ';', ','], isAddressChar c = false := by decide
  simp [outside c mem] at address

theorem peerEntry_eq_join (peer : TunnelPeer) : peerEntry peer =
    join "|" [peer.participant, peer.pubkeyB64, peer.endpoint.fmt, join "," peer.allowedIps] := by
  simp [peerEntry, join, String.append_assoc, toString]

/-- How often the separator stands in the texts of the peer. -/
def spare (c : Char) (peer : TunnelPeer) : Nat :=
  peer.participant.toList.count c + peer.pubkeyB64.toList.count c + (join "," peer.allowedIps).toList.count c

theorem count_peerEntry (peer : TunnelPeer) :
    (peerEntry peer).toList.count '|' = spare '|' peer + 3 ∧ (peerEntry peer).toList.count ';' = spare ';' peer := by
  have free {c : Char} (mem : c ∈ ['|', ';', ',']) : peer.endpoint.fmt.toList.count c = 0 :=
    List.count_eq_zero_of_not_mem (separable_fmt _ c mem)
  have bar := @free '|' (by simp)
  have semicolon := @free ';' (by simp)
  have text : "|".toList = ['|'] := rfl
  rw [peerEntry_eq_join]
  simp only [join, String.toList_append, List.count_append, text, bar, semicolon, spare]
  simp
  omega

theorem spare_of_separable {peer : TunnelPeer} (clean : peer.Separable) {c : Char} (mem : c ∈ ['|', ';']) :
    spare c peer = 0 := by
  have sep : c ∈ ['|', ';', ','] := by simp at mem ⊢; tauto
  have joined : c ∉ (join "," peer.allowedIps).toList := by
    refine notMem_join (fun comma => ?_) fun ip here => clean.allowedIps ip here c sep
    revert mem
    rw [List.mem_singleton.mp comma]
    decide
  simp [spare, List.count_eq_zero_of_not_mem (clean.participant c sep),
    List.count_eq_zero_of_not_mem (clean.pubkeyB64 c sep), List.count_eq_zero_of_not_mem joined]

/-- What is read of the host address ends at a slash, so no comma of its own comes before. -/
theorem allowedIps_eq_of_join {peer peer' : TunnelPeer} (clean : ∀ ip ∈ peer.allowedIps, Separable ip)
    (routed : peer.Routed) (routed' : peer'.Routed)
    (eq : join "," peer.allowedIps = join "," peer'.allowedIps) : peer.allowedIps = peer'.allowedIps := by
  obtain ⟨host, routes, -, -, ips⟩ := routed
  obtain ⟨host', routes', slash, whole, ips'⟩ := routed'
  have commas : ∀ ip ∈ peer.allowedIps, ',' ∉ ip.toList := fun ip mem => clean ip mem ',' (by simp)
  have free : ',' ∉ host'.toList := by
    intro mem
    obtain ⟨before, after, cut, first⟩ := List.eq_append_cons_of_mem mem
    obtain ⟨rest, text⟩ : ∃ rest, join "," peer'.allowedIps = .ofList before ++ String.singleton ',' ++ rest := by
      have start : ∃ tail, (join "," peer'.allowedIps).toList = host'.toList ++ tail := by
        rw [ips']
        cases routes' with
        | nil => exact ⟨_, String.toList_append⟩
        | cons route more =>
          refine ⟨"/32".toList ++ (",".toList ++ (join "," (route :: more)).toList), ?_⟩
          simp [join]
      obtain ⟨tail, start⟩ := start
      refine ⟨.ofList (after ++ tail), String.toList_inj.mp ?_⟩
      simp [start, cut]
    have pieces := @split_join ',' _ (by simp [ips]) commas
    rw [show String.singleton ',' = "," from rfl, eq, text, split_append _ (by simpa using first), ips] at pieces
    have head := congrArg String.toList (List.cons.inj pieces).1
    rw [String.toList_ofList, String.toList_append] at head
    exact slash (by rw [cut, head]; simp)
  refine @join_injective ',' _ _ (by simp [ips]) (by simp [ips']) commas (fun ip mem inside => ?_) eq
  rw [ips', List.mem_cons] at mem
  rcases mem with rfl | mem
  · simp [free] at inside
  · exact whole ip mem ',' (by simp) inside

/-- An entry tells the peer, if it has no bars to spare. -/
theorem peer_eq_of_peerEntry {peer peer' : TunnelPeer} (clean : peer.Separable) (routed : peer.Routed)
    (routed' : peer'.Routed) (none' : spare '|' peer' = 0) (eq : peerEntry peer = peerEntry peer') :
    peer = peer' := by
  have bars {peer : TunnelPeer} (none' : spare '|' peer = 0) : ∀ s ∈ [peer.participant, peer.pubkeyB64,
      peer.endpoint.fmt, join "," peer.allowedIps], '|' ∉ s.toList := by
    intro s mem
    simp only [spare, Nat.add_eq_zero_iff, List.count_eq_zero] at none'
    simp only [List.mem_cons, List.not_mem_nil, or_false] at mem
    rcases mem with rfl | rfl | rfl | rfl
    · exact none'.1.1
    · exact none'.1.2
    · exact separable_fmt _ '|' (by simp)
    · exact none'.2
  rw [peerEntry_eq_join, peerEntry_eq_join] at eq
  have parts := @join_injective '|' _ _ (by simp) (by simp) (bars (spare_of_separable clean (by simp))) (bars none') eq
  simp only [List.cons.injEq, and_true] at parts
  obtain ⟨participant, pubkey, endpoint, ips⟩ := parts
  have endpoint := congrArg SocketAddr.parse endpoint
  rw [SocketAddr.parse_fmt, SocketAddr.parse_fmt] at endpoint
  have ips := allowedIps_eq_of_join clean.allowedIps routed routed' ips
  cases peer
  cases peer'
  simp_all

/-! ## Fingerprints -/

theorem count_join (c : Char) (sep : String) {l : List String} (ne : l ≠ []) :
    (join sep l).toList.count c + sep.toList.count c =
      (l.map fun s => s.toList.count c).sum + l.length * sep.toList.count c := by
  induction l with
  | nil => exact absurd rfl ne
  | cons s l ih =>
    cases l with
    | nil => simp [join]
    | cons t l =>
      have rest := ih (by simp)
      rw [join_cons _ (by simp), String.toList_append, String.toList_append, List.count_append,
        List.count_append, List.map_cons, List.sum_cons, List.length_cons, Nat.succ_mul]
      omega

theorem eq_of_sum_le {α : Type} {f : α → Nat} {k : Nat} {l : List α} (least : ∀ x ∈ l, k ≤ f x)
    (sum : (l.map f).sum ≤ l.length * k) : ∀ x ∈ l, f x = k := by
  have bound (l : List α) (least : ∀ x ∈ l, k ≤ f x) : l.length * k ≤ (l.map f).sum := by
    induction l with
    | nil => simp
    | cons x l ih =>
      have rest := ih fun y mem => least y (List.mem_cons_of_mem _ mem)
      have here := least x List.mem_cons_self
      rw [List.map_cons, List.sum_cons, List.length_cons, Nat.succ_mul]
      omega
  induction l with
  | nil => simp
  | cons x l ih =>
    have rest := bound l fun y mem => least y (List.mem_cons_of_mem _ mem)
    have here := least x List.mem_cons_self
    rw [List.map_cons, List.sum_cons, List.length_cons, Nat.succ_mul] at sum
    intro y mem
    rcases List.mem_cons.mp mem with rfl | mem
    · omega
    · exact ih (fun y mem => least y (List.mem_cons_of_mem _ mem)) (by omega) y mem

def entries (plan : List PlannedTunnelPeer) : List String := plan.map fun planned => peerEntry planned.peer

theorem perm_sort (l : List String) : (sort l).Perm l := List.perm_insertionSort _ l

theorem sum_count_entries (c : Char) (plan : List PlannedTunnelPeer) :
    ((sort (entries plan)).map fun s => s.toList.count c).sum =
      (plan.map fun planned => (peerEntry planned.peer).toList.count c).sum := by
  rw [((perm_sort _).map _).sum_eq, entries, List.map_map]
  rfl

section Fingerprints
variable {config : AppConfig} {port : UInt16} {plan plan' : List PlannedTunnelPeer}

theorem join_entries_of_tunnelFingerprint
    (eq : tunnelFingerprint config port plan = tunnelFingerprint config port plan') :
    join ";" (sort (entries plan)) = join ";" (sort (entries plan')) := by
  have text := congrArg String.toList eq
  simp only [tunnelFingerprint, String.toList_append, List.append_cancel_left_eq] at text
  exact String.toList_inj.mp text

theorem entries_ne_nil (ne : plan ≠ []) : sort (entries plan) ≠ [] := by
  have length := (perm_sort (entries plan)).length_eq
  rw [entries, List.length_map] at length
  intro nil
  rw [entries] at nil
  rw [nil] at length
  exact ne (List.length_eq_zero_iff.mp length.symm)

/-- Peers without bars and semicolons to spare: their entries are the same. -/
theorem perm_entries_of_tunnelFingerprint (ne : plan ≠ []) (ne' : plan' ≠ [])
    (none' : ∀ p ∈ plan, spare ';' p.peer = 0) (none'' : ∀ p ∈ plan', spare ';' p.peer = 0)
    (eq : tunnelFingerprint config port plan = tunnelFingerprint config port plan') :
    (entries plan).Perm (entries plan') := by
  have whole {plan : List PlannedTunnelPeer} (none' : ∀ p ∈ plan, spare ';' p.peer = 0) :
      ∀ s ∈ sort (entries plan), ';' ∉ s.toList := by
    intro s mem
    obtain ⟨planned, here, rfl⟩ := List.mem_map.mp (mem_sort.mp mem)
    exact List.count_eq_zero.mp ((count_peerEntry _).2.trans (none' planned here))
  have sorted := @join_injective ';' _ _ (entries_ne_nil ne) (entries_ne_nil ne') (whole none') (whole none'')
    (join_entries_of_tunnelFingerprint eq)
  exact (perm_sort _).symm.trans ((List.Perm.of_eq sorted).trans (perm_sort _))

/-- A plan with as many peers and the same fingerprint has no separators to spare. -/
theorem separable_of_tunnelFingerprint (ne : plan ≠ []) (clean : ∀ p ∈ plan, p.peer.Separable)
    (routed : ∀ p ∈ plan, p.peer.Routed) (routed' : ∀ p ∈ plan', p.peer.Routed)
    (length : plan.length ≤ plan'.length)
    (eq : tunnelFingerprint config port plan = tunnelFingerprint config port plan') :
    ∀ p ∈ plan', p.peer.Separable := by
  have ne' : plan' ≠ [] := by
    rintro rfl
    exact ne (List.length_eq_zero_iff.mp (Nat.le_zero.mp length))
  have joined := join_entries_of_tunnelFingerprint eq
  have size (plan : List PlannedTunnelPeer) : (sort (entries plan)).length = plan.length := by
    rw [(perm_sort _).length_eq, entries, List.length_map]
  have total {plan : List PlannedTunnelPeer} (ne : plan ≠ []) (c : Char) := count_join c ";" (entries_ne_nil ne)
  simp only [size, sum_count_entries] at total
  have all {plan : List PlannedTunnelPeer} {f : PlannedTunnelPeer → Nat} {k : Nat} (h : ∀ p ∈ plan, f p = k) :
      (plan.map f).sum = plan.length * k := by
    rw [List.map_congr_left h, List.map_const']
    simp
  have bar : ";".toList.count '|' = 0 := rfl
  have semicolon : ";".toList.count ';' = 1 := rfl
  -- the bars: three for each peer, so that there are none to spare
  have bars := total ne '|'
  have bars' := total ne' '|'
  rw [all fun p mem => (count_peerEntry p.peer).1.trans (by rw [spare_of_separable (clean p mem) (by simp)])] at bars
  rw [← joined] at bars'
  simp only [bar, Nat.mul_zero, Nat.add_zero] at bars bars'
  have three := @eq_of_sum_le _ _ 3 plan' (fun p _ => by rw [(count_peerEntry p.peer).1]; omega)
    (bars'.symm.trans bars |>.trans_le (Nat.mul_le_mul_right 3 length))
  have noBars : ∀ p ∈ plan', spare '|' p.peer = 0 := by
    intro p mem
    have here := three p mem
    rw [(count_peerEntry p.peer).1] at here
    omega
  rw [all three] at bars'
  have same : plan'.length = plan.length := by omega
  -- the semicolons: one between two peers
  have semicolons := total ne ';'
  have semicolons' := total ne' ';'
  rw [all fun p mem => (count_peerEntry p.peer).2.trans (spare_of_separable (clean p mem) (by simp))] at semicolons
  rw [← joined] at semicolons'
  rw [semicolon] at semicolons semicolons'
  have noSemicolons : ∀ p ∈ plan', spare ';' p.peer = 0 := by
    intro p mem
    rw [← (count_peerEntry p.peer).2]
    exact @eq_of_sum_le _ (fun p : PlannedTunnelPeer => (peerEntry p.peer).toList.count ';') 0 plan'
      (fun _ _ => Nat.zero_le _) (by omega) p mem
  have perm := perm_entries_of_tunnelFingerprint ne ne'
    (fun p mem => spare_of_separable (clean p mem) (by simp)) noSemicolons eq
  intro p' mem'
  obtain ⟨p, mem, entry⟩ := List.mem_map.mp (perm.mem_iff.mpr (List.mem_map.mpr ⟨p', mem', rfl⟩))
  exact peer_eq_of_peerEntry (clean p mem) (routed p mem) (routed' p' mem') (noBars p' mem') entry ▸ clean p mem

/-- Two plans without separators in their texts and with one fingerprint have the same peers. -/
theorem perm_peers_of_tunnelFingerprint (ne : plan ≠ []) (ne' : plan' ≠ [])
    (clean : ∀ p ∈ plan, p.peer.Separable) (clean' : ∀ p ∈ plan', p.peer.Separable)
    (routed : ∀ p ∈ plan, p.peer.Routed) (routed' : ∀ p ∈ plan', p.peer.Routed)
    (eq : tunnelFingerprint config port plan = tunnelFingerprint config port plan') :
    (plan.map PlannedTunnelPeer.peer).Perm (plan'.map PlannedTunnelPeer.peer) := by
  have perm := perm_entries_of_tunnelFingerprint ne ne' (fun p mem => spare_of_separable (clean p mem) (by simp))
    (fun p mem => spare_of_separable (clean' p mem) (by simp)) eq
  -- entries tell their peers, among those that the plans can hold
  let S := {peer : TunnelPeer | peer.Separable ∧ peer.Routed}
  have inj : Set.InjOn peerEntry S := fun peer h peer' h' eq =>
    peer_eq_of_peerEntry h.1 h.2 h'.2 (spare_of_separable h'.1 (by simp)) eq
  have nonempty : Nonempty TunnelPeer := ⟨(plan.head ne).peer⟩
  have back {plan : List PlannedTunnelPeer} (clean : ∀ p ∈ plan, p.peer.Separable)
      (routed : ∀ p ∈ plan, p.peer.Routed) :
      (entries plan).map (Function.invFunOn peerEntry S) = plan.map PlannedTunnelPeer.peer := by
    rw [entries, List.map_map]
    exact List.map_congr_left fun p mem => inj.leftInvOn_invFunOn ⟨clean p mem, routed p mem⟩
  rw [← back clean routed, ← back clean' routed']
  exact perm.map _

end Fingerprints

end NostrVpn.Gui
