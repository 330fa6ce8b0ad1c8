import NostrVpn.Cli.AppliedPeers
import NostrVpn.Cli.DaemonSession

/-!
# The pace of the hole punches

A hole punch stops the tunnel. It is remembered, with its time, when it succeeds, so a failed one is tried
again at the next call.
-/
namespace NostrVpn.Cli

open Rust Rust.Net NostrVpn.Core Linux

/-! ## A tunnel that is applied runs -/

section Running
variable {env : ApplyEnv} {call : ApplyCall} {sys : TunnelSystem}

theorem isRunning_of_configure {peers : List TunnelPeer} {specs : List (String × Route)}
    {session : UapiSession} (ok : (call.configure env peers specs session sys).1.result.isOk) :
    (call.configure env peers specs session sys).2.runtime.isRunning := by
  rcases configure_cases env call peers specs session sys with
    ⟨error, next, -, eq⟩ | ⟨next, -, mid, rfl, ⟨error, kernel, -, eq⟩ | ⟨kernel, -, eq⟩⟩
  · rw [eq] at ok
    cases ok
  · rw [eq] at ok
    cases ok
  · rw [eq]
    rfl

theorem isRunning_of_reconfigure (peers : List TunnelPeer) (specs : List (String × Route)) :
    (call.reconfigure env peers specs sys).1.result.isOk →
      (call.reconfigure env peers specs sys).2.runtime.isRunning := by
  unfold ApplyCall.reconfigure
  rcases sys.ensureStarted env with ⟨error | device, started⟩
  · exact fun ok => (by cases ok)
  dsimp only
  cases keyB64ToHex env.codec call.app.node.privateKey with
  | error error => exact fun ok => (by cases ok)
  | ok hex =>
    dsimp only
    rcases started.runtime.selectListenPort env hex call.app.node.listenPort ⟨device, 0⟩ with
      ⟨error | port, session⟩
    · exact fun ok => (by cases ok)
    · exact isRunning_of_configure

/-- After an apply that succeeds the tunnel runs, unless nothing was planned. -/
theorem isRunning_apply (ok : (call.apply env sys).returned.result.isOk) :
    (call.apply env sys).system.runtime.isRunning ↔ (call.plan env sys.runtime).1 ≠ .ok [] := by
  cases planned : (call.plan env sys.runtime).1 with
  | error error =>
    rw [(apply_of_error planned).1] at ok
    cases ok
  | ok plan =>
    by_cases empty : plan = []
    · obtain rfl := empty
      rw [(apply_of_nil planned).2]
      simp [TunnelSystem.stop, CliTunnelRuntime.isRunning]
    · obtain ⟨returned, system⟩ := apply_of_plan planned empty
      rw [returned] at ok
      refine iff_of_true ?_ (by simpa using empty)
      rw [system]
      obtain ⟨route, kept⟩ := runtime_keepDefaultRoute env (plan.map PlannedTunnelPeer.peer) sys
      rcases update_cases env call plan sys with
        ⟨error, eq⟩ | ⟨eq, -, -, running, -⟩ | ⟨specs, -, -, eq⟩
      · rw [eq] at ok
        cases ok
      · rw [eq, kept]
        exact running
      · rw [eq] at ok ⊢
        exact isRunning_of_reconfigure _ _ ok

end Running

/-! ## Calls with their times -/

/-- The session whose tunnel is stopped for the punches, on the same port. -/
def Session.stoppedForPunch (m m' : Moment) (session : Session) : Session :=
  let port := session.listenPort
  let stopped := session.tunnel.stop m.tunnel
  { session with
    tunnel := stopped.setRuntime fun runtime => { runtime with activeListenPort := some port }
    publicSignalEndpoint :=
      refreshPublicSignalEndpoint m'.discovered session.app port session.publicSignalEndpoint }

/-- The tunnel is applied again: whether that succeeds, and the session. -/
def Session.reapply (m m' : Moment) (announcements : Announcements) (session : Session) :
    Bool × Session :=
  (session.stoppedForPunch m m').applyTunnel m' announcements m'.now

/-- A call of `maybe_run_nat_punch`: the session it is made in, what the machine answers before and after
the tunnel is stopped, and the instants, in nanoseconds, at which it starts and ends. -/
structure NatPunchCall where
  session : Session
  announcements : Announcements
  before : Moment
  after : Moment
  startedAt : Nat
  finishedAt : Nat

/-- The fingerprint of the last punch that succeeded, and when it ended. -/
abbrev PunchMemory := Option (String × Nat)

def natPunchRetryAfter : Nat := 10 * 1000000000

namespace NatPunchCall

variable (memory : PunchMemory) (call : NatPunchCall)

/-- The session with the fingerprint of the memory. -/
def entry : Session := { call.session with lastNatPunchAttempt := memory.map Prod.fst }

def targets : List SocketAddr :=
  (call.session.refreshForPunch call.before).natPunchTargets call.before call.announcements

/-- The pending targets and the listen port; none while hole punching is switched off. -/
def fingerprint : Option String :=
  if call.session.app.nat.enabled then
    natPunchFingerprint call.targets (call.session.refreshForPunch call.before).listenPort
  else none

/-- `should_retry`. -/
def retries (fingerprint : String) : Bool :=
  match memory with
  | some (last, lastAt) => last != fingerprint || natPunchRetryAfter ≤ call.startedAt - lastAt
  | none => true

/-- The call stops the tunnel. -/
def stops : Bool := call.fingerprint.any (call.retries memory)

/-- The tunnel is applied again without an error. -/
def reapplied : Bool :=
  ((call.session.refreshForPunch call.before).reapply call.before call.after call.announcements).1

/-- What is planned then. -/
def replan : Except String (List PlannedTunnelPeer) :=
  let stopped := (call.session.refreshForPunch call.before).stoppedForPunch call.before call.after
  ((stopped.applyCall call.announcements call.after.now).plan call.after.tunnel
    stopped.tunnel.runtime).1

/-- Nothing goes wrong while the tunnel is stopped. -/
def succeeds : Bool := call.reapplied && call.targets.all call.after.punched

/-- `last_attempt` after the call. -/
def remembered : PunchMemory :=
  if !call.session.app.nat.enabled then memory
  else call.fingerprint.bind fun fingerprint =>
    if call.retries memory fingerprint && call.succeeds then some (fingerprint, call.finishedAt)
    else memory

/-- The session after the call. -/
def exit : Session :=
  (call.entry memory).maybeRunNatPunch { call.before with
    punchElapsed := memory.any fun last => natPunchRetryAfter ≤ call.startedAt - last.2 }
    call.after call.announcements

/-! ## The faithful call -/

theorem reapply_with (m m' : Moment) (announcements : Announcements) (session : Session)
    (last : Option String) :
    ({ session with lastNatPunchAttempt := last } : Session).reapply m m' announcements =
      ((session.reapply m m' announcements).1,
        { (session.reapply m m' announcements).2 with lastNatPunchAttempt := last }) := rfl

theorem punch_eq (m m' : Moment) (announcements : Announcements) (targets : List SocketAddr)
    (fingerprint : String) (session : Session) :
    session.punch m m' announcements targets fingerprint =
      if (session.reapply m m' announcements).1 && targets.all m'.punched then
        { (session.reapply m m' announcements).2 with lastNatPunchAttempt := some fingerprint }
      else (session.reapply m m' announcements).2 := rfl

theorem refresh_entry (m : Moment) (same : m.discovered = call.before.discovered) :
    (call.entry memory).refreshForPunch m =
      { call.session.refreshForPunch call.before with
        lastNatPunchAttempt := memory.map Prod.fst } := by
  have known : publicEndpointForListenPort (call.entry memory).publicSignalEndpoint
      (call.entry memory).listenPort =
    publicEndpointForListenPort call.session.publicSignalEndpoint call.session.listenPort := rfl
  unfold Session.refreshForPunch
  rw [same, known]
  cases publicEndpointForListenPort call.session.publicSignalEndpoint call.session.listenPort <;> rfl

theorem tunnel_refresh (m : Moment) (session : Session) :
    (session.refreshForPunch m).tunnel = session.tunnel := by
  unfold Session.refreshForPunch
  cases publicEndpointForListenPort session.publicSignalEndpoint session.listenPort <;> rfl

theorem exit_eq : call.exit memory =
    if !call.session.app.nat.enabled then { call.entry memory with publicSignalEndpoint := none }
    else match natPunchFingerprint call.targets (call.session.refreshForPunch call.before).listenPort with
      | none => { call.session.refreshForPunch call.before with lastNatPunchAttempt := none }
      | some fingerprint =>
        if memory.map Prod.fst = some fingerprint ∧
            !memory.any fun last => natPunchRetryAfter ≤ call.startedAt - last.2 then
          { call.session.refreshForPunch call.before with
            lastNatPunchAttempt := memory.map Prod.fst }
        else { call.session.refreshForPunch call.before with
          lastNatPunchAttempt := memory.map Prod.fst }.punch call.before call.after
            call.announcements call.targets fingerprint := by
  have refreshed := call.refresh_entry memory { call.before with
    punchElapsed := memory.any fun last => natPunchRetryAfter ≤ call.startedAt - last.2 } rfl
  unfold exit Session.maybeRunNatPunch
  rw [refreshed]
  rfl

theorem retries_iff (fingerprint : String) : call.retries memory fingerprint ↔
    ¬ (memory.map Prod.fst = some fingerprint ∧
      !memory.any fun last => natPunchRetryAfter ≤ call.startedAt - last.2) := by
  cases memory with
  | none => simp [retries]
  | some last => simp [retries, imp_iff_not_or]

/-- What a call does: the session is the one that `maybe_run_nat_punch` leaves. -/
theorem exit_cases :
    (call.exit memory).lastNatPunchAttempt = (call.remembered memory).map Prod.fst ∧
    (call.exit memory).tunnel =
      if call.stops memory then ((call.session.refreshForPunch call.before).reapply call.before
        call.after call.announcements).2.tunnel
      else call.session.tunnel := by
  rw [exit_eq]
  cases enabled : call.session.app.nat.enabled with
  | false => simp [remembered, stops, fingerprint, enabled, entry]
  | true =>
    cases found : natPunchFingerprint call.targets
        (call.session.refreshForPunch call.before).listenPort with
    | none => simp [remembered, stops, fingerprint, enabled, found, tunnel_refresh]
    | some text =>
      have known : call.fingerprint = some text := by simp [fingerprint, enabled, found]
      have decides := call.retries_iff memory text
      by_cases retry : call.retries memory text
      · simp only [Bool.not_true, Bool.false_eq_true, if_false, if_neg (decides.mp retry), stops, known,
          Option.any_some, retry, if_true, remembered, Option.bind_some, Bool.true_and]
        rw [punch_eq, reapply_with]
        cases done : call.succeeds with
        | true =>
          rw [if_pos (by simpa [succeeds, reapplied] using done)]
          exact ⟨by simp [enabled], rfl⟩
        | false =>
          rw [if_neg (by simpa [succeeds, reapplied] using done)]
          exact ⟨by simp [enabled], rfl⟩
      · have holds := not_not.mp (mt decides.mpr retry)
        simp [if_pos holds, stops, known, retry, remembered, enabled, tunnel_refresh]

end NatPunchCall

/-! ## Runs of calls -/

/-- The instants at which the calls of a run stop the tunnel. -/
def stopTimes : PunchMemory → List NatPunchCall → List Nat
  | _, [] => []
  | memory, call :: calls =>
    (if call.stops memory then [call.startedAt] else []) ++ stopTimes (call.remembered memory) calls

/-- Calls one after the other, with the same pending targets and listen port. -/
def OneAfterTheOther (fingerprint : Option String) (calls : List NatPunchCall) : Prop :=
  (∀ call ∈ calls, call.fingerprint = fingerprint ∧ call.startedAt ≤ call.finishedAt) ∧
    calls.Pairwise fun call next => call.finishedAt ≤ next.startedAt

/-- A call that stops the tunnel and fails is followed by none for ten seconds. -/
def WaitsAfterFailure : PunchMemory → List NatPunchCall → Prop
  | _, [] => True
  | memory, call :: calls =>
    (call.stops memory → call.succeeds = false →
      ∀ next ∈ calls.head?, call.startedAt + natPunchRetryAfter ≤ next.startedAt) ∧
    WaitsAfterFailure (call.remembered memory) calls

/-- After each call that stops the tunnel and applies it again without an error it runs. -/
def RunsAgain : PunchMemory → List NatPunchCall → Prop
  | _, [] => True
  | memory, call :: calls =>
    (call.stops memory → call.reapplied → (call.exit memory).tunnel.runtime.isRunning) ∧
      RunsAgain (call.remembered memory) calls

/-- Whenever the tunnel is applied again, a peer is planned for it. -/
def PlansPeers : PunchMemory → List NatPunchCall → Prop
  | _, [] => True
  | memory, call :: calls =>
    (call.stops memory → call.reapplied → call.replan ≠ .ok []) ∧
      PlansPeers (call.remembered memory) calls

section Runs
variable {memory : PunchMemory} {call next : NatPunchCall} {calls : List NatPunchCall}
  {fingerprint : Option String} {text : String}

theorem remembered_of_fingerprint (known : call.fingerprint = some text) :
    call.remembered memory =
      if call.retries memory text && call.succeeds then some (text, call.finishedAt) else memory := by
  have enabled : call.session.app.nat.enabled = true := by
    by_contra off
    simp [NatPunchCall.fingerprint, off] at known
  simp [NatPunchCall.remembered, enabled, known]

theorem exists_of_mem_stopTimes {t : Nat} (mem : t ∈ stopTimes memory calls) :
    ∃ call ∈ calls, call.startedAt = t := by
  induction calls generalizing memory with
  | nil => cases mem
  | cons call calls ih =>
    rcases List.mem_append.mp mem with first | later
    · split_ifs at first
      · exact ⟨call, by simp, (List.mem_singleton.mp first).symm⟩
      · cases first
    · obtain ⟨c, listed, at'⟩ := ih later
      exact ⟨c, by simp [listed], at'⟩

theorem OneAfterTheOther.tail (run : OneAfterTheOther fingerprint (call :: calls)) :
    OneAfterTheOther fingerprint calls :=
  ⟨fun c mem => run.1 c (by simp [mem]), (List.pairwise_cons.mp run.2).2⟩

/-- Ten seconds pass after a punch that is remembered. -/
theorem stopTimes_of_remembered {lastAt : Nat} (run : OneAfterTheOther (some text) calls) :
    ∀ t ∈ stopTimes (some (text, lastAt)) calls, lastAt + natPunchRetryAfter ≤ t := by
  induction calls generalizing lastAt with
  | nil => simp [stopTimes]
  | cons call calls ih =>
    obtain ⟨known, lasts⟩ := run.1 call (by simp)
    intro t mem
    rw [stopTimes, remembered_of_fingerprint known] at mem
    have due : call.stops (some (text, lastAt)) → lastAt + natPunchRetryAfter ≤ call.startedAt := by
      intro stops
      have waited : natPunchRetryAfter ≤ call.startedAt - lastAt := by
        simpa [NatPunchCall.stops, known, NatPunchCall.retries] using stops
      unfold natPunchRetryAfter at *
      omega
    rcases List.mem_append.mp mem with first | later
    · split_ifs at first with stops
      · obtain rfl := List.mem_singleton.mp first
        exact due stops
      · cases first
    · split_ifs at later with moved
      · have stops : call.stops (some (text, lastAt)) := by
          simp [NatPunchCall.stops, known, (Bool.and_eq_true _ _ ▸ moved).1]
        have after := ih run.tail t later
        have before := due stops
        omega
      · exact ih run.tail t later

/-- A punch that failed is due again at once. -/
theorem stops_of_failed (stops : call.stops memory) (failed : call.succeeds = false)
    (known : call.fingerprint = some text) (same : next.fingerprint = some text)
    (later : call.startedAt ≤ next.startedAt) : next.stops (call.remembered memory) := by
  rw [remembered_of_fingerprint known, failed, Bool.and_false, if_neg Bool.false_ne_true]
  simp only [NatPunchCall.stops, known, same, Option.any_some] at stops ⊢
  cases memory with
  | none => rfl
  | some last =>
    simp only [NatPunchCall.retries, Bool.or_eq_true, decide_eq_true_eq] at stops ⊢
    exact stops.imp_right fun waited => waited.trans (Nat.sub_le_sub_right later _)

/-- The stops are ten seconds apart exactly when every failure is waited out. -/
theorem spaced_iff (run : OneAfterTheOther fingerprint calls) (memory : PunchMemory) :
    (stopTimes memory calls).Pairwise (fun s t => s + natPunchRetryAfter ≤ t) ↔
      WaitsAfterFailure memory calls := by
  induction calls generalizing memory with
  | nil => simp [stopTimes, WaitsAfterFailure]
  | cons call calls ih =>
    obtain ⟨known, lasts⟩ := run.1 call (by simp)
    rw [stopTimes, WaitsAfterFailure]
    by_cases stops : call.stops memory
    · simp only [stops, if_true, List.singleton_append, List.pairwise_cons, true_imp_iff]
      refine and_congr ?_ (ih run.tail _)
      obtain ⟨text, rfl⟩ : ∃ text, fingerprint = some text := by
        refine Option.ne_none_iff_exists'.mp fun none' => ?_
        simp [NatPunchCall.stops, known, none'] at stops
      cases outcome : call.succeeds with
      | true =>
        refine iff_of_true (fun t mem => ?_) (fun failed => (by cases failed))
        have retry : call.retries memory text := by simpa [NatPunchCall.stops, known] using stops
        rw [remembered_of_fingerprint known, retry, outcome, Bool.and_self, if_pos rfl] at mem
        exact (Nat.add_le_add_right lasts _).trans (stopTimes_of_remembered run.tail t mem)
      | false =>
        simp only [true_imp_iff]
        cases calls with
        | nil => simp [stopTimes]
        | cons next rest =>
          obtain ⟨ordered, later⟩ := List.pairwise_cons.mp run.2
          have after : call.startedAt ≤ next.startedAt := lasts.trans (ordered next (by simp))
          have again := @stops_of_failed memory call next text stops outcome known
            (run.1 next (by simp)).1 after
          constructor
          · intro spaced first eq
            obtain rfl := Option.some.inj eq
            exact spaced _ (by simp [stopTimes, again])
          · intro waits t mem
            obtain ⟨c, listed, rfl⟩ := exists_of_mem_stopTimes mem
            have first := waits next rfl
            rcases List.mem_cons.mp listed with rfl | listed
            · exact first
            · have next' := (List.pairwise_cons.mp later).1 c listed
              have lasts' := (run.1 next (by simp)).2
              omega
    · simp only [stops, Bool.false_eq_true, if_false, List.nil_append, false_imp_iff, true_and]
      exact ih run.tail _

/-- A stopped tunnel that is applied again runs exactly when a peer is planned for it. -/
theorem runsAgain_iff (memory : PunchMemory) (calls : List NatPunchCall) :
    RunsAgain memory calls ↔ PlansPeers memory calls := by
  induction calls generalizing memory with
  | nil => exact Iff.rfl
  | cons call calls ih =>
    refine and_congr (forall₂_congr fun stops ok => ?_) (ih _)
    rw [(call.exit_cases memory).2, if_pos stops]
    exact isRunning_apply ok

end Runs

/-- The stops of the tunnel are ten seconds apart, and it runs after each that is followed by an apply
without an error: exactly when nobody calls for ten seconds after a stop that failed, and a peer is planned
whenever the tunnel is applied again. -/
theorem nat_punch_paced_iff {fingerprint : Option String} {calls : List NatPunchCall}
    (run : OneAfterTheOther fingerprint calls) (memory : PunchMemory) :
    (stopTimes memory calls).Pairwise (fun s t => s + natPunchRetryAfter ≤ t) ∧ RunsAgain memory calls ↔
      WaitsAfterFailure memory calls ∧ PlansPeers memory calls :=
  and_congr (spaced_iff run memory) (runsAgain_iff memory calls)

/-- A call that finds a peer with a public endpoint to punch. -/
def samplePunchCall (punched : Bool) (startedAt : Nat) : NatPunchCall where
  session :=
    { app := { sampleDaemonConfig sampleParticipants with nat := {} }
      ownPubkey := none
      tunnel := ⟨{ iface := "utun100" }, ⟨∅, []⟩⟩ }
  announcements := HashMap.ofList (sampleParticipants.zip [sampleAnnouncement 0 "10.44.0.7/32" []])
  before := sampleMoment 100
  after := { sampleMoment 100 with punched := fun _ => punched }
  startedAt
  finishedAt := startedAt + 1000000000

theorem fingerprint_samplePunchCall (punched : Bool) (startedAt : Nat) :
    (samplePunchCall punched startedAt).fingerprint = some "51820|203.0.113.20:51820" := by
  have first : (samplePunchCall true 0).fingerprint = some "51820|203.0.113.20:51820" := by decide +kernel
  exact first

theorem samplePunchCalls_ordered (punched : Bool) {first second : Nat}
    (later : first + 1000000000 ≤ second) :
    OneAfterTheOther (some "51820|203.0.113.20:51820")
      [samplePunchCall punched first, samplePunchCall punched second] := by
  refine ⟨?_, by simpa [samplePunchCall] using later⟩
  simp only [List.forall_mem_cons, fingerprint_samplePunchCall, true_and]
  exact ⟨Nat.le_add_right .., Nat.le_add_right .., fun _ none' => (by cases none')⟩

theorem nat_punch_paced_of_success :
    (stopTimes none [samplePunchCall true 0, samplePunchCall true 5000000000]).Pairwise
        (fun s t => s + natPunchRetryAfter ≤ t) ∧
      RunsAgain none [samplePunchCall true 0, samplePunchCall true 5000000000] := by
  have facts : (samplePunchCall true 0).succeeds = true ∧
      (samplePunchCall true 0).replan.toOption.any fun plan => plan ≠ [] := by
    decide +kernel
  have succeeds (startedAt : Nat) : (samplePunchCall true startedAt).succeeds = true := facts.1
  have planned (startedAt : Nat) : (samplePunchCall true startedAt).replan ≠ .ok [] := by
    have first := facts.2
    intro none'
    rw [show (samplePunchCall true 0).replan = .ok [] from none'] at first
    cases first
  refine (nat_punch_paced_iff (samplePunchCalls_ordered true (by decide)) none).mpr ⟨?_, ?_⟩
  · exact ⟨fun _ failed => absurd failed (by simp [succeeds]),
      fun _ failed => absurd failed (by simp [succeeds]), trivial⟩
  · exact ⟨fun _ _ => planned _, fun _ _ => planned _, trivial⟩

/-- A punch that fails is tried again two seconds later, and the tunnel is stopped again. -/
theorem failed_punch_stops_again :
    OneAfterTheOther (some "51820|203.0.113.20:51820")
        [samplePunchCall false 0, samplePunchCall false 2000000000] ∧
      stopTimes none [samplePunchCall false 0, samplePunchCall false 2000000000] = [0, 2000000000] := by
  refine ⟨samplePunchCalls_ordered false (by decide), ?_⟩
  -- There is a target, so the punch of every target fails.
  have targeted (startedAt : Nat) : (samplePunchCall false startedAt).targets ≠ [] := by
    intro none'
    have known := fingerprint_samplePunchCall false startedAt
    rw [NatPunchCall.fingerprint, none', natPunchFingerprint, if_pos rfl, ite_self] at known
    cases known
  have fails (startedAt : Nat) : (samplePunchCall false startedAt).succeeds = false := by
    obtain ⟨target, mem⟩ := List.exists_mem_of_ne_nil _ (targeted startedAt)
    have missed : (samplePunchCall false startedAt).targets.all
        (samplePunchCall false startedAt).after.punched = false :=
      List.all_eq_false.mpr ⟨target, mem, Bool.false_ne_true⟩
    rw [NatPunchCall.succeeds, missed, Bool.and_false]
  have stops (startedAt : Nat) : (samplePunchCall false startedAt).stops none = true := by
    rw [NatPunchCall.stops, fingerprint_samplePunchCall]
    rfl
  have forgets (startedAt : Nat) : (samplePunchCall false startedAt).remembered none = none := by
    simp [NatPunchCall.remembered, fingerprint_samplePunchCall, fails]
  simp only [stopTimes, stops, forgets, if_true]
  rfl

end NostrVpn.Cli
