import Mathlib.Logic.Function.Basic
import NostrVpn.Rust.Str
import NostrVpn.Transition

/-!
# The control files of the daemon

One control file, one result file and one staged configuration are shared by every program that asks the daemon
for something. Each file operation is one step; the daemon reads a request and removes it in two.
-/
namespace NostrVpn.Cli

open Rust Transition

/-! ## Requests and results -/

inductive DaemonControlRequest where
  | stop | reload | pause | resume
deriving DecidableEq

def DaemonControlRequest.asStr : DaemonControlRequest → String
  | .stop => "stop"
  | .reload => "reload"
  | .pause => "pause"
  | .resume => "resume"

def DaemonControlRequest.parse (value : String) : Option DaemonControlRequest :=
  let normalized := toAsciiLowercase (trim value)
  if normalized = "stop" then some .stop
  else if normalized = "reload" then some .reload
  else if normalized = "pause" then some .pause
  else if normalized = "resume" then some .resume
  else none

/-- The text that `write_daemon_control_request` writes. -/
def DaemonControlRequest.text (request : DaemonControlRequest) : String := request.asStr ++ "\n"

theorem parse_text (request : DaemonControlRequest) :
    DaemonControlRequest.parse request.text = some request := by
  cases request <;> decide +kernel

theorem asStr_eq_reload {request : DaemonControlRequest} :
    request.asStr = DaemonControlRequest.reload.asStr ↔ request = .reload := by
  cases request <;> decide +kernel

structure DaemonControlResult where
  request : String
  ok : Bool
  error : Option String
deriving DecidableEq

def DaemonControlResult.of (request : DaemonControlRequest) : Except String Unit → DaemonControlResult
  | .ok () => ⟨request.asStr, true, none⟩
  | .error error => ⟨request.asStr, false, some error⟩

/-- What a client wrote. The programs see the content only. -/
structure Written (α : Type) where
  client : ℕ
  content : α
deriving DecidableEq

/-- The text asks for a reload. -/
def Written.Reloads (text : Written String) : Prop := DaemonControlRequest.parse text.content = some .reload

abbrev RawConfig := List UInt8

/-- A result, with the client whose request it answers and the staged configuration that was processed for it. -/
structure Report where
  content : DaemonControlResult
  client : ℕ
  source : Option (Written RawConfig)
deriving DecidableEq

/-! ## The clients -/

inductive ClientOp where
  | clearDaemonControlResult
  | stageDaemonConfigApply (source : RawConfig)
  | writeDaemonControlRequest (request : DaemonControlRequest)
  | waitForDaemonControlAck
  | waitForDaemonControlResult (request : DaemonControlRequest)
  | removeDaemonControlResult
deriving DecidableEq

/-- A client asks for a reload and waits for its result. -/
def requestAndWait : List ClientOp :=
  [.writeDaemonControlRequest .reload, .waitForDaemonControlAck, .waitForDaemonControlResult .reload]

def applyConfigViaRunningDaemon (source : RawConfig) : List ClientOp :=
  .clearDaemonControlResult :: .stageDaemonConfigApply source :: requestAndWait

def maybeReloadRunningDaemon : List ClientOp := .clearDaemonControlResult :: requestAndWait

/-- The programs that return a result. -/
def reloadAndWait : Option RawConfig → List ClientOp
  | some source => applyConfigViaRunningDaemon source
  | none => maybeReloadRunningDaemon

def controlDaemon (request : DaemonControlRequest) : List ClientOp :=
  [.writeDaemonControlRequest request, .waitForDaemonControlAck]

/-- A client: the operations left, whether it has seen its request acknowledged, the result it returns. -/
structure Client where
  todo : List ClientOp
  acked : Bool
  returned : Option Report

/-- The request that the next operation writes. -/
def Client.writes (client : Client) : Option DaemonControlRequest :=
  match client.todo with
  | .writeDaemonControlRequest request :: _ => some request
  | _ => none

/-- The configuration that the next operation stages. -/
def Client.stages (client : Client) : Option RawConfig :=
  match client.todo with
  | .stageDaemonConfigApply source :: _ => some source
  | _ => none

/-! ## The daemon -/

/-- Where the daemon is: it polls the control file, has read a text and not removed it yet, or handles the
request of a client. -/
inductive DaemonPhase where
  | polling
  | removing (text : Written String)
  | checking (client : ℕ)
  | applying (client : ℕ)
  | unstaging (client : ℕ) (source : Option (Written RawConfig)) (applied : Except String Unit)
  | reloading (client : ℕ) (source : Option (Written RawConfig))
  | reporting (client : ℕ) (request : DaemonControlRequest) (source : Option (Written RawConfig))
      (result : Except String Unit)
  | stopped

/-- The client whose text the daemon has read and is about to remove. -/
def DaemonPhase.client? : DaemonPhase → Option ℕ
  | .removing text => some text.client
  | _ => none

/-- The daemon handles a reload. -/
def DaemonPhase.Reloads : DaemonPhase → Prop
  | .checking _ | .applying _ | .unstaging _ _ _ | .reloading _ _ => True
  | .reporting _ request _ _ => request = .reload
  | .polling | .removing _ | .stopped => False

structure ControlFiles where
  stagedPath : String
  control : Option (Written String)
  staged : Option (Written RawConfig)
  result : Option Report
  clients : ℕ → Client
  daemon : DaemonPhase

/-- A step of a client, a client that gives up (a wait timed out, or an operation failed), or a step of the
daemon, with the outcome of what it does to the configuration or to the result file. -/
inductive ControlEvent where
  | client (client : ℕ)
  | giveUp (client : ℕ)
  | daemon (outcome : Except String Unit)

namespace ControlFiles

def setClient (s : ControlFiles) (c : ℕ) (client : Client) : ControlFiles :=
  { s with clients := Function.update s.clients c client }

/-- A wait that is not over looks again. -/
def clientStep (s : ControlFiles) (c : ℕ) : ControlFiles :=
  let client := s.clients c
  match client.todo with
  | [] => s
  | .clearDaemonControlResult :: rest => { s with result := none }.setClient c { client with todo := rest }
  | .stageDaemonConfigApply source :: rest =>
    { s with staged := some ⟨c, source⟩ }.setClient c { client with todo := rest }
  | .writeDaemonControlRequest request :: rest =>
    { s with control := some ⟨c, request.text⟩ }.setClient c { client with todo := rest }
  | .waitForDaemonControlAck :: rest =>
    if s.control.isNone then s.setClient c { client with todo := rest, acked := true } else s
  | .waitForDaemonControlResult request :: rest =>
    match s.result.filter fun report => report.content.request = request.asStr with
    | some report =>
      s.setClient c { client with todo := .removeDaemonControlResult :: rest, returned := some report }
    | none => s
  | .removeDaemonControlResult :: rest => { s with result := none }.setClient c { client with todo := rest }

/-- `take_daemon_control_request` and the branch of the session loop that handles the request. A Stop ends the
loop; a Reload first applies the staged configuration, if one is there. -/
def daemonStep (s : ControlFiles) (outcome : Except String Unit) : ControlFiles :=
  match s.daemon with
  | .polling =>
    match s.control with
    | none => s
    | some text => { s with daemon := .removing text }
  | .removing text =>
    { s with
      control := none
      daemon :=
        match DaemonControlRequest.parse text.content with
        | none => .polling
        | some .stop => .stopped
        | some .reload => .checking text.client
        | some request => .reporting text.client request none (.ok ()) }
  | .checking c => { s with daemon := if s.staged.isSome then .applying c else .reloading c none }
  | .applying c =>
    { s with
      daemon := .unstaging c s.staged
        (if s.staged.isSome then outcome else .error ("failed to load source config " ++ s.stagedPath)) }
  | .unstaging c source applied =>
    { s with
      staged := none
      daemon :=
        match applied with
        | .ok () => .reloading c source
        | .error error => .reporting c .reload source (.error error) }
  | .reloading c source => { s with daemon := .reporting c .reload source outcome }
  | .reporting c request source result =>
    { s with
      result := if outcome.isOk then some ⟨.of request result, c, source⟩ else s.result
      daemon := .polling }
  | .stopped => s

def step (s : ControlFiles) : ControlEvent → ControlFiles
  | .client c => s.clientStep c
  | .giveUp c => s.setClient c { s.clients c with todo := [] }
  | .daemon outcome => s.daemonStep outcome

/-- No file is there, the daemon polls and the clients have not started. -/
def start (stagedPath : String) (programs : ℕ → List ClientOp) : ControlFiles where
  stagedPath
  control := none
  staged := none
  result := none
  clients c := ⟨programs c, false, none⟩
  daemon := .polling

/-! ## What one step leaves alone -/

variable {s t : ControlFiles} {c d : ℕ} {request : DaemonControlRequest}

@[simp] theorem daemon_clientStep : (s.clientStep d).daemon = s.daemon := by
  unfold clientStep
  dsimp only
  split
  all_goals (try split)
  all_goals rfl

theorem clients_clientStep (other : d ≠ c) : (s.clientStep d).clients c = s.clients c := by
  unfold clientStep
  dsimp only
  split
  all_goals (try split)
  all_goals first | rfl | exact Function.update_of_ne other.symm _ _

theorem control_clientStep :
    (s.clientStep d).control =
      match (s.clients d).writes with
      | some request => some ⟨d, request.text⟩
      | none => s.control := by
  unfold clientStep Client.writes
  dsimp only
  split
  all_goals (try split)
  all_goals simp_all [setClient]

theorem staged_clientStep (stages : (s.clients d).stages = none) : (s.clientStep d).staged = s.staged := by
  unfold clientStep
  dsimp only
  split
  case h_3 source rest todo => simp [Client.stages, todo] at stages
  all_goals (try split)
  all_goals rfl

/-- A client leaves the result or removes it. -/
theorem result_clientStep : (s.clientStep d).result = s.result ∨ (s.clientStep d).result = none := by
  unfold clientStep
  dsimp only
  split
  all_goals (try split)
  all_goals first | exact .inl rfl | exact .inr rfl

@[simp] theorem clients_daemonStep (outcome : Except String Unit) :
    (s.daemonStep outcome).clients = s.clients := by
  unfold daemonStep
  split
  all_goals (try split)
  all_goals rfl

/-- A daemon that handles a request reads and removes none. -/
theorem daemonStep_of_handling (polls : s.daemon ≠ .polling) (takes : s.daemon.client? = none)
    (outcome : Except String Unit) :
    (s.daemonStep outcome).control = s.control ∧ (s.daemonStep outcome).daemon.client? = none := by
  unfold daemonStep
  cases phase : s.daemon with
  | polling => exact absurd phase polls
  | removing text => simp [phase, DaemonPhase.client?] at takes
  | checking client => exact ⟨rfl, by dsimp only; split_ifs <;> rfl⟩
  | unstaging client source applied => cases applied <;> exact ⟨rfl, rfl⟩
  | stopped => exact ⟨rfl, takes⟩
  | _ => exact ⟨rfl, rfl⟩

/-! ## A request is read before it is acknowledged -/

/-- The request of a client that waits is in the control file, and the daemon is not about to remove it. -/
structure Unread (c : ℕ) (request : DaemonControlRequest) (s : ControlFiles) : Prop where
  control : s.control = some ⟨c, request.text⟩
  daemon : s.daemon.client? = none
  waits : (s.clients c).todo = [] ∨ ∃ rest, (s.clients c).todo = .waitForDaemonControlAck :: rest
  acked : (s.clients c).acked = false

/-- No other client overwrites the request of `c` before the daemon has read it. -/
def LeavesUnread (c : ℕ) (s : ControlFiles) : ControlEvent → Prop
  | .client d =>
    d ≠ c → s.control.map Written.client = some c → s.daemon.client? = none → (s.clients d).writes = none
  | _ => True

instance (e : ControlEvent) : Decidable (LeavesUnread c s e) :=
  match e with
  | .client d => inferInstanceAs (Decidable
      (d ≠ c → s.control.map Written.client = some c → s.daemon.client? = none → (s.clients d).writes = none))
  | .giveUp _ | .daemon _ => .isTrue trivial

theorem Unread.clientStep (h : Unread c request s) (guard : LeavesUnread c s (.client d)) :
    Unread c request (s.clientStep d) := by
  by_cases own : d = c
  · subst own
    have same : s.clientStep d = s := by
      rcases h.waits with todo | ⟨rest, todo⟩
      · simp [ControlFiles.clientStep, todo]
      · simp [ControlFiles.clientStep, todo, h.control]
    rwa [same]
  · have clients := clients_clientStep (s := s) own
    have writes := guard own (by rw [h.control]; rfl) h.daemon
    exact {
      control := by rw [control_clientStep, writes]; exact h.control
      daemon := by simpa using h.daemon
      waits := by rw [clients]; exact h.waits
      acked := by rw [clients]; exact h.acked }

theorem Unread.giveUp (h : Unread c request s) :
    Unread c request (s.setClient d { s.clients d with todo := [] }) := by
  refine { control := h.control, daemon := h.daemon, waits := ?_, acked := ?_ }
  all_goals
    by_cases own : d = c
    · subst own
      simp [setClient, h.acked]
    · simp [setClient, Function.update_of_ne (Ne.symm own), h.waits, h.acked]

theorem Unread.daemonStep (h : Unread c request s) (outcome : Except String Unit) :
    Unread c request (s.daemonStep outcome) ∨
      (s.daemonStep outcome).daemon = .removing ⟨c, request.text⟩ := by
  by_cases polls : s.daemon = .polling
  · exact .inr (by simp [ControlFiles.daemonStep, polls, h.control])
  · obtain ⟨control, daemon⟩ := daemonStep_of_handling polls h.daemon outcome
    exact .inl {
      control := control.trans h.control
      daemon := daemon
      waits := by simpa using h.waits
      acked := by simpa using h.acked }

theorem Unread.step {e : ControlEvent} (h : Unread c request s) (guard : LeavesUnread c s e) :
    Unread c request (s.step e) ∨ (s.step e).daemon = .removing ⟨c, request.text⟩ := by
  cases e with
  | client d => exact .inl (h.clientStep guard)
  | giveUp d => exact .inl h.giveUp
  | daemon outcome => exact h.daemonStep outcome

/-- When an unread request is acknowledged, the daemon has read it before. -/
theorem Unread.read_of_acked {events : List ControlEvent} (h : Unread c request s)
    (left : Along ControlFiles.step (LeavesUnread c) s events)
    (acked : ((run ControlFiles.step s events).clients c).acked) :
    ∃ before rest, events = before ++ rest ∧
      (run ControlFiles.step s before).daemon = .removing ⟨c, request.text⟩ := by
  induction events generalizing s with
  | nil => simp [h.acked] at acked
  | cons e events ih =>
    rcases h.step left.1 with unread | read
    · obtain ⟨before, rest, rfl, read⟩ := ih unread left.2 acked
      exact ⟨e :: before, rest, rfl, read⟩
    · exact ⟨[e], events, rfl, read⟩

/-! ## A reload of one client at a time -/

/-- No reload is pending and the daemon handles none. -/
structure NoReload (s : ControlFiles) : Prop where
  control : ∀ text, s.control = some text → ¬ text.Reloads
  read : ∀ text, s.daemon = .removing text → ¬ text.Reloads
  daemon : ¬ s.daemon.Reloads

section Undisturbed
variable {source : Option RawConfig}

/-- A result answers the client and comes from the configuration it staged. -/
def Report.Answers (c : ℕ) (source : Option RawConfig) (report : Report) : Prop :=
  report.client = c ∧ report.source = source.map (Written.mk c)

/-- A reload the daemon is at is that of the client, with the configuration it staged. -/
def Handles (c : ℕ) (source : Option RawConfig) (s : ControlFiles) : Prop :=
  match s.daemon with
  | .polling | .stopped => True
  | .removing text => text.Reloads → text.client = c ∧ s.staged = source.map (Written.mk c)
  | .checking client | .applying client => client = c ∧ s.staged = source.map (Written.mk c)
  | .unstaging client applied _ | .reloading client applied =>
    client = c ∧ applied = source.map (Written.mk c)
  | .reporting client request applied _ =>
    request = .reload → client = c ∧ applied = source.map (Written.mk c)

/-- What holds once the client has written its request. -/
structure Requested (c : ℕ) (source : Option RawConfig) (s : ControlFiles) : Prop where
  control : ∀ text, s.control = some text → text.Reloads →
    text.client = c ∧ s.staged = source.map (Written.mk c) ∧ ¬ s.daemon.Reloads
  handles : s.Handles c source
  result : ∀ report, s.result = some report → report.content.request = DaemonControlRequest.reload.asStr →
    Report.Answers c source report

/-- How far the client has come. -/
inductive Progress (c : ℕ) (source : Option RawConfig) (s : ControlFiles) : Prop where
  | starts (todo : (s.clients c).todo = reloadAndWait source) (quiet : s.NoReload)
      (staged : source = none → s.staged = none) (returned : (s.clients c).returned = none)
  | stages (config : RawConfig) (staging : source = some config)
      (todo : (s.clients c).todo = .stageDaemonConfigApply config :: requestAndWait) (quiet : s.NoReload)
      (result : ∀ report, s.result = some report → report.content.request ≠ DaemonControlRequest.reload.asStr)
      (returned : (s.clients c).returned = none)
  | requests (todo : (s.clients c).todo = requestAndWait) (quiet : s.NoReload)
      (staged : s.staged = source.map (Written.mk c))
      (result : ∀ report, s.result = some report → report.content.request ≠ DaemonControlRequest.reload.asStr)
      (returned : (s.clients c).returned = none)
  | acknowledges (todo : (s.clients c).todo = [.waitForDaemonControlAck, .waitForDaemonControlResult .reload])
      (requested : s.Requested c source) (returned : (s.clients c).returned = none)
  | waits (todo : (s.clients c).todo = [.waitForDaemonControlResult .reload])
      (requested : s.Requested c source) (returned : (s.clients c).returned = none)
  | ends (todo : (s.clients c).todo = [.removeDaemonControlResult] ∨ (s.clients c).todo = [])
      (returned : ∀ report, (s.clients c).returned = some report → Report.Answers c source report)

theorem Progress.returned_answers (h : Progress c source s) {report : Report}
    (returned : (s.clients c).returned = some report) : Report.Answers c source report := by
  cases h with
  | ends todo answers => exact answers report returned
  | _ => simp_all

/-! ### The steps of the others -/

/-- Until `c` returns, no other client writes a reload or stages a configuration. -/
def Undisturbed (c : ℕ) (s : ControlFiles) : ControlEvent → Prop
  | .client d =>
    d ≠ c → (s.clients c).returned = none → (s.clients d).writes ≠ some .reload ∧ (s.clients d).stages = none
  | _ => True

instance (e : ControlEvent) : Decidable (Undisturbed c s e) :=
  match e with
  | .client d => inferInstanceAs (Decidable (d ≠ c → (s.clients c).returned = none →
      (s.clients d).writes ≠ some .reload ∧ (s.clients d).stages = none))
  | .giveUp _ | .daemon _ => .isTrue trivial

/-- A step that matters to the client at most by a request for something else, or by the result it removes. -/
structure Passes (c : ℕ) (s t : ControlFiles) : Prop where
  clients : t.clients c = s.clients c
  daemon : t.daemon = s.daemon
  staged : t.staged = s.staged
  control : ∀ text, t.control = some text → text.Reloads → s.control = some text
  result : ∀ report, t.result = some report → s.result = some report

theorem passes_clientStep (other : d ≠ c) (writes : (s.clients d).writes ≠ some .reload)
    (stages : (s.clients d).stages = none) : Passes c s (s.clientStep d) where
  clients := clients_clientStep other
  daemon := daemon_clientStep
  staged := staged_clientStep stages
  control text pending reloads := by
    rw [control_clientStep] at pending
    cases writing : (s.clients d).writes with
    | none => simpa only [writing] using pending
    | some request =>
      simp only [writing, Option.some.injEq] at pending
      subst pending
      have parsed : DaemonControlRequest.parse request.text = some .reload := by
        simpa only [Written.Reloads] using reloads
      rw [parse_text] at parsed
      exact absurd (writing.trans parsed) writes
  result report left := by
    rcases result_clientStep (s := s) (d := d) with same | removed
    · rwa [same] at left
    · rw [removed] at left
      cases left

theorem passes_giveUp (other : d ≠ c) : Passes c s (s.setClient d { s.clients d with todo := [] }) where
  clients := Function.update_of_ne other.symm _ _
  daemon := rfl
  staged := rfl
  control _ pending _ := pending
  result _ left := left

theorem NoReload.passes (h : s.NoReload) (passes : Passes c s t) : t.NoReload where
  control text pending reloads := h.control text (passes.control text pending reloads) reloads
  read := by rw [passes.daemon]; exact h.read
  daemon := by rw [passes.daemon]; exact h.daemon

theorem Requested.passes (h : Requested c source s) (passes : Passes c s t) : Requested c source t where
  control text pending reloads := by
    rw [passes.staged, passes.daemon]
    exact h.control text (passes.control text pending reloads) reloads
  handles := by
    have handles := h.handles
    unfold Handles at handles ⊢
    rwa [passes.daemon, passes.staged]
  result report left := h.result report (passes.result report left)

theorem Progress.passes (h : Progress c source s) (passes : Passes c s t) : Progress c source t := by
  have clients := passes.clients
  cases h with
  | starts todo quiet staged returned =>
    exact .starts (by rwa [clients]) (quiet.passes passes) (by rwa [passes.staged]) (by rwa [clients])
  | stages config staging todo quiet result returned =>
    exact .stages config staging (by rwa [clients]) (quiet.passes passes)
      (fun report left => result report (passes.result report left)) (by rwa [clients])
  | requests todo quiet staged result returned =>
    exact .requests (by rwa [clients]) (quiet.passes passes) (by rwa [passes.staged])
      (fun report left => result report (passes.result report left)) (by rwa [clients])
  | acknowledges todo requested returned =>
    exact .acknowledges (by rwa [clients]) (requested.passes passes) (by rwa [clients])
  | waits todo requested returned =>
    exact .waits (by rwa [clients]) (requested.passes passes) (by rwa [clients])
  | ends todo returned => exact .ends (by rwa [clients]) (by rwa [clients])

/-! ### The steps of the daemon -/

/-- A daemon that handles no reload leaves the staged configuration and reports no reload. -/
theorem NoReload.daemonStep (h : s.NoReload) (outcome : Except String Unit) :
    (s.daemonStep outcome).NoReload ∧ (s.daemonStep outcome).staged = s.staged ∧
      ∀ report, (s.daemonStep outcome).result = some report →
        s.result = some report ∨ report.content.request ≠ DaemonControlRequest.reload.asStr := by
  have idle := h.daemon
  cases phase : s.daemon with
  | polling =>
    cases pending : s.control with
    | none =>
      have same : s.daemonStep outcome = s := by simp [ControlFiles.daemonStep, phase, pending]
      rw [same]
      exact ⟨h, rfl, fun report left => .inl left⟩
    | some text =>
      have other := h.control text pending
      refine ⟨⟨?_, ?_, ?_⟩, ?_, ?_⟩ <;>
        simp [ControlFiles.daemonStep, phase, pending, other, DaemonPhase.Reloads]
      exact fun report left => .inl left
  | removing text =>
    have other := h.read text phase
    refine ⟨⟨?_, ?_, ?_⟩, ?_, ?_⟩
    all_goals simp only [ControlFiles.daemonStep, phase]
    · simp
    · intro text
      split <;> simp
    · unfold Written.Reloads at other
      cases parsed : DaemonControlRequest.parse text.content with
      | none => simp [DaemonPhase.Reloads]
      | some request => cases request <;> simp_all [DaemonPhase.Reloads]
    · exact fun report left => .inl left
  | reporting client request applied result =>
    have other : request ≠ .reload := by simpa [phase, DaemonPhase.Reloads] using idle
    refine ⟨⟨?_, ?_, ?_⟩, ?_, ?_⟩
    all_goals simp only [ControlFiles.daemonStep, phase]
    · exact h.control
    · simp
    · simp [DaemonPhase.Reloads]
    · intro report reported
      split_ifs at reported
      · obtain rfl := Option.some.inj reported
        refine .inr fun named => other (asStr_eq_reload.mp ?_)
        cases result <;> exact named
      · exact .inl reported
  | stopped =>
    have same : s.daemonStep outcome = s := by simp [ControlFiles.daemonStep, phase]
    rw [same]
    exact ⟨h, rfl, fun report left => .inl left⟩
  | _ => exact absurd (by rw [phase]; trivial) idle

theorem Requested.handles_daemonStep (h : Requested c source s) (outcome : Except String Unit) :
    (s.daemonStep outcome).Handles c source := by
  have handles := h.handles
  unfold Handles at handles
  cases phase : s.daemon with
  | polling =>
    cases pending : s.control with
    | none => simp [Handles, ControlFiles.daemonStep, phase, pending]
    | some text =>
      have own (reloads : text.Reloads) := h.control text pending reloads
      simpa [Handles, ControlFiles.daemonStep, phase, pending] using
        fun reloads => ⟨(own reloads).1, (own reloads).2.1⟩
  | removing text =>
    rw [phase] at handles
    unfold Written.Reloads at handles
    cases parsed : DaemonControlRequest.parse text.content with
    | none => simp [Handles, ControlFiles.daemonStep, phase, parsed]
    | some request =>
      cases request with
      | reload => simpa [Handles, ControlFiles.daemonStep, phase, parsed] using handles parsed
      | _ => simp [Handles, ControlFiles.daemonStep, phase, parsed]
  | checking client =>
    rw [phase] at handles
    cases staged : source <;>
      simp [Handles, ControlFiles.daemonStep, phase, handles.1, handles.2, staged]
  | unstaging client applied saved =>
    rw [phase] at handles
    cases saved <;> simpa [Handles, ControlFiles.daemonStep, phase] using handles
  | applying client | reloading client applied =>
    rw [phase] at handles
    simpa [Handles, ControlFiles.daemonStep, phase] using handles
  | reporting client request applied result | stopped => simp [Handles, ControlFiles.daemonStep, phase]

/-- While the request of the client is pending the daemon handles no reload. -/
theorem Requested.control_daemonStep (h : Requested c source s) (outcome : Except String Unit) :
    ∀ text, (s.daemonStep outcome).control = some text → text.Reloads →
      text.client = c ∧ (s.daemonStep outcome).staged = source.map (Written.mk c) ∧
        ¬ (s.daemonStep outcome).daemon.Reloads := by
  intro text pending reloads
  cases phase : s.daemon with
  | polling =>
    have before : s.control = some text := by
      simp only [ControlFiles.daemonStep, phase] at pending
      split at pending <;> simp_all
    obtain ⟨own, staged, -⟩ := h.control text before reloads
    simp [ControlFiles.daemonStep, phase, before, own, staged, DaemonPhase.Reloads]
  | removing read => simp [ControlFiles.daemonStep, phase] at pending
  | reporting client request applied result =>
    simp only [ControlFiles.daemonStep, phase] at pending ⊢
    obtain ⟨own, staged, -⟩ := h.control text pending reloads
    exact ⟨own, staged, id⟩
  | stopped =>
    simp only [ControlFiles.daemonStep, phase] at pending ⊢
    simpa [phase] using h.control text pending reloads
  | _ =>
    simp only [ControlFiles.daemonStep, phase] at pending
    exact absurd (by rw [phase]; trivial) (h.control text pending reloads).2.2

theorem Requested.daemonStep (h : Requested c source s) (outcome : Except String Unit) :
    Requested c source (s.daemonStep outcome) := by
  refine ⟨h.control_daemonStep outcome, h.handles_daemonStep outcome, ?_⟩
  cases phase : s.daemon with
  | reporting client request applied result =>
    have handles := h.handles
    rw [Handles, phase] at handles
    intro report reported named
    simp only [ControlFiles.daemonStep, phase] at reported
    split_ifs at reported
    · obtain rfl := Option.some.inj reported
      refine handles (asStr_eq_reload.mp ?_)
      cases result <;> exact named
    · exact h.result report reported named
  | polling =>
    simp only [ControlFiles.daemonStep, phase]
    split <;> exact h.result
  | _ =>
    simp only [ControlFiles.daemonStep, phase]
    exact h.result

theorem Progress.daemonStep (h : Progress c source s) (outcome : Except String Unit) :
    Progress c source (s.daemonStep outcome) := by
  cases h with
  | starts todo quiet staged returned =>
    obtain ⟨quiet', staged', -⟩ := quiet.daemonStep outcome
    exact .starts (by simpa using todo) quiet' (by rwa [staged']) (by simpa using returned)
  | stages config staging todo quiet result returned =>
    obtain ⟨quiet', -, result'⟩ := quiet.daemonStep outcome
    exact .stages config staging (by simpa using todo) quiet'
      (fun report left => (result' report left).elim (result report) id) (by simpa using returned)
  | requests todo quiet staged result returned =>
    obtain ⟨quiet', staged', result'⟩ := quiet.daemonStep outcome
    exact .requests (by simpa using todo) quiet' (staged'.trans staged)
      (fun report left => (result' report left).elim (result report) id) (by simpa using returned)
  | acknowledges todo requested returned =>
    exact .acknowledges (by simpa using todo) (requested.daemonStep outcome) (by simpa using returned)
  | waits todo requested returned =>
    exact .waits (by simpa using todo) (requested.daemonStep outcome) (by simpa using returned)
  | ends todo returned => exact .ends (by simpa using todo) (by simpa using returned)

/-! ### The steps of the client itself -/

/-- The request of the client is the only reload, whatever else the daemon is at. -/
theorem NoReload.requested (h : s.NoReload) (daemon : t.daemon = s.daemon) (result : t.result = s.result)
    (control : t.control = some ⟨c, DaemonControlRequest.reload.text⟩)
    (staged : t.staged = source.map (Written.mk c))
    (other : ∀ report, s.result = some report →
      report.content.request ≠ DaemonControlRequest.reload.asStr) : Requested c source t where
  control text pending _ := by
    rw [control] at pending
    obtain rfl := Option.some.inj pending
    exact ⟨rfl, staged, by rw [daemon]; exact h.daemon⟩
  handles := by
    have idle := h.daemon
    have read := h.read
    unfold Handles
    rw [daemon]
    cases phase : s.daemon with
    | removing text => exact fun reloads => absurd reloads (read text phase)
    | reporting client request applied result =>
      rw [phase] at idle
      exact fun reloads => absurd reloads idle
    | polling | stopped => trivial
    | _ => exact absurd (by rw [phase]; trivial) idle
  result report left named := absurd named (other report (result ▸ left))

theorem NoReload.of_same (h : s.NoReload) (control : t.control = s.control) (daemon : t.daemon = s.daemon) :
    t.NoReload where
  control := by rw [control]; exact h.control
  read := by rw [daemon]; exact h.read
  daemon := by rw [daemon]; exact h.daemon

theorem Requested.of_same (h : Requested c source s) (control : t.control = s.control)
    (daemon : t.daemon = s.daemon) (staged : t.staged = s.staged) (result : t.result = s.result) :
    Requested c source t where
  control := by rw [control, staged, daemon]; exact h.control
  handles := by
    have handles := h.handles
    unfold Handles at handles ⊢
    rwa [daemon, staged]
  result := by rw [result]; exact h.result

theorem Progress.clientStep (h : Progress c source s) : Progress c source (s.clientStep c) := by
  cases h with
  | starts todo quiet staged returned =>
    cases source with
    | none =>
      have next : s.clientStep c =
          { s with result := none }.setClient c { s.clients c with todo := requestAndWait } := by
        simp [ControlFiles.clientStep, todo, reloadAndWait, maybeReloadRunningDaemon]
      rw [next]
      exact .requests (by simp [setClient]) (quiet.of_same rfl rfl) (staged rfl) (by simp [setClient])
        (by simpa [setClient] using returned)
    | some config =>
      have next : s.clientStep c = { s with result := none }.setClient c
          { s.clients c with todo := .stageDaemonConfigApply config :: requestAndWait } := by
        simp [ControlFiles.clientStep, todo, reloadAndWait, applyConfigViaRunningDaemon]
      rw [next]
      exact .stages config rfl (by simp [setClient]) (quiet.of_same rfl rfl) (by simp [setClient])
        (by simpa [setClient] using returned)
  | stages config staging todo quiet result returned =>
    have next : s.clientStep c =
        { s with staged := some ⟨c, config⟩ }.setClient c { s.clients c with todo := requestAndWait } := by
      simp [ControlFiles.clientStep, todo]
    rw [next]
    exact .requests (by simp [setClient]) (quiet.of_same rfl rfl) (by simp [setClient, staging]) result
      (by simpa [setClient] using returned)
  | requests todo quiet staged result returned =>
    have next : s.clientStep c =
        { s with control := some ⟨c, DaemonControlRequest.reload.text⟩ }.setClient c
          { s.clients c with todo := [.waitForDaemonControlAck, .waitForDaemonControlResult .reload] } := by
      simp [ControlFiles.clientStep, todo, requestAndWait]
    rw [next]
    exact .acknowledges (by simp [setClient]) (quiet.requested rfl rfl rfl staged result)
      (by simpa [setClient] using returned)
  | acknowledges todo requested returned =>
    cases pending : s.control with
    | none =>
      have next : s.clientStep c = s.setClient c
          { s.clients c with todo := [.waitForDaemonControlResult .reload], acked := true } := by
        simp [ControlFiles.clientStep, todo, pending]
      rw [next]
      exact .waits (by simp [setClient]) (requested.of_same rfl rfl rfl rfl)
        (by simpa [setClient] using returned)
    | some text =>
      have same : s.clientStep c = s := by simp [ControlFiles.clientStep, todo, pending]
      rw [same]
      exact .acknowledges todo requested returned
  | waits todo requested returned =>
    cases found : s.result.filter fun report => report.content.request = DaemonControlRequest.reload.asStr with
    | none =>
      have same : s.clientStep c = s := by simp [ControlFiles.clientStep, todo, found]
      rw [same]
      exact .waits todo requested returned
    | some report =>
      obtain ⟨left, named⟩ := Option.filter_eq_some_iff.mp found
      have answers := requested.result report left (by simpa using named)
      refine .ends ?_ ?_ <;> simp [ControlFiles.clientStep, todo, found, setClient, answers]
  | ends todo returned =>
    rcases todo with todo | todo
    · refine .ends (.inr ?_) ?_
      · simp [ControlFiles.clientStep, todo, setClient]
      · simpa [ControlFiles.clientStep, todo, setClient] using returned
    · have same : s.clientStep c = s := by simp [ControlFiles.clientStep, todo]
      rw [same]
      exact .ends (.inr todo) returned

theorem Progress.giveUp (h : Progress c source s) :
    Progress c source (s.setClient c { s.clients c with todo := [] }) :=
  .ends (.inr (by simp [setClient])) fun report returned => h.returned_answers (by simpa [setClient] using returned)

theorem Progress.step {e : ControlEvent} (h : Progress c source s) (undisturbed : Undisturbed c s e) :
    Progress c source (s.step e) := by
  cases e with
  | client d =>
    by_cases own : d = c
    · subst own
      exact h.clientStep
    · cases returned : (s.clients c).returned with
      | none =>
        obtain ⟨writes, stages⟩ := undisturbed own returned
        exact h.passes (passes_clientStep own writes stages)
      | some report =>
        cases h with
        | ends todo answers =>
          have clients : (s.step (.client d)).clients c = s.clients c := clients_clientStep own
          exact .ends (by rwa [clients]) (by rwa [clients])
        | _ => simp_all
  | giveUp d =>
    by_cases own : d = c
    · subst own
      exact h.giveUp
    · exact h.passes (passes_giveUp own)
  | daemon outcome => exact h.daemonStep outcome

/-- A client whose reload is the only one returns the result of its own request and its own configuration. -/
theorem answers_of_undisturbed {events : List ControlEvent} {report : Report}
    (todo : (s.clients c).todo = reloadAndWait source) (fresh : (s.clients c).returned = none)
    (quiet : s.NoReload) (staged : source = none → s.staged = none)
    (undisturbed : Along ControlFiles.step (Undisturbed c) s events)
    (returned : ((run ControlFiles.step s events).clients c).returned = some report) :
    Report.Answers c source report :=
  (invariant (fun _ _ h guard => Progress.step h guard) (.starts todo quiet staged fresh)
    undisturbed).returned_answers returned

end Undisturbed

/-! ## What the clients may rely on -/

/-- The daemon reads the request of the client at a state of the run. -/
def ReadAlong (c : ℕ) (request : DaemonControlRequest) (s : ControlFiles) (events : List ControlEvent) : Prop :=
  ∃ before after, events = before ++ after ∧
    (run ControlFiles.step s before).daemon = .removing ⟨c, request.text⟩

/-- What the clients take for granted: an acknowledged request was read, and a result is one's own. -/
def RequestsRead : Prop :=
  ∀ stagedPath programs events c request, .writeDaemonControlRequest request ∈ programs c →
    ((run ControlFiles.step (start stagedPath programs) events).clients c).acked →
      ReadAlong c request (start stagedPath programs) events

def ResultsOwn : Prop :=
  ∀ stagedPath programs events c source report, programs c = reloadAndWait source →
    ((run ControlFiles.step (start stagedPath programs) events).clients c).returned = some report →
      Report.Answers c source report

/-- Two clients that apply their configurations. -/
def twoPrograms (c : ℕ) : List ClientOp :=
  if c < 2 then applyConfigViaRunningDaemon [c.toUInt8] else []

def twoClients : ControlFiles := start "daemon.staged.toml" twoPrograms

/-- The second client overwrites the request of the first before the daemon reads it. -/
def overwritten : List ControlEvent :=
  List.replicate 3 (.client 0) ++ List.replicate 3 (.client 1) ++ List.replicate 2 (.daemon (.ok ())) ++
    [.client 0]

/-- The daemon removes the request of the second client, having read that of the first. -/
def removedUnread : List ControlEvent :=
  List.replicate 3 (.client 0) ++ [.daemon (.ok ())] ++ List.replicate 3 (.client 1) ++ [.daemon (.ok ())] ++
    [.client 1]

/-- The second client stages its configuration over that of the first before the request. -/
def overstaged : List ControlEvent :=
  List.replicate 2 (.client 0) ++ List.replicate 2 (.client 1) ++ [.client 0] ++
    List.replicate 7 (.daemon (.ok ())) ++ List.replicate 2 (.client 0)

theorem not_readAlong {s : ControlFiles} {c : ℕ} {events : List ControlEvent}
    (never : ∀ n ≤ events.length, (run ControlFiles.step s (events.take n)).daemon.client? ≠ some c)
    (request : DaemonControlRequest) : ¬ ReadAlong c request s events := by
  rintro ⟨before, after, rfl, read⟩
  refine never before.length (by simp) ?_
  rw [List.take_left]
  exact congrArg DaemonPhase.client? read

theorem requests_lost_and_results_foreign :
    ¬ RequestsRead ∧ ¬ ResultsOwn ∧
      ((run ControlFiles.step twoClients removedUnread).clients 1).acked ∧
        ¬ ReadAlong 1 .reload twoClients removedUnread := by
  refine ⟨fun all => ?_, fun all => ?_, by decide +kernel, not_readAlong (by decide +kernel) _⟩
  · have read := all "daemon.staged.toml" twoPrograms overwritten 0 .reload (by decide +kernel) (by decide +kernel)
    exact not_readAlong (by decide +kernel) _ read
  · have foreign := all "daemon.staged.toml" twoPrograms overstaged 0 (some [0])
      ⟨.of .reload (.ok ()), 0, some ⟨1, [1]⟩⟩ rfl (by decide +kernel)
    exact absurd foreign.2 (by decide)

/-- An acknowledged request was read unless another client overwrote it before the daemon read it, or the daemon was
removing an earlier one when it was written. A result is the client's own when its reload was the only one and no
other client staged a configuration until it returned. -/
theorem read_and_answered_of_undisturbed (s : ControlFiles) (c : ℕ) (events : List ControlEvent) :
    (∀ request rest, (s.clients c).todo = .writeDaemonControlRequest request :: .waitForDaemonControlAck :: rest →
      (s.clients c).acked = false → s.daemon.client? = none →
      Along ControlFiles.step (LeavesUnread c) (s.step (.client c)) events →
      ((run ControlFiles.step s (.client c :: events)).clients c).acked →
        ReadAlong c request s (.client c :: events)) ∧
    ∀ source report, (s.clients c).todo = reloadAndWait source → (s.clients c).returned = none →
      s.NoReload → (source = none → s.staged = none) →
      Along ControlFiles.step (Undisturbed c) s events →
      ((run ControlFiles.step s events).clients c).returned = some report →
        Report.Answers c source report := by
  constructor
  · intro request rest todo unacked takes left acked
    have unread : Unread c request (s.step (.client c)) := by
      refine ⟨?_, ?_, .inr ⟨rest, ?_⟩, ?_⟩ <;> simp [ControlFiles.step, ControlFiles.clientStep, setClient, *]
    obtain ⟨before, after, eq, read⟩ := unread.read_of_acked left acked
    exact ⟨.client c :: before, after, by rw [eq]; rfl, read⟩
  · intro source report todo fresh quiet staged undisturbed returned
    exact answers_of_undisturbed todo fresh quiet staged undisturbed returned

/-- A client that applies its configuration while two others pause the daemon. -/
def pausingPrograms : ℕ → List ClientOp
  | 0 => applyConfigViaRunningDaemon [7]
  | 1 | 2 => controlDaemon .pause
  | _ => []

def pausingClients : ControlFiles := start "daemon.staged.toml" pausingPrograms

/-- The first pause is read before the reload is written and reported after it. -/
def pausedBefore : List ControlEvent :=
  [.client 1, .client 0, .daemon (.ok ()), .client 0, .daemon (.ok ()), .client 1]

/-- The second pause is written while the daemon removes the reload. -/
def reloadedBetween : List ControlEvent :=
  [.daemon (.ok ()), .client 0, .daemon (.ok ()), .client 2, .daemon (.ok ()), .client 0, .client 0] ++
    List.replicate 5 (.daemon (.ok ())) ++ [.client 2, .client 0]

theorem read_and_answered_of_pausing :
    ReadAlong 0 .reload (run ControlFiles.step pausingClients pausedBefore) (.client 0 :: reloadedBetween) ∧
      Report.Answers 0 (some [7]) ⟨.of .reload (.ok ()), 0, some ⟨0, [7]⟩⟩ :=
  ⟨(read_and_answered_of_undisturbed _ 0 _).1 .reload [.waitForDaemonControlResult .reload] rfl rfl rfl
      (by decide +kernel) (by decide +kernel),
    (read_and_answered_of_undisturbed pausingClients 0 (pausedBefore ++ .client 0 :: reloadedBetween)).2 (some [7]) _
      rfl rfl ⟨by rintro text ⟨⟩, by rintro text ⟨⟩, id⟩ (by rintro ⟨⟩) (by decide +kernel) (by decide +kernel)⟩

end ControlFiles
end NostrVpn.Cli
