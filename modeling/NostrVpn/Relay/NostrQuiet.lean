import Mathlib
import NostrVpn.Relay.NostrFeed

/-!
# The relay comes to rest

Without new texts from the clients the tasks of the relay can take only finitely many steps, and none of them is
stuck before its work is done. Every event that was received is then stored, and every served client was sent the
stored events that its subscriptions match.
-/
namespace NostrVpn.NostrRelay

open Rust

variable {serde : Serde} {events : List NostrEvent} {client client' : Client} {relay relay' : Relay}
  {subId : String} {sub : Subscription} {event : NostrEvent}

/-! ## The work that is left -/

/-- The steps that the relay takes by itself, when the sockets take what is sent. -/
def Action.Internal : Action → Prop
  | .client _ .handle | .client _ .follow | .client _ .transmit => True
  | _ => False

/-- An event that is not stored yet. -/
def Client.unstored (client : Client) : ℕ :=
  match client.handling with
  | .storing _ => 1
  | _ => 0

/-- The steps that the loop has before it, with this many stored events. -/
def Client.handlingWork (stored : ℕ) (client : Client) : ℕ :=
  match client.handling with
  | .waiting | .gone => 0
  | .acknowledging _ | .subscribing _ _ | .closing _ => 1
  | .announcing _ => 2
  | .storing _ => 3
  | .replaying _ _ rest => rest.length + 2
  | .requesting _ _ => stored + 3

/-- The steps that the task that follows the broadcast has before it. -/
def Client.feedWork (client : Client) : ℕ :=
  client.queue.length * (client.subscriptions.toList.length + 3) +
    match client.feed with
    | .receiving | .ended => 0
    | .received _ => client.subscriptions.toList.length + 2
    | .delivering _ rest => rest.length + 1

def Relay.total (relay : Relay) (work : Client → ℕ) : ℕ := (relay.clients.map work).sum

/-- A later measure counts only while the earlier ones are the same. -/
def Relay.work (relay : Relay) : ℕ ×ₗ ℕ ×ₗ ℕ ×ₗ ℕ :=
  toLex (relay.total Client.unstored, toLex (relay.total (Client.handlingWork relay.events.length),
    toLex (relay.total Client.feedWork, relay.total fun client => client.outgoing.length)))

section Sums
variable {clients : List Client} {index : ℕ} (work : Client → ℕ)

theorem sum_set (found : clients[index]? = some client) :
    ((clients.set index client').map work).sum + work client = (clients.map work).sum + work client' := by
  induction clients generalizing index with
  | nil => cases found
  | cons first rest ih =>
    cases index with
    | zero =>
      obtain rfl := Option.some.inj found
      simp only [List.set_cons_zero, List.map_cons, List.sum_cons]
      omega
    | succ index =>
      have tail := @ih index found
      simp only [List.set_cons_succ, List.map_cons, List.sum_cons]
      omega

theorem sum_set_eq (found : clients[index]? = some client) (same : work client' = work client) :
    ((clients.set index client').map work).sum = (clients.map work).sum := by
  have moved : ((clients.set index client').map work).sum + work client = _ := sum_set work found
  omega

theorem sum_set_lt (found : clients[index]? = some client) (less : work client' < work client) :
    ((clients.set index client').map work).sum < (clients.map work).sum := by
  have moved : ((clients.set index client').map work).sum + work client = _ := sum_set work found
  omega

end Sums

theorem handlingWork_congr {stored : ℕ} (same : client'.handling = client.handling) :
    client'.handlingWork stored = client.handlingWork stored := by
  rw [Client.handlingWork, Client.handlingWork, same]

theorem unstored_congr (same : client'.handling = client.handling) : client'.unstored = client.unstored := by
  rw [Client.unstored, Client.unstored, same]

/-- A step of the loop has less work after it. -/
theorem handlingWork_handle (now : ClientStep serde events client .handle client') :
    client'.unstored = client.unstored ∧ client'.handlingWork events.length < client.handlingWork events.length := by
  cases now with
  | acknowledge phase | lock phase | replay phase | skip phase | finish phase | subscribe phase | close phase =>
    simp [Client.unstored, Client.handlingWork, phase]

/-- So has a step of the task that follows the broadcast. -/
theorem feedWork_follow (now : ClientStep serde events client .follow client') :
    client'.feedWork < client.feedWork := by
  cases now with
  | lag phase queued => simp [Client.feedWork, phase, queued]
  | take phase queued =>
    simp only [Client.feedWork, phase, queued, List.length_cons, Nat.add_mul, Nat.one_mul]
    omega
  | «open» phase | deliver phase | pass phase | done phase => simp [Client.feedWork, phase]

theorem work_lt_of_step {action : Action} (internal : action.Internal) (now : Step serde relay action relay') :
    relay'.work < relay.work := by
  simp only [Relay.work, Prod.Lex.toLex_lt_toLex]
  cases now with
  | connect => cases internal
  | store found phase free =>
    exact .inl (sum_set_lt Client.unstored found (by simp [Client.unstored, phase]))
  | @announce index client event found phase =>
    refine .inr ⟨?_, .inl ?_⟩
    · simp only [Relay.total, List.map_map]
      have same : Client.unstored ∘ Client.enqueue event = Client.unstored :=
        funext fun client => unstored_congr enqueue_handling
      rw [same]
      exact sum_set_eq _ found (by simp [Client.unstored, phase])
    · simp only [Relay.total, List.map_map]
      have same : Client.handlingWork relay.events.length ∘ Client.enqueue event =
          Client.handlingWork relay.events.length := funext fun client => handlingWork_congr enqueue_handling
      rw [same]
      exact sum_set_lt _ found (by simp [Client.handlingWork, phase])
  | @client index client action client' found own =>
    cases action with
    | handle =>
      obtain ⟨same, less⟩ := handlingWork_handle own
      exact .inr ⟨sum_set_eq _ found same, .inl (sum_set_lt _ found less)⟩
    | follow =>
      have same := (follow_frame own).1
      exact .inr ⟨sum_set_eq _ found (unstored_congr same), .inr ⟨sum_set_eq _ found (handlingWork_congr same),
        .inl (sum_set_lt _ found (feedWork_follow own))⟩⟩
    | transmit =>
      cases own with
      | transmit sends queued =>
        exact .inr ⟨sum_set_eq _ found rfl, .inr ⟨sum_set_eq _ found rfl, .inr ⟨sum_set_eq _ found rfl,
          sum_set_lt _ found (by simp [queued])⟩⟩⟩
    | receive | fail | disconnect => cases internal

/-- Without new texts the relay takes only finitely many steps. -/
theorem internal_wellFounded (serde : Serde) : WellFounded fun relay' relay : Relay =>
    ∃ action : Action, action.Internal ∧ relay.step serde action = some relay' :=
  Machine.wellFounded_of_measure (μ := Relay.work) wellFounded_lt
    fun _ _ _ internal now => work_lt_of_step internal (step_of_step now)

/-! ## Rest -/

/-- What the end of a task leaves behind. -/
structure Client.Tidy (client : Client) : Prop where
  outgoing : client.sending = false → client.outgoing = []
  queue : client.feed = .ended → client.queue = []

theorem tidy_push {message : Message} (tidy : client.Tidy) : (client.push message).Tidy := by
  refine ⟨fun sends => ?_, fun ends => ?_⟩
  · rw [push_sending] at sends
    rw [push_outgoing, sends, if_neg Bool.false_ne_true, tidy.outgoing sends]
  · rw [push_feed] at ends
    rw [push_queue, tidy.queue ends]

theorem tidy_step {action : ClientAction} (tidy : client.Tidy)
    (now : ClientStep serde events client action client') : client'.Tidy := by
  cases now with
  | ignore => exact tidy
  | receive | lock | skip | subscribe | close => exact ⟨tidy.outgoing, tidy.queue⟩
  | acknowledge | replay | finish => exact ⟨(tidy_push tidy).outgoing, (tidy_push tidy).queue⟩
  | lag => exact ⟨tidy.outgoing, fun _ => rfl⟩
  | take | «open» | pass | done => exact ⟨tidy.outgoing, fun ends => by cases ends⟩
  | deliver => exact ⟨(tidy_push tidy).outgoing, fun ends => by cases ends⟩
  | transmit sends => exact ⟨fun ends => absurd (sends.symm.trans ends) Bool.noConfusion, tidy.queue⟩
  | fail => exact ⟨fun _ => rfl, tidy.queue⟩
  | disconnect => exact ⟨fun _ => rfl, fun _ => rfl⟩

theorem tidy_of_step {action : Action} (tidy : ∀ client ∈ relay.clients, client.Tidy)
    (now : Step serde relay action relay') : ∀ client ∈ relay'.clients, client.Tidy := by
  have set {index : ℕ} {client client' : Client} (own : client'.Tidy) :
      ∀ other ∈ relay.clients.set index client', other.Tidy := by
    intro other mem
    rcases List.mem_or_eq_of_mem_set mem with mem | rfl
    · exact tidy other mem
    · exact own
  cases now with
  | connect =>
    intro client mem
    rcases List.mem_append.mp mem with mem | mem
    · exact tidy client mem
    · obtain rfl := List.mem_singleton.mp mem
      exact ⟨fun _ => rfl, fun _ => rfl⟩
  | @store index client event found =>
    have before := tidy client (List.mem_of_getElem? found)
    exact @set index client _ ⟨before.outgoing, before.queue⟩
  | @announce index client event found =>
    have before := tidy client (List.mem_of_getElem? found)
    intro other mem
    obtain ⟨other, listed, rfl⟩ := List.mem_map.mp mem
    have own := @set index client (client.setHandling (.acknowledging event.id)) ⟨before.outgoing, before.queue⟩
      other listed
    refine ⟨fun ends => ?_, fun ends => ?_⟩
    · rw [enqueue_sending] at ends
      rw [enqueue_outgoing, own.outgoing ends]
    · rw [enqueue_feed] at ends
      rw [enqueue_queue, if_pos ends, own.queue ends]
  | @client index client action client' found own =>
    exact @set index client _ (tidy_step (tidy client (List.mem_of_getElem? found)) own)

/-- The tasks of a client have nothing to do. -/
structure Client.Idle (client : Client) : Prop where
  handling : client.handling = .waiting ∨ client.handling = .gone
  feed : client.feed = .receiving ∨ client.feed = .ended
  queue : client.queue = []
  outgoing : client.outgoing = []

theorem room_of_empty (empty : client.outgoing = []) : client.hasRoom := by
  simp [Client.hasRoom, empty, outgoingCapacity]

theorem send_of_empty (empty : client.outgoing = []) (message : Message) :
    client.send message = some (client.push message) := by
  rw [Client.send, if_pos (room_of_empty empty)]

/-- With nothing in its channel the task that follows the broadcast has come to rest, or takes a step. -/
theorem feed_idle (tidy : client.Tidy) (empty : client.outgoing = []) (stuck : client.follow = none) :
    (client.feed = .receiving ∨ client.feed = .ended) ∧ client.queue = [] := by
  unfold Client.follow at stuck
  split at stuck
  case h_1 => split_ifs at stuck
  case h_3 =>
    rw [send_of_empty empty] at stuck
    split_ifs at stuck
    cases stuck
  case h_5 phase queued => exact ⟨.inl phase, queued⟩
  case h_6 phase => exact ⟨.inr phase, tidy.queue phase⟩
  all_goals cases stuck

/-- So has the loop, but for an event that it stores. -/
theorem handling_idle (empty : client.outgoing = []) (feed : client.feed.reads = false)
    (stuck : client.handle events = none) : (∃ event, client.handling = .storing event ∨
      client.handling = .announcing event) ∨ client.handling = .waiting ∨ client.handling = .gone := by
  unfold Client.handle at stuck
  split at stuck
  case h_1 | h_4 => rw [send_of_empty empty] at stuck; cases stuck
  case h_3 =>
    rw [send_of_empty empty] at stuck
    split_ifs at stuck
    cases stuck
  case h_5 | h_6 => rw [feed, if_neg Bool.false_ne_true] at stuck; cases stuck
  case h_2 => cases stuck
  case h_7 phase => exact .inr (.inl phase)
  case h_8 event phase => exact .inl ⟨event, .inl phase⟩
  case h_9 event phase => exact .inl ⟨event, .inr phase⟩
  case h_10 phase => exact .inr (.inr phase)

abbrev Relay.Quiet (serde : Serde) (relay : Relay) : Prop :=
  Machine.Quiet (Relay.step serde) Action.Internal relay

/-- The relay is at rest only when every task of every client has done its work: no tasks wait for each other. -/
theorem idle_of_quiet (tidy : ∀ client ∈ relay.clients, client.Tidy) (quiet : relay.Quiet serde) :
    ∀ client ∈ relay.clients, client.Idle := by
  have transmits : ∀ client ∈ relay.clients, client.outgoing = [] := by
    intro client mem
    obtain ⟨index, found⟩ := List.mem_iff_getElem?.mp mem
    have stuck := quiet (.client index .transmit) trivial
    simp only [Relay.step, found, Client.step, Option.map_eq_none_iff] at stuck
    by_contra filled
    obtain ⟨message, rest, queued⟩ := List.exists_cons_of_ne_nil filled
    cases sends : client.sending with
    | false => exact filled ((tidy client mem).outgoing sends)
    | true => simp [Client.transmit, sends, queued] at stuck
  have follows : ∀ client ∈ relay.clients, (client.feed = .receiving ∨ client.feed = .ended) ∧ client.queue = [] := by
    intro client mem
    obtain ⟨index, found⟩ := List.mem_iff_getElem?.mp mem
    have stuck := quiet (.client index .follow) trivial
    simp only [Relay.step, found, Client.step, Option.map_eq_none_iff] at stuck
    exact feed_idle (tidy client mem) (transmits client mem) stuck
  have handles : ∀ client ∈ relay.clients, (∃ event, client.handling = .storing event) ∨
      client.handling = .waiting ∨ client.handling = .gone := by
    intro client mem
    obtain ⟨index, found⟩ := List.mem_iff_getElem?.mp mem
    have stuck := quiet (.client index .handle) trivial
    simp only [Relay.step, found] at stuck
    have free : client.feed.reads = false := by
      rcases (follows client mem).1 with phase | phase <;> rw [phase] <;> rfl
    split at stuck
    case h_1 event phase => exact .inl ⟨event, phase⟩
    case h_2 => cases stuck
    case h_3 storing announcing =>
      rw [Option.map_eq_none_iff] at stuck
      rcases handling_idle (transmits client mem) free stuck with ⟨event, phase | phase⟩ | rest
      · exact absurd phase (storing event)
      · exact absurd phase (announcing event)
      · exact .inr rest
  intro client mem
  refine ⟨(handles client mem).resolve_left ?_, (follows client mem).1, (follows client mem).2, transmits client mem⟩
  rintro ⟨event, phase⟩
  obtain ⟨index, found⟩ := List.mem_iff_getElem?.mp mem
  have stuck := quiet (.client index .handle) trivial
  have free : (relay.clients.any fun client => client.handling.reads) = false := by
    rw [List.any_eq_false]
    intro other listed
    rcases handles other listed with ⟨event, phase⟩ | phase | phase <;> simp [phase, Handling.reads]
  simp [Relay.step, found, phase, free] at stuck

theorem tidy_of_run {es : List Action} (runs : Relay.run serde {} es = some relay) :
    ∀ client ∈ relay.clients, client.Tidy :=
  Machine.run_invariant (fun s e t before _ now => tidy_of_step before (step_of_step now))
    (fun _ mem => by cases mem) (fun _ _ => trivial) runs

/-- The relay takes only finitely many steps by itself; they bring it to a state in which it can take no more, and
there all the work is done. -/
theorem relay_comes_to_rest (serde : Serde) :
    (WellFounded fun relay' relay : Relay =>
      ∃ action : Action, action.Internal ∧ relay.step serde action = some relay') ∧
    ∀ {es : List Action} {relay : Relay}, Relay.run serde {} es = some relay →
      (∃ fs rest, (∀ action ∈ fs, action.Internal) ∧ Relay.run serde relay fs = some rest ∧ rest.Quiet serde) ∧
      (relay.Quiet serde → ∀ client ∈ relay.clients, client.Idle) :=
  ⟨internal_wellFounded serde, fun runs => ⟨Machine.exists_quiet_run (internal_wellFounded serde) _,
    idle_of_quiet (tidy_of_run runs)⟩⟩

/-! ## What has come through at rest -/

/-- Some client sent the event in a text. -/
def Published (serde : Serde) (es : List Action) (event : NostrEvent) : Prop :=
  ∃ index text, Action.client index (.receive text) ∈ es ∧ request serde text = some (.event event)

/-- Every event that was received is stored or about to be. -/
def StoresPublished (serde : Serde) (es : List Action) (relay : Relay) : Prop :=
  ∀ event, Published serde es event →
    event ∈ relay.events ∨ ∃ client ∈ relay.clients, client.handling = .storing event

theorem StoresPublished.step {es : List Action} {action : Action} (before : StoresPublished serde es relay)
    (now : Step serde relay action relay') : StoresPublished serde (es ++ [action]) relay' := by
  intro event published
  by_cases old : Published serde es event
  · rcases before event old with mem | storing
    · cases now with
      | connect | announce | client => exact .inl mem
      | store => exact .inl (List.mem_append_left _ mem)
    · cases now with
      | connect =>
        obtain ⟨client, mem, phase⟩ := storing
        exact .inr ⟨client, List.mem_append_left _ mem, phase⟩
      | @store index client event' found phase free =>
        by_cases same : event = event'
        · exact .inl (by simp [same])
        · refine .inr (handling_set found (fun own => ?_) storing)
          cases phase.symm.trans own
          exact absurd rfl same
      | @announce index client event' found phase =>
        obtain ⟨other, mem, own⟩ := @handling_set client (client.setHandling (.acknowledging event'.id))
          relay.clients index _ found (fun own => by cases phase.symm.trans own) storing
        exact .inr ⟨_, List.mem_map_of_mem mem, enqueue_handling.trans own⟩
      | client found own =>
        exact .inr (handling_set found (fun phase => (handling_of_event own (.inl phase)).trans phase) storing)
  · obtain ⟨index, text, mem, read⟩ := published
    rcases List.mem_append.mp mem with mem | mem
    · exact absurd ⟨index, text, mem, read⟩ old
    · obtain rfl := List.mem_singleton.mp mem
      cases now with
      | client found own =>
        cases own with
        | receive idle read' =>
          cases Option.some.inj (read'.symm.trans read)
          exact .inr ⟨_, mem_set_self found, rfl⟩
        | ignore idle read' => cases read'.symm.trans read

theorem stored_of_published {es : List Action} (runs : Relay.run serde {} es = some relay) :
    StoresPublished serde es relay :=
  Machine.history_invariant (fun _ _ _ _ before now => before.step (step_of_step now))
    (fun _ ⟨_, _, mem, _⟩ => by cases mem) runs

/-- At rest a served client was sent every event that was published and that its subscriptions match. -/
theorem delivered_at_rest {es : List Action} (runs : Relay.run serde {} es = some relay) (quiet : relay.Quiet serde)
    (mem : client ∈ relay.clients) (served : client.Served) (opened : client.subscriptions.lookup subId = some sub)
    (published : Published serde es event) (wanted : sub.matches event) : .event subId event ∈ client.sent := by
  have idle := idle_of_quiet (tidy_of_run runs) quiet
  have stored : event ∈ relay.events := by
    refine (stored_of_published runs event published).resolve_right ?_
    rintro ⟨other, listed, phase⟩
    rcases (idle other listed).handling with rest | rest <;> cases phase.symm.trans rest
  have own := idle client mem
  obtain log | (queued | phase | ⟨rest, phase, -⟩) | ⟨other, listed, phase⟩ :=
    (complete_of_run runs client mem).feed served subId sub opened event stored wanted
  · rw [Client.log, own.outgoing, List.append_nil] at log
    exact log
  · rw [own.queue] at queued
    cases queued
  · rcases own.feed with rest | rest <;> cases phase.symm.trans rest
  · rcases own.feed with rest | rest <;> cases phase.symm.trans rest
  · rcases (idle other listed).handling with rest | rest <;> cases phase.symm.trans rest

/-! ## The client that hears itself, at rest -/

def sampleRest : List Action :=
  sampleActions ++ [.client 0 .handle, .client 0 .follow, .client 0 .follow, .client 0 .follow, .client 0 .follow,
    .client 0 .transmit, .client 0 .transmit, .client 0 .transmit]

def restingRelay : Relay := (Relay.run sampleSerde {} sampleRest).getD {}

theorem restingRelay_run : Relay.run sampleSerde {} sampleRest = some restingRelay :=
  eq_some_getD (by decide +kernel) _

theorem restingRelay_first : restingRelay.clients[0]? = some restingRelay.first :=
  eq_some_getD (by decide +kernel) _

theorem restingRelay_quiet : restingRelay.Quiet sampleSerde := by
  intro action internal
  have none_of {found : Option Relay} (none' : found.isNone) : found = none := Option.isNone_iff_eq_none.mp none'
  cases action with
  | connect => cases internal
  | client index own =>
    cases index with
    | zero =>
      cases own with
      | handle | follow | transmit => exact none_of (by decide +kernel)
      | receive | fail | disconnect => cases internal
    | succ index =>
      have alone : restingRelay.clients.length = 1 := by decide +kernel
      have absent : restingRelay.clients[index + 1]? = none := List.getElem?_eq_none_iff.mpr (by omega)
      simp only [Relay.step, absent]

theorem restingRelay_idle : restingRelay.first.Idle :=
  ((relay_comes_to_rest sampleSerde).2 restingRelay_run).2 restingRelay_quiet _
    (List.mem_of_getElem? restingRelay_first)

theorem sampleEvent_delivered : Message.event "s" sampleEvent ∈ restingRelay.first.sent :=
  @delivered_at_rest sampleSerde _ _ _ sampleSubscription _ _ restingRelay_run restingRelay_quiet
    (List.mem_of_getElem? restingRelay_first) ⟨by decide +kernel, by decide +kernel⟩ (by decide +kernel)
    ⟨0, samplePublish, by simp [sampleRest, sampleActions], request_samples.2.1⟩ (by decide +kernel)

end NostrVpn.NostrRelay
