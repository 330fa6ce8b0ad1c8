import Mathlib.Tactic.Simps.Basic
import NostrVpn.Machine
import NostrVpn.Rust.HashMap

/-!
# The Nostr relay

`nostr-vpn-relay/src/main.rs`: the relay keeps every event it is sent, replays the stored events that match a new
subscription and follows up with the events that come in. Every client is served by three tasks, and a step of
any task of any client is one step of the relay. A task that awaits a lock or a full channel has no step.
-/
namespace NostrVpn.NostrRelay

open Rust

/-! ## Events and filters -/

structure NostrEvent where
  id : String
  pubkey : String
  createdAt : ℕ
  kind : ℕ
  tags : List (List String)
  content : String
  sig : String
deriving DecidableEq

structure NostrFilter where
  ids : Option (List String) := none
  authors : Option (List String) := none
  kinds : Option (List ℕ) := none
  pTags : Option (List String) := none
  tTags : Option (List String) := none
  dTags : Option (List String) := none
  since : Option ℕ := none
deriving DecidableEq

/-- Some tag of this name has one of the values. -/
def NostrEvent.hasTag (event : NostrEvent) (name : String) (values : List String) : Bool :=
  event.tags.any fun
    | first :: value :: _ => first == name && values.contains value
    | _ => false

def NostrFilter.matches (self : NostrFilter) (event : NostrEvent) : Bool :=
  (self.ids.all fun ids => ids.contains event.id) &&
  (self.authors.all fun authors => authors.contains event.pubkey) &&
  (self.kinds.all fun kinds => kinds.contains event.kind) &&
  (self.pTags.all fun pTags => event.hasTag "p" pTags) &&
  (self.tTags.all fun tTags => event.hasTag "t" tTags) &&
  (self.dTags.all fun dTags => event.hasTag "d" dTags) &&
  (self.since.all fun since => !(event.createdAt < since))

structure Subscription where
  filters : List NostrFilter
deriving DecidableEq

def Subscription.matches (sub : Subscription) (event : NostrEvent) : Bool :=
  sub.filters.any fun filter => filter.matches event

/-! ## Requests and messages -/

/-- What `serde_json` reads a text as. -/
structure Serde where
  Value : Type
  values : String → Option (List Value)
  asStr : Value → Option String
  event : Value → Option NostrEvent
  filter : Value → Option NostrFilter

inductive Request where
  | event (event : NostrEvent)
  | req (subId : String) (filters : List NostrFilter)
  | close (subId : String)
deriving DecidableEq

/-- What a client asks for with a text. A filter that cannot be read is left out. -/
def request (serde : Serde) (text : String) : Option Request :=
  match serde.values text with
  | none | some [] => none
  | some (command :: arguments) =>
    let command := (serde.asStr command).getD ""
    if command = "EVENT" then arguments.head?.bind fun event => (serde.event event).map .event
    else if command = "REQ" then
      match arguments with
      | subId :: first :: rest => some (.req ((serde.asStr subId).getD "") ((first :: rest).filterMap serde.filter))
      | _ => none
    else if command = "CLOSE" then arguments.head?.bind fun subId => (serde.asStr subId).map .close
    else none

inductive Message where
  | event (subId : String) (event : NostrEvent)
  | eose (subId : String)
  | ok (eventId : String)
deriving DecidableEq

/-! ## The tasks of a client -/

/-- Where the loop over the texts of a client is. It holds the read lock on the stored events from the replay to
the insertion of the subscription. -/
inductive Handling where
  | waiting
  | storing (event : NostrEvent)
  | announcing (event : NostrEvent)
  | acknowledging (eventId : String)
  | requesting (subId : String) (sub : Subscription)
  | replaying (subId : String) (sub : Subscription) (rest : List NostrEvent)
  | subscribing (subId : String) (sub : Subscription)
  | closing (subId : String)
  | gone
deriving DecidableEq

/-- Where the task that follows the broadcast is. It holds the read lock on the subscriptions while it delivers. -/
inductive Feed where
  | receiving
  | received (event : NostrEvent)
  | delivering (event : NostrEvent) (rest : List (String × Subscription))
  | ended
deriving DecidableEq

/-- A client: its tasks, its subscriptions, what its receiver of the broadcast has not received, what waits in the
channel to its socket and what was taken from there. -/
structure Client where
  handling : Handling := .waiting
  feed : Feed := .receiving
  subscriptions : HashMap String Subscription := ∅
  queue : List NostrEvent := []
  outgoing : List Message := []
  sent : List Message := []
  sending : Bool := true

def broadcastCapacity : ℕ := 2048
def outgoingCapacity : ℕ := 1024

def Request.handling : Request → Handling
  | .event published => .storing published
  | .req subId filters => .requesting subId ⟨filters⟩
  | .close subId => .closing subId

/-- The loop holds the read lock on the stored events. -/
def Handling.reads : Handling → Bool
  | .replaying .. | .subscribing .. => true
  | _ => false

/-- The task holds the read lock on the subscriptions. -/
def Feed.reads : Feed → Bool
  | .delivering .. => true
  | _ => false

inductive ClientAction where
  | receive (text : String)
  | handle
  | follow
  | transmit
  | fail
  | disconnect

namespace Client

@[simps]
def setHandling (client : Client) (handling : Handling) : Client := { client with handling := handling }

@[simps]
def setFeed (client : Client) (feed : Feed) : Client := { client with feed := feed }

/-- `tx.send` does not wait: there is room in the channel, or the task that takes from it has ended. -/
def hasRoom (client : Client) : Bool := !client.sending || client.outgoing.length < outgoingCapacity

def push (client : Client) (message : Message) : Client :=
  if client.sending then { client with outgoing := client.outgoing ++ [message] } else client

def send (client : Client) (message : Message) : Option Client :=
  if client.hasRoom then some (client.push message) else none

/-- A step of the loop that leaves the stored events as they are. -/
def handle (client : Client) (events : List NostrEvent) : Option Client :=
  match client.handling with
  | .acknowledging eventId => (client.send (.ok eventId)).map fun client => client.setHandling .waiting
  | .requesting subId sub => some (client.setHandling (.replaying subId sub events))
  | .replaying subId sub (event :: rest) =>
    if sub.matches event then
      (client.send (.event subId event)).map fun client => client.setHandling (.replaying subId sub rest)
    else some (client.setHandling (.replaying subId sub rest))
  | .replaying subId sub [] =>
    (client.send (.eose subId)).map fun client => client.setHandling (.subscribing subId sub)
  | .subscribing subId sub =>
    if client.feed.reads then none
    else some { client with handling := .waiting, subscriptions := client.subscriptions.insert subId sub }
  | .closing subId =>
    if client.feed.reads then none
    else some { client with handling := .waiting, subscriptions := client.subscriptions.erase subId }
  | .waiting | .storing _ | .announcing _ | .gone => none

/-- A step of the task that follows the broadcast. It ends when its receiver lags behind. -/
def follow (client : Client) : Option Client :=
  match client.feed, client.queue with
  | .receiving, event :: rest =>
    if broadcastCapacity < client.queue.length then some { client with feed := .ended, queue := [] }
    else some { client with feed := .received event, queue := rest }
  | .received event, _ => some (client.setFeed (.delivering event client.subscriptions.toList))
  | .delivering event ((subId, sub) :: rest), _ =>
    if sub.matches event then
      (client.send (.event subId event)).map fun client => client.setFeed (.delivering event rest)
    else some (client.setFeed (.delivering event rest))
  | .delivering _ [], _ => some (client.setFeed .receiving)
  | .receiving, [] | .ended, _ => none

def transmit (client : Client) : Option Client :=
  match client.sending, client.outgoing with
  | true, message :: rest => some { client with outgoing := rest, sent := client.sent ++ [message] }
  | _, _ => none

/-- The end of the task that sends: the channel and what is in it are dropped. -/
def fail (client : Client) : Option Client :=
  if client.sending then some { client with sending := false, outgoing := [] } else none

/-- The end of the loop, which ends the other tasks. -/
def disconnect (client : Client) : Client :=
  { client with handling := .gone, feed := .ended, subscriptions := ∅, queue := [], outgoing := [], sending := false }

/-- A step of a client that leaves the stored events as they are. -/
def step (serde : Serde) (events : List NostrEvent) (client : Client) : ClientAction → Option Client
  | .receive text =>
    if client.handling ≠ .waiting then none
    else match request serde text with
      | some request => some (client.setHandling request.handling)
      | none => some client
  | .handle => client.handle events
  | .follow => client.follow
  | .transmit => client.transmit
  | .fail => client.fail
  | .disconnect => if client.handling = .waiting then some client.disconnect else none

/-- The broadcast reaches every receiver that is still there. -/
def enqueue (event : NostrEvent) (client : Client) : Client :=
  match client.feed with
  | .ended => client
  | _ => { client with queue := client.queue ++ [event] }

end Client

/-! ## The relay -/

structure Relay where
  events : List NostrEvent := []
  clients : List Client := []

inductive Action where
  | connect
  | client (index : ℕ) (action : ClientAction)

namespace Relay

/-- A step of the relay. The stored events are written when no client reads them, and announced in another step. -/
def step (serde : Serde) (relay : Relay) : Action → Option Relay
  | .connect => some { relay with clients := relay.clients ++ [{}] }
  | .client index action =>
    match relay.clients[index]?, action with
    | none, _ => none
    | some client, .handle =>
      match client.handling with
      | .storing event =>
        if relay.clients.any fun client => client.handling.reads then none
        else some ⟨relay.events ++ [event], relay.clients.set index (client.setHandling (.announcing event))⟩
      | .announcing event =>
        some { relay with clients :=
          (relay.clients.set index (client.setHandling (.acknowledging event.id))).map (Client.enqueue event) }
      | _ => (client.handle relay.events).map fun client => { relay with clients := relay.clients.set index client }
    | some client, action =>
      (client.step serde relay.events action).map fun client =>
        { relay with clients := relay.clients.set index client }

abbrev run (serde : Serde) : Relay → List Action → Option Relay := Machine.run (step serde)

end Relay

/-! ## What a step does -/

section Push
variable (client : Client) (message : Message)

@[simp] theorem push_handling : (client.push message).handling = client.handling := by
  unfold Client.push
  split <;> rfl

@[simp] theorem push_feed : (client.push message).feed = client.feed := by
  unfold Client.push
  split <;> rfl

@[simp] theorem push_subscriptions : (client.push message).subscriptions = client.subscriptions := by
  unfold Client.push
  split <;> rfl

@[simp] theorem push_queue : (client.push message).queue = client.queue := by
  unfold Client.push
  split <;> rfl

@[simp] theorem push_sent : (client.push message).sent = client.sent := by
  unfold Client.push
  split <;> rfl

@[simp] theorem push_sending : (client.push message).sending = client.sending := by
  unfold Client.push
  split <;> rfl

theorem push_outgoing : (client.push message).outgoing =
    if client.sending then client.outgoing ++ [message] else client.outgoing := by
  unfold Client.push
  split <;> rfl

end Push

/-- What a step of a client that leaves the stored events as they are can do. -/
inductive ClientStep (serde : Serde) (events : List NostrEvent) (client : Client) : ClientAction → Client → Prop
  | receive {text asked} (idle : client.handling = .waiting) (read : request serde text = some asked) :
      ClientStep serde events client (.receive text) (client.setHandling asked.handling)
  | ignore {text} (idle : client.handling = .waiting) (read : request serde text = none) :
      ClientStep serde events client (.receive text) client
  | acknowledge {eventId} (phase : client.handling = .acknowledging eventId) (room : client.hasRoom) :
      ClientStep serde events client .handle ((client.push (.ok eventId)).setHandling .waiting)
  | lock {subId sub} (phase : client.handling = .requesting subId sub) :
      ClientStep serde events client .handle (client.setHandling (.replaying subId sub events))
  | replay {subId sub event rest} (phase : client.handling = .replaying subId sub (event :: rest))
      (found : sub.matches event) (room : client.hasRoom) : ClientStep serde events client .handle
        ((client.push (.event subId event)).setHandling (.replaying subId sub rest))
  | skip {subId sub event rest} (phase : client.handling = .replaying subId sub (event :: rest))
      (other : sub.matches event = false) :
      ClientStep serde events client .handle (client.setHandling (.replaying subId sub rest))
  | finish {subId sub} (phase : client.handling = .replaying subId sub []) (room : client.hasRoom) :
      ClientStep serde events client .handle ((client.push (.eose subId)).setHandling (.subscribing subId sub))
  | subscribe {subId sub} (phase : client.handling = .subscribing subId sub) (free : client.feed.reads = false) :
      ClientStep serde events client .handle
        { client with handling := .waiting, subscriptions := client.subscriptions.insert subId sub }
  | close {subId} (phase : client.handling = .closing subId) (free : client.feed.reads = false) :
      ClientStep serde events client .handle
        { client with handling := .waiting, subscriptions := client.subscriptions.erase subId }
  | lag {event rest} (phase : client.feed = .receiving) (queued : client.queue = event :: rest)
      (lags : broadcastCapacity < client.queue.length) :
      ClientStep serde events client .follow { client with feed := .ended, queue := [] }
  | take {event rest} (phase : client.feed = .receiving) (queued : client.queue = event :: rest)
      (fits : client.queue.length ≤ broadcastCapacity) :
      ClientStep serde events client .follow { client with feed := .received event, queue := rest }
  | open {event} (phase : client.feed = .received event) : ClientStep serde events client .follow
      (client.setFeed (.delivering event client.subscriptions.toList))
  | deliver {event subId sub rest} (phase : client.feed = .delivering event ((subId, sub) :: rest))
      (found : sub.matches event) (room : client.hasRoom) : ClientStep serde events client .follow
        ((client.push (.event subId event)).setFeed (.delivering event rest))
  | pass {event subId sub rest} (phase : client.feed = .delivering event ((subId, sub) :: rest))
      (other : sub.matches event = false) :
      ClientStep serde events client .follow (client.setFeed (.delivering event rest))
  | done {event} (phase : client.feed = .delivering event []) :
      ClientStep serde events client .follow (client.setFeed .receiving)
  | transmit {message rest} (sends : client.sending) (queued : client.outgoing = message :: rest) :
      ClientStep serde events client .transmit { client with outgoing := rest, sent := client.sent ++ [message] }
  | fail (sends : client.sending) :
      ClientStep serde events client .fail { client with sending := false, outgoing := [] }
  | disconnect (idle : client.handling = .waiting) : ClientStep serde events client .disconnect client.disconnect

section Steps
variable {serde : Serde} {events : List NostrEvent} {client client' : Client} {relay relay' : Relay}

theorem send_eq_some {message : Message} :
    client.send message = some client' ↔ client.hasRoom ∧ client' = client.push message := by
  rw [Client.send]
  split_ifs with room
  · simp [room, eq_comm]
  · simp [room]

theorem clientStep_of_handle (now : client.handle events = some client') :
    ClientStep serde events client .handle client' := by
  unfold Client.handle at now
  split at now
  case h_1 eventId phase =>
    obtain ⟨_, sent, rfl⟩ := Option.map_eq_some_iff.mp now
    obtain ⟨room, rfl⟩ := send_eq_some.mp sent
    exact .acknowledge phase room
  case h_2 subId sub phase => exact Option.some.inj now ▸ .lock phase
  case h_3 subId sub event rest phase =>
    split_ifs at now with found
    · obtain ⟨_, sent, rfl⟩ := Option.map_eq_some_iff.mp now
      obtain ⟨room, rfl⟩ := send_eq_some.mp sent
      exact .replay phase found room
    · exact Option.some.inj now ▸ .skip phase (Bool.not_eq_true _ ▸ found)
  case h_4 subId sub phase =>
    obtain ⟨_, sent, rfl⟩ := Option.map_eq_some_iff.mp now
    obtain ⟨room, rfl⟩ := send_eq_some.mp sent
    exact .finish phase room
  case h_5 subId sub phase =>
    split_ifs at now with free
    exact Option.some.inj now ▸ .subscribe phase (Bool.not_eq_true _ ▸ free)
  case h_6 subId phase =>
    split_ifs at now with free
    exact Option.some.inj now ▸ .close phase (Bool.not_eq_true _ ▸ free)
  all_goals cases now

theorem clientStep_of_follow (now : client.follow = some client') :
    ClientStep serde events client .follow client' := by
  unfold Client.follow at now
  split at now
  case h_1 event rest phase queued =>
    split_ifs at now with lags
    · exact Option.some.inj now ▸ .lag phase queued lags
    · exact Option.some.inj now ▸ .take phase queued (Nat.not_lt.mp lags)
  case h_2 event _ phase => exact Option.some.inj now ▸ .open phase
  case h_3 event subId sub rest _ phase =>
    split_ifs at now with found
    · obtain ⟨_, sent, rfl⟩ := Option.map_eq_some_iff.mp now
      obtain ⟨room, rfl⟩ := send_eq_some.mp sent
      exact .deliver phase found room
    · exact Option.some.inj now ▸ .pass phase (Bool.not_eq_true _ ▸ found)
  case h_4 event _ phase => exact Option.some.inj now ▸ .done phase
  all_goals cases now

theorem clientStep_of_step {action : ClientAction} (now : client.step serde events action = some client') :
    ClientStep serde events client action client' := by
  cases action with
  | receive text =>
    simp only [Client.step] at now
    split_ifs at now with busy
    have idle := not_not.mp busy
    cases read : request serde text with
    | none => exact Option.some.inj (read ▸ now) ▸ .ignore idle read
    | some asked => exact Option.some.inj (read ▸ now) ▸ .receive idle read
  | handle => exact clientStep_of_handle now
  | follow => exact clientStep_of_follow now
  | transmit =>
    simp only [Client.step, Client.transmit] at now
    split at now
    case h_1 message rest sends queued => exact Option.some.inj now ▸ .transmit sends queued
    case h_2 => cases now
  | fail =>
    simp only [Client.step, Client.fail] at now
    split_ifs at now with sends
    exact Option.some.inj now ▸ .fail sends
  | disconnect =>
    simp only [Client.step] at now
    split_ifs at now with idle
    exact Option.some.inj now ▸ .disconnect idle

/-- What a step of the relay can do. -/
inductive Step (serde : Serde) (relay : Relay) : Action → Relay → Prop
  | connect : Step serde relay .connect { relay with clients := relay.clients ++ [{}] }
  | store {index client event} (found : relay.clients[index]? = some client)
      (phase : client.handling = .storing event) (free : ∀ other ∈ relay.clients, other.handling.reads = false) :
      Step serde relay (.client index .handle)
        ⟨relay.events ++ [event], relay.clients.set index (client.setHandling (.announcing event))⟩
  | announce {index client event} (found : relay.clients[index]? = some client)
      (phase : client.handling = .announcing event) : Step serde relay (.client index .handle)
        { relay with clients :=
          (relay.clients.set index (client.setHandling (.acknowledging event.id))).map (Client.enqueue event) }
  | client {index client action client'} (found : relay.clients[index]? = some client)
      (own : ClientStep serde relay.events client action client') :
      Step serde relay (.client index action) { relay with clients := relay.clients.set index client' }

theorem step_of_step {action : Action} (now : relay.step serde action = some relay') :
    Step serde relay action relay' := by
  cases action with
  | connect => exact Option.some.inj now ▸ .connect
  | client index action =>
    simp only [Relay.step] at now
    split at now
    case h_1 => cases now
    case h_2 client found =>
      split at now
      case h_1 event phase =>
        split_ifs at now with busy
        refine Option.some.inj now ▸ .store found phase fun other mem => ?_
        simp only [List.any_eq_true, not_exists, not_and, Bool.not_eq_true] at busy
        exact busy other mem
      case h_2 event phase => exact Option.some.inj now ▸ .announce found phase
      case h_3 =>
        obtain ⟨_, own, rfl⟩ := Option.map_eq_some_iff.mp now
        exact .client found (clientStep_of_handle own)
    case h_3 client found _ =>
      obtain ⟨_, own, rfl⟩ := Option.map_eq_some_iff.mp now
      exact .client found (clientStep_of_step own)

end Steps

end NostrVpn.NostrRelay
