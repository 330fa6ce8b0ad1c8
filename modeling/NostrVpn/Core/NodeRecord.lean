import NostrVpn.Rust.HashMap

/-!
# Public node records

`nostr-vpn-core/src/node_record.rs`: the records of public service operators and the loop that collects
them. The parser of `serde_json` is an argument; what the client hears until the deadline is a list.
-/
namespace NostrVpn.Core

open Rust

inductive NodeRecordMode where
  | Private | PublicPeer | PublicService
  deriving DecidableEq, Repr

inductive NodeServiceKind where
  | Relay | NatAssist | Exit
  deriving DecidableEq, Repr

structure NodeService where
  kind : NodeServiceKind
  endpoint : String
  protocol : Option String := none
  priceHintMsats : Option Nat := none
  deriving DecidableEq, Repr

structure NodeRecord where
  mode : NodeRecordMode
  services : List NodeService := []
  updatedAt : Nat
  expiresAt : Nat
  deriving DecidableEq, Repr

def NodeRecord.hasService (record : NodeRecord) (kind : NodeServiceKind) : Bool :=
  record.services.any fun service => service.kind == kind

def NOSTR_KIND_NOSTR_VPN_NODE_RECORD : Nat := 30078

/-- What a wait for the next notification gives: an event, with the clock read behind it, another
notification, the end of the channel, or nothing in time. -/
inductive Heard where
  | event (kind : Nat) (pubkey content : String) (now : Nat)
  | other
  | closed
  | elapsed
  deriving DecidableEq, Repr

section Discovery
variable (parse : String → Option NodeRecord)

/-- The author and the record of an event that parses and has not expired. -/
def Heard.record : Heard → Option (String × NodeRecord)
  | .event kind pubkey content now =>
    if kind ≠ NOSTR_KIND_NOSTR_VPN_NODE_RECORD then none
    else (parse content).bind fun record => if record.expiresAt ≤ now then none else some (pubkey, record)
  | _ => none

/-- The loop of `discover_node_records`. -/
def collectNodeRecords : HashMap String NodeRecord → List Heard → HashMap String NodeRecord
  | out, [] => out
  | out, .closed :: _ => out
  | out, heard :: rest =>
    match heard.record parse with
    | none => collectNodeRecords out rest
    | some (pubkey, record) => collectNodeRecords (out.insert pubkey record) rest

/-- `connect` is what becomes of adding the relays and subscribing. -/
def discoverNodeRecords (connect : Except String Unit) (heard : List Heard) :
    Except String (HashMap String NodeRecord) := do
  connect
  return collectNodeRecords parse ∅ heard

/-- The acceptable records of an author in the order of their delivery. -/
def recordsOf (author : String) (heard : List Heard) : List NodeRecord :=
  (heard.takeWhile (· ≠ .closed)).filterMap fun heard =>
    (heard.record parse).bind fun (pubkey, record) => if pubkey = author then some record else none

variable {parse} {author : String}

/-- Every author is left with the record that came last. -/
theorem lookup_collectNodeRecords (out : HashMap String NodeRecord) (heard : List Heard) :
    (collectNodeRecords parse out heard).lookup author =
      (recordsOf parse author heard).getLast?.or (out.lookup author) := by
  have skip (first : Heard) (rest : List Heard) (open' : first ≠ .closed) :
      recordsOf parse author (first :: rest) = ((first.record parse).bind fun (pubkey, record) =>
        if pubkey = author then some record else none).toList ++ recordsOf parse author rest := by
    simp only [recordsOf, List.takeWhile_cons, decide_eq_true open', if_true, List.filterMap_cons]
    cases (first.record parse).bind fun (pubkey, record) =>
      if pubkey = author then some record else none <;> rfl
  induction heard generalizing out with
  | nil => rfl
  | cons first rest ih =>
    by_cases open' : first = .closed
    · subst open'
      rfl
    · have step : collectNodeRecords parse out (first :: rest) = match first.record parse with
          | none => collectNodeRecords parse out rest
          | some (pubkey, record) => collectNodeRecords parse (out.insert pubkey record) rest := by
        cases first <;> first | rfl | exact absurd rfl open'
      rw [step, skip first rest open']
      cases accepted : first.record parse with
      | none => exact ih out
      | some entry =>
        obtain ⟨pubkey, record⟩ := entry
        rw [ih]
        by_cases same : pubkey = author
        · subst same
          cases last : (recordsOf parse pubkey rest).getLast? <;> simp [List.getLast?_cons, last]
        · simp [same, AList.lookup_insert_ne (Ne.symm same)]

end Discovery

end NostrVpn.Core
