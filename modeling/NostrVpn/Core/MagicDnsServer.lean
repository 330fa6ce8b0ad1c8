import NostrVpn.Core.MagicDnsRecords

/-!
# MagicDNS responses

`build_dns_response` of `magic_dns.rs`: the loop over the questions of a message. The wire format of DNS and the
text of a name are those of the DNS library and are parameters.
-/
namespace NostrVpn.Core

open Rust Rust.Net

namespace MagicDns

/-- The record types are their codes, of which the server knows one. -/
def recordTypeA : Nat := 1

def dnsTtlSecs : Nat := 30

structure Query (Name : Type) where
  name : Name
  queryType : Nat
  queryClass : Nat
  deriving DecidableEq, Repr

inductive MessageType where
  | Query | Response
  deriving DecidableEq, Repr

inductive OpCode where
  | Query | Other (code : Nat)
  deriving DecidableEq, Repr

inductive ResponseCode where
  | NoError | NXDomain
  deriving DecidableEq, Repr

structure ARecord (Name : Type) where
  name : Name
  ttl : Nat
  address : Ipv4Addr
  deriving DecidableEq, Repr

/-- The parts of a message that the server reads or writes. -/
structure Message (Name : Type) where
  id : UInt16
  messageType : MessageType
  opCode : OpCode
  recursionDesired : Bool
  recursionAvailable : Bool
  authoritative : Bool
  responseCode : ResponseCode
  queries : List (Query Name)
  answers : List (ARecord Name)
  deriving DecidableEq, Repr

/-- The DNS library: the wire format of messages, and the text of a name. -/
structure DnsCodec (Name : Type) where
  fromVec : List UInt8 → Option (Message Name)
  emit : Message Name → Option (List UInt8)
  toUtf8 : Name → String

variable {Name : Type} (codec : DnsCodec Name)

def qname (name : Name) : String := trimEndMatches '.' (toAsciiLowercase (codec.toUtf8 name))

/-- The body of the loop over the questions, with the flag `answered`. -/
def answerQuery (records : HashMap String Ipv4Addr) (acc : Message Name × Bool) (query : Query Name) :
    Message Name × Bool :=
  let (response, answered) := acc
  let response := { response with queries := response.queries ++ [query] }
  if query.queryType ≠ recordTypeA then (response, answered)
  else if qname codec query.name = "" then (response, answered)
  else match records.lookup (qname codec query.name) with
    | none => (response, answered)
    | some ip =>
      ({ response with answers := response.answers ++ [⟨query.name, dnsTtlSecs, ip⟩] }, true)

def dnsResponse (message : Message Name) (records : HashMap String Ipv4Addr) : Message Name :=
  let response : Message Name :=
    { id := message.id
      messageType := .Response
      opCode := .Query
      recursionDesired := message.recursionDesired
      recursionAvailable := false
      authoritative := true
      responseCode := .NoError
      queries := []
      answers := [] }
  let (response, answered) := message.queries.foldl (answerQuery codec records) (response, false)
  { response with responseCode := if answered then .NoError else .NXDomain }

def buildDnsResponse (request : List UInt8) (records : HashMap String Ipv4Addr) : Option (List UInt8) :=
  (codec.fromVec request).bind fun message => codec.emit (dnsResponse codec message records)

/-! ## What a response holds -/

/-- The record of a question that the loop answers. -/
def answer (records : HashMap String Ipv4Addr) (query : Query Name) : Option (ARecord Name) :=
  if query.queryType = recordTypeA ∧ qname codec query.name ≠ "" then
    (records.lookup (qname codec query.name)).map fun ip => ⟨query.name, dnsTtlSecs, ip⟩
  else none

/-- The record that an address question about a name of the table should get. -/
def expectedAnswer (records : HashMap String Ipv4Addr) (query : Query Name) : Option (ARecord Name) :=
  if query.queryType = recordTypeA then
    (records.lookup (qname codec query.name)).map fun ip => ⟨query.name, dnsTtlSecs, ip⟩
  else none

/-- A response to a message as the table demands it. -/
structure Answers (message : Message Name) (records : HashMap String Ipv4Addr) (response : Message Name) :
    Prop where
  id : response.id = message.id
  queries : response.queries = message.queries
  answers : response.answers = message.queries.filterMap (expectedAnswer codec records)
  nxDomain : response.responseCode = .NXDomain →
    ∃ query ∈ message.queries, records.lookup (qname codec query.name) = none

section Loop
variable {codec} {records : HashMap String Ipv4Addr}

theorem answerQuery_eq (response : Message Name) (answered : Bool) (query : Query Name) :
    answerQuery codec records (response, answered) query =
      ({ response with
          queries := response.queries ++ [query]
          answers := response.answers ++ (answer codec records query).toList },
        answered || (answer codec records query).isSome) := by
  unfold answerQuery answer
  dsimp only
  by_cases address : query.queryType = recordTypeA
  · by_cases root : qname codec query.name = ""
    · simp [address, root]
    · cases records.lookup (qname codec query.name) <;> simp [address, root]
  · simp [address]

/-- The loop echoes the questions and adds the records of those that it answers. -/
theorem foldl_answerQuery (queries : List (Query Name)) (response : Message Name) (answered : Bool) :
    queries.foldl (answerQuery codec records) (response, answered) =
      ({ response with
          queries := response.queries ++ queries
          answers := response.answers ++ queries.filterMap (answer codec records) },
        answered || queries.any fun query => (answer codec records query).isSome) := by
  induction queries generalizing response answered with
  | nil => simp
  | cons query rest ih =>
    rw [List.foldl_cons, answerQuery_eq, ih]
    cases found : answer codec records query <;> simp [found]

/-- Two partial maps of which one only leaves elements out agree on a list when they agree on its elements. -/
theorem filterMap_eq_iff {α β : Type} {f g : α → Option β} {l : List α} (less : ∀ a ∈ l, f a = none ∨ f a = g a) :
    l.filterMap f = l.filterMap g ↔ ∀ a ∈ l, f a = g a := by
  refine ⟨fun same => ?_, List.filterMap_congr⟩
  have shorter (l : List α) (less : ∀ a ∈ l, f a = none ∨ f a = g a) :
      (l.filterMap f).length ≤ (l.filterMap g).length := by
    induction l with
    | nil => simp
    | cons a l ih =>
      have rest := ih fun b mem => less b (List.mem_cons_of_mem _ mem)
      rcases less a (by simp) with none' | eq
      · rw [List.filterMap_cons_none none', List.filterMap_cons]
        cases g a with
        | none => exact rest
        | some b => exact rest.trans (Nat.le_succ _)
      · rw [List.filterMap_cons, List.filterMap_cons, eq]
        cases g a with
        | none => exact rest
        | some b => simpa using rest
  induction l with
  | nil => simp
  | cons a l ih =>
    have less' : ∀ b ∈ l, f b = none ∨ f b = g b := fun b mem => less b (List.mem_cons_of_mem _ mem)
    rw [List.filterMap_cons, List.filterMap_cons] at same
    rcases less a (by simp) with none' | eq
    · rw [none'] at same
      cases found : g a with
      | none =>
        rw [found] at same
        exact List.forall_mem_cons.mpr ⟨none'.trans found.symm, ih less' same⟩
      | some b =>
        rw [found] at same
        dsimp only at same
        have longer := congrArg List.length same
        rw [List.length_cons] at longer
        have := shorter l less'
        omega
    · rw [eq] at same
      refine List.forall_mem_cons.mpr ⟨eq, ih less' ?_⟩
      cases found : g a <;> simp_all

/-- The records of the response are those that the questions should get exactly when none of them is about an
empty name of the table. -/
theorem answers_eq_iff (queries : List (Query Name)) :
    queries.filterMap (answer codec records) = queries.filterMap (expectedAnswer codec records) ↔
      ∀ query ∈ queries, query.queryType = recordTypeA → qname codec query.name = "" →
        records.lookup "" = none := by
  have skips (query : Query Name) : answer codec records query = none ∨
      answer codec records query = expectedAnswer codec records query := by
    unfold answer expectedAnswer
    grind
  rw [filterMap_eq_iff fun query _ => skips query]
  refine forall₂_congr fun query _ => ?_
  unfold answer expectedAnswer
  by_cases address : query.queryType = recordTypeA
  · by_cases root : qname codec query.name = ""
    · rw [if_neg fun asked => asked.2 root, if_pos address, root, @eq_comm _ none, Option.map_eq_none_iff]
      simp [address]
    · simp [address, root]
  · simp [address]

/-- A response answers as the table demands exactly when the message does not ask for the address of an empty
name of the table, and asks for an address in the table or about a name that the table does not have. -/
theorem dns_response_answers_iff (codec : DnsCodec Name) (message : Message Name)
    (records : HashMap String Ipv4Addr) :
    Answers codec message records (dnsResponse codec message records) ↔
      (∀ query ∈ message.queries, query.queryType = recordTypeA → qname codec query.name = "" →
        records.lookup "" = none) ∧
      ((∃ query ∈ message.queries, query.queryType = recordTypeA ∧ qname codec query.name ≠ "" ∧
          records.lookup (qname codec query.name) ≠ none) ∨
        ∃ query ∈ message.queries, records.lookup (qname codec query.name) = none) := by
  have answered : (message.queries.any fun query => (answer codec records query).isSome) = true ↔
      ∃ query ∈ message.queries, query.queryType = recordTypeA ∧ qname codec query.name ≠ "" ∧
        records.lookup (qname codec query.name) ≠ none := by
    rw [List.any_eq_true]
    refine exists_congr fun query => and_congr_right fun _ => ?_
    unfold answer
    split_ifs with asked
    · rw [Option.isSome_map, Option.isSome_iff_ne_none]
      exact ⟨fun found => ⟨asked.1, asked.2, found⟩, fun asked => asked.2.2⟩
    · exact iff_of_false (by simp) fun asked' => asked ⟨asked'.1, asked'.2.1⟩
  rw [dnsResponse, foldl_answerQuery]
  simp only [List.nil_append, Bool.false_or]
  constructor
  · rintro ⟨-, -, answers, nxDomain⟩
    refine ⟨(answers_eq_iff _).mp answers, or_iff_not_imp_left.mpr fun unanswered => nxDomain ?_⟩
    exact if_neg (answered.not.mpr unanswered)
  · rintro ⟨named, known⟩
    refine ⟨rfl, rfl, (answers_eq_iff _).mpr named, fun nxDomain => known.resolve_left fun asked => ?_⟩
    rw [if_pos (answered.mpr asked)] at nxDomain
    cases nxDomain

end Loop

/-- Names as their own text. -/
def textCodec : DnsCodec String where
  fromVec _ := none
  emit _ := none
  toUtf8 := id

/-- A question for the IPv6 address of a name. -/
def ipv6Question : Message String where
  id := 7
  messageType := .Query
  opCode := .Query
  recursionDesired := true
  recursionAvailable := false
  authoritative := false
  responseCode := .NoError
  queries := [⟨"Alice.nvpn.", 28, 1⟩]
  answers := []

/-- The name is in the table, and the response says that it does not exist. -/
theorem ipv6_question_is_denied :
    ¬ Answers textCodec ipv6Question ((∅ : HashMap String Ipv4Addr).insert "alice.nvpn" (.ofOctets 10 44 0 2))
      (dnsResponse textCodec ipv6Question
        ((∅ : HashMap String Ipv4Addr).insert "alice.nvpn" (.ofOctets 10 44 0 2))) := by
  rintro ⟨-, -, -, nxDomain⟩
  obtain ⟨query, mem, absent⟩ := nxDomain (by decide +kernel)
  obtain rfl : query = ⟨"Alice.nvpn.", 28, 1⟩ := by simpa [ipv6Question] using mem
  exact absurd absent (by decide +kernel)

end MagicDns

end NostrVpn.Core
