import NostrVpn.Rust.Net
import NostrVpn.Transition

/-!
# The port mapping of a node

`nostr-vpn-cli/src/diagnostics/port_mapping.rs`: the lease of a port mapping and the status from which the
advertised endpoint is read. What the gateway answers to each protocol is part of the call. Instants are in
nanoseconds.
-/
namespace NostrVpn.Cli

open Rust Rust.Net Transition

/-! ## The runtime -/

inductive ProbeState where
  | Available | Unavailable | Unsupported | Error | Unknown
  deriving DecidableEq, Repr

structure ProbeStatus where
  state : ProbeState := .Unknown
  detail : String := ""
  deriving DecidableEq, Repr

structure PortMappingStatus where
  upnp : ProbeStatus := {}
  natPmp : ProbeStatus := {}
  pcp : ProbeStatus := {}
  activeProtocol : Option String := none
  externalEndpoint : Option String := none
  gateway : Option String := none
  goodUntil : Option Nat := none
  deriving DecidableEq, Repr

inductive PortMappingType where
  | NatPmp
  | Pcp (externalIp : IpAddr)
  deriving DecidableEq, Repr

/-- A mapping of the `crab_nat` library. -/
structure CrabPortMapping where
  mappingType : PortMappingType
  externalPort : UInt16
  expiration : Nat
  deriving DecidableEq, Repr

structure UpnpLease where
  externalEndpoint : SocketAddr
  goodUntil : Nat
  deriving DecidableEq, Repr

inductive ActivePortMappingLease where
  | Crab (mapping : CrabPortMapping)
  | Upnp (lease : UpnpLease)
  deriving DecidableEq, Repr

structure PortMappingRuntime where
  lease : Option ActivePortMappingLease := none
  status : PortMappingStatus := {}
  deriving DecidableEq, Repr

/-- The part of the snapshot that a refresh reads. -/
structure NetworkSnapshot where
  gatewayIpv4 : Option Ipv4Addr
  primaryIpv4 : Option Ipv4Addr
  deriving DecidableEq, Repr

/-- The answers of the network: a new mapping of `crab_nat` and the address that a NAT-PMP gateway reports, a
UPnP gateway with its address, whether it adds the port, its address on the outside and the endpoint of
`get_any_address`. -/
structure GatewayAnswers where
  instant : Nat
  systemTime : Nat
  crab : Except String CrabPortMapping
  natPmpAddress : Option Ipv4Addr
  upnp : Except String SocketAddr
  addsPort : Bool
  upnpExternalIp : Option IpAddr
  anyAddress : Option SocketAddr

def PORT_MAPPING_LEASE_SECS : Nat := 3600

/-- `instant_to_unix`. -/
def GatewayAnswers.instantToUnix (answers : GatewayAnswers) (value : Nat) : Nat :=
  (answers.systemTime + (value - answers.instant)) / 10 ^ 9

/-- The endpoint that a UPnP gateway gives for the port. -/
def GatewayAnswers.upnpEndpoint (answers : GatewayAnswers) (listenPort : UInt16) : Option SocketAddr :=
  if answers.addsPort then answers.upnpExternalIp.map fun ip => .new ip listenPort
  else answers.anyAddress

namespace PortMappingRuntime

def advertisedEndpoint (runtime : PortMappingRuntime) : Option String := runtime.status.externalEndpoint

/-- The gateway is told to drop the mapping; its answer is not read. -/
def stop (runtime : PortMappingRuntime) : PortMappingRuntime := { runtime with lease := none }

def mappedDetail (available : Bool) : ProbeStatus :=
  if available then ⟨.Available, "mapped UDP listen port"⟩ else ⟨.Unknown, ""⟩

def unavailableDetail : String := "default gateway or primary IPv4 unavailable"

/-- The status and the lease of a mapping that `crab_nat` made. -/
def mapped (gateway : Ipv4Addr) (mapping : CrabPortMapping) (answers : GatewayAnswers) : PortMappingRuntime :=
  let (protocol, externalIp) := match mapping.mappingType with
    | .NatPmp => ("nat_pmp", answers.natPmpAddress.map IpAddr.v4)
    | .Pcp externalIp => ("pcp", some externalIp)
  { lease := some (.Crab mapping)
    status :=
      { natPmp := mappedDetail (protocol == "nat_pmp")
        pcp := mappedDetail (protocol == "pcp")
        activeProtocol := some protocol
        externalEndpoint := externalIp.map fun ip => (SocketAddr.new ip mapping.externalPort).fmt
        gateway := some (IpAddr.v4 gateway).fmt
        goodUntil := some (answers.instantToUnix mapping.expiration) } }

/-- The attempt over UPnP. -/
def refreshUpnp (runtime : PortMappingRuntime) (listenPort : UInt16) (answers : GatewayAnswers) :
    PortMappingRuntime :=
  match answers.upnp with
  | .error error => { runtime with status := { runtime.status with upnp := ⟨.Unavailable, error⟩ } }
  | .ok gateway =>
    match answers.upnpEndpoint listenPort with
    | none => { runtime with
        status := { runtime.status with upnp := ⟨.Unavailable, "gateway responded but port mapping failed"⟩ } }
    | some endpoint =>
      { lease := some (.Upnp ⟨endpoint, answers.instant + PORT_MAPPING_LEASE_SECS * 10 ^ 9⟩)
        status := { runtime.status with
          upnp := mappedDetail true
          activeProtocol := some "upnp"
          externalEndpoint := some endpoint.fmt
          gateway := some gateway.ip.fmt
          goodUntil := some (answers.systemTime / 10 ^ 9 + PORT_MAPPING_LEASE_SECS) } }

/-- The result says whether the advertised endpoint changed. -/
def refresh (runtime : PortMappingRuntime) (snapshot : NetworkSnapshot) (listenPort : UInt16)
    (answers : GatewayAnswers) : Except String Bool × PortMappingRuntime :=
  let stopped := runtime.stop
  let finish (after : PortMappingRuntime) : Except String Bool × PortMappingRuntime :=
    (.ok (runtime.advertisedEndpoint != after.advertisedEndpoint), after)
  match snapshot.gatewayIpv4, snapshot.primaryIpv4 with
  | some gateway, some _ =>
    if listenPort = 0 then (.error "listen port must be non-zero", stopped)
    else match answers.crab with
      | .ok mapping => finish (mapped gateway mapping answers)
      | .error error =>
        let failed := { stopped with
          status := { stopped.status with natPmp := ⟨.Error, error⟩, pcp := ⟨.Error, error⟩ } }
        finish (failed.refreshUpnp listenPort answers)
  | _, _ => finish { stopped with
      status := {
        upnp := ⟨.Unsupported, unavailableDetail⟩
        natPmp := ⟨.Unsupported, unavailableDetail⟩
        pcp := ⟨.Unsupported, unavailableDetail⟩ } }

/-- A lease in its last five minutes. -/
def renewDue (runtime : PortMappingRuntime) (instant : Nat) : Bool :=
  match runtime.lease with
  | none => false
  | some (.Crab mapping) => mapping.expiration - instant ≤ 300 * 10 ^ 9
  | some (.Upnp lease) => lease.goodUntil - instant ≤ 300 * 10 ^ 9

def renewIfDue (runtime : PortMappingRuntime) (snapshot : NetworkSnapshot) (listenPort : UInt16)
    (answers : GatewayAnswers) : Except String Bool × PortMappingRuntime :=
  if runtime.renewDue answers.instant then runtime.refresh snapshot listenPort answers else (.ok false, runtime)

end PortMappingRuntime

/-! ## Calls -/

inductive MappingCall where
  | refresh (snapshot : NetworkSnapshot) (listenPort : UInt16) (answers : GatewayAnswers)
  | renewIfDue (snapshot : NetworkSnapshot) (listenPort : UInt16) (answers : GatewayAnswers)
  | stop

/-- A runtime with the address that the NAT-PMP gateway reported at the last refresh, which the lease of a
NAT-PMP mapping does not carry. -/
structure WatchedMapping where
  runtime : PortMappingRuntime := {}
  reported : Option Ipv4Addr := none

/-- The endpoint on the outside that a lease stands for, if it is known. -/
def ActivePortMappingLease.externalEndpoint (reported : Option Ipv4Addr) : ActivePortMappingLease → Option SocketAddr
  | .Crab mapping => match mapping.mappingType with
    | .NatPmp => reported.map fun ip => .new (.v4 ip) mapping.externalPort
    | .Pcp externalIp => some (.new externalIp mapping.externalPort)
  | .Upnp lease => some lease.externalEndpoint

namespace WatchedMapping

/-- The refresh that a call makes. -/
def refreshed (w : WatchedMapping) : MappingCall → Option (NetworkSnapshot × UInt16 × GatewayAnswers)
  | .refresh snapshot listenPort answers => some (snapshot, listenPort, answers)
  | .renewIfDue snapshot listenPort answers =>
    if w.runtime.renewDue answers.instant then some (snapshot, listenPort, answers) else none
  | .stop => none

def step (w : WatchedMapping) (call : MappingCall) : WatchedMapping where
  runtime := match call with
    | .refresh snapshot listenPort answers => (w.runtime.refresh snapshot listenPort answers).2
    | .renewIfDue snapshot listenPort answers => (w.runtime.renewIfDue snapshot listenPort answers).2
    | .stop => w.runtime.stop
  reported := match w.refreshed call with
    | some (_, _, answers) => answers.natPmpAddress
    | none => w.reported

/-- What is advertised is the external endpoint of the lease that is held. -/
def Backed (w : WatchedMapping) : Prop :=
  ∀ endpoint ∈ w.runtime.advertisedEndpoint, ∃ lease ∈ w.runtime.lease,
    ∃ addr ∈ lease.externalEndpoint w.reported, endpoint = addr.fmt

/-- The snapshot has what a mapping needs. -/
def Attempts (snapshot : NetworkSnapshot) : Prop := snapshot.gatewayIpv4 ≠ none ∧ snapshot.primaryIpv4 ≠ none

/-- Neither protocol of `crab_nat` nor UPnP gives a mapping, or the port is refused before they are tried. -/
def EveryProtocolFails (listenPort : UInt16) (answers : GatewayAnswers) : Prop :=
  listenPort = 0 ∨ (∀ mapping, answers.crab ≠ .ok mapping) ∧
    ((∀ gateway, answers.upnp ≠ .ok gateway) ∨ answers.upnpEndpoint listenPort = none)

/-- The call stops the mapping, or refreshes it without getting another. -/
def GivesUp (w : WatchedMapping) (call : MappingCall) : Prop :=
  call = .stop ∨ ∃ snapshot listenPort answers, w.refreshed call = some (snapshot, listenPort, answers) ∧
    (¬ Attempts snapshot ∨ EveryProtocolFails listenPort answers)

/-- After the call only the endpoint of a lease is advertised, and none after the mapping was given up. -/
structure AdvertisesLease (w : WatchedMapping) (call : MappingCall) : Prop where
  backed : (w.step call).Backed
  dropped : w.GivesUp call → (w.step call).runtime.advertisedEndpoint = none

/-- The call gives the mapping up on a path that writes no new status. -/
def KeepsStatus (w : WatchedMapping) (call : MappingCall) : Prop :=
  call = .stop ∨ ∃ snapshot listenPort answers, w.refreshed call = some (snapshot, listenPort, answers) ∧
    Attempts snapshot ∧ EveryProtocolFails listenPort answers

/-- Nothing is advertised when the mapping is stopped, or refreshed over a gateway that gives no other. -/
def GivesUpSilently (w : WatchedMapping) (call : MappingCall) : Prop :=
  w.KeepsStatus call → w.runtime.advertisedEndpoint = none

theorem backed_of_none {w : WatchedMapping} (silent : w.runtime.advertisedEndpoint = none) : w.Backed := by
  intro endpoint advertised
  rw [silent] at advertised
  cases advertised

theorem backed_mapped (gateway : Ipv4Addr) (mapping : CrabPortMapping) (answers : GatewayAnswers) :
    (⟨PortMappingRuntime.mapped gateway mapping answers, answers.natPmpAddress⟩ : WatchedMapping).Backed := by
  obtain ⟨type, externalPort, expiration⟩ := mapping
  intro endpoint advertised
  cases type with
  | NatPmp =>
    obtain ⟨ip, found, rfl⟩ := Option.map_eq_some_iff.mp advertised
    obtain ⟨v4, reported, rfl⟩ := Option.map_eq_some_iff.mp found
    exact ⟨_, rfl, _, Option.map_eq_some_iff.mpr ⟨v4, reported, rfl⟩, rfl⟩
  | Pcp externalIp => exact ⟨_, rfl, _, rfl, (Option.some.inj advertised).symm⟩

/-- The attempt over UPnP leaves the advertised endpoint, or gives a lease with its own. -/
theorem refreshUpnp_cases (runtime : PortMappingRuntime) (listenPort : UInt16) (answers : GatewayAnswers) :
    (((∀ gateway, answers.upnp ≠ .ok gateway) ∨ answers.upnpEndpoint listenPort = none) ∧
      (runtime.refreshUpnp listenPort answers).advertisedEndpoint = runtime.advertisedEndpoint) ∨
    ¬ ((∀ gateway, answers.upnp ≠ .ok gateway) ∨ answers.upnpEndpoint listenPort = none) ∧
      (⟨runtime.refreshUpnp listenPort answers, answers.natPmpAddress⟩ : WatchedMapping).Backed := by
  unfold PortMappingRuntime.refreshUpnp
  cases search : answers.upnp with
  | error error => exact Or.inl ⟨Or.inl (by simp), rfl⟩
  | ok gateway =>
    cases given : answers.upnpEndpoint listenPort with
    | none => exact Or.inl ⟨Or.inr rfl, rfl⟩
    | some endpoint =>
      refine Or.inr ⟨by simp, ?_⟩
      intro text advertised
      exact ⟨.Upnp _, rfl, endpoint, rfl, (Option.some.inj advertised).symm⟩

/-- A refresh over a gateway that gives no mapping drops the lease and keeps what is advertised. Any other refresh
leaves what is advertised to a lease, and to none when the mapping was given up. -/
theorem refresh_cases (runtime : PortMappingRuntime) (snapshot : NetworkSnapshot) (listenPort : UInt16)
    (answers : GatewayAnswers) :
    (Attempts snapshot ∧ EveryProtocolFails listenPort answers) ∧
      (runtime.refresh snapshot listenPort answers).2.advertisedEndpoint = runtime.advertisedEndpoint ∨
    ¬ (Attempts snapshot ∧ EveryProtocolFails listenPort answers) ∧
      (⟨(runtime.refresh snapshot listenPort answers).2, answers.natPmpAddress⟩ : WatchedMapping).Backed ∧
      (¬ Attempts snapshot → (runtime.refresh snapshot listenPort answers).2.advertisedEndpoint = none) := by
  unfold PortMappingRuntime.refresh EveryProtocolFails Attempts
  dsimp only
  cases snapshot.gatewayIpv4 with
  | none => exact Or.inr ⟨fun fails => fails.1.1 rfl, backed_of_none rfl, fun _ => rfl⟩
  | some gateway =>
    cases snapshot.primaryIpv4 with
    | none => exact Or.inr ⟨fun fails => fails.1.2 rfl, backed_of_none rfl, fun _ => rfl⟩
    | some primary =>
      have attempts : some gateway ≠ none ∧ some primary ≠ none := ⟨by simp, by simp⟩
      dsimp only
      split_ifs with zero
      · exact Or.inl ⟨⟨attempts, Or.inl zero⟩, rfl⟩
      cases answers.crab with
      | ok mapping =>
        refine Or.inr ⟨?_, backed_mapped gateway mapping answers, fun none' => absurd attempts none'⟩
        rintro ⟨-, never | ⟨never, -⟩⟩
        · exact zero never
        · exact never mapping rfl
      | error error =>
        rcases refreshUpnp_cases { runtime.stop with status := { runtime.stop.status with
            natPmp := ⟨.Error, error⟩, pcp := ⟨.Error, error⟩ } } listenPort answers with
          ⟨fails, same⟩ | ⟨works, backed⟩
        · exact Or.inl ⟨⟨attempts, Or.inr ⟨by simp, fails⟩⟩, same⟩
        · refine Or.inr ⟨?_, backed, fun none' => absurd attempts none'⟩
          rintro ⟨-, never | ⟨-, never⟩⟩
          · exact zero never
          · exact works never

/-- A call keeps what is advertised while it gives the mapping up, or does nothing, or leaves what is advertised
to a lease. -/
theorem step_cases (w : WatchedMapping) (call : MappingCall) :
    (w.KeepsStatus call ∧ (w.step call).runtime.advertisedEndpoint = w.runtime.advertisedEndpoint) ∨
    (¬ w.GivesUp call ∧ w.step call = w) ∨
    ¬ w.KeepsStatus call ∧ (w.step call).Backed ∧
      (w.GivesUp call → (w.step call).runtime.advertisedEndpoint = none) := by
  have refreshes {snapshot : NetworkSnapshot} {listenPort : UInt16} {answers : GatewayAnswers}
      (other : call ≠ .stop) (made : w.refreshed call = some (snapshot, listenPort, answers))
      (result : w.step call = ⟨(w.runtime.refresh snapshot listenPort answers).2, answers.natPmpAddress⟩) :
      (w.KeepsStatus call ∧ (w.step call).runtime.advertisedEndpoint = w.runtime.advertisedEndpoint) ∨
      ¬ w.KeepsStatus call ∧ (w.step call).Backed ∧
        (w.GivesUp call → (w.step call).runtime.advertisedEndpoint = none) := by
    have keeps : w.KeepsStatus call ↔ Attempts snapshot ∧ EveryProtocolFails listenPort answers := by
      simp [KeepsStatus, other, made]
    have gives : w.GivesUp call ↔ ¬ Attempts snapshot ∨ EveryProtocolFails listenPort answers := by
      simp [GivesUp, other, made]
    rw [keeps, gives, result]
    rcases refresh_cases w.runtime snapshot listenPort answers with ⟨fails, same⟩ | ⟨works, backed, none'⟩
    · exact Or.inl ⟨fails, same⟩
    · refine Or.inr ⟨works, backed, ?_⟩
      rintro (missing | fails)
      · exact none' missing
      · exact none' fun attempts => works ⟨attempts, fails⟩
  cases call with
  | stop => exact Or.inl ⟨Or.inl rfl, rfl⟩
  | refresh snapshot listenPort answers => exact (refreshes (by simp) rfl rfl).imp_right Or.inr
  | renewIfDue snapshot listenPort answers =>
    cases due : w.runtime.renewDue answers.instant with
    | false =>
      refine Or.inr (Or.inl ⟨?_, by simp [step, refreshed, PortMappingRuntime.renewIfDue, due]⟩)
      simp [GivesUp, refreshed, due]
    | true =>
      have made : w.refreshed (.renewIfDue snapshot listenPort answers) = some (snapshot, listenPort, answers) := by
        simp [refreshed, due]
      refine (refreshes (by simp) made ?_).imp_right Or.inr
      simp [step, refreshed, PortMappingRuntime.renewIfDue, due]

theorem KeepsStatus.givesUp {w : WatchedMapping} {call : MappingCall} (keeps : w.KeepsStatus call) :
    w.GivesUp call := by
  rcases keeps with stop | ⟨snapshot, listenPort, answers, made, -, fails⟩
  · exact Or.inl stop
  · exact Or.inr ⟨snapshot, listenPort, answers, made, Or.inr fails⟩

theorem advertisesLease_iff {w : WatchedMapping} (backed : w.Backed) (call : MappingCall) :
    w.AdvertisesLease call ↔ w.GivesUpSilently call := by
  rcases w.step_cases call with ⟨keeps, same⟩ | ⟨holds, idle⟩ | ⟨writes, backed', none'⟩
  · constructor
    · exact fun advertises _ => same ▸ advertises.dropped keeps.givesUp
    · intro silent
      have none' : (w.step call).runtime.advertisedEndpoint = none := same.trans (silent keeps)
      exact ⟨backed_of_none none', fun _ => none'⟩
  · exact iff_of_true ⟨idle.symm ▸ backed, fun gives => absurd gives holds⟩
      fun keeps => absurd keeps.givesUp holds
  · exact iff_of_true ⟨backed', none'⟩ fun keeps => absurd keeps writes

theorem backed_start : ({} : WatchedMapping).Backed := backed_of_none rfl

/-- Only the endpoint of a lease is advertised after every call of a run exactly when nothing is advertised
whenever the mapping is given up without a new status. -/
theorem advertises_lease_iff (calls : List MappingCall) :
    Along step AdvertisesLease {} calls ↔ Along step GivesUpSilently {} calls :=
  along_congr (fun _ call _ backed => advertisesLease_iff backed call)
    (fun _ call _ backed silent => ((advertisesLease_iff backed call).mpr silent).backed) backed_start

/-! ## A stopped mapping -/

def sampleAnswers : GatewayAnswers where
  instant := 0
  systemTime := 0
  crab := .ok ⟨.Pcp (.v4 (.ofOctets 203 0 113 7)), 51820, 3600 * 10 ^ 9⟩
  natPmpAddress := none
  upnp := .error "no UPnP gateway"
  addsPort := false
  upnpExternalIp := none
  anyAddress := none

def sampleSnapshot : NetworkSnapshot := ⟨some (.ofOctets 192 168 1 1), some (.ofOctets 192 168 1 20)⟩

/-- After a mapping was made and stopped, its endpoint is still advertised without a lease. -/
theorem stopped_mapping_is_advertised :
    ¬ ∀ calls : List MappingCall, Along step AdvertisesLease {} calls := by
  intro all
  have holds := all [.refresh sampleSnapshot 51820 sampleAnswers, .stop]
  have silent := holds.2.1.dropped (Or.inl rfl)
  exact absurd silent (by decide +kernel)

end WatchedMapping
end NostrVpn.Cli
