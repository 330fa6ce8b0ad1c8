import NostrVpn.Core.NodeAutoconfigure
import NostrVpn.Rust.NetChars

/-!
# MagicDNS records

`build_magic_dns_records` of `magic_dns.rs`: the names under which a node finds the members of its network.
The address of a member is not read from its announcement but derived from the network id and its key.
-/
namespace NostrVpn.Core

open Rust Rust.Net

namespace MagicDns

def stripCidr (value : String) : String := splitFirst '/' value

def suffix (config : AppConfig) : String :=
  toAsciiLowercase (trimEndMatches '.' (trimStartMatches '.' (trim config.magicDnsSuffix)))

/-- The names of an alias, with the suffix and without. -/
def names (suffix label : String) : List String :=
  let label := toAsciiLowercase label
  if suffix = "" then [label] else [label, label ++ "." ++ suffix]

/-- The address at which a member of the network is looked for. -/
def address (sha256 : Sha256) (networkId pubkeyHex : String) : Option Ipv4Addr :=
  (deriveMeshTunnelIp sha256 networkId pubkeyHex).bind fun tunnelIp =>
    Ipv4Addr.parse (stripCidr tunnelIp)

def insertNames (records : HashMap String Ipv4Addr) (names : List String) (ip : Ipv4Addr) :
    HashMap String Ipv4Addr :=
  names.foldl (fun records name => records.insert name ip) records

end MagicDns

open MagicDns

def buildMagicDnsRecords (sdk : NostrSdk) (sha256 : Sha256) (config : AppConfig) :
    HashMap String Ipv4Addr :=
  let suffix := MagicDns.suffix config
  let networkId := config.effectiveNetworkId
  let records := match config.selfMagicDnsLabel, config.ownPubkey sdk with
    | some label, some own => match address sha256 networkId own with
      | some ip => insertNames ∅ (names suffix label) ip
      | none => ∅
    | _, _ => ∅
  config.participantPubkeysHex.foldl (fun records participant =>
    match config.peerAlias sdk participant, address sha256 networkId participant with
    | some label, some ip => insertNames records (names suffix label) ip
    | _, _ => records) records

/-- The member goes by this name in the configuration, and no other participant does. -/
structure NamesMember (sdk : NostrSdk) (config : AppConfig) (member name : String) : Prop where
  configured : member ∈ config.participantPubkeysHex
  named : ∃ label, config.peerAlias sdk member = some label ∧ name ∈ names (suffix config) label
  alone : ∀ participant ∈ config.participantPubkeysHex, participant ≠ member →
    ∀ label, config.peerAlias sdk participant = some label → name ∉ names (suffix config) label

theorem lookup_insertNames (records : HashMap String Ipv4Addr) (names : List String) (ip : Ipv4Addr)
    (name : String) : (insertNames records names ip).lookup name =
      if name ∈ names then some ip else records.lookup name := by
  induction names generalizing records with
  | nil => rfl
  | cons first rest ih =>
    rw [insertNames, List.foldl_cons, ← insertNames, ih]
    by_cases here : name = first
    · subst here
      simp
    · simp [here, AList.lookup_insert_ne here]

/-- An address text with its width is cut at the slash. -/
theorem splitFirst_fmt (ip : Ipv4Addr) : splitFirst '/' ((IpAddr.v4 ip).fmt ++ "/32") = (IpAddr.v4 ip).fmt := by
  have chars := isAddressChar_of_ip (IpAddr.parse_fmt (.v4 ip))
  have slashless : ∀ c ∈ (IpAddr.v4 ip).fmt.toList, (c != '/') = true := by
    intro c mem
    refine bne_iff_ne.mpr fun slash => ?_
    have address := chars c mem
    rw [slash] at address
    exact absurd address (by decide)
  simp [splitFirst, List.takeWhile_append_of_pos slashless]

/-- A derived address is the text of an address with its width. -/
theorem address_of_derive {sha256 : Sha256} {networkId pubkeyHex tunnelIp : String}
    (derived : deriveMeshTunnelIp sha256 networkId pubkeyHex = some tunnelIp) :
    ∃ ip, address sha256 networkId pubkeyHex = some ip ∧ tunnelIp = (IpAddr.v4 ip).fmt ++ "/32" := by
  have text := derived
  simp only [deriveMeshTunnelIp] at text
  split_ifs at text
  generalize meshTunnelIp _ = ip at text
  obtain rfl : (IpAddr.v4 ip).fmt ++ "/32" = tunnelIp := Option.some.inj text
  refine ⟨ip, ?_, rfl⟩
  rw [address, derived, Option.bind_some, stripCidr, splitFirst_fmt]
  exact Ipv4Addr.parse_display ip

/-- The last member with the name decides where the name leads, and that is the one member with it. -/
theorem lookup_buildMagicDnsRecords {sdk : NostrSdk} {sha256 : Sha256} {config : AppConfig}
    {member name : String} {ip : Ipv4Addr} (names : NamesMember sdk config member name)
    (derived : address sha256 config.effectiveNetworkId member = some ip) :
    (buildMagicDnsRecords sdk sha256 config).lookup name = some ip := by
  obtain ⟨label, alias', named⟩ := names.named
  have configured := names.configured
  have alone := names.alone
  unfold buildMagicDnsRecords
  dsimp only
  generalize (match config.selfMagicDnsLabel, config.ownPubkey sdk with
    | some label, some own => match address sha256 config.effectiveNetworkId own with
      | some ip => insertNames ∅ (MagicDns.names (suffix config) label) ip
      | none => ∅
    | _, _ => ∅) = records
  -- once the name leads to the member, it stays so
  suffices settled : ∀ records : HashMap String Ipv4Addr,
      (member ∈ config.participantPubkeysHex ∨ records.lookup name = some ip) →
      (config.participantPubkeysHex.foldl (fun records participant =>
        match config.peerAlias sdk participant,
          address sha256 config.effectiveNetworkId participant with
        | some label, some ip => insertNames records (MagicDns.names (suffix config) label) ip
        | _, _ => records) records).lookup name = some ip from settled records (Or.inl configured)
  clear configured
  generalize config.participantPubkeysHex = participants at alone
  induction participants with
  | nil => simp
  | cons participant rest ih =>
    intro records placed
    refine ih (fun other mem => alone other (by simp [mem])) _ ?_
    by_cases here : participant = member
    · subst here
      simp [alias', derived, lookup_insertNames, named]
    · rcases placed with mem | found
      · left
        simpa [Ne.symm here] using mem
      · right
        have apart := alone participant (by simp) here
        cases known : config.peerAlias sdk participant with
        | none => simpa [known] using found
        | some other =>
          cases expected : address sha256 config.effectiveNetworkId participant with
          | none => simpa [known, expected] using found
          | some ip' => simpa [known, expected, lookup_insertNames, apart other known] using found

end NostrVpn.Core
