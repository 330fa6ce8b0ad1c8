import NostrVpn.Rust.Str
import NostrVpn.Rust.Ascii
import NostrVpn.Rust.Vec
import NostrVpn.Rust.HashMap
import NostrVpn.Rust.Net
import NostrVpn.Rust.NetText
import NostrVpn.Rust.Prefix
import NostrVpn.Rust.TryEach
import NostrVpn.Transition
import NostrVpn.Machine
import NostrVpn.Core.Control
import NostrVpn.Core.NetworkRoutes
import NostrVpn.Core.Paths
import NostrVpn.Core.ConfigDefaults
import NostrVpn.Core.ConfigMagicDns
import NostrVpn.Core.Config
import NostrVpn.Cli.TunnelPlan
import NostrVpn.Cli.TunnelPlanFacts
import NostrVpn.Cli.CryptokeyRouting
import NostrVpn.Cli.PlanIsolation
import NostrVpn.Core.NetworkRoster
import NostrVpn.Core.SharedRoster
import NostrVpn.Core.ServiceSignaling
import NostrVpn.Cli.RelayClient
import NostrVpn.Cli.RelayGrants
import NostrVpn.Relay.RelayRuntime
import NostrVpn.Relay.RelayService
import NostrVpn.Rust.NetChars
import NostrVpn.Rust.Split
import NostrVpn.WireGuard.Uapi
import NostrVpn.Cli.UapiBodies
import NostrVpn.Linux.IpTables
import NostrVpn.Cli.TunnelRuntime
import NostrVpn.Cli.TunnelFingerprint
import NostrVpn.Cli.TunnelRuntimeFacts
import NostrVpn.Cli.WillingMachine
import NostrVpn.Cli.AppliedPeers
import NostrVpn.Cli.KernelRoutes
import NostrVpn.Relay.RelayLegs
import NostrVpn.Relay.RelayIsolation
import NostrVpn.Cli.UserspaceWg
import NostrVpn.Cli.EndpointAuthenticity
import NostrVpn.Cli.InnerSource
import NostrVpn.Core.PathSelection
import NostrVpn.Gui.MobilePlan
import NostrVpn.Gui.ExpiredRelay
import NostrVpn.Core.ConfigOps
import NostrVpn.Invite.NetworkInvite
import NostrVpn.Invite.InviteAgreement
import NostrVpn.Invite.InviteImport
import NostrVpn.Core.Signaling
import NostrVpn.Core.Presence
import NostrVpn.Core.PresenceOrder
import NostrVpn.Core.EnsureDefaults
import NostrVpn.Core.JoinRequests
import NostrVpn.Core.MeshIds
import NostrVpn.Invite.MeshRouting
import NostrVpn.Gui.SignalAudience
import NostrVpn.Linux.Firewall
import NostrVpn.Cli.ExitForwarding
import NostrVpn.Cli.ExitRestore
import NostrVpn.Gui.AndroidSession
import NostrVpn.Gui.AndroidLifecycle
import NostrVpn.Gui.IosSession
import NostrVpn.Gui.SessionContainment
import NostrVpn.Cli.DaemonSession
import NostrVpn.Cli.ConnectSession
import NostrVpn.Cli.HelloAnswered
import NostrVpn.Cli.PausedDaemon
import NostrVpn.Core.RosterGuards
import NostrVpn.Gui.MobileRoutes
import NostrVpn.Cli.RouteCoverage
import NostrVpn.Cli.RelayFailover
import NostrVpn.Cli.LongestPrefix
import NostrVpn.Gui.MobileSelection
import NostrVpn.Relay.RateLimit
import NostrVpn.Core.PrivatePublish
import NostrVpn.Cli.FanOut
import NostrVpn.Gui.JoinFanOut
import NostrVpn.Cli.RosterPublishing
import NostrVpn.Cli.NatPunchPacing
import NostrVpn.Cli.RelayMembership
import NostrVpn.Core.MagicDnsLabels
import NostrVpn.Core.MagicDnsRecords
import NostrVpn.Invite.TunnelAddress
import NostrVpn.Core.NetworkEntries
import NostrVpn.Invite.ConfigRuns
import NostrVpn.Invite.ActiveNetwork
import NostrVpn.Invite.FailedImport
import NostrVpn.Invite.ConfigNetworks
import NostrVpn.Invite.AdminInvariant
import NostrVpn.Invite.ExitNodeInvariant
import NostrVpn.Invite.JoinRequestInvariant
import NostrVpn.Core.PendingRequests
import NostrVpn.Core.PeerAliases
import NostrVpn.Core.PathFlags
import NostrVpn.Cli.BypassTracking
import NostrVpn.Core.NodeRecord
import NostrVpn.Invite.AliasInvariant
import NostrVpn.Cli.RelayDiscovery
import NostrVpn.Cli.PeerCache
import NostrVpn.Cli.WindowsTunnel
import NostrVpn.Cli.ProviderEvidence
import NostrVpn.Core.SignalFilter
import NostrVpn.Rust.Replace
import NostrVpn.Cli.ServiceRegistration
import NostrVpn.Gui.TunnelFingerprint
import NostrVpn.Gui.TunnelCache
import NostrVpn.Core.PathHistory
import NostrVpn.Core.PathChoice
import NostrVpn.Core.ConfigFile
import NostrVpn.Cli.HandshakeRecency
import NostrVpn.Core.MagicDnsServer
import NostrVpn.Invite.MagicDnsNames
import NostrVpn.Cli.MeshAddresses
import NostrVpn.Rust.PrefixSet
import NostrVpn.Core.RouteForms
import NostrVpn.Core.PresenceMaps
import NostrVpn.Core.PathBook
import NostrVpn.RingScan
import NostrVpn.Relay.PortAllocator
import NostrVpn.Core.DnsLabels
import NostrVpn.Rust.Slice
import NostrVpn.Relay.OperatorStats
import NostrVpn.Cli.PortMapping
import NostrVpn.Rust.JoinedTexts
import NostrVpn.Cli.Fingerprints
import NostrVpn.Invite.DerivedIds
import NostrVpn.Gui.ConfigCommands
import NostrVpn.Gui.FailedCommands
import NostrVpn.Cli.ConfigOverrides
import NostrVpn.Cli.OverridesOnDisk
import NostrVpn.Cli.PeerStatusText
import NostrVpn.Core.RosterExport
import NostrVpn.Cli.FailedPersistence
import NostrVpn.Cli.RevokedPeers
import NostrVpn.Cli.ControlFiles
import NostrVpn.Core.AliasOrder
import NostrVpn.Core.EntryIds
import NostrVpn.Invite.DefaultedTwice
import NostrVpn.Relay.NostrRelay
import NostrVpn.Relay.NostrFeed
import NostrVpn.Relay.NostrQuiet
import NostrVpn.Relay.NostrAnswers
import NostrVpn.Invite.SavedConfigs
