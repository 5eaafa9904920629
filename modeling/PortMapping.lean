import PortMapping.Octets
import PortMapping.Text.Blank
import PortMapping.Text.Numeral
import PortMapping.Text.Utf8
import PortMapping.Text.Quoted
import PortMapping.Address
import PortMapping.Address.Text
import PortMapping.Log
import PortMapping.Failure
import PortMapping.Transport
import PortMapping.Packet.Error
import PortMapping.Packet.Header
import PortMapping.Packet.Request
import PortMapping.Packet.Response
import PortMapping.Packet.Control
import PortMapping.Timer.Queue
import PortMapping.Timer.Event
import PortMapping.Announcer
import PortMapping.Gateway
import PortMapping.Mapping.Basic
import PortMapping.Mapping.Table
import PortMapping.Firewall.Backend
import PortMapping.Firewall.Memory
import PortMapping.Firewall.Script
import PortMapping.Firewall.Faulty
import PortMapping.Firewall.Synchronizer
import PortMapping.Interface.Event
import PortMapping.Interface.Monitor
import PortMapping.Interface.Routing
import PortMapping.Interface.RoutingDecoder
import PortMapping.Toml.Refusal
import PortMapping.Toml.Text
import PortMapping.Toml.Key
import PortMapping.Toml.Number
import PortMapping.Toml.Node
import PortMapping.Toml.Value
import PortMapping.Toml.Document
import PortMapping.Configuration.Basic
import PortMapping.Configuration.Validation
import PortMapping.Configuration.Decode
import PortMapping.Error
import PortMapping.Server.Basic
import PortMapping.Server.Datagram
import PortMapping.Server.Interface
import PortMapping.Server.Timers
import PortMapping.Startup
import PortMapping.Logging
import PortMapping.Daemon
import PortMapping.CommandLine
import PortMapping.Rehearsal.Host
import PortMapping.Rehearsal.Session
import PortMapping.Rehearsal.Program
import PortMapping.Main
import PortMapping.Proofs.Packets
import PortMapping.Proofs.TimerQueue
import PortMapping.Proofs.MappingTable
import PortMapping.Proofs.Handlers
import PortMapping.Proofs.Run
import PortMapping.Proofs.TimerOwnership
import PortMapping.Proofs.RuleHistory
import PortMapping.Proofs.RuleConsistency
import PortMapping.Proofs.RequestPolicy
import PortMapping.Proofs.Lifetimes
import PortMapping.Proofs.Announcements
import PortMapping.Proofs.AnnouncementSafety
import PortMapping.Proofs.AnnouncementBursts
import PortMapping.Proofs.Redirections
import PortMapping.Proofs.ExternalPorts
import PortMapping.Proofs.AdvertisedRedirections
import PortMapping.Proofs.FilterIndependence
import PortMapping.Proofs.ClientIsolation
import PortMapping.Proofs.RequestGrammar
import PortMapping.Proofs.RecordedCalls
import PortMapping.Proofs.FilterAgreement
import PortMapping.Proofs.PacketLoops
import PortMapping.Proofs.RoutingFeed
import PortMapping.Proofs.RoutingProgress
import PortMapping.Proofs.AddressText
import PortMapping.Proofs.FilterScripts
import PortMapping.Proofs.RequestLocality
import PortMapping.Proofs.RequestOrder
import PortMapping.Proofs.PlainTimers
import PortMapping.Proofs.DueTimers
import PortMapping.Proofs.Transactions
import PortMapping.Proofs.Epochs
import PortMapping.Proofs.ResponseCodecs
import PortMapping.Proofs.RequestCodec
import PortMapping.Proofs.Numerals
import PortMapping.Proofs.AddressReading
import PortMapping.Proofs.ControlHeaders
import PortMapping.Proofs.ListenAddresses
import PortMapping.Proofs.UsableConfigurations
import PortMapping.Proofs.RuleUpdates
import PortMapping.Proofs.AddressInquiries
import PortMapping.Proofs.InterfaceChecks
import PortMapping.Proofs.Shutdown
