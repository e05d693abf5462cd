import Caraka.Activity
import Caraka.Authenticity
import Caraka.Broadcasting
import Caraka.BucketLevels
import Caraka.Commands.Connect
import Caraka.Commands.History
import Caraka.Commands.Interleaving
import Caraka.Commands.Receive
import Caraka.Commands.Received
import Caraka.Commands.Search
import Caraka.Commands.Send
import Caraka.Commands.Sent
import Caraka.Conformance
import Caraka.ConnectionTable
import Caraka.ConnectionTimeout
import Caraka.Connections
import Caraka.Coverage
import Caraka.Crates
import Caraka.Crypto
import Caraka.Delivery
import Caraka.Desynchronisation
import Caraka.Discovery
import Caraka.EmergencyBanner
import Caraka.Extinction
import Caraka.FileDelivery
import Caraka.FileTransfer
import Caraka.Flooding
import Caraka.ForgottenCounters
import Caraka.Foundation.AssocMap
import Caraka.Foundation.Base64
import Caraka.Foundation.Base64Url
import Caraka.Foundation.Bytes
import Caraka.Foundation.Counter
import Caraka.Foundation.Deduplication
import Caraka.Foundation.Disk
import Caraka.Foundation.Duration
import Caraka.Foundation.Fields
import Caraka.Foundation.Hex
import Caraka.Foundation.Html
import Caraka.Foundation.Json
import Caraka.Foundation.Lru
import Caraka.Foundation.Metering
import Caraka.Foundation.Migrations
import Caraka.Foundation.Network
import Caraka.Foundation.Records
import Caraka.Foundation.Rounding
import Caraka.Foundation.Script
import Caraka.Foundation.Source
import Caraka.Foundation.Sql
import Caraka.Foundation.StableSort
import Caraka.Foundation.Subnets
import Caraka.Foundation.Timers
import Caraka.Foundation.Transition
import Caraka.Foundation.Utf8Lossy
import Caraka.Foundation.Wavefront
import Caraka.Foundation.WindowsPath
import Caraka.FrameSizes
import Caraka.Framing
import Caraka.Frontend
import Caraka.Gates
import Caraka.Handshake
import Caraka.Hints
import Caraka.HistoryHealing
import Caraka.HopFields
import Caraka.Interfaces
import Caraka.InviteCodes
import Caraka.KeyReuse
import Caraka.KeySeparation
import Caraka.Keys
import Caraka.LanDiscovery
import Caraka.Mesh
import Caraka.NetworkMonitor
import Caraka.Packet
import Caraka.PacketFormat
import Caraka.Paths
import Caraka.Payload
import Caraka.PeerAddresses
import Caraka.PeerStatus
import Caraka.PeerTable
import Caraka.RateLimit
import Caraka.Readability
import Caraka.ReceivedRows
import Caraka.Registration
import Caraka.Relaying
import Caraka.Rendering
import Caraka.ReplayCache
import Caraka.ReplayProtection
import Caraka.Retention
import Caraka.Routing
import Caraka.SafetyNumber
import Caraka.Sample
import Caraka.SavedFiles
import Caraka.SavedNames
import Caraka.Schema
import Caraka.Sealing
import Caraka.SendFailures
import Caraka.SentRows
import Caraka.Services
import Caraka.SessionRows
import Caraka.Sessions
import Caraka.Slicing
import Caraka.Spreading
import Caraka.State
import Caraka.Store
import Caraka.Suppression
import Caraka.SyncGaps
import Caraka.SyncRequest
import Caraka.TokenBuckets
import Caraka.Transport
import Caraka.Trust
import Caraka.Upgrades
import Caraka.Vault
import Caraka.VaultFormat
import Caraka.VaultHistory
import Caraka.WriterTask
