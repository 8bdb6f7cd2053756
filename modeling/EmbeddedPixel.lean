import EmbeddedPixel.Foundation.Bytes
import EmbeddedPixel.Foundation.CString
import EmbeddedPixel.Foundation.Memory
import EmbeddedPixel.Foundation.Reader
import EmbeddedPixel.Foundation.Machine
import EmbeddedPixel.Foundation.AffineClock
import EmbeddedPixel.Foundation.Binary64
import EmbeddedPixel.Foundation.Doubles
import EmbeddedPixel.Foundation.Counters
import EmbeddedPixel.Foundation.Crc
import EmbeddedPixel.Foundation.LinkedList
import EmbeddedPixel.Foundation.Registers
import EmbeddedPixel.Foundation.Devices
import EmbeddedPixel.Foundation.Rotation
import EmbeddedPixel.Foundation.Stores
import EmbeddedPixel.Foundation.StructFormat
import EmbeddedPixel.Foundation.Talk
import EmbeddedPixel.Foundation.Tiles
import EmbeddedPixel.Proto.ProtocolTypes
import EmbeddedPixel.Proto.PacketHelper
import EmbeddedPixel.Sys.Crc32
import EmbeddedPixel.Sys.Crc32Bits
import EmbeddedPixel.Sys.Crc32Bursts
import EmbeddedPixel.Sys.Version
import EmbeddedPixel.Sys.CliCommand
import EmbeddedPixel.Sys.TimeManager
import EmbeddedPixel.Sys.TimeDiscipline
import EmbeddedPixel.Sys.TimeSamples
import EmbeddedPixel.Sys.TimeLoop
import EmbeddedPixel.Sys.TimeLock
import EmbeddedPixel.Sys.TimeAccuracy
import EmbeddedPixel.Sys.TimeRange
import EmbeddedPixel.Sys.BeaconDelay
import EmbeddedPixel.Sys.TimeHoldover
import EmbeddedPixel.Targets.DwtTimeSource
import EmbeddedPixel.Targets.EthReceive
import EmbeddedPixel.Targets.EthTransmit
import EmbeddedPixel.Targets.EthRing
import EmbeddedPixel.Targets.EthLink
import EmbeddedPixel.Targets.ExtMemFlash
import EmbeddedPixel.Targets.Xspi
import EmbeddedPixel.Targets.PagePrograms
import EmbeddedPixel.Targets.FlashStore
import EmbeddedPixel.Net.OtaService
import EmbeddedPixel.Net.OtaTransition
import EmbeddedPixel.Net.OtaInvariant
import EmbeddedPixel.Net.CommandReads
import EmbeddedPixel.Net.OtaRefusals
import EmbeddedPixel.Net.OtaTransfer
import EmbeddedPixel.Net.OtaDamage
import EmbeddedPixel.Net.OtaSessions
import EmbeddedPixel.Net.Framing
import EmbeddedPixel.Net.Discovery
import EmbeddedPixel.Net.DiscoveryAnswers
import EmbeddedPixel.Net.Heartbeats
import EmbeddedPixel.Net.NodeActions
import EmbeddedPixel.Net.Answers
import EmbeddedPixel.Net.TxBuffer
import EmbeddedPixel.Sys.ConsoleTask
import EmbeddedPixel.Net.Validation
import EmbeddedPixel.Net.OtaLock
import EmbeddedPixel.Net.Channels
import EmbeddedPixel.Net.Streams
import EmbeddedPixel.Net.StreamLock
import EmbeddedPixel.Net.NodeInfo
import EmbeddedPixel.Net.Producers
import EmbeddedPixel.Net.Transmit
import EmbeddedPixel.Net.StreamPace
import EmbeddedPixel.Net.StreamRuns
import EmbeddedPixel.Net.StreamTargets
import EmbeddedPixel.Net.StartRates
import EmbeddedPixel.Net.StartCommands
import EmbeddedPixel.Net.NetManager
import EmbeddedPixel.Net.NetLink
import EmbeddedPixel.Net.CommandLoop
import EmbeddedPixel.Boot.Bootloader
import EmbeddedPixel.Boot.Install
import EmbeddedPixel.Boot.Report
import EmbeddedPixel.System.Gates
import EmbeddedPixel.System.Delivery
import EmbeddedPixel.System.Damage
import EmbeddedPixel.System.LinkWatch
import EmbeddedPixel.Host.OtaUpdater
import EmbeddedPixel.Host.Checksums
import EmbeddedPixel.Host.Preflight
import EmbeddedPixel.Host.NodeReport
import EmbeddedPixel.Host.UpdateSession
import EmbeddedPixel.Host.RebootWait
import EmbeddedPixel.Host.ResponseFrames
import EmbeddedPixel.Host.StreamReceivers
import EmbeddedPixel.Host.TelemetryViews
import EmbeddedPixel.Host.ViewStore
import EmbeddedPixel.Host.StreamCatalog
import EmbeddedPixel.Host.CutCatalog
import EmbeddedPixel.Host.AppliedViews
import EmbeddedPixel.Host.ApplySession
import EmbeddedPixel.Host.Dashboard
import EmbeddedPixel.Host.CliSession
