import IptvCloud.Lib.Run
import IptvCloud.Lib.MultiMap
import IptvCloud.Lib.Stdio
import IptvCloud.Lib.Binary64
import IptvCloud.Lib.Json
import IptvCloud.Lib.Fields
import IptvCloud.Lib.Checked
import IptvCloud.Lib.Footprint
import IptvCloud.Lib.While
import IptvCloud.Lib.Wiring
import IptvCloud.Lib.Tiling
import IptvCloud.Lib.History
import IptvCloud.Lib.Slots
import IptvCloud.Lib.Latch
import IptvCloud.Lib.Transcript
import IptvCloud.Lib.Ledger
import IptvCloud.Lib.Rpc
import IptvCloud.Lib.Path
import IptvCloud.Lib.Regexp
import IptvCloud.Lib.Printf
import IptvCloud.Lib.Scanf
import IptvCloud.Base.InputsOutputs
import IptvCloud.Utils.Chunk
import IptvCloud.Utils.M3u8
import IptvCloud.Utils.M3u8Grammar
import IptvCloud.Utils.Cleanup
import IptvCloud.Utils.ChunkText
import IptvCloud.Utils.Machine
import IptvCloud.Utils.Proof.M3u8Lines
import IptvCloud.Utils.Proof.M3u8RoundTrip
import IptvCloud.Utils.Proof.M3u8Spaces
import IptvCloud.Utils.Proof.M3u8Grammar
import IptvCloud.Utils.Proof.Cleanup
import IptvCloud.Utils.Proof.ChunkText
import IptvCloud.Utils.Proof.Machine
import IptvCloud.Timeshift.Recorder
import IptvCloud.Timeshift.Player
import IptvCloud.Timeshift.Proof.Recorder
import IptvCloud.Timeshift.Proof.Player
import IptvCloud.Timeshift.Proof.Seek
import IptvCloud.Timeshift.Catchup
import IptvCloud.Timeshift.Proof.Catchup
import IptvCloud.Timeshift.Proof.Playlist
import IptvCloud.Timeshift.Proof.Durations
import IptvCloud.Stream.StatisticInfo
import IptvCloud.Stream.Controller
import IptvCloud.Stream.Configs
import IptvCloud.Stream.Factory
import IptvCloud.Stream.Elements
import IptvCloud.Stream.Builders
import IptvCloud.Stream.Pads
import IptvCloud.Stream.Mosaic
import IptvCloud.Stream.Playlist
import IptvCloud.Stream.Watchdog
import IptvCloud.Stream.Names
import IptvCloud.Stream.Proof.StatisticInfo
import IptvCloud.Stream.Proof.Controller
import IptvCloud.Stream.Proof.Stop
import IptvCloud.Stream.Proof.Backoff
import IptvCloud.Stream.Proof.Configs
import IptvCloud.Stream.Proof.Factory
import IptvCloud.Stream.Proof.Indexing
import IptvCloud.Stream.Proof.Builders
import IptvCloud.Stream.Proof.Converters
import IptvCloud.Stream.Proof.Outputs
import IptvCloud.Stream.Proof.Pipeline
import IptvCloud.Stream.Proof.Dataflow
import IptvCloud.Stream.Proof.Pads
import IptvCloud.Stream.Proof.Mosaic
import IptvCloud.Stream.Proof.MosaicPicture
import IptvCloud.Stream.Proof.MosaicRun
import IptvCloud.Stream.Proof.Caps
import IptvCloud.Stream.Proof.Playlist
import IptvCloud.Stream.Proof.Watchdog
import IptvCloud.Stream.Proof.Heartbeat
import IptvCloud.Stream.Proof.Accounting
import IptvCloud.Stream.Proof.Names
import IptvCloud.Server.Request
import IptvCloud.Server.SyncFinder
import IptvCloud.Server.CommandsInfo
import IptvCloud.Server.Messages
import IptvCloud.Server.Proof.CommandsInfo
import IptvCloud.Server.Proof.SyncFinder
import IptvCloud.Server.Subscribers
import IptvCloud.Server.Proof.Subscribers
import IptvCloud.Server.Proof.Registry
import IptvCloud.Server.Proof.Service
import IptvCloud.Server.Proof.Watchers
import IptvCloud.Server.Daemon
import IptvCloud.Server.StreamInfo
import IptvCloud.Server.Config
import IptvCloud.Server.Vods
import IptvCloud.Server.Http
import IptvCloud.Server.Options
import IptvCloud.Server.DaemonLoop
import IptvCloud.Server.Link
import IptvCloud.Server.ServiceStats
import IptvCloud.Server.UserInfo
import IptvCloud.Server.Proof.Daemon
import IptvCloud.Server.Proof.DaemonLoop
import IptvCloud.Server.Proof.Lifecycle
import IptvCloud.Server.Proof.Traffic
import IptvCloud.Server.Proof.Resources
import IptvCloud.Server.Proof.Management
import IptvCloud.Server.Proof.Options
import IptvCloud.Server.Proof.OptionValues
import IptvCloud.Server.Proof.StreamInfo
import IptvCloud.Server.Proof.Config
import IptvCloud.Server.Proof.Vods
import IptvCloud.Server.Proof.Http
import IptvCloud.Server.Proof.ServiceStats
import IptvCloud.Server.Proof.UserInfo
import IptvCloud.Server.Proof.Messages
import IptvCloud.Server.Proof.Link
import IptvCloud.Server.Proof.OnDemand
