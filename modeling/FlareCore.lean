import FlareCore.Foundations.ShardedMap
import FlareCore.Foundations.Transition
import FlareCore.Foundations.TaskPool
import FlareCore.Foundations.OrderedLog
import FlareCore.Foundations.ChunkedStream
import FlareCore.Common.Protocol
import FlareCore.Common.Codec
import FlareCore.Common.Formats
import FlareCore.Common.Libraries
import FlareCore.Common.RoundTrip
import FlareCore.Common.CustomCodecs
import FlareCore.Server.Device
import FlareCore.Server.DeviceRegistry
import FlareCore.Server.DevicePolicy
import FlareCore.Server.Connection.State
import FlareCore.Server.Connection.Operations
import FlareCore.Server.Connection.Accounting
import FlareCore.Server.Connection.Consistency
import FlareCore.Server.Connection.Tasks
import FlareCore.Server.Connection.Actions
import FlareCore.Server.Connection.Slots
import FlareCore.Server.Connection.Interleaving
import FlareCore.Server.Connection.Cleanup
import FlareCore.Server.Connection.Sending
import FlareCore.Server.Connection.Grouping
import FlareCore.Server.Connection.Gate
import FlareCore.Server.Connection.Delivery
import FlareCore.Server.Negotiation
import FlareCore.Server.Core
import FlareCore.Server.Dispatch
import FlareCore.Server.Runtime
import FlareCore.Server.Evolution
import FlareCore.Server.Admission
import FlareCore.Server.Encoding
import FlareCore.Server.Lifetime
import FlareCore.Server.Handshake
import FlareCore.Server.Confidentiality
import FlareCore.Server.Registration
import FlareCore.Server.Notification
import FlareCore.Server.Ordering
import FlareCore.Server.Identity
import FlareCore.Server.Eviction
import FlareCore.Server.Rebinding
import FlareCore.Server.Shutdown
import FlareCore.Server.Credentials
import FlareCore.Client.Negotiation
import FlareCore.Client.Request
import FlareCore.Client.Agreement
import FlareCore.Client.Core
import FlareCore.Client.Rejection
import FlareCore.Client.State
import FlareCore.Client.Frames
import FlareCore.Client.Runtime
import FlareCore.Client.Evolution
import FlareCore.Client.Renewal
import FlareCore.Client.Session
import FlareCore.Client.Delivery
import FlareCore.Client.Lines
import FlareCore.Client.Outcome
import FlareCore.Client.Acknowledgement
import FlareCore.Client.Receipt
import FlareCore.Client.Waiters
import FlareCore.Client.Likeness
import FlareCore.Client.Replay
import FlareCore.Client.Router
import FlareCore.Client.Handles
import FlareCore.Client.Registrations
import FlareCore.Client.Race
import FlareCore.Client.Losers
import FlareCore.Client.Mirror
import FlareCore.Transport.Framing
import FlareCore.Transport.Limits
import FlareCore.Transport.Truncation
import FlareCore.Transport.Observation
import FlareCore.Client.Kicks
import FlareCore.Client.Latecomers
import FlareCore.Server.Connection.Writing
import FlareCore.Client.Manager
import FlareCore.Foundations.Wakeups
import FlareCore.Client.Wakeups
import FlareCore.Server.Connection.Poisoning
import FlareCore.Server.CustomPolicy
import FlareCore.Server.DeviceConflict
import FlareCore.Foundations.IncrementalDecoding
import FlareCore.Common.ProtobufDecoder
import FlareCore.Foundations.FieldReading
import FlareCore.Common.FrameDecoding
import FlareCore.Common.FrameOutline
import FlareCore.Common.FrameForms
import FlareCore.Common.FramedProtobuf
import FlareCore.Common.StrictMode
import FlareCore.Common.Conversation
import FlareCore.Client.Reasons
import FlareCore.Client.LostConnections
import FlareCore.Common.HeartbeatConfig
import FlareCore.Client.Heartbeat
import FlareCore.Client.Backoff
import FlareCore.Common.Slices
import FlareCore.Common.Hex
import FlareCore.Common.CertificatePinning
import FlareCore.Foundations.StableSort
import FlareCore.Common.MessagePipeline
import FlareCore.Server.Setup
import FlareCore.Foundations.HandedLock
import FlareCore.Client.InvokeSlot
import FlareCore.Client.WasmInbound
import FlareCore.Server.HeartbeatDetector
import FlareCore.Foundations.Directory
import FlareCore.Server.Connection.Directory
import FlareCore.Foundations.Switchover
import FlareCore.Client.Handshake
import FlareCore.Client.Switchover
import FlareCore.Foundations.SharedCache
import FlareCore.Server.PipelineCache
import FlareCore.Client.Interruption
