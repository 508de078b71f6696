import StructuredStreams.Application.Progress
import StructuredStreams.Application.ShellServer
import StructuredStreams.Channel.CongestionBounds
import StructuredStreams.Channel.DelayedAck
import StructuredStreams.Channel.HighestAck
import StructuredStreams.Channel.Lifecycle
import StructuredStreams.Channel.Receive
import StructuredStreams.Channel.RetransmitTimeout
import StructuredStreams.Channel.SequenceNumbers
import StructuredStreams.Framing.Deframe
import StructuredStreams.Routing.Lookups
import StructuredStreams.Service.Listening
import StructuredStreams.Service.Reading
import StructuredStreams.Shell.Batching
import StructuredStreams.Shell.Chunking
import StructuredStreams.Shell.ControlHeader
import StructuredStreams.Shell.LengthLimit
import StructuredStreams.Shell.ModeRoundTrip
import StructuredStreams.Shell.Remote
import StructuredStreams.Stream.Acknowledging
import StructuredStreams.Stream.Assertions
import StructuredStreams.Stream.BufferSizes
import StructuredStreams.Stream.Detaching
import StructuredStreams.Stream.Fairness
import StructuredStreams.Stream.PriorityOrder
import StructuredStreams.Stream.ReceivedCounter
import StructuredStreams.Stream.ReceivedDatagrams
import StructuredStreams.Stream.SchedulingLoop
import StructuredStreams.Stream.SchedulingOrder
import StructuredStreams.Stream.Segmentation
import StructuredStreams.Stream.SidSearch
import StructuredStreams.Stream.Substreams
import StructuredStreams.Stream.Windows
import StructuredStreams.Stream.WrittenData
import StructuredStreams.UserStream.LinkStatus
