import NatStream.Collector.Acceptance
import NatStream.Collector.Lives
import NatStream.Daemon.Workers
import NatStream.Export.Invariant
import NatStream.Export.Isolation
import NatStream.Export.Shapes
import NatStream.Netlink.Locality
import NatStream.Netlink.Streams
import NatStream.Supervisor.Interleaved
import NatStream.Supervisor.Restarts
import NatStream.Worker.FullMessages
import NatStream.Worker.Intake
import NatStream.Worker.Packing
import NatStream.Worker.Sequences
import NatStream.Worker.Statistics
import NatStream.Worker.Timeouts
import NatStream.Worker.Truncation
