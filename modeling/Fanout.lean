import Fanout.Describe
import Fanout.Main
import Fanout.Proofs.Buffer.Lending
import Fanout.Proofs.Record.Truncation
import Fanout.Proofs.Recovery.Faults
import Fanout.Proofs.Recovery.Sharing
import Fanout.Proofs.Segment.Progress
import Fanout.Proofs.Segment.Reading
import Fanout.Proofs.Shuffle.Causes
import Fanout.Proofs.Shuffle.Conservation
import Fanout.Proofs.Shuffle.Deadlines
import Fanout.Proofs.Shuffle.Inspection
import Fanout.Proofs.Shuffle.Overrides
import Fanout.Proofs.Stream.Records
import Fanout.Proofs.Writer.Aborts
import Fanout.Proofs.Writer.Barriers
import Fanout.Proofs.Writer.Closing
import Fanout.Proofs.Writer.Failures
import Fanout.Proofs.Writer.Isolation
import Fanout.Proofs.Writer.Metering
import Fanout.Proofs.Writer.Replays
import Fanout.Proofs.Writer.Serializers
import Fanout.Text.Hex
import Fanout.Proofs.Writer.Handovers
import Fanout.Proofs.Recovery.Warnings
