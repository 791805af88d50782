import Fanout.Partition
import Fanout.Record.Frame
import Fanout.Routing.Selector

/-!
# Errors of a record writer

Any of them ends the work of the producer. Failures of the recovery log are not among them: the log
is best effort and only counts what it could not write.
-/

namespace Fanout

/-- A use of a writer that its state does not allow. -/
inductive IllegalState where
  | closed
  /-- A record was added while part of the previous one still waits for a buffer. -/
  | previousPending (bytes : Nat)
  /-- A channel is to be flushed while part of a record still waits for a buffer. -/
  | unfinishedRecord (channel : ChannelId) (bytes : Nat)
  /-- The partition or the former partition is too wide. -/
  | routing (cause : RoutingError)
  deriving DecidableEq

def IllegalState.message : IllegalState → String
  | closed => "record writer is closed"
  | previousPending bytes => s!"{bytes} bytes of the previous record are still pending"
  | unfinishedRecord channel bytes =>
    s!"serializer for {channel} holds {bytes} bytes of an unfinished record but no buffer"
  | routing cause => cause.message

/-- What a refused call was addressed to. -/
inductive TransportTarget where
  | channel (c : ChannelId)
  | partition
  deriving DecidableEq

def TransportTarget.label : TransportTarget → String
  | channel c => c.label
  | partition => "partition"

/-- Why an operation of a writer failed. -/
inductive WriterError where
  | serialization (cause : RecordError)
  /-- The partition did not take a buffer, an event or a marker. -/
  | transport (target : TransportTarget) (cause : TransportError)
  | poolDestroyed
  | bufferTimeout (timeout : Duration)
  /-- The selection has a channel that the partition lacks. -/
  | channelOutOfRange (channel : ChannelId) (width : Nat)
  | illegalState (state : IllegalState)
  | edgesAlreadyUsed
  /-- The end of a wait for a buffer lies beyond what a clock can show. -/
  | deadlineOverflow
  /-- A wait for a buffer that nothing can end. -/
  | starved
  deriving DecidableEq

namespace WriterError

def message : WriterError → String
  | serialization cause => s!"record serialization failed: {cause.message}"
  | transport target cause => s!"transport write failed on {target.label}: {cause.message}"
  | poolDestroyed => "buffer pool destroyed"
  | bufferTimeout timeout => s!"no buffer available within {timeout}"
  | channelOutOfRange channel width => s!"channel {channel} out of range for {width} channels"
  | illegalState state => s!"illegal writer state: {state.message}"
  | edgesAlreadyUsed => "outgoing edges already used for this vertex"
  | deadlineOverflow => "overflow when adding duration to instant"
  | starved => "no buffer will ever be available"

/-- The messages of the error and of its causes, outermost first. -/
def chain : WriterError → List String
  | serialization cause => message (.serialization cause) :: cause.chain
  | transport target cause => [message (.transport target cause), cause.message]
  | e => [e.message]

def ofRouting : RoutingError → WriterError
  | .channelOutOfRange channel width => .channelOutOfRange channel width
  | .tooManyChannels requested => .illegalState (.routing (.tooManyChannels requested))

def ofRequest : RequestError → WriterError
  | .destroyed => .poolDestroyed
  | .timedOut timeout => .bufferTimeout timeout
  | .deadlineOverflow => .deadlineOverflow
  | .starved => .starved

end WriterError

end Fanout
