import Fanout.Reassembly
import Fanout.Writer.Error

/-!
# Consumers of a shuffle

The consumer of a channel reassembles the records that it receives and counts them. A superstep and
the stream itself must end between two records.
-/

namespace Fanout

/-- What one consumer received. -/
structure ChannelReport where
  channel : ChannelId
  records : Nat
  bytes : Nat
  events : Nat
  supersteps : Nat
  deriving DecidableEq

/-- Why a consumer gave up. -/
inductive ConsumerError where
  /-- Something else than a record arrived. -/
  | record (cause : RecordError)
  | superstepCut (channel : ChannelId)
  | streamCut (channel : ChannelId)
  deriving DecidableEq

def ConsumerError.chain : ConsumerError → List String
  | record cause => (WriterError.serialization cause).chain
  | superstepCut channel => [s!"{channel}: superstep ended inside a record"]
  | streamCut channel => [s!"{channel}: stream ended inside a record"]

/-- A consumer at work on records of type `s`. -/
structure Consumer where
  stream : Reassembly
  report : ChannelReport

namespace Consumer

def start (c : ChannelId) : Consumer := ⟨Reassembly.start, ⟨c, 0, 0, 0, 0⟩⟩

def receive (s : Schema) (c : Consumer) : Delivery → Except ConsumerError Consumer
  | .buffer b =>
    match (c.stream.push b.bytes).drainRecords s with
    | (.error e, _) => .error (.record e)
    | (.ok records, stream) =>
      .ok ⟨stream,
        { c.report with
          records := c.report.records + records.length
          bytes := c.report.bytes + b.size }⟩
  | .event _ => .ok { c with report := { c.report with events := c.report.events + 1 } }
  | .endOfSuperstep =>
    if c.stream.hasPartial then .error (.superstepCut c.report.channel)
    else .ok { c with report := { c.report with supersteps := c.report.supersteps + 1 } }

/-- What a consumer reports in the end. -/
def finish (c : Consumer) : Except ConsumerError ChannelReport :=
  if c.stream.hasPartial then .error (.streamCut c.report.channel) else .ok c.report

/-- Receives the deliveries of a channel from the first to the last. -/
def consume (s : Schema) (c : ChannelId) (deliveries : List Delivery) :
    Except ConsumerError ChannelReport := do
  let last ← deliveries.foldlM (receive s) (start c)
  last.finish

end Consumer

end Fanout
