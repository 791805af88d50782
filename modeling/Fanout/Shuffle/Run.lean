import Fanout.Config.Basic
import Fanout.Record.Key
import Fanout.Shuffle.Consumer
import Fanout.Writer.Vertex

/-!
# Shuffles

A shuffle runs some supersteps of a small job. In each of them every vertex messages its two
neighbours, and then the superstep is ended on all channels. One consumer per channel receives what
is sent there. The consumers work beside the producer; since what they receive depends on the
producer alone, they are looked at when it is done.
-/

namespace Fanout

/-- What a shuffle is to do. -/
structure RunArgs where
  supersteps : Nat := 3
  /-- The number of vertices; each sends two messages per superstep. -/
  vertices : Nat := 1000
  /-- The number of channels, if it is not the configured one. -/
  channels : Option Nat := none
  /-- A checkpoint barrier follows every so many supersteps. -/
  checkpointInterval : Option Nat := none
  deriving DecidableEq

/-- What all consumers and the writer counted. -/
structure RunReport where
  channels : List ChannelReport
  metrics : Metrics

def RunReport.received (r : RunReport) : Nat := r.channels.foldl (fun n c => n + c.records) 0

inductive ShuffleError where
  | noChannels
  /-- Selection in turn can be replayed only over the former number of channels. -/
  | widthChanged (former channels : Nat)
  | replay (cause : RecoveryError)
  | pool (cause : PoolError)
  /-- No memory could be asked for what is to be made. -/
  | memory
  | setup (cause : WriterError)
  | producer (cause : WriterError)
  | consumer (cause : ConsumerError)
  deriving DecidableEq

def ShuffleError.chain : ShuffleError → List String
  | noChannels => ["channels must be greater than 0"]
  | widthChanged former channels =>
    [s!"round_robin replay needs the original {former} channels, got {channels}"]
  | replay cause => "building replay filter" :: cause.chain
  | pool cause => ["creating buffer pool", cause.message]
  | memory => ["capacity overflow"]
  | setup cause => "creating record writer" :: cause.chain
  | producer cause => cause.chain
  | consumer cause => cause.chain

namespace Shuffle

/-- The type of the targets and of the payloads. -/
abbrev word : Schema := .unsigned .w64

/-- The type of the records: messages to vertices. -/
abbrev record : Schema := .message word word

abbrev Policy := Selector record.Value

abbrev Producer := Writer Policy

def policy : SelectorKind → Policy
  | .roundRobin => .roundRobin RoundRobin.start
  | .broadcast => .broadcast ⟨⟩
  | .keyPartitioned => .keyPartitioned ⟨record.recordKey⟩

/-- The vertices to which a vertex has edges. -/
def neighbours (vertex vertices : UInt64) : List UInt64 :=
  if vertices ≤ 1 then [vertex]
  else [(vertex + 1) % vertices, (vertex * 31 + 7) % vertices]

/-- A number as a value of a record. -/
def wordValue (n : UInt64) : word.Value := n.toBitVec

def sendMessages (w : Producer) (step : Superstep) (vertices vertex : UInt64) :
    Except WriterError Unit × Producer :=
  let edges := (neighbours vertex vertices).map wordValue
  let v : Vertex Policy word.Value := Vertex.start w (some step) edges
  let (r, v) := v.sendAll (m := word) (wordValue (vertex ^^^ step.round.toUInt64))
  (r.map fun _ => (), v.writer)

/-- The last `n` vertices message their neighbours, in order. -/
def sendAllMessages (w : Producer) (step : Superstep) (vertices : UInt64) :
    (n : Nat) → Except WriterError Unit × Producer
  | 0 => (.ok (), w)
  | n + 1 =>
    match sendMessages w step vertices (vertices - UInt64.ofNat (n + 1)) with
    | (.error e, w) => (.error e, w)
    | (.ok (), w) => sendAllMessages w step vertices n

/-- Whether a checkpoint follows a superstep. -/
def isCheckpoint (interval : Option Nat) (step : Nat) : Bool :=
  match interval with
  | none => false
  | some every => 0 < every && (step + 1) % every = 0

def superstep (w : Producer) (args : RunArgs) (n : Nat) : Except WriterError Unit × Producer :=
  let step : Superstep := ⟨UInt32.ofNat n⟩
  match sendAllMessages w step (UInt64.ofNat args.vertices) args.vertices with
  | (.error e, w) => (.error e, w)
  | (.ok (), w) =>
    let (r, w) :=
      if isCheckpoint args.checkpointInterval n then
        w.broadcast (.barrier (UInt64.ofNat n) (some step))
      else (.ok (), w)
    match r with
    | .error e => (.error e, w)
    | .ok () => w.endSuperstep

/-- The last `n` supersteps, in order, and the end of the job. -/
def produce (w : Producer) (args : RunArgs) : (n : Nat) → Except WriterError Unit × Producer
  | 0 => w.close
  | n + 1 =>
    match superstep w args (args.supersteps - (n + 1)) with
    | (.error e, w) => (.error e, w)
    | (.ok (), w) => produce w args n

/-- The filter of a replay. -/
def replayFilter (c : Config) : Except RecoveryError (Option ReplayFilter) :=
  match c.recovery.replay with
  | none => .ok none
  | some r => (ReplayFilter.make r.lostChannel r.endSuperstep r.formerParallelism).map some

/-- What the clock shows when a shuffle starts. -/
def startOfClock : Duration := Duration.ofSeconds 1

def width (c : Config) (args : RunArgs) : Nat := args.channels.getD c.writer.channels

/-- The filter of the replay, if it agrees with the channels. -/
def checkedReplay (c : Config) (args : RunArgs) : Except ShuffleError (Option ReplayFilter) :=
  let channels := width c args
  if channels = 0 then .error .noChannels
  else match replayFilter c with
    | .error e => .error (.replay e)
    | .ok replay =>
      let former := (replay.map ReplayFilter.formerWidth).getD channels
      if c.writer.selector = .roundRobin ∧ former ≠ channels then
        .error (.widthChanged former channels)
      else .ok replay

def makePool (c : Config) : Except PoolError Pool :=
  Pool.make c.buffer.poolSize c.buffer.bufferSize

def partitionInfo (c : Config) (args : RunArgs) : PartitionInfo :=
  ⟨⟨c.recovery.dataset⟩, width c args, c.writer.localChannel⟩

/-- Whether memory could be asked for all that the setup of a shuffle comes to make. -/
def fitsMemory (c : Config) (args : RunArgs) : Bool :=
  match checkedReplay c args, makePool c with
  | .ok _, .ok pool => pool.fitsMemory && (partitionInfo c args).fitsMemory
  | _, _ => true

def setup (c : Config) (args : RunArgs) (surroundings : Surroundings) (d : Disk) :
    Except ShuffleError Producer :=
  match checkedReplay c args with
  | .error e => .error e
  | .ok replay =>
    match makePool c with
    | .error e => .error (.pool e)
    | .ok pool =>
      if !(pool.fitsMemory && (partitionInfo c args).fitsMemory) then .error .memory
      else
        let options : WriterOptions := {
          recoveryDir := if c.recovery.enabled then some c.recovery.path else none
          replay := replay
          patience := match c.buffer.requestTimeout with
            | some timeout => .upTo timeout
            | none => .unlimited }
        match Writer.make (Partition.make (partitionInfo c args)) pool (policy c.writer.selector)
            options startOfClock surroundings d with
        | .error e => .error (.setup e)
        | .ok w => .ok w

/-- What the consumers of all channels report; of several that failed, the one of the lowest channel
counts. -/
def consumeAll (p : Partition) : Except ConsumerError (List ChannelReport) :=
  p.subpartitions.zipIdx.mapM fun (s, i) =>
    Consumer.consume record (ChannelId.ofNat i) s.sent.toList

/-- Runs a shuffle among the given surroundings: what it reports, and the disk afterwards. The error
of a consumer counts before that of the producer, unless the producer came upon a deadline that no
clock can show: then nobody asks the consumers. -/
def runAmong (surroundings : Surroundings) (c : Config) (args : RunArgs) (d : Disk) :
    Except ShuffleError RunReport × Disk :=
  match setup c args surroundings d with
  | .error e => (.error e, d)
  | .ok w =>
    let (produced, w) := produce w args args.supersteps
    let metrics := w.metrics
    let d := w.drop.backup.disk
    match produced, consumeAll w.outlet.partition with
    | .error .deadlineOverflow, _ => (.error (.producer .deadlineOverflow), d)
    | _, .error e => (.error (.consumer e), d)
    | .error e, .ok _ => (.error (.producer e), d)
    | .ok (), .ok channels => (.ok ⟨channels, metrics⟩, d)

/-- Runs a shuffle with consumers that keep up. -/
def run (c : Config) (args : RunArgs) (d : Disk) : Except ShuffleError RunReport × Disk :=
  runAmong Surroundings.attentive c args d

end Shuffle

end Fanout
