import Fanout.Buffer.Pool
import Fanout.Channel
import Fanout.Event
import Fanout.Fault
import Fanout.Memory

/-!
# Partitions

A partition takes the output of one producer: one subpartition per channel, each with one consumer
that receives what was sent to it, in order. What a subpartition holds is everything sent to it so
far together with how much of it the consumer has received; the difference is its queue.

A partition may refuse calls: its fault plans say which buffers, events and end-of-superstep markers
it will not take. It keeps a record of all that was offered to it, taken or not (`offers`), which no
consumer sees and no consumer can change.
-/

namespace Fanout

/-- The identifier of the dataset that a partition belongs to. -/
structure Dataset where
  id : String
  deriving DecidableEq

/-- What is known about a partition from the start. -/
structure PartitionInfo where
  dataset : Dataset
  subpartitions : Nat
  /-- The channel that is consumed on the producer's own node. -/
  localChannel : Option ChannelId
  deriving DecidableEq

namespace PartitionInfo

/-- The bytes that each end of a subpartition takes. -/
def endSize : Nat := 16

/-- Whether memory could be asked for the ends of all subpartitions. -/
def fitsMemory (info : PartitionInfo) : Bool := Memory.admits info.subpartitions endSize

end PartitionInfo

/-- What a consumer receives. -/
inductive Delivery where
  | buffer (b : Buffer)
  | event (e : Event)
  | endOfSuperstep
  deriving DecidableEq

def bufferCount (ds : Array Delivery) : Nat :=
  ds.foldl (fun n d => match d with | .buffer _ => n + 1 | _ => n) 0

/-- One channel of a partition. -/
structure Subpartition where
  /-- Everything sent, oldest first. -/
  sent : Array Delivery
  /-- How many of these the consumer has received. -/
  received : Nat
  connected : Bool

namespace Subpartition

def start : Subpartition := ⟨#[], 0, true⟩

def queue (s : Subpartition) : Array Delivery := s.sent.extract s.received s.sent.size

def queued (s : Subpartition) : Nat := s.sent.size - s.received

def receiveAll (s : Subpartition) : Subpartition := { s with received := s.sent.size }

def receiveOne (s : Subpartition) : Subpartition :=
  { s with received := min (s.received + 1) s.sent.size }

def disconnect (s : Subpartition) : Subpartition :=
  { s with sent := s.sent.extract 0 s.received, connected := false }

end Subpartition

/-- Why a partition did not take what it was sent. -/
inductive TransportError where
  | refused (reason : String)
  | noSubpartition (channel : ChannelId) (dataset : Dataset)
  | disconnected (channel : ChannelId)
  /-- A subpartition lies beyond the channel indices. -/
  | indexOverflow
  deriving DecidableEq

def TransportError.message : TransportError → String
  | refused reason => reason
  | noSubpartition channel dataset => s!"{channel} is not a subpartition of {dataset.id}"
  | disconnected channel => s!"consumer of {channel} disconnected"
  | indexOverflow => "subpartition index overflow"

/-- A delivery that was offered for a channel, and whether it was taken. -/
structure Offer where
  channel : ChannelId
  delivery : Delivery
  taken : Bool
  deriving DecidableEq

/-- The output side of a producer. -/
structure Partition where
  info : PartitionInfo
  subpartitions : List Subpartition
  /-- How many channels the partition announces to a writer. -/
  width : Nat
  /-- Everything that was offered so far, oldest first. -/
  offers : Array Offer
  bufferFaults : FaultPlan String
  eventFaults : FaultPlan String
  markerFaults : FaultPlan String

/-- The calls of a partition that may fail. -/
inductive PartitionCall where
  | buffer
  | event
  | marker
  deriving DecidableEq

namespace Partition

/-- A partition with an empty subpartition per channel. -/
def make (info : PartitionInfo) : Partition where
  info := info
  subpartitions := List.replicate info.subpartitions Subpartition.start
  width := info.subpartitions
  offers := #[]
  bufferFaults := .none
  eventFaults := .none
  markerFaults := .none

/-- Plans the failures of one kind of call. -/
def failing (p : Partition) (call : PartitionCall) (plan : FaultPlan String) : Partition :=
  match call with
  | .buffer => { p with bufferFaults := plan }
  | .event => { p with eventFaults := plan }
  | .marker => { p with markerFaults := plan }

def update (p : Partition) (c : ChannelId) (f : Subpartition → Subpartition) : Partition :=
  { p with subpartitions := p.subpartitions.modify c.toNat f }

/-- Puts an offer on record. -/
def note (p : Partition) (c : ChannelId) (d : Delivery) (taken : Bool) : Partition :=
  { p with offers := p.offers.push ⟨c, d, taken⟩ }

def send (p : Partition) (c : ChannelId) (d : Delivery) : Except TransportError Unit × Partition :=
  match p.subpartitions[c.toNat]? with
  | none => (.error (.noSubpartition c p.info.dataset), p.note c d false)
  | some s =>
    if s.connected then
      (.ok (), (p.update c fun s => { s with sent := s.sent.push d }).note c d true)
    else (.error (.disconnected c), p.note c d false)

def writeBuffer (p : Partition) (c : ChannelId) (b : Buffer) :
    Except TransportError Unit × Partition :=
  let (fault, plan) := p.bufferFaults.next
  let p := { p with bufferFaults := plan }
  match fault with
  | some reason => (.error (.refused reason), p.note c (.buffer b) false)
  | none => p.send c (.buffer b)

def writeEvent (p : Partition) (c : ChannelId) (e : Event) :
    Except TransportError Unit × Partition :=
  let (fault, plan) := p.eventFaults.next
  let p := { p with eventFaults := plan }
  match fault with
  | some reason => (.error (.refused reason), p.note c (.event e) false)
  | none => p.send c (.event e)

/-- Sends the end-of-superstep marker to `n` subpartitions from position `i` on, up to the first
that does not take it. -/
def markFrom (p : Partition) (i : Nat) : (n : Nat) → Except TransportError Unit × Partition
  | 0 => (.ok (), p)
  | n + 1 =>
    match ChannelId.ofNat? i with
    | none => (.error .indexOverflow, p)
    | some c =>
      match p.send c .endOfSuperstep with
      | (.error e, p) => (.error e, p)
      | (.ok (), p) => p.markFrom (i + 1) n

/-- Marks the end of a superstep on every subpartition. -/
def writeEndOfSuperstep (p : Partition) : Except TransportError Unit × Partition :=
  let (fault, plan) := p.markerFaults.next
  let p := { p with markerFaults := plan }
  match fault with
  | some reason => (.error (.refused reason), p)
  | none => p.markFrom 0 p.subpartitions.length

/-- The queue of a channel whose consumer is there. -/
def queue? (p : Partition) (c : ChannelId) : Option (Array Delivery) :=
  match p.subpartitions[c.toNat]? with
  | some s => if s.connected then some s.queue else none
  | none => none

def queuedBuffers (p : Partition) (c : ChannelId) : Nat :=
  match p.subpartitions[c.toNat]? with
  | some s => bufferCount s.queue
  | none => 0

def allQueuedBuffers (p : Partition) : Nat :=
  p.subpartitions.foldl (fun n s => n + bufferCount s.queue) 0

def receiveEverywhere (p : Partition) : Partition :=
  { p with subpartitions := p.subpartitions.map Subpartition.receiveAll }

end Partition

end Fanout
