import Fanout.Partition
import Fanout.Record.Frame

/-!
# Reassembling a stream

The consumer of a channel pushes the buffers it receives and takes the frames that are complete.
Where the buffers were cut does not matter: the borders come from the length fields alone.
-/

namespace Fanout

/-- The bytes received and not yet taken. -/
structure Reassembly where
  pending : ByteArray

namespace Reassembly

def start : Reassembly := ⟨ByteArray.empty⟩

/-- Appends the contents of the next buffer. -/
def push (r : Reassembly) (data : ByteArray) : Reassembly := ⟨r.pending ++ data⟩

/-- Appends the contents of the buffers among some deliveries. -/
def receive (r : Reassembly) (deliveries : Array Delivery) : Reassembly :=
  deliveries.foldl (fun r d => match d with | .buffer b => r.push b.bytes | _ => r) r

def buffered (r : Reassembly) : Nat := r.pending.size

/-- Whether bytes are left; at the end of a stream, that its last record was cut short. -/
def hasPartial (r : Reassembly) : Bool := r.buffered ≠ 0

/-- The payload length that the first four bytes announce. -/
def announced (r : Reassembly) : Nat :=
  frameLength (octets (r.pending.extract 0 lengthFieldSize))

/-- Takes the first payload, if its frame is complete. -/
def nextFrame? (r : Reassembly) : Option (ByteArray × Reassembly) :=
  if r.buffered < lengthFieldSize then none
  else
    let length := r.announced
    if r.buffered - lengthFieldSize < length then none
    else
      let border := lengthFieldSize + length
      some (r.pending.extract lengthFieldSize border, ⟨r.pending.extract border r.buffered⟩)

theorem buffered_nextFrame?_lt {r r' : Reassembly} {payload : ByteArray}
    (h : r.nextFrame? = some (payload, r')) : r'.buffered < r.buffered := by
  simp only [nextFrame?] at h
  split at h
  · contradiction
  · split at h
    · contradiction
    · simp only [Option.some.injEq, Prod.mk.injEq] at h
      obtain ⟨_, rfl⟩ := h
      simp only [buffered, ByteArray.size_extract, lengthFieldSize] at *
      omega

/-- Takes and decodes the first record, if its frame is complete. A record that cannot be decoded is
consumed all the same. -/
def nextRecord (s : Schema) (r : Reassembly) : Except RecordError (Option s.Value) × Reassembly :=
  match r.nextFrame? with
  | none => (.ok none, r)
  | some (payload, r) =>
    match decodeRecord s (octets payload) with
    | .ok record => (.ok (some record), r)
    | .error e => (.error e, r)

/-- Takes every complete frame. -/
def drainFrames (r : Reassembly) : List ByteArray × Reassembly :=
  match h : r.nextFrame? with
  | none => ([], r)
  | some (payload, r') =>
    have := buffered_nextFrame?_lt h
    let (payloads, last) := r'.drainFrames
    (payload :: payloads, last)
termination_by r.buffered

/-- Takes and decodes records until none is complete or one cannot be decoded; in that case the
records before it are lost. -/
def drainRecords (s : Schema) (r : Reassembly) : Except RecordError (List s.Value) × Reassembly :=
  match h : r.nextFrame? with
  | none => (.ok [], r)
  | some (payload, r') =>
    have := buffered_nextFrame?_lt h
    match decodeRecord s (octets payload) with
    | .error e => (.error e, r')
    | .ok record =>
      match r'.drainRecords s with
      | (.error e, last) => (.error e, last)
      | (.ok records, last) => (.ok (record :: records), last)
termination_by r.buffered

end Reassembly

end Fanout
