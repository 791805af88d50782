import Fanout.Recovery.Error

/-!
# Reading segments

A segment reader takes frame after frame from a segment. The end of the file between two frames ends
the segment; the end inside a frame is damage. A directory can be opened but not read.
-/

namespace Fanout

structure SegmentReader where
  path : String
  source : Source
  /-- How many bytes were read. -/
  position : Nat

namespace SegmentReader

def openAt (path : String) (d : Disk) : Except RecoveryError SegmentReader :=
  match d.openForReading (Name.ofText path) with
  | .error e => .error (.io path e)
  | .ok source => .ok ⟨path, source, 0⟩

def left (r : SegmentReader) : Nat :=
  match r.source with
  | .bytes data => data.size - r.position
  | _ => 0

/-- Reads the next payload from `data`; `none` at the end. Damage uses up the rest. -/
def readBytes (r : SegmentReader) (data : ByteArray) :
    Except RecoveryError (Option ByteArray) × SegmentReader :=
  let present := data.size - r.position
  let atEnd := { r with position := data.size }
  if present = 0 then (.ok none, r)
  else if present < lengthFieldSize then
    (.error (.corruptFrame r.path (.lengthField present)), atEnd)
  else
    let body := r.position + lengthFieldSize
    let length := frameLength (octets (data.extract r.position body))
    let found := present - lengthFieldSize
    if found < length then
      (.error (.corruptFrame r.path (.payload length found)), atEnd)
    else (.ok (some (data.extract body (body + length))), { r with position := body + length })

/-- Reads the next payload; `none` at the end. Zeros without end are frames without payload. -/
def readFrame (r : SegmentReader) : Except RecoveryError (Option ByteArray) × SegmentReader :=
  match r.source with
  | .bytes data => r.readBytes data
  | .directory => (.error (.io r.path .isADirectory), r)
  | .zeros => (.ok (some ByteArray.empty), r)

/-- Reads and decodes the next record; `none` at the end. A payload that is no record is consumed
all the same. -/
def readRecord (s : Schema) (r : SegmentReader) :
    Except RecoveryError (Option s.Value) × SegmentReader :=
  match r.readFrame with
  | (.error e, r) => (.error e, r)
  | (.ok none, r) => (.ok none, r)
  | (.ok (some payload), r) =>
    match decodeRecord s (octets payload) with
    | .ok record => (.ok (some record), r)
    | .error e => (.error (.decode e), r)

theorem source_readBytes (r : SegmentReader) (data : ByteArray) :
    (r.readBytes data).2.source = r.source := by
  unfold readBytes
  dsimp only
  split
  · rfl
  · split
    · rfl
    · split <;> rfl

theorem left_readBytes_lt {r r' : SegmentReader} {data payload : ByteArray}
    (hs : r.source = .bytes data) (h : r.readBytes data = (.ok (some payload), r')) :
    r'.left < r.left := by
  have hsrc : r'.source = .bytes data := by
    have := source_readBytes r data
    rw [h] at this
    rw [this, hs]
  unfold readBytes at h
  dsimp only at h
  split at h
  · simp at h
  · split at h
    · simp at h
    · split at h
      · simp at h
      · simp only [Prod.mk.injEq, Except.ok.injEq, Option.some.injEq] at h
        obtain ⟨_, rfl⟩ := h
        simp only [left, hs, lengthFieldSize] at *
        omega

def readAll (r : SegmentReader) : Except RecoveryError (List ByteArray) × SegmentReader :=
  match hs : r.source with
  | .directory => (.error (.io r.path .isADirectory), r)
  | .zeros => (.error (.io r.path .endless), r)
  | .bytes data =>
    match h : r.readBytes data with
    | (.error e, r') => (.error e, r')
    | (.ok none, r') => (.ok [], r')
    | (.ok (some payload), r') =>
      have := left_readBytes_lt hs h
      match r'.readAll with
      | (.error e, last) => (.error e, last)
      | (.ok payloads, last) => (.ok (payload :: payloads), last)
termination_by r.left

/-- What the reader yields from here on, as far as the first `limit` items. An error does not end
the sequence, only the end of the file does. -/
def items (r : SegmentReader) : (limit : Nat) → List (Except RecoveryError ByteArray)
  | 0 => []
  | limit + 1 =>
    match r.readFrame with
    | (.error e, r) => .error e :: r.items limit
    | (.ok none, _) => []
    | (.ok (some payload), r) => .ok payload :: r.items limit

/-- Reads records up to the end or the first error, which is the last item. -/
def recordsUpTo (s : Schema) (r : SegmentReader) :
    (limit : Nat) → List (Except RecoveryError s.Value)
  | 0 => []
  | limit + 1 =>
    match r.readRecord s with
    | (.error e, _) => [.error e]
    | (.ok none, _) => []
    | (.ok (some record), r) => .ok record :: r.recordsUpTo s limit

/-- Reads every record up to the first error, which is the last item. -/
def records (s : Schema) (r : SegmentReader) : List (Except RecoveryError s.Value) :=
  r.recordsUpTo s (r.left + 1)

end SegmentReader

end Fanout
