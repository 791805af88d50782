import Fanout.Writer.Error

/-!
# Spanning serializers

One serializer per channel copies frames into buffers. A frame that does not fit the rest of the
held buffer is cut: the serializer keeps its place in the frame (`position`) and goes on when it is
given the next buffer (`install`). A frame may span any number of buffers.

What a serializer still owes is `pending`, the bytes of its frame behind `position`.
-/

namespace Fanout

/-- How far copying got. -/
inductive Progress where
  /-- The record is copied and the buffer has room. -/
  | recordCopied
  /-- The record is copied and the buffer is full, or there is none. -/
  | recordCopiedBufferFull
  /-- Part of the record waits for another buffer. -/
  | recordPending
  deriving DecidableEq

namespace Progress

def needsBuffer : Progress → Bool
  | recordCopied => false
  | recordCopiedBufferFull => true
  | recordPending => true

/-- Whether the record is copied completely. -/
def isComplete : Progress → Bool
  | recordCopied => true
  | recordCopiedBufferFull => true
  | recordPending => false

end Progress

/-- The state of one channel's serializer. -/
structure Serializer where
  /-- The frame of the record added last. -/
  frame : ByteArray
  /-- How many bytes of it are in buffers. -/
  position : Nat
  buffer : Option Buffer

namespace Serializer

def start : Serializer := ⟨ByteArray.empty, 0, none⟩

def pendingSize (s : Serializer) : Nat := s.frame.size - s.position

def hasPending (s : Serializer) : Bool := s.position < s.frame.size

def pending (s : Serializer) : ByteArray := s.frame.extract s.position s.frame.size

def held (s : Serializer) : List UInt8 :=
  match s.buffer with
  | some b => b.contents
  | none => []

/-- Copies as much of the frame as the held buffer takes. -/
def copy (s : Serializer) : Progress × Serializer :=
  match s.buffer with
  | none => (if s.hasPending then .recordPending else .recordCopiedBufferFull, s)
  | some b =>
    let taken := b.accepted s.pending
    let b := b.append s.pending
    let s := { s with position := s.position + taken, buffer := some b }
    (if s.hasPending then .recordPending
      else if b.isFull then .recordCopiedBufferFull
      else .recordCopied, s)

/-- Starts a frame. While bytes are pending that is refused and changes nothing; a record that could
not be encoded leaves an empty frame. -/
def add (s : Serializer) (frame : Except RecordError ByteArray) :
    Except WriterError Progress × Serializer :=
  if s.hasPending then (.error (.illegalState (.previousPending s.pendingSize)), s)
  else match frame with
    | .error cause =>
      (.error (.serialization cause), { s with frame := ByteArray.empty, position := 0 })
    | .ok frame =>
      let (progress, s) := copy { s with frame := frame, position := 0 }
      (.ok progress, s)

/-- Continues in the given buffer, which replaces the held one. -/
def install (s : Serializer) (b : Buffer) : Progress × Serializer :=
  copy { s with buffer := some b }

def release (s : Serializer) : Serializer := { s with buffer := none }

/-- Gives up the held buffer and forgets what was pending. -/
def clear (_s : Serializer) : Serializer := start

theorem size_pending (s : Serializer) : s.pending.size = s.pendingSize := by
  simp [pending, pendingSize, ByteArray.size_extract]

theorem hasPending_iff (s : Serializer) : s.hasPending = true ↔ 0 < s.pendingSize := by
  simp only [hasPending, pendingSize, decide_eq_true_eq]
  omega

/-- In a buffer with room, either the record is copied and room is left, or the wait gets
shorter. -/
theorem pendingSize_install_lt (s : Serializer) (b : Buffer) (hb : 0 < b.remaining)
    (h : (s.install b).1.needsBuffer = true) :
    (s.install b).2.pendingSize < s.pendingSize := by
  have hacc : b.accepted (s.pending) = min s.pendingSize b.remaining := by
    rw [Buffer.accepted, size_pending]
  have key : (s.install b).2.pendingSize = s.pendingSize - min s.pendingSize b.remaining := by
    simp only [install, copy, pendingSize]
    have : ({ s with buffer := some b } : Serializer).pending = s.pending := rfl
    rw [this, hacc]
    simp only [pendingSize]
    omega
  by_cases hp : s.pendingSize = 0
  · exfalso
    have hrem : (b.append s.pending).remaining = b.remaining := by
      rw [Buffer.remaining_append, hacc, hp]
      simp
    have h0 : ¬ s.position + b.accepted s.pending < s.frame.size := by
      rw [hacc, hp]
      simp only [pendingSize] at hp
      omega
    have : (s.install b).1 = .recordCopied := by
      simp only [install, copy]
      have e : ({ s with buffer := some b } : Serializer).pending = s.pending := rfl
      rw [e]
      simp only [hasPending, h0, decide_false, Bool.false_eq_true, if_false, Buffer.isFull, hrem,
        decide_eq_true_eq]
      rw [if_neg (by omega)]
    rw [this] at h
    simp [Progress.needsBuffer] at h
  · rw [key]
    omega

end Serializer

end Fanout
