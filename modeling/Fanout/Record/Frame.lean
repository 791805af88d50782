import Fanout.Record.Encode
import Fanout.Record.Decode

/-!
# Frames

A frame is the length of a payload in four bytes, most significant first, followed by the payload.
Readers find the borders between records by the length alone, however the frames were cut up on the
way. A payload is one encoded record: decoding it must consume all of it.
-/

namespace Fanout

def lengthFieldSize : Nat := 4

/-- The largest payload that the length field can announce. -/
def maxPayload : Nat := UInt32.size - 1

/-- What can go wrong between records and frames. -/
inductive RecordError where
  | encode (cause : EncodeError)
  | decode (cause : DecodeError)
  | tooLarge (size : Nat)
  | trailingBytes (consumed length : Nat)
  /-- The input ends inside a frame. -/
  | truncated (expected actual : Nat)
  deriving DecidableEq

namespace RecordError

/-- Whether the record itself is at fault, and not the bytes received. -/
def blamesRecord : RecordError → Bool
  | encode _ => true
  | tooLarge _ => true
  | decode _ => false
  | trailingBytes _ _ => false
  | truncated _ _ => false

end RecordError

namespace EncodeError

def message : EncodeError → String
  | refused reason => reason
  | unsizedSequence => "sequence of unknown length"

end EncodeError

namespace DecodeError

def message : DecodeError → String
  | unexpectedEnd => "unexpected end of input"
  | integerWidth => "invalid integer type"
  | notBoolean => "invalid boolean value"
  | optionTag => "unexpected variant"
  | notChar => "invalid character encoding"
  | notUtf8 => "string is not UTF-8"
  | unknownVariant index => s!"unknown variant {index}"
  | unreadable => "value cannot be read back"
  | beyondMemory => "length of a string beyond memory"

end DecodeError

namespace RecordError

def message : RecordError → String
  | encode cause => s!"failed to encode record: {cause.message}"
  | decode cause => s!"failed to decode record: {cause.message}"
  | tooLarge size => s!"record too large: {size} bytes exceeds maximum {maxPayload}"
  | trailingBytes consumed length =>
    s!"trailing bytes after record: consumed {consumed} of {length}"
  | truncated expected actual => s!"truncated frame: expected {expected} bytes, got {actual}"

/-- The messages of the error and of its causes, outermost first. -/
def chain : RecordError → List String
  | encode cause => [message (.encode cause), cause.message]
  | decode cause => [message (.decode cause), cause.message]
  | e => [e.message]

end RecordError

def frameOf (payload : List UInt8) : List UInt8 :=
  Bytes.bigEndian lengthFieldSize payload.length ++ payload

/-- The payload length that a length field announces. -/
def frameLength (header : List UInt8) : Nat := Bytes.ofBigEndian header

def encodeRecord (s : Schema) (record : s.Value) : Except RecordError (List UInt8) :=
  match s.encode record with
  | .error cause => .error (.encode cause)
  | .ok payload =>
    if payload.length ≤ maxPayload then .ok (frameOf payload)
    else .error (.tooLarge payload.length)

/-- Appends the frame of a record to some bytes: the size of the frame, and the bytes afterwards.
The length field stays blank until the payload is there. Without a frame the bytes are cut back to
what they were. -/
def appendRecord (s : Schema) (record : s.Value) (out : List UInt8) :
    Except RecordError Nat × List UInt8 :=
  let opened := out ++ List.replicate lengthFieldSize 0
  match s.encode record with
  | .error cause => (.error (.encode cause), opened.take out.length)
  | .ok payload =>
    let written := opened ++ payload
    if payload.length ≤ maxPayload then
      (.ok (lengthFieldSize + payload.length),
        Bytes.overwrite written out.length (Bytes.bigEndian lengthFieldSize payload.length))
    else (.error (.tooLarge payload.length), written.take out.length)

/-- The record in a payload, which must hold nothing else. -/
def decodeRecord (s : Schema) (payload : List UInt8) : Except RecordError s.Value :=
  match s.decode payload with
  | .error cause => .error (.decode cause)
  | .ok (record, rest) =>
    if rest.isEmpty then .ok record
    else .error (.trailingBytes (payload.length - rest.length) payload.length)

@[simp] theorem length_frameOf (payload : List UInt8) :
    (frameOf payload).length = lengthFieldSize + payload.length := by
  simp [frameOf]

/-- What is appended is the frame, whatever was there before. -/
theorem appendRecord_eq (s : Schema) (record : s.Value) (out : List UInt8) :
    appendRecord s record out = match encodeRecord s record with
      | .ok frame => (.ok frame.length, out ++ frame)
      | .error e => (.error e, out) := by
  unfold appendRecord encodeRecord
  cases s.encode record with
  | error cause => simp
  | ok payload =>
    by_cases hfit : payload.length ≤ maxPayload
    · have hblank : (Bytes.bigEndian lengthFieldSize payload.length).length =
          (List.replicate lengthFieldSize (0 : UInt8)).length := by simp
      simp only [hfit, if_true, length_frameOf, Bytes.overwrite_append hblank]
      rw [frameOf, List.append_assoc]
    · simp only [hfit, if_false, List.append_assoc, List.take_left]

end Fanout
