import Fanout.Record.Varint

/-!
# Encoding records

The encoding of a value is determined by its type: integers of more than one byte are
variable-length numbers, strings and sequences carry their length in front, an optional value is
preceded by a tag, and the fields of a tuple simply follow each other. The first part of a record
that cannot be encoded, in the order of its bytes, decides the error.

The length of a sequence is a 64-bit number and the index of a variant a 32-bit one; a longer
sequence cannot announce its length.
-/

namespace Fanout

/-- Why a record could not be encoded. -/
inductive EncodeError where
  /-- The record refuses, for the given reason. -/
  | refused (reason : String)
  /-- A sequence does not announce its length. -/
  | unsizedSequence
  deriving DecidableEq

/-- The length of a sequence, a 64-bit number. -/
def encodeLength (n : Nat) : Except EncodeError (List UInt8) :=
  if n < UInt64.size then .ok (Varint.encode n) else .error .unsizedSequence

/-- The index of a variant, a 32-bit number. -/
def encodeIndex (index : Nat) : Except EncodeError (List UInt8) :=
  if index < UInt32.size then .ok (Varint.encode index)
  else .error (.refused "variant index beyond 32 bits")

def encodeEach {α : Type} (encode : α → Except EncodeError (List UInt8)) :
    List α → Except EncodeError (List UInt8)
  | [] => .ok []
  | v :: vs => do
    let head ← encode v
    let tail ← encodeEach encode vs
    return head ++ tail

namespace Schema

/-- The number in `width` bytes, or as a variable-length number where it has more than one. -/
def encodeUnsigned (w : IntWidth) (n : BitVec w.bits) : List UInt8 :=
  match w with
  | .w8 => [UInt8.ofNat n.toNat]
  | _ => Varint.encode n.toNat

/-- Signed numbers of more than one byte are folded first. -/
def encodeSigned (w : IntWidth) (n : BitVec w.bits) : List UInt8 :=
  match w with
  | .w8 => [UInt8.ofNat n.toNat]
  | _ => Varint.encode (zigzag n.toInt)

mutual

def encode : (s : Schema) → s.Value → Except EncodeError (List UInt8)
  | .unit, _ => .ok []
  | .bool, (b : Bool) => .ok [if b then 1 else 0]
  | .unsigned w, n => .ok (encodeUnsigned w n)
  | .signed w, n => .ok (encodeSigned w n)
  | .float32, (bits : UInt32) => .ok (Bytes.littleEndian 4 bits.toNat)
  | .float64, (bits : UInt64) => .ok (Bytes.littleEndian 8 bits.toNat)
  | .char, (c : Char) => .ok (String.utf8EncodeChar c)
  | .string, (s : String) =>
    let text := octets s.toUTF8
    .ok (Varint.encode text.length ++ text)
  | .bytes, (raw : List UInt8) => .ok (Varint.encode raw.length ++ raw)
  | .unencodable, (reason : String) => .error (.refused reason)
  | .option _, none => .ok [0]
  | .option s, some v => do
    let body ← encode s v
    return 1 :: body
  | .seq s, (vs : List s.Value) => do
    let length ← encodeLength vs.length
    let body ← encodeEach (encode s) vs
    return length ++ body
  | .unsizedSeq _, _ => .error .unsizedSequence
  | .tuple ss, fields => encodeFields ss fields
  | .map k v, (entries : List (k.Value × v.Value)) => do
    let length ← encodeLength entries.length
    let body ← encodeEach (fun entry => do
      let key ← encode k entry.1
      let value ← encode v entry.2
      return key ++ value) entries
    return length ++ body
  | .enum ss, choice => encodeChoice ss 0 choice
  | .message k m, (msg : Message k.Value m.Value) => do
    let target ← encode k msg.target
    let payload ← encode m msg.payload
    return target ++ payload

def encodeFields : (ss : List Schema) → Fields ss → Except EncodeError (List UInt8)
  | [], _ => .ok []
  | s :: ss, (v, vs) => do
    let head ← encode s v
    let tail ← encodeFields ss vs
    return head ++ tail

/-- The index of the variant, counted from `index`, and the bytes of its value. -/
def encodeChoice : (ss : List Schema) → (index : Nat) → Choice ss → Except EncodeError (List UInt8)
  | [], _, choice => nomatch choice
  | s :: _, index, .inl v => do
    let tag ← encodeIndex index
    let body ← encode s v
    return tag ++ body
  | _ :: ss, index, .inr choice => encodeChoice ss (index + 1) choice

end

end Schema

end Fanout
