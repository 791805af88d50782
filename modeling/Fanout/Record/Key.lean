import Fanout.Record.Schema
import Fanout.Bytes

/-!
# Keys

The bytes by which a value counts as a key. Other than an encoding they need not be readable, only
to tell keys apart: integers take their full width, a string is closed by a byte that no string
contains, and every sequence tells its length first.
-/

namespace Fanout

/-- A length or a tag inside a key takes eight bytes. -/
def keyLength (n : Nat) : List UInt8 := Bytes.littleEndian 8 n

namespace Schema

mutual

def keyBytes : (s : Schema) → s.Value → List UInt8
  | .unit, _ => []
  | .bool, (b : Bool) => [if b then 1 else 0]
  | .unsigned w, n => Bytes.littleEndian w.bytes (BitVec.toNat n)
  | .signed w, n => Bytes.littleEndian w.bytes (BitVec.toNat n)
  | .float32, (bits : UInt32) => Bytes.littleEndian 4 bits.toNat
  | .float64, (bits : UInt64) => Bytes.littleEndian 8 bits.toNat
  | .char, (c : Char) => Bytes.littleEndian 4 c.toNat
  | .string, (s : String) => octets s.toUTF8 ++ [0xff]
  | .bytes, (raw : List UInt8) => keyLength raw.length ++ raw
  | .unencodable, (reason : String) => octets reason.toUTF8 ++ [0xff]
  | .option _, none => keyLength 0
  | .option s, some v => keyLength 1 ++ keyBytes s v
  | .seq s, (vs : List s.Value) => keyLength vs.length ++ vs.flatMap (keyBytes s)
  | .unsizedSeq s, (vs : List s.Value) => keyLength vs.length ++ vs.flatMap (keyBytes s)
  | .tuple ss, fields => fieldsKeyBytes ss fields
  | .map k v, (entries : List (k.Value × v.Value)) =>
    keyLength entries.length ++ entries.flatMap fun e => keyBytes k e.1 ++ keyBytes v e.2
  | .enum ss, choice => choiceKeyBytes ss 0 choice
  | .message k m, (msg : Message k.Value m.Value) =>
    keyBytes k msg.target ++ keyBytes m msg.payload

def fieldsKeyBytes : (ss : List Schema) → Fields ss → List UInt8
  | [], _ => []
  | s :: ss, (v, vs) => keyBytes s v ++ fieldsKeyBytes ss vs

/-- The index of the variant, counted from `index`, and the bytes of its value. -/
def choiceKeyBytes : (ss : List Schema) → (index : Nat) → Choice ss → List UInt8
  | [], _, choice => nomatch choice
  | s :: _, index, .inl v => keyLength index ++ keyBytes s v
  | _ :: ss, index, .inr choice => choiceKeyBytes ss (index + 1) choice

end

/-- The bytes of field `i` of a tuple; none if the tuple is shorter. -/
def fieldKeyBytes : (ss : List Schema) → (i : Nat) → Fields ss → List UInt8
  | [], _, _ => []
  | s :: _, 0, (v, _) => keyBytes s v
  | _ :: ss, i + 1, (_, vs) => fieldKeyBytes ss i vs

/-- The key of a record: the target of a message, and any other record as a whole. -/
def recordKey : (s : Schema) → s.Value → List UInt8
  | .message k _, (msg : Message _ _) => keyBytes k msg.target
  | s, v => keyBytes s v

/-- The key of a record that is field `i` of a tuple. -/
def tupleKey (i : Nat) : (s : Schema) → s.Value → List UInt8
  | .tuple ss, fields => fieldKeyBytes ss i fields
  | s, v => recordKey s v

end Schema

end Fanout
