import Fanout.Memory
import Fanout.Record.Varint

/-!
# Decoding records

Reads a value of a given type from the front of a byte string. Every read consumes bytes that are
there or fails with the reason; lengths and indices are never trusted beyond them. The room for a
string is made before its bytes are looked at, so a length beyond memory counts first.
-/

namespace Fanout

def decodeEach {α : Type} (decode : Decoder α) : (n : Nat) → Decoder (List α)
  | 0 => return []
  | n + 1 => do
    let v ← decode
    let vs ← decodeEach decode n
    return v :: vs

/-- How many bytes a character takes, by its first byte. -/
def utf8Width? (b : UInt8) : Option Nat :=
  if b < 0x80 then some 1
  else if 0xc2 ≤ b ∧ b ≤ 0xdf then some 2
  else if 0xe0 ≤ b ∧ b ≤ 0xef then some 3
  else if 0xf0 ≤ b ∧ b ≤ 0xf4 then some 4
  else none

def decodeChar : Decoder Char := do
  let first ← takeByte
  match utf8Width? first with
  | none => throw .notChar
  | some width =>
    let others ← takeBytes (width - 1)
    match (pack (first :: others)).utf8DecodeChar? 0 with
    | some c => return c
    | none => throw .notChar

def decodeBlock : Decoder (List UInt8) := do
  let n ← Varint.decode .w64
  takeBytes n

/-- Reads a length and so many bytes of text. -/
def decodeText : Decoder String := do
  let n ← Varint.decode .w64
  unless Memory.admits n 1 do throw .beyondMemory
  let raw ← takeBytes n
  match String.fromUTF8? (pack raw) with
  | some text => return text
  | none => throw .notUtf8

namespace Schema

/-- One raw byte, or a variable-length number. -/
def decodeUnsigned : (w : IntWidth) → Decoder (BitVec w.bits)
  | .w8 => do
    let b ← takeByte
    return BitVec.ofNat _ b.toNat
  | w => do
    let n ← Varint.decode w
    return BitVec.ofNat _ n

/-- One raw byte, or a variable-length number unfolded. -/
def decodeSigned : (w : IntWidth) → Decoder (BitVec w.bits)
  | .w8 => do
    let b ← takeByte
    return BitVec.ofNat _ b.toNat
  | w => do
    let n ← Varint.decode w
    return BitVec.ofInt _ (unzigzag n)

def decodeBool : Decoder Bool := do
  let b ← takeByte
  if b = 0 then return false
  else if b = 1 then return true
  else throw .notBoolean

mutual

/-- Reads a value from the front of the input. -/
def decode : (s : Schema) → Decoder s.Value
  | .unit => return ()
  | .bool => decodeBool
  | .unsigned w => decodeUnsigned w
  | .signed w => decodeSigned w
  | .float32 => do
    let raw ← takeBytes 4
    return UInt32.ofNat (Bytes.ofLittleEndian raw)
  | .float64 => do
    let raw ← takeBytes 8
    return UInt64.ofNat (Bytes.ofLittleEndian raw)
  | .char => decodeChar
  | .string => decodeText
  | .bytes => decodeBlock
  | .unencodable => throw .unreadable
  | .option s => do
    let tag ← takeByte
    if tag = 0 then return none
    else if tag = 1 then
      let v ← decode s
      return some v
    else throw .optionTag
  | .seq s => do
    let n ← Varint.decode .w64
    decodeEach (decode s) n
  | .unsizedSeq s => do
    let n ← Varint.decode .w64
    decodeEach (decode s) n
  | .tuple ss => decodeFields ss
  | .map k v => do
    let n ← Varint.decode .w64
    decodeEach (do
      let key ← decode k
      let value ← decode v
      return (key, value)) n
  | .enum ss => do
    let index ← Varint.decode .w32
    decodeChoice ss index index
  | .message k m => do
    let target ← decode k
    let payload ← decode m
    return ⟨target, payload⟩

/-- Reads the fields of a tuple, one after the other. -/
def decodeFields : (ss : List Schema) → Decoder (Fields ss)
  | [] => return ()
  | s :: ss => do
    let v ← decode s
    let vs ← decodeFields ss
    return (v, vs)

/-- Reads a value of variant `index`, which is `skip` variants further in the list. -/
def decodeChoice : (ss : List Schema) → (index skip : Nat) → Decoder (Choice ss)
  | [], index, _ => throw (.unknownVariant index)
  | s :: _, _, 0 => do
    let v ← decode s
    return .inl v
  | _ :: ss, index, skip + 1 => do
    let choice ← decodeChoice ss index skip
    return .inr choice

end

end Schema

end Fanout
