import Fanout.Bytes
import Fanout.Record.Schema

/-!
# Variable-length integers

Small numbers take one byte. Larger ones are a marker byte, which tells the width, followed by the
number in that width, least significant byte first. A reader accepts every width up to the one of
the integer type it reads, also one wider than the number needs.

Signed numbers are folded into unsigned ones first (`zigzag`), so that numbers near zero stay small.
-/

namespace Fanout

/-- Why a payload could not be decoded. -/
inductive DecodeError where
  | unexpectedEnd
  /-- An integer is written wider than its type, or behind no known marker. -/
  | integerWidth
  | notBoolean
  /-- The tag of an optional value is neither 0 nor 1. -/
  | optionTag
  | notChar
  | notUtf8
  /-- The enumeration has no variant of this index. -/
  | unknownVariant (index : Nat)
  /-- Values of this type cannot be read back. -/
  | unreadable
  /-- A string claims to be longer than memory can be. -/
  | beyondMemory
  deriving DecidableEq

/-- Reads from the front of a byte string and leaves what it did not consume. -/
abbrev Decoder (α : Type) := StateT (List UInt8) (Except DecodeError) α

def takeByte : Decoder UInt8
  | [] => .error .unexpectedEnd
  | b :: rest => .ok (b, rest)

def takeBytes (n : Nat) : Decoder (List UInt8) := fun input =>
  match Bytes.splitAt? n input with
  | some r => .ok r
  | none => .error .unexpectedEnd

namespace Varint

/-- The largest number that is its own encoding. -/
def maxSingleByte : Nat := 250

/-- The byte that announces a number of the given width. -/
def marker : IntWidth → UInt8
  | .w8 => 0
  | .w16 => 0xfb
  | .w32 => 0xfc
  | .w64 => 0xfd
  | .w128 => 0xfe

/-- The width that a marker byte announces. -/
def widthOf? (b : UInt8) : Option IntWidth :=
  if b = 0xfb then some .w16
  else if b = 0xfc then some .w32
  else if b = 0xfd then some .w64
  else if b = 0xfe then some .w128
  else none

/-- The narrowest width beyond one byte that holds a number. -/
def widthFor (n : Nat) : IntWidth :=
  if n < UInt16.size then .w16
  else if n < UInt32.size then .w32
  else if n < UInt64.size then .w64
  else .w128

/-- The encoding of a number below `2 ^ 128`. -/
def encode (n : Nat) : List UInt8 :=
  if n ≤ maxSingleByte then [UInt8.ofNat n]
  else marker (widthFor n) :: Bytes.littleEndian (widthFor n).bytes n

/-- Reads a number of an integer type of width `w`. -/
def decode (w : IntWidth) : Decoder Nat := do
  let b ← takeByte
  if b.toNat ≤ maxSingleByte then return b.toNat
  match widthOf? b with
  | none => throw .integerWidth
  | some width =>
    if width.bytes ≤ w.bytes then
      let digits ← takeBytes width.bytes
      return Bytes.ofLittleEndian digits
    else throw .integerWidth

end Varint

/-- Folds the signed numbers into the unsigned ones: 0, -1, 1, -2, … become 0, 1, 2, 3, … -/
def zigzag : Int → Nat
  | .ofNat n => 2 * n
  | .negSucc n => 2 * n + 1

def unzigzag (n : Nat) : Int :=
  if n % 2 = 0 then Int.ofNat (n / 2) else Int.negSucc (n / 2)

theorem unzigzag_zigzag (i : Int) : unzigzag (zigzag i) = i := by
  cases i with
  | ofNat n => simp [zigzag, unzigzag]
  | negSucc n =>
    have h1 : (2 * n + 1) % 2 = 1 := by omega
    have h2 : (2 * n + 1) / 2 = n := by omega
    simp [zigzag, unzigzag, h1, h2]

end Fanout
