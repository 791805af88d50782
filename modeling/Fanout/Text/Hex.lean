/-!
# Hexadecimal text

A byte string as text, two lower-case digits for each byte.
-/

namespace Fanout.Text

def byteDigits (b : UInt8) : List Char :=
  [Nat.digitChar (b.toNat / 16), Nat.digitChar (b.toNat % 16)]

def toHex (bytes : List UInt8) : String := String.ofList (bytes.flatMap byteDigits)

def digitValue? (c : Char) : Option Nat :=
  if c.isDigit then some (c.toNat - 48)
  else if 'a' ≤ c ∧ c ≤ 'f' then some (c.toNat - 87)
  else if 'A' ≤ c ∧ c ≤ 'F' then some (c.toNat - 55)
  else none

/-- The bytes of hexadecimal digits, if they come in pairs. -/
def bytesOfDigits? : List Char → Option (List UInt8)
  | [] => some []
  | [_] => none
  | a :: b :: rest => do
    let high ← digitValue? a
    let low ← digitValue? b
    let bytes ← bytesOfDigits? rest
    return UInt8.ofNat (16 * high + low) :: bytes

def ofHex? (text : String) : Option (List UInt8) := bytesOfDigits? text.toList

end Fanout.Text
