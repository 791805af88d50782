/-!
# Record types and their values

`Schema` is the universe of record types and `Schema.Value` gives each of them its values: a value
is well typed by construction, so encoding and decoding never meet one of the wrong shape.

Integers are bit vectors of their width, read as unsigned or signed numbers. Floating-point numbers
are their bit patterns. Tuples are nested pairs (`Schema.Fields`) and the values of an enumeration
nested sums (`Schema.Choice`), whose depth is the index of the variant.
-/

namespace Fanout

inductive IntWidth where
  | w8 | w16 | w32 | w64 | w128
  deriving DecidableEq

def IntWidth.bytes : IntWidth → Nat
  | w8 => 1
  | w16 => 2
  | w32 => 4
  | w64 => 8
  | w128 => 16

def IntWidth.bits (w : IntWidth) : Nat := 8 * w.bytes

/-- A message addressed to a vertex. -/
structure Message (κ μ : Type) where
  target : κ
  payload : μ
  deriving DecidableEq

/-- The type of a record. -/
inductive Schema where
  | unit
  | bool
  | unsigned (w : IntWidth)
  | signed (w : IntWidth)
  | float32
  | float64
  | char
  | string
  | bytes
  /-- Values that refuse to be encoded, each with its reason. -/
  | unencodable
  | option (s : Schema)
  | seq (s : Schema)
  /-- Sequences that do not announce their length. -/
  | unsizedSeq (s : Schema)
  | tuple (ss : List Schema)
  | map (k v : Schema)
  | enum (ss : List Schema)
  | message (k m : Schema)

namespace Schema

mutual

/-- The values of a record type. -/
def Value : Schema → Type
  | .unit => Unit
  | .bool => Bool
  | .unsigned w => BitVec w.bits
  | .signed w => BitVec w.bits
  | .float32 => UInt32
  | .float64 => UInt64
  | .char => Char
  | .string => String
  | .bytes => List UInt8
  | .unencodable => String
  | .option s => Option s.Value
  | .seq s => List s.Value
  | .unsizedSeq s => List s.Value
  | .tuple ss => Fields ss
  | .map k v => List (k.Value × v.Value)
  | .enum ss => Choice ss
  | .message k m => Message k.Value m.Value

/-- One value of each type in the list. -/
def Fields : List Schema → Type
  | [] => Unit
  | s :: ss => s.Value × Fields ss

/-- A value of one of the types in the list. -/
def Choice : List Schema → Type
  | [] => Empty
  | s :: ss => s.Value ⊕ Choice ss

end

end Schema

end Fanout
