/-!
# TOML values

The values of a TOML document, which is itself a table. Keys are unique within a table and keep
their order. Nothing here uses floating-point numbers, dates or times, so of those only the kind is
kept.
-/

namespace Fanout.Toml

inductive Value where
  | string (text : String)
  | integer (n : Int)
  | float
  | boolean (b : Bool)
  | datetime
  | array (items : List Value)
  | table (entries : List (String × Value))

/-- Why a text is no TOML document. -/
inductive Error where
  /-- Something else was expected at this place of the text. -/
  | expected (what : String)
  | outOfRange
  | duplicateKey (key : String)
  /-- A key leads through something that is no table. -/
  | notATable (key : String)
  | tooDeep
  deriving DecidableEq

def Error.message : Error → String
  | expected what => s!"expected {what}"
  | outOfRange => "number out of range"
  | duplicateKey key => s!"duplicate key {key}"
  | notATable key => s!"key {key} is not a table"
  | tooDeep => "recursion limit reached"

/-- Values, arrays and keys may be nested less deeply than this. -/
def nestingLimit : Nat := 80

/-- Reads from the front of a text and leaves what it did not consume. -/
abbrev Reader (α : Type) := StateT (List Char) (Except Error) α

/-- Whether a character separates words on a line. -/
def isSpace (c : Char) : Bool := c = ' ' || c = '\t'

/-- Whether a character may stand in comments and strings as it is: a tab or no control character.
-/
def isPlain (c : Char) : Bool := c = '\t' || (0x20 ≤ c.toNat && c.toNat ≠ 0x7f)

end Fanout.Toml
