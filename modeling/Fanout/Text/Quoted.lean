import Fanout.Text.Printable

/-!
# Quoted text

A text between double quotes on one line: quotes, backslashes and characters that have no picture
are escaped.
-/

namespace Fanout.Text

def hexDigits (n : Nat) : List Char := Nat.toDigits 16 n

def quoteChar (c : Char) : List Char :=
  if c = '"' then ['\\', '"']
  else if c = '\\' then ['\\', '\\']
  else if c = '\n' then ['\\', 'n']
  else if c = '\r' then ['\\', 'r']
  else if c = '\t' then ['\\', 't']
  else if c = '\x00' then ['\\', '0']
  else if isPrintable c then [c]
  else ['\\', 'u', '\x7b'] ++ hexDigits c.toNat ++ ['\x7d']

def quoted (text : String) : String :=
  String.ofList ('"' :: text.toList.flatMap quoteChar ++ ['"'])

/-- A value with named fields on one line; `more` tells that there are fields which are not shown.
-/
def structured (name : String) (fields : List (String × String)) (more : Bool) : String :=
  let shown := fields.map fun (field, value) => s!"{field}: {value}"
  let all := if more then shown ++ [".."] else shown
  name ++ " \x7b " ++ ", ".intercalate all ++ " \x7d"

/-- A value in parentheses behind the name of its type. -/
def wrapped (name value : String) : String := s!"{name}({value})"

def optional (value : Option String) : String :=
  match value with
  | none => "None"
  | some value => wrapped "Some" value

end Fanout.Text
