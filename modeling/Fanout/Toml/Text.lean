import Fanout.Toml.Value

/-!
# TOML strings

Strings between double quotes know escapes, strings between single quotes do not. Between triple
quotes a string may span lines; a line break right after the opening is dropped, and every other one
counts as a line feed. A backslash at the end of a line drops the break and the blanks that follow.
-/

namespace Fanout.Toml

def hexValue? (c : Char) : Option Nat :=
  if c.isDigit then some (c.toNat - 48)
  else if 'a' ≤ c ∧ c ≤ 'f' then some (c.toNat - 87)
  else if 'A' ≤ c ∧ c ≤ 'F' then some (c.toNat - 55)
  else none

def hexNumber? (digits : List Char) : Option Nat :=
  digits.foldlM (fun n c => (hexValue? c).map fun d => 16 * n + d) 0

def scalar? (digits : List Char) : Option Char := do
  let n ← hexNumber? digits
  if n.isValidChar then some (Char.ofNat n) else none

/-- The character that a letter behind a backslash stands for. -/
def escape? (c : Char) : Option Char :=
  match c with
  | 'b' => some '\x08'
  | 't' => some '\t'
  | 'n' => some '\n'
  | 'f' => some '\x0c'
  | 'r' => some '\r'
  | '"' => some '"'
  | '\\' => some '\\'
  | _ => none

def prepend (c : Char) : Except Error (List Char × List Char) → Except Error (List Char × List Char)
  | .ok (text, rest) => .ok (c :: text, rest)
  | .error e => .error e

def prependScalar (c : Option Char) (r : Except Error (List Char × List Char)) :
    Except Error (List Char × List Char) :=
  match c with
  | some c => prepend c r
  | none => .error (.expected "a unicode scalar value")

/-- Reads a string with escapes up to its closing quote. -/
def readBasic : List Char → Except Error (List Char × List Char)
  | [] => .error (.expected "a closing quote")
  | '"' :: rest => .ok ([], rest)
  | '\\' :: 'u' :: a :: b :: c :: d :: rest => prependScalar (scalar? [a, b, c, d]) (readBasic rest)
  | '\\' :: 'U' :: a :: b :: c :: d :: e :: f :: g :: h :: rest =>
    prependScalar (scalar? [a, b, c, d, e, f, g, h]) (readBasic rest)
  | '\\' :: c :: rest =>
    match escape? c with
    | some c => prepend c (readBasic rest)
    | none => .error (.expected "an escape")
  | c :: rest =>
    if isPlain c then prepend c (readBasic rest) else .error (.expected "a printable character")

/-- Reads a string without escapes up to its closing quote. -/
def readLiteral : List Char → Except Error (List Char × List Char)
  | [] => .error (.expected "a closing quote")
  | '\'' :: rest => .ok ([], rest)
  | c :: rest =>
    if isPlain c then prepend c (readLiteral rest) else .error (.expected "a printable character")

/-- Whether only blanks come before the end of the line. -/
def lineEnds : List Char → Bool
  | '\n' :: _ => true
  | '\r' :: '\n' :: _ => true
  | c :: rest => isSpace c && lineEnds rest
  | [] => false

/-- Reads a string of several lines with escapes up to its closing quotes. While `skipping`, blanks
and line breaks are dropped. -/
def readLines (skipping : Bool) : List Char → Except Error (List Char × List Char)
  | [] => .error (.expected "closing quotes")
  | '"' :: '"' :: '"' :: '"' :: '"' :: rest => .ok (['"', '"'], rest)
  | '"' :: '"' :: '"' :: '"' :: rest => .ok (['"'], rest)
  | '"' :: '"' :: '"' :: rest => .ok ([], rest)
  | '"' :: rest => prepend '"' (readLines false rest)
  | '\r' :: '\n' :: rest =>
    if skipping then readLines true rest else prepend '\n' (readLines false rest)
  | '\n' :: rest => if skipping then readLines true rest else prepend '\n' (readLines false rest)
  | '\\' :: 'u' :: a :: b :: c :: d :: rest =>
    prependScalar (scalar? [a, b, c, d]) (readLines false rest)
  | '\\' :: 'U' :: a :: b :: c :: d :: e :: f :: g :: h :: rest =>
    prependScalar (scalar? [a, b, c, d, e, f, g, h]) (readLines false rest)
  | '\\' :: c :: rest =>
    match escape? c with
    | some c => prepend c (readLines false rest)
    | none =>
      if lineEnds (c :: rest) then readLines true (c :: rest) else .error (.expected "an escape")
  | c :: rest =>
    if skipping && isSpace c then readLines true rest
    else if isPlain c then prepend c (readLines false rest)
    else .error (.expected "a printable character")

/-- Reads a string of several lines without escapes up to its closing quotes. -/
def readLiteralLines : List Char → Except Error (List Char × List Char)
  | [] => .error (.expected "closing quotes")
  | '\'' :: '\'' :: '\'' :: '\'' :: '\'' :: rest => .ok (['\'', '\''], rest)
  | '\'' :: '\'' :: '\'' :: '\'' :: rest => .ok (['\''], rest)
  | '\'' :: '\'' :: '\'' :: rest => .ok ([], rest)
  | '\r' :: '\n' :: rest => prepend '\n' (readLiteralLines rest)
  | '\n' :: rest => prepend '\n' (readLiteralLines rest)
  | c :: rest =>
    if isPlain c then prepend c (readLiteralLines rest)
    else .error (.expected "a printable character")

/-- A text without the line break at its front. -/
def dropBreak : List Char → List Char
  | '\n' :: rest => rest
  | '\r' :: '\n' :: rest => rest
  | text => text

def readString : Reader String := fun input =>
  let text := match input with
    | '"' :: '"' :: '"' :: rest => readLines false (dropBreak rest)
    | '\'' :: '\'' :: '\'' :: rest => readLiteralLines (dropBreak rest)
    | '"' :: rest => readBasic rest
    | '\'' :: rest => readLiteral rest
    | _ => .error (.expected "a string")
  text.map fun (text, rest) => (String.ofList text, rest)

end Fanout.Toml
