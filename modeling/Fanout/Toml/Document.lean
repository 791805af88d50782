import Fanout.Toml.Number
import Fanout.Toml.Text
import Fanout.Toml.Tree

/-!
# TOML documents

A document is a sequence of lines: keys with values, headers of tables and of array items, comments
and blank lines. Lines end with a line feed, with or without a carriage return before it.
-/

namespace Fanout.Toml

/-! ## Blanks and line ends -/

def skipSpaces : Reader Unit := fun input => .ok ((), input.dropWhile isSpace)

def dropComment : List Char → Except Error (List Char)
  | [] => .ok []
  | '\n' :: rest => .ok ('\n' :: rest)
  | '\r' :: '\n' :: rest => .ok ('\n' :: rest)
  | c :: rest => if isPlain c then dropComment rest else .error (.expected "a printable character")

/-- Reads the rest of a line, which may hold a comment. -/
def endLine : Reader Unit := fun input => do
  let input := input.dropWhile isSpace
  let input ← match input with
    | '#' :: rest => dropComment rest
    | input => .ok input
  match input with
  | [] => .ok ((), [])
  | '\n' :: rest => .ok ((), rest)
  | '\r' :: '\n' :: rest => .ok ((), rest)
  | _ => .error (.expected "the end of the line")

/-- Drops blanks, line breaks and comments between the items of an array. -/
def dropBetween (inComment : Bool) : List Char → Except Error (List Char)
  | [] => .ok []
  | '\n' :: rest => dropBetween false rest
  | '\r' :: '\n' :: rest => dropBetween false rest
  | c :: rest =>
    if inComment then
      if isPlain c then dropBetween true rest else .error (.expected "a printable character")
    else if isSpace c then dropBetween false rest
    else if c = '#' then dropBetween true rest
    else .ok (c :: rest)

/-- Drops blanks, line breaks and comments between the items of an array. -/
def skipBetween : Reader Unit := fun input => (dropBetween false input).map fun rest => ((), rest)

def takeChar (c : Char) : Reader Bool
  | d :: rest => if c = d then .ok (true, rest) else .ok (false, d :: rest)
  | [] => .ok (false, [])

/-- Takes a character that must come next. -/
def need (c : Char) : Reader Unit := do
  if !(← takeChar c) then throw (.expected (String.singleton c))

/-! ## Keys -/

/-- Whether a character may stand in a key without quotes. -/
def isBare (c : Char) : Bool := c.isAlphanum || c = '_' || c = '-'

def readKeyPart : Reader String := fun input =>
  match input with
  | '"' :: rest => (readBasic rest).map fun (text, rest) => (String.ofList text, rest)
  | '\'' :: rest => (readLiteral rest).map fun (text, rest) => (String.ofList text, rest)
  | input =>
    let name := input.takeWhile isBare
    if name.isEmpty then .error (.expected "a key")
    else .ok (String.ofList name, input.dropWhile isBare)

/-- Reads the parts of a key, at most `fuel` of them. -/
def readKeyParts : (fuel : Nat) → Reader (List String)
  | 0 => throw .tooDeep
  | fuel + 1 => do
    skipSpaces
    let part ← readKeyPart
    skipSpaces
    if ← takeChar '.' then return part :: (← readKeyParts fuel) else return [part]

/-- Reads a key: all parts but the last, and the last. -/
def readKey : Reader (List String × String) := do
  let parts ← readKeyParts (nestingLimit - 1)
  match parts.getLast? with
  | some last => return (parts.dropLast, last)
  | none => throw (.expected "a key")

/-! ## Values -/

/-- Reads the items of an array up to its closing bracket; `fuel` bounds their number. -/
def readItems (item : Reader Value) : (fuel : Nat) → Reader (List Value)
  | 0 => throw (.expected "]")
  | fuel + 1 => do
    skipBetween
    if ← takeChar ']' then return []
    let v ← item
    skipBetween
    if ← takeChar ',' then return v :: (← readItems item fuel)
    need ']'
    return [v]

/-- Reads a key and its value in braces. -/
def readPair (item : Reader Value) : Reader (List String × String × Value) := do
  let (path, key) ← readKey
  need '='
  skipSpaces
  let v ← item
  skipSpaces
  return (path, key, v)

/-- Reads keys and values up to the closing brace, after at least one; `fuel` bounds their number.
-/
def readPairs (item : Reader Value) (entries : Entries) : (fuel : Nat) → Reader Entries
  | 0 => throw (.expected "a closing brace")
  | fuel + 1 => do
    let (path, key, v) ← readPair item
    match Entries.addDotted path key v entries with
    | .error e => throw e
    | .ok entries =>
      if ← takeChar ',' then readPairs item entries fuel
      else
        need '\x7d'
        return entries

/-- Reads a word that stands for a value. -/
def readWord (word : String) (v : Value) : Reader Value := fun input =>
  match word.toList.isPrefixOf? input with
  | some rest => .ok (v, rest)
  | none => .error (.expected "a value")

/-- Reads a value. The items of arrays and tables are read by `inner`; without it there may be none.
-/
def readValueWith (inner : Option (Reader Value)) : Reader Value := fun input =>
  match input, inner with
  | '"' :: _, _ => (readString input).map fun (text, rest) => (.string text, rest)
  | '\'' :: _, _ => (readString input).map fun (text, rest) => (.string text, rest)
  | 't' :: _, _ => readWord "true" (.boolean true) input
  | 'f' :: _, _ => readWord "false" (.boolean false) input
  | '[' :: _, none => .error .tooDeep
  | '[' :: rest, some item =>
    (readItems item (rest.length + 1) rest).map fun (items, rest) => (.array items, rest)
  | '\x7b' :: _, none => .error .tooDeep
  | '\x7b' :: rest, some item =>
    match rest.dropWhile isSpace with
    | '\x7d' :: rest => .ok (.table [], rest)
    | rest =>
      (readPairs item [] (rest.length + 1) rest).map fun (entries, rest) =>
        (.table (entryValues entries), rest)
  | input, _ => readNumeric input

/-- Reads a value in which arrays and tables are nested at most `depth` deep. -/
def readValue : (depth : Nat) → Reader Value
  | 0 => readValueWith none
  | depth + 1 => readValueWith (some (readValue depth))

/-! ## Lines -/

/-- A document that is being read: what it holds so far and the path of the table to which keys
belong. -/
structure Draft where
  entries : Entries
  table : List String

def readHeader (d : Draft) : Reader Draft := do
  need '['
  let isItem ← takeChar '['
  let (path, key) ← readKey
  need ']'
  if isItem then need ']'
  endLine
  let define := if isItem then Entries.defineItem else Entries.defineTable
  match define path key d.entries with
  | .ok entries => return ⟨entries, path ++ [key]⟩
  | .error e => throw e

def readKeyValue (d : Draft) : Reader Draft := do
  let (path, key) ← readKey
  need '='
  skipSpaces
  let v ← readValue (nestingLimit - 1)
  endLine
  match Entries.addBelow d.table path key v d.entries with
  | .ok entries => return { d with entries := entries }
  | .error e => throw e

def readLine (d : Draft) : Reader Draft := do
  skipSpaces
  match ← get with
  | '[' :: _ => readHeader d
  | '#' :: _ => do endLine; return d
  | '\n' :: _ => do endLine; return d
  | '\r' :: _ => do endLine; return d
  | [] => return d
  | _ => readKeyValue d

/-- Reads the lines of a document; `fuel` bounds their number. -/
def readDocument (d : Draft) : (fuel : Nat) → List Char → Except Error Draft
  | 0, _ => .ok d
  | _ + 1, [] => .ok d
  | fuel + 1, input => do
    let (d, rest) ← readLine d input
    readDocument d fuel rest

def dropMark : List Char → List Char
  | '\ufeff' :: rest => rest
  | text => text

/-- The table that a document describes. -/
def parse (text : String) : Except Error (List (String × Value)) := do
  let input := dropMark text.toList
  let d ← readDocument ⟨[], []⟩ (input.length + 1) input
  return entryValues d.entries

end Fanout.Toml
