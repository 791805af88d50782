import Fanout.Toml.Value
import Fanout.Text.Decimal

/-!
# TOML numbers, dates and times

Integers have 64 bits; they are written in base ten with an optional sign, or in base two, eight or
sixteen behind a prefix. A single underscore may stand between two digits. A float has a fraction,
an exponent or both, and must not lie beyond the largest double.
-/

namespace Fanout.Toml

/-- A row of digits, with single underscores between digits left out, and the rest. -/
def digitRun (isDigit : Char → Bool) : List Char → List Char × List Char
  | [] => ([], [])
  | c :: rest =>
    if isDigit c then
      match rest with
      | '_' :: d :: more =>
        if isDigit d then
          let (digits, last) := digitRun isDigit (d :: more)
          (c :: digits, last)
        else ([c], rest)
      | rest =>
        let (digits, last) := digitRun isDigit rest
        (c :: digits, last)
    else ([], c :: rest)

def takeSign : List Char → Bool × List Char
  | '-' :: rest => (true, rest)
  | '+' :: rest => (false, rest)
  | text => (false, text)

/-- The digits of a decimal number, which has no leading zeros, and the rest. -/
def decimalDigits? : List Char → Option (List Char × List Char)
  | '0' :: rest => some (['0'], rest)
  | text =>
    match digitRun Char.isDigit text with
    | ([], _) => none
    | run => some run

/-- The number that digits in a base spell. -/
def numberIn (base : Nat) (digits : List Char) : Nat :=
  digits.foldl (fun n c =>
    let d := if c.isDigit then c.toNat - 48 else if c.isLower then c.toNat - 87 else c.toNat - 55
    base * n + d) 0

def fittingInteger (n : Int) : Except Error Value :=
  if Int64.minValue.toInt ≤ n ∧ n ≤ Int64.maxValue.toInt then .ok (.integer n)
  else .error .outOfRange

/-- Reads an integer behind the prefix of its base. -/
def readBased (base : Nat) (isDigit : Char → Bool) : Reader Value := fun input =>
  match digitRun isDigit input with
  | ([], _) => .error (.expected "digits")
  | (digits, rest) => (fittingInteger (numberIn base digits)).map fun v => (v, rest)

def isHexDigit (c : Char) : Bool := c.isDigit || ('a' ≤ c && c ≤ 'f') || ('A' ≤ c && c ≤ 'F')

def readInteger : Reader Value := fun input =>
  match input with
  | '0' :: 'x' :: rest => readBased 16 isHexDigit rest
  | '0' :: 'o' :: rest => readBased 8 (fun c => '0' ≤ c && c ≤ '7') rest
  | '0' :: 'b' :: rest => readBased 2 (fun c => c = '0' || c = '1') rest
  | input =>
    let (negative, text) := takeSign input
    match decimalDigits? text with
    | none => .error (.expected "an integer")
    | some (digits, rest) =>
      let n : Int := numberIn 10 digits
      (fittingInteger (if negative then -n else n)).map fun v => (v, rest)

/-! ## Floats -/

def exponent? : List Char → Option (Int × List Char)
  | c :: rest =>
    if c = 'e' || c = 'E' then
      let (negative, text) := takeSign rest
      match digitRun Char.isDigit text with
      | ([], _) => none
      | (digits, rest) =>
        let n : Int := numberIn 10 digits
        some (if negative then -n else n, rest)
    else none
  | [] => none

/-- A number that rounds to a double beyond the largest one is at least this. -/
def overflowBound : Nat := 1 <<< 1024 - 1 <<< 970

/-- Whether `m * 10 ^ e` lies beyond the largest double. -/
def exceedsDouble (m : Nat) (e : Int) : Bool :=
  let digits : Int := (Decimal.digits m).length
  if m = 0 ∨ digits + e < 309 then false
  else if 309 < digits + e then true
  else if 0 ≤ e then overflowBound ≤ m * Nat.pow 10 e.toNat
  else overflowBound * Nat.pow 10 (-e).toNat ≤ m

def fraction? : List Char → Option (List Char × List Char)
  | '.' :: rest =>
    match digitRun Char.isDigit rest with
    | ([], _) => none
    | run => some run
  | _ => none

/-- A float from its parts; a positive one must be finite. -/
def floatOf (negative : Bool) (digits fraction : List Char) (exponent : Int) : Except Error Value :=
  if !negative && exceedsDouble (numberIn 10 (digits ++ fraction)) (exponent - fraction.length) then
    .error .outOfRange
  else .ok .float

def readFloat? (input : List Char) : Option (Except Error (Value × List Char)) :=
  let (negative, text) := takeSign input
  match text with
  | 'i' :: 'n' :: 'f' :: rest => some (.ok (.float, rest))
  | 'n' :: 'a' :: 'n' :: rest => some (.ok (.float, rest))
  | text => do
    let (digits, rest) ← decimalDigits? text
    match fraction? rest with
    | some (fraction, rest) =>
      let (exponent, rest) := (exponent? rest).getD (0, rest)
      return (floatOf negative digits fraction exponent).map fun v => (v, rest)
    | none =>
      let (exponent, rest) ← exponent? rest
      return (floatOf negative digits [] exponent).map fun v => (v, rest)

/-! ## Dates and times -/

/-- A number of exactly `width` digits within bounds, and the rest. -/
def fixed? (width least greatest : Nat) (text : List Char) : Option (Nat × List Char) :=
  let digits := text.take width
  if digits.length = width ∧ digits.all Char.isDigit then
    let n := numberIn 10 digits
    if least ≤ n ∧ n ≤ greatest then some (n, text.drop width) else none
  else none

/-- The rest behind a character. -/
def behind? (c : Char) : List Char → Option (List Char)
  | d :: rest => if c = d then some rest else none
  | [] => none

def daysIn (year month : Nat) : Nat :=
  if month = 2 then
    if year % 4 = 0 ∧ (year % 100 ≠ 0 ∨ year % 400 = 0) then 29 else 28
  else if month = 4 ∨ month = 6 ∨ month = 9 ∨ month = 11 then 30
  else 31

/-- The rest behind a date. -/
def date? (text : List Char) : Option (List Char) := do
  let (year, text) ← fixed? 4 0 9999 text
  let (month, text) ← fixed? 2 1 12 (← behind? '-' text)
  let (_, text) ← fixed? 2 1 (daysIn year month) (← behind? '-' text)
  return text

/-- The rest behind a fraction of a second, if there is one. -/
def secondFraction (text : List Char) : List Char :=
  match text with
  | '.' :: c :: rest => if c.isDigit then rest.dropWhile Char.isDigit else text
  | _ => text

/-- The rest behind a time of day. -/
def time? (text : List Char) : Option (List Char) := do
  let (_, text) ← fixed? 2 0 23 text
  let (_, text) ← fixed? 2 0 59 (← behind? ':' text)
  let (_, text) ← fixed? 2 0 60 (← behind? ':' text)
  return secondFraction text

/-- The rest behind an offset from universal time. -/
def offset? (text : List Char) : Option (List Char) :=
  match text with
  | 'Z' :: rest => some rest
  | 'z' :: rest => some rest
  | c :: rest =>
    if c = '+' || c = '-' then do
      let (_, rest) ← fixed? 2 0 23 rest
      let (_, rest) ← fixed? 2 0 59 (← behind? ':' rest)
      return rest
    else none
  | [] => none

/-- The rest behind a time that follows a date, if there is one. -/
def timeOfDate (text : List Char) : List Char :=
  match text with
  | c :: rest =>
    if c = 'T' || c = 't' || c = ' ' then
      match time? rest with
      | some rest => (offset? rest).getD rest
      | none => text
    else text
  | [] => text

/-- The rest behind a date, a time or both. -/
def datetime? (text : List Char) : Option (List Char) :=
  match date? text with
  | some rest => some (timeOfDate rest)
  | none => time? text

/-- Reads whatever starts like a number. -/
def readNumeric : Reader Value := fun input =>
  match datetime? input with
  | some rest => .ok (.datetime, rest)
  | none =>
    match readFloat? input with
    | some r => r
    | none => readInteger input

end Fanout.Toml
