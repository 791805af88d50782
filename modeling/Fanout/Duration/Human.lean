import Fanout.Duration
import Fanout.Text.Blank

/-!
# Durations as people write them

A duration is written as one or more spans, each a number and a unit: `1h 30min`, `2.5s`. Blanks may
stand anywhere except inside a unit. A number may have a fraction, which must come out exactly: in
nanoseconds for units up to a minute, in seconds for longer ones. A lone `0` needs no unit.
-/

namespace Fanout

/-- Why a text is no duration. -/
inductive DurationError where
  | empty
  | numberExpected
  | unexpectedCharacter (c : Char)
  /-- The separator is not followed by a digit. -/
  | emptyFraction
  | unknownUnit (name : String)
  /-- A number does not fit 64 bits, or a fraction does not come out exactly. -/
  | overflow
  /-- The nanoseconds of the spans make up one more second than there are. -/
  | pastLastSecond
  deriving DecidableEq

namespace DurationError

def message : DurationError → String
  | empty => "value was empty"
  | numberExpected => "expected number"
  | unexpectedCharacter c => s!"invalid character {c}"
  | emptyFraction => "digit expected after the decimal point"
  | unknownUnit name => s!"unknown time unit {name}"
  | overflow => "number is too large or cannot be represented without a lack of precision"
  | pastLastSecond => "nanoseconds beyond the last second"

end DurationError

namespace Duration

/-- A unit of time: how many seconds or nanoseconds it has, and how finely it is divided. -/
inductive TimeUnit where
  /-- A unit below a second that cannot be divided. -/
  | nanosecond
  /-- A unit below a second, of so many nanoseconds. -/
  | small (nanoseconds : Nat)
  /-- A second or a minute: so many seconds, divided down to nanoseconds. -/
  | medium (seconds : Nat)
  /-- A longer unit, divided down to seconds. -/
  | large (seconds : Nat)
  deriving DecidableEq

def unitNames : List (String × TimeUnit) :=
  let named (names : List String) (u : TimeUnit) := names.map fun name => (name, u)
  named ["nanos", "nsec", "ns"] .nanosecond
    ++ named ["usec", "us", "µs"] (.small 1000)
    ++ named ["millis", "msec", "ms"] (.small 1000000)
    ++ named ["seconds", "second", "secs", "sec", "s"] (.medium 1)
    ++ named ["minutes", "minute", "mins", "min", "m"] (.medium 60)
    ++ named ["hours", "hour", "hrs", "hr", "h"] (.large 3600)
    ++ named ["days", "day", "d"] (.large 86400)
    ++ named ["weeks", "week", "wks", "wk", "w"] (.large 604800)
    ++ named ["months", "month", "M"] (.large 2630016)
    ++ named ["years", "year", "yrs", "yr", "y"] (.large 31557600)

def fitting (n : Nat) : Except DurationError Nat :=
  if n < UInt64.size then .ok n else .error .overflow

/-- The quotient, if it is exact; the dividend must fit 64 bits. -/
def exactly (n d : Nat) : Except DurationError Nat := do
  let n ← fitting n
  if n % d = 0 then return n / d else throw .overflow

structure Fraction where
  numerator : Nat
  denominator : Nat

/-- The largest number of whole seconds of a span. -/
def lastSecond : Nat := UInt64.size - 1

/-- Adds seconds and nanoseconds. Nanoseconds that make up exactly one second are the last to be
carried, when all else has been found to fit. -/
def add (d : Duration) (seconds nanoseconds : Nat) : Except DurationError Duration := do
  let nanoseconds ← fitting (d.nanoseconds + nanoseconds)
  if nanoseconds = perSecond ∧ d.seconds + seconds = lastSecond then throw .pastLastSecond
  let seconds ← fitting (d.seconds + seconds + nanoseconds / perSecond)
  return ⟨seconds, nanoseconds % perSecond⟩

def addWhole (d : Duration) (n : Nat) : TimeUnit → Except DurationError Duration
  | .nanosecond => d.add 0 n
  | .small size => do d.add 0 (← fitting (n * size))
  | .medium size => do d.add (← fitting (n * size)) 0
  | .large size => do d.add (← fitting (n * size)) 0

def addPart (d : Duration) (f : Fraction) : TimeUnit → Except DurationError Duration
  | .nanosecond => .error .overflow
  | .small size => do d.add 0 (← exactly (f.numerator * size) f.denominator)
  | .medium size => do d.add 0 (← exactly (f.numerator * (size * perSecond)) f.denominator)
  | .large size => do d.add (← exactly (f.numerator * size) f.denominator) 0

def addSpan (d : Duration) (n : Nat) (f : Option Fraction) (name : String) :
    Except DurationError Duration := do
  match unitNames.lookup name with
  | none => throw (.unknownUnit name)
  | some u =>
    let d ← d.addWhole n u
    match f with
    | none => return d
    | some f => d.addPart f u

/-- What has been read of the current span. -/
inductive SpanState where
  | start
  /-- Digits of the number. -/
  | whole (n : Nat)
  /-- The number and digits of its fraction. -/
  | part (n : Nat) (f : Fraction)
  /-- Letters of the unit, last letter first. -/
  | unit (n : Nat) (f : Option Fraction) (letters : List Char)

def isUnitLetter (c : Char) : Bool := c.isAlpha || c = 'µ'

def appendDigit (n : Nat) (c : Char) : Except DurationError Nat :=
  fitting (n * 10 + (c.toNat - 48))

def Fraction.append (f : Fraction) (c : Char) : Except DurationError Fraction := do
  return ⟨← appendDigit f.numerator c, ← fitting (f.denominator * 10)⟩

def close (d : Duration) (n : Nat) (f : Option Fraction) (letters : List Char) :
    Except DurationError Duration :=
  d.addSpan n f (String.ofList letters.reverse)

/-- Reads spans and adds them up. -/
def readSpans (d : Duration) : SpanState → List Char → Except DurationError Duration
  | .start, [] => .ok d
  | .start, c :: rest =>
    if c.isDigit then d.readSpans (.whole (c.toNat - 48)) rest
    else if Text.isBlank c then d.readSpans .start rest
    else .error .numberExpected
  | .whole n, [] => d.close n none []
  | .whole n, c :: rest =>
    if c.isDigit then do d.readSpans (.whole (← appendDigit n c)) rest
    else if Text.isBlank c then d.readSpans (.whole n) rest
    else if isUnitLetter c then d.readSpans (.unit n none [c]) rest
    else if c = '.' then d.readSpans (.part n ⟨0, 1⟩) rest
    else .error (.unexpectedCharacter c)
  | .part n f, [] => if f.denominator = 1 then .error .emptyFraction else d.close n (some f) []
  | .part n f, c :: rest =>
    if c.isDigit then do d.readSpans (.part n (← f.append c)) rest
    else if Text.isBlank c then d.readSpans (.part n f) rest
    else if isUnitLetter c then
      if f.denominator = 1 then .error .emptyFraction else d.readSpans (.unit n (some f) [c]) rest
    else .error (.unexpectedCharacter c)
  | .unit n f letters, [] => d.close n f letters
  | .unit n f letters, c :: rest =>
    if c.isDigit then do (← d.close n f letters).readSpans (.whole (c.toNat - 48)) rest
    else if Text.isBlank c then do (← d.close n f letters).readSpans .start rest
    else if isUnitLetter c then d.readSpans (.unit n f (c :: letters)) rest
    else .error (.unexpectedCharacter c)

/-- The duration that a text describes. -/
def ofHuman (text : String) : Except DurationError Duration :=
  if text = "0" then .ok zero
  else if Text.allBlank text then .error .empty
  else zero.readSpans .start text.toList

end Duration

end Fanout
