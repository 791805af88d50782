/-!
# Durations

A time span in whole seconds and nanoseconds below one second. As long as a 64-bit number of
seconds; adding one to a clock that counts 63 bits of seconds may overflow (`deadline?`).
-/

namespace Fanout

/-- A span of time. -/
structure Duration where
  seconds : Nat
  nanoseconds : Nat
  deriving DecidableEq

namespace Duration

def perSecond : Nat := 1000000000

def zero : Duration := ⟨0, 0⟩

def ofNanoseconds (n : Nat) : Duration := ⟨n / perSecond, n % perSecond⟩

def ofMilliseconds (n : Nat) : Duration := ofNanoseconds (n * 1000000)

def ofSeconds (n : Nat) : Duration := ⟨n, 0⟩

def toNanoseconds (d : Duration) : Nat := d.seconds * perSecond + d.nanoseconds

def isZero (d : Duration) : Bool := d.toNanoseconds = 0

/-- The largest number of seconds that a clock shows. -/
def clockLimit : Nat := UInt64.size / 2 - 1

/-- The reading of a clock after a span has passed, if the clock goes that far. -/
def deadline? (now d : Duration) : Option Duration :=
  let later := ofNanoseconds (now.toNanoseconds + d.toNanoseconds)
  if later.seconds ≤ clockLimit then some later else none

/-- The decimal digits of `n`, filled up to `width` places, without the zeros at the end. -/
def fractionDigits (width n : Nat) : String :=
  let digits := (toString n).toList
  let padded := List.replicate (width - digits.length) '0' ++ digits
  String.ofList (padded.reverse.dropWhile (· = '0')).reverse

/-- A span of `whole` units and `part` of `10 ^ width` parts of a unit. -/
def inUnit (whole width part : Nat) (unit : String) : String :=
  let fraction := fractionDigits width part
  if fraction.isEmpty then s!"{whole}{unit}" else s!"{whole}.{fraction}{unit}"

/-- The span in the largest unit of which it has a whole one, without zeros at the end. -/
def render (d : Duration) : String :=
  if 0 < d.seconds then inUnit d.seconds 9 d.nanoseconds "s"
  else if 1000000 ≤ d.nanoseconds then
    inUnit (d.nanoseconds / 1000000) 6 (d.nanoseconds % 1000000) "ms"
  else if 1000 ≤ d.nanoseconds then
    inUnit (d.nanoseconds / 1000) 3 (d.nanoseconds % 1000) "µs"
  else inUnit d.nanoseconds 0 0 "ns"

instance : ToString Duration := ⟨render⟩

end Duration

end Fanout
