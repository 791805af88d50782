import Fanout.Duration

/-!
# Throttled warnings

A full disk turns every record into a failure. Warnings go out at most once per interval, each with
the number of failures that were kept quiet before it, so that none is lost from the count.
-/

namespace Fanout

/-- The state of throttled warnings. -/
structure Throttle where
  interval : Duration
  /-- When the last warning went out. -/
  last : Option Duration
  /-- The failures since then. -/
  pending : Nat
  total : Nat

namespace Throttle

def start (interval : Duration) : Throttle := ⟨interval, none, 0, 0⟩

def usualInterval : Duration := Duration.ofSeconds 10

def isDue (t : Throttle) (now : Duration) : Bool :=
  match t.last with
  | none => true
  | some last =>
    t.interval.toNanoseconds ≤ now.toNanoseconds - last.toNanoseconds

/-- Counts a failure. If a warning goes out now, tells how many failures before it were kept
quiet. -/
def warn (t : Throttle) (now : Duration) : Option Nat × Throttle :=
  let t := { t with pending := t.pending + 1, total := t.total + 1 }
  if t.isDue now then (some (t.pending - 1), { t with last := some now, pending := 0 })
  else (none, t)

end Throttle

end Fanout
