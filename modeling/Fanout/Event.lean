import Fanout.Superstep

/-!
# Control events

Events travel on the same channels as records, never inside a record: a channel delivers an event
after all data that was emitted to it before.
-/

namespace Fanout

/-- A control event, delivered in order with the records of a channel. -/
inductive Event where
  /-- An event of the application: a kind that the consumer interprets, and an opaque payload. -/
  | application (kind : String) (payload : List UInt8)
  | endOfSuperstep
  | barrier (checkpoint : UInt64) (superstep : Option Superstep)
  deriving DecidableEq

namespace Event

/-- The short name of an event: its kind, or what it marks. -/
def name : Event → String
  | application kind _ => kind
  | endOfSuperstep => "end_of_superstep"
  | barrier _ _ => "checkpoint_barrier"

/-- Whether an event separates supersteps or checkpoints. -/
def isBarrier : Event → Bool
  | application _ _ => false
  | endOfSuperstep => true
  | barrier _ _ => true

end Event

end Fanout
