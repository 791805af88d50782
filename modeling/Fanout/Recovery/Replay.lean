import Fanout.Recovery.Error
import Fanout.Superstep

/-!
# Replay filters

After the loss of a node, a task runs again but produces only what went to the lost node before. The
filter looks at the selection that a record had in the former partition and keeps the record if its
first target was the lost channel. It applies up to the last superstep to be replayed, and always
outside iterations.
-/

namespace Fanout

/-- What a restarted producer is to emit again. -/
structure ReplayFilter where
  /-- The channel that the lost node consumed. -/
  lost : ChannelId
  /-- The last superstep to be replayed. -/
  lastStep : Superstep
  /-- The number of channels before the loss. -/
  formerWidth : Nat
  deriving DecidableEq

namespace ReplayFilter

/-- The filter, if the former partition had the lost channel. -/
def checked (f : ReplayFilter) : Except RecoveryError ReplayFilter :=
  if f.formerWidth = 0 ∨ maxChannels < f.formerWidth then
    .error (.invalidReplay (.parallelism f.formerWidth))
  else if f.lost.isWithin f.formerWidth then .ok f
  else .error (.invalidReplay (.lostChannel f.lost f.formerWidth))

/-- A filter for a channel that the former partition had. -/
def make (lost : ChannelId) (lastStep : Superstep) (formerWidth : Nat) :
    Except RecoveryError ReplayFilter :=
  checked ⟨lost, lastStep, formerWidth⟩

/-- Whether the filter applies to records of a superstep. -/
def isActive (f : ReplayFilter) (superstep : Option Superstep) : Bool :=
  match superstep with
  | none => true
  | some step => step ≤ f.lastStep

/-- Whether a record is emitted again that had this selection before. -/
def keeps (f : ReplayFilter) (selected : List ChannelId) : Bool := selected.head? = some f.lost

end ReplayFilter

end Fanout
