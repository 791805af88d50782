import Fanout.Channel
import Fanout.Superstep
import Fanout.Partition
import Fanout.Disk.Path
import Fanout.Text.Decimal

/-!
# Segment names

A segment holds the records that one producer sent to one channel during one superstep. Its file is
named after the dataset, the channel and the superstep. The name of a dataset may itself hold
underscores, so a file name is read from the right.
-/

namespace Fanout

/-- Whose records a segment holds. -/
structure SegmentName where
  dataset : Dataset
  channel : ChannelId
  superstep : Superstep
  deriving DecidableEq

/-- Cuts a text at the last occurrence of a character. -/
def splitLast? (sep : Char) : List Char → Option (List Char × List Char)
  | [] => none
  | c :: rest =>
    match splitLast? sep rest with
    | some (before, after) => some (c :: before, after)
    | none => if c = sep then some ([], rest) else none

theorem splitLast?_eq_none {sep : Char} {text : List Char} (h : sep ∉ text) :
    splitLast? sep text = none := by
  induction text with
  | nil => rfl
  | cons c rest ih =>
    have hc : c ≠ sep := fun e => h (by simp [e])
    have hr : sep ∉ rest := fun e => h (by simp [e])
    simp [splitLast?, ih hr, hc]

theorem splitLast?_append {sep : Char} (before : List Char) {after : List Char}
    (h : sep ∉ after) : splitLast? sep (before ++ sep :: after) = some (before, after) := by
  induction before with
  | nil => simp [splitLast?, splitLast?_eq_none h]
  | cons c rest ih => simp [splitLast?, ih]

namespace SegmentName

def opening : List Char := "spindlelog_".toList

def ending : List Char := ".log".toList

def fileNameChars (n : SegmentName) : List Char :=
  opening ++ (n.dataset.id.toList ++ '_' :: (Decimal.digits n.channel.toNat
    ++ '_' :: Decimal.digits n.superstep.toNat)) ++ ending

def fileName (n : SegmentName) : String := String.ofList n.fileNameChars

def path (n : SegmentName) (dir : String) : String := Path.join dir n.fileName

/-- What stands between the opening and the ending of a text. -/
def stem? (text : List Char) : Option (List Char) :=
  match opening.isPrefixOf? text with
  | some rest => ending.isSuffixOf? rest
  | none => none

/-- The segment of a stem: from the right, the superstep, the channel and a dataset of at least one
character. -/
def ofStem? (stem : List Char) : Option SegmentName := do
  let (front, step) ← splitLast? '_' stem
  let superstep ← Decimal.read? UInt32.size step
  let (dataset, index) ← splitLast? '_' front
  let channel ← Decimal.read? maxChannels index
  if dataset.isEmpty then none
  else some ⟨⟨String.ofList dataset⟩, ChannelId.ofNat channel, ⟨UInt32.ofNat superstep⟩⟩

/-- The segment that a file name stands for; `none` if it is not the name of a segment. -/
def parse? (name : String) : Option SegmentName :=
  match stem? name.toList with
  | some stem => ofStem? stem
  | none => none

/-- Whether one segment is listed before another, or both have the same place. -/
def le (a b : SegmentName) : Bool :=
  a.superstep.toNat < b.superstep.toNat
    || (a.superstep.toNat = b.superstep.toNat && a.channel.toNat ≤ b.channel.toNat)

end SegmentName

end Fanout
