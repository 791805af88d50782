import Fanout.Segment.Name
import Fanout.Recovery.Error

/-!
# Listing segments

The segments of one dataset in a directory, by superstep and then by channel. Whatever else lies in
the directory is passed over: other names, other datasets, and everything that is no regular file.
-/

namespace Fanout

/-- A segment found on a disk. -/
structure SegmentInfo where
  path : String
  name : SegmentName
  size : Nat

/-- The segment that a directory entry stands for. -/
def SegmentInfo.ofEntry? (d : Disk) (dir : String) (dataset : Dataset) (name : Name) (node : Node) :
    Option SegmentInfo := do
  let file ← name.text?
  let segment ← SegmentName.parse? file
  if segment.dataset ≠ dataset then none
  else match node with
    | .file id => some ⟨Path.join dir file, segment, (d.content id).size⟩
    | _ => none

/-- The segments of a dataset in a directory. A directory that is missing has none. -/
def listSegments (d : Disk) (dir : String) (dataset : Dataset) :
    Except RecoveryError (List SegmentInfo) :=
  match d.entries (Name.ofText dir) with
  | .error .notFound => .ok []
  | .error e => .error (.io dir e)
  | .ok entries =>
    let segments := entries.filterMap fun (name, node) =>
      SegmentInfo.ofEntry? d dir dataset name node
    .ok (segments.mergeSort fun a b => a.name.le b.name)

end Fanout
