import Fanout.Config.Basic
import Fanout.Segment.Listing
import Fanout.Segment.Reader

/-!
# Inspecting segments

The segments that a run left behind, each with the number of its records.
-/

namespace Fanout

/-- What is to be inspected, if it is not as configured. -/
structure InspectArgs where
  dir : Option String := none
  dataset : Option String := none
  deriving DecidableEq

/-- A segment and the number of records in it. -/
structure SegmentSummary where
  segment : SegmentInfo
  records : Nat

/-- Why segments could not be inspected. -/
inductive InspectError where
  | listing (dir : String) (cause : RecoveryError)
  | opening (cause : RecoveryError)
  | reading (path : String) (cause : RecoveryError)
  deriving DecidableEq

def InspectError.chain : InspectError → List String
  | listing dir cause => s!"listing segments in {dir}" :: cause.chain
  | opening cause => cause.chain
  | reading path cause => s!"reading {path}" :: cause.chain

namespace Inspect

/-- Counts the records of a segment. -/
def summarize (d : Disk) (segment : SegmentInfo) : Except InspectError SegmentSummary :=
  match SegmentReader.openAt segment.path d with
  | .error e => .error (.opening e)
  | .ok reader =>
    match reader.readAll.1 with
    | .error e => .error (.reading segment.path e)
    | .ok payloads => .ok ⟨segment, payloads.length⟩

/-- The segments of the dataset, by superstep and then by channel. -/
def collect (c : Config) (args : InspectArgs) (d : Disk) :
    Except InspectError (List SegmentSummary) :=
  let dir := args.dir.getD c.recovery.path
  match listSegments d dir ⟨args.dataset.getD c.recovery.dataset⟩ with
  | .error e => .error (.listing dir e)
  | .ok segments => segments.mapM (summarize d)

end Inspect

end Fanout
