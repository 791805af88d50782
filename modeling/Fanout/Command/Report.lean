import Fanout.Inspect
import Fanout.Shuffle.Run
import Fanout.Text.Column

/-!
# Reports

What the commands print: a table with a line per channel or segment, and totals below it. A chain of
errors is printed with its causes indented, and numbered if there are several.
-/

namespace Fanout.Report

open Text

/-- Lines of a report, each with its line feed. -/
def lines (ls : List String) : String := String.join (ls.map fun l => l ++ "\n")

/-- A float without decimal places; halves go to the even neighbour. -/
def roundToEven (x : Float) : Nat :=
  let floor := x.floor
  let n := floor.toUInt64.toNat
  let part := x - floor
  if part < 0.5 then n
  else if 0.5 < part then n + 1
  else if n % 2 = 0 then n
  else n + 1

def channelLine (r : ChannelReport) : String :=
  String.join [alignLeft 12 r.channel.label, " ", alignNumber 10 r.records, " ",
    alignNumber 12 r.bytes, " ", alignNumber 8 r.events, " ", alignNumber 10 r.supersteps]

def channelHead : String :=
  String.join [alignLeft 12 "CHANNEL", " ", alignRight 10 "RECORDS", " ", alignRight 12 "BYTES",
    " ", alignRight 8 "EVENTS", " ", alignRight 10 "SUPERSTEPS"]

def ofRun (r : RunReport) : String :=
  let t := r.metrics.traffic
  let m := r.metrics.backup
  let recovery :=
    if m.records = 0 ∧ m.failures = 0 then []
    else [s!"recovery log:      {m.records} records, {m.failures} failures"]
  lines ((channelHead :: r.channels.map channelLine)
    ++ ["",
      s!"records emitted:   {t.emitted}",
      s!"records filtered:  {t.filtered}",
      s!"records received:  {r.received}",
      s!"buffers written:   {t.buffers} (avg fill {roundToEven t.averageFill} bytes)"]
    ++ recovery)

def segmentLine (s : SegmentSummary) : String :=
  String.join [alignNumber 10 s.segment.name.superstep.toNat, " ",
    alignLeft 12 s.segment.name.channel.label, " ", alignNumber 10 s.records, " ",
    alignNumber 12 s.segment.size, "  ", s.segment.path]

def segmentHead : String :=
  String.join [alignRight 10 "SUPERSTEP", " ", alignLeft 12 "CHANNEL", " ", alignRight 10 "RECORDS",
    " ", alignRight 12 "BYTES", "  PATH"]

def ofInspection (ss : List SegmentSummary) : String :=
  if ss.isEmpty then lines ["no segments found"]
  else
    let total := ss.foldl (fun n s => n + s.records) 0
    lines ((segmentHead :: ss.map segmentLine)
      ++ ["", s!"{ss.length} segments, {total} records"])

/-- A text of several lines behind a mark; all lines but the first are indented by blanks. -/
def hanging (mark : String) (text : String) : String :=
  mark ++ ("\n" ++ padding mark.length "").intercalate (text.splitOn "\n")

def causes : List String → List String
  | [] => []
  | [single] => [hanging "    " single]
  | several => several.zipIdx.map fun (text, i) => hanging (alignNumber 5 i ++ ": ") text

def ofError : List String → String
  | [] => lines ["Error"]
  | [message] => lines ["Error: " ++ message]
  | message :: rest => lines (["Error: " ++ message, "", "Caused by:"] ++ causes rest)

end Fanout.Report
