import Fanout.Proofs.Recovery.Kept

/-!
# The segments of a log that is closed

What the segments of a recovery log hold once it was used and closed, from what each use keeps.

* `keeps_of_finish` — all that was logged is kept, and no segment is open.
* `segments_callAll` — what each segment holds when the log is closed.
-/

namespace Fanout

namespace RecoveryLog

variable {scope : LogScope} {copies : List Copy} {l : RecoveryLog} {d d₀ : Disk}

/-- A log and its disk after one use. -/
def call (state : RecoveryLog × Disk) : LogCall → RecoveryLog × Disk
  | .frame now c superstep bytes => (state.1.logFrame now c superstep bytes state.2).2
  | .finish now => (state.1.finishAll now state.2).2

def callAll (state : RecoveryLog × Disk) (calls : List LogCall) : RecoveryLog × Disk :=
  calls.foldl call state

/-- The frame that one use logs, if it does. -/
def copied (state : RecoveryLog × Disk) : LogCall → List Copy
  | .frame now c superstep bytes =>
    match superstep, (state.1.logFrame now c superstep bytes state.2).1 with
    | some s, .logged => [⟨c, s, octets bytes⟩]
    | _, _ => []
  | .finish _ => []

/-- The frames that are logged one after the other. -/
def copiedAll (state : RecoveryLog × Disk) : List LogCall → List Copy
  | [] => []
  | use :: uses => copied state use ++ copiedAll (call state use) uses

theorem callAll_concat (state : RecoveryLog × Disk) (calls : List LogCall) (use : LogCall) :
    callAll state (calls ++ [use]) = call (callAll state calls) use := by
  rw [callAll, List.foldl_append]
  rfl

theorem Keeps.call {state : RecoveryLog × Disk} (h : Keeps scope d₀ copies state.1 state.2)
    (use : LogCall) :
    Keeps scope d₀ (copies ++ copied state use) (call state use).1 (call state use).2 := by
  cases use with
  | frame now c superstep bytes => exact h.logFrame now c superstep bytes
  | finish now =>
    rw [copied, List.append_nil]
    exact (h.finishAll now).1

theorem Keeps.callAll {state : RecoveryLog × Disk} (h : Keeps scope d₀ copies state.1 state.2)
    (calls : List LogCall) :
    Keeps scope d₀ (copies ++ copiedAll state calls) (callAll state calls).1
      (callAll state calls).2 := by
  induction calls generalizing state copies with
  | nil => exact (List.append_nil copies).symm ▸ h
  | cons use uses ih =>
    have hrest := ih (h.call use)
    rwa [List.append_assoc] at hrest

theorem copiedAll_concat (state : RecoveryLog × Disk) (calls : List LogCall) (use : LogCall) :
    copiedAll state (calls ++ [use]) = copiedAll state calls ++ copied (callAll state calls) use := by
  induction calls generalizing state with
  | nil => exact List.append_nil _
  | cons first calls ih =>
    rw [List.cons_append, copiedAll, ih, copiedAll, List.append_assoc]
    rfl

/-- A log that is closed by its last use keeps all it logged, and no segment is open. -/
theorem keeps_of_finish (scope : LogScope) (hd : d.Healthy) {calls : List LogCall} {now : Duration}
    (hlast : calls.getLast? = some (.finish now)) :
    Keeps scope d (copiedAll (make scope, d) calls) (callAll (make scope, d) calls).1
      (callAll (make scope, d) calls).2 ∧
    ∀ c, ((callAll (make scope, d) calls).1.channel c).segment = none := by
  have hstart : Keeps scope d [] (make scope, d).1 (make scope, d).2 := Keeps.start scope hd
  refine ⟨hstart.callAll calls, ?_⟩
  obtain ⟨before, rfl⟩ := List.getLast?_eq_some_iff.1 hlast
  rw [callAll_concat]
  exact ((hstart.callAll before).finishAll now).2

/-- A log of which no segment is open has all it logged on the disk, and has left the segments of
which it logged nothing. -/
theorem Keeps.segments (h : Keeps scope d₀ copies l d)
    (hnone : ∀ c, (l.channel c).segment = none) :
    (∀ copy ∈ copies, Closed scope copies copy.channel copy.superstep d) ∧
    ∀ c s, (∀ copy ∈ copies, ¬(copy.channel = c ∧ copy.superstep = s)) →
      ∀ place, d.find (scope.file c s) = .ok place → d.fileAt place = d₀.fileAt place := by
  obtain ⟨front, last, hends⟩ := scope.endsIn_path
  refine ⟨fun copy hcopy => h.closed hcopy fun w hw => ?_,
    fun c s hother place hfind => h.untouched fun copy hcopy => ?_⟩
  · exact nomatch (hnone _).symm.trans hw
  · have hne : ¬(c = copy.channel ∧ s = copy.superstep) := fun heq =>
      hother copy hcopy ⟨heq.1.symm, heq.2.symm⟩
    exact Disk.find_ne (hends _ _) (hends _ _) (SegmentName.name_ne hne) hfind

/-- **What the segments hold when the log is closed**: each one the frames that were logged since
its channel turned to its superstep, in their order. Those are all frames of the segment unless its
channel left the superstep and returned to it. A segment of which no frame was logged is as it
was. -/
theorem segments_callAll (scope : LogScope) (hd : d.Healthy) (calls : List LogCall)
    (now : Duration) :
    let copies := copiedAll (make scope, d) calls
    let d' := (callAll (make scope, d) (calls ++ [.finish now])).2
    (∀ copy ∈ copies, ∃ data,
      d'.dataAt (scope.file copy.channel copy.superstep) = .ok data ∧
      octets data = segmentOf copy.channel copy.superstep copies ∧
      (NotRevisited copy.superstep (copiesOn copy.channel copies) →
        octets data = ((copies.filter fun other =>
          other.channel = copy.channel ∧ other.superstep = copy.superstep).map
            Copy.bytes).flatten)) ∧
    ∀ c s, (∀ copy ∈ copies, ¬(copy.channel = c ∧ copy.superstep = s)) →
      ∀ place, d'.find (scope.file c s) = .ok place → d'.fileAt place = d.fileAt place := by
  intro copies d'
  have hlast : (calls ++ [LogCall.finish now]).getLast? = some (.finish now) :=
    List.getLast?_concat
  obtain ⟨hkeeps, hnone⟩ := keeps_of_finish scope hd hlast
  rw [copiedAll_concat, copied, List.append_nil] at hkeeps
  obtain ⟨hsegments, huntouched⟩ := hkeeps.segments hnone
  refine ⟨fun copy hcopy => ?_, huntouched⟩
  obtain ⟨id, hleads, hcontent⟩ := hsegments copy hcopy
  refine ⟨d'.content id, Disk.dataAt_eq_ok_iff.2 hleads.file?_eq, hcontent, fun hvisits => ?_⟩
  rw [hcontent, segmentOf_of_notRevisited hvisits]

/-! A small case: two channels, of which the first is the local one. -/

def smallScope : LogScope := ⟨"log", ⟨"small"⟩, 2, some ⟨0⟩⟩

/-- A segment that was closed in its superstep goes on after what it has. -/
theorem segments_callAll_small :
    let start := (make smallScope, Disk.empty)
    let calls : List LogCall :=
      [.frame .zero ⟨1⟩ (some ⟨4⟩) (pack [1, 2]), .finish .zero, .frame .zero ⟨1⟩ (some ⟨4⟩) (pack [3]),
        .frame .zero ⟨0⟩ (some ⟨4⟩) (pack [5])]
    ∃ data, (callAll start (calls ++ [.finish .zero])).2.dataAt (smallScope.file ⟨1⟩ ⟨4⟩) = .ok data ∧
      octets data = [1, 2, 3] := by
  intro start calls
  have hcopies : copiedAll start calls = [⟨⟨1⟩, ⟨4⟩, [1, 2]⟩, ⟨⟨1⟩, ⟨4⟩, [3]⟩] := by decide +kernel
  obtain ⟨hsegments, _⟩ := segments_callAll smallScope Disk.healthy_empty calls .zero
  rw [hcopies] at hsegments
  obtain ⟨data, hdata, hoctets, _⟩ := hsegments ⟨⟨1⟩, ⟨4⟩, [3]⟩ (by decide)
  exact ⟨data, hdata, hoctets.trans (by decide)⟩

/-- **A channel that returns to a superstep** starts its segment anew, and the frames that were
logged before are gone. -/
theorem segment_restarts_on_return :
    let start := (make smallScope, Disk.empty)
    let calls : List LogCall :=
      [.frame .zero ⟨1⟩ (some ⟨1⟩) (pack [1]), .frame .zero ⟨1⟩ (some ⟨2⟩) (pack [2]),
        .frame .zero ⟨1⟩ (some ⟨1⟩) (pack [3])]
    copiedAll start calls = [⟨⟨1⟩, ⟨1⟩, [1]⟩, ⟨⟨1⟩, ⟨2⟩, [2]⟩, ⟨⟨1⟩, ⟨1⟩, [3]⟩] ∧
    ((callAll start (calls ++ [.finish .zero])).2.file? (smallScope.file ⟨1⟩ ⟨1⟩)).map octets =
      some [3] := by
  decide +kernel

end RecoveryLog

end Fanout
