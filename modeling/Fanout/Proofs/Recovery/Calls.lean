import Fanout.Writer.Backup

/-!
# Calls of a recovery log

A log is handed frames and told to finish its segments. Whatever becomes of a frame, the log stays
one for the same scope, so whether a frame is meant for it (`LogScope.engages`) depends on the
channel and the superstep alone; and a backup counts each frame that is, logged or failed.

* `Backup.total_callAll` — the counters of a backup against the frames it was handed.
* `Backup.agrees_callAll` — the counter of a backup against that of its log.
-/

namespace Fanout

/-- One use of a recovery log. -/
inductive LogCall where
  | frame (now : Duration) (c : ChannelId) (superstep : Option Superstep) (bytes : ByteArray)
  /-- The end of a superstep, or of the log: the open segments are closed. -/
  | finish (now : Duration)

/-- A log for the scope takes the frames of a channel in a superstep. -/
def LogScope.engages (scope : LogScope) (c : ChannelId) (superstep : Option Superstep) : Bool :=
  (RecoveryLog.make scope).isEngaged c superstep

/-- The call hands over a frame that a log for the scope takes. -/
def LogScope.takes (scope : LogScope) : LogCall → Bool
  | .frame _ c superstep _ => scope.engages c superstep
  | .finish _ => false

namespace RecoveryLog

variable {l : RecoveryLog} {scope : LogScope} (now : Duration) (c : ChannelId) (d : Disk)

/-- The log is one for the scope, and has a state for each of its channels. -/
structure IsFor (l : RecoveryLog) (scope : LogScope) : Prop where
  scope_eq : l.scope = scope
  length_eq : l.channels.length = scope.width

theorem isFor_make (scope : LogScope) : (make scope).IsFor scope :=
  ⟨rfl, List.length_replicate⟩

/-! ## What lasts -/

/-- A property of logs that outlasts every change that a log makes on account of a channel: the
state of the channel is replaced, or something is counted. -/
structure Lasting (c : ChannelId) (P : RecoveryLog → Prop) : Prop where
  setChannel {l : RecoveryLog} (state : ChannelLog) : P l → P (l.setChannel c state)
  count {l : RecoveryLog} (failures : Throttle) (records opened : Nat) :
    P l → P { l with failures, records, opened }

namespace Lasting

variable {P : RecoveryLog → Prop} {c}

theorem finishSegment (hP : Lasting c P) (h : P l) (w : SegmentWriter) :
    P (l.finishSegment now w d).1 := by
  unfold RecoveryLog.finishSegment
  rcases w.finish d with ⟨_ | _, d'⟩
  · exact hP.count _ _ _ h
  · exact h

theorem leaveSegment (hP : Lasting c P) (h : P l) (step : Superstep) :
    P (l.leaveSegment now c step d).1 := by
  unfold RecoveryLog.leaveSegment
  split
  · exact h
  · split
    · exact h
    · exact hP.finishSegment now d (hP.setChannel _ h) _

theorem openSegment (hP : Lasting c P) (h : P l) (step : Superstep) :
    P (l.openSegment now c step d).2.1 := by
  unfold RecoveryLog.openSegment
  dsimp only
  split
  · exact hP.count _ _ _ (hP.setChannel _ h)
  · exact hP.count _ _ _ (hP.setChannel _ h)

theorem writeFrame (hP : Lasting c P) (h : P l) (step : Superstep) (w : SegmentWriter)
    (bytes : ByteArray) : P (l.writeFrame now c step w bytes d).2.1 := by
  unfold RecoveryLog.writeFrame
  rcases w.write bytes d with ⟨_ | _, w', d'⟩
  · exact hP.count _ _ _ (hP.setChannel _ h)
  · exact hP.count _ _ _ (hP.setChannel _ h)

/-- **A frame keeps what lasts**, whatever becomes of it. -/
theorem logFrame (hP : Lasting c P) (h : P l) (superstep : Option Superstep) (bytes : ByteArray) :
    P (l.logFrame now c superstep bytes d).2.1 := by
  unfold RecoveryLog.logFrame
  cases superstep with
  | none => exact h
  | some step =>
    dsimp only
    split
    · exact h
    · have hleft := hP.leaveSegment now d h step
      split
      · exact hP.writeFrame now _ hleft step _ bytes
      · split
        · exact hleft
        · have hopened := hP.openSegment now (l.leaveSegment now c step d).2 hleft step
          split
          · rename_i hopen
            rw [hopen] at hopened
            exact hopened
          · rename_i hopen
            rw [hopen] at hopened
            exact hP.writeFrame now _ hopened step _ bytes

theorem finishFrom (hP : ∀ c, Lasting c P) (h : P l) (i n : Nat) :
    P (l.finishFrom now i d n).2.1 := by
  induction n generalizing l i d with
  | zero => exact h
  | succ n ih =>
    unfold RecoveryLog.finishFrom
    dsimp only
    split
    · exact ih d h (i + 1)
    · have hchannel := hP (ChannelId.ofNat i)
      exact ih _ (hchannel.finishSegment now d (hchannel.setChannel _ h) _) (i + 1)

end Lasting

theorem IsFor.lasting (c : ChannelId) : Lasting c (·.IsFor scope) :=
  ⟨fun _ h => ⟨h.scope_eq, List.length_set.trans h.length_eq⟩, fun _ _ _ h => ⟨h.1, h.2⟩⟩

theorem IsFor.isEngaged_eq (h : l.IsFor scope) (superstep : Option Superstep) :
    l.isEngaged c superstep = scope.engages c superstep := by
  rw [LogScope.engages, isEngaged, isEngaged, h.scope_eq, h.length_eq,
    (isFor_make scope).length_eq]
  rfl

/-- A frame is skipped if and only if the log is not for it. -/
theorem outcome_eq_skipped_iff (superstep : Option Superstep) (bytes : ByteArray) :
    (l.logFrame now c superstep bytes d).1 = .skipped ↔ l.isEngaged c superstep = false := by
  have hwritten (l : RecoveryLog) (step : Superstep) (w : SegmentWriter) (d : Disk) :
      (l.writeFrame now c step w bytes d).1 ≠ .skipped := by
    unfold writeFrame
    rcases w.write bytes d with ⟨_ | _, w', d'⟩
    · exact LogOutcome.noConfusion
    · exact LogOutcome.noConfusion
  unfold logFrame
  cases superstep with
  | none => simp [isEngaged]
  | some step =>
    dsimp only
    cases hengaged : l.isEngaged c (some step) with
    | false => exact ⟨fun _ => rfl, fun _ => rfl⟩
    | true =>
      rw [if_neg (by simp)]
      refine ⟨fun h => absurd h ?_, fun h => nomatch h⟩
      split
      · exact hwritten _ _ _ _
      · split
        · exact LogOutcome.noConfusion
        · split
          · exact LogOutcome.noConfusion
          · exact hwritten _ _ _ _

/-! ## Logged frames are counted -/

theorem records_finishSegment (l : RecoveryLog) (w : SegmentWriter) :
    (l.finishSegment now w d).1.records = l.records := by
  unfold finishSegment
  rcases w.finish d with ⟨_ | _, d'⟩ <;> rfl

theorem records_leaveSegment (l : RecoveryLog) (step : Superstep) :
    (l.leaveSegment now c step d).1.records = l.records := by
  unfold leaveSegment
  split
  · rfl
  · split
    · rfl
    · exact records_finishSegment now d _ _

theorem records_openSegment (l : RecoveryLog) (step : Superstep) :
    (l.openSegment now c step d).2.1.records = l.records := by
  unfold openSegment
  dsimp only
  split <;> rfl

theorem records_finishFrom (l : RecoveryLog) (i n : Nat) :
    (l.finishFrom now i d n).2.1.records = l.records := by
  induction n generalizing l i d with
  | zero => rfl
  | succ n ih =>
    unfold finishFrom
    dsimp only
    split
    · exact ih d l (i + 1)
    · exact (ih _ _ (i + 1)).trans (records_finishSegment now d _ _)

/-- **A log counts the frames that it logged.** -/
theorem records_logFrame (l : RecoveryLog) (superstep : Option Superstep) (bytes : ByteArray) :
    (l.logFrame now c superstep bytes d).2.1.records =
      l.records + if (l.logFrame now c superstep bytes d).1 = .logged then 1 else 0 := by
  have hwritten {l' : RecoveryLog} (h : l'.records = l.records) (step : Superstep)
      (w : SegmentWriter) (d : Disk) :
      (l'.writeFrame now c step w bytes d).2.1.records =
        l.records + if (l'.writeFrame now c step w bytes d).1 = .logged then 1 else 0 := by
    unfold writeFrame
    rcases w.write bytes d with ⟨_ | _, w', d'⟩
    · exact h
    · exact congrArg (· + 1) h
  unfold logFrame
  cases superstep with
  | none => rfl
  | some step =>
    dsimp only
    split
    · rfl
    · have hleft := records_leaveSegment now c d l step
      split
      · exact hwritten hleft step _ _
      · split
        · exact hleft
        · have hopened := records_openSegment now c (l.leaveSegment now c step d).2
            (l.leaveSegment now c step d).1 step
          split
          · rename_i hopen
            rw [hopen] at hopened
            exact hopened.trans hleft
          · rename_i hopen
            rw [hopen] at hopened
            exact hwritten (hopened.trans hleft) step _ _

end RecoveryLog

namespace Backup

variable {b : Backup} {scope : LogScope}

/-- One use of the log of a backup, if it has one. -/
def call (b : Backup) : LogCall → Backup
  | .frame now c superstep bytes => b.record now superstep bytes c
  | .finish now => b.close now

def callAll (b : Backup) (calls : List LogCall) : Backup := calls.foldl call b

theorem callAll_append (b : Backup) (calls more : List LogCall) :
    b.callAll (calls ++ more) = (b.callAll calls).callAll more := List.foldl_append

/-- The backup has a log for the scope. -/
def IsFor (b : Backup) (scope : LogScope) : Prop := ∃ l ∈ b.log, l.IsFor scope

/-- The counter of a backup agrees with that of its log; without a log nothing is counted. -/
def Agrees (b : Backup) : Prop :=
  b.counts.records = match b.log with
    | none => 0
    | some l => UInt64.ofNat l.records

theorem agrees_make (scope : Option LogScope) (d : Disk) : (make scope d).Agrees := by
  cases scope <;> rfl

theorem agrees_call (h : b.Agrees) (call : LogCall) : (b.call call).Agrees := by
  unfold Agrees at h ⊢
  cases hl : b.log with
  | none =>
    rw [hl] at h
    cases call <;> simp only [Backup.call, record, close, hl] <;> exact h
  | some l =>
    rw [hl] at h
    cases call with
    | finish now =>
      simp only [Backup.call, close, hl]
      rw [RecoveryLog.finishAll, RecoveryLog.records_finishFrom]
      exact h
    | frame now c superstep bytes =>
      have hrecords := RecoveryLog.records_logFrame now c b.disk l superstep bytes
      simp only [Backup.call, record, hl]
      rcases hlog : l.logFrame now c superstep bytes b.disk with ⟨outcome, l', d'⟩
      rw [hlog] at hrecords
      have hrecords : l'.records = l.records + if outcome = .logged then 1 else 0 := hrecords
      dsimp only
      rw [hrecords]
      cases outcome with
      | skipped | failed => exact h
      | logged =>
        show b.counts.records + 1 = UInt64.ofNat (l.records + 1)
        rw [UInt64.ofNat_add, h]
        rfl

/-- **A backup counts as many records as its log**, whatever the log was handed. -/
theorem agrees_callAll (h : b.Agrees) (calls : List LogCall) : (b.callAll calls).Agrees := by
  induction calls generalizing b with
  | nil => exact h
  | cons call calls ih => exact ih (agrees_call h call)

/-- The frames that were logged and those that failed. -/
def total (b : Backup) : UInt64 := b.counts.records + b.counts.failures

theorem isFor_call (h : b.IsFor scope) (call : LogCall) : (b.call call).IsFor scope := by
  obtain ⟨l, hl, hfor⟩ := h
  cases call with
  | frame now c superstep bytes =>
    simp only [Backup.call, record, Option.mem_def.1 hl]
    exact ⟨_, rfl, (RecoveryLog.IsFor.lasting c).logFrame now b.disk hfor superstep bytes⟩
  | finish now =>
    simp only [Backup.call, close, Option.mem_def.1 hl]
    exact ⟨_, rfl, RecoveryLog.Lasting.finishFrom now b.disk RecoveryLog.IsFor.lasting hfor 0 _⟩

/-- A frame that a log takes is counted once, whatever becomes of it. -/
theorem total_call (h : b.IsFor scope) (call : LogCall) :
    (b.call call).total = b.total + UInt64.ofNat (scope.takes call).toNat := by
  obtain ⟨l, hl, hfor⟩ := h
  cases call with
  | finish now =>
    simp only [Backup.call, close, Option.mem_def.1 hl]
    exact (UInt64.add_zero _).symm
  | frame now c superstep bytes =>
    have houtcome := RecoveryLog.outcome_eq_skipped_iff (l := l) now c b.disk superstep bytes
    rw [hfor.isEngaged_eq] at houtcome
    simp only [Backup.call, record, Option.mem_def.1 hl]
    show _ = b.total + UInt64.ofNat (scope.engages c superstep).toNat
    rcases hlog : l.logFrame now c superstep bytes b.disk with ⟨outcome, l', d'⟩
    rw [hlog] at houtcome
    cases outcome with
    | skipped =>
      rw [houtcome.1 rfl]
      exact (UInt64.add_zero _).symm
    | logged =>
      rw [Bool.of_not_eq_false fun hnot => nomatch houtcome.2 hnot]
      show b.counts.records + 1 + b.counts.failures = b.counts.records + b.counts.failures + 1
      rw [UInt64.add_assoc, UInt64.add_comm 1, ← UInt64.add_assoc]
    | failed =>
      rw [Bool.of_not_eq_false fun hnot => nomatch houtcome.2 hnot]
      exact (UInt64.add_assoc _ _ _).symm

/-- **Every frame that a log takes is counted**, as logged or as failed. -/
theorem total_callAll (h : b.IsFor scope) (calls : List LogCall) :
    (b.callAll calls).total = b.total + UInt64.ofNat (calls.countP scope.takes) := by
  induction calls generalizing b with
  | nil => exact (UInt64.add_zero _).symm
  | cons call calls ih =>
    show ((b.call call).callAll calls).total = _
    rw [ih (isFor_call h call), total_call h, UInt64.add_assoc, List.countP_cons,
      Nat.add_comm (List.countP _ _), UInt64.ofNat_add]
    cases scope.takes call <;> rfl

end Backup

end Fanout
