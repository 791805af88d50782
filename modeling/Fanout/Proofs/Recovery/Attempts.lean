import Fanout.Proofs.Recovery.Segments
import Fanout.Proofs.Recovery.Shutting

/-!
# Attempts of a recovery log

What a log tries to do with its disk: it opens segments, writes frames to them and closes them, and
each attempt succeeds or fails. The attempts of each use of a log can be told from the log and the
disk before it (`attempts`), and the counters of the log are counts of attempts (`counted_run`).

An engaged frame first leaves a segment of another superstep and then goes on with the one of its
own superstep (`resume`).
-/

namespace Fanout

/-- What a log tried to do, and whether it succeeded. -/
inductive Attempt where
  | opening (c : ChannelId) (step : Superstep) (ok : Bool)
  | writing (c : ChannelId) (step : Superstep) (ok : Bool)
  | closing (ok : Bool)
  deriving DecidableEq

namespace Attempt

def failed : Attempt → Bool
  | opening _ _ ok | writing _ _ ok | closing ok => !ok

def isOpening : Attempt → Bool
  | opening _ _ _ => true
  | writing _ _ _ | closing _ => false

def hasOpened : Attempt → Bool
  | opening _ _ ok => ok
  | writing _ _ _ | closing _ => false

def hasWritten : Attempt → Bool
  | writing _ _ ok => ok
  | opening _ _ _ | closing _ => false

def failedClosing : Attempt → Bool
  | closing ok => !ok
  | opening _ _ _ | writing _ _ _ => false

/-- The channel and the superstep of the segment that could not be opened or written. -/
def failedSegment? : Attempt → Option (ChannelId × Superstep)
  | opening c step false | writing c step false => some (c, step)
  | opening _ _ true | writing _ _ true | closing _ => none

/-- What failed is a segment that could not be opened or written, or a closing. -/
theorem countP_failed (as : List Attempt) :
    as.countP failed = (as.filterMap failedSegment?).length + as.countP failedClosing := by
  induction as with
  | nil => rfl
  | cons a as ih =>
    rw [List.countP_cons, List.countP_cons, List.filterMap_cons, ih]
    rcases a with ⟨c, step, _ | _⟩ | ⟨c, step, _ | _⟩ | ⟨_ | _⟩ <;>
      simp only [failed, failedSegment?, failedClosing, Bool.not_true, Bool.not_false,
        List.length_cons, if_true, Bool.false_eq_true, if_false] <;> omega

end Attempt

/-- The state of a channel when a segment of another superstep was left. -/
def ChannelLog.leave (state : ChannelLog) (step : Superstep) : ChannelLog :=
  match state.segment with
  | none => state
  | some w => if w.superstep = step then state else { state with segment := none }

namespace RecoveryLog

variable {l l' : RecoveryLog} {c : ChannelId} {step : Superstep} {d : Disk}

/-! ## What a log attempts -/

/-- What an engaged frame attempts before it turns to its segment: it closes another one. -/
def leaveAttempts (l : RecoveryLog) (c : ChannelId) (step : Superstep) (d : Disk) : List Attempt :=
  match (l.channel c).segment with
  | none => []
  | some w => if w.superstep = step then [] else [.closing (w.finish d).1.isOk]

/-- What it attempts then: it writes to the segment, which it opens if it has to and may. -/
def resumeAttempts (l : RecoveryLog) (now : Duration) (c : ChannelId) (step : Superstep)
    (bytes : ByteArray) (d : Disk) : List Attempt :=
  match (l.channel c).segment with
  | some w => [.writing c step (w.write bytes d).1.isOk]
  | none =>
    if (l.channel c).broken = some step then []
    else match l.openSegment now c step d with
      | (none, _, _) => [.opening c step false]
      | (some w, _, d) => [.opening c step true, .writing c step (w.write bytes d).1.isOk]

/-- The attempts to close some segments, one after the other. -/
def closeAttempts : List SegmentWriter → Disk → List Attempt
  | [], _ => []
  | w :: ws, d => .closing (w.finish d).1.isOk :: closeAttempts ws (w.finish d).2

/-- What one use of a log attempts. -/
def attempts (state : RecoveryLog × Disk) : LogCall → List Attempt
  | .frame now c superstep bytes =>
    match superstep with
    | none => []
    | some step =>
      if state.1.isEngaged c superstep then
        state.1.leaveAttempts c step state.2 ++
          (state.1.leaveSegment now c step state.2).1.resumeAttempts now c step bytes
            (state.1.leaveSegment now c step state.2).2
      else []
  | .finish _ => closeAttempts (state.1.channels.filterMap ChannelLog.segment) state.2

/-- What the uses of a log contribute, one after the other. -/
def along {β : Type} (f : RecoveryLog × Disk → LogCall → List β) :
    RecoveryLog × Disk → List LogCall → List β
  | _, [] => []
  | state, use :: uses => f state use ++ along f (call state use) uses

theorem along_append {β : Type} (f : RecoveryLog × Disk → LogCall → List β)
    (state : RecoveryLog × Disk) (calls later : List LogCall) :
    along f state (calls ++ later) = along f state calls ++ along f (callAll state calls) later := by
  induction calls generalizing state with
  | nil => rfl
  | cons use uses ih =>
    rw [List.cons_append, along, ih, along, List.append_assoc]
    rfl

/-- The first frame of a segment: the segment is opened, and if that works the frame is written. -/
def writeFirst (l : RecoveryLog) (now : Duration) (c : ChannelId) (step : Superstep)
    (bytes : ByteArray) (d : Disk) : LogOutcome × RecoveryLog × Disk :=
  match l.openSegment now c step d with
  | (none, l, d) => (.failed, l, d)
  | (some w, l, d) => l.writeFrame now c step w bytes d

/-- An engaged frame goes on with the segment of its superstep. -/
def resume (l : RecoveryLog) (now : Duration) (c : ChannelId) (step : Superstep)
    (bytes : ByteArray) (d : Disk) : LogOutcome × RecoveryLog × Disk :=
  match (l.channel c).segment with
  | some w => l.writeFrame now c step w bytes d
  | none =>
    if (l.channel c).broken = some step then (.failed, l, d)
    else l.writeFirst now c step bytes d

theorem logFrame_of_engaged (h : l.isEngaged c (some step) = true) (now : Duration)
    (bytes : ByteArray) (d : Disk) :
    l.logFrame now c (some step) bytes d =
      (l.leaveSegment now c step d).1.resume now c step bytes (l.leaveSegment now c step d).2 := by
  unfold logFrame
  dsimp only
  rw [h, if_neg (by simp)]
  rfl

/-- A frame that the log is not for leaves everything as it is. -/
theorem logFrame_of_not_engaged {superstep : Option Superstep}
    (h : l.isEngaged c superstep = false) (now : Duration) (bytes : ByteArray) (d : Disk) :
    l.logFrame now c superstep bytes d = (.skipped, l, d) := by
  unfold logFrame
  cases superstep with
  | none => rfl
  | some step =>
    dsimp only
    rw [h, if_pos (by rfl)]

/-- A log is engaged within supersteps only. -/
theorem exists_step_of_engaged {superstep : Option Superstep}
    (h : l.isEngaged c superstep = true) : ∃ step, superstep = some step := by
  cases superstep with
  | none => simp [isEngaged] at h
  | some step => exact ⟨step, rfl⟩

theorem attempts_of_engaged {state : RecoveryLog × Disk}
    (h : state.1.isEngaged c (some step) = true) (now : Duration) (bytes : ByteArray) :
    attempts state (.frame now c (some step) bytes) =
      state.1.leaveAttempts c step state.2 ++
        (state.1.leaveSegment now c step state.2).1.resumeAttempts now c step bytes
          (state.1.leaveSegment now c step state.2).2 := if_pos h

theorem attempts_of_not_engaged {state : RecoveryLog × Disk} {superstep : Option Superstep}
    (h : state.1.isEngaged c superstep = false) (now : Duration) (bytes : ByteArray) :
    attempts state (.frame now c superstep bytes) = [] := by
  cases superstep with
  | none => rfl
  | some step => exact if_neg (Bool.eq_false_iff.1 h)

/-! ## What is counted -/

/-- The counters have gone up by what some attempts came to. -/
structure Counted (l : RecoveryLog) (as : List Attempt) (l' : RecoveryLog) : Prop where
  failures_eq : l'.failureCount = l.failureCount + as.countP Attempt.failed
  opened_eq : l'.opened = l.opened + as.countP Attempt.hasOpened
  records_eq : l'.records = l.records + as.countP Attempt.hasWritten

namespace Counted

variable {as as' : List Attempt} {l'' : RecoveryLog}

theorem refl (l : RecoveryLog) : Counted l [] l := ⟨rfl, rfl, rfl⟩

theorem trans (h : Counted l as l') (h' : Counted l' as' l'') : Counted l (as ++ as') l'' := by
  refine ⟨?_, ?_, ?_⟩
  · rw [List.countP_append, h'.failures_eq, h.failures_eq, Nat.add_assoc]
  · rw [List.countP_append, h'.opened_eq, h.opened_eq, Nat.add_assoc]
  · rw [List.countP_append, h'.records_eq, h.records_eq, Nat.add_assoc]

/-- The state of a channel has no part in it. -/
theorem of_setChannel (c : ChannelId) (state : ChannelLog)
    (h : Counted (l.setChannel c state) as l') : Counted l as l' := ⟨h.1, h.2, h.3⟩

end Counted

theorem failureCount_countFailure (l : RecoveryLog) (now : Duration) :
    (l.countFailure now).failureCount = l.failureCount + 1 := by
  have htotal (t : Throttle) : (t.warn now).2.total = t.total + 1 := by
    unfold Throttle.warn
    dsimp only
    split <;> rfl
  exact htotal l.failures

/-- A failure is counted once. -/
theorem counted_failure (l : RecoveryLog) (now : Duration) {a : Attempt} (hfailed : a.failed = true)
    (hopened : a.hasOpened = false) (hwritten : a.hasWritten = false) :
    Counted l [a] (l.countFailure now) := by
  refine ⟨?_, ?_, ?_⟩
  · rw [failureCount_countFailure, List.countP_singleton, if_pos hfailed]
  · rw [List.countP_singleton, hopened]
    rfl
  · rw [List.countP_singleton, hwritten]
    rfl

theorem counted_finishSegment (l : RecoveryLog) (now : Duration) (w : SegmentWriter) (d : Disk) :
    Counted l [.closing (w.finish d).1.isOk] (l.finishSegment now w d).1 := by
  unfold finishSegment
  rcases w.finish d with ⟨_ | _, d'⟩
  · exact counted_failure l now rfl rfl rfl
  · exact ⟨rfl, rfl, rfl⟩

theorem counted_leaveSegment (l : RecoveryLog) (now : Duration) (c : ChannelId) (step : Superstep)
    (d : Disk) : Counted l (l.leaveAttempts c step d) (l.leaveSegment now c step d).1 := by
  unfold leaveSegment leaveAttempts
  cases (l.channel c).segment with
  | none => exact .refl l
  | some w =>
    dsimp only
    split
    · exact .refl l
    · exact .of_setChannel _ _ (counted_finishSegment _ now w d)

theorem counted_writeFrame (l : RecoveryLog) (now : Duration) (c : ChannelId) (step : Superstep)
    (w : SegmentWriter) (bytes : ByteArray) (d : Disk) :
    Counted l [.writing c step (w.write bytes d).1.isOk]
      (l.writeFrame now c step w bytes d).2.1 := by
  unfold writeFrame
  rcases w.write bytes d with ⟨_ | _, w', d'⟩
  · exact .of_setChannel _ _ (counted_failure _ now rfl rfl rfl)
  · exact ⟨rfl, rfl, rfl⟩

theorem counted_openSegment (l : RecoveryLog) (now : Duration) (c : ChannelId) (step : Superstep)
    (d : Disk) :
    Counted l [.opening c step (l.openSegment now c step d).1.isSome]
      (l.openSegment now c step d).2.1 := by
  unfold openSegment
  dsimp only
  split
  · exact ⟨rfl, rfl, rfl⟩
  · exact .of_setChannel _ _ (counted_failure _ now rfl rfl rfl)

theorem counted_resume (l : RecoveryLog) (now : Duration) (c : ChannelId) (step : Superstep)
    (bytes : ByteArray) (d : Disk) :
    Counted l (l.resumeAttempts now c step bytes d) (l.resume now c step bytes d).2.1 := by
  unfold resume resumeAttempts writeFirst
  split
  · exact counted_writeFrame l now c step _ bytes d
  · split
    · exact .refl l
    · have hopened := counted_openSegment l now c step d
      rcases hopen : l.openSegment now c step d with ⟨_ | w, l', d'⟩ <;> rw [hopen] at hopened
      · exact hopened
      · exact hopened.trans (counted_writeFrame l' now c step w bytes d')

theorem channels_finishSegment (l : RecoveryLog) (now : Duration) (w : SegmentWriter) (d : Disk) :
    (l.finishSegment now w d).1.channels = l.channels := by
  unfold finishSegment
  rcases w.finish d with ⟨_ | _, d'⟩ <;> rfl

theorem finishSegment_snd (l : RecoveryLog) (now : Duration) (w : SegmentWriter) (d : Disk) :
    (l.finishSegment now w d).2 = (w.finish d).2 := by
  unfold finishSegment
  rcases w.finish d with ⟨_ | _, d'⟩ <;> rfl

/-- The segment at a position, where those of the channels in front of it are closed. A state behind
the last channel index is not that of any channel, and has no segment. -/
theorem segment_ofNat (haddressed : l.Addressed) {i : Nat} (hi : i < l.channels.length)
    (hbefore : ∀ k < i, (l.channel (ChannelId.ofNat k)).segment = none) :
    (l.channel (ChannelId.ofNat i)).segment = l.channels[i].segment := by
  by_cases hreach : i < maxChannels
  · rw [channel, ChannelId.toNat_ofNat_of_lt hreach, List.getElem?_eq_getElem hi, Option.getD_some]
  · have hle := Nat.le_of_not_lt hreach
    have hsame : ChannelId.ofNat (i % maxChannels) = ChannelId.ofNat i := by
      refine ChannelId.ext_toNat ?_
      rw [ChannelId.toNat_ofNat, ChannelId.toNat_ofNat]
      exact Nat.mod_mod i _
    rw [haddressed i hle _ (List.getElem?_eq_getElem hi), ← hsame]
    exact hbefore _ ((Nat.mod_lt i (by decide)).trans_le hle)

/-- The segments of the channels from `i` on are closed in order, when those in front have none
open. -/
theorem counted_finishFrom (haddressed : l.Addressed) (now : Duration) {i n : Nat}
    (hn : i + n = l.channels.length)
    (hbefore : ∀ k < i, (l.channel (ChannelId.ofNat k)).segment = none) (d : Disk) :
    Counted l (closeAttempts ((l.channels.drop i).filterMap ChannelLog.segment) d)
      (l.finishFrom now i d n).2.1 := by
  induction n generalizing l i d with
  | zero =>
    rw [List.drop_of_length_le (by omega)]
    exact .refl l
  | succ n ih =>
    have hi : i < l.channels.length := by omega
    rw [List.drop_eq_getElem_cons hi, List.filterMap_cons, ← segment_ofNat haddressed hi hbefore]
    unfold finishFrom
    dsimp only
    cases hw : (l.channel (ChannelId.ofNat i)).segment with
    | none =>
      refine ih haddressed (by omega) (fun k hk => ?_) d
      rcases Nat.lt_succ_iff_lt_or_eq.1 hk with hk | rfl
      · exact hbefore k hk
      · exact hw
    | some w =>
      have hchannel := channel_setChannel_self (lt_of_segment hw)
        { l.channel (ChannelId.ofNat i) with segment := none }
      have hother (c : ChannelId) (hc : ChannelId.ofNat i ≠ c) := channel_setChannel_of_ne (l := l)
        hc { l.channel (ChannelId.ofNat i) with segment := none }
      have hgiven : (l.setChannel (ChannelId.ofNat i)
          { l.channel (ChannelId.ofNat i) with segment := none }).Addressed :=
        (lasting_addressed _).setChannel _ haddressed
      have hlength : (l.setChannel (ChannelId.ofNat i)
          { l.channel (ChannelId.ofNat i) with segment := none }).channels.length =
            l.channels.length := List.length_set
      -- the state that is replaced is not one of those behind
      have hdrop : (l.setChannel (ChannelId.ofNat i)
          { l.channel (ChannelId.ofNat i) with segment := none }).channels.drop (i + 1) =
            l.channels.drop (i + 1) := by
        refine List.drop_set_of_lt ?_
        rw [ChannelId.toNat_ofNat]
        exact Nat.lt_succ_of_le (Nat.mod_le i _)
      refine .of_setChannel (ChannelId.ofNat i)
        { l.channel (ChannelId.ofNat i) with segment := none } ?_
      generalize l.setChannel (ChannelId.ofNat i) _ = given at hchannel hother hgiven hlength hdrop ⊢
      have hrest := ih (l := (given.finishSegment now w d).1) (i := i + 1)
        ((lasting_addressed (ChannelId.ofNat i)).finishSegment now d hgiven w)
        (by rw [channels_finishSegment]; omega) (fun k hk => ?_) (given.finishSegment now w d).2
      · rw [channels_finishSegment, hdrop, finishSegment_snd] at hrest
        show Counted given (.closing _ :: closeAttempts _ (w.finish d).2)
          ((given.finishSegment now w d).1.finishFrom now (i + 1)
            (given.finishSegment now w d).2 n).2.1
        rw [finishSegment_snd]
        exact (counted_finishSegment given now w d).trans hrest
      · rw [channel_finishSegment]
        by_cases hsame : ChannelId.ofNat i = ChannelId.ofNat k
        · rw [← hsame, hchannel]
        · rw [hother _ hsame]
          refine hbefore k (Nat.lt_of_le_of_ne (Nat.le_of_lt_succ hk) ?_)
          exact fun heq => hsame (heq ▸ rfl)

/-- **What one use of a log counts** is what it attempted. -/
theorem counted_call {state : RecoveryLog × Disk} (haddressed : state.1.Addressed)
    (use : LogCall) : Counted state.1 (attempts state use) (call state use).1 := by
  cases use with
  | finish now =>
    exact counted_finishFrom haddressed now (Nat.zero_add _) (fun k hk => absurd hk k.not_lt_zero)
      state.2
  | frame now c superstep bytes =>
    show Counted _ _ (state.1.logFrame now c superstep bytes state.2).2.1
    cases hengaged : state.1.isEngaged c superstep with
    | false =>
      rw [logFrame_of_not_engaged hengaged, attempts_of_not_engaged hengaged]
      exact .refl _
    | true =>
      obtain ⟨step, rfl⟩ := exists_step_of_engaged hengaged
      rw [logFrame_of_engaged hengaged, attempts_of_engaged hengaged]
      exact (counted_leaveSegment _ now c step _).trans (counted_resume _ now c step bytes _)

theorem addressed_call {state : RecoveryLog × Disk} (haddressed : state.1.Addressed)
    (use : LogCall) : (call state use).1.Addressed := by
  cases use with
  | frame now c superstep bytes =>
    exact (lasting_addressed c).logFrame now state.2 haddressed superstep bytes
  | finish now => exact Lasting.finishFrom now state.2 lasting_addressed haddressed 0 _

/-- **What a log counts** is what it attempted, whatever failed. -/
theorem counted_run {state : RecoveryLog × Disk} (haddressed : state.1.Addressed)
    (calls : List LogCall) :
    Counted state.1 (along attempts state calls) (callAll state calls).1 := by
  induction calls generalizing state with
  | nil => exact .refl _
  | cons use uses ih =>
    exact (counted_call haddressed use).trans (ih (addressed_call haddressed use))

end RecoveryLog

end Fanout
