import Fanout.Proofs.Recovery.Attempts

/-!
# Frames on one channel

What becomes of a frame is told from its channel and the disk, and it changes no other channel.

* `logFrame_resumed` — what an engaged frame comes to for its channel, in six cases.
* `Alike.logFrame` — logs that are alike on a channel do the same with its frames.
* `alike_logFrame` — after a frame of another channel a log is as it was for the channel.
-/

namespace Fanout

namespace RecoveryLog

variable {l l' : RecoveryLog} {c c' : ChannelId} {step : Superstep} {d : Disk}

/-! ## What a frame comes to -/

theorem channel_leaveSegment_self (hc : c.toNat < l.channels.length) (now : Duration)
    (step : Superstep) (d : Disk) :
    (l.leaveSegment now c step d).1.channel c = (l.channel c).leave step := by
  unfold leaveSegment ChannelLog.leave
  cases (l.channel c).segment with
  | none => rfl
  | some w =>
    dsimp only
    split
    · rfl
    · rw [channel_finishSegment, channel_setChannel_self hc]

theorem leaveAttempts_eq (l : RecoveryLog) (c : ChannelId) (step : Superstep) (d : Disk) :
    l.leaveAttempts c step d = [] ∨ ∃ ok, l.leaveAttempts c step d = [.closing ok] := by
  unfold leaveAttempts
  split
  · exact .inl rfl
  · split
    · exact .inl rfl
    · exact .inr ⟨_, rfl⟩

/-- **What an engaged frame comes to** for its channel, once a segment of another superstep is left:
the outcome, the attempts, and the state of the channel afterwards. -/
inductive Resumed (c : ChannelId) (step : Superstep) (state : ChannelLog) :
    LogOutcome → List Attempt → ChannelLog → Prop where
  | written {w w' : SegmentWriter} : state.segment = some w → w'.superstep = w.superstep →
    Resumed c step state .logged [.writing c step true] { state with segment := some w' }
  | unwritten {w : SegmentWriter} : state.segment = some w →
    Resumed c step state .failed [.writing c step false]
      { state with segment := none, broken := some step }
  | barred : state.segment = none → state.broken = some step →
    Resumed c step state .failed [] state
  | unopened : state.segment = none → state.broken ≠ some step →
    Resumed c step state .failed [.opening c step false] { state with broken := some step }
  | opened {w : SegmentWriter} : state.segment = none → state.broken ≠ some step →
    w.superstep = step →
    Resumed c step state .logged [.opening c step true, .writing c step true]
      ⟨some w, some step, none⟩
  | openedUnwritten : state.segment = none → state.broken ≠ some step →
    Resumed c step state .failed [.opening c step true, .writing c step false]
      ⟨none, some step, some step⟩

theorem superstep_write (w : SegmentWriter) (bytes : ByteArray) (d : Disk) :
    (w.write bytes d).2.1.superstep = w.superstep := by
  unfold SegmentWriter.write
  rcases w.file.write bytes d with ⟨_ | _, file, d'⟩ <;> rfl

theorem superstep_of_openAt {path : String} {mode : WriteMode} {w : SegmentWriter} {d' : Disk}
    (h : SegmentWriter.openAt path step mode d = (.ok w, d')) : w.superstep = step := by
  unfold SegmentWriter.openAt at h
  split at h
  · exact nomatch h
  · split at h
    · exact nomatch h
    · obtain ⟨hw, -⟩ := Prod.mk.inj h
      rw [← Except.ok.inj hw]

theorem writeFrame_eq (l : RecoveryLog) (now : Duration) (c : ChannelId) (step : Superstep)
    (w : SegmentWriter) (bytes : ByteArray) (d : Disk) (hc : c.toNat < l.channels.length) :
    (∃ w', w'.superstep = w.superstep ∧ (w.write bytes d).1.isOk = true ∧
      (l.writeFrame now c step w bytes d).1 = .logged ∧
      (l.writeFrame now c step w bytes d).2.1.channel c =
        { l.channel c with segment := some w' }) ∨
    ((w.write bytes d).1.isOk = false ∧ (l.writeFrame now c step w bytes d).1 = .failed ∧
      (l.writeFrame now c step w bytes d).2.1.channel c =
        { l.channel c with segment := none, broken := some step }) := by
  have hstep := superstep_write w bytes d
  unfold writeFrame
  rcases hwrite : w.write bytes d with ⟨_ | _, w', d'⟩ <;> rw [hwrite] at hstep
  · exact .inr ⟨rfl, rfl, channel_setChannel_self hc _⟩
  · exact .inl ⟨w', hstep, rfl, rfl, channel_setChannel_self hc _⟩

theorem openSegment_eq (l : RecoveryLog) (now : Duration) (c : ChannelId) (step : Superstep)
    (d : Disk) (hc : c.toNat < l.channels.length) :
    (∃ w l' d', l.openSegment now c step d = (some w, l', d') ∧ w.superstep = step ∧
      l'.channel c = ⟨some w, some step, none⟩ ∧ l'.channels.length = l.channels.length) ∨
    ∃ l' d', l.openSegment now c step d = (none, l', d') ∧
      l'.channel c = { l.channel c with broken := some step } := by
  unfold openSegment
  dsimp only
  split
  · rename_i w d' hopen
    exact .inl ⟨_, _, _, rfl, superstep_of_openAt hopen, channel_setChannel_self hc _,
      List.length_set⟩
  · exact .inr ⟨_, _, rfl, channel_setChannel_self hc _⟩

theorem resume_resumed (hc : c.toNat < l.channels.length) (now : Duration) (step : Superstep)
    (bytes : ByteArray) (d : Disk) :
    Resumed c step (l.channel c) (l.resume now c step bytes d).1
      (l.resumeAttempts now c step bytes d) ((l.resume now c step bytes d).2.1.channel c) := by
  unfold resume resumeAttempts writeFirst
  cases hw : (l.channel c).segment with
  | some w =>
    dsimp only
    obtain ⟨w', hstep, hok, hresult, hchannel⟩ | ⟨hok, hresult, hchannel⟩ :=
      writeFrame_eq l now c step w bytes d hc
    · rw [hok, hresult, hchannel]
      exact .written hw hstep
    · rw [hok, hresult, hchannel]
      exact .unwritten hw
  | none =>
    dsimp only
    by_cases hbroken : (l.channel c).broken = some step
    · rw [if_pos hbroken, if_pos hbroken]
      exact .barred hw hbroken
    · rw [if_neg hbroken, if_neg hbroken]
      obtain ⟨w, l', d', hopen, hstep, hchannel, hlength⟩ | ⟨l', d', hopen, hchannel⟩ :=
        openSegment_eq l now c step d hc
      · rw [hopen]
        dsimp only
        obtain ⟨w', hstep', hok, hresult, hlast⟩ | ⟨hok, hresult, hlast⟩ :=
          writeFrame_eq l' now c step w bytes d' (hlength.symm ▸ hc)
        · rw [hok, hresult, hlast, hchannel]
          exact .opened hw hbroken (hstep'.trans hstep)
        · rw [hok, hresult, hlast, hchannel]
          exact .openedUnwritten hw hbroken
      · rw [hopen]
        dsimp only
        rw [hchannel]
        exact .unopened hw hbroken

theorem lt_of_engaged {superstep : Option Superstep} (h : l.isEngaged c superstep = true) :
    c.toNat < l.channels.length := by
  simp only [isEngaged, Bool.and_eq_true] at h
  exact of_decide_eq_true h.1.2

/-- What an engaged frame comes to for its channel, from the start. -/
theorem logFrame_resumed (h : l.isEngaged c (some step) = true) (now : Duration)
    (bytes : ByteArray) (d : Disk) :
    ∃ as, attempts (l, d) (.frame now c (some step) bytes) = l.leaveAttempts c step d ++ as ∧
      Resumed c step ((l.channel c).leave step) (l.logFrame now c (some step) bytes d).1 as
        ((l.logFrame now c (some step) bytes d).2.1.channel c) := by
  have hc := lt_of_engaged h
  have hlength : (l.leaveSegment now c step d).1.channels.length = l.channels.length :=
    (Lasting.leaveSegment (P := (·.channels.length = l.channels.length)) now d
      ⟨fun _ h => List.length_set.trans h, fun _ _ _ h => h⟩ rfl step :)
  have hresumed := resume_resumed (hlength.symm ▸ hc) now step bytes (l.leaveSegment now c step d).2
  rw [channel_leaveSegment_self hc] at hresumed
  rw [logFrame_of_engaged h, attempts_of_engaged h]
  exact ⟨_, rfl, hresumed⟩

/-! ## Other channels -/

/-- Two logs that do not differ in what the frames of a channel are told from. -/
structure Alike (c : ChannelId) (l l' : RecoveryLog) : Prop where
  scope_eq : l.scope = l'.scope
  length_eq : l.channels.length = l'.channels.length
  channel_eq : l.channel c = l'.channel c

namespace Alike

variable (h : Alike c l l') (now : Duration) (step : Superstep) (d : Disk)

include h

theorem setChannel (state : ChannelLog) :
    Alike c (l.setChannel c state) (l'.setChannel c state) := by
  refine ⟨h.scope_eq, ?_, ?_⟩
  · exact List.length_set.trans (h.length_eq.trans List.length_set.symm)
  · unfold RecoveryLog.setChannel channel
    rw [List.getElem?_set_self', List.getElem?_set_self']
    by_cases hc : c.toNat < l.channels.length
    · rw [List.getElem?_eq_getElem hc, List.getElem?_eq_getElem (h.length_eq ▸ hc)]
      rfl
    · rw [List.getElem?_eq_none (Nat.le_of_not_lt hc),
        List.getElem?_eq_none (h.length_eq ▸ Nat.le_of_not_lt hc)]

theorem isEngaged_eq (superstep : Option Superstep) :
    l.isEngaged c superstep = l'.isEngaged c superstep := by
  rw [isEngaged, isEngaged, h.scope_eq, h.length_eq]

theorem leaveSegment :
    Alike c (l.leaveSegment now c step d).1 (l'.leaveSegment now c step d).1 ∧
      (l.leaveSegment now c step d).2 = (l'.leaveSegment now c step d).2 := by
  unfold RecoveryLog.leaveSegment
  rw [h.channel_eq]
  cases (l'.channel c).segment with
  | none => exact ⟨h, rfl⟩
  | some w =>
    dsimp only
    split
    · exact ⟨h, rfl⟩
    · have hgiven := h.setChannel { l'.channel c with segment := none }
      unfold finishSegment
      rcases w.finish d with ⟨_ | _, d'⟩
      · exact ⟨⟨hgiven.1, hgiven.2, hgiven.3⟩, rfl⟩
      · exact ⟨hgiven, rfl⟩

theorem writeFrame (w : SegmentWriter) (bytes : ByteArray) :
    (l.writeFrame now c step w bytes d).1 = (l'.writeFrame now c step w bytes d).1 ∧
      Alike c (l.writeFrame now c step w bytes d).2.1 (l'.writeFrame now c step w bytes d).2.1 ∧
      (l.writeFrame now c step w bytes d).2.2 = (l'.writeFrame now c step w bytes d).2.2 := by
  unfold RecoveryLog.writeFrame
  rw [h.channel_eq]
  rcases w.write bytes d with ⟨_ | _, w', d'⟩
  · have hgiven := h.setChannel { l'.channel c with segment := none, broken := some step }
    exact ⟨rfl, ⟨hgiven.1, hgiven.2, hgiven.3⟩, rfl⟩
  · have hgiven := h.setChannel { l'.channel c with segment := some w' }
    exact ⟨rfl, ⟨hgiven.1, hgiven.2, hgiven.3⟩, rfl⟩

theorem openSegment :
    (l.openSegment now c step d).1 = (l'.openSegment now c step d).1 ∧
      Alike c (l.openSegment now c step d).2.1 (l'.openSegment now c step d).2.1 ∧
      (l.openSegment now c step d).2.2 = (l'.openSegment now c step d).2.2 := by
  have hpath : l.segmentPath c step = l'.segmentPath c step := by
    rw [segmentPath, segmentPath, h.scope_eq]
  unfold RecoveryLog.openSegment
  rw [h.channel_eq, hpath]
  dsimp only
  split
  · rename_i w d' _
    have hgiven := h.setChannel ⟨some w, some step, none⟩
    exact ⟨rfl, ⟨hgiven.1, hgiven.2, hgiven.3⟩, rfl⟩
  · have hgiven := h.setChannel { l'.channel c with broken := some step }
    exact ⟨rfl, ⟨hgiven.1, hgiven.2, hgiven.3⟩, rfl⟩

theorem resume (bytes : ByteArray) :
    (l.resume now c step bytes d).1 = (l'.resume now c step bytes d).1 ∧
      Alike c (l.resume now c step bytes d).2.1 (l'.resume now c step bytes d).2.1 ∧
      (l.resume now c step bytes d).2.2 = (l'.resume now c step bytes d).2.2 := by
  unfold RecoveryLog.resume writeFirst
  rw [h.channel_eq]
  cases (l'.channel c).segment with
  | some w => exact h.writeFrame now step d w bytes
  | none =>
    dsimp only
    split
    · exact ⟨rfl, h, rfl⟩
    · obtain ⟨hopened, halike, hdisk⟩ := h.openSegment now step d
      generalize l.openSegment now c step d = result at hopened halike hdisk ⊢
      generalize l'.openSegment now c step d = result' at hopened halike hdisk ⊢
      obtain ⟨opened, l₁, d₁⟩ := result
      obtain ⟨opened', l₁', d₁'⟩ := result'
      obtain rfl : opened = opened' := hopened
      obtain rfl : d₁ = d₁' := hdisk
      cases opened with
      | none => exact ⟨rfl, halike, rfl⟩
      | some w => exact halike.writeFrame now step d₁ w bytes

/-- **What becomes of a channel's frames** is told from the disk and from what logs alike on that
channel have in common. -/
theorem logFrame (superstep : Option Superstep) (bytes : ByteArray) :
    (l.logFrame now c superstep bytes d).1 = (l'.logFrame now c superstep bytes d).1 ∧
      Alike c (l.logFrame now c superstep bytes d).2.1 (l'.logFrame now c superstep bytes d).2.1 ∧
      (l.logFrame now c superstep bytes d).2.2 = (l'.logFrame now c superstep bytes d).2.2 := by
  have hsame := h.isEngaged_eq superstep
  cases hengaged : l.isEngaged c superstep with
  | false =>
    rw [logFrame_of_not_engaged hengaged, logFrame_of_not_engaged (hsame.symm.trans hengaged)]
    exact ⟨rfl, h, rfl⟩
  | true =>
    obtain ⟨step, rfl⟩ := exists_step_of_engaged hengaged
    rw [logFrame_of_engaged hengaged, logFrame_of_engaged (hsame.symm.trans hengaged)]
    obtain ⟨hleft, hdisk⟩ := h.leaveSegment now step d
    rw [hdisk]
    exact hleft.resume now step _ bytes

end Alike

/-- After a frame of another channel a log is as it was for the channel. -/
theorem alike_logFrame (h : c' ≠ c) (l : RecoveryLog) (now : Duration)
    (superstep : Option Superstep) (bytes : ByteArray) (d : Disk) :
    Alike c (l.logFrame now c' superstep bytes d).2.1 l :=
  Lasting.logFrame (P := (Alike c · l)) now d
    ⟨fun state halike => ⟨halike.scope_eq, List.length_set.trans halike.length_eq,
      (channel_setChannel_of_ne h state).trans halike.channel_eq⟩,
      fun _ _ _ halike => ⟨halike.1, halike.2, halike.3⟩⟩ ⟨rfl, rfl, rfl⟩ superstep bytes

/-- Closing segments changes nothing else of a channel. -/
theorem channel_finishFrom (l : RecoveryLog) (now : Duration) (c : ChannelId) (i n : Nat)
    (d : Disk) :
    { (l.finishFrom now i d n).2.1.channel c with segment := none } =
      { l.channel c with segment := none } := by
  induction n generalizing l i d with
  | zero => rfl
  | succ n ih =>
    unfold finishFrom
    dsimp only
    cases hw : (l.channel (ChannelId.ofNat i)).segment with
    | none => exact ih l (i + 1) d
    | some w =>
      refine (ih _ (i + 1) _).trans ?_
      rw [channel_finishSegment]
      by_cases hsame : ChannelId.ofNat i = c
      · subst hsame
        rw [channel_setChannel_self (lt_of_segment hw)]
      · rw [channel_setChannel_of_ne hsame]

theorem channel_finishAll (l : RecoveryLog) (now : Duration) (c : ChannelId) (d : Disk) :
    (l.finishAll now d).2.1.channel c = { l.channel c with segment := none } := by
  have hsame := l.channel_finishFrom now c 0 l.channels.length d
  have hnone := l.segment_finishAll now d c
  change { (l.finishAll now d).2.1.channel c with segment := none } = _ at hsame
  rw [← hsame, ← hnone]

end RecoveryLog

end Fanout
