import Fanout.Proofs.Recovery.Calls

/-!
# The end of segments

Whatever calls of the disk fail, a log that finishes has no segment open: a segment that cannot be
written to its end is given up all the same. A log with no segment open has nothing to finish, and
is left as it is.

The log may have more states than there are channel indices; those behind the last index are never
looked at, and no segment is ever opened there (`Addressed`).

* `openSegments_finishAll`, `finishAll_of_shut` — the end of the segments of a log, on any disk.
* `Backup.shut_close`, `Backup.close_of_shut` — the same of the backup of a writer.
-/

namespace Fanout

namespace RecoveryLog

variable {l : RecoveryLog} {c c' : ChannelId} (now : Duration) (d : Disk)

/-! ## Channels -/

theorem channel_setChannel_self (hc : c.toNat < l.channels.length) (state : ChannelLog) :
    (l.setChannel c state).channel c = state := by
  rw [channel, setChannel, List.getElem?_set_self hc, Option.getD_some]

theorem channel_setChannel_of_ne (h : c ≠ c') (state : ChannelLog) :
    (l.setChannel c state).channel c' = l.channel c' := by
  rw [channel, setChannel, List.getElem?_set_ne fun hnat => h (ChannelId.ext_toNat hnat), channel]

/-- A channel with an open segment is one of the log's. -/
theorem lt_of_segment {w : SegmentWriter} (h : (l.channel c).segment = some w) :
    c.toNat < l.channels.length := by
  refine Nat.lt_of_not_le fun hle => ?_
  rw [channel, List.getElem?_eq_none hle] at h
  exact nomatch h

/-- Finishing a segment changes the state of no channel. -/
theorem channel_finishSegment (l : RecoveryLog) (c : ChannelId) (w : SegmentWriter) :
    (l.finishSegment now w d).1.channel c = l.channel c := by
  unfold finishSegment
  rcases w.finish d with ⟨_ | _, d'⟩ <;> rfl

theorem channels_length_finishFrom (l : RecoveryLog) (i n : Nat) :
    (l.finishFrom now i d n).2.1.channels.length = l.channels.length := by
  have hlasting (c : ChannelId) : Lasting c (·.channels.length = l.channels.length) :=
    ⟨fun _ h => List.length_set.trans h, fun _ _ _ h => h⟩
  exact Lasting.finishFrom now d hlasting rfl i n

/-! ## Finishing -/

/-- **The end of the segments of some channels**: none of them has one open, and no other is
opened. -/
theorem segment_finishFrom (l : RecoveryLog) (i n : Nat) :
    (∀ c, (l.channel c).segment = none →
      ((l.finishFrom now i d n).2.1.channel c).segment = none) ∧
    ∀ k, i ≤ k → k < i + n →
      ((l.finishFrom now i d n).2.1.channel (ChannelId.ofNat k)).segment = none := by
  induction n generalizing l d i with
  | zero => exact ⟨fun _ hnone => hnone, fun k hi hk => absurd hk (by omega)⟩
  | succ n ih =>
    unfold finishFrom
    dsimp only
    cases hw : (l.channel (ChannelId.ofNat i)).segment with
    | none =>
      obtain ⟨hstays, hrest⟩ := ih d l (i + 1)
      refine ⟨hstays, fun k hi hk => ?_⟩
      by_cases hfirst : k = i
      · exact hstays _ (hfirst ▸ hw)
      · exact hrest k (by omega) (by omega)
    | some w =>
      have hself := channel_setChannel_self (lt_of_segment hw)
        { l.channel (ChannelId.ofNat i) with segment := none }
      have hother (c : ChannelId) (hc : ChannelId.ofNat i ≠ c) := channel_setChannel_of_ne (l := l)
        hc { l.channel (ChannelId.ofNat i) with segment := none }
      generalize l.setChannel (ChannelId.ofNat i) _ = given at hself hother
      obtain ⟨hstays, hrest⟩ :=
        ih (given.finishSegment now w d).2 (given.finishSegment now w d).1 (i + 1)
      simp only [channel_finishSegment] at hstays
      have hfirst : (given.channel (ChannelId.ofNat i)).segment = none := by rw [hself]
      refine ⟨fun c hnone => hstays c ?_, fun k hi hk => ?_⟩
      · by_cases hc : ChannelId.ofNat i = c
        · exact hc ▸ hfirst
        · rw [hother c hc]
          exact hnone
      · by_cases hk' : k = i
        · exact hstays _ (hk' ▸ hfirst)
        · exact hrest k (by omega) (by omega)

/-- **A log that finishes has no segment open** on any channel. -/
theorem segment_finishAll (l : RecoveryLog) (c : ChannelId) :
    ((l.finishAll now d).2.1.channel c).segment = none := by
  by_cases hin : c.toNat < l.channels.length
  · have hnone := (l.segment_finishFrom now d 0 l.channels.length).2 c.toNat (Nat.zero_le _)
      (by omega)
    rwa [ChannelId.ofNat_toNat] at hnone
  · cases hw : ((l.finishAll now d).2.1.channel c).segment with
    | none => rfl
    | some w =>
      exact absurd (l.channels_length_finishFrom now d 0 _ ▸ lt_of_segment hw) hin

/-- Only channels have segments: the states behind the last channel index never had one. -/
def Addressed (l : RecoveryLog) : Prop :=
  ∀ i, maxChannels ≤ i → ∀ state, l.channels[i]? = some state → state.segment = none

theorem addressed_make (scope : LogScope) : (make scope).Addressed := by
  intro i _ state hstate
  rw [List.eq_of_mem_replicate (List.mem_of_getElem? hstate)]
  rfl

theorem lasting_addressed (c : ChannelId) : Lasting c Addressed := by
  refine ⟨fun {l} state h i hi state' hstate' => ?_, fun _ _ _ h => h⟩
  have hlt := c.toNat_lt
  rw [setChannel, List.getElem?_set_ne (by omega)] at hstate'
  exact h i hi state' hstate'

theorem openSegments_eq_zero_iff :
    l.openSegments = 0 ↔ ∀ state ∈ l.channels, state.segment = none := by
  rw [openSegments, List.countP_eq_zero]
  simp only [Option.not_isSome_iff_eq_none]

/-- Where no channel has a segment open there is none. -/
theorem openSegments_of_channels (haddressed : l.Addressed)
    (h : ∀ c, (l.channel c).segment = none) : l.openSegments = 0 := by
  rw [openSegments_eq_zero_iff]
  intro state hstate
  obtain ⟨i, hi, rfl⟩ := List.getElem_of_mem hstate
  by_cases hreach : i < maxChannels
  · have hnone := h (ChannelId.ofNat i)
    rw [channel, ChannelId.toNat_ofNat_of_lt hreach, List.getElem?_eq_getElem hi] at hnone
    exact hnone
  · exact haddressed i (Nat.le_of_not_lt hreach) _ (List.getElem?_eq_getElem hi)

theorem segment_of_shut (h : l.openSegments = 0) (c : ChannelId) :
    (l.channel c).segment = none := by
  unfold channel
  cases hstate : l.channels[c.toNat]? with
  | none => rfl
  | some state => exact openSegments_eq_zero_iff.1 h state (List.mem_of_getElem? hstate)

/-- **The end of all segments.** -/
theorem openSegments_finishAll (haddressed : l.Addressed) :
    (l.finishAll now d).2.1.openSegments = 0 :=
  openSegments_of_channels (Lasting.finishFrom now d lasting_addressed haddressed 0 _)
    (l.segment_finishAll now d)

/-- **A log with no segment open has nothing to finish.** -/
theorem finishAll_of_shut (h : l.openSegments = 0) : l.finishAll now d = (0, l, d) := by
  have hfrom (i n : Nat) : l.finishFrom now i d n = (0, l, d) := by
    induction n generalizing i with
    | zero => rfl
    | succ n ih =>
      simp only [finishFrom, segment_of_shut h, ih]
  exact hfrom 0 _

end RecoveryLog

namespace Backup

variable {b : Backup} (now : Duration)

/-- No segment is open. -/
def Shut (b : Backup) : Prop := ∀ l ∈ b.log, l.openSegments = 0

instance (b : Backup) : Decidable b.Shut :=
  inferInstanceAs (Decidable (∀ l ∈ b.log, l.openSegments = 0))

def Addressed (b : Backup) : Prop := ∀ l ∈ b.log, l.Addressed

theorem addressed_make (scope : Option LogScope) (d : Disk) : (make scope d).Addressed := by
  intro l hl
  obtain ⟨scope, _, rfl⟩ := Option.map_eq_some_iff.1 hl
  exact RecoveryLog.addressed_make scope

theorem addressed_call (h : b.Addressed) (call : LogCall) : (b.call call).Addressed := by
  cases hlog : b.log with
  | none =>
    cases call with
    | frame now c superstep bytes =>
      simp only [Backup.call, record, hlog]
      exact h
    | finish now =>
      simp only [Backup.call, close, hlog]
      exact h
  | some l =>
    have hl := h l hlog
    cases call with
    | frame now c superstep bytes =>
      simp only [Backup.call, record, hlog]
      rintro _ ⟨⟩
      exact (RecoveryLog.lasting_addressed c).logFrame now b.disk hl superstep bytes
    | finish now =>
      simp only [Backup.call, close, hlog]
      rintro _ ⟨⟩
      exact RecoveryLog.Lasting.finishFrom now b.disk RecoveryLog.lasting_addressed hl 0 _

theorem addressed_callAll (h : b.Addressed) (calls : List LogCall) :
    (b.callAll calls).Addressed := by
  induction calls generalizing b with
  | nil => exact h
  | cons call calls ih => exact ih (addressed_call h call)

/-- **A backup that is closed has no segment open**, whatever calls of its disk fail. -/
theorem shut_close (h : b.Addressed) : (b.close now).Shut := by
  unfold close
  cases hlog : b.log with
  | none =>
    intro l hl
    rw [hlog] at hl
    exact nomatch hl
  | some l =>
    rintro _ ⟨⟩
    exact RecoveryLog.openSegments_finishAll now b.disk (h l hlog)

/-- **Closing again does nothing.** -/
theorem close_of_shut (h : b.Shut) : b.close now = b := by
  unfold close
  cases hlog : b.log with
  | none => rfl
  | some l =>
    simp only [RecoveryLog.finishAll_of_shut now b.disk (h l hlog)]
    rw [← hlog]

end Backup

end Fanout
