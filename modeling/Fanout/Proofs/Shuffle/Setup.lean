import Fanout.Proofs.Config.Valid
import Fanout.Proofs.Writer.Dispatches
import Fanout.Shuffle.Run

/-!
# Writers of shuffles

The setup of a shuffle makes a pool and a writer as they are configured (`setup_made`): with the
configured policy, and with the filter of the replay section if there is one (`madeWith_setup`). As
long as there is memory for these (`setup_eq_memory_iff`), it never fails for settings that are
valid in the width of the shuffle (`setup_of_valid`).
-/

namespace Fanout

namespace Shuffle

/-- The filter of a replay is what its section asks for. -/
theorem replayFilter_eq {c : Config} {replay : Option ReplayFilter}
    (h : replayFilter c = .ok replay) :
    replay = c.recovery.replay.map fun r =>
      ⟨r.lostChannel, r.endSuperstep, r.formerParallelism⟩ := by
  unfold replayFilter ReplayFilter.make ReplayFilter.checked at h
  cases hr : c.recovery.replay with
  | none =>
    rw [hr] at h
    exact (Except.ok.inj h).symm
  | some r =>
    rw [hr] at h
    dsimp only at h
    split_ifs at h with hformer hlost
    · exact nomatch h
    · exact (Except.ok.inj h).symm
    · exact nomatch h

theorem replayFilter_of_checkedReplay {c : Config} {args : RunArgs} {replay : Option ReplayFilter}
    (h : checkedReplay c args = .ok replay) : replayFilter c = .ok replay := by
  unfold checkedReplay at h
  dsimp only at h
  split_ifs at h
  cases hfilter : replayFilter c with
  | error e =>
    rw [hfilter] at h
    exact nomatch h
  | ok filter =>
    rw [hfilter] at h
    dsimp only at h
    split_ifs at h
    exact congrArg Except.ok (Except.ok.inj h)

/-- The options of the writer of a shuffle. -/
def writerOptions (c : Config) : WriterOptions where
  recoveryDir := if c.recovery.enabled then some c.recovery.path else none
  replay := c.recovery.replay.map fun r => ⟨r.lostChannel, r.endSuperstep, r.formerParallelism⟩
  patience := match c.buffer.requestTimeout with
    | some timeout => .upTo timeout
    | none => .unlimited

/-- A setup that succeeds made a pool and a writer as they are configured. -/
theorem setup_made {c : Config} {args : RunArgs} {surroundings : Surroundings} {d : Disk}
    {w : Producer} (h : setup c args surroundings d = .ok w) :
    ∃ pool, makePool c = .ok pool ∧
      Writer.make (Partition.make (partitionInfo c args)) pool (policy c.writer.selector)
        (writerOptions c) startOfClock surroundings d = .ok w := by
  unfold setup at h
  split at h
  · exact nomatch h
  · rename_i replay hchecked
    obtain rfl := replayFilter_eq (replayFilter_of_checkedReplay hchecked)
    split at h
    · exact nomatch h
    · rename_i pool hpool
      dsimp only at h
      split at h
      · exact nomatch h
      · split at h
        · exact nomatch h
        · rename_i made hmade
          obtain rfl := Except.ok.inj h
          exact ⟨pool, hpool, hmade⟩

/-- The writer of a shuffle has the filter of the replay section, if there is one. -/
theorem madeWith_setup {c : Config} {args : RunArgs} {surroundings : Surroundings} {d : Disk}
    {w : Producer} (h : setup c args surroundings d = .ok w) :
    w.MadeWith (Partition.make (partitionInfo c args)) (policy c.writer.selector)
      (c.recovery.replay.map fun r => ⟨r.lostChannel, r.endSuperstep, r.formerParallelism⟩) := by
  obtain ⟨pool, _, hmade⟩ := setup_made h
  exact ⟨pool, _, _, _, _, hmade, rfl⟩

/-! ## Memory -/

theorem fitsMemory_eq {c : Config} {args : RunArgs} {replay : Option ReplayFilter} {pool : Pool}
    (hchecked : checkedReplay c args = .ok replay) (hpool : makePool c = .ok pool) :
    fitsMemory c args = (pool.fitsMemory && (partitionInfo c args).fitsMemory) := by
  unfold fitsMemory
  rw [hchecked, hpool]

theorem checkedReplay_ne_memory (c : Config) (args : RunArgs) :
    checkedReplay c args ≠ .error .memory := by
  fun_cases checkedReplay c args <;> exact fun h => nomatch h

/-- **The setup comes upon a bound of memory** just where the pool or the ends of the partition are
too large. -/
theorem setup_eq_memory_iff {c : Config} {args : RunArgs} {surroundings : Surroundings} {d : Disk} :
    setup c args surroundings d = .error .memory ↔ fitsMemory c args = false := by
  cases hchecked : checkedReplay c args with
  | error e =>
    have hrefused : setup c args surroundings d = .error e := by
      rw [setup, hchecked]
    have hfits : fitsMemory c args = true := by
      rw [fitsMemory, hchecked]
    rw [hrefused, hfits]
    refine iff_of_false (fun h => checkedReplay_ne_memory c args ?_) (fun h => nomatch h)
    rw [hchecked, Except.error.inj h]
  | ok replay =>
    cases hpool : makePool c with
    | error e =>
      have hrefused : setup c args surroundings d = .error (.pool e) := by
        rw [setup, hchecked, hpool]
      have hfits : fitsMemory c args = true := by
        rw [fitsMemory, hchecked, hpool]
      rw [hrefused, hfits]
      exact iff_of_false (fun h => nomatch h) (fun h => nomatch h)
    | ok pool =>
      rw [fitsMemory_eq hchecked hpool, setup, hchecked, hpool]
      dsimp only
      cases pool.fitsMemory && (partitionInfo c args).fitsMemory with
      | false => exact iff_of_true rfl rfl
      | true =>
        refine iff_of_false ?_ (fun h => nomatch h)
        rw [Bool.not_true, if_neg Bool.false_ne_true]
        split <;> exact fun h => nomatch h

/-! ## Valid configurations -/

/-- The configuration with the channels of the shuffle in the place of its own. -/
def effective (c : Config) (args : RunArgs) : Config :=
  { c with writer := { c.writer with channels := width c args } }

theorem effective_of_none {c : Config} {args : RunArgs} (h : args.channels = none) :
    effective c args = c := by
  unfold effective width
  rw [h]
  rfl

section Valid

variable {c : Config} {args : RunArgs}

theorem replayFilter_of_valid (h : (effective c args).Valid) :
    replayFilter c = .ok (writerOptions c).replay := by
  unfold replayFilter writerOptions
  cases hr : c.recovery.replay with
  | none => rfl
  | some r =>
    have hreplay := h.recovery.replay r hr
    have hlost : r.lostChannel.isWithin r.formerParallelism = true :=
      decide_eq_true hreplay.lost_lt
    have hformer : ¬(r.formerParallelism = 0 ∨ maxChannels < r.formerParallelism) := by
      have hpos := hreplay.former_pos
      have hle := hreplay.former_le
      omega
    dsimp only
    unfold ReplayFilter.make ReplayFilter.checked
    rw [if_neg hformer, if_pos hlost]
    rfl

theorem checkedReplay_of_valid (h : (effective c args).Valid) :
    checkedReplay c args = .ok (writerOptions c).replay := by
  have hpos : width c args ≠ 0 := Nat.ne_of_gt h.writer.channels_pos
  unfold checkedReplay
  dsimp only
  rw [if_neg hpos, replayFilter_of_valid h]
  refine if_neg ?_
  rintro ⟨hselector, hchanged⟩
  cases hr : c.recovery.replay with
  | none =>
    rw [writerOptions, hr] at hchanged
    exact hchanged rfl
  | some r =>
    rw [writerOptions, hr] at hchanged
    exact hchanged ((h.recovery.replay r hr).former_eq hselector)

theorem makePool_of_valid (h : (effective c args).Valid) : ∃ pool, makePool c = .ok pool := by
  have hsize : minBufferSize ≤ c.buffer.bufferSize := h.buffer.size_le
  unfold makePool Pool.make
  rw [dif_pos ⟨h.buffer.pool_pos, Nat.lt_of_lt_of_le (by decide) hsize⟩]
  exact ⟨_, rfl⟩

/-- **Valid settings can be set up** if there is memory for them, whatever the disk and the
surroundings are. -/
theorem setup_of_valid (h : (effective c args).Valid) (hfits : fitsMemory c args = true)
    (surroundings : Surroundings) (d : Disk) : ∃ w, setup c args surroundings d = .ok w := by
  obtain ⟨pool, hpool⟩ := makePool_of_valid h
  have hwidth : (Partition.make (partitionInfo c args)).width ≤ maxChannels :=
    h.writer.channels_le
  have hformer : ∀ f, (writerOptions c).replay = some f → f.formerWidth ≤ maxChannels := by
    intro f hf
    obtain ⟨r, hr, rfl⟩ := Option.map_eq_some_iff.1 hf
    exact (h.recovery.replay r hr).former_le
  obtain ⟨w, hmade⟩ := Writer.make_of_widths pool (policy c.writer.selector) startOfClock
    surroundings d hwidth hformer
  refine ⟨w, ?_⟩
  rw [fitsMemory_eq (checkedReplay_of_valid h) hpool] at hfits
  unfold setup
  rw [checkedReplay_of_valid h, hpool]
  dsimp only
  rw [hfits, Bool.not_true, if_neg Bool.false_ne_true]
  split
  · rename_i e hfailed
    cases hfailed.symm.trans hmade
  · rename_i made hagain
    obtain rfl := Except.ok.inj (hagain.symm.trans hmade)
    rfl

end Valid

/-! A small case: shuffles over two channels. -/

instance : DecidableEq record.Value :=
  inferInstanceAs (DecidableEq (Message (BitVec 64) (BitVec 64)))

def smallConfig (kind : SelectorKind) (replay : Option ReplaySettings) : Config where
  writer := { channels := 2, selector := kind }
  recovery := { replay := replay }

def smallProducer (kind : SelectorKind) (replay : Option ReplayFilter) : Producer where
  lanes := [Serializer.start, Serializer.start]
  outlet := ⟨.fresh 64 32768 (by decide) (by decide),
    .make ⟨⟨"dataset-0"⟩, 2, none⟩, .start, .unlimited, startOfClock, .attentive, 0, 0⟩
  selector := policy kind
  replay := replay
  backup := .make none Disk.empty
  closed := false

theorem setup_smallConfig (kind : SelectorKind) :
    setup (smallConfig kind none) {} .attentive Disk.empty =
      .ok (smallProducer kind none) := by
  cases kind <;> rfl

end Shuffle

end Fanout
