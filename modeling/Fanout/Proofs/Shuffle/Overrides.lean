import Fanout.Proofs.Shuffle.Job

/-!
# Channels asked for with the arguments

A shuffle has the configured number of channels, or the number that its arguments ask for instead.
Validation knows the configuration only, so the setup of a shuffle looks at the number again.

As long as there is memory for what is to be made:

* `setup_steps_of_accepted` — settings that are valid with the channels of the shuffle pass every
  step of its setup.
* `refuses_iff` — the setup refuses just the numbers of channels with which the configuration would
  not be valid, if it were not for the local channel.

But the local channel is not looked at again:

* `runs_without_local_channel` — a shuffle may run over channels among which the local one is not.
-/

namespace Fanout

/-- The configuration without a local channel: all consumers are somewhere else. -/
def Config.unplaced (c : Config) : Config :=
  { c with writer := { c.writer with localChannel := none } }

namespace Shuffle

variable {c : Config} {args : RunArgs} {surroundings : Surroundings} {d : Disk} {w : Producer}

/-! ## Failures of a shuffle -/

/-- A shuffle that was set up fails with its producer or with a consumer. -/
theorem cause_of_setup (hsetup : setup c args surroundings d = .ok w) {e : ShuffleError}
    (herror : (runAmong surroundings c args d).1 = .error e) :
    (∃ cause, e = .producer cause) ∨ ∃ cause, e = .consumer cause := by
  unfold runAmong at herror
  rw [hsetup] at herror
  dsimp only at herror
  split at herror
  · left
    exact ⟨.deadlineOverflow, (Except.error.inj herror).symm⟩
  · right
    exact ⟨_, (Except.error.inj herror).symm⟩
  · left
    exact ⟨_, (Except.error.inj herror).symm⟩
  · exact nomatch herror

/-! ## Accepted numbers of channels -/

theorem makePool_eq {pool : Pool} (h : makePool c = .ok pool) :
    pool.capacity = c.buffer.poolSize ∧ pool.bufferSize = c.buffer.bufferSize := by
  unfold makePool Pool.make at h
  split at h
  · obtain rfl := Except.ok.inj h
    exact ⟨rfl, rfl⟩
  · cases h

/-- **Validation is enough for the setup.** Take settings that are valid with `n` channels, and a
shuffle of `n` channels, configured or asked for, for which there is memory. Then there is a
channel, and every channel has an index; the replay filter can be made and agrees with the channels;
the pool and the writer can be made, as they are configured; and if the shuffle fails it is its
producer or a consumer that failed. -/
theorem setup_steps_of_accepted {n : Nat} (hwidth : width c args = n)
    (haccepted : { c with writer := { c.writer with channels := n } : Config }.validate = .ok ())
    (hfits : fitsMemory c args = true) (surroundings : Surroundings) (d : Disk) :
    (n ≠ 0 ∧ ∀ i < n, ∃ channel, ChannelId.ofNat? i = some channel) ∧
    ∃ replay pool w,
      replayFilter c = .ok replay ∧ checkedReplay c args = .ok replay ∧
      makePool c = .ok pool ∧
      (pool.capacity = c.buffer.poolSize ∧ pool.bufferSize = c.buffer.bufferSize) ∧
      Writer.make (Partition.make (partitionInfo c args)) pool (policy c.writer.selector)
        (writerOptions c) startOfClock surroundings d = .ok w ∧
      setup c args surroundings d = .ok w ∧ w.width = n ∧ w.replay = replay ∧
      ∀ e, (runAmong surroundings c args d).1 = .error e →
        (∃ cause, e = .producer cause) ∨ ∃ cause, e = .consumer cause := by
  subst hwidth
  have hvalid : (effective c args).Valid := Config.validate_eq_ok_iff.1 haccepted
  have hpos : 0 < width c args := hvalid.writer.channels_pos
  have hle : width c args ≤ maxChannels := hvalid.writer.channels_le
  obtain ⟨w, hsetup⟩ := setup_of_valid hvalid hfits surroundings d
  obtain ⟨pool, hpool, hmade⟩ := setup_made hsetup
  have hmadeWith := madeWith_setup hsetup
  constructor
  · refine ⟨Nat.ne_of_gt hpos, ?_⟩
    intro i hi
    refine ⟨.ofNat i, ?_⟩
    rw [ChannelId.ofNat?_eq_some_iff]
    exact ChannelId.toNat_ofNat_of_lt (Nat.lt_of_lt_of_le hi hle)
  · refine ⟨(writerOptions c).replay, pool, w, replayFilter_of_valid hvalid,
      checkedReplay_of_valid hvalid, hpool, makePool_eq hpool, hmade, hsetup, ?_, ?_, ?_⟩
    · exact hmadeWith.madeFor.start.length_eq
    · exact hmadeWith.outset.replay_eq
    · intro e herror
      exact cause_of_setup hsetup herror

/-! A small case: as many channels as there are indices, of which the last one was lost. -/

def widestConfig : Config where
  recovery := { replay := some ⟨⟨65535⟩, ⟨7⟩, 65536⟩ }

/-- Four channels are configured, over which nothing could be replayed in turn. -/
theorem setup_steps_widest :
    widestConfig.validate = .error (.invalid (.widthChanged 65536 4)) ∧
    ({ widestConfig with writer := { widestConfig.writer with channels := 65536 } } :
      Config).validate = .ok () ∧
    ∃ w, setup widestConfig { channels := some 65536 } .attentive Disk.empty = .ok w ∧
      w.width = 65536 ∧ w.replay = some ⟨⟨65535⟩, ⟨7⟩, 65536⟩ := by
  have haccepted : ({ widestConfig with
      writer := { widestConfig.writer with channels := 65536 } } : Config).validate = .ok () := by
    decide
  have hwidth : width widestConfig { channels := some 65536 } = 65536 := rfl
  obtain ⟨_, replay, _, w, hreplay, _, _, _, _, hsetup, hwriter, hfilter, _⟩ :=
    setup_steps_of_accepted hwidth haccepted (by decide) .attentive Disk.empty
  obtain rfl := Except.ok.inj hreplay
  exact ⟨by decide, haccepted, w, hsetup, hwriter, hfilter⟩

/-! ## Refused numbers of channels -/

/-- Without an error there are channels, and as many as before if they are to be selected in turn
again. -/
theorem width_of_checkedReplay {replay : Option ReplayFilter}
    (h : checkedReplay c args = .ok replay) :
    0 < width c args ∧ (c.writer.selector = .roundRobin →
      ∀ r, c.recovery.replay = some r → r.formerParallelism = width c args) := by
  have hfilter := replayFilter_of_checkedReplay h
  unfold checkedReplay at h
  dsimp only at h
  rw [hfilter] at h
  dsimp only at h
  split_ifs at h with hnone hchanged
  refine ⟨Nat.pos_of_ne_zero hnone, ?_⟩
  intro hselector r hr
  by_contra hne
  apply hchanged
  rw [replayFilter_eq hfilter, hr]
  exact ⟨hselector, hne⟩

/-- The setup does not ask for the local channel. -/
theorem isOk_setup_unplaced (c : Config) (args : RunArgs) (surroundings : Surroundings) (d : Disk) :
    (setup c.unplaced args surroundings d).isOk = (setup c args surroundings d).isOk := by
  have hchecked : checkedReplay c.unplaced args = checkedReplay c args := rfl
  have hpool : makePool c.unplaced = makePool c := rfl
  unfold setup
  rw [hchecked, hpool]
  cases checkedReplay c args with
  | error e => rfl
  | ok replay =>
    cases makePool c with
    | error e => rfl
    | ok pool =>
      -- the only part of the partition on which the writer's checks depend is its width
      have hwidth : (Partition.make (partitionInfo c.unplaced args)).width =
          (Partition.make (partitionInfo c args)).width := rfl
      have hfits : (partitionInfo c.unplaced args).fitsMemory = (partitionInfo c args).fitsMemory :=
        rfl
      unfold Writer.make
      dsimp only
      rw [hwidth, hfits]
      split_ifs <;> rfl

theorem checkedReplay_of_setup (h : setup c args surroundings d = .ok w) :
    ∃ replay, checkedReplay c args = .ok replay := by
  unfold setup at h
  cases hchecked : checkedReplay c args with
  | ok replay => exact ⟨replay, rfl⟩
  | error e =>
    rw [hchecked] at h
    exact nomatch h

/-- If there is memory for it, a valid configuration is set up with just those numbers of channels
with which it would be valid if it had no local channel. -/
theorem setup_isOk_iff (hvalid : c.Valid) (hfits : fitsMemory c args = true)
    (surroundings : Surroundings) (d : Disk) :
    (setup c args surroundings d).isOk = true ↔ (effective c.unplaced args).Valid := by
  constructor
  · intro h
    obtain ⟨w, hsetup⟩ : ∃ w, setup c args surroundings d = .ok w := by
      cases hsetup : setup c args surroundings d with
      | ok w => exact ⟨w, rfl⟩
      | error e =>
        rw [hsetup] at h
        exact nomatch h
    obtain ⟨replay, hchecked⟩ := checkedReplay_of_setup hsetup
    obtain ⟨hpos, hformer⟩ := width_of_checkedReplay hchecked
    have hle : width c args ≤ maxChannels := (madeWith_setup hsetup).madeFor.start.width_le
    refine ⟨⟨hpos, hle, ?_⟩, hvalid.buffer, ⟨hvalid.recovery.dataset_ne, ?_⟩⟩
    · intro own hown
      exact nomatch hown
    · intro r hr
      have hreplay := hvalid.recovery.replay r hr
      exact ⟨hreplay.former_pos, hreplay.former_le, hreplay.lost_lt,
        fun hselector => hformer hselector r hr⟩
  · intro h
    have hunplaced : fitsMemory c.unplaced args = true := hfits
    obtain ⟨w, hsetup⟩ := setup_of_valid h hunplaced surroundings d
    rw [← isOk_setup_unplaced, hsetup]
    rfl

/-- **Nothing but the local channel is asked of the configuration only.** Take a valid
configuration and a shuffle over as many channels as its arguments say, for which there is memory.
The setup refuses them, and the shuffle fails with that and leaves the disk as it is, just if the
configuration would not be valid with so many channels and without a local channel. -/
theorem refuses_iff {n : Nat} (hvalid : c.validate = .ok ()) (hargs : args.channels = some n)
    (hfits : fitsMemory c args = true) (surroundings : Surroundings) (d : Disk) :
    (∃ e, e ≠ .memory ∧ setup c args surroundings d = .error e ∧
      runAmong surroundings c args d = (.error e, d)) ↔
    ∃ e, ({ c with writer := { c.writer with channels := n, localChannel := none } } :
      Config).validate = .error e := by
  have hasked : ({ c with writer := { c.writer with channels := n, localChannel := none } } :
      Config) = effective c.unplaced args := by
    unfold effective width
    rw [hargs]
    rfl
  have hisOk : (setup c args surroundings d).isOk = true ↔ (effective c.unplaced args).Valid :=
    setup_isOk_iff (Config.validate_eq_ok_iff.1 hvalid) hfits surroundings d
  rw [hasked]
  constructor
  · rintro ⟨e, _, hrefused, _⟩
    rw [hrefused, ← Config.validate_eq_ok_iff] at hisOk
    cases hasked : (effective c.unplaced args).validate with
    | error e => exact ⟨e, rfl⟩
    | ok _ => exact nomatch hisOk.2 hasked
  · rintro ⟨e, hinvalid⟩
    rw [← Config.validate_eq_ok_iff, hinvalid] at hisOk
    cases hsetup : setup c args surroundings d with
    | error e =>
      refine ⟨e, ?_, rfl, runAmong_of_refused hsetup⟩
      rintro rfl
      exact Bool.false_ne_true ((setup_eq_memory_iff.1 hsetup).symm.trans hfits)
    | ok w =>
      rw [hsetup] at hisOk
      exact nomatch hisOk.1 rfl

/-! A small case: four channels are configured, the last of which is the local one. -/

def placedConfig : Config where
  writer := { channels := 4, localChannel := some ⟨3⟩ }
  buffer := { bufferSize := 256, poolSize := 8 }

/-- There are not so many channel indices. -/
theorem refuses_small :
    placedConfig.validate = .ok () ∧
    ∃ e, e ≠ .memory ∧
      setup placedConfig { channels := some 65537 } .attentive Disk.empty = .error e ∧
      runAmong .attentive placedConfig { channels := some 65537 } Disk.empty =
        (.error e, Disk.empty) := by
  have hvalid : placedConfig.validate = .ok () := by decide
  refine ⟨hvalid, ?_⟩
  rw [refuses_iff hvalid rfl (by decide)]
  exact ⟨.invalid (.tooManyChannels 65537), rfl⟩

/-- **A shuffle that does not have its local channel** is not refused: over two channels none is the
last of four. The configuration with two channels is not valid, but the shuffle reports what both
channels received. -/
theorem runs_without_local_channel :
    placedConfig.validate = .ok () ∧
    ({ placedConfig with writer := { placedConfig.writer with channels := 2 } } : Config).validate =
      .error (.channelOutOfRange .localChannel ⟨3⟩ 2) ∧
    (run placedConfig { supersteps := 1, vertices := 2, channels := some 2 } Disk.empty).1.map
      (fun report => report.channels.map ChannelReport.records) = .ok [2, 2] := by
  refine ⟨by decide, by decide, ?_⟩
  decide +kernel

end Shuffle

end Fanout
