import Fanout.Config.Validate
import Mathlib.Tactic.SplitIfs

/-!
# Valid configurations

What each section must fulfil so that validation accepts it, in one structure per section. The
checks are made one after the other, but a configuration is valid just if all of its sections are
(`Config.validate_eq_ok_iff`).
-/

namespace Fanout

structure WriterSettings.Valid (s : WriterSettings) : Prop where
  channels_pos : 0 < s.channels
  channels_le : s.channels ≤ maxChannels
  local_lt : ∀ own, s.localChannel = some own → own.toNat < s.channels

theorem WriterSettings.validate_eq_ok_iff {s : WriterSettings} : s.validate = .ok () ↔ s.Valid := by
  constructor
  · intro h
    unfold validate at h
    split_ifs at h with hnone hmany
    refine ⟨Nat.pos_of_ne_zero hnone, Nat.le_of_not_lt hmany, fun own hown => ?_⟩
    rw [hown] at h
    dsimp only at h
    split_ifs at h with hwithin
    exact of_decide_eq_true hwithin
  · rintro ⟨hpos, hle, hlocal⟩
    unfold validate
    rw [if_neg (Nat.ne_of_gt hpos), if_neg (Nat.not_lt.2 hle)]
    split
    · rfl
    · rename_i own hown
      exact if_pos (decide_eq_true (hlocal own hown))

structure BufferSettings.Valid (s : BufferSettings) : Prop where
  pool_pos : 0 < s.poolSize
  size_le : minBufferSize ≤ s.bufferSize
  timeout_ne : ∀ timeout, s.requestTimeout = some timeout → timeout.isZero = false

theorem BufferSettings.validate_eq_ok_iff {s : BufferSettings} : s.validate = .ok () ↔ s.Valid := by
  constructor
  · intro h
    unfold validate at h
    split_ifs at h with hnone hsmall
    refine ⟨Nat.pos_of_ne_zero hnone, Nat.le_of_not_lt hsmall, fun timeout htimeout => ?_⟩
    rw [htimeout] at h
    dsimp only at h
    split_ifs at h with hzero
    exact Bool.eq_false_iff.2 hzero
  · rintro ⟨hpos, hle, htimeout⟩
    unfold validate
    rw [if_neg (Nat.ne_of_gt hpos), if_neg (Nat.not_lt.2 hle)]
    split
    · rfl
    · rename_i timeout hsome
      exact if_neg (Bool.eq_false_iff.1 (htimeout timeout hsome))

structure ReplaySettings.Valid (s : ReplaySettings) (writer : WriterSettings) : Prop where
  former_pos : 0 < s.formerParallelism
  former_le : s.formerParallelism ≤ maxChannels
  lost_lt : s.lostChannel.toNat < s.formerParallelism
  former_eq : writer.selector = .roundRobin → s.formerParallelism = writer.channels

theorem ReplaySettings.validate_eq_ok_iff {s : ReplaySettings} {writer : WriterSettings} :
    s.validate writer = .ok () ↔ s.Valid writer := by
  constructor
  · intro h
    unfold validate at h
    dsimp only at h
    split_ifs at h with hnone hmany hlost hchanged
    refine ⟨Nat.pos_of_ne_zero hnone, Nat.le_of_not_lt hmany, ?_, fun hselector => ?_⟩
    · simpa [ChannelId.isWithin] using hlost
    · exact Decidable.not_not.1 fun hne => hchanged ⟨hselector, hne⟩
  · rintro ⟨hpos, hle, hlost, hformer⟩
    have hwithin : s.lostChannel.isWithin s.formerParallelism = true := decide_eq_true hlost
    unfold validate
    dsimp only
    rw [if_neg (Nat.ne_of_gt hpos), if_neg (Nat.not_lt.2 hle), if_neg (by simp [hwithin])]
    exact if_neg fun hchanged => hchanged.2 (hformer hchanged.1)

structure RecoverySettings.Valid (s : RecoverySettings) (writer : WriterSettings) : Prop where
  dataset_ne : s.enabled = true → s.dataset.isEmpty = false
  replay : ∀ r, s.replay = some r → r.Valid writer

theorem RecoverySettings.validate_eq_ok_iff {s : RecoverySettings} {writer : WriterSettings} :
    s.validate writer = .ok () ↔ s.Valid writer := by
  constructor
  · intro h
    unfold validate at h
    split_ifs at h with hdataset
    refine ⟨fun henabled => Bool.eq_false_iff.2 fun hempty => hdataset ⟨henabled, hempty⟩, ?_⟩
    intro r hr
    rw [hr] at h
    exact ReplaySettings.validate_eq_ok_iff.1 h
  · rintro ⟨hdataset, hreplay⟩
    unfold validate
    rw [if_neg fun h => Bool.false_ne_true ((hdataset h.1).symm.trans h.2)]
    split
    · rfl
    · rename_i r hr
      exact ReplaySettings.validate_eq_ok_iff.2 (hreplay r hr)

namespace Config

structure Valid (c : Config) : Prop where
  writer : c.writer.Valid
  buffer : c.buffer.Valid
  recovery : c.recovery.Valid c.writer

/-- **A configuration is valid if all its sections are.** -/
theorem validate_eq_ok_iff {c : Config} : c.validate = .ok () ↔ c.Valid := by
  have hsections : c.validate = .ok () ↔ c.writer.validate = .ok () ∧ c.buffer.validate = .ok () ∧
      c.recovery.validate c.writer = .ok () := by
    unfold validate
    rcases c.writer.validate with _ | ⟨⟩ <;> rcases c.buffer.validate with _ | ⟨⟩ <;>
      simp [bind, Except.bind]
  rw [hsections, WriterSettings.validate_eq_ok_iff, BufferSettings.validate_eq_ok_iff,
    RecoverySettings.validate_eq_ok_iff]
  exact ⟨fun ⟨hwriter, hbuffer, hrecovery⟩ => ⟨hwriter, hbuffer, hrecovery⟩,
    fun ⟨hwriter, hbuffer, hrecovery⟩ => ⟨hwriter, hbuffer, hrecovery⟩⟩

end Config

end Fanout
