import Fanout.Proofs.Recovery.Inspection
import Fanout.Proofs.Shuffle.Job
import Fanout.Proofs.Writer.Mirrors

/-!
# Inspecting what a shuffle logged

A shuffle with a recovery log leaves segments behind, and an inspection with the same configuration
lists and counts them. It sees every frame that was logged if the name of the dataset has no slash.

* `inspection_sees_logged` — what an inspection finds after a shuffle that succeeded.
* `inspection_misses_nested` — a valid dataset whose segments lie where an inspection does not look.
-/

namespace Fanout

namespace Shuffle

variable {c : Config} {args : RunArgs} {surroundings : Surroundings} {d : Disk} {w : Producer}
  {report : RunReport}

/-- What the recovery log of a shuffle is handed during its job. -/
def jobCalls (w : Producer) (args : RunArgs) : List LogCall :=
  Writer.along record (fun w op => w.logCalls record op) w (job args args.supersteps ++ [.close])

/-- What the recovery log of a shuffle is for. -/
def logScope (c : Config) (args : RunArgs) : LogScope :=
  Writer.scopeOf (Partition.make (partitionInfo c args)) c.recovery.path

/-- The frames that the recovery log of a shuffle logs, in their order. -/
def logged (surroundings : Surroundings) (c : Config) (args : RunArgs) (d : Disk) : List Copy :=
  match setup c args surroundings d with
  | .error _ => []
  | .ok w => RecoveryLog.copiedAll (RecoveryLog.make (logScope c args), d) (jobCalls w args)

theorem logged_eq (hsetup : setup c args surroundings d = .ok w) :
    logged surroundings c args d =
      RecoveryLog.copiedAll (RecoveryLog.make (logScope c args), d) (jobCalls w args) := by
  rw [logged, hsetup]

theorem backup_setup (hsetup : setup c args surroundings d = .ok w)
    (henabled : c.recovery.enabled = true) :
    w.backup = Backup.make (some (logScope c args)) d := by
  obtain ⟨pool, _, hmade⟩ := setup_made hsetup
  have hbackup := Writer.backup_make hmade
  rw [writerOptions, if_pos henabled] at hbackup
  exact hbackup

/-- The producer of a shuffle that succeeds performs its whole job. -/
theorem succeeds_of_report (hsetup : setup c args surroundings d = .ok w)
    (hreport : (runAmong surroundings c args d).1 = .ok report) :
    w.Succeeds record (job args args.supersteps ++ [.close]) ∧
      (produce w args args.supersteps).2 = w.run record (job args args.supersteps ++ [.close]) := by
  obtain ⟨hok, _⟩ := (runAmong_eq_ok_iff hsetup).1 hreport
  rw [produce_eq] at hok ⊢
  have hsucceeds := (Writer.performAll_eq_ok_iff _ _).1 hok
  exact ⟨hsucceeds, Writer.performAll_snd hsucceeds⟩

/-- What is logged are frames of records on remote channels, and no channel returns to a superstep
that it left. -/
theorem logged_frames {own : ChannelId} (hsetup : setup c args surroundings d = .ok w)
    (hreport : (runAmong surroundings c args d).1 = .ok report)
    (hlocal : c.writer.localChannel = some own) (hsteps : args.supersteps ≤ UInt32.size) :
    (∀ copy ∈ logged surroundings c args d, copy.channel ≠ own ∧ IsFrame copy.bytes) ∧
      ∀ channel step, NotRevisited step (copiesOn channel (logged surroundings c args d)) := by
  obtain ⟨hsucceeds, _⟩ := succeeds_of_report hsetup hreport
  have hlength : w.lanes.length = (Partition.make (partitionInfo c args)).info.subpartitions :=
    (madeWith_setup hsetup).madeFor.start.length_eq
  have hlocal : (Partition.make (partitionInfo c args)).info.localChannel = some own := hlocal
  have hsublist := Writer.copiedAll_run c.recovery.path d hlocal hlength hsucceeds
  rw [logged_eq hsetup]
  constructor
  · intro copy hcopy
    obtain ⟨r, _, hr⟩ := List.mem_filterMap.1 (hsublist.subset hcopy)
    obtain ⟨hremote, hchannel, _, hframe⟩ := copyOf_eq_some_iff.1 hr
    exact ⟨hchannel ▸ hremote, .of_encodeRecord hframe⟩
  · intro channel step
    have hordered : ((job args args.supersteps ++ [Operation.close]).filterMap
        Operation.superstep?).Pairwise (· ≤ ·) := by
      rw [List.filterMap_append]
      exact (List.append_nil _).symm ▸ (supersteps_job hsteps (Nat.le_refl _)).1
    refine (notRevisited_copies own channel step
      (Writer.pairwise_supersteps_run hsucceeds hordered)).sublist ?_
    exact (hsublist.filter _).map _

/-- When the writer is given up, its log has been used for the job and is closed. -/
theorem disk_of_report (hsetup : setup c args surroundings d = .ok w)
    (henabled : c.recovery.enabled = true)
    (hreport : (runAmong surroundings c args d).1 = .ok report) :
    (∃ now, (runAmong surroundings c args d).2 =
      (RecoveryLog.callAll (RecoveryLog.make (logScope c args), d)
        (jobCalls w args ++ [.finish now])).2) ∧
    report.metrics.backup.records = UInt64.ofNat (logged surroundings c args d).length := by
  obtain ⟨_, hlast⟩ := succeeds_of_report hsetup hreport
  obtain ⟨_, _, hmetrics⟩ := (runAmong_eq_ok_iff hsetup).1 hreport
  have hbackup := backup_setup hsetup henabled
  have hlog : w.backup.log = some (RecoveryLog.make (logScope c args)) := by
    rw [hbackup]
    rfl
  have hdisk : w.backup.disk = d := by
    rw [hbackup]
    rfl
  constructor
  · let now := (produce w args args.supersteps).2.outlet.now
    have hdrop := Writer.backup_run w ((job args args.supersteps ++ [Operation.close]) ++ [.drop])
    rw [Writer.run_concat, Writer.along_concat, ← hlast] at hdrop
    have huses := (Backup.callAll_eq hlog (jobCalls w args ++ [.finish now])).1
    rw [hdisk] at huses
    refine ⟨now, (runAmong_snd hsetup).trans (Eq.trans ?_ huses)⟩
    exact congrArg Backup.disk hdrop
  · have hrecords := (Backup.callAll_eq hlog (jobCalls w args)).2
    rw [jobCalls, ← Writer.backup_run, ← hlast, hdisk, hbackup] at hrecords
    rw [← hmetrics, logged_eq hsetup]
    exact hrecords.trans (UInt64.zero_add _)

/-- **An inspection sees what a shuffle logged.** Settings are valid and ask for a recovery log,
with a local channel and a dataset whose name has no slash; nothing fails on the disk, and the
directory of the log is empty or can be made. If a shuffle among any consumers succeeds, then an
inspection with the same settings succeeds as well. It finds a segment for each superstep and
channel for which a frame was logged, and no other, one after the other by superstep and channel;
all of them are for remote channels. It counts as many records in each as frames were logged for it,
so that all of them together are those that the shuffle reports as logged. -/
theorem inspection_sees_logged {own : ChannelId} {d' : Disk} (hvalid : c.validate = .ok ())
    (henabled : c.recovery.enabled = true) (hlocal : c.writer.localChannel = some own)
    (hslash : '/' ∉ c.recovery.dataset.toList) (hsteps : args.supersteps < UInt32.size)
    (hdisk : d.Healthy) (hvacant : d.Vacant (Name.ofText c.recovery.path))
    (hrun : runAmong surroundings c args d = (.ok report, d')) :
    ∃ summaries, Inspect.collect c {} d' = .ok summaries ∧
      Inspect.Sees ⟨c.recovery.dataset⟩ (logged surroundings c args d) summaries ∧
      (∀ summary ∈ summaries, summary.segment.name.channel ≠ own) ∧
      report.metrics.backup.records =
        UInt64.ofNat (summaries.map SegmentSummary.records).sum := by
  have hreport : (runAmong surroundings c args d).1 = .ok report := congrArg Prod.fst hrun
  have hdataset : c.recovery.dataset.isEmpty = false :=
    (Config.validate_eq_ok_iff.1 hvalid).recovery.dataset_ne henabled
  obtain ⟨w, hsetup⟩ := exists_setup hreport
  obtain ⟨hframes, hvisits⟩ := logged_frames hsetup hreport hlocal (Nat.le_of_lt hsteps)
  obtain ⟨⟨now, hafter⟩, hrecords⟩ := disk_of_report hsetup henabled hreport
  have hfiled : RecoveryLog.Filed (logScope c args) d (logged surroundings c args d) d' := by
    have hclosed := RecoveryLog.Filed.of_finish (logScope c args) hdataset hslash hdisk hvacant
      (jobCalls w args) now
    rwa [← hafter, hrun, ← logged_eq hsetup] at hclosed
  obtain ⟨summaries, hcollect, hsees⟩ :=
    hfiled.collect_sees (fun copy hcopy => (hframes copy hcopy).2) hvisits rfl rfl
  refine ⟨summaries, hcollect, hsees, fun summary hsummary => ?_, ?_⟩
  · obtain ⟨copy, hcopy, hname⟩ :=
      List.mem_map.1 ((hsees.segments _).1 (List.mem_map_of_mem hsummary))
    rw [← hname]
    exact (hframes copy hcopy).1
  · rw [hrecords, hsees.total]

/-! A small case: two vertices message each other for one superstep, over two channels of which the
first is local. -/

def loggingConfig (dataset : String) : Config where
  writer := { channels := 2, localChannel := some ⟨0⟩ }
  buffer := { bufferSize := 64, poolSize := 4 }
  recovery := { enabled := true, path := "log", dataset := dataset }

def pairArgs : RunArgs where
  supersteps := 1
  vertices := 2

/-- A dataset whose name ends like that of a segment. -/
theorem inspection_sees_logged_small :
    (runAmong .attentive (loggingConfig "ranks_1_0") pairArgs Disk.empty).1.isOk = true ∧
    ∃ summaries, Inspect.collect (loggingConfig "ranks_1_0") {}
        (runAmong .attentive (loggingConfig "ranks_1_0") pairArgs Disk.empty).2 = .ok summaries ∧
      (∀ n, n ∈ summaries.map (fun summary => summary.segment.name) ↔
        n = ⟨⟨"ranks_1_0"⟩, ⟨1⟩, ⟨0⟩⟩) ∧
      (summaries.map SegmentSummary.records).sum = 2 := by
  have hok : (runAmong .attentive (loggingConfig "ranks_1_0") pairArgs Disk.empty).1.isOk =
      true := by decide +kernel
  have hvacant : Disk.empty.Vacant (Name.ofText (loggingConfig "ranks_1_0").recovery.path) := by
    constructor <;> decide +kernel
  rcases hrun : runAmong .attentive (loggingConfig "ranks_1_0") pairArgs Disk.empty with
    ⟨_ | report, d'⟩
  · rw [hrun] at hok
    exact nomatch hok
  · obtain ⟨summaries, hcollect, hsees, _, _⟩ := inspection_sees_logged (by decide) rfl rfl
      (by decide +kernel) (by decide) Disk.healthy_empty hvacant hrun
    have hlogged : (logged .attentive (loggingConfig "ranks_1_0") pairArgs Disk.empty).map
        (segmentFor ⟨"ranks_1_0"⟩) = List.replicate 2 ⟨⟨"ranks_1_0"⟩, ⟨1⟩, ⟨0⟩⟩ := by
      decide +kernel
    refine ⟨rfl, summaries, hcollect, fun n => ?_, ?_⟩
    · refine (hsees.segments n).trans ?_
      show n ∈ List.map (segmentFor ⟨"ranks_1_0"⟩) _ ↔ _
      rw [hlogged]
      simp
    · rw [hsees.total]
      simpa using congrArg List.length hlogged

/-- **A dataset whose segments an inspection misses**: its name is valid, but the slash in it makes
the segments lie in a directory of their own inside of that which is listed. -/
theorem inspection_misses_nested :
    (loggingConfig "a/b").validate = .ok () ∧
    Disk.empty.Healthy ∧ Disk.empty.Vacant (Name.ofText (loggingConfig "a/b").recovery.path) ∧
    let out := runAmong .attentive (loggingConfig "a/b") pairArgs Disk.empty
    out.1.map (fun report => report.metrics.backup) = .ok ⟨2, 0⟩ ∧
    (Inspect.collect (loggingConfig "a/b") {} out.2).map List.length = .ok 0 := by
  refine ⟨by decide, Disk.healthy_empty, ⟨?_, ?_⟩, ?_, ?_⟩ <;> decide +kernel

end Shuffle

end Fanout
