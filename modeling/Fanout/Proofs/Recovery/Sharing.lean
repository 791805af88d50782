import Fanout.Proofs.Recovery.Attempts
import Fanout.Proofs.Recovery.Ready
import Fanout.Proofs.Segment.Listing

/-!
# Directories that several logs share

Logs of any datasets may write to one directory. A log makes files under the names of its own
segments only (`RecoveryLog.call_gains`), and such a name is read back as the segment, so the
datasets are kept apart however the logs take turns and whatever fails.

* `segments_apart` — names are read back, and a listing gives the segments of one dataset.
-/

namespace Fanout

open Disk (EndsIn)

/-- The dataset has a name, without a slash. -/
structure Dataset.Plain (dataset : Dataset) : Prop where
  nonempty : dataset.id.isEmpty = false
  slashless : '/' ∉ dataset.id.toList

namespace SegmentName

variable {m n : SegmentName}

/-- A segment's path ends in the name of its file. -/
theorem endsIn_fileName (h : n.dataset.Plain) (dir : String) :
    ∃ front, EndsIn (Name.ofText (n.path dir)) front (Name.ofText n.fileName) := by
  have hslash := separator_not_mem_fileName h.slashless
  by_cases hdir : dir.isEmpty = true
  · refine ⟨[], ?_, stepOf_fileName h.slashless⟩
    rw [path, Path.join, if_pos hdir]
    exact Name.components_of_not_mem hslash
  · obtain ⟨front, hcomponents, -⟩ :=
      Path.components_join (Bool.eq_false_iff.2 hdir) hslash
    exact ⟨front, hcomponents, stepOf_fileName h.slashless⟩

/-- **The path of a segment** is read back from its last component. -/
theorem parse?_path (h : n.dataset.Plain) (dir : String) :
    ((Path.components (n.path dir)).getLast?.bind Name.text?).bind parse? = some n := by
  obtain ⟨front, hends⟩ := endsIn_fileName h dir
  rw [Path.components, hends.components_eq, List.getLast?_concat, Option.bind_some,
    Name.text?_ofText, Option.bind_some, parse?_fileName h.nonempty]

/-- **Different segments** have different files. -/
theorem find_path_ne (hm : m.dataset.Plain) (hn : n.dataset.Plain) (hne : m ≠ n)
    {dir dir' : String} {d : Disk} {loc : Location}
    (hfind : d.find (Name.ofText (m.path dir)) = .ok loc) :
    d.find (Name.ofText (n.path dir')) ≠ .ok loc := by
  obtain ⟨front, hends⟩ := endsIn_fileName hm dir
  obtain ⟨front', hends'⟩ := endsIn_fileName hn dir'
  refine Disk.find_ne hends hends' (fun hname => hne ?_) hfind
  exact fileName_inj hm.nonempty hn.nonempty (Name.ofText_inj hname)

end SegmentName

/-! ## New files -/

namespace Disk

variable {P : Name → Prop} {d d' d'' : Disk} {path : List UInt8} {front : List Name} {name : Name}

/-- Where a file has appeared, its name is of a kind. -/
def Gains (P : Name → Prop) (d d' : Disk) : Prop :=
  ∀ place name id, d'.node? (entry place name) = some (.file id) →
    (∃ id, d.node? (entry place name) = some (.file id)) ∨ P name

theorem Gains.trans (h : d.Gains P d') (h' : d'.Gains P d'') : d.Gains P d'' :=
  fun place name id hnode => by
    rcases h' place name id hnode with ⟨id', hbefore⟩ | hname
    · exact h place name id' hbefore
    · exact .inr hname

theorem Lays.gains (h : d.Lays d') : d.Gains P d' :=
  fun _ _ id hnode => .inl ⟨id, h.node?_file.1 hnode⟩

theorem SameTree.gains (h : d.SameTree d') : d.Gains P d' :=
  fun _ _ id hnode => .inl ⟨id, (h.node?_eq _).symm.trans hnode⟩

/-- Opening a file makes no file of another name. -/
theorem openForWriting_gains (hpath : EndsIn path front name) (hname : P name) (mode : WriteMode) :
    d.Gains P (d.openForWriting path mode).2 := by
  have hcalled : d.SameTree { d with faults := d.faults.next.2 } := ⟨rfl, rfl⟩
  unfold openForWriting
  rcases hnext : d.faults.next with ⟨fault, plan⟩
  rw [hnext] at hcalled
  cases fault with
  | some e => exact hcalled.gains
  | none =>
    dsimp only
    split
    · exact hcalled.gains
    · rename_i loc hslot
      split
      · exact hcalled.gains
      · exact hcalled.gains
      · cases mode with
        | append => exact hcalled.gains
        | truncate => exact hcalled.gains.trans (SameTree.gains ⟨rfl, rfl⟩)
      · obtain ⟨_, dir, _, _, _, _, rfl⟩ := (findSlot_eq_ok_iff hpath).1 hslot
        intro place other id hnode
        change (Disk.put _ (entry dir name) _).node? (entry place other) = _ at hnode
        rw [node?_put] at hnode
        by_cases hsame : entry dir name = entry place other
        · obtain rfl : name = other := (List.cons.inj (List.append_inj_right' hsame rfl)).1
          exact .inr hname
        · rw [if_neg (by simp [entry]), if_neg hsame] at hnode
          exact .inl ⟨id, hnode⟩

end Disk

/-- The name of a segment's file. -/
def Name.OfSegment (name : Name) : Prop :=
  ∃ n : SegmentName, n.dataset.Plain ∧ name = Name.ofText n.fileName

namespace SegmentWriter

/-- Opening a segment makes no other file, whatever fails. -/
theorem openAt_gains {n : SegmentName} (h : n.dataset.Plain) (dir : String) (step : Superstep)
    (mode : WriteMode) (d : Disk) :
    d.Gains Name.OfSegment (openAt (n.path dir) step mode d).2 := by
  obtain ⟨front, hends⟩ := SegmentName.endsIn_fileName h dir
  have hmade : d.Gains Name.OfSegment (makeParent (n.path dir) d).2 :=
    (makeParent_lays (n.path dir) d).gains
  unfold openAt
  rcases hmake : makeParent (n.path dir) d with ⟨_ | _, made⟩ <;> rw [hmake] at hmade
  · exact hmade
  · have hopened := hmade.trans
      (Disk.openForWriting_gains (d := made) hends ⟨n, h, rfl⟩ mode)
    dsimp only
    rcases hfile : made.openForWriting (Name.ofText (n.path dir)) mode with ⟨_ | _, last⟩ <;>
      rw [hfile] at hopened <;> exact hopened

end SegmentWriter

namespace RecoveryLog

variable {l : RecoveryLog} (now : Duration) (c : ChannelId) (step : Superstep) (d : Disk)

theorem leaveSegment_sameTree (l : RecoveryLog) : d.SameTree (l.leaveSegment now c step d).2 := by
  unfold leaveSegment
  split
  · exact .refl d
  · split
    · exact .refl d
    · exact finishSegment_sameTree _ now _ d

theorem writeFrame_sameTree (l : RecoveryLog) (w : SegmentWriter) (bytes : ByteArray) :
    d.SameTree (l.writeFrame now c step w bytes d).2.2 := by
  have hwrite := w.write_sameTree d bytes
  unfold writeFrame
  rcases hout : w.write bytes d with ⟨_ | _, w', d'⟩ <;> rw [hout] at hwrite
  · exact hwrite.trans (w'.drop_sameTree d')
  · exact hwrite

theorem finishFrom_sameTree (l : RecoveryLog) (i n : Nat) :
    d.SameTree (l.finishFrom now i d n).2.2 := by
  induction n generalizing l i d with
  | zero => exact .refl d
  | succ n ih =>
    unfold finishFrom
    dsimp only
    split
    · exact ih d l (i + 1)
    · exact (finishSegment_sameTree _ now _ d).trans (ih _ _ _)

theorem openSegment_gains (h : l.scope.dataset.Plain) :
    d.Gains Name.OfSegment (l.openSegment now c step d).2.2 := by
  have hopened (mode : WriteMode) : d.Gains Name.OfSegment
      (SegmentWriter.openAt (l.segmentPath c step) step mode d).2 :=
    SegmentWriter.openAt_gains (n := ⟨l.scope.dataset, c, step⟩) h l.scope.dir step mode d
  unfold openSegment
  dsimp only
  split <;> rename_i hopen
  · exact congrArg Prod.snd hopen ▸ hopened _
  · exact congrArg Prod.snd hopen ▸ hopened _

theorem resume_gains (h : l.scope.dataset.Plain) (bytes : ByteArray) :
    d.Gains Name.OfSegment (l.resume now c step bytes d).2.2 := by
  unfold resume writeFirst
  split
  · exact (writeFrame_sameTree now c step d l _ bytes).gains
  · split
    · exact (Disk.SameTree.refl d).gains
    · have hopened := openSegment_gains now c step d h
      split <;> rename_i hopen <;> rw [hopen] at hopened
      · exact hopened
      · exact hopened.trans (writeFrame_sameTree now c step _ _ _ bytes).gains

/-- **A log makes files** under the names of its segments only, whatever fails. -/
theorem call_gains (h : l.scope.dataset.Plain) (use : LogCall) :
    d.Gains Name.OfSegment (call (l, d) use).2 := by
  cases use with
  | finish now => exact (finishFrom_sameTree now d l 0 _).gains
  | frame now c superstep bytes =>
    show d.Gains Name.OfSegment (l.logFrame now c superstep bytes d).2.2
    cases hengaged : l.isEngaged c superstep with
    | false =>
      rw [logFrame_of_not_engaged hengaged]
      exact (Disk.SameTree.refl d).gains
    | true =>
      obtain ⟨step, rfl⟩ := exists_step_of_engaged hengaged
      have hscope : (l.leaveSegment now c step d).1.scope = l.scope :=
        Lasting.leaveSegment (P := (·.scope = l.scope)) now d
          ⟨fun _ h => h, fun _ _ _ h => h⟩ rfl step
      rw [logFrame_of_engaged hengaged]
      exact (leaveSegment_sameTree now c step d l).gains.trans
        (resume_gains now c step _ (hscope.symm ▸ h) bytes)

end RecoveryLog

/-! ## Shared directories -/

/-- How a disk is filled: logs of any datasets are used in turn, and between that anything may
happen, as long as the new files of others do not have the names of segments. -/
inductive Disk.FilledFrom (start : Disk) : Disk → Prop where
  | start : FilledFrom start start
  | log {d : Disk} (l : RecoveryLog) (use : LogCall) : FilledFrom start d →
    l.scope.dataset.Plain → FilledFrom start (RecoveryLog.call (l, d) use).2
  | other {d d' : Disk} : FilledFrom start d → d.Gains Name.Foreign d' → FilledFrom start d'

/-- However a disk is filled, the files in its directories are named after segments or after none. -/
theorem Disk.FilledFrom.legible {start d : Disk} {place : Location} (h : start.FilledFrom d)
    (hstart : ∀ name id, start.node? (Disk.entry place name) = some (.file id) → name.Foreign) :
    d.Legible place := by
  induction h with
  | start => exact fun name id hnode => .inr (hstart name id hnode)
  | log l use _ hplain ih =>
    intro name id hnode
    rcases RecoveryLog.call_gains _ hplain use place name id hnode with ⟨id', hbefore⟩ | hnew
    · exact ih name id' hbefore
    · obtain ⟨n, hn, rfl⟩ := hnew
      exact .inl ⟨n, hn.nonempty, rfl⟩
  | other _ hothers ih =>
    intro name id hnode
    rcases hothers place name id hnode with ⟨id', hbefore⟩ | hnew
    · exact ih name id' hbefore
    · exact .inr hnew

/-- **Names of segments are read back, and datasets never mix.** For datasets that have a name
without a slash, whatever other characters it has: the last component of a segment's path is read
back as the segment, and different segments have different files. In a directory that logs of such
datasets fill, beside files whose names are none of segments, the listing of a dataset gives its
segments that are there as files, each once, with their sizes, and in their order. -/
theorem segments_apart :
    (∀ n : SegmentName, n.dataset.Plain → ∀ dir,
      ((Path.components (n.path dir)).getLast?.bind Name.text?).bind SegmentName.parse? =
        some n) ∧
    (∀ m n : SegmentName, m.dataset.Plain → n.dataset.Plain → m ≠ n → ∀ dir dir' d loc,
      Disk.find d (Name.ofText (m.path dir)) = .ok loc →
        d.find (Name.ofText (n.path dir')) ≠ .ok loc) ∧
    ∀ start d : Disk, ∀ dir place,
      (∀ name id, start.node? (Disk.entry place name) = some (.file id) → name.Foreign) →
      start.FilledFrom d → d.find (Name.ofText dir) = .ok place →
      d.node? place = some .directory → ∀ dataset : Dataset, dataset.Plain →
      ∃ segments, listSegments d dir dataset = .ok segments ∧
        segments.Pairwise (fun a b => a.name.Before b.name) ∧
        ∀ info, info ∈ segments ↔ ∃ c s id,
          d.node? (Disk.entry place (Name.ofText (SegmentName.fileName ⟨dataset, c, s⟩))) =
            some (.file id) ∧
          info = ⟨SegmentName.path ⟨dataset, c, s⟩ dir, ⟨dataset, c, s⟩, (d.content id).size⟩ := by
  refine ⟨fun n hn dir => n.parse?_path hn dir, fun m n hm hn hne dir dir' d loc hfind => ?_,
    fun start d dir place hstart hfilled hfind hplace dataset hdataset => ?_⟩
  · exact SegmentName.find_path_ne hm hn hne hfind
  · obtain ⟨segments, hlist, hordered, hmem⟩ :=
      listSegments_eq_ok hdataset.nonempty (hfilled.legible hstart) hfind hplace
    refine ⟨segments, hlist, hordered, fun info => (hmem info).trans ?_⟩
    constructor
    · rintro ⟨id, rfl, hnode, hinfo⟩
      exact ⟨info.name.channel, info.name.superstep, id, hnode, hinfo⟩
    · rintro ⟨c, s, id, hnode, rfl⟩
      exact ⟨id, rfl, hnode, rfl⟩

/-- Two logs in one directory, where the name of one dataset begins with that of the other, and a
dataset that is named like a segment. -/
theorem segments_apart_small :
    let scope (dataset : String) : LogScope := ⟨"log", ⟨dataset⟩, 2, some ⟨0⟩⟩
    let frame : LogCall := .frame .zero ⟨1⟩ (some ⟨4⟩) (pack [0, 0, 0, 0])
    let d := (RecoveryLog.call (.make (scope "a"), Disk.empty) frame).2
    let d' := (RecoveryLog.call (.make (scope "a_1"), d) frame).2
    let segment (dataset : String) : SegmentName := ⟨⟨dataset⟩, ⟨1⟩, ⟨4⟩⟩
    ((Path.components ((segment "spindlelog_x_1_2.log").path "log")).getLast?.bind
      Name.text?).bind SegmentName.parse? = some (segment "spindlelog_x_1_2.log") ∧
    d'.find (Name.ofText ((segment "a_1").path "log")) ≠
      .ok [Name.ofText "log", Name.ofText (segment "a").fileName] ∧
    ∃ segments, listSegments d' "log" ⟨"a"⟩ = .ok segments ∧
      (∀ info ∈ segments, info.name.dataset = ⟨"a"⟩) ∧
      ⟨"log/spindlelog_a_1_4.log", segment "a", 0⟩ ∈ segments := by
  intro scope frame d d' segment
  obtain ⟨hparse, hdistinct, hlisting⟩ := segments_apart
  have hempty : ∀ name id,
      Disk.empty.node? (Disk.entry [Name.ofText "log"] name) = some (.file id) → name.Foreign := by
    intro name id hnode
    exact absurd (Disk.healthy_empty.id_lt hnode) (Nat.not_lt_zero id)
  have hfilled : Disk.empty.FilledFrom d' :=
    .log _ frame (.log _ frame .start ⟨by decide, by decide⟩) ⟨by decide, by decide⟩
  obtain ⟨segments, hlist, -, hmem⟩ := hlisting Disk.empty d' "log" [Name.ofText "log"] hempty
    hfilled (by decide +kernel) (by decide +kernel) ⟨"a"⟩ ⟨by decide, by decide⟩
  refine ⟨hparse _ ⟨by decide, by decide⟩ "log", ?_, segments, hlist, fun info hinfo => ?_,
    (hmem _).2 ⟨⟨1⟩, ⟨4⟩, 0, by decide +kernel, ?_⟩⟩
  · exact hdistinct (segment "a") (segment "a_1") ⟨by decide, by decide⟩ ⟨by decide, by decide⟩
      (by decide) "log" "log" d' _ (by decide +kernel)
  · obtain ⟨c, s, id, -, rfl⟩ := (hmem info).1 hinfo
    rfl
  · have hpath : (segment "a").path "log" = "log/spindlelog_a_1_4.log" := by decide +kernel
    have hsize : (d'.content 0).size = 0 := by decide +kernel
    rw [← hpath, hsize]

end Fanout
