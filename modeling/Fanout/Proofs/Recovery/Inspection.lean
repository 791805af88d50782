import Fanout.Inspect
import Fanout.Proofs.Recovery.Ready
import Fanout.Proofs.Segment.Listing
import Fanout.Proofs.Stream.Payloads
import Mathlib.Algebra.BigOperators.Group.List.Lemmas
import Mathlib.Algebra.GroupWithZero.Nat

/-!
# Inspecting what a log keeps

The segments of a recovery log that is closed are found again by listing its directory, if nothing
was in there before and the name of the dataset has no slash: those of which a frame was logged, and
no others. Each of them holds as many records as frames were logged for it, unless its channel
returned to its superstep (`Keeps.collect_sees`).
-/

namespace Fanout

/-- The segment that a frame was logged for. -/
def segmentFor (dataset : Dataset) (copy : Copy) : SegmentName :=
  ⟨dataset, copy.channel, copy.superstep⟩

/-! ## Growing disks -/

theorem SegmentWriter.openAt_grows (path : String) (step : Superstep) (mode : WriteMode)
    (d : Disk) : d.Grows (openAt path step mode d).2 := by
  have hmake := (makeParent_lays path d).grows
  unfold openAt
  rcases hmade : makeParent path d with ⟨_ | _, made⟩ <;> rw [hmade] at hmake
  · exact hmake
  · have hopen := (made.openForWriting_fills (Name.ofText path) mode).grows
    dsimp only at hmake ⊢
    rcases hfile : made.openForWriting (Name.ofText path) mode with ⟨_ | _, last⟩ <;>
      rw [hfile] at hopen <;> exact hmake.trans hopen

namespace RecoveryLog

variable (l : RecoveryLog) (now : Duration) (c : ChannelId) (s : Superstep) (d : Disk)

theorem leaveSegment_grows : d.Grows (l.leaveSegment now c s d).2 := by
  unfold leaveSegment
  split
  · exact .refl d
  · split
    · exact .refl d
    · exact (finishSegment_sameTree _ now _ d).grows

theorem openSegment_grows : d.Grows (l.openSegment now c s d).2.2 := by
  have hopen := SegmentWriter.openAt_grows (l.segmentPath c s) s
    (if (l.channel c).latest = some s then .append else .truncate) d
  unfold openSegment
  dsimp only
  split <;> rename_i hout <;> rw [hout] at hopen <;> exact hopen

theorem writeFrame_grows (w : SegmentWriter) (frame : ByteArray) :
    d.Grows (l.writeFrame now c s w frame d).2.2 := by
  have hwrite := (w.write_sameTree d frame).grows
  unfold writeFrame
  rcases hout : w.write frame d with ⟨_ | _, w', d'⟩
  · rw [hout] at hwrite
    exact hwrite.trans (w'.drop_sameTree d').grows
  · rw [hout] at hwrite
    exact hwrite

theorem logFrame_grows (superstep : Option Superstep) (frame : ByteArray) :
    d.Grows (l.logFrame now c superstep frame d).2.2 := by
  unfold logFrame
  cases superstep with
  | none => exact .refl d
  | some s =>
    dsimp only
    split
    · exact .refl d
    · have hleave := l.leaveSegment_grows now c s d
      rcases hleft : l.leaveSegment now c s d with ⟨l₁, d₁⟩
      rw [hleft] at hleave
      dsimp only at hleave ⊢
      split
      · exact hleave.trans (l₁.writeFrame_grows now c s d₁ _ frame)
      · split
        · exact hleave
        · have hopen := l₁.openSegment_grows now c s d₁
          rcases hout : l₁.openSegment now c s d₁ with ⟨_ | w, l₂, d₂⟩ <;> rw [hout] at hopen
          · exact hleave.trans hopen
          · exact (hleave.trans hopen).trans (l₂.writeFrame_grows now c s d₂ w frame)

theorem finishFrom_grows (i n : Nat) : d.Grows (l.finishFrom now i d n).2.2 := by
  induction n generalizing l d i with
  | zero => exact .refl d
  | succ n ih =>
    unfold finishFrom
    dsimp only
    split
    · exact ih l d (i + 1)
    · exact (finishSegment_sameTree _ now _ d).grows.trans (ih _ _ (i + 1))

theorem call_grows (state : RecoveryLog × Disk) (use : LogCall) :
    state.2.Grows (call state use).2 := by
  cases use with
  | frame now c superstep bytes => exact state.1.logFrame_grows now c state.2 superstep bytes
  | finish now => exact state.1.finishFrom_grows now state.2 0 _

/-- **Whatever a log is used for**, nothing is removed from its disk. -/
theorem callAll_grows (state : RecoveryLog × Disk) (calls : List LogCall) :
    state.2.Grows (callAll state calls).2 := by
  induction calls generalizing state with
  | nil => exact .refl state.2
  | cons use uses ih => exact (call_grows state use).trans (ih (call state use))

/-! ## Listing what is kept -/

/-- The log that was made on one disk is closed on another: the directory was vacant, each segment
of which a frame was logged is complete, and no other file has changed. -/
structure Filed (scope : LogScope) (d₀ : Disk) (copies : List Copy) (d : Disk) : Prop where
  dataset_ne : scope.dataset.id.isEmpty = false
  slash_not_mem : '/' ∉ scope.dataset.id.toList
  vacant : d₀.Vacant (Name.ofText scope.dir)
  grows : d₀.Grows d
  healthy : d.Healthy
  closed {copy : Copy} : copy ∈ copies → Closed scope copies copy.channel copy.superstep d
  untouched {place : Location} :
    (∀ copy ∈ copies, d.find (scope.file copy.channel copy.superstep) ≠ .ok place) →
    d.fileAt place = d₀.fileAt place

namespace Filed

variable {scope : LogScope} {copies : List Copy} {d d₀ : Disk} {place : Location} {copy : Copy}
  {name : Name} {id : Nat} (h : Filed scope d₀ copies d)

include h

theorem dir_ne : scope.dir.isEmpty = false := by
  refine Bool.eq_false_iff.2 fun hempty => h.vacant.ne_nil ?_
  rw [String.isEmpty_iff.1 hempty]
  rfl

/-- The path of a segment leads through the directory. -/
theorem find_file {c : ChannelId} {s : Superstep} {loc : Location}
    (hfind : d.find (scope.file c s) = .ok loc) :
    ∃ place, d.find (Name.ofText scope.dir) = .ok place ∧ d.node? place = some .directory ∧
      loc = Disk.entry place (Name.ofText (SegmentName.fileName ⟨scope.dataset, c, s⟩)) :=
  SegmentName.find_path (n := ⟨scope.dataset, c, s⟩) h.dir_ne h.slash_not_mem hfind

/-- The file of each frame that was logged lies in the directory. -/
theorem exists_file (hcopy : copy ∈ copies) :
    ∃ place id, d.find (Name.ofText scope.dir) = .ok place ∧ d.node? place = some .directory ∧
      d.node? (Disk.entry place (Name.ofText (segmentFor scope.dataset copy).fileName)) =
        some (.file id) := by
  obtain ⟨id, ⟨loc, hfind, hnode⟩, _⟩ := h.closed hcopy
  obtain ⟨place, hplace, hdirectory, rfl⟩ := h.find_file hfind
  exact ⟨place, id, hplace, hdirectory, hnode⟩

/-- Every file in the directory is that of a frame that was logged. -/
theorem exists_copy (hfind : d.find (Name.ofText scope.dir) = .ok place)
    (hnode : d.node? (Disk.entry place name) = some (.file id)) :
    ∃ copy ∈ copies, name = Name.ofText (segmentFor scope.dataset copy).fileName := by
  by_contra hnone
  have hbefore := h.vacant.fileAt_eq_none h.grows hfind name
  rw [← h.untouched fun copy hcopy hfound => ?_, Disk.fileAt_of_node hnode] at hbefore
  · exact nomatch hbefore
  · obtain ⟨place', hplace', _, hloc⟩ := h.find_file hfound
    obtain rfl := Except.ok.inj (hfind.symm.trans hplace')
    have hname := (List.cons.inj (List.append_inj_right' hloc rfl)).1
    exact hnone ⟨copy, hcopy, hname⟩

theorem holds (hfind : d.find (Name.ofText scope.dir) = .ok place) :
    d.Holds place scope.dataset := by
  intro name id hnode
  obtain ⟨copy, _, rfl⟩ := h.exists_copy hfind hnode
  exact ⟨_, rfl, rfl⟩

/-- The directory is missing only if nothing was logged. -/
theorem find_or_notFound :
    (∃ place, d.find (Name.ofText scope.dir) = .ok place ∧ d.node? place = some .directory) ∨
      d.find (Name.ofText scope.dir) = .error .notFound ∧ copies = [] := by
  rcases copies with _ | ⟨copy, copies⟩
  · have hfiles (place : Location) : d.fileAt place = d₀.fileAt place :=
      h.untouched fun copy hcopy => nomatch hcopy
    exact (h.vacant.find_or_notFound h.grows h.healthy hfiles).imp id fun hmissing =>
      ⟨hmissing, rfl⟩
  · obtain ⟨place, _, hfind, hplace, _⟩ := h.exists_file List.mem_cons_self
    exact .inl ⟨place, hfind, hplace⟩

/-- **The listing of the directory** gives the segments of which a frame was logged, each once and
in their order. -/
theorem listed : ∃ segments, listSegments d scope.dir scope.dataset = .ok segments ∧
    segments.Pairwise (fun a b => a.name.Before b.name) ∧
    (∀ n, n ∈ segments.map SegmentInfo.name ↔ n ∈ copies.map (segmentFor scope.dataset)) ∧
    ∀ info ∈ segments, info.path = info.name.path scope.dir := by
  rcases h.find_or_notFound with ⟨place, hfind, hplace⟩ | ⟨hmissing, rfl⟩
  · obtain ⟨segments, hlist, hordered, hmem⟩ :=
      listSegments_eq_ok h.dataset_ne ((h.holds hfind).legible h.dataset_ne) hfind hplace
    refine ⟨segments, hlist, hordered, fun n => ?_, fun info hinfo => ?_⟩
    · constructor
      · intro hn
        obtain ⟨info, hinfo, rfl⟩ := List.mem_map.1 hn
        obtain ⟨id, hdataset, hnode, _⟩ := (hmem info).1 hinfo
        obtain ⟨copy, hcopy, hname⟩ := h.exists_copy hfind hnode
        rw [SegmentName.fileName_inj (hdataset.symm ▸ h.dataset_ne) h.dataset_ne
          (Name.ofText_inj hname)]
        exact List.mem_map_of_mem hcopy
      · intro hn
        obtain ⟨copy, hcopy, rfl⟩ := List.mem_map.1 hn
        obtain ⟨place', id, hfind', _, hnode⟩ := h.exists_file hcopy
        obtain rfl := Except.ok.inj (hfind.symm.trans hfind')
        let n := segmentFor scope.dataset copy
        let info : SegmentInfo := ⟨n.path scope.dir, n, (d.content id).size⟩
        exact List.mem_map.2 ⟨info, (hmem info).2 ⟨id, rfl, hnode, rfl⟩, rfl⟩
    · obtain ⟨id, _, _, hinfo⟩ := (hmem info).1 hinfo
      rw [hinfo]
  · refine ⟨[], ?_, .nil, fun n => Iff.rfl, List.forall_mem_nil _⟩
    rw [listSegments, Disk.entries_of_notFound hmissing]

end Filed

end RecoveryLog

/-! ## Inspecting what is listed -/

/-- **An inspection sees what was logged**: a summary of each segment of which a frame was logged,
in the order of the segments, with the number of these frames. -/
structure Inspect.Sees (dataset : Dataset) (copies : List Copy) (summaries : List SegmentSummary) :
    Prop where
  ordered : summaries.Pairwise fun a b => a.segment.name.Before b.segment.name
  segments (n : SegmentName) : n ∈ summaries.map (fun summary => summary.segment.name) ↔
    n ∈ copies.map (segmentFor dataset)
  records {summary : SegmentSummary} : summary ∈ summaries →
    summary.records = (copies.map (segmentFor dataset)).count summary.segment.name

namespace Inspect

variable {dataset : Dataset} {copies : List Copy} {summaries : List SegmentSummary} {d : Disk}

/-- All frames that were logged are counted. -/
theorem Sees.total (h : Sees dataset copies summaries) :
    (summaries.map SegmentSummary.records).sum = copies.length := by
  let logged := copies.map (segmentFor dataset)
  let names := summaries.map fun summary => summary.segment.name
  have hnodup : names.Nodup := by
    refine List.pairwise_map.2 (h.ordered.imp fun hbefore hsame => ?_)
    rw [hsame] at hbefore
    rcases hbefore with hless | ⟨_, hless⟩
    · exact Nat.lt_irrefl _ hless
    · exact Nat.lt_irrefl _ hless
  have hperm : names.Perm logged.dedup := by
    refine (List.perm_ext_iff_of_nodup hnodup (List.nodup_dedup logged)).2 fun n => ?_
    rw [List.mem_dedup]
    exact h.segments n
  calc (summaries.map SegmentSummary.records).sum
      = (names.map fun n => logged.count n).sum := by
        rw [List.map_map]
        exact congrArg List.sum (List.map_congr_left fun summary hmem => h.records hmem)
    _ = (logged.dedup.map fun n => logged.count n).sum := (hperm.map _).sum_eq
    _ = logged.length := List.sum_map_count_dedup_eq_length logged
    _ = copies.length := List.length_map _

/-- The records of a segment that holds whole frames are counted. -/
theorem summarize_eq_ok {info : SegmentInfo} {id : Nat} {frames : List (List UInt8)}
    (hleads : d.Leads (Name.ofText info.path) id) (hframes : ∀ frame ∈ frames, IsFrame frame)
    (hcontent : octets (d.content id) = frames.flatten) :
    summarize d info = .ok ⟨info, frames.length⟩ := by
  obtain ⟨payloads, hfit, hlength, hflatten⟩ := exists_payloads hframes
  obtain ⟨reader, hopen, hat⟩ := SegmentReader.openAt_of_leads hleads
  rw [hcontent, hflatten] at hat
  unfold summarize
  rw [hopen]
  dsimp only
  rw [SegmentReader.readAll_framesOf hfit hat, ← hlength]

theorem mapM_summarize {segments : List SegmentInfo} {records : SegmentInfo → Nat}
    (h : ∀ info ∈ segments, summarize d info = .ok ⟨info, records info⟩) :
    segments.mapM (summarize d) = .ok (segments.map fun info => ⟨info, records info⟩) := by
  induction segments with
  | nil => rfl
  | cons info segments ih =>
    obtain ⟨hfirst, hlater⟩ := List.forall_mem_cons.1 h
    rw [List.mapM_cons, hfirst, ih hlater]
    rfl

end Inspect

namespace RecoveryLog.Filed

variable {scope : LogScope} {copies : List Copy} {d d₀ : Disk}

/-- The segment of a superstep that its channel did not return to has all its records. -/
theorem summarize_eq (h : Filed scope d₀ copies d) (hframes : ∀ copy ∈ copies, IsFrame copy.bytes)
    (hvisits : ∀ c s, NotRevisited s (copiesOn c copies)) {info : SegmentInfo}
    (hinfo : info.name ∈ copies.map (segmentFor scope.dataset))
    (hpath : info.path = info.name.path scope.dir) :
    Inspect.summarize d info =
      .ok ⟨info, (copies.map (segmentFor scope.dataset)).count info.name⟩ := by
  obtain ⟨copy, hcopy, hname⟩ := List.mem_map.1 hinfo
  obtain ⟨id, hleads, hcontent⟩ := h.closed hcopy
  rw [segmentOf_of_notRevisited (hvisits _ _)] at hcontent
  have hpath : info.path = scope.path copy.channel copy.superstep := by
    rw [hpath, ← hname]
    rfl
  rw [LogScope.file, ← hpath] at hleads
  have hcount : (copies.map (segmentFor scope.dataset)).count info.name =
      ((copies.filter fun other => other.channel = copy.channel ∧
        other.superstep = copy.superstep).map Copy.bytes).length := by
    rw [List.length_map, ← List.countP_eq_length_filter, ← hname, List.count_eq_countP,
      List.countP_map]
    refine List.countP_congr fun other _ => ?_
    simp [segmentFor]
  rw [hcount]
  refine Inspect.summarize_eq_ok hleads (fun frame hframe => ?_) hcontent
  obtain ⟨other, hother, rfl⟩ := List.mem_map.1 hframe
  exact hframes other (List.mem_of_mem_filter hother)

/-- **An inspection of the directory sees all frames that were logged.** -/
theorem collect_sees (h : Filed scope d₀ copies d) (hframes : ∀ copy ∈ copies, IsFrame copy.bytes)
    (hvisits : ∀ c s, NotRevisited s (copiesOn c copies)) {c : Config}
    (hdir : c.recovery.path = scope.dir) (hdataset : ⟨c.recovery.dataset⟩ = scope.dataset) :
    ∃ summaries, Inspect.collect c {} d = .ok summaries ∧
      Inspect.Sees scope.dataset copies summaries := by
  obtain ⟨segments, hlist, hordered, hnames, hpaths⟩ := h.listed
  let logged := copies.map (segmentFor scope.dataset)
  refine ⟨segments.map fun info => ⟨info, logged.count info.name⟩, ?_, ?_, fun n => ?_,
    fun {summary} hsummary => ?_⟩
  · unfold Inspect.collect
    simp only [Option.getD_none, hdir, hdataset, hlist]
    refine Inspect.mapM_summarize fun info hinfo => ?_
    exact h.summarize_eq hframes hvisits ((hnames _).1 (List.mem_map_of_mem hinfo))
      (hpaths info hinfo)
  · exact List.pairwise_map.2 hordered
  · rw [List.map_map]
    exact hnames n
  · obtain ⟨info, _, rfl⟩ := List.mem_map.1 hsummary
    rfl

/-- **A log that is closed by its last use**, on a disk where nothing fails. -/
theorem of_finish (scope : LogScope) (hdataset : scope.dataset.id.isEmpty = false)
    (hslash : '/' ∉ scope.dataset.id.toList) (hd : d.Healthy)
    (hvacant : d.Vacant (Name.ofText scope.dir)) (calls : List LogCall) (now : Duration) :
    Filed scope d (copiedAll (make scope, d) calls)
      (callAll (make scope, d) (calls ++ [.finish now])).2 := by
  obtain ⟨hkeeps, hnone⟩ := keeps_of_finish scope hd (List.getLast?_concat (l := calls))
  rw [copiedAll_concat, copied, List.append_nil] at hkeeps
  exact ⟨hdataset, hslash, hvacant, callAll_grows (make scope, d) _, hkeeps.healthy,
    fun hcopy => (hkeeps.segments hnone).1 _ hcopy, hkeeps.untouched⟩

end RecoveryLog.Filed

end Fanout
