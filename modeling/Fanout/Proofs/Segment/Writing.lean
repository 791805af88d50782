import Fanout.Proofs.Disk.Files
import Fanout.Segment.Writer

/-!
# Writing segments on a healthy disk

A buffered file lags behind what was written to it by the bytes that it has collected. On a healthy
disk, as long as it goes on at the end of its file (`Lodged`), contents and collected bytes together
are all that was written (`written`), and closing it leaves nothing collected.

* `SegmentWriter.openAt_works`, `write_works`, `finish_works` — a segment from its opening to its
  end.
-/

namespace Fanout

open Disk (EndsIn)

theorem octets_of_isEmpty {b : ByteArray} (h : b.isEmpty = true) : octets b = [] := by
  have hsize : b.size = 0 := by simpa [ByteArray.isEmpty] using h
  exact List.eq_nil_of_length_eq_zero hsize

namespace BufferedFile

variable {f : BufferedFile} {d : Disk} {path : List UInt8} {id : Nat}

/-- The file goes on at the end of the file that the path leads to. -/
structure Lodged (f : BufferedFile) (d : Disk) (path : List UInt8) (id : Nat) : Prop where
  leads : d.Leads path id
  atEnd : d.AtEnd f.handle id

/-- What the file holds once the collected bytes are written out. -/
def written (f : BufferedFile) (d : Disk) (id : Nat) : List UInt8 :=
  octets (d.content id) ++ octets f.pending

/-- The file took some bytes, and nothing else has changed. -/
structure Takes (path : List UInt8) (id : Nat) (data : List UInt8) (f : BufferedFile) (d : Disk)
    (f' : BufferedFile) (d' : Disk) : Prop where
  healthy : d'.Healthy
  alters : d.Alters path d'
  lodged : f'.Lodged d' path id
  written_eq : f'.written d' id = f.written d id ++ data

theorem Takes.trans {f' f'' : BufferedFile} {d' d'' : Disk} {data more : List UInt8}
    (h : Takes path id data f d f' d') (h' : Takes path id more f' d' f'' d'') :
    Takes path id (data ++ more) f d f'' d'' :=
  ⟨h'.healthy, h.alters.trans h'.alters, h'.lodged, by
    rw [h'.written_eq, h.written_eq, List.append_assoc]⟩

/-- Bytes that are collected. -/
theorem collect_takes (hd : d.Healthy) (h : f.Lodged d path id) (data : ByteArray) :
    Takes path id (octets data) f d { f with pending := f.pending ++ data } d := by
  refine ⟨hd, ⟨.refl d, fun _ => rfl⟩, ⟨h.leads, h.atEnd⟩, ?_⟩
  rw [written, octets_append, written, List.append_assoc]

theorem Lodged.id_lt (h : f.Lodged d path id) (hd : d.Healthy) : id < d.contents.size := by
  obtain ⟨_, _, hnode⟩ := h.leads
  exact hd.id_lt hnode

theorem flush_works (hd : d.Healthy) (h : f.Lodged d path id) :
    ∃ f' d', f.flush d = (.ok (), f', d') ∧ Takes path id [] f d f' d' ∧ f'.pending.isEmpty := by
  unfold flush
  by_cases hempty : f.pending.isEmpty = true
  · rw [if_pos hempty]
    exact ⟨f, d, rfl, ⟨hd, ⟨.refl d, fun _ => rfl⟩, h, (List.append_nil _).symm⟩, hempty⟩
  · rw [if_neg hempty]
    obtain ⟨h', d', hwrite, hend, hwrites, hcontent⟩ :=
      Disk.write_appends hd (h.id_lt hd) h.atEnd f.pending
    rw [hwrite]
    refine ⟨ofHandle h', d', rfl, ⟨hwrites.healthy hd, hwrites.alters hd h.leads,
      ⟨h.leads.grows hwrites.grows, hend⟩, ?_⟩, rfl⟩
    rw [written, hcontent, octets_append, written]
    rfl

/-- Bytes for which there is room are fewer than the buffer has, if something is collected. -/
theorem lt_or_isEmpty_of_fits {data : ByteArray} (hfits : data.size ≤ f.room) :
    data.size < writeBufferSize ∨ f.pending.isEmpty = true := by
  unfold room at hfits
  by_cases hempty : f.pending.isEmpty = true
  · exact .inr hempty
  · have hpos : f.pending.size ≠ 0 := by simpa [ByteArray.isEmpty] using hempty
    left
    unfold writeBufferSize at hfits ⊢
    omega

/-- Bytes for which there is room after what was collected is written out, or that are too many to
be collected. -/
theorem accept_works (hd : d.Healthy) (h : f.Lodged d path id) (data : ByteArray)
    (hroom : data.size < writeBufferSize ∨ f.pending.isEmpty) :
    ∃ f' d', f.accept data d = (.ok (), f', d') ∧ Takes path id (octets data) f d f' d' := by
  unfold accept
  by_cases hlong : writeBufferSize ≤ data.size
  · rw [if_pos hlong]
    obtain ⟨h', d', hwrite, hend, hwrites, hcontent⟩ :=
      Disk.write_appends hd (h.id_lt hd) h.atEnd data
    rw [hwrite]
    refine ⟨{ f with handle := h' }, d', rfl, hwrites.healthy hd, hwrites.alters hd h.leads,
      ⟨h.leads.grows hwrites.grows, hend⟩, ?_⟩
    -- nothing is collected, so the order of the bytes is kept
    have hnone := octets_of_isEmpty (hroom.resolve_left (Nat.not_lt.2 hlong))
    rw [written, hcontent, octets_append, written, hnone, List.append_nil, List.append_nil]
  · rw [if_neg hlong]
    exact ⟨_, d, rfl, collect_takes hd h data⟩

theorem write_works (hd : d.Healthy) (h : f.Lodged d path id) (data : ByteArray) :
    ∃ f' d', f.write data d = (.ok (), f', d') ∧ Takes path id (octets data) f d f' d' := by
  unfold write
  by_cases hroom : data.size < f.room
  · rw [if_pos hroom]
    exact ⟨_, d, rfl, collect_takes hd h data⟩
  · rw [if_neg hroom]
    by_cases hfits : data.size ≤ f.room
    · rw [if_pos hfits]
      exact accept_works hd h data (lt_or_isEmpty_of_fits hfits)
    · rw [if_neg hfits]
      obtain ⟨f', d', hflush, htakes, hempty⟩ := flush_works hd h
      rw [hflush]
      obtain ⟨f'', d'', haccept, htakes'⟩ :=
        accept_works htakes.healthy htakes.lodged data (.inr hempty)
      exact ⟨f'', d'', haccept, htakes.trans htakes'⟩

/-- What others write through paths with another last component does not touch the file. -/
theorem Lodged.frame {d' : Disk} {other : List UInt8} {front front' : List Name}
    {name name' : Name} (h : f.Lodged d path id) (halters : d.Alters other d')
    (hpath : EndsIn path front name) (hother : EndsIn other front' name') (hne : name' ≠ name) :
    f.Lodged d' path id ∧ f.written d' id = f.written d id := by
  have hcontent := halters.content_eq hother hpath hne h.leads
  refine ⟨⟨h.leads.grows halters.grows, h.atEnd.target_eq, fun hmode => ?_⟩, ?_⟩
  · rw [hcontent]
    exact h.atEnd.position_eq hmode
  · rw [written, hcontent, written]

end BufferedFile

namespace SegmentWriter

open BufferedFile (Takes)

variable {w : SegmentWriter} {d d' : Disk} {path : String} {id : Nat} {front : List Name}
  {name : Name}

/-- The segment goes on at the end of its file. -/
def Lodged (w : SegmentWriter) (d : Disk) (id : Nat) : Prop :=
  w.file.Lodged d (Name.ofText w.path) id

/-- What the segment holds once it is finished. -/
def written (w : SegmentWriter) (d : Disk) (id : Nat) : List UInt8 := w.file.written d id

theorem makeParent_lays (path : String) (d : Disk) : d.Lays (makeParent path d).2 := by
  unfold makeParent
  split
  · exact .refl d
  · split
    · exact .refl d
    · rename_i dir _ _
      have hlays := d.makeDirs_lays (Name.ofText dir)
      split <;> rename_i hmake <;> rw [hmake] at hlays <;> exact hlays

/-- A segment was opened: at the end of what is on the disk, or on an empty file. -/
structure Started (d : Disk) (path : String) (step : Superstep) (mode : WriteMode)
    (w : SegmentWriter) (d' : Disk) (id : Nat) : Prop where
  healthy : d'.Healthy
  alters : d.Alters (Name.ofText path) d'
  path_eq : w.path = path
  superstep_eq : w.superstep = step
  lodged : w.Lodged d' id
  truncated : mode = .truncate → w.written d' id = []
  appended {before : Nat} : mode = .append → d.Leads (Name.ofText path) before →
    id = before ∧ w.written d' id = octets (d.content before)

/-- **Opening a segment.** -/
theorem openAt_works (hd : d.Healthy) (hpath : EndsIn (Name.ofText path) front name)
    {step : Superstep} {mode : WriteMode} (hopen : openAt path step mode d = (.ok w, d')) :
    ∃ id, Started d path step mode w d' id := by
  have hlays := makeParent_lays path d
  unfold openAt at hopen
  rcases hmake : makeParent path d with ⟨_ | _, made⟩
  · rw [hmake] at hopen
    exact nomatch (Prod.mk.inj hopen).1
  · rw [hmake] at hopen hlays
    dsimp only at hopen
    rcases hfile : made.openForWriting (Name.ofText path) mode with ⟨_ | h, last⟩
    · rw [hfile] at hopen
      exact nomatch (Prod.mk.inj hopen).1
    · rw [hfile] at hopen
      obtain ⟨hw, rfl⟩ := Prod.mk.inj hopen
      have hopened := Disk.openForWriting_opened (hlays.healthy hd) hpath hfile
      obtain ⟨id, rfl, hleads, hcontent⟩ := hopened.leads
      have hw := (Except.ok.inj hw).symm
      subst hw
      have hwritten : octets (last.content id) ++ octets ByteArray.empty =
          octets (last.content id) := List.append_nil _
      refine ⟨id, hopened.healthy, (hlays.alters _).trans hopened.alters, rfl, rfl,
        ⟨hleads, rfl, fun hmode => ?_⟩, fun hmode => ?_, fun {before} hmode hbefore => ?_⟩
      · obtain rfl : mode = .truncate := hmode
        rw [hcontent]
        rfl
      · obtain rfl : mode = .truncate := hmode
        exact hwritten.trans (congrArg octets hcontent)
      · obtain rfl : mode = .append := hmode
        have hmade : made.Leads (Name.ofText path) before := hbefore.grows hlays.grows
        -- the path led to a file already, and that is the file it leads to now
        obtain ⟨loc, hfind, hnode⟩ := hmade.grows hopened.alters.grows
        obtain ⟨loc', hfind', hnode'⟩ := hleads
        rw [hfind'] at hfind
        obtain rfl := Except.ok.inj hfind
        rw [hnode'] at hnode
        refine ⟨Node.file.inj (Option.some.inj hnode), hwritten.trans ?_⟩
        rw [hcontent, hmade.file?_eq, hlays.content_eq]
        rfl

/-- A segment that cannot be opened changes no file. -/
theorem openAt_lays (hd : d.Healthy) {step : Superstep} {mode : WriteMode} {e : RecoveryError}
    (hopen : openAt path step mode d = (.error e, d')) : d.Lays d' := by
  have hlays := makeParent_lays path d
  unfold openAt at hopen
  rcases hmake : makeParent path d with ⟨_ | _, made⟩
  · rw [hmake] at hopen hlays
    exact (Prod.mk.inj hopen).2 ▸ hlays
  · rw [hmake] at hopen hlays
    dsimp only at hopen
    rcases hfile : made.openForWriting (Name.ofText path) mode with ⟨_ | h, last⟩
    · rw [hfile] at hopen
      have hfailed := Disk.openForWriting_lays (hlays.healthy hd) hfile
      exact (Prod.mk.inj hopen).2 ▸ hlays.trans hfailed
    · rw [hfile] at hopen
      exact nomatch (Prod.mk.inj hopen).1

/-- **Writing a frame** to a segment. -/
theorem write_works (hd : d.Healthy) (h : w.Lodged d id) (frame : ByteArray) :
    ∃ w' d', w.write frame d = (.ok (), w', d') ∧ w'.path = w.path ∧
      w'.superstep = w.superstep ∧
      Takes (Name.ofText w.path) id (octets frame) w.file d w'.file d' := by
  obtain ⟨f', d', hwrite, htakes⟩ := BufferedFile.write_works hd h frame
  unfold write
  rw [hwrite]
  exact ⟨_, d', rfl, rfl, rfl, htakes⟩

/-- **Finishing a segment** brings its file up to date. -/
theorem finish_works (hd : d.Healthy) (h : w.Lodged d id) :
    ∃ n d', w.finish d = (.ok n, d') ∧ d'.Healthy ∧ d.Alters (Name.ofText w.path) d' ∧
      d'.Leads (Name.ofText w.path) id ∧ octets (d'.content id) = w.written d id := by
  obtain ⟨f', d', hflush, htakes, hempty⟩ := BufferedFile.flush_works hd h
  have hagain : f'.flush d' = (.ok (), f', d') := if_pos hempty
  have hfinish : w.finish d = (.ok w.records, d') := by
    simp only [finish, flush, hflush, drop, BufferedFile.drop, hagain]
  refine ⟨_, d', hfinish, htakes.healthy, htakes.alters, htakes.lodged.leads, ?_⟩
  have hwritten := htakes.written_eq
  rw [List.append_nil, BufferedFile.written, octets_of_isEmpty hempty, List.append_nil] at hwritten
  exact hwritten

end SegmentWriter

end Fanout
