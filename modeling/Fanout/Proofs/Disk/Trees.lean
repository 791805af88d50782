import Fanout.Proofs.Disk.Files
import Fanout.Segment.Writer

/-!
# Trees of a disk

Whether a file can be opened depends on the tree of the disk alone, not on what the files hold
(`SameTree`): its directories must be there or free to be made, and it must not be a directory
itself. Opening one file does not get in the way of opening another, since it adds no directory but
those above the file (`Fills`), and making these once more does nothing (`makeDirs_again`).

* `openForWriting_isOk_iff` — which files can be opened on a healthy disk.
-/

namespace Fanout

namespace Disk

variable {d d' d'' m : Disk} {path : List UInt8} {loc : Location} {front : List Name} {name : Name}

namespace SameTree

theorem checkDirectory_eq (h : d.SameTree d') (loc : Location) :
    d'.checkDirectory loc = d.checkDirectory loc := by
  rw [checkDirectory, h.node?_eq, checkDirectory]

theorem put (h : d.SameTree d') (loc : Location) (node : Node) :
    (d.put loc node).SameTree (d'.put loc node) := by
  refine ⟨?_, h.workingDirectory_eq⟩
  show d'.nodes.insert loc node = d.nodes.insert loc node
  rw [h.nodes_eq]

/-- Making directories comes to the same on both. -/
theorem makeDirsFrom (h : d.SameTree d') (loc : Location) (names : List Name) :
    (d'.makeDirsFrom loc names).1 = (d.makeDirsFrom loc names).1 ∧
    (d.makeDirsFrom loc names).2.SameTree (d'.makeDirsFrom loc names).2 := by
  induction names generalizing d d' loc with
  | nil => exact ⟨rfl, h⟩
  | cons name rest ih =>
    simp only [Disk.makeDirsFrom, h.checkDirectory_eq]
    cases d.checkDirectory loc with
    | error e => exact ⟨rfl, h⟩
    | ok _ =>
      dsimp only
      cases stepOf name with
      | stay => exact ih h loc
      | up => exact ih h loc.dropLast
      | enter entered =>
        dsimp only
        by_cases hlong : maxNameLength < entered.length
        · rw [if_pos hlong, if_pos hlong]
          exact ⟨rfl, h⟩
        · rw [if_neg hlong, if_neg hlong, h.node?_eq]
          rcases d.node? (entry loc entered) with _ | _ | _ | _
          · exact ih (h.put _ _) _
          · exact ih h _
          · exact ⟨rfl, h⟩
          · exact ⟨rfl, h⟩

end SameTree

/-- Directories that were made are there when they are to be made again. -/
theorem makeDirsFrom_again {names : List Name} (hmade : (d.makeDirsFrom loc names).1 = .ok ())
    (hgrows : (d.makeDirsFrom loc names).2.Grows d') :
    d'.makeDirsFrom loc names = (.ok (), d') := by
  induction names generalizing d loc with
  | nil => rfl
  | cons name rest ih =>
    have hbefore : d.Grows d' := (makeDirsFrom_lays d loc (name :: rest)).grows.trans hgrows
    unfold makeDirsFrom at hmade hgrows ⊢
    cases hcheck : d.checkDirectory loc with
    | error e =>
      rw [hcheck] at hmade
      cases hmade
    | ok _ =>
      rw [hcheck] at hmade hgrows
      rw [hbefore.checkDirectory hcheck]
      dsimp only at hmade hgrows ⊢
      cases hstep : stepOf name with
      | stay =>
        rw [hstep] at hmade hgrows
        exact ih hmade hgrows
      | up =>
        rw [hstep] at hmade hgrows
        exact ih hmade hgrows
      | enter entered =>
        rw [hstep] at hmade hgrows
        dsimp only at hmade hgrows ⊢
        by_cases hlong : maxNameLength < entered.length
        · rw [if_pos hlong] at hmade
          cases hmade
        · rw [if_neg hlong] at hmade hgrows ⊢
          rcases hnode : d.node? (entry loc entered) with _ | _ | _ | _
          · -- the directory was made, and is there since
            rw [hnode] at hmade hgrows
            have hmake := (makeDirsFrom_lays (d.put (entry loc entered) .directory)
              (entry loc entered) rest).grows
            have hthere : (d.put (entry loc entered) .directory).node? (entry loc entered) =
                some .directory := by
              rw [node?_put, if_pos rfl, ite_self]
            rw [hgrows.node?_eq (hmake.node?_eq hthere)]
            exact ih hmade hgrows
          · rw [hnode] at hmade hgrows
            rw [hbefore.node?_eq hnode]
            exact ih hmade hgrows
          · rw [hnode] at hmade
            cases hmade
          · rw [hnode] at hmade
            cases hmade

/-- Making directories on a healthy disk. -/
theorem makeDirs_eq (hd : d.Healthy) (path : List UInt8) :
    d.makeDirs path = match d.start path with
      | .error e => (.error e, { d with faults := d.faults.next.2 })
      | .ok (loc, names) => makeDirsFrom { d with faults := d.faults.next.2 } loc names := by
  have hnone : d.faults.next.1 = none := hd.fault_eq _
  unfold makeDirs
  rcases hnext : d.faults.next with ⟨fault, plan⟩
  rw [hnext] at hnone
  obtain rfl : fault = none := hnone
  rfl

theorem SameTree.makeDirs (h : d.SameTree d') (hd : d.Healthy) (hd' : d'.Healthy)
    (path : List UInt8) : (d'.makeDirs path).1 = (d.makeDirs path).1 ∧
      (d.makeDirs path).2.SameTree (d'.makeDirs path).2 := by
  rw [makeDirs_eq hd, makeDirs_eq hd', h.grows.start_eq]
  have hcalled : SameTree { d with faults := d.faults.next.2 }
      { d' with faults := d'.faults.next.2 } := ⟨h.nodes_eq, h.workingDirectory_eq⟩
  rcases d.start path with e | ⟨loc, names⟩
  · exact ⟨rfl, hcalled⟩
  · exact hcalled.makeDirsFrom loc names

theorem makeDirs_again (hd : d.Healthy) (hd' : d'.Healthy) (hmade : (d.makeDirs path).1 = .ok ())
    (hgrows : (d.makeDirs path).2.Grows d') :
    (d'.makeDirs path).1 = .ok () ∧ d'.SameTree (d'.makeDirs path).2 := by
  have hbefore : d.Grows d' := (makeDirs_lays d path).grows.trans hgrows
  rw [makeDirs_eq hd] at hmade hgrows
  rw [makeDirs_eq hd', hbefore.start_eq]
  cases hstart : d.start path with
  | error e =>
    rw [hstart] at hmade
    exact nomatch hmade
  | ok from' =>
    rw [hstart] at hmade hgrows
    have hcalled : Grows d' { d' with faults := d'.faults.next.2 } := ⟨rfl, fun hnode => hnode⟩
    dsimp only
    rw [makeDirsFrom_again hmade (hgrows.trans hcalled)]
    exact ⟨rfl, rfl, rfl⟩

/-! ## Opening files -/

/-- The second disk has all that is on the first, and no directory besides. -/
structure Fills (d d' : Disk) : Prop where
  grows : d.Grows d'
  directory_of {loc : Location} : d'.node? loc = some .directory → d.node? loc = some .directory

theorem SameTree.fills (h : d.SameTree d') : d.Fills d' :=
  ⟨h.grows, fun hnode => (h.node?_eq _).symm.trans hnode⟩

theorem Fills.trans (h : d.Fills d') (h' : d'.Fills d'') : d.Fills d'' :=
  ⟨h.grows.trans h'.grows, fun hnode => h.directory_of (h'.directory_of hnode)⟩

theorem makeFile_fills (hfree : d.node? loc = none) : d.Fills (d.makeFile loc).1 := by
  have hgrows : d.Grows (d.makeFile loc).1 :=
    ⟨rfl, (grows_put hfree (.file d.contents.size)).node?_eq⟩
  refine ⟨hgrows, fun {place} hnode => ?_⟩
  change (d.put loc (.file d.contents.size)).node? place = _ at hnode
  rw [node?_put] at hnode
  split at hnode
  · rename_i hroot
    rw [hroot]
    rfl
  · split at hnode
    · exact nomatch hnode
    · exact hnode

/-- Opening a file makes no directory. -/
theorem openForWriting_fills (d : Disk) (path : List UInt8) (mode : WriteMode) :
    d.Fills (d.openForWriting path mode).2 := by
  have hcalled : d.Fills { d with faults := d.faults.next.2 } := SameTree.fills ⟨rfl, rfl⟩
  unfold openForWriting
  rcases hnext : d.faults.next with ⟨fault, plan⟩
  rw [hnext] at hcalled
  cases fault with
  | some e => exact hcalled
  | none =>
    dsimp only
    split
    · exact hcalled
    · split
      · exact hcalled
      · exact hcalled
      · cases mode with
        | append => exact hcalled
        | truncate => exact hcalled.trans (SameTree.fills ⟨rfl, rfl⟩)
      · rename_i hfree
        exact hcalled.trans (makeFile_fills hfree)

/-- **A file can be opened** if its directory is there and it is not a directory itself. -/
theorem openForWriting_isOk_iff (hd : d.Healthy) (hpath : EndsIn path front name)
    (mode : WriteMode) : (d.openForWriting path mode).1.isOk = true ↔
      ∃ loc, d.findSlot path = .ok loc ∧ d.node? loc ≠ some .directory := by
  have hnone : d.faults.next.1 = none := hd.fault_eq _
  have hcalled : d.SameTree { d with faults := d.faults.next.2 } := ⟨rfl, rfl⟩
  unfold openForWriting
  rcases hnext : d.faults.next with ⟨fault, plan⟩
  rw [hnext] at hnone hcalled
  obtain rfl : fault = none := hnone
  dsimp only at hcalled ⊢
  cases hslot : findSlot { d with faults := plan } path with
  | error e =>
    constructor
    · intro hok
      exact nomatch hok
    · rintro ⟨loc, hfound, _⟩
      rw [hcalled.grows.findSlot hpath hfound] at hslot
      exact nomatch hslot
  | ok loc =>
    have hfound : d.findSlot path = .ok loc := hcalled.symm.grows.findSlot hpath hslot
    rw [hfound]
    have hsame : node? { d with faults := plan } loc = d.node? loc := rfl
    have hdevice := hd.node_ne loc
    simp only [hsame, Except.ok.injEq, exists_eq_left']
    rcases hnode : d.node? loc with _ | _ | _ | _
    · simp [Except.isOk, Except.toBool]
    · simp [Except.isOk, Except.toBool]
    · cases mode <;> simp [Except.isOk, Except.toBool]
    · exact absurd hnode hdevice

/-! ## Writing files -/

theorem write_sameTree (d : Disk) (h : Handle) (data : ByteArray) :
    d.SameTree (d.write h data).2 := by
  unfold write
  rcases d.faults.next with ⟨_ | e, plan⟩
  · dsimp only
    cases h.target with
    | device => exact ⟨rfl, rfl⟩
    | file id => cases h.mode <;> exact ⟨rfl, rfl⟩
  · exact ⟨rfl, rfl⟩

end Disk

namespace BufferedFile

variable (f : BufferedFile) (d : Disk) (data : ByteArray)

theorem flush_sameTree : d.SameTree (f.flush d).2.2 := by
  unfold flush
  split
  · exact .refl d
  · have hwrite := d.write_sameTree f.handle f.pending
    rcases hout : d.write f.handle f.pending with ⟨_ | _, d'⟩ <;> rw [hout] at hwrite <;> exact hwrite

theorem accept_sameTree : d.SameTree (f.accept data d).2.2 := by
  unfold accept
  split
  · have hwrite := d.write_sameTree f.handle data
    rcases hout : d.write f.handle data with ⟨_ | _, d'⟩ <;> rw [hout] at hwrite <;> exact hwrite
  · exact .refl d

theorem write_sameTree : d.SameTree (f.write data d).2.2 := by
  unfold write
  split
  · exact .refl d
  · split
    · exact f.accept_sameTree d data
    · have hflush := f.flush_sameTree d
      rcases hout : f.flush d with ⟨_ | _, f', d'⟩
      · rw [hout] at hflush
        exact hflush
      · rw [hout] at hflush
        exact hflush.trans (f'.accept_sameTree d' data)

end BufferedFile

namespace SegmentWriter

variable (w : SegmentWriter) (d : Disk)

theorem write_sameTree (frame : ByteArray) : d.SameTree (w.write frame d).2.2 := by
  have hwrite := w.file.write_sameTree d frame
  unfold write
  rcases hout : w.file.write frame d with ⟨_ | _, f, d'⟩ <;> rw [hout] at hwrite <;> exact hwrite

theorem drop_sameTree : d.SameTree (w.drop d) := w.file.flush_sameTree d

theorem finish_sameTree : d.SameTree (w.finish d).2 := by
  have hflush := w.file.flush_sameTree d
  unfold finish flush
  rcases hout : w.file.flush d with ⟨_ | _, f, d'⟩
  · rw [hout] at hflush
    exact hflush.trans (drop_sameTree { w with file := f } d')
  · rw [hout] at hflush
    exact hflush.trans (drop_sameTree { w with file := f } d')

end SegmentWriter

end Fanout
