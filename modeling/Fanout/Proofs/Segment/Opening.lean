import Fanout.Proofs.Disk.Trees
import Fanout.Proofs.Segment.Paths
import Fanout.Proofs.Segment.Writing
import Fanout.Recovery.Log

/-!
# Segments that can be opened

Whether the segments of a producer can be opened is settled before the first of them is: they lie in
one directory, and opening one, writing to it and finishing it do not get in the way of the others.

* `Opens.sameTree`, `Opens.opened` — a segment that could be opened still can.
-/

namespace Fanout

open Disk (EndsIn)

namespace SegmentWriter

variable {d d' : Disk} {path other : String} {front : List Name} {name : Name}

theorem makeParent_sameTree (hd : d.Healthy) (hd' : d'.Healthy) (h : d.SameTree d')
    (hmade : (makeParent path d).1 = .ok ()) :
    (makeParent path d').1 = .ok () ∧
      (makeParent path d).2.SameTree (makeParent path d').2 := by
  unfold makeParent at hmade ⊢
  split at hmade
  · exact ⟨rfl, h⟩
  · rename_i dir _
    split at hmade
    · rename_i hempty
      rw [if_pos hempty, if_pos hempty]
      exact ⟨rfl, h⟩
    · rename_i hempty
      rw [if_neg hempty, if_neg hempty]
      obtain ⟨hsame, htree⟩ := h.makeDirs hd hd' (Name.ofText dir)
      rcases hmake : d.makeDirs (Name.ofText dir) with ⟨_ | _, m⟩
      · rw [hmake] at hmade
        exact nomatch hmade
      · rw [hmake] at hsame htree
        rcases hmake' : d'.makeDirs (Name.ofText dir) with ⟨_ | _, m'⟩
        · rw [hmake'] at hsame
          exact nomatch hsame
        · rw [hmake'] at htree
          exact ⟨rfl, htree⟩

/-- The directory above a path that was made is there for all paths in it. -/
theorem makeParent_again (hd : d.Healthy) (hd' : d'.Healthy)
    (hparent : Path.parent? other = Path.parent? path)
    (hmade : (makeParent path d).1 = .ok ()) (hgrows : (makeParent path d).2.Grows d') :
    (makeParent other d').1 = .ok () ∧ d'.SameTree (makeParent other d').2 := by
  unfold makeParent at hmade hgrows ⊢
  rw [hparent]
  cases hdir : Path.parent? path with
  | none => exact ⟨rfl, .refl d'⟩
  | some dir =>
    rw [hdir] at hmade hgrows
    dsimp only at hmade hgrows ⊢
    by_cases hempty : dir.isEmpty = true
    · rw [if_pos hempty]
      exact ⟨rfl, .refl d'⟩
    · rw [if_neg hempty] at hmade hgrows ⊢
      rcases hmake : d.makeDirs (Name.ofText dir) with ⟨_ | _, m⟩
      · rw [hmake] at hmade
        exact nomatch hmade
      · rw [hmake] at hgrows
        have hfirst : (d.makeDirs (Name.ofText dir)).1 = .ok () := congrArg Prod.fst hmake
        have hagain := Disk.makeDirs_again hd hd' hfirst (by rwa [hmake])
        rcases hmake' : d'.makeDirs (Name.ofText dir) with ⟨_ | _, m'⟩
        · rw [hmake'] at hagain
          exact nomatch hagain.1
        · rw [hmake'] at hagain
          exact ⟨rfl, hagain.2⟩

theorem isOk_openAt (path : String) (step : Superstep) (mode : WriteMode) (d : Disk) :
    (openAt path step mode d).1.isOk = true ↔ (makeParent path d).1 = .ok () ∧
      ((makeParent path d).2.openForWriting (Name.ofText path) mode).1.isOk = true := by
  unfold openAt
  rcases makeParent path d with ⟨_ | _, m⟩
  · simp [Except.isOk, Except.toBool]
  · dsimp only
    rcases m.openForWriting (Name.ofText path) mode with ⟨_ | _, d'⟩ <;>
      simp [Except.isOk, Except.toBool]

/-- **A segment can be opened** if the directories above it are there or can be made and there is no
directory in its place. -/
theorem openAt_isOk_iff (hd : d.Healthy) (hpath : EndsIn (Name.ofText path) front name)
    (step : Superstep) (mode : WriteMode) :
    (openAt path step mode d).1.isOk = true ↔ (makeParent path d).1 = .ok () ∧
      ∃ loc, (makeParent path d).2.findSlot (Name.ofText path) = .ok loc ∧
        (makeParent path d).2.node? loc ≠ some .directory := by
  rw [isOk_openAt,
    Disk.openForWriting_isOk_iff ((makeParent_lays path d).healthy hd) hpath mode]

theorem openAt_fills {w : SegmentWriter} {step : Superstep} {mode : WriteMode}
    (hopen : openAt path step mode d = (.ok w, d')) : (makeParent path d).2.Fills d' := by
  unfold openAt at hopen
  rcases hmake : makeParent path d with ⟨_ | _, m⟩
  · rw [hmake] at hopen
    exact nomatch (Prod.mk.inj hopen).1
  · rw [hmake] at hopen
    have hfills := m.openForWriting_fills (Name.ofText path) mode
    dsimp only at hopen ⊢
    rcases hfile : m.openForWriting (Name.ofText path) mode with ⟨_ | _, last⟩
    · rw [hfile] at hopen
      exact nomatch (Prod.mk.inj hopen).1
    · rw [hfile] at hopen hfills
      exact (Prod.mk.inj hopen).2 ▸ hfills

end SegmentWriter

/-- The path of the segment of a channel and a superstep. -/
def LogScope.path (scope : LogScope) (c : ChannelId) (s : Superstep) : String :=
  SegmentName.path ⟨scope.dataset, c, s⟩ scope.dir

/-- The segment of a channel and a superstep can be opened on the disk as it is. -/
def LogScope.Opens (scope : LogScope) (d : Disk) (c : ChannelId) (s : Superstep) : Prop :=
  (SegmentWriter.openAt (scope.path c s) s .truncate d).1.isOk = true

namespace LogScope

theorem endsIn_path (scope : LogScope) : ∃ front last, ∀ c s,
    EndsIn (Name.ofText (scope.path c s)) front
      (last ++ Name.ofText (String.ofList (SegmentName.tail c s))) :=
  SegmentName.endsIn_path scope.dir scope.dataset

variable {scope : LogScope} {d d' : Disk} {c c' : ChannelId} {s s' : Superstep}

/-- It does not matter how the segment is opened. -/
theorem Opens.openAt (hd : d.Healthy) (h : scope.Opens d c s) (mode : WriteMode) :
    ∃ w d', SegmentWriter.openAt (scope.path c s) s mode d = (.ok w, d') := by
  obtain ⟨front, last, hends⟩ := scope.endsIn_path
  have hok : (SegmentWriter.openAt (scope.path c s) s mode d).1.isOk = true :=
    (SegmentWriter.openAt_isOk_iff hd (hends c s) s mode).2
      ((SegmentWriter.openAt_isOk_iff hd (hends c s) s .truncate).1 h)
  rcases hopen : SegmentWriter.openAt (scope.path c s) s mode d with ⟨_ | w, d'⟩
  · rw [hopen] at hok
    exact nomatch hok
  · exact ⟨w, d', rfl⟩

/-- What is written to files does not get in the way. -/
theorem Opens.sameTree (hd : d.Healthy) (hd' : d'.Healthy) (h : scope.Opens d c s)
    (htree : d.SameTree d') : scope.Opens d' c s := by
  obtain ⟨front, last, hends⟩ := scope.endsIn_path
  obtain ⟨hmade, loc, hslot, hnode⟩ :=
    (SegmentWriter.openAt_isOk_iff hd (hends c s) s .truncate).1 h
  obtain ⟨hmade', htree'⟩ := SegmentWriter.makeParent_sameTree hd hd' htree hmade
  refine (SegmentWriter.openAt_isOk_iff hd' (hends c s) s .truncate).2 ⟨hmade', loc, ?_, ?_⟩
  · exact htree'.grows.findSlot (hends c s) hslot
  · exact (htree'.node?_eq loc).symm ▸ hnode

/-- **Opening another segment** does not get in the way either: the directories that it needs are
those that it makes, and it makes no directory in the place of a segment. -/
theorem Opens.opened (hd : d.Healthy) (hd' : d'.Healthy) (h : scope.Opens d c s)
    {w : SegmentWriter} {mode : WriteMode}
    (hopen : SegmentWriter.openAt (scope.path c' s') s' mode d = (.ok w, d')) :
    scope.Opens d' c s := by
  obtain ⟨front, last, hends⟩ := scope.endsIn_path
  obtain ⟨parent, hparent⟩ := SegmentName.parent?_path scope.dir scope.dataset
  have hsame : Path.parent? (scope.path c s) = Path.parent? (scope.path c' s') :=
    (hparent c s).trans (hparent c' s').symm
  have hbefore : SegmentWriter.makeParent (scope.path c s) d =
      SegmentWriter.makeParent (scope.path c' s') d := by
    unfold SegmentWriter.makeParent
    rw [hsame]
  obtain ⟨hmade, loc, hslot, hnode⟩ :=
    (SegmentWriter.openAt_isOk_iff hd (hends c s) s .truncate).1 h
  have hfills := SegmentWriter.openAt_fills hopen
  rw [hbefore] at hmade hslot hnode
  obtain ⟨hagain, htree⟩ := SegmentWriter.makeParent_again hd hd' hsame hmade hfills.grows
  refine (SegmentWriter.openAt_isOk_iff hd' (hends c s) s .truncate).2 ⟨hagain, loc, ?_, ?_⟩
  · exact (hfills.grows.trans htree.grows).findSlot (hends c s) hslot
  · intro hdirectory
    rw [htree.node?_eq] at hdirectory
    exact hnode (hfills.directory_of hdirectory)

end LogScope

end Fanout
