import Fanout.Proofs.Disk.Trees

/-!
# Directories of a disk

Where a path leads depends on its components alone, so it leads to the same directory on every disk
on which it leads anywhere (`walk_unique`). The entries of that directory are the nodes right below
it, each once (`mem_entriesIn`, `nodup_entriesIn`).

A directory is vacant (`Vacant`) if it can be made, in case it is missing, and is empty then. As
long as no file is put in its way it stays where it is or stays missing (`Vacant.find_or_notFound`).
-/

namespace Fanout

namespace Disk

variable {d d' m : Disk} {path : List UInt8} {loc place place' : Location} {names : List Name}

/-! ## Ways -/

/-- A way that can be gone on two disks leads to the same place. -/
theorem walk_unique (h : d.walk loc names = .ok place) (h' : d'.walk loc names = .ok place') :
    place = place' := by
  induction names generalizing loc with
  | nil => exact (walk_nil_eq_ok_iff.1 h).1.symm.trans (walk_nil_eq_ok_iff.1 h').1
  | cons name rest ih =>
    obtain ⟨_, next, hnext, hrest⟩ := walk_cons_eq_ok_iff.1 h
    obtain ⟨_, next', hnext', hrest'⟩ := walk_cons_eq_ok_iff.1 h'
    obtain rfl := Option.some.inj (hnext.symm.trans hnext')
    exact ih hrest hrest'

/-- A way through directories, each of which is there or missing on another disk, can be gone there
or ends where something is missing. -/
theorem walk_or_notFound (hwalk : m.walk loc names = .ok place)
    (hplace : m.node? place = some .directory)
    (hdirectory : ∀ loc, m.node? loc = some .directory →
      d.node? loc = some .directory ∨ d.node? loc = none) :
    d.walk loc names = .ok place ∧ d.node? place = some .directory ∨
      d.walk loc names = .error .notFound := by
  induction names generalizing loc with
  | nil =>
    obtain ⟨rfl, _⟩ := walk_nil_eq_ok_iff.1 hwalk
    rcases hdirectory loc hplace with hthere | hmissing
    · exact .inl ⟨walk_nil_eq_ok_iff.2 ⟨rfl, _, hthere⟩, hthere⟩
    · rw [walk, hmissing]
      exact .inr rfl
  | cons name rest ih =>
    obtain ⟨hloc, next, hnext, hrest⟩ := walk_cons_eq_ok_iff.1 hwalk
    rcases hdirectory loc hloc with hthere | hmissing
    · rw [walk_cons, checkDirectory_eq_ok_iff.2 hthere, hnext]
      exact ih hrest
    · rw [walk, checkDirectory, hmissing]
      exact .inr rfl

/-- An empty component at the end of a path asks for a directory. -/
theorem walk_concat_nil (hwalk : d.walk loc names = .ok place)
    (hplace : d.node? place = some .directory) : d.walk loc (names ++ [[]]) = .ok place := by
  rw [walk_concat, hwalk]
  simp [walk, checkDirectory, hplace, stepOf]

/-! ## Entries -/

/-- The entries of the directory at a location, in the order of their names. -/
def entriesIn (d : Disk) (dir : Location) : List (Name × Node) :=
  d.nodes.toList.filterMap fun (loc, node) => (nameIn? dir loc).map fun name => (name, node)

theorem nameIn?_eq_some_iff {dir : Location} {name : Name} :
    nameIn? dir loc = some name ↔ loc = entry dir name := by
  induction dir generalizing loc with
  | nil =>
    rcases loc with _ | ⟨first, _ | ⟨second, rest⟩⟩ <;> simp [nameIn?, entry]
  | cons a dir ih =>
    cases loc with
    | nil => simp [nameIn?, entry]
    | cons b loc =>
      by_cases hsame : a = b
      · subst hsame
        simp [nameIn?, ih, entry]
      · simp [nameIn?, hsame, entry, eq_comm]

theorem mem_entriesIn {dir : Location} {name : Name} {node : Node} :
    (name, node) ∈ d.entriesIn dir ↔ d.node? (entry dir name) = some node := by
  have hnode : d.node? (entry dir name) = d.nodes[entry dir name]? := by
    simp [node?, entry]
  rw [hnode, ← Std.TreeMap.mem_toList_iff_getElem?_eq_some, entriesIn, List.mem_filterMap]
  constructor
  · rintro ⟨⟨loc, other⟩, hmem, hname⟩
    obtain ⟨found, hfound, heq⟩ := Option.map_eq_some_iff.1 hname
    obtain ⟨rfl, rfl⟩ := Prod.mk.inj heq
    rwa [← nameIn?_eq_some_iff.1 hfound]
  · intro hmem
    exact ⟨_, hmem, by simp [nameIn?_eq_some_iff.2 rfl]⟩

/-- No name is listed twice. -/
theorem nodup_entriesIn (d : Disk) (dir : Location) :
    (d.entriesIn dir).Pairwise fun a b => a.1 ≠ b.1 := by
  rw [entriesIn, List.pairwise_filterMap]
  refine (Std.TreeMap.distinct_keys_toList (t := d.nodes)).imp ?_
  rintro ⟨loc, node⟩ ⟨loc', node'⟩ hne ⟨name, _⟩ hname ⟨name', _⟩ hname' rfl
  obtain ⟨found, hfound, heq⟩ := Option.map_eq_some_iff.1 hname
  obtain ⟨found', hfound', heq'⟩ := Option.map_eq_some_iff.1 hname'
  obtain ⟨rfl, _⟩ := Prod.mk.inj heq
  obtain ⟨rfl, _⟩ := Prod.mk.inj heq'
  refine hne (Std.compare_eq_iff_eq.2 ?_)
  exact (nameIn?_eq_some_iff.1 hfound).trans (nameIn?_eq_some_iff.1 hfound').symm

theorem entries_of_find {dir : Location} (hfind : d.find path = .ok dir)
    (hdir : d.node? dir = some .directory) : d.entries path = .ok (d.entriesIn dir) := by
  unfold entries
  rw [hfind]
  dsimp only
  rw [checkDirectory_eq_ok_iff.2 hdir]
  rfl

theorem entries_of_notFound (hfind : d.find path = .error .notFound) :
    d.entries path = .error .notFound := by
  rw [entries, hfind]

theorem find_of_entries {es : List (Name × Node)} (h : d.entries path = .ok es) :
    ∃ dir, d.find path = .ok dir ∧ d.node? dir = some .directory ∧ es = d.entriesIn dir := by
  unfold entries at h
  cases hfind : d.find path with
  | error e =>
    rw [hfind] at h
    exact nomatch h
  | ok dir =>
    rw [hfind] at h
    dsimp only at h
    cases hcheck : d.checkDirectory dir with
    | error e =>
      rw [hcheck] at h
      exact nomatch h
    | ok _ =>
      rw [hcheck] at h
      exact ⟨dir, rfl, checkDirectory_eq_ok_iff.1 hcheck, (Except.ok.inj h).symm⟩

/-! ## Vacant directories -/

/-- The directory can be made, if it is missing, and then there is nothing in it. -/
structure Vacant (d : Disk) (path : List UInt8) : Prop where
  made : (d.makeDirs path).1 = .ok ()
  entries_eq : (d.makeDirs path).2.entries path = .ok []

namespace Vacant

variable {dir : Location}

/-- The way to the directory, and what is not there. -/
theorem way (h : d.Vacant path) : ∃ from' dir, d.start path = .ok (from', Name.components path) ∧
    (d.makeDirs path).2.walk from' (Name.components path) = .ok dir ∧
    (d.makeDirs path).2.node? dir = some .directory ∧
    ∀ name, d.fileAt (entry dir name) = none := by
  have hlays := d.makeDirs_lays path
  obtain ⟨dir, hfind, hdir, hnone⟩ := find_of_entries h.entries_eq
  unfold find at hfind
  rw [hlays.grows.start_eq] at hfind
  rcases hstart : d.start path with e | ⟨from', names⟩
  · rw [hstart] at hfind
    cases hfind
  · obtain rfl := start_snd hstart
    rw [hstart] at hfind
    refine ⟨from', dir, rfl, hfind, hdir, fun name => ?_⟩
    rw [← hlays.fileAt_eq, fileAt]
    cases hnode : (d.makeDirs path).2.node? (entry dir name) with
    | none => rfl
    | some node =>
      have hmem := mem_entriesIn.2 hnode
      rw [← hnone] at hmem
      cases hmem

theorem ne_nil (h : d.Vacant path) : path ≠ [] := by
  obtain ⟨from', dir, hstart, _⟩ := h.way
  rintro rfl
  exact nomatch hstart

/-- Whatever was made since, there was no file in the directory to begin with. -/
theorem fileAt_eq_none (h : d.Vacant path) (hgrows : d.Grows d') (hfind : d'.find path = .ok dir)
    (name : Name) : d.fileAt (entry dir name) = none := by
  obtain ⟨from', dir', hstart, hwalk, _, hnone⟩ := h.way
  unfold find at hfind
  rw [hgrows.start_eq, hstart] at hfind
  rw [walk_unique hfind hwalk]
  exact hnone name

/-- **Without new files** the directory is where it was or stays missing. -/
theorem find_or_notFound (h : d.Vacant path) (hgrows : d.Grows d') (hd' : d'.Healthy)
    (hfiles : ∀ place, d'.fileAt place = d.fileAt place) :
    (∃ dir, d'.find path = .ok dir ∧ d'.node? dir = some .directory) ∨
      d'.find path = .error .notFound := by
  obtain ⟨from', dir, hstart, hwalk, hdir, _⟩ := h.way
  have hdirectory (loc : Location) (hloc : (d.makeDirs path).2.node? loc = some .directory) :
      d'.node? loc = some .directory ∨ d'.node? loc = none := by
    have hnone : d'.fileAt loc = none := by
      rw [hfiles, ← (d.makeDirs_lays path).fileAt_eq, fileAt, hloc]
    rcases hnode : d'.node? loc with _ | _ | _ | _
    · exact .inr rfl
    · exact .inl rfl
    · rw [fileAt_of_node hnode] at hnone
      cases hnone
    · exact absurd hnode (hd'.node_ne loc)
  have hfind : d'.find path = d'.walk from' (Name.components path) := by
    unfold find
    rw [hgrows.start_eq, hstart]
  rw [hfind]
  rcases walk_or_notFound hwalk hdir hdirectory with hthere | hmissing
  · exact .inl ⟨dir, hthere⟩
  · exact .inr hmissing

end Vacant

end Disk

end Fanout
