import Fanout.Proofs.Disk.Paths

/-!
# Files on a disk

On a disk where nothing fails (`Healthy`) every file has one name, so what is written through one
path is seen through no path with another last component.

* `makeDirs_lays` — making directories changes no file.
* `openForWriting_opened`, `write_appends` — opening a file, and appending to it, change no other.
-/

namespace Fanout

namespace Disk

variable {d d' d'' : Disk} {path : List UInt8} {loc place : Location} {id : Nat}

/-- The contents of the file at a location. -/
def fileAt (d : Disk) (loc : Location) : Option ByteArray :=
  match d.node? loc with
  | some (.file id) => some (d.content id)
  | _ => none

/-- The contents of the file that a path leads to. -/
def file? (d : Disk) (path : List UInt8) : Option ByteArray :=
  match d.find path with
  | .ok loc => d.fileAt loc
  | .error _ => none

theorem fileAt_of_node (h : d.node? loc = some (.file id)) : d.fileAt loc = some (d.content id) := by
  rw [fileAt, h]

theorem file?_of_find (h : d.find path = .ok loc) : d.file? path = d.fileAt loc := by
  rw [file?, h]

theorem dataAt_eq_ok_iff {data : ByteArray} :
    d.dataAt path = .ok data ↔ d.file? path = some data := by
  unfold dataAt openForReading file? fileAt
  cases d.find path with
  | error e => simp
  | ok loc =>
    rcases hnode : d.node? loc with _ | _ | _ | _ <;> simp [hnode]

theorem toOption_dataAt (d : Disk) (path : List UInt8) :
    (d.dataAt path).toOption = d.file? path := by
  refine Option.ext fun data => ?_
  rw [← dataAt_eq_ok_iff]
  cases d.dataAt path <;> simp [Except.toOption]

/-- A disk on which nothing fails: no call is planned to, the full device is nowhere on it, and
every file is there and has one name. -/
structure Healthy (d : Disk) : Prop where
  fault_eq (k : Nat) : d.faults.fault k = none
  node_ne (loc : Location) : d.node? loc ≠ some .device
  id_lt {loc : Location} {id : Nat} : d.node? loc = some (.file id) → id < d.contents.size
  loc_eq {loc place : Location} {id : Nat} : d.node? loc = some (.file id) →
    d.node? place = some (.file id) → loc = place

theorem healthy_empty : empty.Healthy := by
  have hnode {loc : Location} {node : Node} (h : empty.node? loc = some node) :
      node = .directory := by
    unfold node? at h
    split at h
    · exact (Option.some.inj h).symm
    · exact nomatch h.symm.trans Std.TreeMap.getElem?_emptyc
  exact ⟨fun _ => rfl, fun _ h => (nomatch hnode h), fun h => (nomatch hnode h),
    fun h => (nomatch hnode h)⟩

variable {front : List Name} {name : Name}

/-! ## Directories -/

theorem node?_put (d : Disk) (loc : Location) (node : Node) (place : Location) :
    (d.put loc node).node? place =
      if place = [] then some .directory else if loc = place then some node else d.node? place := by
  unfold node? put
  cases place with
  | nil => rfl
  | cons first rest =>
    simp only [List.isEmpty_cons, Bool.false_eq_true, if_false, reduceCtorEq,
      Std.TreeMap.getElem?_insert, Std.compare_eq_iff_eq]

/-- An entry at a location that was free adds to the disk. -/
theorem grows_put (hfree : d.node? loc = none) (node : Node) : d.Grows (d.put loc node) := by
  refine ⟨rfl, fun {place node'} hnode => ?_⟩
  rw [node?_put]
  by_cases hroot : place = []
  · rw [hroot] at hnode
    rw [if_pos hroot]
    exact hnode
  · rw [if_neg hroot, if_neg]
    · exact hnode
    · rintro rfl
      rw [hfree] at hnode
      exact nomatch hnode

/-- There are some directories more, and nothing else has changed. -/
structure Lays (d d' : Disk) : Prop where
  grows : d.Grows d'
  contents_eq : d'.contents = d.contents
  fault_eq : d'.faults.fault = d.faults.fault
  node_of {loc : Location} {node : Node} : d'.node? loc = some node →
    d.node? loc = some node ∨ node = .directory

namespace Lays

theorem refl (d : Disk) : d.Lays d := ⟨.refl d, rfl, rfl, .inl⟩

theorem trans (h : d.Lays d') (h' : d'.Lays d'') : d.Lays d'' := by
  refine ⟨h.grows.trans h'.grows, h'.contents_eq.trans h.contents_eq,
    h'.fault_eq.trans h.fault_eq, fun hnode => ?_⟩
  rcases h'.node_of hnode with hnode | hdirectory
  · exact h.node_of hnode
  · exact .inr hdirectory

theorem put (hfree : d.node? loc = none) : d.Lays (d.put loc .directory) := by
  refine ⟨grows_put hfree _, rfl, rfl, fun {place node} hnode => ?_⟩
  rw [node?_put] at hnode
  split at hnode
  · exact .inr (Option.some.inj hnode).symm
  · split at hnode
    · exact .inr (Option.some.inj hnode).symm
    · exact .inl hnode

theorem node?_file (h : d.Lays d') : d'.node? loc = some (.file id) ↔ d.node? loc = some (.file id) :=
  ⟨fun hnode => (h.node_of hnode).resolve_right (fun hdirectory => nomatch hdirectory),
    h.grows.node?_eq⟩

theorem content_eq (h : d.Lays d') (id : Nat) : d'.content id = d.content id := by
  rw [content, h.contents_eq, content]

theorem fileAt_eq (h : d.Lays d') (loc : Location) : d'.fileAt loc = d.fileAt loc := by
  rcases hnode : d'.node? loc with _ | _ | id | _
  · rcases hbefore : d.node? loc with _ | node
    · rw [fileAt, fileAt, hnode, hbefore]
    · rw [h.grows.node?_eq hbefore] at hnode
      exact nomatch hnode
  · rcases hbefore : d.node? loc with _ | node
    · rw [fileAt, fileAt, hnode, hbefore]
    · have hsame := h.grows.node?_eq hbefore
      rw [hnode] at hsame
      rw [fileAt, fileAt, hnode, hbefore, ← Option.some.inj hsame]
  · rw [fileAt_of_node hnode, fileAt_of_node (h.node?_file.1 hnode), h.content_eq]
  · have hbefore := (h.node_of hnode).resolve_right fun hdirectory => nomatch hdirectory
    rw [fileAt, fileAt, hnode, hbefore]

theorem healthy (h : d.Lays d') (hd : d.Healthy) : d'.Healthy where
  fault_eq k := (congrFun h.fault_eq k).trans (hd.fault_eq k)
  node_ne loc hnode :=
    hd.node_ne loc ((h.node_of hnode).resolve_right fun hdirectory => nomatch hdirectory)
  id_lt hnode := h.contents_eq ▸ hd.id_lt (h.node?_file.1 hnode)
  loc_eq hnode hnode' := hd.loc_eq (h.node?_file.1 hnode) (h.node?_file.1 hnode')

end Lays

/-- A call that was made. -/
theorem lays_called (d : Disk) : d.Lays { d with faults := d.faults.next.2 } :=
  ⟨⟨rfl, fun hnode => hnode⟩, rfl, rfl, .inl⟩

theorem makeDirsFrom_lays (d : Disk) (loc : Location) (names : List Name) :
    d.Lays (d.makeDirsFrom loc names).2 := by
  induction names generalizing d loc with
  | nil => exact .refl d
  | cons name rest ih =>
    unfold makeDirsFrom
    split
    · exact .refl d
    · split
      · exact ih d loc
      · exact ih d loc.dropLast
      · split
        · exact .refl d
        · dsimp only
          split
          · exact ih d _
          · exact .refl d
          · rename_i hfree
            exact (Lays.put hfree).trans (ih _ _)

/-- **Making directories** changes no file. -/
theorem makeDirs_lays (d : Disk) (path : List UInt8) : d.Lays (d.makeDirs path).2 := by
  have hcalled := d.lays_called
  unfold makeDirs
  rcases hnext : d.faults.next with ⟨fault, plan⟩
  rw [hnext] at hcalled
  cases fault with
  | some e => exact hcalled
  | none =>
    dsimp only
    split
    · exact hcalled
    · exact hcalled.trans (makeDirsFrom_lays _ _ _)

/-! ## Files -/

/-- The path leads to a file, given by its number. -/
def Leads (d : Disk) (path : List UInt8) (id : Nat) : Prop :=
  ∃ loc, d.find path = .ok loc ∧ d.node? loc = some (.file id)

/-- From one disk to the other at most the file has changed that the path leads to in the end. -/
structure Alters (path : List UInt8) (d d' : Disk) : Prop where
  grows : d.Grows d'
  fileAt_eq {place : Location} : d'.find path ≠ .ok place → d'.fileAt place = d.fileAt place

theorem Leads.file?_eq (h : d.Leads path id) : d.file? path = some (d.content id) := by
  obtain ⟨loc, hfind, hnode⟩ := h
  rw [file?_of_find hfind, fileAt_of_node hnode]

theorem Leads.grows (h : d.Leads path id) (hgrows : d.Grows d') : d'.Leads path id := by
  obtain ⟨loc, hfind, hnode⟩ := h
  exact ⟨loc, hgrows.find hfind, hgrows.node?_eq hnode⟩

theorem Lays.alters (h : d.Lays d') (path : List UInt8) : d.Alters path d' :=
  ⟨h.grows, fun _ => h.fileAt_eq _⟩

namespace Alters

theorem trans (h : d.Alters path d') (h' : d'.Alters path d'') : d.Alters path d'' := by
  refine ⟨h.grows.trans h'.grows, fun {place} hplace => ?_⟩
  rw [h'.fileAt_eq hplace, h.fileAt_eq fun hfind => hplace (h'.grows.find hfind)]

variable {other : List UInt8} {front' : List Name} {name' : Name}

/-- What is written through one path is not seen through another. -/
theorem content_eq (h : d.Alters path d') (hpath : EndsIn path front name)
    (hother : EndsIn other front' name') (hne : name ≠ name') (hleads : d.Leads other id) :
    d'.content id = d.content id := by
  obtain ⟨loc, hfind, hnode⟩ := hleads
  have hsame := h.fileAt_eq fun hfound => find_ne hpath hother hne hfound (h.grows.find hfind)
  rw [fileAt_of_node hnode, fileAt_of_node (h.grows.node?_eq hnode)] at hsame
  exact Option.some.inj hsame

end Alters

/-- At most the contents of one file have changed. -/
structure Writes (id : Nat) (d d' : Disk) : Prop extends SameTree d d' where
  fault_eq : d'.faults.fault = d.faults.fault
  size_eq : d'.contents.size = d.contents.size
  content_eq {other : Nat} : other ≠ id → d'.content other = d.content other

namespace Writes

theorem healthy (h : Writes id d d') (hd : d.Healthy) : d'.Healthy where
  fault_eq k := (congrFun h.fault_eq k).trans (hd.fault_eq k)
  node_ne loc hnode := hd.node_ne loc ((h.node?_eq loc).symm.trans hnode)
  id_lt hnode := h.size_eq.symm ▸ hd.id_lt ((h.node?_eq _).symm.trans hnode)
  loc_eq hnode hnode' :=
    hd.loc_eq ((h.node?_eq _).symm.trans hnode) ((h.node?_eq _).symm.trans hnode')

theorem alters (h : Writes id d d') (hd : d.Healthy) (hleads : d.Leads path id) :
    d.Alters path d' := by
  refine ⟨h.grows, fun {place} hplace => ?_⟩
  obtain ⟨loc, hfind, hnode⟩ := hleads
  unfold fileAt
  rw [h.node?_eq]
  rcases hthere : d.node? place with _ | _ | other | _
  · rfl
  · rfl
  · refine congrArg some (h.content_eq ?_)
    rintro rfl
    rw [hd.loc_eq hthere hnode] at hplace
    exact hplace (h.grows.find hfind)
  · rfl

end Writes

theorem content_setIfInBounds (d : Disk) (data : ByteArray) (other : Nat) :
    content { d with contents := d.contents.setIfInBounds id data } other =
      if id = other ∧ id < d.contents.size then data else d.content other := by
  unfold content
  rw [Array.getElem?_setIfInBounds]
  by_cases hsame : id = other
  · subst hsame
    by_cases hlt : id < d.contents.size
    · simp [hlt]
    · simp [hlt]
  · simp [hsame]

theorem content_modify (d : Disk) (f : ByteArray → ByteArray) (other : Nat) :
    content { d with contents := d.contents.modify id f } other =
      if id = other ∧ id < d.contents.size then f (d.content other) else d.content other := by
  unfold content
  rw [Array.getElem?_modify]
  by_cases hsame : id = other
  · subst hsame
    by_cases hlt : id < d.contents.size
    · simp [hlt]
    · simp [hlt]
  · simp [hsame]

theorem content_makeFile (d : Disk) (loc : Location) (other : Nat) :
    (d.makeFile loc).1.content other = d.content other := by
  unfold content makeFile
  simp only [Array.getElem?_push]
  split
  · rename_i hother
    rw [hother]
    simp
  · rfl

/-- A new file gets a number of its own. -/
theorem makeFile_healthy (hd : d.Healthy) (loc : Location) : (d.makeFile loc).1.Healthy := by
  have hnode {place : Location} {node : Node} (h : (d.makeFile loc).1.node? place = some node) :
      place = loc ∧ node = .file d.contents.size ∨ d.node? place = some node := by
    rw [show (d.makeFile loc).1.node? place = (d.put loc (.file d.contents.size)).node? place
      from rfl, node?_put] at h
    split at h
    · rename_i hroot
      rw [hroot]
      exact .inr h
    · split at h
      · rename_i hplace
        exact .inl ⟨hplace.symm, (Option.some.inj h).symm⟩
      · exact .inr h
  have hsize : (d.makeFile loc).1.contents.size = d.contents.size + 1 := Array.size_push _
  refine ⟨hd.fault_eq, fun place hplace => ?_, fun hfile => ?_, fun hfile hfile' => ?_⟩
  · rcases hnode hplace with ⟨_, hdevice⟩ | hbefore
    · exact nomatch hdevice
    · exact hd.node_ne place hbefore
  · rw [hsize]
    rcases hnode hfile with ⟨_, hnew⟩ | hbefore
    · rw [Node.file.inj hnew]
      exact Nat.lt_succ_self _
    · exact Nat.lt_succ_of_lt (hd.id_lt hbefore)
  -- the new number is above all others
  · rcases hnode hfile with ⟨hplace, hnew⟩ | hbefore <;>
      rcases hnode hfile' with ⟨hplace', hnew'⟩ | hbefore'
    · rw [hplace, hplace']
    · exact absurd (hd.id_lt hbefore') (by rw [Node.file.inj hnew]; exact Nat.lt_irrefl _)
    · exact absurd (hd.id_lt hbefore) (by rw [Node.file.inj hnew']; exact Nat.lt_irrefl _)
    · exact hd.loc_eq hbefore hbefore'

theorem makeFile_alters (hpath : EndsIn path front name) (hslot : d.findSlot path = .ok loc)
    (hfree : d.node? loc = none) :
    d.Alters path (d.makeFile loc).1 ∧ (d.makeFile loc).1.Leads path d.contents.size := by
  have hgrows : d.Grows (d.makeFile loc).1 :=
    ⟨rfl, (grows_put hfree (.file d.contents.size)).node?_eq⟩
  have hroot : loc ≠ [] := by
    rintro rfl
    exact nomatch hfree
  have hnode : (d.makeFile loc).1.node? loc = some (.file d.contents.size) := by
    show (d.put loc _).node? loc = _
    rw [node?_put, if_neg hroot, if_pos rfl]
  have hfind : (d.makeFile loc).1.find path = .ok loc :=
    (find_eq_ok_iff hpath).2 ⟨hgrows.findSlot hpath hslot, _, hnode⟩
  refine ⟨⟨hgrows, fun {place} hplace => ?_⟩, loc, hfind, hnode⟩
  have hne : loc ≠ place := by
    rintro rfl
    exact hplace hfind
  have hsame : (d.makeFile loc).1.node? place = d.node? place := by
    show (d.put loc _).node? place = _
    rw [node?_put, if_neg hne]
    split
    · rename_i hplace
      rw [hplace]
      rfl
    · rfl
  unfold fileAt
  rw [hsame]
  split
  · rw [content_makeFile]
  · rfl

/-- What opening a file comes to: on a healthy disk it gives a handle on the file, which is new,
emptied or as it was. -/
structure Opened (d : Disk) (path : List UInt8) (mode : WriteMode) (h : Handle) (d' : Disk) :
    Prop where
  healthy : d'.Healthy
  alters : d.Alters path d'
  leads : ∃ id, h = ⟨.file id, mode, 0⟩ ∧ d'.Leads path id ∧ d'.content id =
    match mode with
    | .truncate => ByteArray.empty
    | .append => (d.file? path).getD ByteArray.empty

/-- A new file is empty, however it is opened. -/
theorem content_made (hpath : EndsIn path front name) (hslot : d.findSlot path = .ok loc)
    (hfree : d.node? loc = none) (mode : WriteMode) :
    (d.makeFile loc).1.content d.contents.size =
      match mode with
      | .truncate => ByteArray.empty
      | .append => (d.file? path).getD ByteArray.empty := by
  have hempty : (d.makeFile loc).1.content d.contents.size = ByteArray.empty := by
    rw [content_makeFile, content, Array.getElem?_eq_none (Nat.le_refl _)]
    rfl
  have hnone : (d.file? path).getD ByteArray.empty = ByteArray.empty := by
    unfold file?
    cases hfind : d.find path with
    | error e => rfl
    | ok place =>
      have hsame := ((find_eq_ok_iff hpath).1 hfind).1
      rw [hslot] at hsame
      rw [← Except.ok.inj hsame]
      simp only [fileAt, hfree]
      rfl
  cases mode with
  | truncate => exact hempty
  | append => exact hempty.trans hnone.symm

theorem makeFile_opened (hd : d.Healthy) (hpath : EndsIn path front name)
    (hslot : d.findSlot path = .ok loc) (hfree : d.node? loc = none) (mode : WriteMode) :
    d.Opened path mode ⟨.file d.contents.size, mode, 0⟩ (d.makeFile loc).1 := by
  have hmade := makeFile_alters hpath hslot hfree
  exact ⟨makeFile_healthy hd loc, hmade.1, _, rfl, hmade.2, content_made hpath hslot hfree mode⟩

theorem append_opened (hd : d.Healthy) {id : Nat} (hleads : d.Leads path id) :
    d.Opened path .append ⟨.file id, .append, 0⟩ d := by
  refine ⟨hd, ⟨.refl d, fun _ => rfl⟩, id, rfl, hleads, ?_⟩
  rw [hleads.file?_eq]
  rfl

theorem truncate_opened (hd : d.Healthy) {id : Nat} (hleads : d.Leads path id) :
    d.Opened path .truncate ⟨.file id, .truncate, 0⟩
      { d with contents := d.contents.setIfInBounds id ByteArray.empty } := by
  have hwrites : Writes id d
      { d with contents := d.contents.setIfInBounds id ByteArray.empty } := by
    refine ⟨⟨rfl, rfl⟩, rfl, Array.size_setIfInBounds .., fun {other} hother => ?_⟩
    rw [content_setIfInBounds, if_neg fun h => hother h.1.symm]
  refine ⟨hwrites.healthy hd, hwrites.alters hd hleads, id, rfl, hleads.grows hwrites.grows, ?_⟩
  obtain ⟨loc, _, hnode⟩ := hleads
  rw [content_setIfInBounds, if_pos ⟨rfl, hd.id_lt hnode⟩]

/-- Opening what is at a place, or making a file there. -/
theorem openSlot_opened (hd : d.Healthy) (hpath : EndsIn path front name)
    (hslot : d.findSlot path = .ok loc) {mode : WriteMode} {h : Handle}
    (hopen : (match d.node? loc with
      | some .directory => (.error .isADirectory, d)
      | some .device => (.ok ⟨.device, mode, 0⟩, d)
      | some (.file id) =>
        match mode with
        | .append => (.ok ⟨.file id, mode, 0⟩, d)
        | .truncate =>
          (.ok ⟨.file id, mode, 0⟩,
            { d with contents := d.contents.setIfInBounds id ByteArray.empty })
      | none =>
        let (d, id) := d.makeFile loc
        (.ok ⟨.file id, mode, 0⟩, d) : Except IoError Handle × Disk) = (.ok h, d')) :
    d.Opened path mode h d' := by
  rcases hnode : d.node? loc with _ | _ | id | _
  · rw [hnode] at hopen
    obtain ⟨hh, rfl⟩ := Prod.mk.inj hopen
    exact Except.ok.inj hh ▸ makeFile_opened hd hpath hslot hnode mode
  · rw [hnode] at hopen
    exact nomatch (Prod.mk.inj hopen).1
  · have hleads : d.Leads path id := ⟨loc, (find_eq_ok_iff hpath).2 ⟨hslot, _, hnode⟩, hnode⟩
    rw [hnode] at hopen
    cases mode with
    | append =>
      obtain ⟨hh, rfl⟩ := Prod.mk.inj hopen
      exact Except.ok.inj hh ▸ append_opened hd hleads
    | truncate =>
      obtain ⟨hh, rfl⟩ := Prod.mk.inj hopen
      exact Except.ok.inj hh ▸ truncate_opened hd hleads
  · exact absurd hnode (hd.node_ne loc)

theorem file?_withFaults (d : Disk) (path : List UInt8) (plan : FaultPlan IoError) :
    file? { d with faults := plan } path = d.file? path := by
  have htree : d.SameTree { d with faults := plan } := ⟨rfl, rfl⟩
  unfold file?
  cases hfind : d.find path with
  | ok loc =>
    rw [htree.grows.find hfind]
    rfl
  | error e =>
    cases hfind' : find { d with faults := plan } path with
    | ok loc =>
      rw [htree.symm.grows.find hfind'] at hfind
      exact nomatch hfind
    | error e => rfl

/-- **Opening a file for writing.** -/
theorem openForWriting_opened (hd : d.Healthy) (hpath : EndsIn path front name) {mode : WriteMode}
    {h : Handle} (hopen : d.openForWriting path mode = (.ok h, d')) : d.Opened path mode h d' := by
  have hcalled := d.lays_called
  have hnone : d.faults.next.1 = none := hd.fault_eq _
  unfold openForWriting at hopen
  rcases hnext : d.faults.next with ⟨fault, plan⟩
  rw [hnext] at hcalled hnone hopen
  obtain rfl : fault = none := hnone
  dsimp only at hopen
  cases hslot : findSlot { d with faults := plan } path with
  | error e =>
    rw [hslot] at hopen
    exact nomatch (Prod.mk.inj hopen).1
  | ok loc =>
    rw [hslot] at hopen
    have hopened := openSlot_opened (hcalled.healthy hd) hpath hslot hopen
    refine ⟨hopened.healthy, (hcalled.alters path).trans hopened.alters, ?_⟩
    have hleads := hopened.leads
    rwa [file?_withFaults] at hleads

theorem endsIn_of_openForWriting {mode : WriteMode} {h : Handle}
    (hopen : d.openForWriting path mode = (.ok h, d')) : ∃ front name, EndsIn path front name := by
  unfold openForWriting at hopen
  dsimp only at hopen
  split at hopen
  · exact nomatch (Prod.mk.inj hopen).1
  · split at hopen
    · exact nomatch (Prod.mk.inj hopen).1
    · rename_i hslot
      exact endsIn_of_findSlot hslot

/-- Every file has its contents on the disk. -/
def Stored (d : Disk) : Prop := ∀ loc id, d.node? loc = some (.file id) → id < d.contents.size

theorem Lays.stored (h : d.Lays d') (hd : d.Stored) : d'.Stored := fun loc id hnode => by
  rw [h.contents_eq]
  exact hd loc id (h.node?_file.1 hnode)

/-- The path leads to a file that is new, emptied or as it was. -/
structure Reached (d : Disk) (path : List UInt8) (mode : WriteMode) (d' : Disk) (id : Nat) :
    Prop where
  id_lt : id < d'.contents.size
  leads : d'.Leads path id
  content_eq : d'.content id =
    match mode with
    | .truncate => ByteArray.empty
    | .append => (d.file? path).getD ByteArray.empty

/-- **Opening a file for writing**, whatever may fail: unless it is the full device, the path leads
to it then. -/
theorem openForWriting_reached (hd : d.Stored) {mode : WriteMode} {h : Handle}
    (hopen : d.openForWriting path mode = (.ok h, d')) (hfile : h.target ≠ .device) :
    ∃ id, h = ⟨.file id, mode, 0⟩ ∧ d.Reached path mode d' id := by
  have hcalled := d.lays_called
  unfold openForWriting at hopen
  rcases hnext : d.faults.next with ⟨fault, plan⟩
  rw [hnext] at hcalled hopen
  cases fault with
  | some e => exact nomatch (Prod.mk.inj hopen).1
  | none =>
    dsimp only at hopen hcalled
    have hbefore := d.file?_withFaults path plan
    generalize hcalled' : { d with faults := plan } = called at hopen hcalled hbefore
    cases hslot : called.findSlot path with
    | error e =>
      rw [hslot] at hopen
      exact nomatch (Prod.mk.inj hopen).1
    | ok loc =>
      obtain ⟨front, name, hpath⟩ := endsIn_of_findSlot hslot
      rw [hslot] at hopen
      dsimp only at hopen
      rcases hnode : called.node? loc with _ | _ | id | _
      · rw [hnode] at hopen
        obtain ⟨hh, rfl⟩ := Prod.mk.inj hopen
        refine ⟨_, (Except.ok.inj hh).symm, ?_, (makeFile_alters hpath hslot hnode).2,
          hbefore ▸ content_made hpath hslot hnode mode⟩
        exact Nat.lt_of_lt_of_eq (Nat.lt_succ_self _) (Array.size_push _).symm
      · rw [hnode] at hopen
        exact nomatch (Prod.mk.inj hopen).1
      · have hleads : called.Leads path id :=
          ⟨loc, (find_eq_ok_iff hpath).2 ⟨hslot, _, hnode⟩, hnode⟩
        have hid := hcalled.stored hd loc id hnode
        rw [hnode] at hopen
        cases mode with
        | append =>
          obtain ⟨hh, rfl⟩ := Prod.mk.inj hopen
          refine ⟨id, (Except.ok.inj hh).symm, hid, hleads, ?_⟩
          rw [← hbefore, hleads.file?_eq]
          rfl
        | truncate =>
          obtain ⟨hh, rfl⟩ := Prod.mk.inj hopen
          subst hcalled'
          have htree : SameTree { d with faults := plan }
              { d with faults := plan, contents := d.contents.setIfInBounds id .empty } :=
            ⟨rfl, rfl⟩
          refine ⟨id, (Except.ok.inj hh).symm, ?_, hleads.grows htree.grows, ?_⟩
          · exact Nat.lt_of_lt_of_eq hid (Array.size_setIfInBounds ..).symm
          · exact (content_setIfInBounds { d with faults := plan } .empty id).trans (if_pos ⟨rfl, hid⟩)
      · rw [hnode] at hopen
        obtain ⟨hh, -⟩ := Prod.mk.inj hopen
        exact absurd (congrArg Handle.target (Except.ok.inj hh)).symm hfile

/-- A file that cannot be opened is left as it is. -/
theorem openForWriting_lays (hd : d.Healthy) {mode : WriteMode} {e : IoError}
    (hopen : d.openForWriting path mode = (.error e, d')) : d.Lays d' := by
  have hcalled := d.lays_called
  have hnone : d.faults.next.1 = none := hd.fault_eq _
  unfold openForWriting at hopen
  rcases hnext : d.faults.next with ⟨fault, plan⟩
  rw [hnext] at hcalled hnone hopen
  obtain rfl : fault = none := hnone
  dsimp only at hopen
  split at hopen
  · exact (Prod.mk.inj hopen).2 ▸ hcalled
  · split at hopen
    · exact (Prod.mk.inj hopen).2 ▸ hcalled
    · exact nomatch (Prod.mk.inj hopen).1
    · split at hopen
      · exact nomatch (Prod.mk.inj hopen).1
      · exact nomatch (Prod.mk.inj hopen).1
    · exact nomatch (Prod.mk.inj hopen).1

/-- The next write through the handle goes to the end of the file. -/
structure AtEnd (d : Disk) (h : Handle) (id : Nat) : Prop where
  target_eq : h.target = .file id
  position_eq : h.mode = .truncate → h.position = (d.content id).size

/-- **Writing at the end of a file** appends to it and changes no other. -/
theorem write_eq_ok (hid : id < d.contents.size) {h h' : Handle} (hend : d.AtEnd h id)
    {data : ByteArray} (hwrite : d.write h data = (.ok h', d')) :
    d'.AtEnd h' id ∧ Writes id d d' ∧ d'.content id = d.content id ++ data := by
  unfold write at hwrite
  rcases hnext : d.faults.next with ⟨fault, plan⟩
  rw [hnext] at hwrite
  have hwrites (f : ByteArray → ByteArray) :
      Writes id d { d with faults := plan, contents := d.contents.modify id f } := by
    refine ⟨⟨rfl, rfl⟩, ?_, Array.size_modify, fun {other} hother => ?_⟩
    · exact congrArg (fun out => out.2.fault) hnext.symm
    · exact (content_modify { d with faults := plan } f other).trans
        (if_neg fun h => hother h.1.symm)
  have hcontent (f : ByteArray → ByteArray) :
      content { d with faults := plan, contents := d.contents.modify id f } id =
        f (d.content id) :=
    (content_modify { d with faults := plan } f id).trans (if_pos ⟨rfl, hid⟩)
  cases fault with
  | some e => exact nomatch (Prod.mk.inj hwrite).1
  | none =>
    simp only [hend.target_eq] at hwrite
    cases hmode : h.mode with
    | append =>
      rw [hmode] at hwrite
      obtain ⟨hsame, rfl⟩ := Prod.mk.inj hwrite
      obtain rfl := Except.ok.inj hsame
      refine ⟨⟨hend.target_eq, fun htruncate => ?_⟩, hwrites _, hcontent _⟩
      rw [hmode] at htruncate
      exact nomatch htruncate
    | truncate =>
      rw [hmode] at hwrite
      obtain ⟨hmoved, rfl⟩ := Prod.mk.inj hwrite
      obtain rfl := Except.ok.inj hmoved
      have hposition := hend.position_eq hmode
      have happend : overwrite (d.content id) h.position data = d.content id ++ data :=
        if_pos hposition
      refine ⟨⟨rfl, fun _ => ?_⟩, hwrites _, (hcontent _).trans happend⟩
      rw [hcontent, happend, ByteArray.size_append, hposition]

/-- On a healthy disk writing does not fail. -/
theorem write_appends (hd : d.Healthy) (hid : id < d.contents.size) {h : Handle}
    (hend : d.AtEnd h id) (data : ByteArray) :
    ∃ h' d', d.write h data = (.ok h', d') ∧ d'.AtEnd h' id ∧ Writes id d d' ∧
      d'.content id = d.content id ++ data := by
  have hok : ∃ h' d', d.write h data = (.ok h', d') := by
    have hnone : d.faults.next.1 = none := hd.fault_eq _
    unfold write
    rcases hnext : d.faults.next with ⟨fault, plan⟩
    rw [hnext] at hnone
    obtain rfl : fault = none := hnone
    simp only [hend.target_eq]
    cases h.mode with
    | append => exact ⟨_, _, rfl⟩
    | truncate => exact ⟨_, _, rfl⟩
  obtain ⟨h', d', hwrite⟩ := hok
  exact ⟨h', d', hwrite, write_eq_ok hid hend hwrite⟩

end Disk

end Fanout
