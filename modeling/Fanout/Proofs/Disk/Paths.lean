import Fanout.Disk.Basic

/-!
# Paths on a disk

A path is followed component by component, from directory to directory (`walk_cons_eq_ok_iff`).
Nothing is ever removed while a disk is written to, so a path that leads somewhere leads there ever
after (`Grows`). A path that ends in the name of an entry makes its file in the directory that the
components in front of it lead to.

* `Grows.find`, `Grows.findSlot` — a path leads where it led before.
* `find_ne` — paths that end in different names lead to different places.
-/

namespace Fanout

namespace Disk

variable {d d' d'' : Disk} {path : List UInt8} {loc place : Location}

/-! ## Ways -/

theorem checkDirectory_eq_ok_iff :
    d.checkDirectory loc = .ok () ↔ d.node? loc = some .directory := by
  unfold checkDirectory
  rcases d.node? loc with _ | _ | _ | _ <;> simp

/-- Where a component of a path leads to; `none` if its name is too long. -/
def next? (loc : Location) (name : Name) : Option Location :=
  match stepOf name with
  | .stay => some loc
  | .up => some loc.dropLast
  | .enter name => if maxNameLength < name.length then none else some (entry loc name)

theorem walk_cons (d : Disk) (loc : Location) (name : Name) (rest : List Name) :
    d.walk loc (name :: rest) =
      match d.checkDirectory loc, next? loc name with
      | .error e, _ => .error e
      | .ok (), none => .error .nameTooLong
      | .ok (), some next => d.walk next rest := by
  rw [walk, next?]
  cases d.checkDirectory loc with
  | error e => rfl
  | ok _ =>
    cases stepOf name with
    | stay => rfl
    | up => rfl
    | enter entered =>
      dsimp only
      by_cases hlong : maxNameLength < entered.length
      · rw [if_pos hlong, if_pos hlong]
      · rw [if_neg hlong, if_neg hlong]

theorem walk_nil_eq_ok_iff :
    d.walk loc [] = .ok place ↔ loc = place ∧ ∃ node, d.node? place = some node := by
  unfold walk
  cases hnode : d.node? loc with
  | none =>
    refine ⟨fun h => (nomatch h), ?_⟩
    rintro ⟨rfl, node, hsome⟩
    rw [hnode] at hsome
    exact nomatch hsome
  | some node =>
    constructor
    · intro h
      obtain rfl := Except.ok.inj h
      exact ⟨rfl, node, hnode⟩
    · rintro ⟨rfl, _⟩
      rfl

/-- **A way goes through directories**, component by component. -/
theorem walk_cons_eq_ok_iff {name : Name} {rest : List Name} :
    d.walk loc (name :: rest) = .ok place ↔ d.node? loc = some .directory ∧
      ∃ next, next? loc name = some next ∧ d.walk next rest = .ok place := by
  rw [walk_cons, ← checkDirectory_eq_ok_iff]
  cases d.checkDirectory loc with
  | error e => simp
  | ok _ => cases next? loc name <;> simp

/-! ## Growing -/

/-- What was on the disk is still there. -/
structure Grows (d d' : Disk) : Prop where
  workingDirectory_eq : d'.workingDirectory = d.workingDirectory
  node?_eq {loc : Location} {node : Node} : d.node? loc = some node → d'.node? loc = some node

namespace Grows

theorem refl (d : Disk) : d.Grows d := ⟨rfl, id⟩

theorem trans (h : d.Grows d') (h' : d'.Grows d'') : d.Grows d'' :=
  ⟨h'.workingDirectory_eq.trans h.workingDirectory_eq, fun hnode => h'.node?_eq (h.node?_eq hnode)⟩

theorem checkDirectory (h : d.Grows d') (hcheck : d.checkDirectory loc = .ok ()) :
    d'.checkDirectory loc = .ok () :=
  checkDirectory_eq_ok_iff.2 (h.node?_eq (checkDirectory_eq_ok_iff.1 hcheck))

theorem walk (h : d.Grows d') {names : List Name} (hwalk : d.walk loc names = .ok place) :
    d'.walk loc names = .ok place := by
  induction names generalizing loc with
  | nil =>
    obtain ⟨hsame, node, hnode⟩ := walk_nil_eq_ok_iff.1 hwalk
    exact walk_nil_eq_ok_iff.2 ⟨hsame, node, h.node?_eq hnode⟩
  | cons name rest ih =>
    obtain ⟨hdirectory, next, hnext, hrest⟩ := walk_cons_eq_ok_iff.1 hwalk
    exact walk_cons_eq_ok_iff.2 ⟨h.node?_eq hdirectory, next, hnext, ih hrest⟩

theorem start_eq (h : d.Grows d') (path : List UInt8) : d'.start path = d.start path := by
  unfold Disk.start
  rw [h.workingDirectory_eq]

/-- A path leads where it led before. -/
theorem find (h : d.Grows d') (hfind : d.find path = .ok loc) : d'.find path = .ok loc := by
  unfold Disk.find at hfind ⊢
  rw [h.start_eq]
  rcases hstart : d.start path with e | ⟨from', names⟩
  · rw [hstart] at hfind
    exact nomatch hfind
  · rw [hstart] at hfind
    exact h.walk hfind

end Grows

/-- The disks have the same tree; their files may hold different bytes. -/
structure SameTree (d d' : Disk) : Prop where
  nodes_eq : d'.nodes = d.nodes
  workingDirectory_eq : d'.workingDirectory = d.workingDirectory

namespace SameTree

theorem refl (d : Disk) : d.SameTree d := ⟨rfl, rfl⟩

theorem symm (h : d.SameTree d') : d'.SameTree d := ⟨h.nodes_eq.symm, h.workingDirectory_eq.symm⟩

theorem trans (h : d.SameTree d') (h' : d'.SameTree d'') : d.SameTree d'' :=
  ⟨h'.nodes_eq.trans h.nodes_eq, h'.workingDirectory_eq.trans h.workingDirectory_eq⟩

theorem node?_eq (h : d.SameTree d') (loc : Location) : d'.node? loc = d.node? loc := by
  rw [node?, h.nodes_eq, node?]

theorem grows (h : d.SameTree d') : d.Grows d' :=
  ⟨h.workingDirectory_eq, fun hnode => (h.node?_eq _).trans hnode⟩

end SameTree

/-! ## Paths of files -/

/-- The path ends in the name of an entry, behind the components in front of it. -/
structure EndsIn (path : List UInt8) (front : List Name) (name : Name) : Prop where
  components_eq : Name.components path = front ++ [name]
  step_eq : stepOf name = .enter name

variable {front : List Name} {name : Name}

theorem start_snd {from' : Location} {names : List Name} (h : d.start path = .ok (from', names)) :
    names = Name.components path := by
  unfold start at h
  split at h
  · exact nomatch h
  · split at h
    · exact nomatch h
    · split at h
      · exact nomatch h
      · exact (congrArg Prod.snd (Except.ok.inj h)).symm

theorem enter_of_stepOf {name entered : Name} (h : stepOf name = .enter entered) :
    entered = name := by
  unfold stepOf at h
  split at h
  · exact nomatch h
  · split at h
    · exact nomatch h
    · exact (Step.enter.inj h).symm

/-- Only a path that ends in the name of an entry makes a file. -/
theorem endsIn_of_findSlot (h : d.findSlot path = .ok loc) :
    ∃ front name, EndsIn path front name := by
  unfold findSlot at h
  rcases hstart : d.start path with e | ⟨from', names⟩
  · rw [hstart] at h
    exact nomatch h
  · obtain rfl := start_snd hstart
    rw [hstart] at h
    dsimp only at h
    split at h
    · exact nomatch h
    · split at h
      · exact nomatch h
      · split at h
        · rename_i entered hlast
          split at h
          · exact nomatch h
          · rename_i hwhole
            have hsuffix := List.dropWhile_suffix (l := (Name.components path).reverse) List.isEmpty
            have hsame := hsuffix.eq_of_length_le (by simpa [trimSlashes] using hwhole)
            have htrim : trimSlashes (Name.components path) = Name.components path := by
              rw [trimSlashes, hsame, List.reverse_reverse]
            rw [htrim] at hlast
            obtain ⟨name, hname, hstep⟩ := Option.map_eq_some_iff.1 hlast
            obtain rfl := enter_of_stepOf hstep
            obtain ⟨front, hfront⟩ := List.getLast?_eq_some_iff.1 hname
            exact ⟨front, _, hfront, hstep⟩
        · exact nomatch h

theorem walk_concat (d : Disk) (loc : Location) (names : List Name) (last : Name) :
    d.walk loc (names ++ [last]) =
      match d.walk loc names with
      | .error e => .error e
      | .ok dir => d.walk dir [last] := by
  induction names generalizing loc with
  | nil =>
    show d.walk loc [last] = _
    simp only [walk, checkDirectory]
    rcases hnode : d.node? loc with _ | _ | _ | _ <;> simp [hnode]
  | cons first names ih =>
    rw [List.cons_append, walk_cons, walk_cons]
    cases d.checkDirectory loc with
    | error e => rfl
    | ok _ =>
      cases next? loc first with
      | none => rfl
      | some next => exact ih next

/-- Where a path makes a file: in the directory that its other components lead to. -/
theorem findSlot_eq_ok_iff (h : EndsIn path front name) :
    d.findSlot path = .ok loc ↔ ∃ from' dir, d.start path = .ok (from', Name.components path) ∧
      d.walk from' front = .ok dir ∧ d.checkDirectory dir = .ok () ∧
      name.length ≤ maxNameLength ∧ loc = entry dir name := by
  have hname : name ≠ [] := by
    rintro rfl
    exact nomatch h.step_eq
  have htrim : trimSlashes (front ++ [name]) = front ++ [name] := by
    rw [trimSlashes, List.reverse_append, List.reverse_singleton, List.singleton_append,
      List.dropWhile_cons_of_neg (by simpa using hname), List.reverse_cons, List.reverse_reverse]
  unfold findSlot
  rcases hstart : d.start path with e | ⟨from', names⟩
  · simp
  · obtain rfl := start_snd hstart
    simp only [Except.ok.injEq, Prod.mk.injEq, h.components_eq, htrim, List.dropLast_concat,
      List.getLast?_concat, Option.map_some, h.step_eq, Nat.lt_irrefl, if_false, and_true,
      exists_and_left, exists_eq_left']
    cases hwalk : d.walk from' front with
    | error e => simp
    | ok dir =>
      cases hcheck : d.checkDirectory dir with
      | error e => simp [hcheck]
      | ok _ =>
        by_cases hlong : maxNameLength < name.length
        · simp [hlong, hcheck, Nat.not_le.2 hlong]
        · simp [hlong, hcheck, Nat.not_lt.1 hlong, eq_comm]

/-- A path leads to the location at which it makes a file, if there is something. -/
theorem find_eq_ok_iff (h : EndsIn path front name) :
    d.find path = .ok loc ↔ d.findSlot path = .ok loc ∧ ∃ node, d.node? loc = some node := by
  rw [findSlot_eq_ok_iff h]
  unfold find
  rcases hstart : d.start path with e | ⟨from', names⟩
  · simp
  · obtain rfl := start_snd hstart
    simp only [Except.ok.injEq, Prod.mk.injEq, h.components_eq, and_true, exists_and_left,
      exists_eq_left', walk_concat]
    cases hwalk : d.walk from' front with
    | error e => simp
    | ok dir =>
      simp only [walk, h.step_eq]
      cases hcheck : d.checkDirectory dir with
      | error e => simp [hcheck]
      | ok _ =>
        by_cases hlong : maxNameLength < name.length
        · simp [hlong, Nat.not_le.2 hlong]
        · simp only [hlong, if_false, Except.ok.injEq, exists_eq_left', hcheck,
            Nat.not_lt.1 hlong, true_and]
          rcases hnode : d.node? (entry dir name) with _ | node
          · simp only [reduceCtorEq, false_iff]
            rintro ⟨rfl, node, hsome⟩
            rw [hnode] at hsome
            exact nomatch hsome
          · simp only [Except.ok.injEq]
            constructor
            · rintro rfl
              exact ⟨rfl, node, hnode⟩
            · rintro ⟨rfl, _⟩
              rfl

/-- Paths whose last components differ lead to different locations. -/
theorem find_ne {other : List UInt8} {front' : List Name} {name' : Name}
    (h : EndsIn path front name) (h' : EndsIn other front' name') (hne : name ≠ name')
    (hfind : d.find path = .ok loc) : d.find other ≠ .ok loc := by
  intro hother
  obtain ⟨_, dir, _, _, _, _, rfl⟩ := (findSlot_eq_ok_iff h).1 ((find_eq_ok_iff h).1 hfind).1
  obtain ⟨_, dir', _, _, _, _, hloc⟩ :=
    (findSlot_eq_ok_iff h').1 ((find_eq_ok_iff h').1 hother).1
  exact hne (List.cons.inj (List.append_inj_right' hloc rfl)).1

theorem Grows.findSlot (h : d.Grows d') (hpath : EndsIn path front name)
    (hslot : d.findSlot path = .ok loc) : d'.findSlot path = .ok loc := by
  obtain ⟨from', dir, hstart, hwalk, hcheck, hlength, hloc⟩ := (findSlot_eq_ok_iff hpath).1 hslot
  exact (findSlot_eq_ok_iff hpath).2
    ⟨from', dir, (h.start_eq path).trans hstart, h.walk hwalk, h.checkDirectory hcheck, hlength, hloc⟩

end Disk

end Fanout
