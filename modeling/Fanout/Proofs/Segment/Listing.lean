import Fanout.Proofs.Disk.Directories
import Fanout.Proofs.Segment.Paths
import Fanout.Proofs.Segment.Spelling
import Fanout.Segment.Listing
import Mathlib.Data.List.Pairwise

/-!
# Listing segments

A name with a slash is no name of an entry: only where the dataset has none does the segment lie in
the directory that was given for it (`find_path`). A directory is listed in order, and its listing
has the files whose names are read as segments of the dataset (`listSegments_sorted`). Two files may
be listed for one segment if one of them has a name that spells the numbers in another way. Where
the names are those of segments or foreign, each segment is listed once (`listSegments_eq_ok`).
-/

namespace Fanout

open Disk (EndsIn)

theorem Name.text?_ofText (text : String) : Name.text? (Name.ofText text) = some text := by
  unfold Name.text? Name.ofText String.fromUTF8?
  rw [pack_octets]
  exact dif_pos text.isValidUTF8

theorem Name.text?_eq_some_iff {name : Name} {text : String} :
    name.text? = some text ↔ name = ofText text := by
  refine ⟨fun h => ?_, fun h => h ▸ text?_ofText text⟩
  unfold text? String.fromUTF8? at h
  split at h
  · obtain rfl := Option.some.inj h
    exact (octets_pack name).symm
  · exact nomatch h

/-! ## Paths of entries -/

theorem Path.exists_of_endsWith {dir : String} (h : dir.endsWith "/" = true) :
    ∃ front, dir = front ++ "/" := by
  rw [String.endsWith_eq_endsWith_toSlice, String.Slice.endsWith_string_iff,
    String.copy_toSlice] at h
  obtain ⟨front, hfront⟩ := h
  refine ⟨String.ofList front, String.toList_injective ?_⟩
  rw [String.toList_append, String.toList_ofList, hfront]

/-- The components of an entry's path are those of its directory, where an empty one at the end does
not matter, and its name. -/
theorem Path.components_join {dir file : String} (hdir : dir.isEmpty = false)
    (hfile : separator ∉ Name.ofText file) :
    ∃ front, Name.components (Name.ofText (join dir file)) = front ++ [Name.ofText file] ∧
      (Name.components (Name.ofText dir) = front ∨
        Name.components (Name.ofText dir) = front ++ [[]]) := by
  have hslash : Name.ofText "/" = [separator] := by decide +kernel
  have hsingle := Name.components_of_not_mem hfile
  unfold join
  rw [if_neg (by simp [hdir])]
  by_cases hends : dir.endsWith "/" = true
  · obtain ⟨front, rfl⟩ := exists_of_endsWith hends
    have hdirectory : Name.components (Name.ofText (front ++ "/")) =
        Name.components (Name.ofText front) ++ [[]] := by
      rw [Name.ofText_append, hslash, Name.components_append]
      rfl
    refine ⟨Name.components (Name.ofText front), ?_, .inr hdirectory⟩
    rw [if_pos hends, Name.ofText_append, Name.ofText_append, hslash, List.append_assoc,
      List.singleton_append, Name.components_append, hsingle]
  · refine ⟨Name.components (Name.ofText dir), ?_, .inl rfl⟩
    rw [if_neg hends, Name.ofText_append, Name.ofText_append, hslash, List.append_assoc,
      List.singleton_append, Name.components_append, hsingle]

theorem Path.ofText_join (dir file : String) : ∃ rest,
    Name.ofText (join dir file) = Name.ofText dir ++ rest := by
  unfold join
  split
  · rename_i hempty
    obtain rfl : dir = "" := String.isEmpty_iff.1 hempty
    exact ⟨Name.ofText file, rfl⟩
  · split
    · exact ⟨_, Name.ofText_append _ _⟩
    · exact ⟨_, by rw [Name.ofText_append, Name.ofText_append, List.append_assoc]⟩

theorem Path.join_inj {dir file file' : String} (h : join dir file = join dir file') :
    file = file' := by
  unfold join at h
  split at h
  · exact h
  · split at h
    · exact (String.append_right_inj dir).1 h
    · exact (String.append_right_inj _).1 h

namespace Disk

variable {d : Disk} {loc : Location}

/-- A path starts where the path of its directory starts. -/
theorem start_of_append {dir rest : List UInt8} {names : List Name} (hdir : dir ≠ [])
    (h : d.start (dir ++ rest) = .ok (loc, names)) :
    d.start dir = .ok (loc, Name.components dir) := by
  obtain ⟨first, dir, rfl⟩ := List.exists_cons_of_ne_nil hdir
  unfold start at h ⊢
  by_cases hzero : (first :: dir ++ rest).contains 0 = true
  · rw [if_neg (by simp), if_pos hzero] at h
    exact nomatch h
  · by_cases hlong : maxPathLength < (first :: dir ++ rest).length
    · rw [if_neg (by simp), if_neg hzero, if_pos hlong] at h
      exact nomatch h
    · rw [if_neg (by simp), if_neg hzero, if_neg hlong] at h
      rw [List.contains_iff_mem] at hzero
      rw [List.length_append] at hlong
      rw [if_neg (by simp), if_neg, if_neg (by omega)]
      · exact congrArg Except.ok (Prod.ext (Prod.mk.inj (Except.ok.inj h)).1 rfl)
      · rw [List.contains_iff_mem]
        exact fun hmem => hzero (List.mem_append_left _ hmem)

/-- **The path of an entry** leads through its directory. -/
theorem find_join {dir file : String} (hdir : dir.isEmpty = false)
    (hfile : separator ∉ Name.ofText file)
    (hstep : stepOf (Name.ofText file) = .enter (Name.ofText file))
    (hfind : d.find (Name.ofText (Path.join dir file)) = .ok loc) :
    ∃ place, d.find (Name.ofText dir) = .ok place ∧ d.node? place = some .directory ∧
      loc = entry place (Name.ofText file) := by
  obtain ⟨front, hcomponents, hfront⟩ := Path.components_join hdir hfile
  obtain ⟨rest, hrest⟩ := Path.ofText_join dir file
  have hends : EndsIn (Name.ofText (Path.join dir file)) front (Name.ofText file) :=
    ⟨hcomponents, hstep⟩
  obtain ⟨from', place, hstart, hwalk, hcheck, _, rfl⟩ :=
    (findSlot_eq_ok_iff hends).1 ((find_eq_ok_iff hends).1 hfind).1
  have hplace := checkDirectory_eq_ok_iff.1 hcheck
  have hnone : Name.ofText dir ≠ [] := by
    intro hnone
    have hempty : dir = "" := Name.ofText_inj hnone
    rw [hempty] at hdir
    exact nomatch hdir
  rw [hrest] at hstart
  have hstart := start_of_append hnone hstart
  refine ⟨place, ?_, hplace, rfl⟩
  unfold find
  rw [hstart]
  rcases hfront with hfront | hfront
  · rw [hfront]
    exact hwalk
  · rw [hfront]
    exact walk_concat_nil hwalk hplace

end Disk

/-! ## Names of segments -/

namespace SegmentName

variable {n : SegmentName}

theorem toList_fileName (n : SegmentName) : n.fileName.toList =
    opening ++ n.dataset.id.toList ++ tail n.channel n.superstep := by
  rw [fileName, String.toList_ofList, fileNameChars, tail]
  simp only [List.append_assoc, List.cons_append]

theorem fileName_inj {m : SegmentName} (hm : m.dataset.id.isEmpty = false)
    (hn : n.dataset.id.isEmpty = false) (h : m.fileName = n.fileName) : m = n := by
  have hparse := parse?_fileName hm
  rw [h, parse?_fileName hn] at hparse
  exact (Option.some.inj hparse).symm

/-- Where the dataset has no slash in its name, a segment's file has none either. -/
theorem separator_not_mem_fileName (h : '/' ∉ n.dataset.id.toList) :
    separator ∉ Name.ofText n.fileName := by
  have hname : n.fileName = String.ofList n.fileName.toList := String.ofList_toList.symm
  rw [hname]
  refine Name.separator_not_mem_ofText ?_
  rw [toList_fileName, List.mem_append, List.mem_append]
  rintro ((hopening | hdataset) | htail)
  · exact absurd hopening (by decide)
  · exact h hdataset
  · exact slash_not_mem_tail _ _ htail

theorem stepOf_fileName (h : '/' ∉ n.dataset.id.toList) :
    Disk.stepOf (Name.ofText n.fileName) = .enter (Name.ofText n.fileName) := by
  obtain ⟨front, last, hends⟩ := endsIn_path "" n.dataset
  obtain ⟨hcomponents, hstep⟩ := hends n.channel n.superstep
  -- a path of one component
  have hsingle : Name.components (Name.ofText (n.path "")) = [] ++ [Name.ofText n.fileName] :=
    Name.components_of_not_mem (separator_not_mem_fileName h)
  have hname := List.append_inj_right' (hsingle.symm.trans hcomponents) (Eq.refl 1)
  rw [(List.cons.inj hname).1]
  exact hstep

/-- **A segment lies in the directory that is given for it** if the name of its dataset has no
slash. -/
theorem find_path {d : Disk} {dir : String} {loc : Location} (hdir : dir.isEmpty = false)
    (hslash : '/' ∉ n.dataset.id.toList) (hfind : d.find (Name.ofText (n.path dir)) = .ok loc) :
    ∃ place, d.find (Name.ofText dir) = .ok place ∧ d.node? place = some .directory ∧
      loc = Disk.entry place (Name.ofText n.fileName) :=
  Disk.find_join hdir (separator_not_mem_fileName hslash) (stepOf_fileName hslash) hfind

/-! ## Orders of segments -/

/-- One segment stands before another: in an earlier superstep, or on a lower channel in the
same. -/
def Before (a b : SegmentName) : Prop :=
  a.superstep < b.superstep ∨ a.superstep = b.superstep ∧ a.channel.toNat < b.channel.toNat

theorem Before.ne {a b : SegmentName} (h : a.Before b) : a ≠ b := by
  rintro rfl
  rcases h with hstep | ⟨-, hchannel⟩
  · exact Nat.lt_irrefl _ hstep
  · exact Nat.lt_irrefl _ hchannel

theorem le_iff {a b : SegmentName} : a.le b = true ↔ a.superstep.toNat < b.superstep.toNat ∨
    a.superstep.toNat = b.superstep.toNat ∧ a.channel.toNat ≤ b.channel.toNat := by
  simp [le]

theorem le_trans (a b c : SegmentName) (h : a.le b = true) (h' : b.le c = true) :
    a.le c = true := by
  rw [le_iff] at *
  omega

theorem le_total (a b : SegmentName) : (a.le b || b.le a) = true := by
  rw [Bool.or_eq_true, le_iff, le_iff]
  omega

theorem before_of_le {a b : SegmentName} (hdataset : a.dataset = b.dataset) (h : a.le b = true)
    (hne : a ≠ b) : a.Before b := by
  rcases le_iff.1 h with hless | ⟨hsame, hle⟩
  · exact .inl hless
  · have hstep : a.superstep = b.superstep := Superstep.ext_toNat hsame
    refine .inr ⟨hstep, Nat.lt_of_le_of_ne hle fun hchannel => hne ?_⟩
    obtain ⟨dataset, channel, superstep⟩ := a
    obtain ⟨dataset', channel', superstep'⟩ := b
    obtain rfl : dataset = dataset' := hdataset
    obtain rfl : channel = channel' := ChannelId.ext_toNat hchannel
    obtain rfl : superstep = superstep' := hstep
    rfl

end SegmentName

/-! ## Listings -/

section Listings

variable {d : Disk} {dir : String} {dataset : Dataset} {place : Location} {name : Name}
  {node : Node} {info : SegmentInfo}

namespace SegmentInfo

/-- Only files are listed. -/
theorem exists_of_ofEntry? (h : ofEntry? d dir dataset name node = some info) :
    ∃ id, node = .file id := by
  unfold ofEntry? at h
  cases htext : name.text? with
  | none =>
    rw [htext] at h
    exact nomatch h
  | some file =>
    cases hparse : SegmentName.parse? file with
    | none => simp [htext, hparse] at h
    | some found =>
      cases node with
      | directory => simp [htext] at h
      | device => simp [htext] at h
      | file id => exact ⟨id, rfl⟩

/-- An entry is listed if it is a file whose name is read as a segment of the dataset. -/
theorem ofEntry?_eq_some_iff : ofEntry? d dir dataset name node = some info ↔
    ∃ file id, name = Name.ofText file ∧ node = .file id ∧
      SegmentName.parse? file = some info.name ∧ info.name.dataset = dataset ∧
      info = ⟨Path.join dir file, info.name, (d.content id).size⟩ := by
  constructor
  · intro h
    obtain ⟨id, rfl⟩ := exists_of_ofEntry? h
    unfold ofEntry? at h
    simp only [Option.bind_eq_bind, Option.bind_eq_some_iff] at h
    obtain ⟨file, htext, segment, hparse, h⟩ := h
    split at h
    · exact nomatch h
    · rename_i hdataset
      obtain rfl := Option.some.inj h
      exact ⟨file, id, Name.text?_eq_some_iff.1 htext, rfl, hparse, not_not.1 hdataset, rfl⟩
  · rintro ⟨file, id, rfl, rfl, hparse, hdataset, hinfo⟩
    unfold ofEntry?
    simp only [Option.bind_eq_bind, Name.text?_ofText, Option.bind_some, hparse, hdataset, ne_eq,
      not_true, if_false]
    exact congrArg some hinfo.symm

end SegmentInfo

/-- **The listing of any directory**: its files with names that are read as segments of the dataset,
by superstep and then by channel. Files that are read as one segment have different paths. -/
theorem listSegments_sorted (dataset : Dataset) (hfind : d.find (Name.ofText dir) = .ok place)
    (hplace : d.node? place = some .directory) :
    ∃ segments, listSegments d dir dataset = .ok segments ∧
      segments.Pairwise (fun a b =>
        a.name.Before b.name ∨ a.name = b.name ∧ a.path ≠ b.path) ∧
      ∀ info, info ∈ segments ↔ ∃ file id,
        d.node? (Disk.entry place (Name.ofText file)) = some (.file id) ∧
        SegmentName.parse? file = some info.name ∧ info.name.dataset = dataset ∧
        info = ⟨Path.join dir file, info.name, (d.content id).size⟩ := by
  let found := (d.entriesIn place).filterMap fun entry =>
    SegmentInfo.ofEntry? d dir dataset entry.1 entry.2
  have hmem (info : SegmentInfo) : info ∈ found ↔ ∃ file id,
      d.node? (Disk.entry place (Name.ofText file)) = some (.file id) ∧
      SegmentName.parse? file = some info.name ∧ info.name.dataset = dataset ∧
      info = ⟨Path.join dir file, info.name, (d.content id).size⟩ := by
    rw [List.mem_filterMap]
    constructor
    · rintro ⟨⟨name, node⟩, hentry, hinfo⟩
      obtain ⟨file, id, rfl, rfl, h⟩ := SegmentInfo.ofEntry?_eq_some_iff.1 hinfo
      exact ⟨file, id, Disk.mem_entriesIn.1 hentry, h⟩
    · rintro ⟨file, id, hnode, h⟩
      exact ⟨_, Disk.mem_entriesIn.2 hnode,
        SegmentInfo.ofEntry?_eq_some_iff.2 ⟨file, id, rfl, rfl, h⟩⟩
  have hpaths : found.Pairwise fun a b => a.path ≠ b.path := by
    rw [List.pairwise_filterMap]
    refine (d.nodup_entriesIn place).imp ?_
    rintro ⟨name, node⟩ ⟨name', node'⟩ hne info hinfo info' hinfo' hsame
    obtain ⟨file, id, rfl, -, -, -, hpath⟩ := SegmentInfo.ofEntry?_eq_some_iff.1 hinfo
    obtain ⟨file', id', rfl, -, -, -, hpath'⟩ := SegmentInfo.ofEntry?_eq_some_iff.1 hinfo'
    rw [hpath, hpath'] at hsame
    exact hne (congrArg Name.ofText (Path.join_inj hsame))
  let le (a b : SegmentInfo) : Bool := a.name.le b.name
  have hperm : (found.mergeSort le).Perm found := List.mergeSort_perm found le
  have hsorted : (found.mergeSort le).Pairwise fun a b => a.name.le b.name = true :=
    List.pairwise_mergeSort (fun a b c => SegmentName.le_trans a.name b.name c.name)
      (fun a b => SegmentName.le_total a.name b.name) found
  have hpaths : (found.mergeSort le).Pairwise fun a b => a.path ≠ b.path :=
    (hperm.pairwise_iff fun h => h.symm).2 hpaths
  refine ⟨found.mergeSort le, ?_, ?_, fun info => hperm.mem_iff.trans (hmem info)⟩
  · rw [listSegments, Disk.entries_of_find hfind hplace]
  · refine (hsorted.and hpaths).imp_of_mem fun {a b} ha hb h => ?_
    obtain ⟨_, _, _, _, ha, _⟩ := (hmem a).1 (hperm.mem_iff.1 ha)
    obtain ⟨_, _, _, _, hb, _⟩ := (hmem b).1 (hperm.mem_iff.1 hb)
    by_cases hname : a.name = b.name
    · exact .inr ⟨hname, h.2⟩
    · exact .inl (SegmentName.before_of_le (ha.trans hb.symm) h.1 hname)

/-- The name is that of no segment. -/
def Name.Foreign (name : Name) : Prop :=
  ∀ text, name.text? = some text → SegmentName.parse? text = none

/-- Every file in the directory is named after a segment of the dataset. -/
def Disk.Holds (d : Disk) (place : Location) (dataset : Dataset) : Prop :=
  ∀ name id, d.node? (Disk.entry place name) = some (.file id) →
    ∃ n : SegmentName, n.dataset = dataset ∧ name = Name.ofText n.fileName

/-- Every file in the directory is named after a segment, of whatever dataset, or after none. -/
def Disk.Legible (d : Disk) (place : Location) : Prop :=
  ∀ name id, d.node? (Disk.entry place name) = some (.file id) →
    (∃ n : SegmentName, n.dataset.id.isEmpty = false ∧ name = Name.ofText n.fileName) ∨
      name.Foreign

theorem Disk.Holds.legible (h : d.Holds place dataset) (hdataset : dataset.id.isEmpty = false) :
    d.Legible place := fun name id hnode => by
  obtain ⟨n, rfl, hname⟩ := h name id hnode
  exact .inl ⟨n, hdataset, hname⟩

/-- **The listing of a directory** in which every file is named after a segment or after none: all
segments of the dataset, each once and in their order. -/
theorem listSegments_eq_ok (hdataset : dataset.id.isEmpty = false)
    (hlegible : d.Legible place) (hfind : d.find (Name.ofText dir) = .ok place)
    (hplace : d.node? place = some .directory) :
    ∃ segments, listSegments d dir dataset = .ok segments ∧
      segments.Pairwise (fun a b => a.name.Before b.name) ∧
      ∀ info, info ∈ segments ↔ ∃ id, info.name.dataset = dataset ∧
        d.node? (Disk.entry place (Name.ofText info.name.fileName)) = some (.file id) ∧
        info = ⟨info.name.path dir, info.name, (d.content id).size⟩ := by
  obtain ⟨segments, hlist, hsorted, hmem⟩ := listSegments_sorted dataset hfind hplace
  have hmem (info : SegmentInfo) : info ∈ segments ↔ ∃ id, info.name.dataset = dataset ∧
      d.node? (Disk.entry place (Name.ofText info.name.fileName)) = some (.file id) ∧
      info = ⟨info.name.path dir, info.name, (d.content id).size⟩ := by
    rw [hmem]
    constructor
    · rintro ⟨file, id, hnode, hparse, hsame, hinfo⟩
      rcases hlegible _ id hnode with ⟨n, hn, hname⟩ | hforeign
      · obtain rfl := Name.ofText_inj hname
        obtain rfl := Option.some.inj ((SegmentName.parse?_fileName hn).symm.trans hparse)
        exact ⟨id, hsame, hnode, hinfo⟩
      · rw [hforeign file (Name.text?_ofText file)] at hparse
        exact nomatch hparse
    · rintro ⟨id, rfl, hnode, hinfo⟩
      exact ⟨_, id, hnode, SegmentName.parse?_fileName hdataset, rfl, hinfo⟩
  refine ⟨segments, hlist, hsorted.imp_of_mem fun {a b} ha hb h => ?_, hmem⟩
  rcases h with hbefore | ⟨hname, hpath⟩
  · exact hbefore
  · -- each segment has one path
    obtain ⟨_, _, _, ha⟩ := (hmem a).1 ha
    obtain ⟨_, _, _, hb⟩ := (hmem b).1 hb
    rw [congrArg SegmentInfo.path ha, congrArg SegmentInfo.path hb, hname] at hpath
    exact absurd rfl hpath

/-- **Names and listings of segments.** A name is read as a segment if it has the form of a segment's
name with spellings of the channel and the superstep, and it is the name of the segment's file
exactly if both are plain. A listing of a directory is in order; where files are listed for one
segment, at most one of them has the path of the segment. So a listing is in strict order if every
file in it has the path of its segment. -/
theorem segments_as_spelled (dataset : Dataset) (hfind : d.find (Name.ofText dir) = .ok place)
    (hplace : d.node? place = some .directory) :
    (∀ name n, SegmentName.parse? name = some n → ∃ index step,
      name = SegmentName.spelled n.dataset index step ∧
      Decimal.Spells index n.channel.toNat ∧ Decimal.Spells step n.superstep.toNat ∧
      (name = n.fileName ↔ Decimal.Plain index ∧ Decimal.Plain step)) ∧
    ∃ segments, listSegments d dir dataset = .ok segments ∧
      segments.Pairwise (fun a b =>
        a.name.Before b.name ∨ a.name = b.name ∧ a.path ≠ b.path) ∧
      ((∀ info ∈ segments, info.path = info.name.path dir) →
        segments.Pairwise fun a b => a.name.Before b.name) ∧
      ∀ info, info ∈ segments ↔ ∃ file id,
        d.node? (Disk.entry place (Name.ofText file)) = some (.file id) ∧
        SegmentName.parse? file = some info.name ∧ info.name.dataset = dataset ∧
        info = ⟨Path.join dir file, info.name, (d.content id).size⟩ := by
  refine ⟨fun name n h => ?_, ?_⟩
  · obtain ⟨-, index, step, rfl, hindex, hstep⟩ := SegmentName.parse?_eq_some_iff.1 h
    exact ⟨index, step, rfl, hindex, hstep, SegmentName.spelled_eq_fileName_iff hindex hstep⟩
  · obtain ⟨segments, hlist, hsorted, hmem⟩ := listSegments_sorted dataset hfind hplace
    refine ⟨segments, hlist, hsorted, fun hpaths => ?_, hmem⟩
    refine hsorted.imp_of_mem fun {a b} ha hb h => ?_
    rcases h with hbefore | ⟨hname, hpath⟩
    · exact hbefore
    · exact absurd (by rw [hpaths a ha, hpaths b hb, hname]) hpath

/-! A small case: beside a segment lies a file whose name is read as the same segment. -/

def doubledDisk : Disk :=
  (Disk.empty.layFile (Name.ofText "log/spindlelog_ranks_1_5.log") (pack [1])).layFile
    (Name.ofText "log/spindlelog_ranks_+1_05.log") (pack [1, 2])

def doubledName : SegmentName := ⟨⟨"ranks"⟩, ⟨1⟩, ⟨5⟩⟩

/-- A file of that disk, read as the segment. -/
def doubledInfo (file : String) (id : Nat) : SegmentInfo :=
  ⟨Path.join "log" file, doubledName, (doubledDisk.content id).size⟩

theorem find_doubled : doubledDisk.find (Name.ofText "log") = .ok [Name.ofText "log"] ∧
    doubledDisk.node? [Name.ofText "log"] = some .directory := by
  constructor <;> decide +kernel

theorem doubled_entry {file : String} {id : Nat}
    (hnode : doubledDisk.node? [Name.ofText "log", Name.ofText file] = some (.file id))
    (hparse : SegmentName.parse? file = some doubledName) :
    ∃ file' id', doubledDisk.node? (Disk.entry [Name.ofText "log"] (Name.ofText file')) =
        some (.file id') ∧ SegmentName.parse? file' = some (doubledInfo file id).name ∧
      (doubledInfo file id).name.dataset = ⟨"ranks"⟩ ∧
      doubledInfo file id = ⟨Path.join "log" file', (doubledInfo file id).name,
        (doubledDisk.content id').size⟩ :=
  ⟨file, id, hnode, hparse, rfl, rfl⟩

theorem segments_as_spelled_small :
    doubledDisk.find (Name.ofText "log") = .ok [Name.ofText "log"] ∧
    doubledDisk.node? [Name.ofText "log"] = some .directory ∧
    ∃ segments, listSegments doubledDisk "log" ⟨"ranks"⟩ = .ok segments ∧
      doubledInfo doubledName.fileName 0 ∈ segments ∧
      doubledInfo "spindlelog_ranks_+1_05.log" 1 ∈ segments := by
  obtain ⟨hfind, hplace⟩ := find_doubled
  obtain ⟨-, segments, hlist, -, -, hmem⟩ := segments_as_spelled ⟨"ranks"⟩ hfind hplace
  exact ⟨hfind, hplace, segments, hlist,
    (hmem _).2 (doubled_entry (by decide +kernel) (by decide +kernel)),
    (hmem _).2 (doubled_entry (by decide +kernel) (by decide +kernel))⟩

/-- **A segment that is listed twice**: the name with a plus sign and a zero is read as a segment
although the segment's file has another name, and with that file beside it no listing is in strict
order. -/
theorem segment_listed_twice :
    SegmentName.parse? "spindlelog_ranks_+1_05.log" = some doubledName ∧
    doubledName.fileName = "spindlelog_ranks_1_5.log" ∧
    ∀ segments, listSegments doubledDisk "log" ⟨"ranks"⟩ = .ok segments →
      ¬segments.Pairwise fun a b => a.name.Before b.name := by
  have hparse : SegmentName.parse? "spindlelog_ranks_+1_05.log" = some doubledName := by
    decide +kernel
  refine ⟨hparse, by decide +kernel, fun segments hlist hordered => ?_⟩
  obtain ⟨segments', hlist', -, hmem⟩ :=
    listSegments_sorted ⟨"ranks"⟩ find_doubled.1 find_doubled.2
  obtain rfl : segments' = segments := Except.ok.inj (hlist'.symm.trans hlist)
  have hplain : doubledInfo doubledName.fileName 0 ∈ segments' :=
    (hmem _).2 (doubled_entry (by decide +kernel) (by decide +kernel))
  have hsigned : doubledInfo "spindlelog_ranks_+1_05.log" 1 ∈ segments' :=
    (hmem _).2 (doubled_entry (by decide +kernel) hparse)
  have hdistinct : segments'.Pairwise fun a b => a.name ≠ b.name :=
    hordered.imp SegmentName.Before.ne
  have hpaths : (doubledInfo doubledName.fileName 0).path ≠
      (doubledInfo "spindlelog_ranks_+1_05.log" 1).path := by decide +kernel
  have : Std.Symm fun a b : SegmentInfo => a.name ≠ b.name := ⟨fun _ _ h => h.symm⟩
  exact hdistinct.forall hplain hsigned (fun hsame => hpaths (congrArg SegmentInfo.path hsame)) rfl

end Listings

end Fanout
