import Fanout.Proofs.Disk.Files
import Fanout.Segment.Name
import Mathlib.Tactic.SplitIfs

/-!
# Paths of segments

The segments of one producer lie side by side: their paths differ in the end of the last component
only, where channel and superstep stand, and they differ there.

* `SegmentName.endsIn_path`, `SegmentName.tail_inj` — one directory, and a name for each segment.
-/

namespace Fanout

open Disk (EndsIn)

namespace Name

/-- Bytes without a separator belong to the last component before them. -/
theorem components_append_of_not_mem (bytes : List UInt8) : ∃ front last,
    ∀ tail, separator ∉ tail → components (bytes ++ tail) = front ++ [last ++ tail] := by
  induction bytes with
  | nil => exact ⟨[], [], fun tail htail => components_of_not_mem htail⟩
  | cons b rest ih =>
    obtain ⟨front, last, hrest⟩ := ih
    by_cases hb : b = separator
    · refine ⟨[] :: front, last, fun tail htail => ?_⟩
      rw [List.cons_append, components, if_pos hb, hrest tail htail]
      rfl
    · cases front with
      | nil =>
        refine ⟨[], b :: last, fun tail htail => ?_⟩
        rw [List.cons_append, components, if_neg hb, hrest tail htail]
        rfl
      | cons first front =>
        refine ⟨(b :: first) :: front, last, fun tail htail => ?_⟩
        rw [List.cons_append, components, if_neg hb, hrest tail htail]
        rfl

theorem ofText_append (a b : String) : ofText (a ++ b) = ofText a ++ ofText b := by
  rw [ofText, String.toUTF8, String.toByteArray_append, octets_append]
  rfl

theorem ofText_inj {a b : String} (h : ofText a = ofText b) : a = b := by
  rw [← String.toByteArray_inj]
  have hpack := congrArg pack h
  rwa [ofText, ofText, pack_octets, pack_octets] at hpack

/-- Only a slash is written with the byte of a separator. -/
theorem separator_not_mem_ofText {text : List Char} (h : '/' ∉ text) :
    separator ∉ ofText (String.ofList text) := by
  have hbytes : ofText (String.ofList text) = text.flatMap String.utf8EncodeChar := by
    rw [ofText, String.toUTF8, String.toByteArray_ofList, List.utf8Encode, octets,
      List.data_toByteArray]
  rw [hbytes, List.mem_flatMap]
  rintro ⟨c, hc, hmem⟩
  have hslash : c.val.toNat ≠ 47 := by
    intro heq
    have : c = '/' := Char.ext (UInt32.toNat_inj.1 heq)
    exact h (this ▸ hc)
  have hne {n : Nat} (hn : n < 256) (h47 : n ≠ 47) : separator ≠ UInt8.ofNat n := by
    intro heq
    have hnat := congrArg UInt8.toNat heq
    rw [UInt8.toNat_ofNat', Nat.mod_eq_of_lt hn] at hnat
    exact h47 hnat.symm
  unfold String.utf8EncodeChar at hmem
  dsimp only at hmem
  split_ifs at hmem with h1 h2 h3 <;>
    simp only [List.mem_cons, List.not_mem_nil, or_false] at hmem
  · exact hne (by omega) hslash hmem
  · rcases hmem with hmem | hmem
    · exact hne (by omega) (by omega) hmem
    · exact hne (by omega) (by omega) hmem
  · rcases hmem with hmem | hmem | hmem
    · exact hne (by omega) (by omega) hmem
    · exact hne (by omega) (by omega) hmem
    · exact hne (by omega) (by omega) hmem
  · rcases hmem with hmem | hmem | hmem | hmem
    · exact hne (by omega) (by omega) hmem
    · exact hne (by omega) (by omega) hmem
    · exact hne (by omega) (by omega) hmem
    · exact hne (by omega) (by omega) hmem

end Name

namespace Path

/-- Characters that are no slashes belong to the last part before them. -/
theorem parts_append_of_not_mem (text : List Char) : ∃ front last,
    ∀ tail, '/' ∉ tail → parts (text ++ tail) = front ++ [last ++ tail] := by
  induction text with
  | nil =>
    refine ⟨[], [], ?_⟩
    intro tail htail
    rw [List.nil_append, List.nil_append]
    induction tail with
    | nil => rfl
    | cons first rest ih =>
      have hfirst : first ≠ '/' := fun heq => htail (heq ▸ List.mem_cons_self)
      rw [parts, if_neg hfirst, ih fun hmem => htail (List.mem_cons_of_mem _ hmem)]
  | cons first rest ih =>
    obtain ⟨front, last, hrest⟩ := ih
    by_cases hslash : first = '/'
    · refine ⟨[] :: front, last, ?_⟩
      intro tail htail
      rw [List.cons_append, parts, if_pos hslash, hrest tail htail]
      rfl
    · cases front with
      | nil =>
        refine ⟨[], first :: last, ?_⟩
        intro tail htail
        rw [List.cons_append, parts, if_neg hslash, hrest tail htail]
        rfl
      | cons part front =>
        refine ⟨(first :: part) :: front, last, ?_⟩
        intro tail htail
        rw [List.cons_append, parts, if_neg hslash, hrest tail htail]
        rfl

/-- A last part that does not stay where it is is not trimmed. -/
theorem trimEnd_concat {part : List Char} (h : isIdle part = false) (front : List (List Char)) :
    trimEnd (front ++ [part]) = front ++ [part] := by
  cases front with
  | nil => rfl
  | cons first front =>
    rw [List.cons_append, trimEnd, List.reverse_append, List.reverse_singleton,
      List.singleton_append, List.dropWhile_cons_of_neg (by simp [h]), List.reverse_cons,
      List.reverse_reverse]

end Path

namespace SegmentName

/-- The end of a segment's path, from its channel on. -/
def tail (c : ChannelId) (s : Superstep) : List Char :=
  '_' :: (Decimal.digits c.toNat ++ '_' :: Decimal.digits s.toNat) ++ ending

/-- What the paths of all segments of a producer begin with. -/
def stem (dir : String) (dataset : Dataset) : String :=
  Path.join dir (String.ofList (opening ++ dataset.id.toList))

theorem path_eq (dir : String) (dataset : Dataset) (c : ChannelId) (s : Superstep) :
    path ⟨dataset, c, s⟩ dir = stem dir dataset ++ String.ofList (tail c s) := by
  have hname : fileName ⟨dataset, c, s⟩ =
      String.ofList (opening ++ dataset.id.toList) ++ String.ofList (tail c s) := by
    rw [← String.ofList_append, fileName]
    congr 1
    simp [fileNameChars, tail]
  unfold path stem Path.join
  rw [hname]
  split
  · rfl
  · split
    · rw [String.append_assoc]
    · rw [String.append_assoc, String.append_assoc, String.append_assoc]

theorem slash_not_mem_tail (c : ChannelId) (s : Superstep) : '/' ∉ tail c s := by
  have hdigits (n : Nat) : '/' ∉ Decimal.digits n := fun h =>
    absurd (Decimal.isDigit_of_mem_digits h) (by decide)
  simp only [tail, List.mem_append, List.mem_cons, not_or]
  exact ⟨⟨by decide, hdigits _, by decide, hdigits _⟩, by decide⟩

/-- Channel and superstep can be read off the end of a path. -/
theorem tail_inj {c c' : ChannelId} {s s' : Superstep} (h : tail c s = tail c' s') :
    c = c' ∧ s = s' := by
  have hdigits (n : Nat) : '_' ∉ Decimal.digits n := fun h =>
    absurd (Decimal.isDigit_of_mem_digits h) (by decide)
  have hinj {limit n n' : Nat} (hn : n < limit) (hn' : n' < limit)
      (h : Decimal.digits n = Decimal.digits n') : n = n' := by
    have hread := Decimal.read?_digits hn
    rw [h, Decimal.read?_digits hn'] at hread
    exact (Option.some.inj hread).symm
  have hfront := (List.cons.inj (List.append_cancel_right h)).2
  have hsplit := splitLast?_append (Decimal.digits c.toNat) (hdigits s.toNat)
  rw [hfront, splitLast?_append _ (hdigits s'.toNat)] at hsplit
  obtain ⟨hc, hs⟩ := Prod.mk.inj (Option.some.inj hsplit)
  exact ⟨ChannelId.ext_toNat (hinj c.toNat_lt c'.toNat_lt hc.symm),
    Superstep.ext_toNat (hinj s.toNat_lt s'.toNat_lt hs.symm)⟩

/-- **The paths of a producer's segments** end in names that differ, in one directory. -/
theorem endsIn_path (dir : String) (dataset : Dataset) : ∃ front last,
    ∀ c s, EndsIn (Name.ofText (path ⟨dataset, c, s⟩ dir)) front
      (last ++ Name.ofText (String.ofList (tail c s))) := by
  obtain ⟨front, last, hcomponents⟩ :=
    Name.components_append_of_not_mem (Name.ofText (stem dir dataset))
  refine ⟨front, last, fun c s => ⟨?_, ?_⟩⟩
  · rw [path_eq, Name.ofText_append]
    exact hcomponents _ (Name.separator_not_mem_ofText (slash_not_mem_tail c s))
  · -- such a name is longer than the dots that stand for a directory
    have hending : (Name.ofText (String.ofList ending)).length = 4 := by decide +kernel
    have hlength : 4 ≤ (last ++ Name.ofText (String.ofList (tail c s))).length := by
      rw [tail, String.ofList_append, Name.ofText_append, List.length_append, List.length_append,
        hending]
      omega
    unfold Disk.stepOf
    rw [if_neg, if_neg]
    · intro hdots
      rw [hdots] at hlength
      exact absurd hlength (by decide)
    · rintro (hnone | hdot)
      · rw [hnone] at hlength
        exact absurd hlength (by decide)
      · rw [hdot] at hlength
        exact absurd hlength (by decide)

/-- All segments of a producer lie in one directory. -/
theorem parent?_path (dir : String) (dataset : Dataset) : ∃ parent,
    ∀ c s, Path.parent? (path ⟨dataset, c, s⟩ dir) = parent := by
  obtain ⟨front, last, hparts⟩ := Path.parts_append_of_not_mem (stem dir dataset).toList
  have htrim (c : ChannelId) (s : Superstep) :
      Path.trimEnd (Path.parts (path ⟨dataset, c, s⟩ dir).toList) =
        front ++ [last ++ tail c s] := by
    rw [path_eq, String.toList_append, String.toList_ofList, hparts _ (slash_not_mem_tail c s)]
    refine Path.trimEnd_concat ?_ front
    have hlength : 4 ≤ (last ++ tail c s).length := by
      rw [tail, List.length_append, List.length_append]
      show 4 ≤ _ + (_ + 4)
      omega
    rw [Path.isIdle, Bool.or_eq_false_iff]
    constructor
    · rw [List.isEmpty_eq_false_iff_exists_mem]
      exact List.exists_mem_of_length_pos (by omega)
    · refine decide_eq_false ?_
      intro hdot
      rw [hdot] at hlength
      exact absurd hlength (by decide)
  cases front with
  | nil =>
    refine ⟨some "", ?_⟩
    intro c s
    have hempty : (last ++ tail c s).isEmpty = false := by
      rw [tail, List.isEmpty_eq_false_iff_exists_mem]
      exact ⟨'_', by simp⟩
    rw [Path.parent?, htrim]
    simp only [List.nil_append, hempty]
    rfl
  | cons first front =>
    refine ⟨some (Path.ofParts (Path.trimEnd (first :: front))), ?_⟩
    intro c s
    rw [Path.parent?, htrim]
    have hlast : (first :: front ++ [last ++ tail c s]).dropLast = first :: front :=
      List.dropLast_concat
    cases front with
    | nil => rfl
    | cons second front =>
      simp only [List.cons_append] at hlast ⊢
      rw [hlast]

/-- The names that the paths of two segments end in differ. -/
theorem name_ne {last : Name} {c c' : ChannelId} {s s' : Superstep} (h : ¬(c = c' ∧ s = s')) :
    last ++ Name.ofText (String.ofList (tail c s)) ≠
      last ++ Name.ofText (String.ofList (tail c' s')) := by
  intro heq
  have htail := Name.ofText_inj (List.append_cancel_left heq)
  exact h (tail_inj (String.ofList_injective htail))

end SegmentName

end Fanout
