import Fanout.Segment.Name
import Mathlib.Data.List.Basic

/-!
# Spellings of segment names

The numbers in the name of a segment's file are read as people write numbers, so a name may be read
as a segment and yet not be the name of the segment's file: a plus sign or zeros may stand before
the digits. Nothing else may differ (`parse?_eq_some_iff`), and the name is that of the segment's
file exactly if both numbers are plain (`spelled_eq_fileName_iff`).
-/

namespace Fanout

/-! ## Spellings of numbers -/

namespace Decimal

variable {text : List Char} {n : Nat}

/-- The text spells the number: its digits after zeros, and a plus sign before all of them. -/
def Spells (text : List Char) (n : Nat) : Prop :=
  ∃ zeros, text = List.replicate zeros '0' ++ digits n ∨
    text = '+' :: (List.replicate zeros '0' ++ digits n)

/-- No plus sign stands before the number and no zero before its digits. -/
def Plain (text : List Char) : Prop :=
  text.head? ≠ some '+' ∧ (text.head? = some '0' → text = ['0'])

instance (text : List Char) : Decidable (Plain text) :=
  inferInstanceAs (Decidable (_ ∧ (_ → _)))

theorem digitChar_of_isDigit {c : Char} (h : c.isDigit = true) :
    c.toNat - '0'.toNat < 10 ∧ Nat.digitChar (c.toNat - '0'.toNat) = c := by
  have hzero : '0'.toNat = 48 := rfl
  have hnine : '9'.toNat = 57 := rfl
  rw [Char.isDigit_iff_toNat] at h
  have hlt : c.toNat - '0'.toNat < 10 := by omega
  refine ⟨hlt, Char.toNat_inj.1 ?_⟩
  rw [Nat.toNat_digitChar_of_lt_ten hlt]
  omega

/-- Digits that are read after a number other than zero are digits of the result. -/
theorem digits_ofDigitChars_of_pos (h : text.all Char.isDigit = true) {read : Nat}
    (hread : 0 < read) : digits (Nat.ofDigitChars 10 text read) = digits read ++ text := by
  induction text generalizing read with
  | nil => simp [Nat.ofDigitChars]
  | cons c rest ih =>
    rw [List.all_cons, Bool.and_eq_true] at h
    obtain ⟨hlt, hchar⟩ := digitChar_of_isDigit h.1
    have hstep : digits (10 * read + (c.toNat - '0'.toNat)) = digits read ++ [c] := by
      rw [digits, ← Nat.toDigits_append_toDigits (by decide) hread hlt,
        Nat.toDigits_of_lt_base hlt, hchar]
      rfl
    rw [Nat.ofDigitChars_cons, ih h.2 (by omega), hstep, List.append_assoc,
      List.singleton_append]

/-- A row of digits is the digits of its number after zeros. -/
theorem exists_zeros (h : text.all Char.isDigit = true) (hne : text ≠ []) :
    ∃ zeros, text = List.replicate zeros '0' ++ digits (Nat.ofDigitChars 10 text 0) := by
  induction text with
  | nil => exact absurd rfl hne
  | cons c rest ih =>
    rw [List.all_cons, Bool.and_eq_true] at h
    rw [Nat.ofDigitChars_cons, Nat.mul_zero, Nat.zero_add]
    by_cases hzero : c = '0'
    · subst hzero
      by_cases hrest : rest = []
      · subst hrest
        exact ⟨0, rfl⟩
      · obtain ⟨zeros, hzeros⟩ := ih h.2 hrest
        exact ⟨zeros + 1, congrArg (List.cons '0') hzeros⟩
    · obtain ⟨hlt, hchar⟩ := digitChar_of_isDigit h.1
      have hpos : 0 < c.toNat - '0'.toNat := by
        refine Nat.pos_of_ne_zero fun hnone => hzero ?_
        rw [← hchar, hnone]
        rfl
      refine ⟨0, ?_⟩
      rw [digits_ofDigitChars_of_pos h.2 hpos, digits, Nat.toDigits_of_lt_base hlt, hchar]
      rfl

theorem readDigits?_eq_some_iff :
    readDigits? text = some n ↔ ∃ zeros, text = List.replicate zeros '0' ++ digits n := by
  constructor
  · intro h
    unfold readDigits? at h
    split at h
    · exact nomatch h
    · rename_i hne
      split at h
      · rename_i hdigits
        obtain rfl := Option.some.inj h
        exact exists_zeros hdigits fun hnil => hne (List.isEmpty_iff.2 hnil)
      · exact nomatch h
  · rintro ⟨zeros, rfl⟩
    have hne : ¬(List.replicate zeros '0' ++ digits n).isEmpty = true := by
      rw [List.isEmpty_iff, List.append_eq_nil_iff]
      exact fun hnil => digits_ne_nil n hnil.2
    have hdigits : (List.replicate zeros '0' ++ digits n).all Char.isDigit = true := by
      rw [List.all_eq_true]
      intro c hc
      rcases List.mem_append.1 hc with hzero | hdigit
      · rw [List.eq_of_mem_replicate hzero]
        decide
      · exact isDigit_of_mem_digits hdigit
    rw [readDigits?, if_neg hne, if_pos hdigits, Nat.ofDigitChars_append,
      Nat.ofDigitChars_replicate_zero, Nat.mul_zero, digits,
      Nat.ofDigitChars_toDigits (by decide) (by decide)]

theorem dropPlus_eq_iff {rest : List Char} (hrest : rest.head? ≠ some '+') :
    dropPlus text = rest ↔ text = rest ∨ text = '+' :: rest := by
  constructor
  · intro h
    unfold dropPlus at h
    split at h
    · exact .inr (congrArg (List.cons '+') h)
    · exact .inl h
  · rintro (rfl | rfl)
    · unfold dropPlus
      split
      · exact absurd rfl hrest
      · rfl
    · rfl

theorem head?_digits (n zeros : Nat) : ∀ c,
    (List.replicate zeros '0' ++ digits n).head? = some c → c.isDigit = true := by
  intro c hc
  rcases List.mem_append.1 (List.mem_of_head? hc) with hzero | hdigit
  · rw [List.eq_of_mem_replicate hzero]
    decide
  · exact isDigit_of_mem_digits hdigit

/-- **What is read as a number**: exactly its spellings. -/
theorem read?_eq_some_iff {limit : Nat} : read? limit text = some n ↔ n < limit ∧ Spells text n := by
  have hplus (n zeros : Nat) : (List.replicate zeros '0' ++ digits n).head? ≠ some '+' := fun h =>
    absurd (head?_digits n zeros '+' h) (by decide)
  have hdigits : readDigits? (dropPlus text) = some n ↔ Spells text n := by
    rw [readDigits?_eq_some_iff]
    exact exists_congr fun zeros => dropPlus_eq_iff (hplus n zeros)
  rw [← hdigits]
  unfold read?
  cases readDigits? (dropPlus text) with
  | none => simp
  | some found =>
    by_cases hlt : found < limit
    · simp only [hlt, if_true, Option.some.injEq]
      exact ⟨fun h => ⟨h ▸ hlt, h⟩, And.right⟩
    · simp only [hlt, if_false, Option.some.injEq]
      exact ⟨nofun, fun ⟨h, hsame⟩ => absurd (hsame ▸ h) hlt⟩

theorem Spells.not_mem {c : Char} (h : Spells text n) (hdigit : c.isDigit = false)
    (hplus : c ≠ '+') : c ∉ text := by
  have hrow (zeros : Nat) : c ∉ List.replicate zeros '0' ++ digits n := by
    rw [List.mem_append]
    rintro (hzero | hmem)
    · rw [List.eq_of_mem_replicate hzero] at hdigit
      exact absurd hdigit (by decide)
    · rw [isDigit_of_mem_digits hmem] at hdigit
      exact nomatch hdigit
  obtain ⟨zeros, rfl | rfl⟩ := h
  · exact hrow zeros
  · exact List.not_mem_cons_of_ne_of_not_mem hplus (hrow zeros)

/-- The digits of a number are a plain spelling. -/
theorem plain_digits (n : Nat) : Plain (digits n) := by
  refine ⟨fun h => absurd (head?_digits n 0 '+' h) (by decide), fun hzero => ?_⟩
  obtain ⟨rest, hrest⟩ := List.head?_eq_some_iff.1 hzero
  by_cases hnil : rest = []
  · rw [hrest, hnil]
  · -- what follows the zero spells the same number, and so is no shorter
    have hdigits : rest.all Char.isDigit = true := List.all_eq_true.2 fun c hc =>
      isDigit_of_mem_digits (n := n) (hrest ▸ List.mem_cons_of_mem _ hc)
    have hvalue : Nat.ofDigitChars 10 rest 0 = n := by
      have hread := Nat.ofDigitChars_toDigits (b := 10) (n := n) (by decide) (by decide)
      rwa [← digits, hrest, Nat.ofDigitChars_cons] at hread
    obtain ⟨zeros, hzeros⟩ := exists_zeros hdigits hnil
    rw [hvalue, hrest] at hzeros
    have hlength := congrArg List.length hzeros
    rw [List.length_append, List.length_cons] at hlength
    omega

/-- A number has one plain spelling. -/
theorem Spells.plain_iff (h : Spells text n) : Plain text ↔ text = digits n := by
  refine ⟨fun hplain => ?_, fun heq => heq ▸ plain_digits n⟩
  obtain ⟨zeros, rfl | rfl⟩ := h
  · cases zeros with
    | zero => rfl
    | succ zeros =>
      have htail := (List.cons.inj (hplain.2 rfl)).2
      exact absurd (List.append_eq_nil_iff.1 htail).2 (digits_ne_nil n)
  · exact absurd rfl hplain.1

theorem spells_digits (n : Nat) : Spells (digits n) n := ⟨0, .inl rfl⟩

end Decimal

/-! ## Spellings of names -/

theorem not_mem_of_splitLast? {sep : Char} {text : List Char} (h : splitLast? sep text = none) :
    sep ∉ text := by
  induction text with
  | nil => exact List.not_mem_nil
  | cons c rest ih =>
    unfold splitLast? at h
    cases hrest : splitLast? sep rest with
    | some parts =>
      obtain ⟨front, back⟩ := parts
      rw [hrest] at h
      cases h
    | none =>
      rw [hrest] at h
      refine List.not_mem_cons_of_ne_of_not_mem (fun hsep => ?_) (ih hrest)
      dsimp only at h
      rw [if_pos hsep.symm] at h
      cases h

theorem splitLast?_eq_some_iff {sep : Char} {text before after : List Char} :
    splitLast? sep text = some (before, after) ↔ text = before ++ sep :: after ∧ sep ∉ after := by
  refine ⟨fun h => ?_, fun ⟨htext, hafter⟩ => htext ▸ splitLast?_append before hafter⟩
  induction text generalizing before with
  | nil => cases h
  | cons c rest ih =>
    unfold splitLast? at h
    cases hrest : splitLast? sep rest with
    | some parts =>
      rw [hrest] at h
      obtain ⟨rfl, rfl⟩ := Prod.mk.inj (Option.some.inj h)
      obtain ⟨rfl, hafter⟩ := ih hrest
      exact ⟨rfl, hafter⟩
    | none =>
      rw [hrest] at h
      dsimp only at h
      split at h
      · rename_i hsep
        obtain ⟨rfl, rfl⟩ := Prod.mk.inj (Option.some.inj h)
        exact ⟨congrArg (List.cons · rest) hsep, not_mem_of_splitLast? hrest⟩
      · cases h

namespace SegmentName

variable {n : SegmentName} {name : String}

/-- A name with the form of a segment's, whatever stands for the numbers. -/
def spelled (dataset : Dataset) (index step : List Char) : String :=
  String.ofList (opening ++ (dataset.id.toList ++ '_' :: (index ++ '_' :: step)) ++ ending)

theorem stem?_eq_some_iff {text stem : List Char} :
    stem? text = some stem ↔ text = opening ++ stem ++ ending := by
  unfold stem?
  constructor
  · intro h
    split at h
    · rename_i rest hrest
      rw [← List.isPrefixOf?_eq_some_iff_append_eq.1 hrest,
        ← List.isSuffixOf?_eq_some_iff_append_eq.1 h, List.append_assoc]
    · exact nomatch h
  · rintro rfl
    rw [List.append_assoc, List.isPrefixOf?_eq_some_iff_append_eq.2 rfl]
    exact List.isSuffixOf?_eq_some_iff_append_eq.2 rfl

theorem ofStem?_eq_some_iff {stem : List Char} : ofStem? stem = some n ↔
    n.dataset.id.isEmpty = false ∧ ∃ index step,
      stem = n.dataset.id.toList ++ '_' :: (index ++ '_' :: step) ∧
      Decimal.Spells index n.channel.toNat ∧ Decimal.Spells step n.superstep.toNat := by
  constructor
  · intro h
    unfold ofStem? at h
    simp only [Option.bind_eq_bind, Option.bind_eq_some_iff] at h
    obtain ⟨⟨front, step⟩, hlast, superstep, hstep, ⟨dataset, index⟩, hnext, channel, hindex, h⟩ := h
    obtain ⟨hstepLt, hstep⟩ := Decimal.read?_eq_some_iff.1 hstep
    obtain ⟨hindexLt, hindex⟩ := Decimal.read?_eq_some_iff.1 hindex
    obtain ⟨hstem, -⟩ := splitLast?_eq_some_iff.1 hlast
    have hfront : front = dataset ++ '_' :: index := (splitLast?_eq_some_iff.1 hnext).1
    split at h
    · exact nomatch h
    · rename_i hdataset
      obtain rfl := Option.some.inj h
      have hsuperstep : (⟨UInt32.ofNat superstep⟩ : Superstep).toNat = superstep :=
        UInt32.toNat_ofNat_of_lt' hstepLt
      refine ⟨?_, index, step, ?_, ?_, ?_⟩
      · rw [Bool.eq_false_iff]
        intro hempty
        have hnil := congrArg String.toList (String.isEmpty_iff.1 hempty)
        rw [String.toList_ofList] at hnil
        exact hdataset (List.isEmpty_iff.2 hnil)
      · rw [String.toList_ofList, hstem, hfront, List.append_assoc, List.cons_append]
      · rwa [ChannelId.toNat_ofNat_of_lt hindexLt]
      · rwa [hsuperstep]
  · rintro ⟨hdataset, index, step, rfl, hindex, hstep⟩
    have hlast := splitLast?_append (n.dataset.id.toList ++ '_' :: index)
      (hstep.not_mem (c := '_') (by decide) (by decide))
    have hnext := splitLast?_append n.dataset.id.toList
      (hindex.not_mem (c := '_') (by decide) (by decide))
    rw [List.append_assoc, List.cons_append] at hlast
    have hdataset : n.dataset.id.toList.isEmpty = false := by
      rw [Bool.eq_false_iff, ne_eq, List.isEmpty_iff, String.toList_eq_nil_iff]
      rintro hempty
      rw [hempty] at hdataset
      exact nomatch hdataset
    have hsuperstep : (⟨UInt32.ofNat n.superstep.toNat⟩ : Superstep) = n.superstep :=
      congrArg Superstep.mk UInt32.ofNat_toNat
    unfold ofStem?
    simp only [Option.bind_eq_bind, Option.bind_some, hlast, hnext,
      Decimal.read?_eq_some_iff.2 ⟨n.superstep.toNat_lt, hstep⟩,
      Decimal.read?_eq_some_iff.2 ⟨n.channel.toNat_lt, hindex⟩, hdataset, hsuperstep,
      Bool.false_eq_true, if_false, String.ofList_toList, ChannelId.ofNat_toNat]

/-- **A name that is read as a segment** has the form of a segment's name, and its numbers spell the
channel and the superstep. -/
theorem parse?_eq_some_iff : parse? name = some n ↔ n.dataset.id.isEmpty = false ∧
    ∃ index step, name = spelled n.dataset index step ∧
      Decimal.Spells index n.channel.toNat ∧ Decimal.Spells step n.superstep.toNat := by
  have hparse : parse? name = some n ↔
      ∃ stem, stem? name.toList = some stem ∧ ofStem? stem = some n := by
    unfold parse?
    cases stem? name.toList with
    | none => simp
    | some stem => simp
  rw [hparse]
  constructor
  · rintro ⟨stem, hstem, h⟩
    obtain ⟨hdataset, index, step, rfl, hindex, hstep⟩ := ofStem?_eq_some_iff.1 h
    refine ⟨hdataset, index, step, ?_, hindex, hstep⟩
    rw [spelled, ← stem?_eq_some_iff.1 hstem, String.ofList_toList]
  · rintro ⟨hdataset, index, step, rfl, hindex, hstep⟩
    exact ⟨_, stem?_eq_some_iff.2 String.toList_ofList,
      ofStem?_eq_some_iff.2 ⟨hdataset, index, step, rfl, hindex, hstep⟩⟩

/-- **The name is that of the segment's file** exactly if both numbers are plain. -/
theorem spelled_eq_fileName_iff {index step : List Char}
    (hindex : Decimal.Spells index n.channel.toNat) (hstep : Decimal.Spells step n.superstep.toNat) :
    spelled n.dataset index step = n.fileName ↔ Decimal.Plain index ∧ Decimal.Plain step := by
  rw [hindex.plain_iff, hstep.plain_iff]
  constructor
  · intro h
    have hstem := List.append_cancel_right (String.ofList_injective h)
    have hnumbers := (List.cons.inj (List.append_cancel_left (List.append_cancel_left hstem))).2
    -- neither number has an underscore, so both names are cut at the same one
    have hunderscore : '_' ∉ Decimal.digits n.superstep.toNat :=
      (Decimal.spells_digits _).not_mem (by decide) (by decide)
    have hcut := splitLast?_append index (hstep.not_mem (c := '_') (by decide) (by decide))
    rw [hnumbers, splitLast?_append _ hunderscore] at hcut
    obtain ⟨h1, h2⟩ := Prod.mk.inj (Option.some.inj hcut)
    exact ⟨h1.symm, h2.symm⟩
  · rintro ⟨rfl, rfl⟩
    rfl

/-- **The name of a segment's file** is read back, even if the name of the dataset has underscores
and digits at its end, since a file name is read from the right. -/
theorem parse?_fileName (h : n.dataset.id.isEmpty = false) : parse? n.fileName = some n :=
  parse?_eq_some_iff.2 ⟨h, _, _, rfl, Decimal.spells_digits _, Decimal.spells_digits _⟩

end SegmentName

end Fanout
