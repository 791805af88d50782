import Fanout.Superstep
import Mathlib.Data.List.DropRight
import Mathlib.Data.List.Induction

/-!
# Visits of a superstep

What a channel was sent is a list of entries, each for a superstep. A channel visits a superstep as
long as its entries are for that one, and the last visit is what a segment keeps: a channel that
turns to a superstep starts its segment anew. A channel that does not return to a superstep visits
it once.
-/

namespace Fanout

variable {α : Type} {s t : Superstep} {xs : List (Superstep × α)} {a : α}

/-- The entries of the last visit of a superstep. -/
def lastVisit (s : Superstep) (xs : List (Superstep × α)) : List α :=
  ((xs.rdropWhile fun x => x.1 ≠ s).rtakeWhile fun x => x.1 = s).map Prod.snd

/-- The superstep of the last entry. -/
def lastStep (xs : List (Superstep × α)) : Option Superstep := xs.getLast?.map Prod.fst

theorem lastStep_concat (xs : List (Superstep × α)) (s : Superstep) (a : α) :
    lastStep (xs ++ [(s, a)]) = some s := by
  rw [lastStep, List.getLast?_concat]
  rfl

/-- An entry of another superstep leaves the last visit as it was. -/
theorem lastVisit_concat_of_ne (h : t ≠ s) (xs : List (Superstep × α)) (a : α) :
    lastVisit s (xs ++ [(t, a)]) = lastVisit s xs := by
  rw [lastVisit, List.rdropWhile_concat_pos _ _ _ (by simpa using h), lastVisit]

theorem lastVisit_concat_self (xs : List (Superstep × α)) (s : Superstep) (a : α) :
    lastVisit s (xs ++ [(s, a)]) =
      (xs.rtakeWhile fun x => x.1 = s).map Prod.snd ++ [a] := by
  rw [lastVisit, List.rdropWhile_concat_neg _ _ _ (by simp),
    List.rtakeWhile_concat_pos _ _ _ (by simp), List.map_append]
  rfl

/-- An entry of the same superstep as the last one goes on with the visit. -/
theorem lastVisit_concat_of_lastStep_eq (h : lastStep xs = some s) (a : α) :
    lastVisit s (xs ++ [(s, a)]) = lastVisit s xs ++ [a] := by
  induction xs using List.reverseRecOn with
  | nil => exact nomatch h
  | append_singleton xs x _ =>
    rw [lastStep, List.getLast?_concat] at h
    have hx : x.1 = s := Option.some.inj h
    rw [lastVisit_concat_self, lastVisit, List.rdropWhile_concat_neg _ _ _ (by simpa using hx)]

/-- An entry of another superstep than the last one starts a visit. -/
theorem lastVisit_concat_of_lastStep_ne (h : lastStep xs ≠ some s) (a : α) :
    lastVisit s (xs ++ [(s, a)]) = [a] := by
  induction xs using List.reverseRecOn with
  | nil => rw [lastVisit_concat_self, List.rtakeWhile_nil, List.map_nil, List.nil_append]
  | append_singleton xs x _ =>
    rw [lastStep, List.getLast?_concat] at h
    have hx : x.1 ≠ s := fun heq => h (congrArg some heq)
    rw [lastVisit_concat_self, List.rtakeWhile_concat_neg _ _ _ (by simpa using hx), List.map_nil,
      List.nil_append]

/-- Once entries moved on from a superstep, none of them is for it again. -/
def NotRevisited (s : Superstep) (xs : List (Superstep × α)) : Prop :=
  ∀ t, [s, t, s].Sublist (xs.map Prod.fst) → t = s

theorem NotRevisited.sublist {ys : List (Superstep × α)} (h : NotRevisited s ys)
    (hsublist : xs.Sublist ys) : NotRevisited s xs :=
  fun t ht => h t (ht.trans (hsublist.map Prod.fst))

/-- Entries in the order of their supersteps do not return to one. -/
theorem notRevisited_of_pairwise (h : (xs.map Prod.fst).Pairwise (· ≤ ·)) (s : Superstep) :
    NotRevisited s xs := by
  intro t hsublist
  have hpairwise := h.sublist hsublist
  have hfirst : s ≤ t := List.rel_of_pairwise_cons hpairwise List.mem_cons_self
  have hlast : t ≤ s :=
    List.rel_of_pairwise_cons (List.pairwise_cons.1 hpairwise).2 List.mem_cons_self
  exact Superstep.ext_toNat (Nat.le_antisymm hlast hfirst)

theorem lastStep_eq_of_notRevisited {x : Superstep × α} (hx : x ∈ xs)
    (h : NotRevisited x.1 (xs ++ [(x.1, a)])) : lastStep xs = some x.1 := by
  obtain rfl | ⟨ys, last, rfl⟩ := List.eq_nil_or_concat' xs
  · exact absurd hx List.not_mem_nil
  · rw [lastStep, List.getLast?_concat]
    rcases List.mem_append.1 hx with hx | hx
    · -- the last entry stands between the earlier one and the new one
      have hfirst : [x.1].Sublist (ys.map Prod.fst) :=
        List.singleton_sublist.2 (List.mem_map_of_mem hx)
      have hbetween : [x.1, last.1, x.1].Sublist (((ys ++ [last]) ++ [(x.1, a)]).map Prod.fst) := by
        simpa using hfirst.append (List.Sublist.refl [last.1, x.1])
      exact congrArg some (h last.1 hbetween)
    · rw [List.mem_singleton.1 hx]
      rfl

/-- **A superstep that is not returned to** is visited once, so that no entry is missing. -/
theorem lastVisit_eq_filter (h : NotRevisited s xs) :
    lastVisit s xs = (xs.filter fun x => x.1 = s).map Prod.snd := by
  induction xs using List.reverseRecOn with
  | nil => rfl
  | append_singleton xs x ih =>
    obtain ⟨t, a⟩ := x
    have hbefore : NotRevisited s xs := fun t' ht' =>
      h t' (ht'.trans ((List.sublist_append_left xs _).map _))
    by_cases ht : t = s
    · subst ht
      rw [List.filter_append, List.map_append, ← ih hbefore]
      by_cases hlast : lastStep xs = some t
      · rw [lastVisit_concat_of_lastStep_eq hlast]
        simp
      · rw [lastVisit_concat_of_lastStep_ne hlast, ih hbefore]
        -- an earlier entry of the superstep would have been moved on from
        have hnone : (xs.filter fun x => x.1 = t) = [] := by
          refine List.filter_eq_nil_iff.2 fun x hx heq => hlast ?_
          obtain rfl : x.1 = t := of_decide_eq_true heq
          exact lastStep_eq_of_notRevisited hx h
        rw [hnone]
        simp
    · rw [lastVisit_concat_of_ne ht, ih hbefore]
      simp [ht]

end Fanout
