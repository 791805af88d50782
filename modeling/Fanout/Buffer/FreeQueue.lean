import Fanout.Buffer.Basic

/-!
# Free memory

The memory of the buffers that a pool has not lent, in a queue. Memory that was never lent is empty
and comes first. Memory that comes back is cleared and queues up at the end.
-/

namespace Fanout

/-- The free memory of a pool. -/
structure FreeQueue where
  /-- How much of it was never lent. -/
  unused : Nat
  /-- What came back, the latest first. -/
  returned : List ByteArray
  cleared : ∀ data ∈ returned, data = ByteArray.empty

namespace FreeQueue

def full (n : Nat) : FreeQueue := ⟨n, [], List.forall_mem_nil _⟩

def length (q : FreeQueue) : Nat := q.unused + q.returned.length

/-- All of it, in the order in which it is lent. -/
def toList (q : FreeQueue) : List ByteArray :=
  List.replicate q.unused ByteArray.empty ++ q.returned.reverse

/-- Clears the memory of a buffer and puts it at the end. -/
def push (q : FreeQueue) (b : Buffer) : FreeQueue where
  unused := q.unused
  returned := b.clear.bytes :: q.returned
  cleared := List.forall_mem_cons.2 ⟨rfl, q.cleared⟩

/-- What is lent next. -/
def first (q : FreeQueue) : ByteArray :=
  if 0 < q.unused then ByteArray.empty else q.returned.getLast?.getD ByteArray.empty

/-- What is there when the next is lent. -/
def rest (q : FreeQueue) : FreeQueue :=
  if 0 < q.unused then { q with unused := q.unused - 1 }
  else
    { q with
      returned := q.returned.dropLast
      cleared := fun data hdata => q.cleared data (List.dropLast_subset _ hdata) }

@[simp] theorem length_push (q : FreeQueue) (b : Buffer) : (q.push b).length = q.length + 1 := rfl

@[simp] theorem length_rest (q : FreeQueue) : q.rest.length = q.length - 1 := by
  unfold rest length
  split
  · show q.unused - 1 + q.returned.length = _
    omega
  · show q.unused + q.returned.dropLast.length = _
    rw [List.length_dropLast]
    omega

theorem length_toList (q : FreeQueue) : q.toList.length = q.length := by
  rw [toList, List.length_append, List.length_replicate, List.length_reverse, length]

/-- **What comes back queues up** behind all that is free. -/
theorem toList_push (q : FreeQueue) (b : Buffer) :
    (q.push b).toList = q.toList ++ [b.clear.bytes] := by
  unfold toList
  rw [push, List.reverse_cons, List.append_assoc]

/-- **What is lent** is the first of what is free. -/
theorem toList_eq (q : FreeQueue) (h : 0 < q.length) : q.toList = q.first :: q.rest.toList := by
  unfold first rest
  by_cases hunused : 0 < q.unused
  · rw [if_pos hunused, if_pos hunused]
    obtain ⟨n, hn⟩ := Nat.exists_eq_add_of_le' hunused
    unfold toList
    dsimp only
    rw [hn, List.replicate_succ, List.cons_append, Nat.add_sub_cancel]
  · rw [if_neg hunused, if_neg hunused]
    have hnone : q.unused = 0 := Nat.eq_zero_of_not_pos hunused
    unfold length at h
    have hsome : q.returned ≠ [] := by
      rintro hnil
      rw [hnil, hnone] at h
      exact Nat.lt_irrefl 0 h
    unfold toList
    dsimp only
    rw [hnone, List.getLast?_eq_some_getLast hsome, Option.getD_some]
    show q.returned.reverse = q.returned.getLast hsome :: q.returned.dropLast.reverse
    have hback := congrArg List.reverse (List.dropLast_concat_getLast hsome)
    rw [List.reverse_append, List.reverse_singleton, List.singleton_append] at hback
    exact hback.symm

theorem eq_empty (q : FreeQueue) : ∀ data ∈ q.toList, data = ByteArray.empty := by
  intro data hdata
  rcases List.mem_append.1 hdata with hunused | hreturned
  · exact List.eq_of_mem_replicate hunused
  · exact q.cleared data (List.mem_reverse.1 hreturned)

/-- **Free memory is empty.** -/
theorem toList_eq_replicate (q : FreeQueue) :
    q.toList = List.replicate q.length ByteArray.empty :=
  List.eq_replicate_iff.2 ⟨q.length_toList, q.eq_empty⟩

theorem first_eq (q : FreeQueue) : q.first = ByteArray.empty := by
  by_cases h : 0 < q.length
  · exact q.eq_empty q.first (q.toList_eq h ▸ List.mem_cons_self)
  · unfold length at h
    have hunused : ¬0 < q.unused := by omega
    have hreturned : q.returned = [] := List.eq_nil_of_length_eq_zero (by omega)
    rw [first, if_neg hunused, hreturned]
    rfl

end FreeQueue

end Fanout
