/-!
# Supersteps

A superstep is one round of an iterative job. Records emitted outside any iteration carry no
superstep, which sorts before every round.
-/

namespace Fanout

/-- A round of an iterative job, counted from zero. -/
structure Superstep where
  round : UInt32
  deriving DecidableEq, Hashable

namespace Superstep

def first : Superstep := ⟨0⟩

def toNat (s : Superstep) : Nat := s.round.toNat

/-- The following round; the last representable round follows itself. -/
def next (s : Superstep) : Superstep :=
  if s.round = UInt32.ofNat (UInt32.size - 1) then s else ⟨s.round + 1⟩

instance : LE Superstep := ⟨fun a b => a.toNat ≤ b.toNat⟩
instance : LT Superstep := ⟨fun a b => a.toNat < b.toNat⟩
instance (a b : Superstep) : Decidable (a ≤ b) := inferInstanceAs (Decidable (a.toNat ≤ b.toNat))
instance (a b : Superstep) : Decidable (a < b) := inferInstanceAs (Decidable (a.toNat < b.toNat))

/-- A superstep is written as its number. -/
instance : ToString Superstep := ⟨fun s => toString s.toNat⟩

theorem toNat_lt (s : Superstep) : s.toNat < UInt32.size := s.round.toNat_lt

@[ext] theorem ext_toNat {a b : Superstep} (h : a.toNat = b.toNat) : a = b := by
  cases a; cases b
  simp only [toNat, UInt32.toNat_inj] at h
  rw [h]

/-- The order of optional supersteps: no superstep comes first. -/
def compareOptional : Option Superstep → Option Superstep → Ordering
  | none, none => .eq
  | none, some _ => .lt
  | some _, none => .gt
  | some a, some b => compare a.toNat b.toNat

end Superstep

end Fanout
