/-!
# Fault plans

A plan says which of the calls to come fail, and why. Transports and disks consult one before each
call, so that every pattern of failures can be described.
-/

namespace Fanout

/-- Which calls fail with which error, and how many calls there were so far. -/
structure FaultPlan (ε : Type) where
  calls : Nat
  /-- The error of the `k`-th call, counted from zero. -/
  fault : Nat → Option ε

namespace FaultPlan

variable {ε : Type}

def none : FaultPlan ε := ⟨0, fun _ => .none⟩

/-- Lets `skip` calls pass and fails the next `count` calls. -/
def window (skip count : Nat) (error : ε) : FaultPlan ε :=
  ⟨0, fun k => if skip ≤ k ∧ k < skip + count then some error else .none⟩

/-- Makes one call: its error, if it is to fail, and the plan for the calls after it. -/
def next (p : FaultPlan ε) : Option ε × FaultPlan ε :=
  (p.fault p.calls, { p with calls := p.calls + 1 })

end FaultPlan

end Fanout
