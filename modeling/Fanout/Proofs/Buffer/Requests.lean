import Fanout.Buffer.Pool

/-!
# Requests for buffers

What a request comes to, try by try. A try finds the pool torn down, a buffer free, or the pool
exhausted, and changes the pool only where it takes a buffer (`Tried`). A request that waits has
started by being counted, which fails only where its end is no time of the clock, and ends with one
more try (`Ended`).
-/

namespace Fanout

namespace Duration

/-- No clock shows the end of a span that takes it beyond its limit. -/
theorem deadline?_eq_none_iff {now d : Duration} :
    deadline? now d = none ↔ clockLimit < (now.toNanoseconds + d.toNanoseconds) / perSecond := by
  unfold deadline? ofNanoseconds
  dsimp only
  split
  · rename_i hle
    exact iff_of_false (fun h => nomatch h) (Nat.not_lt.2 hle)
  · rename_i hlt
    exact iff_of_true rfl (Nat.lt_of_not_le hlt)

end Duration

namespace Pool

/-- The pool is in use, and no buffer is free. -/
def Exhausted (p : Pool) : Prop := p.destroyed = false ∧ p.free = 0

instance (p : Pool) : Decidable p.Exhausted :=
  inferInstanceAs (Decidable (p.destroyed = false ∧ p.free = 0))

/-- **What a try comes to.** -/
inductive Tried (p : Pool) : Except PoolError Bool × Pool → Prop where
  | gone : p.destroyed = true → Tried p (.error .destroyed, p)
  | granted : p.destroyed = false → 0 < p.free →
    Tried p (.ok true, p.lend)
  | exhausted : p.Exhausted → Tried p (.ok false, p)

theorem tryRequest_tried (p : Pool) : p.Tried p.tryRequest := by
  unfold tryRequest take?
  by_cases hdestroyed : p.destroyed = true
  · rw [if_pos hdestroyed]
    exact .gone hdestroyed
  · rw [if_neg hdestroyed]
    have halive := Bool.eq_false_iff.2 hdestroyed
    by_cases hfree : 0 < p.free
    · rw [if_pos hfree]
      exact .granted halive hfree
    · rw [if_neg hfree]
      exact .exhausted ⟨halive, Nat.eq_zero_of_not_pos hfree⟩

theorem tryRequest_of_free {p : Pool} (halive : p.destroyed = false) (hfree : 0 < p.free) :
    p.tryRequest = (.ok true, p.lend) := by
  have htried := p.tryRequest_tried
  generalize p.tryRequest = out at htried
  cases htried with
  | gone hgone => exact absurd (halive.symm.trans hgone) Bool.false_ne_true
  | granted _ _ => rfl
  | exhausted h => exact absurd h.2 (Nat.ne_of_gt hfree)

/-- Why a wait brought nothing although the pool is in use. -/
def vain : Patience → RequestError
  | .unlimited => .starved
  | .upTo timeout => .timedOut timeout

/-- **What the end of a wait comes to.** -/
inductive Ended (p : Pool) (patience : Patience) : Except RequestError Unit × Pool → Prop where
  | gone : p.destroyed = true → Ended p patience (.error .destroyed, p)
  | granted : p.destroyed = false → 0 < p.free →
    Ended p patience (.ok (), p.lend)
  | exhausted : p.Exhausted → Ended p patience (.error (vain patience), p)

theorem endWait_ended (p : Pool) (patience : Patience) : p.Ended patience (p.endWait patience) := by
  have htried := p.tryRequest_tried
  unfold endWait
  generalize p.tryRequest = out at htried
  cases htried with
  | gone h => exact .gone h
  | granted halive hfree => exact .granted halive hfree
  | exhausted h => cases patience <;> exact .exhausted h

/-- A request can wait unless the end of its wait lies beyond the clock. -/
def CanWait (patience : Patience) (now : Duration) : Prop :=
  ∀ timeout, patience = .upTo timeout → Duration.deadline? now timeout ≠ none

/-- **What the start of a wait comes to.** It is counted either way. -/
inductive Waiting (p : Pool) (patience : Patience) (now : Duration) :
    Except RequestError Unit × Pool → Prop where
  | started : CanWait patience now →
    Waiting p patience now (.ok (), { p with waits := p.waits + 1 })
  | overflow {timeout : Duration} : patience = .upTo timeout →
    Duration.deadline? now timeout = none →
    Waiting p patience now (.error .deadlineOverflow, { p with waits := p.waits + 1 })

theorem startWait_waiting (p : Pool) (patience : Patience) (now : Duration) :
    p.Waiting patience now (p.startWait patience now) := by
  fun_cases startWait p patience now with
  | case1 =>
    refine .started fun timeout h => ?_
    cases h
  | case2 _ timeout _ hdeadline =>
    refine .started fun timeout' htimeout hnone => ?_
    rw [← Patience.upTo.inj htimeout, hdeadline] at hnone
    cases hnone
  | case3 _ timeout hdeadline => exact .overflow rfl hdeadline

end Pool

end Fanout
