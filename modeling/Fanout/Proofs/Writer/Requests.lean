import Fanout.Proofs.Buffer.Requests
import Fanout.Proofs.Writer.Balance
import Fanout.Proofs.Writer.Calls

/-!
# Requests of a writer

How a request of a writer ends. Others take their turns before its first try and while it waits
(`Outlet.met`, `Outlet.awaited`); the request itself takes a buffer, or it leaves the outlet as the
others made it and only counts (`Outlet.stamped`).

* `Outlet.request_answer` — the four ways of a request.
* `Outlet.request_denied` — what a request that is denied found, and what it leaves.
-/

namespace Fanout

theorem Pool.recycleMany_waits (p : Pool) (waits n : Nat) :
    ({ p with waits := waits } : Pool).recycleMany n = { p.recycleMany n with waits := waits } := by
  induction n generalizing p with
  | zero => rfl
  | succ n ih => exact ih p.recycle

theorem Pool.take?_waits (p : Pool) (waits : Nat) :
    ({ p with waits := waits } : Pool).take? = p.take?.map ({ · with waits := waits }) := by
  unfold take?
  by_cases hfree : 0 < p.free
  · rw [if_pos hfree]
    exact if_pos hfree
  · rw [if_neg hfree]
    exact if_neg hfree

theorem Pool.tryRequest_waits (p : Pool) (waits : Nat) :
    ({ p with waits := waits } : Pool).tryRequest =
      (p.tryRequest.1, { p.tryRequest.2 with waits := waits }) := by
  unfold tryRequest
  rw [take?_waits]
  by_cases hdestroyed : p.destroyed = true
  · rw [if_pos hdestroyed, if_pos hdestroyed]
  · rw [if_neg hdestroyed, if_neg hdestroyed]
    cases p.take? <;> rfl

namespace Outlet

variable {o o' : Outlet}

/-! ## Counts that nobody reads -/

/-- The outlet with other counts of the requests and of the waits. -/
def stamped (o : Outlet) (requests waits : Nat) : Outlet :=
  { o with requests := requests, pool := { o.pool with waits := waits } }

theorem giveBack_stamped (o : Outlet) (requests waits n : Nat) :
    (o.stamped requests waits).giveBack n = (o.giveBack n).stamped requests waits := by
  unfold giveBack stamped
  dsimp only
  rw [Pool.recycleMany_waits]

/-- Others do the same whatever the counts are. -/
theorem turn_stamped (o : Outlet) (requests waits : Nat) (t : Turn) :
    (o.stamped requests waits).turn t = (o.turn t).stamped requests waits := by
  cases t with
  | receiveOne c | receive c | destroyPool => rfl
  | giveBack => exact giveBack_stamped o requests waits 1
  | borrow =>
    have htry := o.pool.tryRequest_waits waits
    unfold turn stamped
    dsimp only
    rw [htry]
    rcases o.pool.tryRequest with ⟨_ | _ | _, pool⟩ <;> rfl
  | disconnect c =>
    unfold turn stamped
    dsimp only
    rw [Pool.recycleMany_waits]
  | settle =>
    exact giveBack_stamped { o with
      lent := o.lent + o.partition.allQueuedBuffers
      partition := o.partition.receiveEverywhere } requests waits _

theorem turns_stamped (o : Outlet) (requests waits : Nat) (ts : List Turn) :
    (o.stamped requests waits).turns ts = (o.turns ts).stamped requests waits := by
  induction ts generalizing o with
  | nil => rfl
  | cons t ts ih =>
    show ((o.stamped requests waits).turn t).turns ts = _
    rw [turn_stamped, ih]
    rfl

theorem turns_append (o : Outlet) (ts later : List Turn) :
    o.turns (ts ++ later) = (o.turns ts).turns later := List.foldl_append

/-! ## The ways of a request -/

/-- All that others do around a request. -/
def around (o : Outlet) : List Turn :=
  o.surroundings.before o.requests ++ o.surroundings.during o.requests ++ [.settle]

/-- What a request meets at its first try. -/
def met (o : Outlet) : Outlet := o.turns (o.surroundings.before o.requests)

/-- What a request meets at its last try if it waits. -/
def awaited (o : Outlet) : Outlet :=
  (o.met.stamped (o.requests + 1) (o.met.pool.waits + 1)).await o.requests

/-- **The ways of a request.** -/
inductive Answer (o : Outlet) : Except WriterError Unit × Outlet → Prop where
  | gone : o.met.pool.destroyed = true →
    Answer o (.error .poolDestroyed, { o.met with requests := o.requests + 1 })
  | granted {pool : Pool} : o.met.pool.destroyed = false → 0 < o.met.pool.free →
    Answer o (.ok (), { o.met with pool := pool, requests := o.requests + 1 })
  | overflow {timeout : Duration} : o.met.pool.Exhausted → o.patience = .upTo timeout →
    Duration.deadline? o.now timeout = none → Answer o
      (.error .deadlineOverflow, o.met.stamped (o.requests + 1) (o.met.pool.waits + 1))
  | waited {r : Except RequestError Unit} {pool : Pool} : o.met.pool.Exhausted →
    Pool.CanWait o.patience o.now → o.awaited.pool.Ended o.patience (r, pool) →
    Answer o (r.mapError .ofRequest, { o.awaited with pool := pool })

theorem standing_turns (o : Outlet) (ts : List Turn) : (o.turns ts).standing = o.standing :=
  turns_keep (P := fun o' => o'.standing = o.standing)
    (fun o' t (_ : True) ho' => (o'.standing_turn t).trans ho') rfl fun _ _ => trivial

theorem standing_awaited (o : Outlet) : o.awaited.standing = o.standing := by
  have hmet : (o.met.stamped (o.requests + 1) (o.met.pool.waits + 1)).standing = o.standing :=
    o.standing_turns _
  exact await_keeps (P := fun o' => o'.standing = o.standing)
    (fun o' t (_ : True) ho' => (o'.standing_turn t).trans ho')
    (fun _ _ _ => ⟨fun _ _ => trivial, fun _ _ => trivial⟩) trivial hmet _

theorem request_answer (o : Outlet) : o.Answer o.request := by
  have hstanding : o.met.standing = o.standing := o.standing_turns _
  have hpatience : o.met.patience = o.patience := congrArg Standing.patience hstanding
  have hnow : o.met.now = o.now := congrArg Standing.now hstanding
  have hawaited : o.awaited.patience = o.patience :=
    congrArg Standing.patience o.standing_awaited
  have htried := o.met.pool.tryRequest_tried
  have hmet : o.turns (o.surroundings.before o.requests) = o.met := rfl
  unfold request
  dsimp only
  rw [hmet]
  generalize o.met.pool.tryRequest = out at htried ⊢
  cases htried with
  | gone hgone => exact .gone hgone
  | granted halive hfree => exact .granted halive hfree
  | exhausted hexhausted =>
    have hwaiting := o.met.pool.startWait_waiting o.met.patience o.met.now
    dsimp only
    generalize o.met.pool.startWait o.met.patience o.met.now = out at hwaiting ⊢
    cases hwaiting with
    | overflow htimeout hdeadline =>
      exact .overflow hexhausted (hpatience ▸ htimeout) (hnow ▸ hdeadline)
    | started hcan =>
      rw [hpatience, hnow] at hcan
      have hended := o.awaited.pool.endWait_ended o.awaited.patience
      dsimp only
      generalize hwaited : await _ o.requests = waited
      obtain rfl : o.awaited = waited := hwaited
      generalize o.awaited.pool.endWait o.awaited.patience = out at hended ⊢
      rw [hawaited] at hended
      obtain ⟨_ | _, pool⟩ := out
      · exact .waited hexhausted hcan hended
      · exact .waited hexhausted hcan hended

/-! ## Denials -/

/-- Why a request is denied a buffer by an outlet that others have left like this. -/
inductive Denies (o : Outlet) : WriterError → Prop where
  | gone : o.pool.destroyed = true → Denies o .poolDestroyed
  | timedOut {timeout : Duration} : o.patience = .upTo timeout → o.pool.Exhausted →
    Denies o (.bufferTimeout timeout)
  | overflow {timeout : Duration} : o.patience = .upTo timeout → o.pool.Exhausted →
    Duration.deadline? o.now timeout = none → Denies o .deadlineOverflow
  /-- Without a limit of patience a request goes on waiting while the lanes have all buffers. -/
  | starved : o.patience = .unlimited → o.pool.Exhausted →
    o.partition.allQueuedBuffers = 0 → o.lent = 0 → Denies o .starved

/-- What a request that waits meets is what others made of the outlet. Without a limit of patience,
no buffer is with them any more if none is free. -/
theorem awaited_eq (o : Outlet) : ∃ ts, ts <+: o.around ∧
    o.awaited = (o.turns ts).stamped (o.requests + 1) (o.met.pool.waits + 1) ∧
    (o.patience = .unlimited → o.awaited.pool.Exhausted →
      o.awaited.partition.allQueuedBuffers = 0 ∧ o.awaited.lent = 0) := by
  have hstanding : o.met.standing = o.standing := o.standing_turns _
  have hduring : (o.met.stamped (o.requests + 1) (o.met.pool.waits + 1)).turns
      (o.surroundings.during o.requests) =
      (o.turns (o.surroundings.before o.requests ++ o.surroundings.during o.requests)).stamped
        (o.requests + 1) (o.met.pool.waits + 1) := by
    rw [turns_stamped, turns_append]
    rfl
  have hunsettled : o.surroundings.before o.requests ++ o.surroundings.during o.requests <+:
      o.around := List.prefix_append _ _
  unfold awaited await
  dsimp only
  rw [show (o.met.stamped (o.requests + 1) (o.met.pool.waits + 1)).surroundings = o.surroundings
    from congrArg Standing.surroundings hstanding, hduring]
  generalize hturned : o.turns (o.surroundings.before o.requests ++
    o.surroundings.during o.requests) = turned
  have hpatience : (turned.stamped (o.requests + 1) (o.met.pool.waits + 1)).patience =
      o.patience := by
    rw [← hturned]
    exact congrArg Standing.patience (o.standing_turns _)
  rw [hpatience]
  cases o.patience with
  | upTo timeout => exact ⟨_, hunsettled, by rw [hturned], fun h => nomatch h⟩
  | unlimited =>
    dsimp only
    split
    · rename_i hfound
      refine ⟨_, hunsettled, by rw [hturned], fun _ hexhausted => ?_⟩
      rw [hexhausted.1, hexhausted.2] at hfound
      exact nomatch hfound
    · refine ⟨o.around, List.prefix_rfl, ?_, fun _ _ => ⟨?_, ?_⟩⟩
      · rw [around, turns_append, hturned]
        exact turn_stamped turned _ _ .settle
      · exact Partition.allQueuedBuffers_receiveEverywhere _
      · simp [settle, giveBack]

/-- **A request that is denied a buffer** leaves the outlet as others made it, but for what it
counts. -/
theorem request_denied {e : WriterError} (h : o.request.1 = .error e) :
    ∃ ts waits, ts <+: o.around ∧ o.request.2 = (o.turns ts).stamped (o.requests + 1) waits ∧
      (o.turns ts).Denies e := by
  have hbefore : o.surroundings.before o.requests <+: o.around := by
    rw [around, List.append_assoc]
    exact List.prefix_append _ _
  have hmet : o.met.standing = o.standing := o.standing_turns _
  have hanswer := o.request_answer
  generalize o.request = out at h hanswer
  cases hanswer with
  | gone hgone =>
    obtain rfl := Except.error.inj h
    exact ⟨_, o.met.pool.waits, hbefore, rfl, .gone hgone⟩
  | granted _ _ => exact nomatch h
  | overflow hexhausted htimeout hdeadline =>
    obtain rfl := Except.error.inj h
    have hpatience : o.met.patience = o.patience := congrArg Standing.patience hmet
    have hnow : o.met.now = o.now := congrArg Standing.now hmet
    exact ⟨_, _, hbefore, rfl,
      .overflow (hpatience.trans htimeout) hexhausted (hnow ▸ hdeadline)⟩
  | waited hexhausted hcan hended =>
    obtain ⟨ts, hts, hawaited, hreturned⟩ := o.awaited_eq
    have hpatience : (o.turns ts).patience = o.patience :=
      congrArg Standing.patience (o.standing_turns ts)
    refine ⟨ts, o.met.pool.waits + 1, hts, ?_, ?_⟩
    · cases hended with
      | granted _ _ => exact nomatch h
      | gone _ => exact hawaited
      | exhausted _ => exact hawaited
    · cases hended with
      | granted _ _ => exact nomatch h
      | gone hgone =>
        obtain rfl := Except.error.inj h
        rw [hawaited] at hgone
        exact .gone hgone
      | exhausted hfound =>
        have hempty := fun hunlimited => hreturned hunlimited hfound
        rw [hawaited] at hfound hempty
        obtain rfl := Except.error.inj h
        cases hkind : o.patience with
        | unlimited =>
          exact .starved (hpatience.trans hkind) hfound (hempty hkind).1 (hempty hkind).2
        | upTo timeout => exact .timedOut (hpatience.trans hkind) hfound

/-- **A request overflows the clock** exactly if it has to wait and its patience ends where no clock
goes. -/
theorem request_eq_overflow_iff (o : Outlet) :
    o.request.1 = .error .deadlineOverflow ↔
      o.met.pool.Exhausted ∧
        ∃ timeout, o.patience = .upTo timeout ∧ Duration.deadline? o.now timeout = none := by
  have hanswer := o.request_answer
  generalize o.request = out at hanswer
  cases hanswer with
  | gone hgone =>
    refine iff_of_false (fun h => nomatch h) fun h => ?_
    exact nomatch hgone.symm.trans h.1.1
  | granted _ hfree => exact iff_of_false (fun h => nomatch h) fun h => hfree.ne' h.1.2
  | overflow hexhausted htimeout hdeadline =>
    exact iff_of_true rfl ⟨hexhausted, _, htimeout, hdeadline⟩
  | waited hexhausted hcan hended =>
    refine iff_of_false (fun h => ?_) ?_
    · cases hended with
      | granted _ _ => exact nomatch h
      | gone _ => exact nomatch h
      | exhausted _ => cases hkind : o.patience <;> rw [hkind] at h <;> exact nomatch h
    · rintro ⟨-, timeout, htimeout, hdeadline⟩
      exact hcan timeout htimeout hdeadline

end Outlet

end Fanout
