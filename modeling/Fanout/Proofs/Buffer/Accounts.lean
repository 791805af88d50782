import Fanout.Buffer.Pool

/-!
# The accounts of a pool

A pool does not know where its buffers are; it counts. Its accounts are in order for a number of
leased buffers (`Accounts`) if what it handed out and what came back differ by that number, and if
what is free makes up the rest of the pool. Each operation of a pool keeps the accounts in order for
the number of leases that it leaves.

* `Accounts.tryRequest`, `Accounts.recycle`, `Accounts.destroy` — one lease more, one less, and the
  end of the free buffers.
-/

namespace Fanout

namespace Pool

/-- **The accounts of a pool** of `capacity` buffers of which `leased` are leased. Until the pool is
torn down every other buffer is free, and then none is. What is known about whether the pool is torn
down, its `fate`, stays true: `some true` of a pool that was, `some false` of one that nobody tears
down. -/
structure Accounts (p : Pool) (capacity : Nat) (fate : Option Bool) (leased : Nat) : Prop where
  capacity_eq : p.capacity = capacity
  requested_eq : p.requested = p.recycled + leased
  free_of_alive : p.destroyed = false → p.free + leased = capacity
  free_of_destroyed : p.destroyed = true → p.free = 0
  destroyed_eq {b : Bool} : fate = some b → p.destroyed = b

theorem recycleMany_add (p : Pool) (m n : Nat) :
    p.recycleMany (m + n) = (p.recycleMany m).recycleMany n := by
  induction m generalizing p with
  | zero => rw [Nat.zero_add, recycleMany]
  | succ m ih => rw [Nat.succ_add, recycleMany, ih, recycleMany]

/-- How many buffers a try leases, by its result. -/
def leasedBy : Except PoolError Bool → Nat
  | .ok true => 1
  | _ => 0

/-- How many buffers a request leases, by its result. -/
def granted {ε : Type} : Except ε Unit → Nat
  | .ok _ => 1
  | .error _ => 0

/-- A new pool has leased nothing and is not torn down. -/
theorem accounts_make {buffers size : Nat} {p : Pool} (h : make buffers size = .ok p)
    {fate : Option Bool} (hfate : fate ≠ some true) : p.Accounts buffers fate 0 := by
  unfold make at h
  split at h
  · rw [← Except.ok.inj h]
    refine ⟨rfl, rfl, fun _ => rfl, fun hgone => absurd hgone Bool.false_ne_true, fun {b} hb => ?_⟩
    cases b with
    | true => exact absurd hb hfate
    | false => rfl
  · cases h

/-- A wait is counted, whether or not the clock can show its end. -/
theorem startWait_snd (p : Pool) (patience : Patience) (now : Duration) :
    (p.startWait patience now).2 = { p with waits := p.waits + 1 } := by
  fun_cases Pool.startWait p patience now <;> rfl

/-- A pool that is not torn down never fails a try, and grants it if a buffer is free. -/
theorem tryRequest_of_alive {p : Pool} (h : p.destroyed = false) :
    p.tryRequest.1 = .ok (decide (0 < p.free)) := by
  unfold tryRequest take?
  rw [h]
  by_cases hfree : 0 < p.free
  · rw [decide_eq_true hfree, if_pos hfree]
    rfl
  · rw [decide_eq_false hfree, if_neg hfree]
    rfl

theorem endWait_of_free {p : Pool} (h : p.destroyed = false) (hfree : 0 < p.free)
    (patience : Patience) : (p.endWait patience).1 = .ok () := by
  have htry := tryRequest_of_alive h
  rw [decide_eq_true hfree] at htry
  unfold endWait
  rcases hout : p.tryRequest with ⟨r, p'⟩
  rw [hout] at htry
  obtain rfl : r = .ok true := htry
  rfl

/-! No call but a try that is granted hands out a buffer. -/

theorem requested_recycleMany (p : Pool) (n : Nat) : (p.recycleMany n).requested = p.requested := by
  induction n generalizing p with
  | zero => rfl
  | succ n ih => exact ih p.recycle

theorem requested_of_tryRequest {p p' : Pool} {r : Except PoolError Bool}
    (h : p.tryRequest = (r, p')) : p'.requested = p.requested + leasedBy r := by
  unfold tryRequest take? at h
  by_cases hdestroyed : p.destroyed = true
  · rw [if_pos hdestroyed] at h
    obtain ⟨rfl, rfl⟩ := Prod.mk.inj h
    rfl
  · rw [if_neg hdestroyed] at h
    by_cases hfree : 0 < p.free
    · rw [if_pos hfree] at h
      obtain ⟨rfl, rfl⟩ := Prod.mk.inj h
      rfl
    · rw [if_neg hfree] at h
      obtain ⟨rfl, rfl⟩ := Prod.mk.inj h
      rfl

theorem requested_of_startWait {p p' : Pool} {patience : Patience} {now : Duration}
    {r : Except RequestError Unit} (h : p.startWait patience now = (r, p')) :
    p'.requested = p.requested := by
  obtain rfl := (congrArg Prod.snd h).symm.trans (startWait_snd p patience now)
  rfl

theorem requested_of_endWait {p p' : Pool} {patience : Patience} {r : Except RequestError Unit}
    (h : p.endWait patience = (r, p')) : p'.requested = p.requested + granted r := by
  unfold endWait at h
  rcases htry : p.tryRequest with ⟨tried, last⟩
  have htried := requested_of_tryRequest htry
  rw [htry] at h
  rcases tried with e | _ | _
  · obtain ⟨rfl, rfl⟩ := Prod.mk.inj h
    exact htried
  · cases patience with
    | unlimited | upTo timeout =>
      obtain ⟨rfl, rfl⟩ := Prod.mk.inj h
      exact htried
  · obtain ⟨rfl, rfl⟩ := Prod.mk.inj h
    exact htried

namespace Accounts

variable {p p' : Pool} {capacity leased : Nat} {fate : Option Bool}

/-- A wait that starts moves no buffer. -/
theorem startWait (h : p.Accounts capacity fate leased) {patience : Patience} {now : Duration}
    {r : Except RequestError Unit} (hwait : p.startWait patience now = (r, p')) :
    p'.Accounts capacity fate leased := by
  obtain rfl : { p with waits := p.waits + 1 } = p' := by
    rw [← startWait_snd, hwait]
  exact ⟨h.1, h.2, h.3, h.4, h.5⟩

/-- **A buffer that comes back** ends one lease, also in a pool that was torn down. -/
theorem recycle (h : p.Accounts capacity fate (leased + 1)) (b : Buffer) :
    (p.recycle b).Accounts capacity fate leased := by
  refine ⟨h.capacity_eq, ?_, fun halive => ?_, fun hgone => ?_, h.destroyed_eq⟩
  · have hrequested := h.requested_eq
    show p.requested = p.recycled + 1 + leased
    omega
  · have halive : p.destroyed = false := halive
    have hfree := h.free_of_alive halive
    rw [free_recycle, halive, if_neg Bool.false_ne_true]
    omega
  · have hgone : p.destroyed = true := hgone
    rw [free_recycle, hgone, if_pos rfl]
    exact h.free_of_destroyed hgone

theorem recycleMany {n : Nat} (h : p.Accounts capacity fate (leased + n)) :
    (p.recycleMany n).Accounts capacity fate leased := by
  induction n generalizing p with
  | zero => exact h
  | succ n ih => exact ih (recycle h _)

/-- Tearing the pool down leaves nothing free; what is leased stays leased. -/
theorem destroy (h : p.Accounts capacity fate leased) (hfate : fate ≠ some false) :
    p.destroy.Accounts capacity fate leased := by
  refine ⟨h.capacity_eq, h.requested_eq, (fun halive => nomatch halive), fun _ => rfl, ?_⟩
  intro b hb
  cases b with
  | true => rfl
  | false => exact absurd hb hfate

/-- The fate of a pool that was torn down. -/
theorem of_destroyed (h : p.Accounts capacity fate leased) (hdestroyed : p.destroyed = true) :
    p.Accounts capacity (some true) leased :=
  ⟨h.1, h.2, h.3, h.4, fun hb => Option.some.inj hb ▸ hdestroyed⟩

/-- **A try that does not wait** leases one buffer more if it is granted, and changes nothing if
not. -/
theorem tryRequest (h : p.Accounts capacity fate leased) {r : Except PoolError Bool}
    (htry : p.tryRequest = (r, p')) : p'.Accounts capacity fate (leased + leasedBy r) := by
  unfold Pool.tryRequest take? at htry
  by_cases hdestroyed : p.destroyed = true
  · rw [if_pos hdestroyed] at htry
    obtain ⟨rfl, rfl⟩ := Prod.mk.inj htry
    exact h
  · rw [if_neg hdestroyed] at htry
    by_cases hfree : 0 < p.free
    · rw [if_pos hfree] at htry
      obtain ⟨rfl, rfl⟩ := Prod.mk.inj htry
      refine ⟨h.capacity_eq, ?_, fun halive => ?_, fun hgone => ?_, h.destroyed_eq⟩
      · have hrequested := h.requested_eq
        show p.requested + 1 = p.recycled + (leased + 1)
        omega
      · have hcapacity := h.free_of_alive halive
        rw [free_lend]
        show p.free - 1 + (leased + 1) = capacity
        omega
      · exact absurd hgone hdestroyed
    · rw [if_neg hfree] at htry
      obtain ⟨rfl, rfl⟩ := Prod.mk.inj htry
      exact h

/-- The last try of a request that waited. -/
theorem endWait (h : p.Accounts capacity fate leased) {patience : Patience}
    {r : Except RequestError Unit} (hend : p.endWait patience = (r, p')) :
    p'.Accounts capacity fate (leased + granted r) := by
  unfold Pool.endWait at hend
  rcases htry : p.tryRequest with ⟨tried, p''⟩
  have htried := h.tryRequest htry
  rw [htry] at hend
  rcases tried with e | _ | _
  · obtain ⟨rfl, rfl⟩ := Prod.mk.inj hend
    exact htried
  · cases patience with
    | unlimited | upTo timeout =>
      obtain ⟨rfl, rfl⟩ := Prod.mk.inj hend
      exact htried
  · obtain ⟨rfl, rfl⟩ := Prod.mk.inj hend
    exact htried

end Accounts

end Pool

end Fanout
