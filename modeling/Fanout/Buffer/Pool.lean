import Fanout.Buffer.FreeQueue
import Fanout.Duration
import Fanout.Memory

/-!
# The buffer pool

A pool lends a fixed number of buffers of one size. The memory of those that are not lent is in a
queue. The pool counts the buffers it handed out (`requested`), those that came back (`recycled`)
and the requests that found none free (`waits`).

A request first tries to take a free buffer. If there is none it starts to wait (`startWait`); what
others do in the meantime may bring buffers back or destroy the pool; and at the end of the wait it
tries once more (`endWait`).
-/

namespace Fanout

/-- Why a pool cannot be made or used. -/
inductive PoolError where
  /-- A pool needs at least one buffer of at least one byte. -/
  | invalid (buffers size : Nat)
  | destroyed
  deriving DecidableEq

def PoolError.message : PoolError → String
  | invalid buffers size => s!"invalid buffer pool: {buffers} buffers of {size} bytes"
  | destroyed => "buffer pool has been destroyed"

/-- How long a request waits for a buffer. -/
inductive Patience where
  | unlimited
  | upTo (timeout : Duration)
  deriving DecidableEq

/-- Why a request got no buffer. -/
inductive RequestError where
  | destroyed
  | timedOut (timeout : Duration)
  /-- The end of the wait lies beyond what a clock can show. -/
  | deadlineOverflow
  /-- Nothing that could ever bring a buffer back is left to happen. -/
  | starved
  deriving DecidableEq

/-- A pool of buffers. -/
structure Pool where
  capacity : Nat
  bufferSize : Nat
  queue : FreeQueue
  /-- The memory that the last granted request took. -/
  taken : ByteArray
  requested : Nat
  recycled : Nat
  waits : Nat
  destroyed : Bool
  taken_empty : taken = ByteArray.empty
  capacity_pos : 0 < capacity
  bufferSize_pos : 0 < bufferSize

namespace Pool

/-- A pool of `buffers` buffers of `size` bytes, all of them free. -/
def fresh (buffers size : Nat) (hbuffers : 0 < buffers) (hsize : 0 < size) : Pool where
  capacity := buffers
  bufferSize := size
  queue := .full buffers
  taken := ByteArray.empty
  requested := 0
  recycled := 0
  waits := 0
  destroyed := false
  taken_empty := rfl
  capacity_pos := hbuffers
  bufferSize_pos := hsize

def make (buffers size : Nat) : Except PoolError Pool :=
  if h : 0 < buffers ∧ 0 < size then .ok (fresh buffers size h.1 h.2)
  else .error (.invalid buffers size)

/-- The bytes that a pool keeps for each buffer beside its contents. -/
def slotSize : Nat := 40

/-- Whether memory could be asked for the slots of a pool and for the contents of a buffer. -/
def fitsMemory (p : Pool) : Bool :=
  Memory.admits p.capacity slotSize && Memory.admits p.bufferSize 1

def free (p : Pool) : Nat := p.queue.length

def outstanding (p : Pool) : Nat := p.requested - p.recycled

/-- The buffer that a granted request receives: the memory it took, up to the pool's size. -/
def lent (p : Pool) : Buffer where
  capacity := p.bufferSize
  bytes := p.taken
  bounded := by
    rw [p.taken_empty]
    exact Nat.zero_le _

/-- Takes the memory that has been free the longest. -/
def lend (p : Pool) : Pool :=
  { p with
    queue := p.queue.rest
    taken := p.queue.first
    taken_empty := p.queue.first_eq
    requested := p.requested + 1 }

def take? (p : Pool) : Option Pool := if 0 < p.free then some p.lend else none

/-- Asks for a buffer without waiting: whether one was granted. -/
def tryRequest (p : Pool) : Except PoolError Bool × Pool :=
  if p.destroyed then (.error .destroyed, p)
  else match p.take? with
    | some p => (.ok true, p)
    | none => (.ok false, p)

/-- Takes back a lent buffer; what is in it is lost, so it need not be told. A destroyed pool counts
the buffer and lets it go. -/
def recycle (p : Pool) (b : Buffer := Buffer.fresh p.bufferSize) : Pool :=
  { p with
    recycled := p.recycled + 1
    queue := if p.destroyed then p.queue else p.queue.push b }

def recycleMany (p : Pool) : (n : Nat) → Pool
  | 0 => p
  | n + 1 => p.recycle.recycleMany n

/-- Tears the pool down: no buffer is free any more, now or later. -/
def destroy (p : Pool) : Pool := { p with destroyed := true, queue := .full 0 }

/-- A request that found no free buffer starts to wait: the wait is counted, and with limited
patience its end must be a time that the clock can show. -/
def startWait (p : Pool) (patience : Patience) (now : Duration) : Except RequestError Unit × Pool :=
  let p := { p with waits := p.waits + 1 }
  match patience with
  | .unlimited => (.ok (), p)
  | .upTo timeout =>
    match Duration.deadline? now timeout with
    | some _ => (.ok (), p)
    | none => (.error .deadlineOverflow, p)

/-- The last try of a request that waited. -/
def endWait (p : Pool) (patience : Patience) : Except RequestError Unit × Pool :=
  match p.tryRequest with
  | (.error _, p) => (.error .destroyed, p)
  | (.ok true, p) => (.ok (), p)
  | (.ok false, p) =>
    match patience with
    | .unlimited => (.error .starved, p)
    | .upTo timeout => (.error (.timedOut timeout), p)

/-- **A lent buffer is empty**, whatever was in it when it came back. -/
@[simp] theorem lent_eq (p : Pool) : p.lent = Buffer.fresh p.bufferSize := by
  obtain ⟨_, _, _, _, _, _, _, _, rfl, _, _⟩ := p
  rfl

theorem contents_lent (p : Pool) : p.lent.contents = [] := congrArg Buffer.contents p.lent_eq

@[simp] theorem free_lend (p : Pool) : p.lend.free = p.free - 1 := p.queue.length_rest

theorem free_recycle (p : Pool) (b : Buffer) :
    (p.recycle b).free = if p.destroyed then p.free else p.free + 1 := by
  show (if p.destroyed then p.queue else p.queue.push b).length = _
  rw [apply_ite FreeQueue.length, FreeQueue.length_push, free]

/-! No request and no return changes the size of the buffers. -/

theorem bufferSize_of_tryRequest {p p' : Pool} {r : Except PoolError Bool}
    (h : p.tryRequest = (r, p')) : p'.bufferSize = p.bufferSize := by
  unfold tryRequest take? at h
  split at h
  · exact congrArg (·.2.bufferSize) h.symm
  · split at h
    · rename_i htaken
      split at htaken
      · obtain rfl := Option.some.inj htaken
        exact congrArg (·.2.bufferSize) h.symm
      · contradiction
    · exact congrArg (·.2.bufferSize) h.symm

@[simp] theorem bufferSize_recycleMany (p : Pool) (n : Nat) :
    (p.recycleMany n).bufferSize = p.bufferSize := by
  induction n generalizing p with
  | zero => rfl
  | succ n ih => exact ih p.recycle

theorem bufferSize_of_startWait {p p' : Pool} {patience : Patience} {now : Duration}
    {r : Except RequestError Unit} (h : p.startWait patience now = (r, p')) :
    p'.bufferSize = p.bufferSize := by
  have hsize : (p.startWait patience now).2.bufferSize = p.bufferSize := by
    fun_cases startWait p patience now <;> rfl
  rw [h] at hsize
  exact hsize

theorem bufferSize_of_endWait {p p' : Pool} {patience : Patience} {r : Except RequestError Unit}
    (h : p.endWait patience = (r, p')) : p'.bufferSize = p.bufferSize := by
  unfold endWait at h
  rcases htry : p.tryRequest with ⟨tried, last⟩
  rw [htry] at h
  have hlast : p' = last := by
    rcases tried with e | _ | _
    · exact congrArg Prod.snd h.symm
    · cases patience with
      | unlimited | upTo timeout => exact congrArg Prod.snd h.symm
    · exact congrArg Prod.snd h.symm
  rw [hlast]
  exact bufferSize_of_tryRequest htry

end Pool

end Fanout
