import Fanout.Buffer.Leases
import Fanout.Proofs.Buffer.Accounts
import Fanout.Proofs.Buffer.Requests

/-!
# Lending buffers

A pool and all its lent buffers, while many hands use them at once. A request that waits is two
steps, its arrival and its last try (`arrive`, `leave`), between which everybody else goes on
(`request_eq`). What every step keeps is that the pool's accounts are in order for the buffers on
loan, and that these are all of the pool's size (`Sound`).

* `Sound.perform`, `Sound.run` — the invariant, through a step and through a run.
* `waits_run` — a wait is counted for each arrival at an exhausted pool.
* `destroyed_run` — a pool is in use until it is torn down.
* `lending` — what holds after any run, and what the next request or write comes to.
-/

namespace Fanout

namespace Leases

variable {l : Leases} {buffers size loose : Nat} {name : String} {patience : Patience}
  {now : Duration}

/-! ## Requests in two steps -/

/-- The arrival of a request: its result, unless it waits. -/
def arrive (l : Leases) (name : String) (patience : Patience) (now : Duration) :
    Option (Except RequestError Unit) × Leases :=
  match l.pool.tryRequest with
  | (.error _, pool) => (some (.error .destroyed), { l with pool := pool })
  | (.ok true, pool) => (some (.ok ()), { l with pool := pool }.put name pool.lent)
  | (.ok false, pool) =>
    match pool.startWait patience now with
    | (.error e, pool) => (some (.error e), { l with pool := pool })
    | (.ok (), pool) => (none, { l with pool := pool })

/-- The last try of a request that waited. -/
def leave (l : Leases) (name : String) (patience : Patience) : Except RequestError Unit × Leases :=
  match l.pool.endWait patience with
  | (.error e, pool) => (.error e, { l with pool := pool })
  | (.ok (), pool) => (.ok (), { l with pool := pool }.put name pool.lent)

theorem request_eq (l : Leases) (name : String) (patience : Patience) (now : Duration)
    (meanwhile : Leases → Leases) :
    l.request name patience now meanwhile =
      match l.arrive name patience now with
      | (some r, l) => (r, l)
      | (none, l) => (meanwhile l).leave name patience := by
  unfold request arrive leave
  rcases l.pool.tryRequest with ⟨_ | _ | _, pool⟩
  · rfl
  · dsimp only
    rcases pool.startWait patience now with ⟨_ | _, pool⟩ <;> rfl
  · rfl

/-- A step of anybody. -/
inductive Step where
  | tryRequest (name : String)
  | arrive (name : String) (patience : Patience) (now : Duration)
  | leave (name : String) (patience : Patience)
  | append (name : String) (data : ByteArray)
  | clear (name : String)
  | recycle (name : String)
  | destroy

def perform (l : Leases) : Step → Leases
  | .tryRequest name => (l.tryRequest name).2
  | .arrive name patience now => (l.arrive name patience now).2
  | .leave name patience => (l.leave name patience).2
  | .append name data => l.update name (·.append data)
  | .clear name => l.update name Buffer.clear
  | .recycle name => l.recycle name
  | .destroy => l.destroy

/-- The leases after some steps. -/
def run (l : Leases) (steps : List Step) : Leases := steps.foldl perform l

/-! ## Names -/

/-- The names in use. -/
def names (l : Leases) : List String := l.held.map Prod.fst

theorem find?_eq_none_iff : l.find? name = none ↔ name ∉ l.names := by
  rw [find?, List.lookup_eq_none_iff, names]
  refine ⟨fun h hmem => ?_, fun h entry hentry => ?_⟩
  · obtain ⟨entry, hentry, rfl⟩ := List.mem_map.1 hmem
    exact bne_iff_ne.1 (h entry hentry) rfl
  · exact bne_iff_ne.2 fun hname => h (hname ▸ List.mem_map_of_mem hentry)

theorem mem_of_find? {b : Buffer} (h : l.find? name = some b) : (name, b) ∈ l.held := by
  obtain ⟨before, after, hheld, -⟩ := List.lookup_eq_some_iff.1 h
  rw [hheld]
  exact List.mem_append_right before List.mem_cons_self

theorem names_forget : (l.forget name).names.Sublist l.names :=
  List.filter_sublist.map Prod.fst

/-- A name in use holds one buffer. -/
theorem length_forget (hnames : l.names.Nodup) (h : name ∈ l.names) :
    (l.forget name).held.length + 1 = l.held.length := by
  obtain ⟨entry, hentry, rfl⟩ := List.mem_map.1 h
  obtain ⟨before, after, hheld⟩ := List.append_of_mem hentry
  rw [names, hheld, List.map_append, List.map_cons, List.perm_middle.nodup_iff,
    List.nodup_cons] at hnames
  -- no other entry is removed
  have hothers : (before ++ after).filter (fun other => other.1 ≠ entry.1) = before ++ after :=
    List.filter_eq_self.2 fun other hother => decide_eq_true fun hname =>
      hnames.1 (List.map_append ▸ hname ▸ List.mem_map_of_mem hother)
  rw [List.filter_append] at hothers
  rw [forget, hheld, List.filter_append, List.filter_cons_of_neg (by simp), hothers]
  simp only [List.length_append, List.length_cons]
  omega

theorem names_update (f : Buffer → Buffer) : (l.update name f).names = l.names := by
  rw [names, update, List.map_map]
  refine List.map_congr_left fun entry _ => ?_
  show (if entry.1 = name then (name, f entry.2) else entry).1 = entry.1
  split
  · rename_i hname
    exact hname.symm
  · rfl

/-! ## What names hold -/

theorem find?_cons (pool : Pool) (entry : String × Buffer) (held : List (String × Buffer))
    (other : String) : find? ⟨pool, entry :: held⟩ other =
      if other = entry.1 then some entry.2 else find? ⟨pool, held⟩ other := by
  unfold find?
  rw [List.lookup_cons]
  by_cases h : other = entry.1
  · rw [if_pos h, beq_iff_eq.2 h]
  · rw [if_neg h, beq_false_of_ne h]

theorem find?_forget (other : String) :
    (l.forget name).find? other = if other = name then none else l.find? other := by
  obtain ⟨pool, held⟩ := l
  unfold forget
  dsimp only
  induction held with
  | nil => exact (ite_self none).symm
  | cons entry held ih =>
    by_cases hname : entry.1 = name
    · rw [List.filter_cons_of_neg (by simpa using hname), ih, find?_cons, hname]
      by_cases hother : other = name
      · rw [if_pos hother, if_pos hother]
      · rw [if_neg hother, if_neg hother, if_neg hother]
    · rw [List.filter_cons_of_pos (by simpa using hname), find?_cons, ih, find?_cons]
      by_cases hother : other = name
      · subst hother
        rw [if_neg (Ne.symm hname), if_pos rfl, if_pos rfl]
      · rw [if_neg hother, if_neg hother]

theorem find?_recycle (other : String) :
    (l.recycle name).find? other = if other = name then none else l.find? other := by
  unfold recycle
  split
  · rename_i hnone
    by_cases hother : other = name
    · rw [if_pos hother, hother, hnone]
    · rw [if_neg hother]
  · exact find?_forget other

theorem find?_put (b : Buffer) (other : String) :
    (l.put name b).find? other = if other = name then some b else l.find? other := by
  rw [put, find?_cons]
  by_cases hother : other = name
  · rw [if_pos hother, if_pos hother]
  · rw [if_neg hother, if_neg hother]
    exact (find?_recycle other).trans (if_neg hother)

theorem find?_update (f : Buffer → Buffer) (other : String) :
    (l.update name f).find? other =
      if other = name then (l.find? name).map f else l.find? other := by
  obtain ⟨pool, held⟩ := l
  unfold update
  dsimp only
  induction held with
  | nil => exact (ite_self none).symm
  | cons entry held ih =>
    rw [List.map_cons, find?_cons, ih, find?_cons, find?_cons]
    by_cases hname : entry.1 = name
    · subst hname
      by_cases hother : other = entry.1
      · rw [if_pos rfl, if_pos hother, if_pos hother, if_pos rfl]
        rfl
      · simp only [↓reduceIte, if_neg hother]
    · by_cases hother : other = name
      · subst hother
        simp only [if_neg hname, if_neg (Ne.symm hname), ↓reduceIte]
      · simp only [if_neg hname, if_neg hother]

/-- What comes back is cleared and queues up behind all that is free, unless the pool is torn
down. -/
theorem queue_recycle {b : Buffer} (h : l.find? name = some b) :
    (l.recycle name).pool.queue.toList =
      if l.pool.destroyed then l.pool.queue.toList else l.pool.queue.toList ++ [b.clear.bytes] := by
  unfold recycle
  rw [h]
  show (if l.pool.destroyed then l.pool.queue else l.pool.queue.push b).toList = _
  rw [apply_ite FreeQueue.toList, FreeQueue.toList_push]

/-! ## Asking the pool -/

/-- Whether a step is a request that finds the pool in use and empty. -/
def waitsAt (l : Leases) : Step → Nat
  | .arrive _ _ _ => if l.pool.Exhausted then 1 else 0
  | _ => 0

/-- **What asking the pool comes to** for a name: a buffer under it where one is free, and else
nothing but waits that are counted. -/
inductive Asked (l : Leases) (name : String) : Prop → Nat → Leases → Prop where
  | granted {granted : Prop} : granted → l.pool.destroyed = false → 0 < l.pool.free →
    Asked l name granted 0 (put { l with pool := l.pool.lend } name l.pool.lend.lent)
  | denied {granted : Prop} (waits : Nat) : ¬granted →
    ¬(l.pool.destroyed = false ∧ 0 < l.pool.free) →
    Asked l name granted waits { l with pool := { l.pool with waits := l.pool.waits + waits } }

theorem not_free_of_gone (h : l.pool.destroyed = true) :
    ¬(l.pool.destroyed = false ∧ 0 < l.pool.free) :=
  fun hfree => Bool.false_ne_true (hfree.1.symm.trans h)

theorem not_free_of_exhausted (h : l.pool.Exhausted) :
    ¬(l.pool.destroyed = false ∧ 0 < l.pool.free) :=
  fun hfree => Nat.ne_of_gt hfree.2 h.2

theorem tryRequest_asked (l : Leases) (name : String) :
    l.Asked name ((l.tryRequest name).1 = .ok true) 0 (l.tryRequest name).2 := by
  have htried := l.pool.tryRequest_tried
  unfold tryRequest
  generalize l.pool.tryRequest = out at htried
  cases htried with
  | gone hgone => exact .denied 0 (fun h => nomatch h) (not_free_of_gone hgone)
  | granted halive hfree => exact .granted rfl halive hfree
  | exhausted h => exact .denied 0 (fun h => nomatch Except.ok.inj h) (not_free_of_exhausted h)

theorem leave_asked (l : Leases) (name : String) (patience : Patience) :
    l.Asked name ((l.leave name patience).1 = .ok ()) 0 (l.leave name patience).2 := by
  have hended := l.pool.endWait_ended patience
  unfold leave
  generalize l.pool.endWait patience = out at hended
  cases hended with
  | gone hgone => exact .denied 0 (fun h => nomatch h) (not_free_of_gone hgone)
  | granted halive hfree => exact .granted rfl halive hfree
  | exhausted h => exact .denied 0 (fun h => nomatch h) (not_free_of_exhausted h)

/-- An arrival at an exhausted pool is counted, whether or not the request can wait. -/
theorem arrive_asked (l : Leases) (name : String) (patience : Patience) (now : Duration) :
    l.Asked name ((l.arrive name patience now).1 = some (.ok ()))
      (l.waitsAt (.arrive name patience now)) (l.arrive name patience now).2 := by
  have htried := l.pool.tryRequest_tried
  unfold arrive waitsAt
  generalize l.pool.tryRequest = out at htried
  cases htried with
  | gone hgone =>
    rw [if_neg fun h => Bool.false_ne_true (h.1.symm.trans hgone)]
    exact .denied 0 (fun h => nomatch Option.some.inj h) (not_free_of_gone hgone)
  | granted halive hfree =>
    rw [if_neg fun h => Nat.ne_of_gt hfree h.2]
    exact .granted rfl halive hfree
  | exhausted hexhausted =>
    have hwaiting := l.pool.startWait_waiting patience now
    rw [if_pos hexhausted]
    dsimp only
    generalize l.pool.startWait patience now = out at hwaiting
    cases hwaiting with
    | started _ => exact .denied 1 (fun h => nomatch h) (not_free_of_exhausted hexhausted)
    | overflow _ _ =>
      exact .denied 1 (fun h => nomatch Option.some.inj h) (not_free_of_exhausted hexhausted)

theorem waits_recycle : (l.recycle name).pool.waits = l.pool.waits := by
  unfold recycle
  split <;> rfl

theorem destroyed_recycle : (l.recycle name).pool.destroyed = l.pool.destroyed := by
  unfold recycle
  split <;> rfl

theorem Asked.waits_eq {granted : Prop} {waits : Nat} {out : Leases}
    (h : l.Asked name granted waits out) : out.pool.waits = l.pool.waits + waits := by
  cases h with
  | granted _ _ _ => exact waits_recycle
  | denied _ _ _ => rfl

/-- Nobody tears a pool down by asking it. -/
theorem Asked.destroyed_eq {granted : Prop} {waits : Nat} {out : Leases}
    (h : l.Asked name granted waits out) : out.pool.destroyed = l.pool.destroyed := by
  cases h with
  | granted _ _ _ => exact destroyed_recycle
  | denied _ _ _ => rfl

/-! ## The invariant -/

/-- **What is true of leases** from a pool of so many buffers of a size. The pool's accounts are in
order for the buffers under names and those that are `loose`, taken but not yet under a name. -/
structure Sound (l : Leases) (buffers size loose : Nat) : Prop where
  nodup : l.names.Nodup
  capacity_eq : ∀ entry ∈ l.held, entry.2.capacity = size
  bufferSize_eq : l.pool.bufferSize = size
  accounts : l.pool.Accounts buffers none (l.held.length + loose)

/-- Nobody has waited at a new pool, and it is in use. -/
theorem make_new {pool : Pool} (h : Pool.make buffers size = .ok pool) :
    pool.bufferSize = size ∧ pool.waits = 0 ∧ pool.destroyed = false := by
  unfold Pool.make at h
  split at h
  · rw [← Except.ok.inj h]
    exact ⟨rfl, rfl, rfl⟩
  · cases h

theorem sound_make {pool : Pool} (h : Pool.make buffers size = .ok pool) :
    (ofPool pool).Sound buffers size 0 :=
  ⟨List.nodup_nil, List.forall_mem_nil _, (make_new h).1,
    Pool.accounts_make h fun hfate => nomatch hfate⟩

namespace Sound

/-- Only the accounts depend on what the pool did. -/
theorem withPool (h : l.Sound buffers size loose) {pool : Pool} {loose' : Nat}
    (hsize : pool.bufferSize = l.pool.bufferSize)
    (haccounts : pool.Accounts buffers none (l.held.length + loose')) :
    ({ l with pool := pool } : Leases).Sound buffers size loose' :=
  ⟨h.nodup, h.capacity_eq, hsize.trans h.bufferSize_eq, haccounts⟩

theorem recycle (h : l.Sound buffers size loose) (name : String) :
    (l.recycle name).Sound buffers size loose := by
  unfold Leases.recycle
  split
  · exact h
  · rename_i b hfound
    have hname : name ∈ l.names := List.mem_map_of_mem (mem_of_find? hfound)
    have hlength := length_forget h.nodup hname
    have haccounts := h.accounts
    rw [← hlength, Nat.add_right_comm] at haccounts
    refine ⟨h.nodup.sublist names_forget, fun entry hentry => ?_, h.bufferSize_eq,
      haccounts.recycle b⟩
    exact h.capacity_eq entry (List.mem_filter.1 hentry).1

theorem put (h : l.Sound buffers size (loose + 1)) {b : Buffer} (hb : b.capacity = size) :
    (l.put name b).Sound buffers size loose := by
  have hfree : name ∉ (l.recycle name).names :=
    find?_eq_none_iff.1 ((find?_recycle name).trans (if_pos rfl))
  obtain ⟨hnodup, hcapacity, hsize, haccounts⟩ := h.recycle name
  refine ⟨List.nodup_cons.2 ⟨hfree, hnodup⟩, List.forall_mem_cons.2 ⟨hb, hcapacity⟩, hsize, ?_⟩
  rw [← Nat.add_assoc, Nat.add_right_comm] at haccounts
  exact haccounts

theorem update (h : l.Sound buffers size loose) {f : Buffer → Buffer}
    (hf : ∀ b, (f b).capacity = b.capacity) : (l.update name f).Sound buffers size loose := by
  refine ⟨(names_update f).symm ▸ h.nodup, fun entry hentry => ?_, h.bufferSize_eq, ?_⟩
  · obtain ⟨original, horiginal, rfl⟩ := List.mem_map.1 hentry
    have hcapacity := h.capacity_eq original horiginal
    split
    · exact (hf original.2).trans hcapacity
    · exact hcapacity
  · show l.pool.Accounts buffers none ((l.held.map _).length + loose)
    rw [List.length_map]
    exact h.accounts

theorem asked (h : l.Sound buffers size 0) {granted : Prop} {waits : Nat} {out : Leases}
    (hasked : l.Asked name granted waits out) : out.Sound buffers size 0 := by
  cases hasked with
  | granted _ halive hfree =>
    have htaken : Pool.Accounts _ buffers none (l.held.length + 1) :=
      h.accounts.tryRequest (Pool.tryRequest_of_free halive hfree)
    refine Sound.put (h.withPool ?_ htaken) h.bufferSize_eq
    rfl
  | denied waits _ _ =>
    obtain ⟨hcapacity, hrequested, halive, hgone, hfate⟩ := h.accounts
    exact h.withPool rfl ⟨hcapacity, hrequested, halive, hgone, hfate⟩

/-- **Every step keeps the leases sound.** -/
theorem perform (h : l.Sound buffers size 0) (step : Step) :
    (l.perform step).Sound buffers size 0 := by
  cases step with
  | tryRequest name => exact h.asked (l.tryRequest_asked name)
  | arrive name patience now => exact h.asked (l.arrive_asked name patience now)
  | leave name patience => exact h.asked (l.leave_asked name patience)
  | append name data => exact h.update fun b => b.capacity_append data
  | clear name => exact h.update fun _ => rfl
  | recycle name => exact h.recycle name
  | destroy => exact h.withPool rfl (h.accounts.destroy fun hfate => nomatch hfate)

theorem run (h : l.Sound buffers size 0) (steps : List Step) :
    (l.run steps).Sound buffers size 0 := by
  induction steps generalizing l with
  | nil => exact h
  | cons step steps ih => exact ih (h.perform step)

/-- No buffer is fuller than the pool makes them. -/
theorem size_add_remaining (h : l.Sound buffers size loose) {entry : String × Buffer}
    (hentry : entry ∈ l.held) : entry.2.size + entry.2.remaining = size := by
  rw [← h.capacity_eq entry hentry]
  exact Nat.add_sub_cancel' entry.2.bounded

end Sound

/-! ## What requests come to -/

/-- **What a try comes to** for a name, at leases of buffers of a size: it is granted exactly if the
pool is in use and has a buffer free, and then the name holds an empty one, which is made of the
memory that was free the longest. No other buffer is touched, and none at all if the try is not
granted. -/
structure Tries (l : Leases) (size : Nat) (name : String) (granted : Prop) (out : Leases) :
    Prop where
  granted_iff : granted ↔ l.pool.destroyed = false ∧ 0 < l.pool.free
  lent : granted → out.find? name = some (Buffer.fresh size)
  oldest : granted → l.pool.queue.toList.head? = (out.find? name).map Buffer.bytes
  kept : ∀ other, ¬(granted ∧ other = name) → out.find? other = l.find? other

theorem Asked.tries {granted : Prop} {waits : Nat} {out : Leases}
    (h : l.Asked name granted waits out) (hsize : l.pool.bufferSize = size) :
    l.Tries size name granted out := by
  cases h with
  | granted hgranted halive hfree =>
    refine ⟨iff_of_true hgranted ⟨halive, hfree⟩, fun _ => ?_, fun _ => ?_,
      fun other hother => ?_⟩
    · rw [find?_put, if_pos rfl, Pool.lent_eq]
      exact congrArg (some <| Buffer.fresh ·) hsize
    · rw [find?_put, if_pos rfl, l.pool.queue.toList_eq hfree]
      rfl
    · exact (find?_put _ other).trans (if_neg fun hname => hother ⟨hgranted, hname⟩)
  | denied _ hdenied hnone =>
    exact ⟨iff_of_false hdenied hnone, fun h => absurd h hdenied, fun h => absurd h hdenied,
      fun _ _ => rfl⟩

/-- What a request finds at its last try, which is the first unless it waits. -/
def atLastTry (l : Leases) (name : String) (patience : Patience) (now : Duration)
    (meanwhile : Leases → Leases) : Leases :=
  match l.arrive name patience now with
  | (some _, _) => l
  | (none, waiting) => meanwhile waiting

theorem Sound.atLastTry (h : l.Sound buffers size 0) (name : String) (patience : Patience)
    (now : Duration) (meanwhile : List Step) :
    (l.atLastTry name patience now (Leases.run · meanwhile)).Sound buffers size 0 := by
  have harrives := h.asked (l.arrive_asked name patience now)
  unfold Leases.atLastTry
  rcases harrive : l.arrive name patience now with ⟨_ | r, waiting⟩
  · rw [harrive] at harrives
    exact harrives.run meanwhile
  · exact h

/-- A request as steps, if others take steps while it waits. -/
def requestSteps (l : Leases) (name : String) (patience : Patience) (now : Duration)
    (meanwhile : List Step) : List Step :=
  .arrive name patience now :: match (l.arrive name patience now).1 with
    | some _ => []
    | none => meanwhile ++ [.leave name patience]

theorem request_eq_run (l : Leases) (name : String) (patience : Patience) (now : Duration)
    (meanwhile : List Step) :
    (l.request name patience now (run · meanwhile)).2 =
      l.run (l.requestSteps name patience now meanwhile) := by
  rw [request_eq, requestSteps, run, List.foldl_cons, perform]
  rcases l.arrive name patience now with ⟨_ | r, waiting⟩
  · show _ = waiting.run (meanwhile ++ [.leave name patience])
    rw [run, List.foldl_append]
    rfl
  · rfl

/-- A request tries for the last time at its arrival or when it leaves. -/
theorem request_tries {meanwhile : Leases → Leases} (hsize : l.pool.bufferSize = size)
    (hlast : (l.atLastTry name patience now meanwhile).pool.bufferSize = size) :
    (l.atLastTry name patience now meanwhile).Tries size name
      ((l.request name patience now meanwhile).1 = .ok ())
      (l.request name patience now meanwhile).2 := by
  have harrives := (l.arrive_asked name patience now).tries hsize
  rw [request_eq]
  unfold atLastTry at hlast ⊢
  rcases harrive : l.arrive name patience now with ⟨_ | r, waiting⟩
  · rw [harrive] at hlast
    exact (leave_asked _ name patience).tries hlast
  · rw [harrive, Option.some.injEq] at harrives
    exact harrives

/-! ## Waits -/

/-- How many requests of a run found the pool in use and empty when they arrived. -/
def waited : Leases → List Step → Nat
  | _, [] => 0
  | l, step :: steps => l.waitsAt step + waited (l.perform step) steps

theorem waits_perform (l : Leases) (step : Step) :
    (l.perform step).pool.waits = l.pool.waits + l.waitsAt step := by
  cases step with
  | tryRequest name => exact (l.tryRequest_asked name).waits_eq
  | arrive name patience now => exact (l.arrive_asked name patience now).waits_eq
  | leave name patience => exact (l.leave_asked name patience).waits_eq
  | recycle name => exact waits_recycle
  | append _ _ | clear _ | destroy => rfl

/-- **Waits** are counted for the requests that found the pool in use and empty. -/
theorem waits_run (l : Leases) (steps : List Step) :
    (l.run steps).pool.waits = l.pool.waits + l.waited steps := by
  induction steps generalizing l with
  | nil => rfl
  | cons step steps ih =>
    rw [run, List.foldl_cons, waited, ← Nat.add_assoc, ← waits_perform]
    exact ih (l.perform step)

/-! ## The end of the pool -/

theorem destroyed_perform (l : Leases) (step : Step) :
    (l.perform step).pool.destroyed = true ↔ l.pool.destroyed = true ∨ .destroy = step := by
  have of_same {step : Step} (hsame : (l.perform step).pool.destroyed = l.pool.destroyed)
      (hother : .destroy ≠ step) :
      (l.perform step).pool.destroyed = true ↔ l.pool.destroyed = true ∨ .destroy = step := by
    rw [hsame, or_iff_left hother]
  cases step with
  | tryRequest name => exact of_same (l.tryRequest_asked name).destroyed_eq fun h => nomatch h
  | arrive name patience now =>
    exact of_same (l.arrive_asked name patience now).destroyed_eq fun h => nomatch h
  | leave name patience =>
    exact of_same (l.leave_asked name patience).destroyed_eq fun h => nomatch h
  | append _ _ | clear _ => exact of_same rfl fun h => nomatch h
  | recycle name => exact of_same destroyed_recycle fun h => nomatch h
  | destroy => exact iff_of_true rfl (.inr rfl)

/-- **A pool is torn down** by nothing but a step that does so, and stays so. -/
theorem destroyed_run (l : Leases) (steps : List Step) :
    (l.run steps).pool.destroyed = true ↔ l.pool.destroyed = true ∨ Step.destroy ∈ steps := by
  induction steps generalizing l with
  | nil => exact (or_iff_left List.not_mem_nil).symm
  | cons step steps ih =>
    rw [run, List.foldl_cons, List.mem_cons, ← or_assoc, ← destroyed_perform]
    exact ih (l.perform step)

/-! ## Runs -/

/-- **Lending buffers.** After any steps of any hands on a new pool and its buffers, requests that
wait among them:

* every buffer on loan has the pool's size, and what is in it and what remains make that up,
* the pool has taken back what it handed out but for the buffers on loan; all others are free until
  somebody destroys it, and then none is; and the pool has counted a wait for each request that
  found it in use and empty,
* all free memory is empty, since what comes back is cleared before it queues up behind the rest,
* a request is granted exactly if the pool is in use and has a buffer free at its last try, whatever
  others do while it waits, and brings an empty buffer; then the leases are as after some steps,
* appending keeps what a buffer holds and adds as much of the data as remains room for, clearing
  leaves nothing, and neither touches another buffer. -/
theorem lending {pool : Pool} (hmade : Pool.make buffers size = .ok pool) (steps : List Step) :
    let l := (ofPool pool).run steps
    (∀ entry ∈ l.held, entry.2.capacity = size ∧ entry.2.size + entry.2.remaining = size) ∧
    l.pool.requested = l.pool.recycled + l.held.length ∧ l.pool.outstanding = l.held.length ∧
    (if l.pool.destroyed then l.pool.free = 0 else l.pool.free + l.held.length = buffers) ∧
    (l.pool.destroyed = true ↔ Step.destroy ∈ steps) ∧
    l.pool.waits = (ofPool pool).waited steps ∧
    l.pool.queue.toList = List.replicate l.pool.free ByteArray.empty ∧
    (∀ name b, l.find? name = some b → (l.perform (.recycle name)).pool.queue.toList =
      if l.pool.destroyed then l.pool.queue.toList else l.pool.queue.toList ++ [b.clear.bytes]) ∧
    (∀ name, l.Tries size name ((l.tryRequest name).1 = .ok true) (l.tryRequest name).2) ∧
    (∀ name patience now meanwhile,
      let out := l.request name patience now (run · meanwhile)
      (l.atLastTry name patience now (run · meanwhile)).Tries size name (out.1 = .ok ()) out.2 ∧
        out.2 = l.run (l.requestSteps name patience now meanwhile)) ∧
    (∀ name b data, l.find? name = some b → ∃ b',
      (l.perform (.append name data)).find? name = some b' ∧
        b'.contents = b.contents ++ (octets data).take (b.accepted data) ∧
        b.accepted data = min data.size b.remaining ∧ b'.size = b.size + b.accepted data) ∧
    (∀ name b, l.find? name = some b →
      (l.perform (.clear name)).find? name = some (Buffer.fresh size)) ∧
    ∀ name other, other ≠ name →
      (∀ data, (l.perform (.append name data)).find? other = l.find? other) ∧
      (l.perform (.clear name)).find? other = l.find? other ∧
      (l.perform (.recycle name)).find? other = l.find? other := by
  intro l
  have hsound : l.Sound buffers size 0 := (sound_make hmade).run steps
  have hrequested : l.pool.requested = l.pool.recycled + l.held.length :=
    hsound.accounts.requested_eq
  refine ⟨fun entry hentry => ⟨hsound.capacity_eq entry hentry, hsound.size_add_remaining hentry⟩,
    hrequested, ?_, ?_, ?_, ?_, l.pool.queue.toList_eq_replicate,
    fun name b hfound => queue_recycle hfound,
    fun name => (l.tryRequest_asked name).tries hsound.bufferSize_eq,
    fun name patience now meanwhile => ⟨?_, request_eq_run l name patience now meanwhile⟩,
    fun name b data hfound => ⟨b.append data, ?_, ?_, rfl, b.size_append data⟩,
    fun name b hfound => ?_, fun name other hother => ⟨fun data => ?_, ?_, ?_⟩⟩
  · rw [Pool.outstanding, hrequested, Nat.add_sub_cancel_left]
  · split
    · rename_i hgone
      exact hsound.accounts.free_of_destroyed hgone
    · rename_i halive
      exact hsound.accounts.free_of_alive (Bool.eq_false_iff.2 halive)
  · rw [destroyed_run, ofPool, (make_new hmade).2.2]
    exact or_iff_right Bool.false_ne_true
  · rw [waits_run, ofPool, (make_new hmade).2.1, Nat.zero_add]
  · exact request_tries hsound.bufferSize_eq
      (hsound.atLastTry name patience now meanwhile).bufferSize_eq
  · exact (find?_update _ name).trans ((if_pos rfl).trans (congrArg _ hfound))
  · exact b.contents_append data
  · refine (find?_update _ name).trans ((if_pos rfl).trans ?_)
    rw [hfound, Option.map_some, Buffer.clear, hsound.capacity_eq _ (mem_of_find? hfound)]
  · exact (find?_update _ other).trans (if_neg hother)
  · exact (find?_update _ other).trans (if_neg hother)
  · exact (find?_recycle other).trans (if_neg hother)

/-! A small case: the only buffer is given back while another request waits for it, or instead the
pool is torn down and the buffer given back after that. -/

theorem lending_small :
    let steps : List Step := [.tryRequest "first", .append "first" ⟨#[1, 2, 3]⟩]
    let patience : Patience := .upTo (.ofSeconds 1)
    ∃ pool, Pool.make 1 2 = .ok pool ∧
      let l := (ofPool pool).run steps
      let out := l.request "second" patience (.ofSeconds 1) (run · [.recycle "first"])
      let refused := l.request "second" patience (.ofSeconds 1) (run · [.destroy])
      let torn := (ofPool pool).run (steps ++ [.destroy, .recycle "first"])
      (l.find? "first").map Buffer.contents = some [1, 2] ∧
        out.1 = .ok () ∧ out.2.find? "second" = some (Buffer.fresh 2) ∧
        out.2.find? "first" = none ∧ out.2.pool.waits = 1 ∧
        refused.1 = .error .destroyed ∧
        torn.pool.destroyed = true ∧ torn.pool.free = 0 ∧ torn.pool.outstanding = 0 := by
  intro steps patience
  have hmade : Pool.make 1 2 = .ok (.fresh 1 2 (by decide) (by decide)) := rfl
  refine ⟨_, hmade, ?_⟩
  intro l out refused torn
  obtain ⟨-, -, -, -, -, -, -, -, -, hrequest, -⟩ := lending hmade steps
  obtain ⟨htries, -⟩ := hrequest "second" patience (.ofSeconds 1) [.recycle "first"]
  have hok : out.1 = .ok () := htries.granted_iff.2 (by decide +kernel)
  have hkept : out.2.find? "first" = none :=
    (htries.kept "first" (fun h => absurd h.2 (by decide))).trans (by decide +kernel)
  obtain ⟨-, -, houtstanding, hfree, hdestroyed, -⟩ :=
    lending hmade (steps ++ [.destroy, .recycle "first"])
  have htorn : torn.pool.destroyed = true :=
    hdestroyed.2 (List.mem_append_right _ List.mem_cons_self)
  rw [if_pos htorn] at hfree
  exact ⟨by decide +kernel, hok, htries.lent hok, hkept, by decide +kernel, rfl,
    htorn, hfree, houtstanding.trans (by decide +kernel)⟩

end Leases

end Fanout
