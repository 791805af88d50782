import Fanout.Proofs.Writer.Attempts

/-!
# Ownership of buffers

A lane holds one buffer or none, and every operation of a writer comes down to dealings with its
outlet. So an operation leaves the outlet balanced for what the lanes hold then, and so does every
run.

* `accounts_run` — what a pool handed out and what came back differ by the buffers in use, at every
  point of every run, and by nothing when all of them are back.
-/

namespace Fanout

/-- Nothing was sent to any consumer yet. -/
def Partition.Unused (p : Partition) : Prop :=
  ∀ s ∈ p.subpartitions, s.sent = #[] ∧ s.received = 0

instance (p : Partition) : Decidable p.Unused :=
  inferInstanceAs (Decidable (∀ s ∈ p.subpartitions, s.sent = #[] ∧ s.received = 0))

namespace Writer

variable {σ : Type} {s : Schema} [ChannelSelector σ s.Value] {w : Writer σ} {capacity : Nat}
  {fate : Option Bool}

/-- Every leased buffer is in one place, with the lanes as they are. -/
def Balanced (w : Writer σ) (capacity : Nat) (fate : Option Bool) : Prop :=
  w.outlet.Balanced capacity fate (Lane.holding w.lanes)

/-- **Every operation** leaves each leased buffer in one place. -/
theorem perform_balanced (h : w.Balanced capacity fate) {op : Operation s.Value}
    (hop : fate = some false → op ≠ .turn .destroyPool) :
    (w.perform s op).2.Balanced capacity fate := by
  by_cases hturn : ∃ t, op = .turn t
  · obtain ⟨t, rfl⟩ := hturn
    exact h.turn fun hfate heq => hop hfate (congrArg Operation.turn heq)
  · obtain ⟨asks, smooth, hdeals, _⟩ :=
      perform_deals (Nat.le_refl w.lanes.length) fun t heq => hturn ⟨t, heq⟩
    exact (hdeals.balanced h).1

theorem run_balanced (h : w.Balanced capacity fate) {ops : List (Operation s.Value)}
    (hops : fate = some false → .turn .destroyPool ∉ ops) :
    (w.run s ops).Balanced capacity fate := by
  induction ops generalizing w with
  | nil => exact h
  | cons op ops ih =>
    refine ih (perform_balanced h fun hfate heq => hops hfate ?_) fun hfate hmem => hops hfate ?_
    · exact heq ▸ List.mem_cons_self
    · exact List.mem_cons_of_mem op hmem

/-! ## Runs -/

/-- The buffers of the pool that are in use: held by lanes, queued for consumers, or with others. -/
def inUse (w : Writer σ) : Nat :=
  Lane.holding w.lanes + w.outlet.partition.allQueuedBuffers + w.outlet.lent

theorem run_append (w : Writer σ) (ops later : List (Operation s.Value)) :
    w.run s (ops ++ later) = (w.run s ops).run s later := List.foldl_append

/-- The outlet of a new writer. -/
theorem outlet_make {pool : Pool} {p : Partition} {selector : σ} {options : WriterOptions}
    {now : Duration} {surroundings : Surroundings} {disk : Disk}
    (hmade : make p pool selector options now surroundings disk = .ok w) :
    w.outlet = ⟨pool, p, .start, options.patience, now, surroundings, 0, 0⟩ := by
  simp only [make] at hmade
  split_ifs at hmade
  rw [← Except.ok.inj hmade]

/-- A new writer on a new pool, and a partition through which nothing was sent yet. -/
theorem balanced_make {buffers size : Nat} {pool : Pool} (hpool : Pool.make buffers size = .ok pool)
    {p : Partition} (hp : p.Unused) {selector : σ} {options : WriterOptions} {now : Duration}
    {surroundings : Surroundings} {disk : Disk}
    (hmade : make p pool selector options now surroundings disk = .ok w)
    (hfate : fate ≠ some true) (hspare : fate = some false → surroundings.Spare) :
    w.Balanced buffers fate := by
  simp only [make] at hmade
  split_ifs at hmade
  rw [← Except.ok.inj hmade]
  have hqueued : p.allQueuedBuffers = 0 := by
    rw [Partition.allQueuedBuffers_eq_sum]
    refine List.sum_eq_zero fun n hn => ?_
    obtain ⟨sub, hsub, rfl⟩ := List.mem_map.1 hn
    rw [Subpartition.buffers_eq_sum, (hp sub hsub).1, (hp sub hsub).2]
    rfl
  refine ⟨fun sub hsub => ?_, ?_, hspare⟩
  · rw [Subpartition.Sound, (hp sub hsub).2]
    exact Nat.zero_le _
  · show pool.Accounts _ _ (Lane.holding (List.replicate p.width _) + p.allQueuedBuffers + 0)
    rw [Lane.holding_start, hqueued]
    exact Pool.accounts_make hpool hfate

/-- A pool that was torn down stays so. -/
theorem destroyed_run (h : w.Balanced capacity fate) (hdestroyed : w.outlet.pool.destroyed = true)
    (ops : List (Operation s.Value)) :
    (w.run s ops).outlet.pool.destroyed = true ∧ (w.run s ops).outlet.pool.free = 0 := by
  have hgone : w.Balanced capacity (some true) :=
    ⟨h.sound, h.accounts.of_destroyed hdestroyed, fun hfate => nomatch hfate⟩
  have hrun : (w.run s ops).Balanced capacity (some true) :=
    run_balanced hgone fun hfate => nomatch hfate
  have hstays := hrun.accounts.destroyed_eq rfl
  exact ⟨hstays, hrun.accounts.free_of_destroyed hstays⟩

/-- Turns leave the lanes alone. -/
theorem lanes_run_turns (w : Writer σ) (ts : List Turn) :
    (w.run s (ts.map .turn)).lanes = w.lanes := by
  induction ts generalizing w with
  | nil => rfl
  | cons t ts ih => exact ih (w.turn t)

/-- **Every leased buffer comes back exactly once.** In every run on a new pool, with any requests
and writes failing: the buffers that were requested and not recycled are those that lanes hold, that
are queued and that are with others; until the pool is torn down the rest of it is free, and from
then on nothing is. A pool is torn down by nothing but a turn that does just that. When the writer
was dropped and the deliveries were consumed, as much was recycled as was requested. -/
theorem accounts_run {buffers size : Nat} {pool : Pool} (hpool : Pool.make buffers size = .ok pool)
    {p : Partition} (hp : p.Unused) {selector : σ} {options : WriterOptions} {now : Duration}
    {surroundings : Surroundings} {disk : Disk}
    (hmade : make p pool selector options now surroundings disk = .ok w)
    (ops : List (Operation s.Value)) :
    let v := w.run s ops
    v.outlet.pool.requested = v.outlet.pool.recycled + v.inUse ∧
    (v.outlet.pool.destroyed = false → v.outlet.pool.free + v.inUse = buffers) ∧
    (v.outlet.pool.destroyed = true →
      ∀ later : List (Operation s.Value), (w.run s (ops ++ later)).outlet.pool.free = 0) ∧
    (.turn .destroyPool ∈ ops → v.outlet.pool.destroyed = true) ∧
    (surroundings.Spare → .turn .destroyPool ∉ ops → v.outlet.pool.destroyed = false) ∧
    ∀ ts : List Turn,
      let ended := w.run s (ops ++ .drop :: ts.map .turn)
      ended.outlet.partition.allQueuedBuffers = 0 → ended.outlet.lent = 0 →
        ended.outlet.pool.requested = ended.outlet.pool.recycled := by
  -- nothing is known about the fate of the pool, except where a part of the statement says so
  have hrun (ops : List (Operation s.Value)) : (w.run s ops).Balanced buffers none :=
    run_balanced (balanced_make hpool hp hmade (by simp) (by simp)) (by simp)
  refine ⟨(hrun ops).accounts.requested_eq, (hrun ops).accounts.free_of_alive, ?_, ?_, ?_, ?_⟩
  · intro hdestroyed later
    rw [run_append]
    exact (destroyed_run (hrun ops) hdestroyed later).2
  · intro hmem
    obtain ⟨before, after, rfl⟩ := List.append_of_mem hmem
    rw [run_append]
    have hafter : ((w.run s before).perform s (.turn .destroyPool)).2.Balanced buffers none :=
      perform_balanced (hrun before) (by simp)
    exact (destroyed_run hafter rfl after).1
  · intro hspare hnot
    have hspared : w.Balanced buffers (some false) :=
      balanced_make hpool hp hmade (by simp) fun _ => hspare
    have hstays : (w.run s ops).Balanced buffers (some false) :=
      run_balanced hspared fun _ => hnot
    exact hstays.accounts.destroyed_eq rfl
  · intro ts ended hqueued hlent
    have hlanes : Lane.holding ended.lanes = 0 := by
      show Lane.holding (w.run s (ops ++ .drop :: ts.map .turn)).lanes = 0
      rw [run_append]
      show Lane.holding (((w.run s ops).drop).run s (ts.map .turn)).lanes = 0
      rw [lanes_run_turns]
      exact holding_clear (w.run s ops)
    have hrequested := (hrun (ops ++ .drop :: ts.map .turn)).accounts.requested_eq
    change _ = _ + (Lane.holding ended.lanes + ended.outlet.partition.allQueuedBuffers +
      ended.outlet.lent) at hrequested
    rw [hlanes, hqueued, hlent] at hrequested
    exact hrequested

/-- A record in two buffers of a pool of two; the consumer takes the first one, the pool is torn
down, and everything comes back in the end. -/
theorem accounts_run_small :
    let ops : List (Operation Schema.bytes.Value) :=
      [.emit [1, 2, 3, 4, 5, 6] none, .turn (.receive ⟨0⟩), .turn .destroyPool]
    let v := smallWriter.run .bytes ops
    v.inUse = 2 ∧ v.outlet.lent = 1 ∧
    v.outlet.pool.requested = v.outlet.pool.recycled + v.inUse ∧
    (∀ later, (smallWriter.run .bytes (ops ++ later)).outlet.pool.free = 0) ∧
    (smallWriter.run .bytes (ops ++ [.drop, .turn .settle])).outlet.pool.requested =
      (smallWriter.run .bytes (ops ++ [.drop, .turn .settle])).outlet.pool.recycled := by
  intro ops v
  have hmade : make smallPartition smallPool ⟨⟩ ⟨none, none, .unlimited⟩ (.ofSeconds 1) .attentive
      Disk.empty = .ok smallWriter := rfl
  have hpool : Pool.make 2 8 = .ok smallPool := rfl
  obtain ⟨hrequested, _, hnever, hgone, _, hended⟩ :=
    accounts_run (s := .bytes) hpool (by decide) hmade ops
  refine ⟨by decide +kernel, by decide +kernel, hrequested, hnever (hgone (by simp [ops])), ?_⟩
  exact hended [.settle] (by decide +kernel) (by decide +kernel)

end Writer

end Fanout
