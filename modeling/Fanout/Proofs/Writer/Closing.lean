import Fanout.Proofs.Writer.Dispatches
import Fanout.Proofs.Writer.Ownership
import Fanout.Proofs.Writer.Quiescence

/-!
# Closing

A writer that was closed is finished: its lanes are as they were at the start, whatever state
earlier failures had left them in and whether or not the flush that closing begins with fails, and
no segment of its recovery log is open. From then on the writer stays as it is, whatever its caller
does; only others still act on the pool and the partition.

* `Finished.perform` — what each operation comes to on a finished writer.
* `finished_close` — closing finishes the writer.
* `close_run` — the end of every run that is closed.
-/

namespace Fanout

/-- The result of an operation on a writer that was closed before. -/
def Operation.afterClose {α : Type} : Operation α → Except WriterError Unit
  | emit _ _ | broadcast _ | endSuperstep => .error (.illegalState .closed)
  | flush | close | clear | drop | turn _ => .ok ()

/-- Lanes that are as at the start give nothing up when they are cleared. -/
theorem Lane.clearAll_of_start {lanes : List Serializer}
    (hlanes : ∀ lane ∈ lanes, lane = Serializer.start) (pool : Pool) :
    Lane.clearAll lanes pool = (0, lanes, pool) := by
  induction lanes with
  | nil => rfl
  | cons lane lanes ih =>
    obtain ⟨hlane, hrest⟩ := List.forall_mem_cons.1 hlanes
    subst hlane
    show ((clearAll lanes pool).1, _ :: (clearAll lanes pool).2.1, (clearAll lanes pool).2.2) = _
    rw [ih hrest]
    rfl

namespace Writer

variable {σ : Type} {s : Schema} [ChannelSelector σ s.Value] {w : Writer σ} {p : Partition}
  {op : Operation s.Value}

/-- **A finished writer** is closed and has nothing left to give up. -/
structure Finished (w : Writer σ) : Prop where
  closed : w.closed = true
  lane_eq : ∀ lane ∈ w.lanes, lane = Serializer.start
  shut : w.backup.Shut

namespace Finished

variable (h : w.Finished)

include h

/-- There is nothing to clear. -/
theorem clear : w.clear = (0, w) := by
  have hcount (n : UInt64) : n + UInt64.ofNat 0 = n := UInt64.add_zero n
  simp only [Writer.clear, Lane.clearAll_of_start h.lane_eq, Traffic.countDiscarded, hcount]

/-- There is nothing to flush. -/
theorem flush : w.flush = (.ok (), w) := by
  have hnone : ∀ lane ∈ w.lanes, lane.buffer = none := fun lane hlane => by
    rw [h.lane_eq lane hlane]
    rfl
  have hsettled : Lane.Settled w.lanes := fun lane hlane => by
    rw [h.lane_eq lane hlane]
    rfl
  obtain ⟨hsame, hok⟩ := flush_of_none_held hnone h.shut
  exact Prod.ext (hok hsettled) hsame

/-- **No operation of the caller changes a finished writer**: it is refused, or there is nothing to
do. -/
theorem perform (hop : ∀ t, op ≠ .turn t) : w.perform s op = (op.afterClose, w) := by
  cases op with
  | emit _ _ | broadcast _ | endSuperstep | close => exact if_pos h.closed
  | flush => exact h.flush
  | clear =>
    show (_, w.clear.2) = _
    rw [h.clear]
    rfl
  | drop =>
    show (_, { w.clear.2 with backup := w.clear.2.backup.close w.clear.2.outlet.now }) = _
    rw [h.clear]
    simp only [Backup.close_of_shut _ h.shut]
    rfl
  | turn t => exact absurd rfl (hop t)

/-- Others may act on the pool and the partition; the writer stays finished, and nothing more is
offered to the partition. -/
theorem step (op : Operation s.Value) : (w.perform s op).2.Finished ∧
    (w.perform s op).2.outlet.partition.offers = w.outlet.partition.offers := by
  by_cases hturn : ∃ t, op = .turn t
  · obtain ⟨t, rfl⟩ := hturn
    exact ⟨⟨h.closed, h.lane_eq, h.shut⟩, w.outlet.offers_turn t⟩
  · rw [h.perform fun t ht => hturn ⟨t, ht⟩]
    exact ⟨h, rfl⟩

theorem run (ops : List (Operation s.Value)) : (w.run s ops).Finished ∧
    (w.run s ops).outlet.partition.offers = w.outlet.partition.offers := by
  induction ops generalizing w with
  | nil => exact ⟨h, rfl⟩
  | cons op ops ih =>
    obtain ⟨hfinished, hoffers⟩ := h.step op
    obtain ⟨hlast, hlater⟩ := ih hfinished
    exact ⟨hlast, hlater.trans hoffers⟩

end Finished

/-! ## The way there -/

/-- **Closing finishes a writer**, also if its flush fails. -/
theorem finished_close (hopen : w.closed = false) (haddressed : w.backup.Addressed) :
    w.close.2.Finished := by
  rw [close_eq hopen]
  refine ⟨rfl, fun lane hlane => ?_, Backup.shut_close _ haddressed⟩
  change lane ∈ (Lane.clearAll w.flush.2.lanes w.flush.2.outlet.pool).2.1 at hlane
  rw [clearAll_lanes] at hlane
  obtain ⟨_, _, rfl⟩ := List.mem_map.1 hlane
  rfl

/-- Nothing else closes a writer. -/
theorem closed_perform (hopen : w.closed = false) (hop : op ≠ .close) :
    (w.perform s op).2.closed = false := by
  have hwork (hop : op.AtWork) := (perform_steers hopen hop).closed_eq.trans hopen
  cases op with
  | close => exact absurd rfl hop
  | emit _ _ | broadcast _ | endSuperstep | flush | turn _ => exact hwork trivial
  | clear | drop => exact hopen

theorem MadeFor.closed (hmade : w.MadeFor p) : w.closed = false := by
  obtain ⟨pool, selector, options, now, surroundings, disk, h⟩ := hmade
  simp only [make] at h
  split_ifs at h
  rw [← Except.ok.inj h]

/-- **A writer that is closed is finished**, in every state that it reaches. -/
theorem MadeFor.finished_run (hmade : w.MadeFor p) (ops : List (Operation s.Value)) :
    (w.run s ops).closed = true → (w.run s ops).Finished := by
  induction ops using List.reverseRecOn with
  | nil => exact fun h => absurd h (Bool.eq_false_iff.1 hmade.closed)
  | append_singleton ops op ih =>
    rw [run_concat]
    intro hclosed
    by_cases hbefore : (w.run s ops).closed = true
    · exact ((ih hbefore).step op).1
    · have hopen := Bool.eq_false_iff.2 hbefore
      -- the operation closed it
      by_cases hop : op = .close
      · subst hop
        exact finished_close hopen (hmade.addressed_run ops)
      · exact absurd hclosed (Bool.eq_false_iff.1 (closed_perform hopen hop))

/-- A run that was closed leaves a finished writer, whether it was closed before or not. -/
theorem MadeFor.finished_perform_close (hmade : w.MadeFor p) (ops : List (Operation s.Value)) :
    ((w.run s ops).perform s .close).2.Finished := by
  rw [← run_concat]
  refine hmade.finished_run _ ?_
  rw [run_concat]
  show (w.run s ops).close.2.closed = true
  unfold close
  split
  · assumption
  · rfl

/-- **Closing is the end.** Take any run on a new pool, whatever failed in it, close the writer,
whether or not closing reports an error, and go on with any operations. At every later point the
lanes hold no buffers and no bytes that wait for one, no segment of the recovery log is open, and
every buffer that was ever handed out is back in the pool, queued in the partition or with others.
Nothing more is ever offered to the partition. Records, events and ends of supersteps are refused,
closing again, flushing, clearing and dropping find nothing to do, and none of them changes anything
at all. -/
theorem close_run {buffers size : Nat} {pool : Pool} (hpool : Pool.make buffers size = .ok pool)
    (hp : p.Unused) {selector : σ} {options : WriterOptions} {now : Duration}
    {surroundings : Surroundings} {disk : Disk}
    (hmade : make p pool selector options now surroundings disk = .ok w)
    (ops later : List (Operation s.Value)) :
    let ended := ((w.run s ops).perform s .close).2
    let v := ended.run s later
    (∀ lane ∈ v.lanes, lane.buffer = none ∧ lane.pendingSize = 0) ∧ v.backup.Shut ∧
    v.outlet.pool.requested =
      v.outlet.pool.recycled + v.outlet.partition.allQueuedBuffers + v.outlet.lent ∧
    v.outlet.partition.offers = ended.outlet.partition.offers ∧
    (∀ op : Operation s.Value, (∀ t, op ≠ .turn t) → v.perform s op = (op.afterClose, v)) ∧
    v.clear.1 = 0 := by
  intro ended v
  have hended : ended.Finished := by
    have hmadeFor : w.MadeFor p := ⟨_, _, _, _, _, _, hmade⟩
    exact hmadeFor.finished_perform_close ops
  obtain ⟨hfinished, hoffers⟩ := hended.run later
  have hrun : v = w.run s ((ops ++ [.close]) ++ later) := by
    rw [run_append, run_concat]
  have hbalanced : v.Balanced buffers none := by
    rw [hrun]
    exact run_balanced (balanced_make hpool hp hmade (by simp) (by simp)) (by simp)
  have hholding : Lane.holding v.lanes = 0 := by
    refine List.sum_eq_zero fun n hn => ?_
    obtain ⟨lane, hlane, rfl⟩ := List.mem_map.1 hn
    rw [hfinished.lane_eq lane hlane]
    rfl
  refine ⟨fun lane hlane => ?_, hfinished.shut, ?_, hoffers, fun op hop => hfinished.perform hop,
    congrArg Prod.fst hfinished.clear⟩
  · rw [hfinished.lane_eq lane hlane]
    exact ⟨rfl, rfl⟩
  · have hrequested := hbalanced.accounts.requested_eq
    rw [hholding, Nat.zero_add] at hrequested
    rw [hrequested, Nat.add_assoc]

/-- The pool is torn down when the second frame is in part in a buffer, so closing reports the bytes
that wait; they are given up all the same, and the buffer of the first frame was sent before. -/
theorem close_run_small :
    let ops : List (Operation Schema.bytes.Value) :=
      [.emit [1, 2] none, .turn .destroyPool, .emit [3, 4] none]
    let ended := ((smallWriter.run .bytes ops).perform .bytes .close).2
    let v := ended.run .bytes [.turn (.receive ⟨0⟩)]
    ((smallWriter.run .bytes ops).perform .bytes .close).1 =
      .error (.illegalState (.unfinishedRecord ⟨0⟩ 6)) ∧
    (∀ lane ∈ v.lanes, lane.buffer = none ∧ lane.pendingSize = 0) ∧
    v.outlet.pool.requested = v.outlet.pool.recycled + v.outlet.lent ∧
    v.perform .bytes (.emit [5] none) = (.error (.illegalState .closed), v) ∧
    v.perform .bytes .close = (.ok (), v) := by
  intro ops ended v
  have hmade : make smallPartition smallPool ⟨⟩ ⟨none, none, .unlimited⟩ (.ofSeconds 1) .attentive
      Disk.empty = .ok smallWriter := rfl
  have hpool : Pool.make 2 8 = .ok smallPool := rfl
  obtain ⟨hlanes, -, hrequested, -, hperform, -⟩ := close_run (s := .bytes) hpool (by decide) hmade
    ops [.turn (.receive ⟨0⟩)]
  have hqueued : v.outlet.partition.allQueuedBuffers = 0 := by decide +kernel
  change v.outlet.pool.requested = v.outlet.pool.recycled +
    v.outlet.partition.allQueuedBuffers + v.outlet.lent at hrequested
  rw [hqueued] at hrequested
  exact ⟨by decide +kernel, hlanes, hrequested, hperform (.emit [5] none) (by simp),
    hperform .close (by simp)⟩

end Writer

end Fanout
