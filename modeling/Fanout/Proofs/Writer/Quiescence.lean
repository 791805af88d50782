import Fanout.Proofs.Writer.Flushes

/-!
# Quiescence

A lane that holds no bytes has nothing to send. No buffer moves when such lanes are flushed for an
event or for the end of a superstep (`Outlet.Still`), and what they hold, if anything, are empty
buffers, which the next flush gives back. Nothing but a record puts bytes into a lane.

* `barrier_still`, `flush_of_unheld` — a barrier, and a flush, of lanes without bytes.
* `quiescent_run` — repeating a flush or a barrier finds nothing to do, in every state that a writer
  reaches.
-/

namespace Fanout

/-- An event or a marker. -/
def Delivery.IsMark (d : Delivery) : Prop := ∃ m : Mark, m.delivery = d

namespace Operation

variable {α : Type}

/-- The operations that send a mark on every channel, behind all that was emitted. -/
def IsBarrier : Operation α → Prop
  | broadcast _ | endSuperstep => True
  | emit _ _ | flush | close | clear | drop | turn _ => False

/-- All operations that put no record into a lane. -/
def Quiet : Operation α → Prop
  | emit _ _ => False
  | broadcast _ | endSuperstep | flush | close | clear | drop | turn _ => True

instance : DecidablePred (Quiet (α := α))
  | emit _ _ => .isFalse id
  | broadcast _ | endSuperstep | flush | close | clear | drop | turn _ => .isTrue trivial

end Operation

/-- **No buffer moves** from one outlet to the next: none is asked for, offered or given back. At
most marks are sent. -/
structure Outlet.Still (o o' : Outlet) : Prop where
  pool_eq : o'.pool = o.pool
  requests_eq : o'.requests = o.requests
  adds : o.partition.Adds Delivery.IsMark o'.partition
  buffers_eq : o'.traffic.buffers = o.traffic.buffers
  bytes_eq : o'.traffic.bytes = o.traffic.bytes
  discarded_eq : o'.traffic.discarded = o.traffic.discarded

namespace Outlet

variable {o o' o'' : Outlet}

theorem Still.refl (o : Outlet) : o.Still o := ⟨rfl, rfl, .of_offers rfl, rfl, rfl, rfl⟩

theorem Still.trans (h : o.Still o') (h' : o'.Still o'') : o.Still o'' where
  pool_eq := h'.pool_eq.trans h.pool_eq
  requests_eq := h'.requests_eq.trans h.requests_eq
  adds := h.adds.trans h'.adds
  buffers_eq := h'.buffers_eq.trans h.buffers_eq
  bytes_eq := h'.bytes_eq.trans h.bytes_eq
  discarded_eq := h'.discarded_eq.trans h.discarded_eq

theorem still_sendEvent (o : Outlet) (c : ChannelId) (e : Event) : o.Still (o.sendEvent c e).2 := by
  refine ⟨?_, o.requests_sendEvent c e, o.adds_sendEvent c ⟨.event e, rfl⟩, ?_, ?_, ?_⟩ <;>
    unfold sendEvent <;> rcases o.partition.writeEvent c e with ⟨_ | _, p⟩ <;> rfl

theorem still_endSuperstep (o : Outlet) : o.Still o.endSuperstep.2 := by
  refine ⟨?_, o.requests_endSuperstep, adds_endSuperstep ⟨.endOfSuperstep, rfl⟩ o, ?_, ?_, ?_⟩ <;>
    unfold endSuperstep <;> rcases o.partition.writeEndOfSuperstep with ⟨_ | _, p⟩ <;> rfl

end Outlet

/-! ## Lanes without bytes -/

namespace Lane

variable {c : ChannelId} {s : Serializer} {o : Outlet}

/-- Flushing a lane without bytes does nothing. -/
theorem flush_of_unheld (hs : s.held = []) :
    ∃ r : Except WriterError Bool, flush c s o = (r, s, o) ∧ r ≠ .ok true := by
  have hflushed := flush_flushed c s o
  generalize flush c s o = out at hflushed
  cases hflushed with
  | fenced e _ => exact ⟨.error e, rfl, fun h => nomatch h⟩
  | idle _ _ => exact ⟨.ok false, rfl, fun h => nomatch h⟩
  | sent _ hb hcontents =>
    rw [Serializer.held_of_buffer hb] at hs
    exact absurd hs hcontents

/-- A step for which a lane without bytes needs no buffer: the lane stays as it is. -/
def Rests (step : ChannelId → Serializer → Outlet → LaneResult Unit) : Prop :=
  ∀ c s o, s.held = [] → (step c s o).2.1 = s ∧ o.Still (step c s o).2.2

theorem rests_sendEvent (e : Event) : Rests (sendEvent e) := by
  intro c s o hs
  obtain ⟨r, hflush, hr⟩ := flush_of_unheld (c := c) (o := o) hs
  unfold sendEvent
  rw [hflush]
  rcases r with cause | _ | _
  · exact ⟨rfl, .refl o⟩
  · have hstill := o.still_sendEvent c e
    rcases hsent : o.sendEvent c e with ⟨_ | _, o'⟩ <;> rw [hsent] at hstill
    · simp only [hsent]
      exact ⟨trivial, hstill⟩
    · simp only [hsent]
      exact ⟨rfl, hstill⟩
  · exact absurd rfl hr

theorem rests_endSuperstep : Rests endSuperstep := by
  intro c s o hs
  obtain ⟨r, hflush, hr⟩ := flush_of_unheld (c := c) (o := o) hs
  unfold endSuperstep
  rw [hflush]
  rcases r with cause | _ | _
  · exact ⟨rfl, .refl o⟩
  · exact ⟨rfl, .refl o⟩
  · exact absurd rfl hr

theorem sweep_of_unheld {step : ChannelId → Serializer → Outlet → LaneResult Unit}
    (hstep : Rests step) (i : Nat) {lanes : List Serializer} (o : Outlet)
    (hlanes : ∀ s ∈ lanes, s.held = []) :
    (sweep step i lanes o).2.1 = lanes ∧ o.Still (sweep step i lanes o).2.2 := by
  induction lanes generalizing i o with
  | nil => exact ⟨rfl, .refl o⟩
  | cons s lanes ih =>
    obtain ⟨hs, hlanes⟩ := List.forall_mem_cons.1 hlanes
    obtain ⟨hsame, hstill⟩ := hstep (ChannelId.ofNat i) s o hs
    unfold sweep
    rcases hout : step (ChannelId.ofNat i) s o with ⟨_ | _, s', o'⟩ <;>
      rw [hout] at hsame hstill
    · exact ⟨congrArg (· :: lanes) hsame, hstill⟩
    · obtain ⟨hrest, hlater⟩ := ih (i + 1) o' hlanes
      exact ⟨congrArg₂ _ hsame hrest, hstill.trans hlater⟩

/-- Flushing lanes that hold no buffer does nothing, and succeeds if nothing waits for one. -/
theorem sweepAll_retire_of_none (i : Nat) {lanes : List Serializer} (o : Outlet)
    (hlanes : ∀ s ∈ lanes, s.buffer = none) :
    (sweepAll retire i lanes o).2 = (lanes, o) ∧
      (Settled lanes → (sweepAll retire i lanes o).1 = .ok ()) := by
  induction lanes generalizing i o with
  | nil => exact ⟨rfl, fun _ => rfl⟩
  | cons s lanes ih =>
    obtain ⟨hs, hlanes⟩ := List.forall_mem_cons.1 hlanes
    obtain ⟨r, hretire, hok⟩ := retire_of_none (c := ChannelId.ofNat i) (o := o) hs
    obtain ⟨hsame, hrest⟩ := ih (i + 1) o hlanes
    simp only [sweepAll, hretire, hsame]
    refine ⟨trivial, fun hsettled => ?_⟩
    obtain ⟨hs, hsettled⟩ := List.forall_mem_cons.1 hsettled
    rw [hok hs]
    exact hrest hsettled

/-- What retiring makes of a lane without bytes. -/
theorem lane_retire_of_unheld (hs : s.held = []) :
    (retire c s o).2.1 = s ∨ (retire c s o).2.1 = s.release := by
  obtain ⟨r, hflush, -⟩ := flush_of_unheld (c := c) (o := o) hs
  unfold retire
  rw [hflush]
  rcases r with cause | sent
  · exact .inl rfl
  · cases hb : s.buffer with
    | none =>
      simp only [hb]
      exact .inl trivial
    | some b =>
      simp only [hb]
      exact .inr trivial

/-- Lanes without bytes have nothing to offer. -/
theorem outgoing_of_unheld (i : Nat) {lanes : List Serializer} (hlanes : ∀ s ∈ lanes, s.held = []) :
    outgoing (numbered i lanes) = [] := by
  refine List.filterMap_eq_nil_iff.2 fun x hx => ?_
  have hlane : x.2 ∈ lanes := lanes_numbered i lanes ▸ List.mem_map_of_mem hx
  have hload : x.2.load = none := by
    cases hb : x.2.buffer with
    | none => exact Serializer.load_of_none hb
    | some b =>
      have hheld := hlanes _ hlane
      rw [Serializer.held_of_buffer hb] at hheld
      exact Serializer.load_of_empty hb (b.isEmpty_iff.2 hheld)
  rw [hload]
  rfl

/-- All buffers of lanes without bytes are empty. -/
theorem empties_of_unheld {lanes : List Serializer} (hlanes : ∀ s ∈ lanes, s.held = []) :
    empties lanes = holding lanes := by
  induction lanes with
  | nil => rfl
  | cons s lanes ih =>
    obtain ⟨hs, hlanes⟩ := List.forall_mem_cons.1 hlanes
    rw [holding_cons, empties, List.countP_cons, ← empties, ih hlanes, Nat.add_comm]
    congr 1
    cases hb : s.buffer with
    | none =>
      rw [Serializer.holding_of_none hb]
      rfl
    | some b =>
      rw [Serializer.held_of_buffer hb] at hs
      rw [Serializer.holding_of_some hb, Option.any_some, b.isEmpty_iff.2 hs]
      rfl

end Lane

namespace Writer

variable {σ : Type} {s : Schema} [ChannelSelector σ s.Value] {w : Writer σ} {p : Partition}
  {size : Nat} {op : Operation s.Value}

/-! ## One operation -/

/-- **A barrier over lanes without bytes** leaves them as they are and moves no buffer, whether or
not the partition takes its marks. -/
theorem barrier_still (hlanes : ∀ lane ∈ w.lanes, lane.held = []) (hop : op.IsBarrier) :
    (w.perform s op).2.lanes = w.lanes ∧ w.outlet.Still (w.perform s op).2.outlet := by
  cases op with
  | broadcast e =>
    show (w.broadcast e).2.lanes = _ ∧ w.outlet.Still (w.broadcast e).2.outlet
    unfold broadcast
    split
    · exact ⟨rfl, .refl _⟩
    · exact Lane.sweep_of_unheld (Lane.rests_sendEvent e) 0 w.outlet hlanes
  | endSuperstep =>
    have hswept := Lane.sweep_of_unheld Lane.rests_endSuperstep 0 w.outlet hlanes
    have hended : Ended w (w.perform s .endSuperstep) := endSuperstep_ended w
    cases hended with
    | closed e hout =>
      rw [hout]
      exact ⟨rfl, .refl _⟩
    | stopped e hsweep _ =>
      rw [hsweep] at hswept
      exact hswept
    | @marked o hsweep _ houtlet =>
      rw [hsweep] at hswept
      rw [houtlet]
      exact ⟨hswept.1, hswept.2.trans o.still_endSuperstep⟩
  | emit _ _ | flush | close | clear | drop | turn _ => exact hop.elim

/-- A barrier that succeeds leaves nothing unsent on any lane. -/
theorem unsent_barrier (hop : op.IsBarrier) (hok : (w.perform s op).1 = .ok ()) :
    ∀ lane ∈ (w.perform s op).2.lanes, lane.unsent = [] := by
  cases op with
  | broadcast e =>
    have hswept := Lane.sweep_of_ok (P := (·.unsent = [])) (Lane.unsent_sendEvent · · · e) 0
      w.lanes w.outlet
    change (w.broadcast e).1 = .ok () at hok
    show ∀ lane ∈ (w.broadcast e).2.lanes, _
    unfold broadcast at hok ⊢
    split at hok
    · exact nomatch hok
    · rename_i hopen
      rw [if_neg hopen]
      exact hswept hok
  | endSuperstep =>
    have hswept := Lane.sweep_of_ok (P := (·.unsent = [])) Lane.unsent_endSuperstep 0 w.lanes
      w.outlet
    have hended : Ended w (w.perform s .endSuperstep) := endSuperstep_ended w
    cases hended with
    | closed e hout =>
      rw [hout] at hok
      exact nomatch hok
    | stopped e _ hresult => exact nomatch hok.symm.trans hresult
    | marked hsweep _ _ =>
      rw [hsweep] at hswept
      exact hswept rfl
  | emit _ _ | flush | close | clear | drop | turn _ => exact hop.elim

/-- **A flush of a writer that holds no buffer and has no segment open** does nothing, and succeeds
if nothing waits for a buffer. -/
theorem flush_of_none_held (hlanes : ∀ lane ∈ w.lanes, lane.buffer = none) (hshut : w.backup.Shut) :
    w.flush.2 = w ∧ (Lane.Settled w.lanes → w.flush.1 = .ok ()) := by
  obtain ⟨hsame, hok⟩ := Lane.sweepAll_retire_of_none 0 w.outlet hlanes
  unfold flush
  rcases hout : Lane.sweepAll Lane.retire 0 w.lanes w.outlet with ⟨r, lanes, o⟩
  rw [hout] at hsame hok
  obtain ⟨rfl, rfl⟩ := Prod.mk.inj hsame
  simp only [Backup.close_of_shut _ hshut]
  exact ⟨trivial, hok⟩

/-- **A flush of lanes that hold no bytes** gives back just the buffers that they hold. -/
theorem flush_of_unheld (h : w.Roomy size) (hw : w.lanes.length ≤ maxChannels)
    (hlanes : ∀ lane ∈ w.lanes, lane.held = []) :
    (w.flush.1 = .ok () ↔ Lane.Settled w.lanes) ∧
      w.flush.2.outlet.partition = w.outlet.partition ∧
      w.flush.2.outlet.pool = w.outlet.pool.recycleMany (Lane.holding w.lanes) ∧
      w.flush.2.outlet.requests = w.outlet.requests ∧
      ∀ lane ∈ w.flush.2.lanes, lane.buffer = none := by
  have hflush := h.flush hw
  have hok := hflush.eq_ok_iff
  have hpartition := hflush.partition_eq
  have hpool := hflush.pool_eq
  rw [Lane.outgoing_of_unheld 0 hlanes] at hok hpartition hpool
  rw [Lane.empties_of_unheld hlanes] at hpool
  exact ⟨hok.trans (and_iff_left rfl), hpartition, hpool, hflush.requests_eq,
    hflush.buffer_eq_none⟩

/-! ## Without records -/

/-- The log of a writer with no segment open is only told to finish while no record is emitted. -/
theorem backup_perform (hop : op.Quiet) (hshut : w.backup.Shut) :
    (w.perform s op).2.backup = w.backup := by
  have hbackup := congrArg (·.2.backup) (perform_withBackup w w.backup op)
  have hfinish (now : Duration) : w.backup.callAll [.finish now] = w.backup :=
    Backup.close_of_shut now hshut
  change (w.perform s op).2.backup = w.backup.callAll (w.logCalls s op) at hbackup
  rw [hbackup]
  cases op with
  | emit _ _ => exact hop.elim
  | endSuperstep =>
    show w.backup.callAll (if w.closed then _ else _) = _
    split
    · rfl
    · split
      · exact hfinish _
      · rfl
  | flush | drop => exact hfinish _
  | close =>
    show w.backup.callAll (if w.closed then _ else _) = _
    split
    · rfl
    · exact hfinish _
  | broadcast _ | clear | turn _ => rfl

/-- What is true of lanes without bytes, and of what they are when they have given up a buffer or
have been cleared, stays true while no record is emitted. -/
theorem lanes_perform_quiet {P : Serializer → Prop} (hunheld : ∀ lane, P lane → lane.held = [])
    (hrelease : ∀ lane, P lane → P lane.release) (hstart : P Serializer.start)
    (hlanes : ∀ lane ∈ w.lanes, P lane) (hop : op.Quiet) :
    ∀ lane ∈ (w.perform s op).2.lanes, P lane := by
  have hheld : ∀ lane ∈ w.lanes, lane.held = [] := fun lane hlane =>
    hunheld lane (hlanes lane hlane)
  have hbarrier (hop : op.IsBarrier) : ∀ lane ∈ (w.perform s op).2.lanes, P lane :=
    (barrier_still hheld hop).1 ▸ hlanes
  have hcleared (w : Writer σ) : ∀ lane ∈ w.clear.2.lanes, P lane := by
    intro lane hlane
    change lane ∈ (Lane.clearAll w.lanes w.outlet.pool).2.1 at hlane
    rw [clearAll_lanes] at hlane
    obtain ⟨_, _, rfl⟩ := List.mem_map.1 hlane
    exact hstart
  cases op with
  | emit _ _ => exact hop.elim
  | broadcast e => exact hbarrier trivial
  | endSuperstep => exact hbarrier trivial
  | flush =>
    refine Lane.lanes_sweepAll (P := P) (Q := fun _ => True) (fun c lane o hlane _ => ⟨?_, trivial⟩)
      0 hlanes trivial
    rcases Lane.lane_retire_of_unheld (c := c) (o := o) (hunheld lane hlane) with h | h
    · rw [h]
      exact hlane
    · rw [h]
      exact hrelease lane hlane
  | close =>
    show ∀ lane ∈ w.close.2.lanes, P lane
    unfold close
    split
    · exact hlanes
    · exact hcleared _
  | clear | drop => exact hcleared w
  | turn t => exact hlanes

theorem lanes_run_quiet {P : Serializer → Prop} (hunheld : ∀ lane, P lane → lane.held = [])
    (hrelease : ∀ lane, P lane → P lane.release) (hstart : P Serializer.start)
    (hlanes : ∀ lane ∈ w.lanes, P lane) {ops : List (Operation s.Value)}
    (hops : ∀ op ∈ ops, op.Quiet) : ∀ lane ∈ (w.run s ops).lanes, P lane := by
  induction ops generalizing w with
  | nil => exact hlanes
  | cons op ops ih =>
    obtain ⟨hop, hops⟩ := List.forall_mem_cons.1 hops
    exact ih (lanes_perform_quiet hunheld hrelease hstart hlanes hop) hops

theorem backup_run_quiet (hshut : w.backup.Shut) {ops : List (Operation s.Value)}
    (hops : ∀ op ∈ ops, op.Quiet) : (w.run s ops).backup = w.backup := by
  induction ops generalizing w with
  | nil => rfl
  | cons op ops ih =>
    obtain ⟨hop, hops⟩ := List.forall_mem_cons.1 hops
    have hsame := backup_perform hop hshut
    exact (ih (hsame ▸ hshut) hops).trans hsame

/-- Lanes that hold no buffers hold none until a record is emitted, and if nothing waits for one,
nothing does until then. -/
theorem none_run_quiet (hlanes : ∀ lane ∈ w.lanes, lane.buffer = none)
    {ops : List (Operation s.Value)} (hops : ∀ op ∈ ops, op.Quiet) :
    (∀ lane ∈ (w.run s ops).lanes, lane.buffer = none) ∧
      (Lane.Settled w.lanes → Lane.Settled (w.run s ops).lanes) := by
  refine ⟨?_, fun hsettled lane hlane => ?_⟩
  · exact lanes_run_quiet (P := (·.buffer = none)) (fun _ h => Serializer.held_of_none h)
      (fun _ _ => rfl) rfl hlanes hops
  · exact (lanes_run_quiet (P := fun lane => lane.buffer = none ∧ lane.hasPending = false)
      (fun _ h => Serializer.held_of_none h.1) (fun _ h => ⟨rfl, h.2⟩) ⟨rfl, rfl⟩
      (fun lane hlane => ⟨hlanes lane hlane, hsettled lane hlane⟩) hops lane hlane).2

/-- Lanes with nothing unsent have nothing unsent until a record is emitted. -/
theorem unsent_run_quiet (hlanes : ∀ lane ∈ w.lanes, lane.unsent = [])
    {ops : List (Operation s.Value)} (hops : ∀ op ∈ ops, op.Quiet) :
    ∀ lane ∈ (w.run s ops).lanes, lane.unsent = [] := by
  refine lanes_run_quiet (P := (·.unsent = [])) (fun _ h => (List.append_eq_nil_iff.1 h).1)
    (fun lane h => ?_) rfl hlanes hops
  rw [Serializer.unsent_release]
  exact (List.append_eq_nil_iff.1 h).2

/-- **Repeated flushes and barriers find nothing to do**, in every state that a writer reaches, also
after operations that failed.

After a flush, whether or not it failed, no lane holds a buffer and no segment of the recovery log
is open. Whatever else is done then, as long as no record is emitted, another flush changes nothing
at all, and it succeeds if the first one did.

After a barrier that succeeded no lane has anything unsent: the buffers that lanes hold are empty
ones. Whatever else is done then, as long as no record is emitted, another barrier leaves the lanes
as they are and moves no buffer, and a flush succeeds, sends nothing and gives back just the buffers
that the lanes hold. -/
theorem quiescent_run (hmade : w.MadeFor p) (ops : List (Operation s.Value)) :
    let v := w.run s ops
    ((∀ lane ∈ v.flush.2.lanes, lane.buffer = none) ∧ v.flush.2.backup.Shut ∧
      ∀ between : List (Operation s.Value), (∀ op ∈ between, op.Quiet) →
        let again := v.flush.2.run s between
        again.flush.2 = again ∧ (v.flush.1 = .ok () → again.flush.1 = .ok ())) ∧
    ∀ barrier : Operation s.Value, barrier.IsBarrier → (v.perform s barrier).1 = .ok () →
      (∀ lane ∈ (v.perform s barrier).2.lanes, lane.unsent = []) ∧
      ∀ between : List (Operation s.Value), (∀ op ∈ between, op.Quiet) →
        let after := (v.perform s barrier).2.run s between
        (∀ next : Operation s.Value, next.IsBarrier → (after.perform s next).2.lanes = after.lanes ∧
          after.outlet.Still (after.perform s next).2.outlet) ∧
        after.flush.1 = .ok () ∧
        after.flush.2.outlet.partition = after.outlet.partition ∧
        after.flush.2.outlet.requests = after.outlet.requests ∧
        after.flush.2.outlet.pool = after.outlet.pool.recycleMany (Lane.holding after.lanes) ∧
        ∀ lane ∈ after.flush.2.lanes, lane.buffer = none := by
  intro v
  have hroomy : v.Roomy w.outlet.pool.bufferSize := hmade.roomy.run ops
  have hwidth : v.lanes.length ≤ maxChannels := hmade.start.length_run_le ops
  have hnone : ∀ lane ∈ v.flush.2.lanes, lane.buffer = none := (hroomy.flush hwidth).buffer_eq_none
  have hshut := hmade.shut_flush ops
  refine ⟨⟨hnone, hshut, fun between hbetween => ?_⟩, fun barrier hbarrier hok => ?_⟩
  · intro again
    obtain ⟨hagain, hstays⟩ := none_run_quiet hnone hbetween
    have hsame : again.backup = v.flush.2.backup := backup_run_quiet hshut hbetween
    obtain ⟨hidle, hsucceeds⟩ := flush_of_none_held hagain (hsame ▸ hshut)
    -- whatever waited for a buffer would have failed the first flush
    refine ⟨hidle, fun hok => hsucceeds (hstays ?_)⟩
    exact Lane.sweepAll_of_ok (P := (·.hasPending = false)) Lane.settles_retire 0 v.lanes v.outlet
      hok
  · have hunsent := unsent_barrier hbarrier hok
    refine ⟨hunsent, fun between hbetween => ?_⟩
    intro after
    have hafter : ∀ lane ∈ after.lanes, lane.unsent = [] := unsent_run_quiet hunsent hbetween
    have hheld : ∀ lane ∈ after.lanes, lane.held = [] := fun lane hlane =>
      (List.append_eq_nil_iff.1 (hafter lane hlane)).1
    have hroomy' : after.Roomy w.outlet.pool.bufferSize := (hroomy.perform barrier).run between
    have hwidth' : after.lanes.length ≤ maxChannels := by
      rw [show after.lanes.length = _ from length_run _ between, length_perform]
      exact hwidth
    obtain ⟨hsucceeds, hpartition, hpool, hrequests, hgiven⟩ :=
      flush_of_unheld hroomy' hwidth' hheld
    refine ⟨fun next hnext => barrier_still hheld hnext, hsucceeds.2 fun lane hlane => ?_,
      hpartition, hrequests, hpool, hgiven⟩
    exact Lane.hasPending_of_unsent (hafter lane hlane)

/-- The event finds a frame in the buffer, sends it and takes another buffer; its repetition after
the consumers have caught up needs none, and the flush gives the empty one back. The pool is torn
down when the second frame is in part in a buffer, so that flushing it fails, again and again. -/
theorem quiescent_run_small :
    let event : Operation Schema.bytes.Value := .broadcast .endOfSuperstep
    let after := ((smallWriter.run .bytes [.emit [1] none]).perform .bytes event).2.run .bytes
      [.turn .settle]
    let stuck := smallWriter.run .bytes [.emit [1, 2] none, .turn .destroyPool, .emit [3, 4] none]
    (Lane.holding after.lanes = 1 ∧ after.outlet.Still (after.perform .bytes event).2.outlet ∧
      after.flush.2.outlet.pool = after.outlet.pool.recycle) ∧
    stuck.flush.1 = .error (.illegalState (.unfinishedRecord ⟨0⟩ 6)) ∧
    stuck.flush.2.flush.2 = stuck.flush.2 := by
  intro event after stuck
  have hholding : Lane.holding after.lanes = 1 := by decide +kernel
  obtain ⟨-, hbarriers⟩ := quiescent_run (s := .bytes) madeFor_small [.emit [1] none]
  obtain ⟨-, hafter⟩ := hbarriers event trivial (by decide +kernel)
  obtain ⟨hstill, -, -, -, hpool, -⟩ := hafter [.turn .settle] (by decide)
  obtain ⟨⟨-, -, hagain⟩, -⟩ := quiescent_run (s := .bytes) madeFor_small
    [.emit [1, 2] none, .turn .destroyPool, .emit [3, 4] none]
  rw [show Lane.holding _ = 1 from hholding] at hpool
  exact ⟨⟨hholding, (hstill event trivial).2, hpool⟩, by decide +kernel, (hagain [] (by simp)).1⟩

end Writer

end Fanout
