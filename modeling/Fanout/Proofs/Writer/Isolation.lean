import Fanout.Proofs.Writer.Outboxes

/-!
# Isolation

What a channel delivers follows from what was asked of it (`callsOn`): from the frames that were
routed to it and the events, ends of supersteps, flushes and clears among them. So channels do not
disturb each other: two writers that were asked the same of a channel deliver the same on it, byte
for byte and buffer for buffer.

* `Steady.outbox_perform`, `Steady.outbox_run` — operations and runs that succeed, seen from a
  channel.
* `delivered_eq_of_callsOn_eq` — the isolation of channels.
-/

namespace Fanout

namespace Writer

/-! ## Operations -/

section Operations

variable {σ : Type} {s : Schema} [ChannelSelector σ s.Value] {w : Writer σ} {p : Partition}
  {c : ChannelId} {size width : Nat}

/-- What an operation asks of a channel: the frame of a record as often as the record is routed
there, a mark, a flush or a clear. -/
def callsOn (s : Schema) [ChannelSelector σ s.Value] (w : Writer σ) (c : ChannelId) :
    Operation s.Value → List ChannelCall
  | .emit record superstep =>
    match encodeRecord s record with
    | .ok frame =>
      ((w.targets s record superstep).filter fun channel => channel = c).map fun _ => .frame frame
    | .error _ => []
  | .broadcast e => [.mark (.event e)]
  | .endSuperstep => [.mark .endOfSuperstep]
  | .flush => [.flush]
  | .close => if w.closed then [] else [.flush, .clear]
  | .clear | .drop => [.clear]
  | .turn _ => []

/-- What a channel has delivered and holds. -/
def outbox (w : Writer σ) (c : ChannelId) : Outbox := Lane.outbox c (w.lane c) w.outlet

/-- A writer all of whose operations succeeded so far. -/
structure Steady (w : Writer σ) (size width : Nat) : Prop where
  roomy : w.Roomy size
  settled : Lane.Settled w.lanes
  length_eq : w.lanes.length = width
  width_le : width ≤ maxChannels
  faithful : w.outlet.partition.Faithful width

theorem MadeFor.steady (h : w.MadeFor p) (hp : p.Fresh) :
    w.Steady w.outlet.pool.bufferSize p.width := by
  have hstart := h.start
  refine ⟨h.roomy, ?_, hstart.length_eq, hstart.width_le, ?_⟩
  · rw [hstart.lanes_eq]
    exact Lane.settled_start p.width
  · rw [hstart.partition_eq]
    exact .start hp.subpartitions_eq hp.offers_eq

/-- At the start nothing is delivered and nothing held. -/
theorem MadeFor.outbox_eq (h : w.MadeFor p) (hp : p.Fresh) (c : ChannelId) :
    w.outbox c = Outbox.start := by
  have hoffers := h.start.offersTo_eq hp.offers_eq c
  rw [outbox, h.start.lane_eq]
  exact congrArg (fun offers => Outbox.mk (takenOf offers) []) hoffers

namespace Steady

theorem perform (h : w.Steady size width) {op : Operation s.Value}
    (hok : (w.perform s op).1 = .ok ()) : (w.perform s op).2.Steady size width :=
  ⟨h.roomy.perform op, settled_perform h.settled op hok,
    (length_perform w op).trans h.length_eq, h.width_le, faithful_perform h.faithful op⟩

end Steady

/-- **Serving a frame to some targets**, seen from one channel: it is played once for each time that
the channel is among them. -/
theorem outbox_serve (frame : List UInt8) (targets : List ChannelId) {lanes : List Serializer}
    {o : Outlet} (hc : c.toNat < lanes.length) (hsize : o.pool.bufferSize = size)
    (hroomy : (laneOf lanes c).Roomy size) (hpending : (laneOf lanes c).hasPending = false)
    (hok : (serve (.ok (pack frame)) targets lanes o).2.1 = .ok ()) :
    Lane.outbox c (laneOf (serve (.ok (pack frame)) targets lanes o).2.2.1 c)
        (serve (.ok (pack frame)) targets lanes o).2.2.2 =
      ((targets.filter fun channel => channel = c).map fun _ => ChannelCall.frame frame).foldl
        (Outbox.play size) (Lane.outbox c (laneOf lanes c) o) := by
  induction targets generalizing lanes o with
  | nil => rfl
  | cons first targets ih =>
    have huses := (Lane.serve_works first (laneOf lanes first) o (.ok (pack frame))).uses
    rw [serve_cons] at hok ⊢
    rcases hout : Lane.serve first (.ok (pack frame)) (laneOf lanes first) o with
      ⟨accepted, r, lane, o'⟩
    rw [hout] at huses hok
    have hsize' : o'.pool.bufferSize = size := huses.bufferSize_eq.trans hsize
    cases r with
    | error e => exact nomatch hok
    | ok _ =>
      have hlength : c.toNat < (lanes.set first.toNat lane).length := by rwa [List.length_set]
      by_cases hne : first = c
      · subst hne
        have hlane := laneOf_set_self hc lane
        have hfirst : (Lane.serve first (.ok (pack frame)) (laneOf lanes first) o).2.1 = .ok () := by
          rw [hout]
        have hroomy' := Lane.roomy_serve (c := first) hsize hroomy (.ok (pack frame))
        have hpending' := Lane.hasPending_serve hfirst
        have hplayed := Lane.outbox_serve hsize hroomy hpending hfirst
        rw [hout] at hroomy' hpending' hplayed
        rw [octets_pack] at hplayed
        have hrest := ih hlength hsize' (by rwa [hlane]) (by rwa [hlane]) hok
        rw [hlane, hplayed] at hrest
        rw [List.filter_cons_of_pos (by simp)]
        exact hrest
      · have hlane : laneOf (lanes.set first.toNat lane) c = laneOf lanes c :=
          laneOf_set_of_ne hne lane
        have hrest := ih hlength hsize' (by rwa [hlane]) (by rwa [hlane]) hok
        rw [hlane, Lane.outbox_congr (huses.offersTo_other hne)] at hrest
        rw [List.filter_cons_of_neg (by simpa using hne)]
        exact hrest

/-- Clearing gives up what is held. -/
theorem outbox_clear (w : Writer σ) (c : ChannelId) (size : Nat) :
    w.clear.2.outbox c = (w.outbox c).play size .clear := by
  rw [outbox, lane_clear]
  rfl

namespace Steady

theorem roomy_lane (h : w.Steady size width) (c : ChannelId) : (w.lane c).Roomy size :=
  roomy_laneOf h.roomy.roomy_of_mem c

/-- An emitted record, seen from a channel. -/
theorem outbox_emit (h : w.Steady size width) (hc : c.toNat < width) {record : s.Value}
    {superstep : Option Superstep} (hok : (w.perform s (.emit record superstep)).1 = .ok ()) :
    (w.perform s (.emit record superstep)).2.outbox c =
      (w.callsOn s c (.emit record superstep)).foldl (Outbox.play size) (w.outbox c) := by
  have hlane : c.toNat < w.lanes.length := h.length_eq ▸ hc
  -- where a record has no target it does not matter whether it has a frame
  have hnone (htargets : w.targets s record superstep = []) :
      w.callsOn s c (.emit record superstep) = [] := by
    rw [callsOn, htargets]
    cases encodeRecord s record <;> rfl
  cases emit_emitted s w record superstep with
  | nowhere hlanes hpartition _ htargets =>
    have hoffers := Partition.offersTo_congr (congrArg Partition.offers hpartition) c
    rw [hnone (htargets hok), outbox, lane, hlanes]
    exact Lane.outbox_congr hoffers _
  | @served o hserve hpartition =>
    have haccepts := serve_accepts ((encodeRecord s record).map pack)
      (w.targets s record superstep) w.lanes w.outlet
    rw [hserve] at haccepts
    have hoffers := Partition.offersTo_congr (congrArg Partition.offers hpartition) c
    rw [outbox, Lane.outbox_congr hoffers, lane]
    obtain ⟨-, htargets | ⟨bytes, hbytes⟩⟩ := haccepts hok
    · rw [hnone htargets]
      rw [htargets, serve, Prod.mk.injEq, Prod.mk.injEq, Prod.mk.injEq] at hserve
      obtain ⟨-, -, hlanes, rfl⟩ := hserve
      rw [← hlanes]
      rfl
    · cases hencode : encodeRecord s record with
      | error cause =>
        rw [hencode] at hbytes
        cases hbytes
      | ok frame =>
        rw [hencode] at hserve
        change serve (.ok (pack frame)) _ _ _ = _ at hserve
        have hserved := outbox_serve (c := c) frame (w.targets s record superstep) hlane
          h.roomy.size_eq (h.roomy_lane c)
          (h.settled _ (List.mem_of_getElem? (getElem?_lane hlane)))
        rw [hserve] at hserved
        rw [hserved hok, callsOn, hencode]
        rfl

/-- A sweep that succeeds, seen from a channel. -/
theorem outbox_sweep (h : w.Steady size width) (hc : c.toNat < width)
    {step : ChannelId → Serializer → Outlet → LaneResult Unit} (hlocal : Lane.Local step)
    {f : Outbox → Outbox}
    (hstep : ∀ o, (step c (w.lane c) o).1 = .ok () →
      Lane.outbox c (step c (w.lane c) o).2.1 (step c (w.lane c) o).2.2 =
        f (Lane.outbox c (w.lane c) o)) {lanes : List Serializer} {o : Outlet}
    (hsweep : Lane.sweep step 0 w.lanes w.outlet = (.ok (), lanes, o)) :
    Lane.outbox c (laneOf lanes c) o = f (w.outbox c) := by
  have hswept := swept (h.length_eq.symm ▸ h.width_le) (h.length_eq.symm ▸ hc) hlocal
  rw [hsweep] at hswept
  obtain ⟨lane', hlane', hplayed⟩ := hswept.outbox hstep
  rw [laneOf, hlane']
  exact hplayed

/-- An event for all channels, seen from one. -/
theorem outbox_broadcast (h : w.Steady size width) (hc : c.toNat < width) {e : Event}
    (hok : (w.broadcast e).1 = .ok ()) :
    (w.broadcast e).2.outbox c = (w.outbox c).play size (.mark (.event e)) := by
  have hplayed (o : Outlet) := Lane.outbox_sendEvent (c := c) (o := o) (e := e) (h.roomy_lane c)
  unfold broadcast at hok ⊢
  split at hok
  · exact nomatch hok
  · rename_i hopen
    rw [if_neg hopen]
    rcases hsweep : Lane.sweep (Lane.sendEvent e) 0 w.lanes w.outlet with ⟨r, lanes, o⟩
    rw [hsweep] at hok
    obtain rfl : r = .ok () := hok
    exact h.outbox_sweep hc (Lane.local_sendEvent e) (f := (·.play size (.mark (.event e)))) hplayed
      hsweep

/-- The end of a superstep, seen from a channel. -/
theorem outbox_endSuperstep (h : w.Steady size width) (hc : c.toNat < width)
    (hok : w.endSuperstep.1 = .ok ()) :
    w.endSuperstep.2.outbox c = (w.outbox c).play size (.mark .endOfSuperstep) := by
  have hfaithful := Lane.sweep_keeps (P := fun o => o.partition.Faithful width)
    (fun c s o => (Lane.local_endSuperstep c s o).faithful) 0 w.lanes h.faithful
  cases endSuperstep_ended w with
  | closed e hout =>
    rw [hout] at hok
    exact nomatch hok
  | stopped e _ hresult =>
    rw [hresult] at hok
    exact nomatch hok
  | @marked o hsweep hresult houtlet =>
    have hswept := h.outbox_sweep hc Lane.local_endSuperstep
      (fun _ => Lane.outbox_endSuperstep (h.roomy_lane c)) hsweep
    rw [hsweep] at hfaithful
    -- all lanes were flushed before the markers are sent, and every channel takes its marker
    obtain ⟨marks, hmarks, -, hall⟩ := o.offersTo_endSuperstep c
    obtain rfl := hall (hresult.symm.trans hok) (hfaithful.length_eq.symm ▸ hc)
    have hdelivered : o.endSuperstep.2.partition.delivered c =
        o.partition.delivered c ++ [.endOfSuperstep] := Partition.delivered_of_taken hmarks
    have hheld : (laneOf w.endSuperstep.2.lanes c).held = [] :=
      (congrArg Outbox.held hswept).trans (Outbox.held_surrender size _)
    rw [outbox, lane, Lane.outbox, houtlet, hdelivered, hheld, Outbox.play, ← hswept]
    rfl

/-- A flush, seen from a channel. -/
theorem outbox_flush (h : w.Steady size width) (hc : c.toNat < width)
    (hok : w.flush.1 = .ok ()) : w.flush.2.outbox c = (w.outbox c).play size .flush := by
  have hswept := sweptAll (h.length_eq.symm ▸ h.width_le) (h.length_eq.symm ▸ hc) Lane.local_retire
  change (Lane.sweepAll Lane.retire 0 w.lanes w.outlet).1 = .ok () at hok
  rw [hok] at hswept
  obtain ⟨lane', hlane', hplayed⟩ :=
    hswept.outbox fun _ => Lane.outbox_retire (h.roomy_lane c)
  rw [outbox, lane_of_getElem? w.flush.2 hlane']
  exact hplayed

/-- **An operation that succeeds**, seen from a channel: what it asks of the channel is played. -/
theorem outbox_perform (h : w.Steady size width) (hc : c.toNat < width) {op : Operation s.Value}
    (hok : (w.perform s op).1 = .ok ()) :
    (w.perform s op).2.outbox c = (w.callsOn s c op).foldl (Outbox.play size) (w.outbox c) := by
  cases op with
  | emit record superstep => exact h.outbox_emit hc hok
  | broadcast e => exact h.outbox_broadcast hc hok
  | endSuperstep => exact h.outbox_endSuperstep hc hok
  | flush => exact h.outbox_flush hc hok
  | close =>
    by_cases hclosed : w.closed = true
    · have hcalls : w.callsOn s c .close = [] := if_pos hclosed
      rw [hcalls]
      show w.close.2.outbox c = w.outbox c
      rw [close, if_pos hclosed]
    · have hcalls : w.callsOn s c .close = [.flush, .clear] := if_neg hclosed
      change w.close.1 = .ok () at hok
      show w.close.2.outbox c = _
      rw [close_eq (Bool.eq_false_iff.2 hclosed)] at hok ⊢
      rw [hcalls, List.foldl_cons, ← h.outbox_flush hc hok]
      exact outbox_clear w.flush.2 c size
  | clear | drop => exact outbox_clear w c size
  | turn t => exact Lane.outbox_congr (Partition.offersTo_congr (w.outlet.offers_turn t) c) _

/-- **A run whose operations succeed**, seen from a channel: all that was asked of the channel is
played, in order. -/
theorem outbox_run (h : w.Steady size width) (hc : c.toNat < width)
    {ops : List (Operation s.Value)} (hok : w.Succeeds s ops) :
    (w.run s ops).outbox c =
      (along s (fun w op => w.callsOn s c op) w ops).foldl (Outbox.play size) (w.outbox c) := by
  induction ops generalizing w with
  | nil => rfl
  | cons op ops ih =>
    obtain ⟨hfirst, hrest⟩ := throughout_cons.1 hok
    rw [along, List.foldl_append, ← h.outbox_perform hc hfirst]
    exact ih (h.perform hfirst) hrest

end Steady

end Operations

/-! ## Two runs -/

/-- **Channels are isolated.** Take any two writers whose pools lend buffers of one size, whatever
else they differ in: the records that they take, the selector, the number of channels and of
buffers, who else is at work. If all operations of a run of each succeed, and the runs ask the same
of a channel, in the same order, then they deliver the same on it: the same buffers with the same
bytes, the same events and the same markers, in the same order. -/
theorem delivered_eq_of_callsOn_eq {σ₁ σ₂ : Type} {s₁ s₂ : Schema} [ChannelSelector σ₁ s₁.Value]
    [ChannelSelector σ₂ s₂.Value] {w₁ : Writer σ₁} {w₂ : Writer σ₂} {p₁ p₂ : Partition}
    {c : ChannelId} {ops₁ : List (Operation s₁.Value)} {ops₂ : List (Operation s₂.Value)}
    (hmade₁ : w₁.MadeFor p₁) (hp₁ : p₁.Fresh) (hc₁ : c.toNat < p₁.width)
    (hok₁ : w₁.Succeeds s₁ ops₁)
    (hmade₂ : w₂.MadeFor p₂) (hp₂ : p₂.Fresh) (hc₂ : c.toNat < p₂.width)
    (hok₂ : w₂.Succeeds s₂ ops₂)
    (hsize : w₁.outlet.pool.bufferSize = w₂.outlet.pool.bufferSize)
    (hcalls : along s₁ (fun w op => w.callsOn s₁ c op) w₁ ops₁ =
      along s₂ (fun w op => w.callsOn s₂ c op) w₂ ops₂) :
    (w₁.run s₁ ops₁).delivered c = (w₂.run s₂ ops₂).delivered c := by
  have hrun₁ := (hmade₁.steady hp₁).outbox_run hc₁ hok₁
  have hrun₂ := (hmade₂.steady hp₂).outbox_run hc₂ hok₂
  rw [hmade₁.outbox_eq hp₁, hcalls, hsize, ← hmade₂.outbox_eq hp₂ c, ← hrun₂] at hrun₁
  exact congrArg Outbox.delivered hrun₁

/-! A small case: a writer of one channel, and one of two channels that takes them in turn and has
more buffers of the same size. -/

def turningPartition : Partition := .make ⟨⟨"turning"⟩, 2, none⟩

def turningPool : Pool := .fresh 3 8 (Nat.succ_pos 2) (Nat.succ_pos 7)

def turningWriter : Writer RoundRobin where
  lanes := [Serializer.start, Serializer.start]
  outlet := ⟨turningPool, turningPartition, .start, .unlimited, .ofSeconds 1, .attentive, 0, 0⟩
  selector := RoundRobin.start
  replay := none
  backup := .make none Disk.empty
  closed := false

theorem madeFor_turning : turningWriter.MadeFor turningPartition :=
  ⟨turningPool, RoundRobin.start, ⟨none, none, .unlimited⟩, .ofSeconds 1, .attentive, Disk.empty,
    rfl⟩

/-- The second record of the second run goes to another channel. -/
theorem delivered_eq_small :
    let alone : List (Operation Schema.bytes.Value) :=
      [.emit [1, 2, 3, 4, 5, 6, 7, 8, 9, 10] none, .broadcast .endOfSuperstep, .emit [3] none,
        .flush]
    let among : List (Operation Schema.bytes.Value) :=
      [.emit [1, 2, 3, 4, 5, 6, 7, 8, 9, 10] none, .emit [9, 9, 9, 9, 9] none,
        .broadcast .endOfSuperstep, .emit [3] none, .flush]
    (turningWriter.run .bytes among).delivered ⟨1⟩ ≠ [] ∧
      (smallWriter.run .bytes alone).delivered ⟨0⟩ =
        (turningWriter.run .bytes among).delivered ⟨0⟩ := by
  intro alone among
  have hother : (turningWriter.run .bytes among).delivered ⟨1⟩ ≠ [] := by decide +kernel
  have hok₁ : smallWriter.Succeeds .bytes alone := by decide +kernel
  have hok₂ : turningWriter.Succeeds .bytes among := by decide +kernel
  have hcalls : along .bytes (fun w op => w.callsOn .bytes ⟨0⟩ op) smallWriter alone =
      along .bytes (fun w op => w.callsOn .bytes ⟨0⟩ op) turningWriter among := by decide +kernel
  exact ⟨hother, delivered_eq_of_callsOn_eq madeFor_small ⟨rfl, rfl⟩ (by decide) hok₁
    madeFor_turning ⟨rfl, rfl⟩ (by decide) hok₂ rfl hcalls⟩

end Writer

end Fanout
