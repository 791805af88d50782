import Fanout.Proofs.Writer.Operations

/-!
# Runs

What every operation keeps, and from it what a run keeps: the number of lanes, and the agreement of
the channels with what was delivered on them. Then the two exceptions to a course of a channel: a
lane with pending bytes refuses all work (`perform_fenced`), and clearing gives up what a lane holds
and what waits there (`lane_clear`).
-/

namespace Fanout

namespace Writer

variable {σ : Type} {s : Schema} [ChannelSelector σ s.Value] {w : Writer σ} {c : ChannelId}

/-! ## Clearing -/

theorem clearAll_lanes (lanes : List Serializer) (pool : Pool) :
    (Lane.clearAll lanes pool).2.1 = lanes.map fun _ => Serializer.start := by
  induction lanes generalizing pool with
  | nil => rfl
  | cons s lanes ih =>
    have hclear : (Lane.clear s pool).2.1 = Serializer.start := by
      unfold Lane.clear
      split <;> rfl
    unfold Lane.clearAll
    rw [List.map_cons, ← ih (Lane.clear s pool).2.2, ← hclear]

/-- Clearing leaves every lane as it was at the start. -/
theorem lane_clear (w : Writer σ) (c : ChannelId) : w.clear.2.lane c = Serializer.start := by
  show ((Lane.clearAll w.lanes w.outlet.pool).2.1[c.toNat]?).getD Serializer.start = _
  rw [clearAll_lanes, List.getElem?_map]
  cases w.lanes[c.toNat]? <;> rfl

theorem offersTo_clear (w : Writer σ) (c : ChannelId) : w.clear.2.offersTo c = w.offersTo c := rfl

theorem length_clear (w : Writer σ) : w.clear.2.lanes.length = w.lanes.length := by
  show (Lane.clearAll w.lanes w.outlet.pool).2.1.length = _
  rw [clearAll_lanes, List.length_map]

/-! ## What operations keep -/

/-- Closing an open writer is a flush and then a clear. -/
theorem close_eq (hopen : w.closed = false) :
    w.close = (w.flush.1, { w.flush.2.clear.2 with closed := true }) := by
  unfold close
  rw [hopen]
  rfl

theorem length_flush (w : Writer σ) : w.flush.2.lanes.length = w.lanes.length :=
  Lane.length_sweepAll 0 w.lanes w.outlet

theorem length_emit (w : Writer σ) (record : s.Value) (superstep : Option Superstep) :
    (w.perform s (.emit record superstep)).2.lanes.length = w.lanes.length := by
  cases emit_emitted s w record superstep with
  | nowhere hlanes _ _ _ => exact congrArg List.length hlanes
  | served hserve _ =>
    have hlength := length_serve ((encodeRecord s record).map pack) (w.targets s record superstep)
      w.lanes w.outlet
    rwa [hserve] at hlength

/-- No operation changes the number of lanes. -/
theorem length_perform (w : Writer σ) (op : Operation s.Value) :
    (w.perform s op).2.lanes.length = w.lanes.length := by
  cases op with
  | emit record superstep => exact length_emit w record superstep
  | broadcast e =>
    show (w.broadcast e).2.lanes.length = _
    unfold broadcast
    split
    · rfl
    · exact Lane.length_sweep 0 w.lanes w.outlet
  | endSuperstep =>
    have hlength : (Lane.sweep Lane.endSuperstep 0 w.lanes w.outlet).2.1.length = w.lanes.length :=
      Lane.length_sweep 0 w.lanes w.outlet
    have hended : Ended w (w.perform s .endSuperstep) := endSuperstep_ended w
    cases hended with
    | closed e h => rw [h]
    | stopped e hsweep _ => rwa [hsweep] at hlength
    | marked hsweep _ _ => rwa [hsweep] at hlength
  | flush => exact length_flush w
  | close =>
    show w.close.2.lanes.length = _
    unfold close
    split
    · rfl
    · exact (length_clear _).trans (length_flush { w with closed := true })
  | clear => exact length_clear w
  | drop => exact length_clear w
  | turn t => rfl

/-- Every operation leaves the channels with what was delivered on them. -/
theorem faithful_perform {width : Nat} (hw : w.outlet.partition.Faithful width)
    (op : Operation s.Value) : (w.perform s op).2.outlet.partition.Faithful width := by
  -- all lane steps that operations sweep are local, so one fact covers the sweeps of any of them
  have hsweep {step : ChannelId → Serializer → Outlet → LaneResult Unit}
      (hstep : Lane.Local step) :=
    Lane.sweep_keeps (P := fun o => o.partition.Faithful width)
      (fun c s o => (hstep c s o).faithful) 0 w.lanes hw
  have hflush := Lane.sweepAll_keeps (P := fun o => o.partition.Faithful width)
    (fun c s o => (Lane.local_retire c s o).faithful) 0 w.lanes hw
  cases op with
  | emit record superstep =>
    cases emit_emitted s w record superstep with
    | nowhere _ hpartition _ _ => exact hpartition ▸ hw
    | served hserve hpartition =>
      have hserved := serve_keeps ((encodeRecord s record).map pack)
        (P := fun o => o.partition.Faithful width)
        (fun c lane o => (Lane.serve_works c lane o _).uses.faithful)
        (w.targets s record superstep) w.lanes hw
      rw [hserve] at hserved
      exact hpartition ▸ hserved
  | broadcast e =>
    show (w.broadcast e).2.outlet.partition.Faithful width
    unfold broadcast
    split
    · exact hw
    · exact hsweep (Lane.local_sendEvent e)
  | endSuperstep =>
    have hswept := hsweep Lane.local_endSuperstep
    have hended : Ended w (w.perform s .endSuperstep) := endSuperstep_ended w
    cases hended with
    | closed e h =>
      rw [h]
      exact hw
    | stopped e hout _ =>
      rw [hout] at hswept
      exact hswept
    | marked hout _ houtlet =>
      rw [hout] at hswept
      rw [houtlet]
      exact Outlet.faithful_endSuperstep hswept
  | flush => exact hflush
  | close =>
    show w.close.2.outlet.partition.Faithful width
    unfold close
    split
    · exact hw
    · exact hflush
  | clear => exact hw
  | drop => exact hw
  | turn t => exact Outlet.faithful_turn hw t

/-! ## Fenced lanes -/

/-- The operations that have work for the lane of a channel. -/
def Concerns (s : Schema) [ChannelSelector σ s.Value] (w : Writer σ) (c : ChannelId) :
    Operation s.Value → Prop
  | .emit record superstep => c ∈ w.targets s record superstep
  | .broadcast _ | .endSuperstep | .flush => True
  | _ => False

/-- **A lane with pending bytes is a fence**: every operation that has work for it fails, and none
changes the lane or offers anything on its channel. -/
theorem perform_fenced (hw : w.lanes.length ≤ maxChannels) (hc : c.toNat < w.lanes.length)
    (hpending : (w.lane c).hasPending = true) {op : Operation s.Value} (hop : op.AtWork) :
    (w.Concerns s c op → ∃ e, (w.perform s op).1 = .error e) ∧
      (w.perform s op).2.lane c = w.lane c ∧ (w.perform s op).2.offersTo c = w.offersTo c := by
  cases op with
  | emit record superstep =>
    cases emit_emitted s w record superstep with
    | nowhere hlanes hpartition _ htargets =>
      refine ⟨fun hmem => ?_, ?_, ?_⟩
      · cases hresult : (w.perform s (.emit record superstep)).1 with
        | error e => exact ⟨e, rfl⟩
        | ok _ =>
          rw [Concerns, htargets hresult] at hmem
          cases hmem
      · rw [lane, hlanes, lane]
      · rw [offersTo, hpartition, offersTo]
    | served hserve hpartition =>
      have hfenced := serve_fenced ((encodeRecord s record).map pack)
        (w.targets s record superstep) w.lanes w.outlet hc hpending
      rw [hserve] at hfenced
      obtain ⟨herror, hlane, hoffers⟩ := hfenced
      refine ⟨herror, hlane, ?_⟩
      rw [offersTo, hpartition]
      exact hoffers
  | broadcast e =>
    obtain ⟨herror, hlane, hoffers⟩ := (swept hw hc (Lane.local_sendEvent e)).fenced
      fun o => Lane.fenced_sendEvent hpending e
    show (_ → ∃ e', (w.broadcast e).1 = .error e') ∧ (w.broadcast e).2.lane c = _ ∧
      (w.broadcast e).2.offersTo c = _
    unfold broadcast
    split
    · exact ⟨fun _ => ⟨_, rfl⟩, rfl, rfl⟩
    · exact ⟨fun _ => herror, lane_of_getElem? _ hlane, hoffers⟩
  | endSuperstep =>
    obtain ⟨⟨e, herror⟩, hlane, hoffers⟩ := (swept hw hc Lane.local_endSuperstep).fenced
      fun o => Lane.fenced_endSuperstep hpending
    have hended : Ended w (w.perform s .endSuperstep) := endSuperstep_ended w
    cases hended with
    | closed e h =>
      rw [h]
      exact ⟨fun _ => ⟨e, rfl⟩, rfl, rfl⟩
    | stopped e hsweep hresult =>
      rw [hsweep] at hlane hoffers
      exact ⟨fun _ => ⟨e, hresult⟩, lane_of_getElem? _ hlane, hoffers⟩
    | marked hsweep _ _ =>
      -- the fence fails the sweep
      rw [hsweep] at herror
      cases herror
  | flush =>
    obtain ⟨herror, hlane, hoffers⟩ := (sweptAll hw hc Lane.local_retire).fenced
      fun o => Lane.fenced_retire hpending
    exact ⟨fun _ => herror, lane_of_getElem? w.flush.2 hlane, hoffers⟩
  | turn t =>
    exact ⟨fun h => h.elim, rfl, Partition.offersTo_congr (w.outlet.offers_turn t) c⟩
  | close | clear | drop => exact hop.elim

/-- A flush leaves a lane without a buffer as it is. -/
theorem flush_of_none (hw : w.lanes.length ≤ maxChannels) (hc : c.toNat < w.lanes.length)
    (hbuffer : (w.lane c).buffer = none) :
    w.flush.2.lane c = w.lane c ∧ w.flush.2.offersTo c = w.offersTo c := by
  obtain ⟨hlane, hoffers⟩ := (sweptAll hw hc Lane.local_retire).unmoved fun o => by
    obtain ⟨r, hretire, -⟩ := Lane.retire_of_none (c := c) (o := o) hbuffer
    rw [hretire]
  exact ⟨lane_of_getElem? w.flush.2 hlane, hoffers⟩

/-! ## Runs -/

theorem run_concat (w : Writer σ) (ops : List (Operation s.Value)) (op : Operation s.Value) :
    w.run s (ops ++ [op]) = ((w.run s ops).perform s op).2 := by
  rw [run, List.foldl_append]
  rfl

theorem along_concat {β : Type} (f : Writer σ → Operation s.Value → List β) (w : Writer σ)
    (ops : List (Operation s.Value)) (op : Operation s.Value) :
    along s f w (ops ++ [op]) = along s f w ops ++ f (w.run s ops) op := by
  induction ops generalizing w with
  | nil => simp [along, run]
  | cons first ops ih =>
    rw [List.cons_append, along, ih, along, List.append_assoc]
    rfl

theorem length_run (w : Writer σ) (ops : List (Operation s.Value)) :
    (w.run s ops).lanes.length = w.lanes.length := by
  induction ops generalizing w with
  | nil => rfl
  | cons op ops ih => exact (ih _).trans (length_perform w op)

/-- **In every run the channels hold what was delivered on them**: what a consumer has received and
will find queued are the deliveries of its channel, unless it went away. -/
theorem faithful_run {width : Nat} (hw : w.outlet.partition.Faithful width)
    (ops : List (Operation s.Value)) : (w.run s ops).outlet.partition.Faithful width := by
  induction ops generalizing w with
  | nil => exact hw
  | cons op ops ih => exact ih (faithful_perform hw op)

section Throughout

variable {P : Writer σ → Operation s.Value → Prop} {op : Operation s.Value}
  {ops : List (Operation s.Value)}

theorem Throughout.of_concat (h : w.Throughout s P (ops ++ [op])) :
    w.Throughout s P ops ∧ P (w.run s ops) op :=
  ⟨fun before op' hop => h before op' (hop.trans (List.prefix_append _ _)),
    h ops op List.prefix_rfl⟩

theorem throughout_concat :
    w.Throughout s P (ops ++ [op]) ↔ w.Throughout s P ops ∧ P (w.run s ops) op := by
  refine ⟨Throughout.of_concat, ?_⟩
  rintro ⟨hops, hlast⟩ before op' hop
  rcases List.prefix_concat_iff.1 hop with heq | hop
  · obtain ⟨rfl, hsame⟩ := List.append_inj' heq rfl
    obtain rfl := List.singleton_inj.1 hsame
    exact hlast
  · exact hops before op' hop

theorem throughout_nil : w.Throughout s P [] := by
  intro before op hop
  exact absurd (List.prefix_nil.1 hop) (by simp)

theorem throughout_cons :
    w.Throughout s P (op :: ops) ↔ P w op ∧ (w.perform s op).2.Throughout s P ops := by
  constructor
  · intro h
    refine ⟨h [] op (List.prefix_append [op] ops), fun before op' hop => ?_⟩
    exact h (op :: before) op' (List.cons_prefix_cons.2 ⟨rfl, hop⟩)
  · rintro ⟨hfirst, hrest⟩ before op' hop
    cases before with
    | nil =>
      obtain rfl : op' = op := (List.cons_prefix_cons.1 hop).1
      exact hfirst
    | cons first before =>
      obtain ⟨rfl, htail⟩ := List.cons_prefix_cons.1 hop
      exact hrest before op' htail

instance decidableThroughout [∀ w op, Decidable (P w op)] (w : Writer σ) :
    (ops : List (Operation s.Value)) → Decidable (w.Throughout s P ops)
  | [] => .isTrue throughout_nil
  | op :: ops =>
    have := decidableThroughout (w.perform s op).2 ops
    decidable_of_iff _ throughout_cons.symm

instance (w : Writer σ) (ops : List (Operation s.Value)) : Decidable (w.Succeeds s ops) :=
  decidableThroughout w ops

end Throughout

end Writer

end Fanout
