import Fanout.Proofs.Writer.Dealings

/-!
# Operations as attempts

Each operation of a writer comes down to dealings with its outlet (`perform_deals`), and nothing but
a call of the outlet keeps it from success where the writer is open, has nothing pending and is
`Fit` for the operation.
-/

namespace Fanout

namespace Writer

variable {σ : Type} {s : Schema} [ChannelSelector σ s.Value] {w : Writer σ} {slots : Nat}

theorem serve_deals (frame : Except RecordError ByteArray) (targets : List ChannelId)
    {lanes : List Serializer} (o : Outlet) (htargets : ∀ c ∈ targets, c.toNat < lanes.length)
    (hslots : lanes.length ≤ slots) :
    ∃ asks smooth, o.Deals slots (Lane.holding lanes) asks smooth
        (Lane.holding (serve frame targets lanes o).2.2.1) (serve frame targets lanes o).2.2.2 ∧
      (smooth = true → Lane.Settled lanes → frame.isOk = true →
        (serve frame targets lanes o).2.1 = .ok ()) := by
  induction targets generalizing lanes o with
  | nil => exact ⟨[], true, .refl, fun _ _ _ => rfl⟩
  | cons first targets ih =>
    have hi := htargets first List.mem_cons_self
    obtain ⟨others, hothers, hbefore, hafter⟩ := Lane.holding_set hi
    have hlane : (lanes[first.toNat]?).getD Serializer.start = lanes[first.toNat] := by
      rw [List.getElem?_eq_getElem hi, Option.getD_some]
    obtain ⟨asks, smooth, hdeals, hok⟩ :=
      Lane.serve_deals first frame lanes[first.toNat] o slots others (by omega) (by omega)
    have hpending := @Lane.hasPending_serve first lanes[first.toNat] o frame
    unfold serve
    rw [hlane, hbefore]
    rcases hout : Lane.serve first frame lanes[first.toNat] o with ⟨accepted, r, lane, o'⟩
    rw [hout] at hdeals hok hpending
    -- the lane is put back in its place, also if it failed
    change o.Deals slots _ asks smooth (others + lane.holding) o' at hdeals
    rw [← hafter lane] at hdeals
    have hfit (hsettled : Lane.Settled lanes) : lanes[first.toNat].hasPending = false :=
      hsettled _ (List.getElem_mem hi)
    cases r with
    | error e =>
      refine ⟨asks, smooth, hdeals, fun hsmooth hsettled hframe => ?_⟩
      exact absurd (hok hsmooth ⟨hfit hsettled, hframe⟩) Bool.false_ne_true
    | ok _ =>
      have hlength : (lanes.set first.toNat lane).length = lanes.length := List.length_set
      obtain ⟨asks', smooth', hdeals', hok'⟩ := ih o'
        (fun c hc => hlength.symm ▸ htargets c (List.mem_cons_of_mem _ hc)) (hlength.symm ▸ hslots)
      refine ⟨asks ++ asks', smooth && smooth', hdeals.trans hdeals', ?_⟩
      intro hsmooth hsettled hframe
      refine hok' (Bool.and_eq_true _ _ ▸ hsmooth).2 (fun t ht => ?_) hframe
      rcases List.mem_or_eq_of_mem_set ht with ht | rfl
      · exact hsettled t ht
      · exact hpending rfl

/-- What has to hold of an operation so that nothing but a call of the outlet can keep it from
success: a record has a frame, and its channels are there. -/
def Fit (s : Schema) [ChannelSelector σ s.Value] (w : Writer σ) : Operation s.Value → Prop
  | .emit record superstep =>
    (encodeRecord s record).isOk = true ∧
      ∀ c ∈ w.targets s record superstep, c.toNat < w.lanes.length
  | _ => True

/-- **An operation as dealings with the outlet** of a writer that is open and has nothing pending:
it succeeds if they all go smoothly and it is fit. -/
def Deals (s : Schema) [ChannelSelector σ s.Value] (w : Writer σ) (slots : Nat)
    (op : Operation s.Value) (out : Except WriterError Unit × Writer σ) : Prop :=
  ∃ asks smooth,
    w.outlet.Deals slots (Lane.holding w.lanes) asks smooth (Lane.holding out.2.lanes)
      out.2.outlet ∧
    (smooth = true → w.closed = false → Lane.Settled w.lanes → w.Fit s op → out.1 = .ok ())

theorem Deals.nothing {op : Operation s.Value} {out : Except WriterError Unit × Writer σ}
    (hlanes : out.2.lanes = w.lanes) (houtlet : out.2.outlet = w.outlet)
    (hok : w.closed = false → w.Fit s op → out.1 = .ok ()) : w.Deals s slots op out := by
  refine ⟨[], true, ?_, fun _ hopen _ => hok hopen⟩
  rw [hlanes, houtlet]
  exact .refl

theorem emitTo_deals (hslots : w.lanes.length ≤ slots) {record : s.Value}
    {superstep : Option Superstep} {targets : List ChannelId}
    (htargets : w.targets s record superstep = targets) (selector : σ) :
    w.Deals s slots (.emit record superstep) (({ w with selector := selector } : Writer σ).emitTo
      ((encodeRecord s record).map pack) superstep targets) := by
  have hwidth : ({ w with selector := selector } : Writer σ).width = w.width := rfl
  unfold emitTo
  rw [hwidth]
  cases hcheck : checkSelection targets w.width with
  | error e =>
    refine .nothing rfl rfl fun _ hfit => ?_
    have hin : checkSelection targets w.width = .ok () :=
      checkSelection_eq_ok_iff.2 fun c hc => decide_eq_true (hfit.2 c (htargets ▸ hc))
    exact nomatch hcheck.symm.trans hin
  | ok _ =>
    obtain ⟨asks, smooth, hdeals, hok⟩ := serve_deals ((encodeRecord s record).map pack) targets
      w.outlet (fun c hc => of_decide_eq_true (checkSelection_eq_ok_iff.1 hcheck c hc)) hslots
    have hframe (hfit : w.Fit s (.emit record superstep)) :
        ((encodeRecord s record).map pack).isOk = true := by
      have hencode := hfit.1
      cases hrecord : encodeRecord s record with
      | error cause =>
        rw [hrecord] at hencode
        exact nomatch hencode
      | ok frame => rfl
    rcases hserve : serve ((encodeRecord s record).map pack) targets w.lanes w.outlet with
      ⟨accepted, r, lanes, o⟩
    rw [hserve] at hdeals hok
    cases r with
    | error e =>
      refine ⟨asks, smooth, hdeals, fun hsmooth _ hsettled hfit => ?_⟩
      exact nomatch hok hsmooth hsettled (hframe hfit)
    | ok _ =>
      exact ⟨asks, smooth, hdeals.count Traffic.countEmitted fun _ => rfl, fun _ _ _ _ => rfl⟩

theorem emit_deals (hslots : w.lanes.length ≤ slots) (record : s.Value)
    (superstep : Option Superstep) :
    w.Deals s slots (.emit record superstep) (w.emit s record superstep) := by
  unfold emit
  by_cases hclosed : w.closed = true
  · rw [if_pos hclosed]
    exact .nothing rfl rfl fun hopen => absurd hclosed (Bool.eq_false_iff.1 hopen)
  · rw [if_neg hclosed]
    rcases hroute : w.route record superstep with ⟨_ | _ | targets, selector⟩
    · exact ⟨[], true, .count Traffic.countFiltered (fun _ => rfl) .refl, fun _ _ _ _ => rfl⟩
    · exact ⟨[], true, .count Traffic.countUnrouted (fun _ => rfl) .refl, fun _ _ _ _ => rfl⟩
    · refine emitTo_deals hslots ?_ selector
      rw [Writer.targets, hroute]
      rfl

/-- A sweep over all lanes. -/
theorem swept_deals {step : ChannelId → Serializer → Outlet → LaneResult Unit}
    (hstep : ∀ c s o, Lane.Deals c (s.hasPending = false) s o (step c s o))
    (hslots : w.lanes.length ≤ slots) :
    ∃ asks smooth, w.outlet.Deals slots (Lane.holding w.lanes) asks smooth
        (Lane.holding (Lane.sweep step 0 w.lanes w.outlet).2.1)
        (Lane.sweep step 0 w.lanes w.outlet).2.2 ∧
      (smooth = true → Lane.Settled w.lanes →
        (Lane.sweep step 0 w.lanes w.outlet).1 = .ok ()) := by
  have hwidth : 0 + w.lanes.length ≤ slots := by omega
  obtain ⟨asks, smooth, hdeals, hok⟩ := Lane.sweep_deals hstep 0 w.lanes w.outlet 0 hwidth hwidth
  rw [Nat.zero_add, Nat.zero_add] at hdeals
  exact ⟨asks, smooth, hdeals, fun hsmooth hsettled => eq_ok_of_isOk (hok hsmooth hsettled)⟩

theorem broadcast_deals (hslots : w.lanes.length ≤ slots) (e : Event) :
    w.Deals s slots (.broadcast e) (w.broadcast e) := by
  unfold broadcast
  by_cases hclosed : w.closed = true
  · rw [if_pos hclosed]
    exact .nothing rfl rfl fun hopen => absurd hclosed (Bool.eq_false_iff.1 hopen)
  · rw [if_neg hclosed]
    obtain ⟨asks, smooth, hdeals, hok⟩ := swept_deals (Lane.sendEvent_deals e) hslots
    exact ⟨asks, smooth, hdeals, fun hsmooth _ hsettled _ => hok hsmooth hsettled⟩

theorem endSuperstep_deals (hslots : w.lanes.length ≤ slots) :
    w.Deals s slots .endSuperstep w.endSuperstep := by
  unfold endSuperstep
  by_cases hclosed : w.closed = true
  · rw [if_pos hclosed]
    exact .nothing rfl rfl fun hopen => absurd hclosed (Bool.eq_false_iff.1 hopen)
  · rw [if_neg hclosed]
    obtain ⟨asks, smooth, hdeals, hok⟩ := swept_deals Lane.endSuperstep_deals hslots
    rcases hsweep : Lane.sweep Lane.endSuperstep 0 w.lanes w.outlet with ⟨r, lanes, o⟩
    rw [hsweep] at hdeals hok
    cases r with
    | error e =>
      exact ⟨asks, smooth, hdeals, fun hsmooth _ hsettled _ => nomatch hok hsmooth hsettled⟩
    | ok _ =>
      refine ⟨_, _, hdeals.endSuperstep, fun hsmooth _ _ _ => eq_ok_of_isOk ?_⟩
      exact (Bool.and_eq_true _ _ ▸ hsmooth).2

theorem flush_deals (hslots : w.lanes.length ≤ slots) : w.Deals s slots .flush w.flush := by
  have hwidth : 0 + w.lanes.length ≤ slots := by omega
  obtain ⟨asks, smooth, hdeals, hok⟩ :=
    Lane.sweepAll_deals Lane.retire_deals 0 w.lanes w.outlet 0 hwidth hwidth
  rw [Nat.zero_add, Nat.zero_add] at hdeals
  exact ⟨asks, smooth, hdeals, fun hsmooth _ hsettled _ => eq_ok_of_isOk (hok hsmooth hsettled)⟩

theorem holding_clear (w : Writer σ) : Lane.holding w.clear.2.lanes = 0 := by
  show Lane.holding (Lane.clearAll w.lanes w.outlet.pool).2.1 = 0
  rw [clearAll_lanes, Lane.holding, List.map_map]
  exact List.sum_eq_zero fun n hn => by
    obtain ⟨_, _, rfl⟩ := List.mem_map.1 hn
    rfl

theorem clear_deals (w : Writer σ) (slots : Nat) :
    w.outlet.Deals slots (Lane.holding w.lanes) [] true (Lane.holding w.clear.2.lanes)
      w.clear.2.outlet := by
  rw [holding_clear]
  have hcleared : w.outlet.Deals slots (0 + Lane.holding w.lanes) [] true 0 _ :=
    Lane.clearAll_deals w.lanes w.outlet
  rw [Nat.zero_add] at hcleared
  exact hcleared.count (·.countDiscarded _) fun _ => rfl

theorem close_deals (hslots : w.lanes.length ≤ slots) : w.Deals s slots .close w.close := by
  unfold close
  by_cases hclosed : w.closed = true
  · rw [if_pos hclosed]
    exact .nothing rfl rfl fun _ _ => rfl
  · rw [if_neg hclosed]
    obtain ⟨asks, smooth, hdeals, hok⟩ := flush_deals (s := s) hslots
    refine ⟨asks ++ [], smooth && true, hdeals.trans (clear_deals w.flush.2 slots), ?_⟩
    exact fun hsmooth hopen hsettled _ =>
      hok (Bool.and_eq_true _ _ ▸ hsmooth).1 hopen hsettled trivial

/-- **Every operation** of a writer, other than turns of somebody else, as dealings with its
outlet. -/
theorem perform_deals (hslots : w.lanes.length ≤ slots) {op : Operation s.Value}
    (hop : ∀ t, op ≠ .turn t) : w.Deals s slots op (w.perform s op) := by
  cases op with
  | emit record superstep => exact emit_deals hslots record superstep
  | broadcast e => exact broadcast_deals hslots e
  | endSuperstep => exact endSuperstep_deals hslots
  | flush => exact flush_deals hslots
  | close => exact close_deals hslots
  | clear => exact ⟨[], true, clear_deals w slots, fun _ _ _ _ => rfl⟩
  | drop => exact ⟨[], true, clear_deals w slots, fun _ _ _ _ => rfl⟩
  | turn t => exact absurd rfl (hop t)

/-! ## Several operations -/

theorem settled_serve (frame : Except RecordError ByteArray) (targets : List ChannelId)
    {lanes : List Serializer} (o : Outlet) (hsettled : Lane.Settled lanes)
    (h : (serve frame targets lanes o).2.1 = .ok ()) :
    Lane.Settled (serve frame targets lanes o).2.2.1 := by
  induction targets generalizing lanes o with
  | nil => exact hsettled
  | cons first targets ih =>
    have hpending := @Lane.hasPending_serve first ((lanes[first.toNat]?).getD Serializer.start) o
      frame
    unfold serve at h ⊢
    rcases hout : Lane.serve first frame ((lanes[first.toNat]?).getD Serializer.start) o with
      ⟨accepted, r, lane, o'⟩
    rw [hout] at hpending
    simp only [hout] at h ⊢
    cases r with
    | error e => exact nomatch h
    | ok _ =>
      refine ih o' (fun t ht => ?_) h
      rcases List.mem_or_eq_of_mem_set ht with ht | rfl
      · exact hsettled t ht
      · exact hpending rfl

/-- Nothing is pending after an operation that succeeded if nothing was before. -/
theorem settled_perform (hsettled : Lane.Settled w.lanes) (op : Operation s.Value)
    (hok : (w.perform s op).1 = .ok ()) : Lane.Settled (w.perform s op).2.lanes := by
  have hstart (w : Writer σ) : Lane.Settled w.clear.2.lanes := by
    intro lane hlane
    change lane ∈ (Lane.clearAll w.lanes w.outlet.pool).2.1 at hlane
    rw [clearAll_lanes] at hlane
    obtain ⟨_, _, rfl⟩ := List.mem_map.1 hlane
    rfl
  cases op with
  | emit record superstep =>
    cases emit_emitted s w record superstep with
    | nowhere hlanes _ _ _ =>
      rw [hlanes]
      exact hsettled
    | served hserve _ =>
      have hserved := settled_serve ((encodeRecord s record).map pack)
        (w.targets s record superstep) w.outlet hsettled
      rw [hserve] at hserved
      exact hserved hok
  | broadcast e =>
    have hswept := Lane.sweep_of_ok (P := (·.hasPending = false)) (Lane.settles_sendEvent e) 0
      w.lanes w.outlet
    change (w.broadcast e).1 = .ok () at hok
    show Lane.Settled (w.broadcast e).2.lanes
    unfold broadcast at hok ⊢
    split at hok
    · exact nomatch hok
    · rename_i hopen
      rw [if_neg hopen]
      exact hswept hok
  | endSuperstep =>
    have hended : Ended w (w.perform s .endSuperstep) := endSuperstep_ended w
    have hswept := Lane.sweep_of_ok (P := (·.hasPending = false)) Lane.settles_endSuperstep 0
      w.lanes w.outlet
    cases hended with
    | closed e hout =>
      rw [hout] at hok
      exact nomatch hok
    | stopped e _ hresult => exact nomatch hok.symm.trans hresult
    | marked hsweep _ _ =>
      rw [hsweep] at hswept
      exact hswept rfl
  | flush =>
    exact Lane.sweepAll_of_ok (P := (·.hasPending = false)) Lane.settles_retire 0 w.lanes w.outlet
      hok
  | close =>
    change (w.close).1 = .ok () at hok
    show Lane.Settled w.close.2.lanes
    unfold close at hok ⊢
    split
    · exact hsettled
    · exact hstart _
  | clear | drop => exact hstart w
  | turn t => exact hsettled

/-- Performs operations in order, up to the first that fails. -/
def performAll (s : Schema) [ChannelSelector σ s.Value] (w : Writer σ) :
    List (Operation s.Value) → Except WriterError Unit × Writer σ
  | [] => (.ok (), w)
  | op :: ops =>
    match w.perform s op with
    | (.error e, w) => (.error e, w)
    | (.ok (), w) => performAll s w ops

theorem performAll_singleton (w : Writer σ) (op : Operation s.Value) :
    w.performAll s [op] = w.perform s op := by
  rw [performAll]
  rcases w.perform s op with ⟨_ | _, w'⟩ <;> rfl

theorem performAll_append (w : Writer σ) (ops later : List (Operation s.Value)) :
    w.performAll s (ops ++ later) =
      match w.performAll s ops with
      | (.error e, w) => (.error e, w)
      | (.ok (), w) => w.performAll s later := by
  induction ops generalizing w with
  | nil => rfl
  | cons op ops ih =>
    rw [List.cons_append, performAll, performAll]
    rcases w.perform s op with ⟨_ | _, w'⟩
    · rfl
    · exact ih w'

/-- All operations are performed exactly if all of them succeed, and then the writer is as a run
leaves it. -/
theorem performAll_eq_ok_iff (w : Writer σ) (ops : List (Operation s.Value)) :
    (w.performAll s ops).1 = .ok () ↔ w.Succeeds s ops := by
  induction ops generalizing w with
  | nil => exact iff_of_true rfl throughout_nil
  | cons op ops ih =>
    rw [Succeeds, throughout_cons, performAll]
    rcases w.perform s op with ⟨_ | _, w'⟩
    · exact iff_of_false (fun h => nomatch h) fun h => nomatch h.1
    · exact (ih w').trans (iff_and_self.2 fun _ => rfl)

theorem performAll_snd {ops : List (Operation s.Value)} (h : w.Succeeds s ops) :
    (w.performAll s ops).2 = w.run s ops := by
  induction ops generalizing w with
  | nil => rfl
  | cons op ops ih =>
    obtain ⟨hfirst, hrest⟩ := throughout_cons.1 h
    have hrest := ih hrest
    rw [performAll]
    rcases hout : w.perform s op with ⟨r, w'⟩
    rw [hout] at hfirst hrest
    obtain rfl : r = .ok () := hfirst
    show (w'.performAll s ops).2 = _
    rw [hrest, run, run, List.foldl_cons, hout]

/-- Operations up to the first that fails are a run. -/
theorem performAll_of_error {ops : List (Operation s.Value)} {e : WriterError}
    (h : (w.performAll s ops).1 = .error e) :
    ∃ before op, before ++ [op] <+: ops ∧ w.Succeeds s before ∧
      ((w.run s before).perform s op).1 = .error e ∧
      (w.performAll s ops).2 = w.run s (before ++ [op]) := by
  induction ops generalizing w with
  | nil => exact nomatch h
  | cons first ops ih =>
    rw [performAll] at h ⊢
    rcases hout : w.perform s first with ⟨r, w'⟩
    rw [hout] at h
    cases r with
    | error cause =>
      refine ⟨[], first, ⟨ops, rfl⟩, throughout_nil, ?_, ?_⟩
      · show (w.perform s first).1 = _
        rw [hout]
        exact h
      · show w' = (w.perform s first).2
        rw [hout]
    | ok _ =>
      obtain ⟨before, op, hbefore, hok, herror, hrun⟩ := ih h
      refine ⟨first :: before, op, List.cons_prefix_cons.2 ⟨rfl, hbefore⟩, ?_, ?_, ?_⟩
      · rw [Succeeds, throughout_cons, hout]
        exact ⟨rfl, hok⟩
      · rw [run, List.foldl_cons, hout]
        exact herror
      · rw [List.cons_append, run, List.foldl_cons, hout]
        exact hrun

/-- **Operations up to the first that fails**, as dealings with the outlet. If they go smoothly and
every operation finds an open writer and is fit, none fails. -/
theorem performAll_deals (hslots : w.lanes.length ≤ slots) {ops : List (Operation s.Value)}
    (hops : ∀ op ∈ ops, ∀ t, op ≠ .turn t) :
    ∃ asks smooth,
      w.outlet.Deals slots (Lane.holding w.lanes) asks smooth
        (Lane.holding (w.performAll s ops).2.lanes) (w.performAll s ops).2.outlet ∧
      (smooth = true → Lane.Settled w.lanes →
        w.Throughout s (fun w op => w.closed = false ∧ w.Fit s op) ops →
        (w.performAll s ops).1 = .ok ()) := by
  induction ops generalizing w with
  | nil => exact ⟨[], true, .refl, fun _ _ _ => rfl⟩
  | cons op ops ih =>
    obtain ⟨asks, smooth, hdeals, hok⟩ := perform_deals hslots (hops op List.mem_cons_self)
    have hlength := length_perform w op
    have hkeeps (hsettled : Lane.Settled w.lanes) := settled_perform hsettled op
    rw [performAll]
    rcases hout : w.perform s op with ⟨r, w'⟩
    rw [hout] at hdeals hok hlength hkeeps
    cases r with
    | error e =>
      refine ⟨asks, smooth, hdeals, fun hsmooth hsettled hfits => ?_⟩
      obtain ⟨⟨hopen, hfit⟩, _⟩ := throughout_cons.1 hfits
      exact nomatch hok hsmooth hopen hsettled hfit
    | ok _ =>
      have hslots' : w'.lanes.length ≤ slots := hlength ▸ hslots
      obtain ⟨asks', smooth', hdeals', hok'⟩ :=
        ih hslots' fun op hop => hops op (List.mem_cons_of_mem _ hop)
      refine ⟨asks ++ asks', smooth && smooth', hdeals.trans hdeals', ?_⟩
      intro hsmooth hsettled hfits
      have hlater := (throughout_cons.1 hfits).2
      rw [hout] at hlater
      exact hok' (Bool.and_eq_true _ _ ▸ hsmooth).2 (hkeeps hsettled rfl) hlater

end Writer

end Fanout
