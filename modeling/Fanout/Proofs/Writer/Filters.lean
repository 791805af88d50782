import Fanout.Proofs.Routing.Selectors
import Fanout.Proofs.Writer.Dispatches

/-!
# Replay filters at work

A writer with a replay filter knows the width of an earlier one. While the width stays, the
selections stay as well, so it routes records as the earlier one did where the filter lets them pass
(`dispatchAll_replay`). For a selector without a state the same holds in any width, with the
selection made again among the channels that there are now (`dispatchAll_replay_of_stays`).
-/

namespace Fanout

/-! ## Selections of one channel -/

/-- A record went to one channel of so many. -/
def Routing.IsSingle (width : Nat) (r : Routing) : Prop := ∃ c, r = .to [c] ∧ c.toNat < width

theorem Routing.targets_routingOf (selected : List ChannelId) :
    (Writer.routingOf selected).targets = selected := by
  unfold Writer.routingOf
  cases selected <;> rfl

theorem Routing.isSingle_routingOf {selected : List ChannelId} {width : Nat}
    (h : ∃ c, selected = [c] ∧ c.toNat < width) : (Writer.routingOf selected).IsSingle width := by
  obtain ⟨c, rfl, hc⟩ := h
  exact ⟨c, rfl, hc⟩

/-! ## Filtered routings -/

namespace Dispatch

variable {α : Type}

/-- Whether the record was emitted in a superstep up to the given one, or in none. -/
def isUpTo (last : Superstep) (d : Dispatch α) : Bool := d.superstep.all (· ≤ last)

/-- The record, once for each time that it goes to the channel. -/
def recordsOn (c : ChannelId) (d : Dispatch α) : List α :=
  (d.routing.targets.filter fun target => target = c).map fun _ => d.record

theorem recordsOn_eq_nil {c : ChannelId} {d : Dispatch α} (h : c ∉ d.routing.targets) :
    d.recordsOn c = [] := by
  have hnone : (d.routing.targets.filter fun target => target = c) = [] := by
    refine List.filter_eq_nil_iff.2 ?_
    intro target htarget heq
    exact h (of_decide_eq_true heq ▸ htarget)
  rw [recordsOn, hnone, List.map_nil]

/-- Dispatches that contribute nothing can be left out. -/
theorem flatMap_filter {β : Type} {ds : List (Dispatch α)} {keep : Dispatch α → Bool}
    {g : Dispatch α → List β} (h : ∀ d ∈ ds, keep d = false → g d = []) :
    (ds.filter keep).flatMap g = ds.flatMap g := by
  induction ds with
  | nil => rfl
  | cons d ds ih =>
    obtain ⟨hfirst, hlater⟩ := List.forall_mem_cons.1 h
    rw [List.flatMap_cons, ← ih hlater]
    cases hkeep : keep d with
    | true => rw [List.filter_cons_of_pos hkeep, List.flatMap_cons]
    | false =>
      rw [List.filter_cons_of_neg (Bool.eq_false_iff.1 hkeep), hfirst hkeep, List.nil_append]

end Dispatch

namespace ReplayFilter

variable {α : Type} {f : ReplayFilter} {d : Dispatch α} {again : Dispatch α → Routing} {width : Nat}

theorem isActive_eq_isUpTo (f : ReplayFilter) (d : Dispatch α) :
    f.isActive d.superstep = d.isUpTo f.lastStep := by
  unfold isActive Dispatch.isUpTo
  cases d.superstep <;> rfl

/-- The replay of a dispatch: it is held back, or routed as given. -/
def replayed (f : ReplayFilter) (again : Dispatch α → Routing) (d : Dispatch α) : Dispatch α :=
  { d with routing :=
      if f.isActive d.superstep && !f.keeps d.routing.targets then .filtered else again d }

theorem routing_replayed (f : ReplayFilter) (again : Dispatch α → Routing) (d : Dispatch α) :
    (f.replayed again d).routing =
      if d.isUpTo f.lastStep && !f.keeps d.routing.targets then .filtered else again d := by
  rw [← isActive_eq_isUpTo]
  rfl

/-- A record that went to one channel is kept if that was the lost one. -/
theorem keeps_of_isSingle (h : d.routing.IsSingle width) :
    f.keeps d.routing.targets = decide (f.lost ∈ d.routing.targets) := by
  obtain ⟨c, hc, _⟩ := h
  rw [hc, Bool.eq_iff_iff]
  simp [keeps, Routing.targets, eq_comm]

/-- What is not held back is routed as given. -/
theorem routing_of_ne_filtered (h : (f.replayed again d).routing ≠ .filtered) :
    (f.replayed again d).routing = again d := by
  rw [routing_replayed] at h ⊢
  split
  · rename_i hheld
    exact absurd (if_pos hheld) h
  · rfl

/-- Past the window nothing changes. -/
theorem replayed_of_past (h : ¬d.isUpTo f.lastStep) : f.replayed Dispatch.routing d = d := by
  unfold replayed
  rw [isActive_eq_isUpTo, Bool.eq_false_iff.2 h]
  rfl

/-- Where records go to one channel, those in the window that did not go to the lost one are held
back. -/
theorem filtered_iff (hd : d.routing.IsSingle width) {n : Nat} (hagain : (again d).IsSingle n) :
    (f.replayed again d).routing = .filtered ↔
      d.isUpTo f.lastStep ∧ f.lost ∉ d.routing.targets := by
  obtain ⟨c, hc, _⟩ := hagain
  rw [routing_replayed, keeps_of_isSingle hd, hc]
  by_cases hwindow : d.isUpTo f.lastStep <;> by_cases hlost : f.lost ∈ d.routing.targets <;>
    simp [hwindow, hlost]

/-- A record that went to one channel and is routed again in the window, goes to the lost one. -/
theorem replayed_eq_lost (hd : d.routing.IsSingle width) (hwindow : d.isUpTo f.lastStep)
    (hrouted : (f.replayed Dispatch.routing d).routing ≠ .filtered) :
    (f.replayed Dispatch.routing d).routing = .to [f.lost] := by
  have hmem : f.lost ∈ d.routing.targets := by
    by_contra hnot
    exact hrouted ((filtered_iff hd hd).2 ⟨hwindow, hnot⟩)
  rw [routing_of_ne_filtered hrouted]
  obtain ⟨c, hc, _⟩ := hd
  rw [hc] at hmem ⊢
  rw [List.mem_singleton.1 hmem]

section Single

variable {ds : List (Dispatch α)} {n : Nat} (hds : ∀ d ∈ ds, d.routing.IsSingle width)
  (hagain : ∀ d ∈ ds, (again d).IsSingle n)

include hds hagain

/-- In the window, what is routed again is what went to the lost channel. -/
theorem emissions_replayed :
    ((ds.map (f.replayed again)).filter fun d => d.isUpTo f.lastStep ∧ d.routing ≠ .filtered).map
        Dispatch.emission =
      (ds.filter fun d => d.isUpTo f.lastStep ∧ f.lost ∈ d.routing.targets).map
        Dispatch.emission := by
  rw [List.filter_map, List.map_map]
  refine congrArg (List.map Dispatch.emission) (List.filter_congr ?_)
  intro d hd
  show decide (d.isUpTo f.lastStep ∧ (f.replayed again d).routing ≠ .filtered) = _
  rw [decide_eq_decide, Ne, filtered_iff (hds d hd) (hagain d hd)]
  tauto

theorem countP_replayed :
    (ds.map (f.replayed again)).countP Dispatch.isFiltered =
      ds.countP fun d => d.isUpTo f.lastStep ∧ f.lost ∉ d.routing.targets := by
  rw [List.countP_map]
  refine List.countP_congr ?_
  intro d hd
  show decide ((f.replayed again d).routing = .filtered) = true ↔ _
  rw [decide_eq_true_iff, decide_eq_true_iff, filtered_iff (hds d hd) (hagain d hd)]

end Single

theorem filter_past_replayed (f : ReplayFilter) (ds : List (Dispatch α)) :
    ((ds.map (f.replayed Dispatch.routing)).filter fun d => ¬d.isUpTo f.lastStep) =
      ds.filter fun d => ¬d.isUpTo f.lastStep := by
  rw [List.filter_map]
  refine (List.map_congr_left ?_).trans (List.map_id _)
  intro d hd
  have hpast : ¬d.isUpTo f.lastStep := of_decide_eq_true (List.mem_filter.1 hd).2
  exact replayed_of_past hpast

/-- What becomes of a dispatch in the window when the width stays: nothing if the record went to the
lost channel first, else it is held back. -/
def narrowed (f : ReplayFilter) (d : Dispatch α) : Dispatch α :=
  if d.routing.targets.head? = some f.lost then d else { d with routing := .filtered }

theorem replayed_of_window (h : d.isUpTo f.lastStep) :
    f.replayed Dispatch.routing d = f.narrowed d := by
  unfold replayed narrowed keeps
  rw [isActive_eq_isUpTo, h]
  by_cases hfirst : d.routing.targets.head? = some f.lost
  · simp [hfirst]
  · simp [hfirst]

theorem isFiltered_narrowed (f : ReplayFilter) (d : Dispatch α) :
    (f.narrowed d).isFiltered = decide (d.routing.targets.head? ≠ some f.lost) := by
  unfold narrowed Dispatch.isFiltered
  by_cases hfirst : d.routing.targets.head? = some f.lost
  · -- a record with a target is not one that was held back
    have hrouted : d.routing ≠ .filtered := by
      intro hfiltered
      rw [hfiltered] at hfirst
      exact nomatch hfirst
    simp [hfirst, hrouted]
  · simp [hfirst]

/-- A channel gets nothing from what is held back. -/
theorem flatMap_narrowed (f : ReplayFilter) (c : ChannelId) (ds : List (Dispatch α)) :
    (ds.map f.narrowed).flatMap (Dispatch.recordsOn c) =
      (ds.filter fun d => d.routing.targets.head? = some f.lost).flatMap
        (Dispatch.recordsOn c) := by
  rw [List.flatMap_map]
  refine (Dispatch.flatMap_filter ?_).symm.trans (List.flatMap_congr ?_)
  · intro d _ hnot
    rw [narrowed, if_neg (of_decide_eq_false hnot)]
    rfl
  · intro d hd
    rw [narrowed, if_pos (of_decide_eq_true (List.mem_filter.1 hd).2)]

end ReplayFilter

namespace Writer

section Routings

variable {σ α : Type} [ChannelSelector σ α] {w v : Writer σ} {f : ReplayFilter}

theorem route_of_none (record : α) (superstep : Option Superstep)
    (h : w.activeFilter superstep = none) :
    w.route record superstep = (routingOf (select w.selector record w.width).1,
      (select w.selector record w.width).2) := by
  unfold route
  rw [h]

/-- A filter for the writer's own width makes no second selection. -/
theorem route_of_some (record : α) (superstep : Option Superstep)
    (h : w.activeFilter superstep = some f) (hwidth : f.formerWidth = w.width) :
    w.route record superstep =
      (if !f.keeps (select w.selector record w.width).1 then .filtered
        else routingOf (select w.selector record w.width).1,
      (select w.selector record w.width).2) := by
  unfold route
  rw [h]
  dsimp only
  rw [hwidth]
  split
  · rfl
  · rw [if_pos rfl]

theorem activeFilter_of_none (hw : w.replay = none) (superstep : Option Superstep) :
    w.activeFilter superstep = none := by
  rw [activeFilter, hw]
  rfl

theorem activeFilter_of_some (hv : v.replay = some f) {superstep : Option Superstep} {active : Bool}
    (h : f.isActive superstep = active) :
    v.activeFilter superstep = bif active then some f else none := by
  rw [activeFilter, hv, ← h]
  show (if f.isActive superstep then some f else none) = _
  cases f.isActive superstep <;> rfl

/-- **One record in the same width**: it is routed as before or held back, and the selector moves on
as before. -/
theorem route_replay (hw : w.replay = none) (hv : v.replay = some f)
    (hformer : f.formerWidth = w.width) (hwidth : v.width = w.width)
    (hselector : v.selector = w.selector) (record : α) (superstep : Option Superstep) :
    v.route record superstep =
      ((f.replayed Dispatch.routing ⟨record, superstep, (w.route record superstep).1⟩).routing,
        (w.route record superstep).2) := by
  rw [route_of_none record superstep (activeFilter_of_none hw superstep)]
  unfold ReplayFilter.replayed
  dsimp only
  rw [Routing.targets_routingOf]
  cases hactive : f.isActive superstep with
  | false =>
    have hfilter := activeFilter_of_some hv hactive
    rw [route_of_none record superstep hfilter, hwidth, hselector]
    rfl
  | true =>
    have hfilter := activeFilter_of_some hv hactive
    rw [route_of_some record superstep hfilter (hformer.trans hwidth.symm), hwidth, hselector]
    rfl

/-- **A replay in the same width**, for any selector. -/
theorem dispatchAll_replay (hw : w.replay = none) (hv : v.replay = some f)
    (hformer : f.formerWidth = w.width) (hwidth : v.width = w.width)
    (hselector : v.selector = w.selector) (emissions : List (α × Option Superstep)) :
    v.dispatchAll emissions = (w.dispatchAll emissions).map (f.replayed Dispatch.routing) := by
  induction emissions generalizing w v with
  | nil => rfl
  | cons e later ih =>
    obtain ⟨record, superstep⟩ := e
    have hroute := route_replay hw hv hformer hwidth hselector record superstep
    unfold dispatchAll
    rw [hroute, List.map_cons]
    exact congrArg _ (ih hw hv hformer hwidth rfl)

/-- The state of a selector that has none stays as it is, however often a record is selected for. -/
theorem route_snd_of_stays
    (hstays : ∀ (record : α) width, (select w.selector record width).2 = w.selector) (record : α)
    (superstep : Option Superstep) : (w.route record superstep).2 = w.selector := by
  unfold route
  split
  · exact hstays record w.width
  · rename_i filter _
    dsimp only
    rw [hstays record filter.formerWidth]
    split
    · rfl
    · split
      · rfl
      · exact hstays record w.width

/-- Without a state, every record is routed on its own. -/
theorem dispatchAll_of_stays
    (hstays : ∀ (record : α) width, (select w.selector record width).2 = w.selector)
    (emissions : List (α × Option Superstep)) :
    w.dispatchAll emissions = emissions.map fun e => ⟨e.1, e.2, (w.route e.1 e.2).1⟩ := by
  induction emissions with
  | nil => rfl
  | cons e later ih =>
    obtain ⟨record, superstep⟩ := e
    unfold dispatchAll
    rw [route_snd_of_stays hstays, List.map_cons]
    exact congrArg _ ih

/-- One record in any width: what it was selected for in the former width decides whether it is held
back, and the present width where it goes. -/
theorem route_replay_of_stays
    (hstays : ∀ (record : α) width, (select v.selector record width).2 = v.selector)
    (hw : w.replay = none) (hv : v.replay = some f) (hformer : f.formerWidth = w.width)
    (hselector : v.selector = w.selector) (record : α) (superstep : Option Superstep) :
    (v.route record superstep).1 =
      (f.replayed (fun d => routingOf (select v.selector d.record v.width).1)
        ⟨record, superstep, (w.route record superstep).1⟩).routing := by
  rw [route_of_none record superstep (activeFilter_of_none hw superstep), ← hselector, ← hformer]
  unfold ReplayFilter.replayed
  dsimp only
  rw [Routing.targets_routingOf]
  cases hactive : f.isActive superstep with
  | false =>
    have hfilter := activeFilter_of_some hv hactive
    rw [route_of_none record superstep hfilter]
    rfl
  | true =>
    have hfilter := activeFilter_of_some hv hactive
    unfold route
    rw [hfilter]
    dsimp only [cond_true]
    rw [hstays record f.formerWidth]
    cases f.keeps (select v.selector record f.formerWidth).1 with
    | false => rfl
    | true =>
      by_cases hsame : f.formerWidth = v.width
      · rw [hsame]
        simp
      · simp [hsame]

/-- **A replay in any width**, for a selector without a state. -/
theorem dispatchAll_replay_of_stays
    (hstays : ∀ (record : α) width, (select v.selector record width).2 = v.selector)
    (hw : w.replay = none) (hv : v.replay = some f) (hformer : f.formerWidth = w.width)
    (hselector : v.selector = w.selector) (emissions : List (α × Option Superstep)) :
    v.dispatchAll emissions = (w.dispatchAll emissions).map
      (f.replayed fun d => routingOf (select v.selector d.record v.width).1) := by
  have hstays' : ∀ (record : α) width, (select w.selector record width).2 = w.selector := by
    rw [← hselector]
    exact hstays
  rw [dispatchAll_of_stays hstays, dispatchAll_of_stays hstays', List.map_map]
  refine List.map_congr_left ?_
  intro e _
  rw [route_replay_of_stays hstays hw hv hformer hselector]
  rfl

end Routings

end Writer

end Fanout
