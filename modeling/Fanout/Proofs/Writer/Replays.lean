import Fanout.Config.Validate
import Fanout.Proofs.Shuffle.Setup
import Fanout.Proofs.Writer.Filters
import Fanout.Proofs.Writer.Routes

/-!
# Replays

A replay emits the records of an earlier run again, through a writer whose filter knows the width
and a channel of the earlier one (`IsReplay`).

* `replay_of_single` — selectors of one channel: what went to the lost channel is replayed, and only
  that.
* `replay_of_first` — any selectors: what went to the lost channel first is replayed, and only that.
-/

namespace Fanout

namespace Writer

/-! ## A run and its replay -/

section Runs

variable {σ : Type} {s : Schema} [ChannelSelector σ s.Value] {w v : Writer σ} {p p' : Partition}
  {selector : σ} {f : ReplayFilter} {ops again : List (Operation s.Value)}

/-- A producer at work emits some records through a writer without a filter, and another one emits
them again through a writer with a filter for the width of the first. Both start with the same
selector; they may differ in all that they do besides. -/
structure IsReplay (s : Schema) [ChannelSelector σ s.Value] (p p' : Partition) (selector : σ)
    (f : ReplayFilter) (w v : Writer σ) (ops again : List (Operation s.Value)) : Prop where
  former : w.MadeWith p selector none
  present : v.MadeWith p' selector (some f)
  formerWidth_eq : f.formerWidth = p.width
  atWork : ∀ op ∈ ops, op.AtWork
  atWork_again : ∀ op ∈ again, op.AtWork
  emissions_eq : again.filterMap Operation.emission? = ops.filterMap Operation.emission?

namespace IsReplay

variable (h : IsReplay s p p' selector f w v ops again)

include h

theorem sent_eq : along s (fun w op => w.dispatches s op) w ops =
    w.dispatchAll (ops.filterMap Operation.emission?) :=
  dispatches_run h.former.outset.closed_eq h.atWork

theorem replayed_eq : along s (fun w op => w.dispatches s op) v again =
    v.dispatchAll (ops.filterMap Operation.emission?) := by
  rw [dispatches_run h.present.outset.closed_eq h.atWork_again, h.emissions_eq]

/-- In the same width the replay routes as the former run did, where the filter lets it. -/
theorem map_replayed (hwidth : p'.width = p.width) :
    along s (fun w op => w.dispatches s op) v again =
      (along s (fun w op => w.dispatches s op) w ops).map (f.replayed Dispatch.routing) := by
  have hw := h.former.outset
  have hv := h.present.outset
  rw [h.sent_eq, h.replayed_eq]
  refine dispatchAll_replay hw.replay_eq hv.replay_eq ?_ ?_ ?_ _
  · rw [h.formerWidth_eq, hw.width_eq]
  · rw [hv.width_eq, hwidth, hw.width_eq]
  · rw [hv.selector_eq, hw.selector_eq]

theorem filtered_eq : (v.run s again).metrics.traffic.filtered = UInt64.ofNat
    ((along s (fun w op => w.dispatches s op) v again).countP Dispatch.isFiltered) := by
  have hv := h.present.outset
  show (v.run s again).outlet.traffic.filtered = _
  rw [filtered_run hv.closed_eq h.atWork_again, hv.filtered_eq, UInt64.zero_add]

end IsReplay

end Runs

/-- **A shuffle that is set up again with a replay section** makes a writer for the replay of what
it emitted without one, if the section names the channels that there were. -/
theorem isReplay_setup {c c' : Config} {args args' : RunArgs}
    {surroundings surroundings' : Surroundings} {d d' : Disk} {w v : Shuffle.Producer}
    {r : ReplaySettings}
    {ops again : List (Operation Shuffle.record.Value)}
    (hw : Shuffle.setup c args surroundings d = .ok w)
    (hv : Shuffle.setup c' args' surroundings' d' = .ok v) (hnone : c.recovery.replay = none)
    (hr : c'.recovery.replay = some r) (hkind : c'.writer.selector = c.writer.selector)
    (hformer : r.formerParallelism = Shuffle.width c args) (hops : ∀ op ∈ ops, op.AtWork)
    (hagain : ∀ op ∈ again, op.AtWork)
    (hsame : again.filterMap Operation.emission? = ops.filterMap Operation.emission?) :
    IsReplay Shuffle.record (Partition.make (Shuffle.partitionInfo c args))
      (Partition.make (Shuffle.partitionInfo c' args')) (Shuffle.policy c.writer.selector)
      ⟨r.lostChannel, r.endSuperstep, r.formerParallelism⟩ w v ops again where
  former := by
    have hmade := Shuffle.madeWith_setup hw
    rwa [hnone] at hmade
  present := by
    have hmade := Shuffle.madeWith_setup hv
    rwa [hr, hkind] at hmade
  formerWidth_eq := hformer
  atWork := hops
  atWork_again := hagain
  emissions_eq := hsame

/-! ## Selectors of one channel -/

section Single

variable {s : Schema} {w v : Writer (Selector s.Value)} {p p' : Partition}
  {selector : Selector s.Value} {f : ReplayFilter} {ops again : List (Operation s.Value)}

/-- Every record that goes through a selector of one channel goes to one channel. -/
theorem isSingle_dispatchAll (hw : w.replay = none) (hpicks : w.selector.PicksOne)
    (hpos : 0 < w.width) (hle : w.width ≤ maxChannels)
    (emissions : List (s.Value × Option Superstep)) :
    ∀ d ∈ w.dispatchAll emissions, d.routing.IsSingle w.width := by
  induction emissions generalizing w with
  | nil => exact fun d hd => nomatch hd
  | cons e later ih =>
    obtain ⟨record, superstep⟩ := e
    obtain ⟨hselected, hnext⟩ := hpicks.select record hpos hle
    unfold dispatchAll
    rw [route_of_none record superstep (activeFilter_of_none hw superstep)]
    refine List.forall_mem_cons.2 ⟨Routing.isSingle_routingOf hselected, ?_⟩
    exact ih (w := { w with selector := (select w.selector record w.width).2 }) hw hnext hpos hle

/-- A selection in turn is replayed in the same width, a selection by key in any: then all records
are replayed as they went, or to one channel each. -/
theorem IsReplay.single (h : IsReplay s p p' selector f w v ops again)
    (hlost : f.lost.toNat < p.width) (hpos : 0 < p'.width)
    (hselector : (∃ r, selector = .roundRobin r) ∧ p'.width = p.width ∨
      ∃ k, selector = .keyPartitioned k) :
    (∀ d ∈ along s (fun w op => w.dispatches s op) w ops, d.routing.IsSingle p.width) ∧
    ∃ present : Dispatch s.Value → Routing,
      along s (fun w op => w.dispatches s op) v again =
        (along s (fun w op => w.dispatches s op) w ops).map (f.replayed present) ∧
      (∀ d ∈ along s (fun w op => w.dispatches s op) w ops, (present d).IsSingle p'.width) ∧
      (p'.width = p.width → present = Dispatch.routing) := by
  have hw := h.former.outset
  have hv := h.present.outset
  have hpicks : selector.PicksOne := by
    rcases hselector with ⟨⟨r, rfl⟩, _⟩ | ⟨k, rfl⟩ <;> trivial
  have hsingle : ∀ d ∈ along s (fun w op => w.dispatches s op) w ops,
      d.routing.IsSingle p.width := by
    rw [h.sent_eq, ← hw.width_eq]
    refine isSingle_dispatchAll hw.replay_eq ?_ ?_ ?_ _
    · rwa [hw.selector_eq]
    · rw [hw.width_eq]
      exact Nat.zero_lt_of_lt hlost
    · rw [hw.width_eq]
      exact hw.width_le
  refine ⟨hsingle, ?_⟩
  by_cases hwidth : p'.width = p.width
  · refine ⟨Dispatch.routing, h.map_replayed hwidth, ?_, fun _ => rfl⟩
    rw [hwidth]
    exact hsingle
  · -- in another width a selection in turn is ruled out
    rcases hselector with ⟨_, hsame⟩ | ⟨k, rfl⟩
    · exact absurd hsame hwidth
    refine ⟨fun d => routingOf (select (Selector.keyPartitioned k) d.record p'.width).1, ?_, ?_,
      fun hsame => absurd hsame hwidth⟩
    · have hstays : ∀ (record : s.Value) width,
          (select v.selector record width).2 = v.selector := by
        rw [hv.selector_eq]
        exact fun _ _ => rfl
      have hformer : f.formerWidth = w.width := by rw [h.formerWidth_eq, hw.width_eq]
      have hsame : v.selector = w.selector := by rw [hv.selector_eq, hw.selector_eq]
      rw [h.sent_eq, h.replayed_eq,
        dispatchAll_replay_of_stays hstays hw.replay_eq hv.replay_eq hformer hsame, hv.selector_eq,
        hv.width_eq]
    · intro d _
      exact Routing.isSingle_routingOf (select_keyPartitioned k d.record hpos hv.width_le)

/-- **Replay is exact for selectors of one channel.** A run selects channels in turn or by key, and
is replayed for the channel that was lost; in turn over as many channels, by key over any number.
Then of the records in the window of the replay those are routed again that went to the lost
channel, in the same order, and all others are counted as held back; in the same width they go to
the lost channel. All records past the window are routed, each to one channel, and in the same width
to that to which it went. -/
theorem replay_of_single (h : IsReplay s p p' selector f w v ops again)
    (hlost : f.lost.toNat < p.width) (hpos : 0 < p'.width)
    (hselector : (∃ r, selector = .roundRobin r) ∧ p'.width = p.width ∨
      ∃ k, selector = .keyPartitioned k) :
    let sent := along s (fun w op => w.dispatches s op) w ops
    let replayed := along s (fun w op => w.dispatches s op) v again
    (sent.map Dispatch.emission = ops.filterMap Operation.emission? ∧
      replayed.map Dispatch.emission = ops.filterMap Operation.emission?) ∧
    (replayed.filter fun d => d.isUpTo f.lastStep ∧ d.routing ≠ .filtered).map Dispatch.emission =
      (sent.filter fun d => d.isUpTo f.lastStep ∧ f.lost ∈ d.routing.targets).map
        Dispatch.emission ∧
    (v.run s again).metrics.traffic.filtered = UInt64.ofNat
      (sent.countP fun d => d.isUpTo f.lastStep ∧ f.lost ∉ d.routing.targets) ∧
    (∀ d ∈ replayed, d.routing ≠ .filtered → d.routing.IsSingle p'.width) ∧
    (∀ d ∈ replayed, ¬d.isUpTo f.lastStep → d.routing ≠ .filtered) ∧
    (p'.width = p.width →
      (∀ d ∈ replayed, d.isUpTo f.lastStep → d.routing ≠ .filtered → d.routing = .to [f.lost]) ∧
      (replayed.filter fun d => ¬d.isUpTo f.lastStep) =
        sent.filter fun d => ¬d.isUpTo f.lastStep) := by
  intro sent replayed
  obtain ⟨hsingle, present, hreplayed, hpresent, hsame⟩ := h.single hlost hpos hselector
  have hreplayed : replayed = sent.map (f.replayed present) := hreplayed
  refine ⟨⟨?_, ?_⟩, ?_, ?_, ?_, ?_, ?_⟩
  · rw [show sent = _ from h.sent_eq, emissions_dispatchAll]
  · rw [show replayed = _ from h.replayed_eq, emissions_dispatchAll]
  · rw [hreplayed]
    exact ReplayFilter.emissions_replayed hsingle hpresent
  · rw [h.filtered_eq, show along s (fun w op => w.dispatches s op) v again = _ from hreplayed]
    exact congrArg UInt64.ofNat (ReplayFilter.countP_replayed hsingle hpresent)
  · rw [hreplayed, List.forall_mem_map]
    intro d hd hrouted
    rw [ReplayFilter.routing_of_ne_filtered hrouted]
    exact hpresent d hd
  · rw [hreplayed, List.forall_mem_map]
    intro d hd hpast hheld
    exact hpast ((ReplayFilter.filtered_iff (hsingle d hd) (hpresent d hd)).1 hheld).1
  · intro hwidth
    obtain rfl := hsame hwidth
    rw [hreplayed, List.forall_mem_map]
    refine ⟨?_, ReplayFilter.filter_past_replayed f sent⟩
    intro d hd
    exact ReplayFilter.replayed_eq_lost (hsingle d hd)

end Single

/-- Four messages go to two channels in turn, the third of them past the window, and the second
channel is lost. -/
theorem replay_of_single_small :
    let ops : List (Operation Shuffle.record.Value) :=
      [.emit ⟨1#64, 0#64⟩ (some ⟨3⟩), .emit ⟨2#64, 0#64⟩ none, .emit ⟨3#64, 0#64⟩ (some ⟨7⟩),
        .emit ⟨4#64, 0#64⟩ (some ⟨5⟩)]
    let v := Shuffle.smallProducer .roundRobin (some ⟨⟨1⟩, ⟨5⟩, 2⟩)
    let replayed := along Shuffle.record (fun w op => w.dispatches Shuffle.record op) v ops
    (replayed.filter fun d => d.isUpTo ⟨5⟩ ∧ d.routing ≠ .filtered).map Dispatch.emission =
      [(⟨2#64, 0#64⟩, none), (⟨4#64, 0#64⟩, some ⟨5⟩)] ∧
    (v.run Shuffle.record ops).metrics.traffic.filtered = 1 ∧
    (replayed.filter fun d => ¬d.isUpTo ⟨5⟩) = [⟨⟨3#64, 0#64⟩, some ⟨7⟩, .to [⟨0⟩]⟩] := by
  intro ops v replayed
  have hsent : along Shuffle.record (fun w op => w.dispatches Shuffle.record op)
      (Shuffle.smallProducer .roundRobin none) ops =
      [⟨⟨1#64, 0#64⟩, some ⟨3⟩, .to [⟨0⟩]⟩, ⟨⟨2#64, 0#64⟩, none, .to [⟨1⟩]⟩,
        ⟨⟨3#64, 0#64⟩, some ⟨7⟩, .to [⟨0⟩]⟩, ⟨⟨4#64, 0#64⟩, some ⟨5⟩, .to [⟨1⟩]⟩] := by
    decide +kernel
  have hops : ∀ op ∈ ops, op.AtWork := by decide
  have hv : Shuffle.setup (Shuffle.smallConfig .roundRobin (some ⟨⟨1⟩, ⟨5⟩, 2⟩)) {} .attentive
      Disk.empty = .ok v := rfl
  have hreplay := isReplay_setup (Shuffle.setup_smallConfig .roundRobin) hv rfl rfl rfl rfl hops
    hops rfl
  obtain ⟨_, hwindow, hcount, _, _, hsame⟩ :=
    replay_of_single hreplay (by decide) (by decide) (.inl ⟨⟨_, rfl⟩, rfl⟩)
  rw [hsent] at hwindow hcount hsame
  exact ⟨hwindow, hcount, (hsame rfl).2⟩

/-! ## Any selectors -/

section First

variable {σ : Type} {s : Schema} [ChannelSelector σ s.Value] {w v : Writer σ} {p p' : Partition}
  {selector : σ} {f : ReplayFilter} {ops again : List (Operation s.Value)} {c : ChannelId}

/-- What the consumer of a channel reads in all that was delivered there, and what it has left over
then. -/
def received (s : Schema) (w : Writer σ) (c : ChannelId) :
    Except RecordError (List s.Value) × Reassembly :=
  (Reassembly.start.receive (w.delivered c).toArray).drainRecords s

/-- The operations succeed, and the last one is a flush. -/
def Completes (s : Schema) [ChannelSelector σ s.Value] (w : Writer σ)
    (ops : List (Operation s.Value)) : Prop :=
  w.Succeeds s ops ∧ ops.getLast? = some .flush

theorem records_routes_run (w : Writer σ) (c : ChannelId) (ops : List (Operation s.Value)) :
    ((along s (fun w op => w.routes s op) w ops).filter fun r => r.channel = c).map Route.record =
      (along s (fun w op => w.dispatches s op) w ops).flatMap (Dispatch.recordsOn c) := by
  induction ops generalizing w with
  | nil => rfl
  | cons op ops ih =>
    rw [along, along, List.filter_append, List.map_append, List.flatMap_append, ih]
    refine congrArg (· ++ _) ?_
    cases op with
    | emit record superstep =>
      rw [routes, List.filter_map, List.map_map]
      exact (List.append_nil _).symm
    | broadcast _ | endSuperstep | flush | close | clear | drop | turn _ => rfl

/-- After a last flush the consumer of a channel reads what was routed there. -/
theorem received_run {replay : Option ReplayFilter} (hmade : w.MadeWith p selector replay)
    (hp : p.Fresh) (hops : ∀ op ∈ ops, op.AtWork) (hdone : w.Completes s ops)
    (hc : c.toNat < p.width) :
    (w.run s ops).received s c =
      (.ok ((along s (fun w op => w.dispatches s op) w ops).flatMap (Dispatch.recordsOn c)),
        Reassembly.start) := by
  obtain ⟨hok, hflush⟩ := hdone
  unfold received
  rw [drainRecords_run hmade.madeFor.start hp hops hflush hok hc, records_routes_run]

namespace IsReplay

variable (h : IsReplay s p p' selector f w v ops again)

include h

/-- A replay of records in the window, in the same width. -/
theorem map_narrowed (hwidth : p'.width = p.width)
    (hwindow : ∀ e ∈ ops.filterMap Operation.emission?, e.2.all (· ≤ f.lastStep)) :
    along s (fun w op => w.dispatches s op) v again =
      (along s (fun w op => w.dispatches s op) w ops).map f.narrowed := by
  refine (h.map_replayed hwidth).trans (List.map_congr_left ?_)
  intro d hd
  have hemission := List.mem_map_of_mem (f := Dispatch.emission) hd
  rw [h.sent_eq, emissions_dispatchAll] at hemission
  have hupTo : d.isUpTo f.lastStep := hwindow d.emission hemission
  exact ReplayFilter.replayed_of_window hupTo

/-- What the consumer of the lost channel reads in the replay. -/
theorem received_again (hwidth : p'.width = p.width) (hlost : f.lost.toNat < p.width)
    (hwindow : ∀ e ∈ ops.filterMap Operation.emission?, e.2.all (· ≤ f.lastStep)) (hp' : p'.Fresh)
    (hdone : v.Completes s again) :
    (v.run s again).received s f.lost =
      (.ok (((along s (fun w op => w.dispatches s op) w ops).filter fun d =>
        d.routing.targets.head? = some f.lost).flatMap (Dispatch.recordsOn f.lost)),
        Reassembly.start) := by
  rw [received_run h.present hp' h.atWork_again hdone (hwidth ▸ hlost),
    h.map_narrowed hwidth hwindow, ReplayFilter.flatMap_narrowed]

end IsReplay

/-- **A replay follows first targets.** A run with any selector is replayed in the same width, with
all its records in the window. Then a record is routed again just as it went, if it went to the lost
channel first, and is counted as held back if not. So the consumer of the lost channel reads those
records that had gone to it first, as often as they had gone to it, in order. These are all that it
had read before if nothing went to it behind another channel, and none if all records went to all
channels and the lost one is not the first. -/
theorem replay_of_first (h : IsReplay s p p' selector f w v ops again) (hwidth : p'.width = p.width)
    (hlost : f.lost.toNat < p.width)
    (hwindow : ∀ e ∈ ops.filterMap Operation.emission?, e.2.all (· ≤ f.lastStep)) :
    let sent := along s (fun w op => w.dispatches s op) w ops
    let replayed := along s (fun w op => w.dispatches s op) v again
    let first := sent.filter fun d => d.routing.targets.head? = some f.lost
    replayed = (sent.map fun d =>
      if d.routing.targets.head? = some f.lost then d else { d with routing := .filtered }) ∧
    (v.run s again).metrics.traffic.filtered = UInt64.ofNat
      (sent.countP fun d => d.routing.targets.head? ≠ some f.lost) ∧
    (p.Fresh → p'.Fresh → w.Completes s ops → v.Completes s again →
      (w.run s ops).received s f.lost =
        (.ok (sent.flatMap (Dispatch.recordsOn f.lost)), Reassembly.start) ∧
      (v.run s again).received s f.lost =
        (.ok (first.flatMap (Dispatch.recordsOn f.lost)), Reassembly.start) ∧
      ((∀ d ∈ sent, f.lost ∈ d.routing.targets → d.routing.targets.head? = some f.lost) →
        (v.run s again).received s f.lost = (w.run s ops).received s f.lost) ∧
      ((∀ d ∈ sent, d.routing.targets = allChannels p.width) → f.lost.toNat ≠ 0 →
        (v.run s again).received s f.lost = (.ok [], Reassembly.start))) := by
  intro sent replayed first
  refine ⟨h.map_narrowed hwidth hwindow, ?_, ?_⟩
  · rw [h.filtered_eq, h.map_narrowed hwidth hwindow, List.countP_map]
    refine congrArg UInt64.ofNat (List.countP_congr ?_)
    intro d _
    rw [Function.comp_apply, ReplayFilter.isFiltered_narrowed]
  intro hp hp' hdone hdone'
  have hread := received_run h.former hp h.atWork hdone hlost
  have hagain := h.received_again hwidth hlost hwindow hp' hdone'
  refine ⟨hread, hagain, ?_, ?_⟩
  · intro hbehind
    -- no record that went there is left out
    have hall : first.flatMap (Dispatch.recordsOn f.lost) =
        sent.flatMap (Dispatch.recordsOn f.lost) := by
      refine Dispatch.flatMap_filter ?_
      intro d hd hnot
      refine Dispatch.recordsOn_eq_nil ?_
      intro hmem
      exact of_decide_eq_false hnot (hbehind d hd hmem)
    rw [hagain, hread]
    exact congrArg (fun records => (Except.ok records, Reassembly.start)) hall
  · intro hbroadcast hne
    have hnone : first = [] := by
      refine List.filter_eq_nil_iff.2 ?_
      intro d hd hfirst
      have hhead := of_decide_eq_true hfirst
      rw [hbroadcast d hd, head?_allChannels (Nat.zero_lt_of_lt hlost)] at hhead
      exact hne (Option.some.inj hhead ▸ rfl)
    rw [hagain]
    show (Except.ok (first.flatMap _), Reassembly.start) = _
    rw [hnone]
    rfl

end First

/-- A message goes to both channels, and the second one is lost: it is not replayed. -/
theorem broadcast_not_replayed :
    let c := Shuffle.smallConfig .broadcast (some ⟨⟨1⟩, ⟨5⟩, 2⟩)
    let w := Shuffle.smallProducer .broadcast none
    let v := Shuffle.smallProducer .broadcast (some ⟨⟨1⟩, ⟨5⟩, 2⟩)
    let ops : List (Operation Shuffle.record.Value) := [.emit ⟨5#64, 6#64⟩ none, .flush]
    c.validate = .ok () ∧
    Shuffle.setup (Shuffle.smallConfig .broadcast none) {} .attentive Disk.empty = .ok w ∧
    Shuffle.setup c {} .attentive Disk.empty = .ok v ∧
    w.targets Shuffle.record ⟨5#64, 6#64⟩ none = [⟨0⟩, ⟨1⟩] ∧
    (v.run Shuffle.record ops).metrics.traffic.filtered = 1 ∧
    (w.run Shuffle.record ops).received Shuffle.record ⟨1⟩ =
      (.ok [⟨5#64, 6#64⟩], Reassembly.start) ∧
    (v.run Shuffle.record ops).received Shuffle.record ⟨1⟩ = (.ok [], Reassembly.start) := by
  intro c w v ops
  have hw : Shuffle.setup (Shuffle.smallConfig .broadcast none) {} .attentive Disk.empty = .ok w :=
    Shuffle.setup_smallConfig .broadcast
  have hv : Shuffle.setup (Shuffle.smallConfig .broadcast (some ⟨⟨1⟩, ⟨5⟩, 2⟩)) {} .attentive
      Disk.empty = .ok v := rfl
  have hops : ∀ op ∈ ops, op.AtWork := by decide
  have hdone : w.Succeeds Shuffle.record ops := by decide +kernel
  have hdone' : v.Succeeds Shuffle.record ops := by decide +kernel
  have hread := received_run (c := ⟨1⟩) (Shuffle.madeWith_setup hw) ⟨rfl, rfl⟩ hops ⟨hdone, rfl⟩
    (by decide)
  have hread' := received_run (c := ⟨1⟩) (Shuffle.madeWith_setup hv) ⟨rfl, rfl⟩ hops ⟨hdone', rfl⟩
    (by decide)
  refine ⟨by decide, hw, hv, by decide +kernel, by decide +kernel, ?_, ?_⟩
  · rw [hread]
    refine congrArg (fun records => (Except.ok records, Reassembly.start)) ?_
    decide +kernel
  · rw [hread']
    refine congrArg (fun records => (Except.ok records, Reassembly.start)) ?_
    decide +kernel

/-- Two messages go to both channels, and the first one is lost. -/
theorem replay_of_first_small :
    let c := Shuffle.smallConfig .broadcast (some ⟨⟨0⟩, ⟨5⟩, 2⟩)
    let w := Shuffle.smallProducer .broadcast none
    let v := Shuffle.smallProducer .broadcast (some ⟨⟨0⟩, ⟨5⟩, 2⟩)
    let ops : List (Operation Shuffle.record.Value) :=
      [.emit ⟨5#64, 6#64⟩ none, .emit ⟨7#64, 8#64⟩ (some ⟨5⟩), .flush]
    c.validate = .ok () ∧ Shuffle.setup c {} .attentive Disk.empty = .ok v ∧
    (v.run Shuffle.record ops).received Shuffle.record ⟨0⟩ =
      (w.run Shuffle.record ops).received Shuffle.record ⟨0⟩ ∧
    (v.run Shuffle.record ops).received Shuffle.record ⟨0⟩ =
      (.ok [⟨5#64, 6#64⟩, ⟨7#64, 8#64⟩], Reassembly.start) := by
  intro c w v ops
  have hv : Shuffle.setup (Shuffle.smallConfig .broadcast (some ⟨⟨0⟩, ⟨5⟩, 2⟩)) {} .attentive
      Disk.empty = .ok v := rfl
  have hops : ∀ op ∈ ops, op.AtWork := by decide
  have hdone : w.Succeeds Shuffle.record ops := by decide +kernel
  have hdone' : v.Succeeds Shuffle.record ops := by decide +kernel
  have hsent : along Shuffle.record (fun w op => w.dispatches Shuffle.record op) w ops =
      [⟨⟨5#64, 6#64⟩, none, .to [⟨0⟩, ⟨1⟩]⟩, ⟨⟨7#64, 8#64⟩, some ⟨5⟩, .to [⟨0⟩, ⟨1⟩]⟩] := by
    decide +kernel
  have hreplay := isReplay_setup (Shuffle.setup_smallConfig .broadcast) hv rfl rfl rfl rfl hops
    hops rfl
  obtain ⟨_, _, hreceived⟩ := replay_of_first hreplay rfl (by decide) (by decide)
  obtain ⟨_, hread, hsame, _⟩ := hreceived ⟨rfl, rfl⟩ ⟨rfl, rfl⟩ ⟨hdone, rfl⟩ ⟨hdone', rfl⟩
  rw [hsent] at hread hsame
  exact ⟨by decide, hv, hsame (by decide), hread⟩

end Writer

end Fanout
