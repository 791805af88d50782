import Fanout.Proofs.Writer.Attempts
import Fanout.Proofs.Writer.Filters
import Fanout.Proofs.Writer.Routes
import Mathlib.Algebra.BigOperators.Group.Finset.Basic

/-!
# Copies of records

A selector of the library picks as many channels for every record, so a writer sends as many copies
of each record that its filter lets pass (`copied_dispatchAll`), and it has a channel for every
record. Then the records on all channels are the records that were sent, times the copies of each
(`sum_count_targetsOf`). Records that go to the channels in turn go round (`targetsOf_inTurn`).
-/

namespace Fanout

/-- A record is held back, or goes to so many channels of the width. -/
inductive Routing.Copied (copies width : Nat) : Routing → Prop where
  | filtered : Copied copies width .filtered
  | sent (targets : List ChannelId) (hpos : 0 < copies) (hlength : targets.length = copies)
    (hwithin : ∀ c ∈ targets, c.toNat < width) : Copied copies width (.to targets)

theorem Routing.copied_routingOf {selected : List ChannelId} {copies width : Nat}
    (hpos : 0 < copies) (hlength : selected.length = copies)
    (hwithin : ∀ c ∈ selected, c.toNat < width) :
    (Writer.routingOf selected).Copied copies width := by
  unfold Writer.routingOf
  rw [if_neg]
  · exact .sent selected hpos hlength hwithin
  · intro hnone
    rw [List.isEmpty_iff.1 hnone, List.length_nil] at hlength
    exact Nat.ne_of_gt hpos hlength.symm

theorem Routing.Copied.within {r : Routing} {copies width : Nat} (h : r.Copied copies width) :
    ∀ c ∈ r.targets, c.toNat < width := by
  cases h with
  | filtered => exact List.forall_mem_nil _
  | sent _ _ _ hwithin => exact hwithin

/-- The channels to which some records go, in order and with repetitions. -/
def targetsOf {α : Type} (ds : List (Dispatch α)) : List ChannelId :=
  ds.flatMap fun d => d.routing.targets

/-- The mark that an operation sets on all channels. -/
def Operation.mark? {α : Type} : Operation α → Option Mark
  | .broadcast e => some (.event e)
  | .endSuperstep => some .endOfSuperstep
  | _ => none

namespace Writer

/-! ## Routings of one writer -/

section Selectors

variable {α : Type} {w : Writer (Selector α)} {copies : Nat → Nat}

/-- The widths that a writer can have: its own, and that of its filter. -/
structure Widths (w : Writer (Selector α)) : Prop where
  pos : 0 < w.width
  le : w.width ≤ maxChannels
  former_pos : ∀ f, w.replay = some f → 0 < f.formerWidth
  former_le : ∀ f, w.replay = some f → f.formerWidth ≤ maxChannels

theorem copied_route (hpicks : w.selector.Picks copies) (hw : w.Widths) (record : α)
    (superstep : Option Superstep) :
    (w.route record superstep).1.Copied (copies w.width) w.width ∧
      (w.route record superstep).2.Picks copies := by
  have hown {sel : Selector α} (hsel : sel.Picks copies) :
      (routingOf (select sel record w.width).1).Copied (copies w.width) w.width ∧
        (select sel record w.width).2.Picks copies := by
    obtain ⟨hlength, hwithin, hnext⟩ := hsel.select record hw.pos hw.le
    exact ⟨Routing.copied_routingOf (hsel.pos hw.pos) hlength hwithin, hnext⟩
  unfold route
  split
  · exact hown hpicks
  · rename_i f hactive
    have hf : w.replay = some f := (Option.filter_eq_some_iff.1 hactive).1
    obtain ⟨_, _, hnext⟩ := hpicks.select record (hw.former_pos f hf) (hw.former_le f hf)
    dsimp only
    split
    · exact ⟨.filtered, hnext⟩
    · split
      -- a filter of the same width selects once, any other a second time
      · rename_i hsame
        rw [hsame]
        exact hown hpicks
      · exact hown hnext

/-- **Every record is held back or goes to as many channels**, with and without a replay filter. -/
theorem copied_dispatchAll (hpicks : w.selector.Picks copies) (hw : w.Widths)
    (emissions : List (α × Option Superstep)) :
    ∀ d ∈ w.dispatchAll emissions, d.routing.Copied (copies w.width) w.width := by
  induction emissions generalizing w with
  | nil => exact List.forall_mem_nil _
  | cons e later ih =>
    obtain ⟨record, superstep⟩ := e
    obtain ⟨hcopied, hnext⟩ := copied_route hpicks hw record superstep
    refine List.forall_mem_cons.2 ⟨hcopied, ?_⟩
    exact ih (w := { w with selector := (w.route record superstep).2 }) hnext
      ⟨hw.pos, hw.le, hw.former_pos, hw.former_le⟩

/-- **Records that go to the channels in turn** start behind the channel that was last and go
round. -/
theorem targetsOf_inTurn (hw : w.replay = none) (hpos : 0 < w.width) {r : RoundRobin}
    (hselector : w.selector = .roundRobin r) (emissions : List (α × Option Superstep)) :
    targetsOf (w.dispatchAll emissions) = (List.range emissions.length).map fun k =>
      ChannelId.ofNat ((r.nextPosition w.width + k) % w.width) := by
  induction emissions generalizing w r with
  | nil => rfl
  | cons e later ih =>
    obtain ⟨record, superstep⟩ := e
    have hroute : w.route record superstep = (.to [ChannelId.ofNat (r.nextPosition w.width)],
        .roundRobin ⟨some (r.nextPosition w.width)⟩) := by
      rw [route_of_none record superstep (activeFilter_of_none hw superstep), hselector]
      simp [select, routingOf, Nat.ne_of_gt hpos]
    have hnext : r.nextPosition w.width < w.width := by
      unfold RoundRobin.nextPosition
      split
      · exact Nat.mod_lt _ hpos
      · exact hpos
    have hlater := ih (w := { w with selector := (w.route record superstep).2 }) hw hpos
      (congrArg Prod.snd hroute)
    rw [dispatchAll, targetsOf, List.flatMap_cons, ← targetsOf, hlater, List.length_cons,
      List.range_succ_eq_map, List.map_cons, List.map_map, hroute]
    refine congrArg₂ (· :: ·) ?_ (List.map_congr_left fun k _ => ?_)
    · rw [Nat.add_zero, Nat.mod_eq_of_lt hnext]
    · show ChannelId.ofNat (((_ + 1) % _ + k) % _) = ChannelId.ofNat ((_ + (k + 1)) % _)
      rw [Nat.mod_add_mod, Nat.add_assoc, Nat.add_comm 1]
      rfl

end Selectors

/-! ## Counts -/

section Counts

variable {α : Type} {ds : List (Dispatch α)} {copies width : Nat}

/-- No record is left without a channel, so the records are those held back and those sent. -/
theorem countP_copied (h : ∀ d ∈ ds, d.routing.Copied copies width) :
    ds.countP Dispatch.isSent + ds.countP Dispatch.isFiltered = ds.length ∧
      ds.countP Dispatch.isUnrouted = 0 := by
  induction ds with
  | nil => exact ⟨rfl, rfl⟩
  | cons d ds ih =>
    obtain ⟨hd, hlater⟩ := List.forall_mem_cons.1 h
    obtain ⟨hcount, hnone⟩ := ih hlater
    obtain ⟨record, superstep, routing⟩ := d
    rw [List.countP_cons, List.countP_cons, List.countP_cons, hnone, List.length_cons, ← hcount]
    cases hd with
    | filtered => exact ⟨(Nat.add_assoc _ _ _).symm, rfl⟩
    | sent _ _ _ _ => exact ⟨Nat.add_right_comm _ _ _, rfl⟩

theorem length_targetsOf (h : ∀ d ∈ ds, d.routing.Copied copies width) :
    (targetsOf ds).length = ds.countP Dispatch.isSent * copies := by
  induction ds with
  | nil => exact (Nat.zero_mul copies).symm
  | cons d ds ih =>
    obtain ⟨hd, hlater⟩ := List.forall_mem_cons.1 h
    obtain ⟨record, superstep, routing⟩ := d
    rw [targetsOf, List.flatMap_cons, List.length_append, ← targetsOf, ih hlater, List.countP_cons]
    cases hd with
    | filtered => exact Nat.zero_add _
    | sent targets _ hlength _ =>
      show targets.length + _ = (List.countP _ ds + 1) * copies
      rw [hlength, Nat.add_mul, Nat.one_mul, Nat.add_comm]

/-- Channels of some width, counted channel by channel. -/
theorem sum_count {targets : List ChannelId} (hwidth : width ≤ maxChannels)
    (hwithin : ∀ c ∈ targets, c.toNat < width) :
    ((List.range width).map fun i => targets.count (ChannelId.ofNat i)).sum = targets.length := by
  have hpositions : ∀ a ∈ (targets.map ChannelId.toNat : Multiset Nat), a ∈ Finset.range width := by
    intro a ha
    obtain ⟨c, hc, rfl⟩ := List.mem_map.1 (Multiset.mem_coe.1 ha)
    exact Finset.mem_range.2 (hwithin c hc)
  have hinj : Function.Injective ChannelId.toNat := fun _ _ h => ChannelId.ext_toNat h
  calc ((List.range width).map fun i => targets.count (ChannelId.ofNat i)).sum
      = ((List.range width).map fun i => (targets.map ChannelId.toNat).count i).sum := by
        refine congrArg List.sum (List.map_congr_left fun i hi => ?_)
        have hlt := Nat.lt_of_lt_of_le (List.mem_range.1 hi) hwidth
        rw [← List.count_map_of_injective targets _ hinj, ChannelId.toNat_ofNat_of_lt hlt]
    _ = (targets.map ChannelId.toNat).length := by
        have hsum := Multiset.sum_count_eq_card hpositions
        simp only [Multiset.coe_count, Multiset.coe_card] at hsum
        exact hsum
    _ = targets.length := List.length_map _

/-- **What all channels receive** are the records that were sent, as often as each is copied. -/
theorem sum_count_targetsOf (hwidth : width ≤ maxChannels)
    (h : ∀ d ∈ ds, d.routing.Copied copies width) :
    ((List.range width).map fun i => (targetsOf ds).count (ChannelId.ofNat i)).sum =
      ds.countP Dispatch.isSent * copies := by
  rw [sum_count hwidth, length_targetsOf h]
  intro c hc
  obtain ⟨d, hd, hc⟩ := List.mem_flatMap.1 hc
  exact (h d hd).within c hc

end Counts

/-! ## Runs -/

section Runs

variable {σ : Type} {s : Schema} [ChannelSelector σ s.Value]

theorem channels_routes_run (w : Writer σ) (ops : List (Operation s.Value)) :
    (along s (fun w op => w.routes s op) w ops).map Route.channel =
      targetsOf (along s (fun w op => w.dispatches s op) w ops) := by
  induction ops generalizing w with
  | nil => rfl
  | cons op ops ih =>
    rw [along, along, List.map_append, targetsOf, List.flatMap_append, ← targetsOf, ih]
    refine congrArg (· ++ _) ?_
    cases op with
    | emit record superstep =>
      rw [routes, List.map_map]
      exact (List.map_id _).trans (List.append_nil _).symm
    | broadcast _ | endSuperstep | flush | close | clear | drop | turn _ => rfl

/-- The number of records that are asked for on a channel. -/
theorem length_recordsOf_entries_run (w : Writer σ) (c : ChannelId)
    (ops : List (Operation s.Value)) :
    (recordsOf (along s (fun w op => w.entries s c op) w ops)).length =
      (targetsOf (along s (fun w op => w.dispatches s op) w ops)).count c := by
  rw [recordsOf_entries_run, List.length_map, ← channels_routes_run, List.count_eq_countP,
    List.countP_map, List.countP_eq_length_filter]
  rfl

/-- The marks that are asked for on a channel are those set on all of them. -/
theorem marksOf_entries_run (w : Writer σ) (c : ChannelId) (ops : List (Operation s.Value)) :
    marksOf (along s (fun w op => w.entries s c op) w ops) = ops.filterMap Operation.mark? := by
  induction ops generalizing w with
  | nil => rfl
  | cons op ops ih =>
    rw [along, marksOf_append, ih]
    cases op with
    | emit record superstep =>
      rw [entries, marksOf_map_record]
      rfl
    | broadcast _ | endSuperstep | flush | close | clear | drop | turn _ => rfl

/-- Where records can be encoded and go to channels that there are, every operation is fit. -/
theorem throughout_fit {w : Writer σ} (hopen : w.closed = false) {ops : List (Operation s.Value)}
    (hops : ∀ op ∈ ops, op.AtWork)
    (hencode : ∀ e ∈ ops.filterMap Operation.emission?, (encodeRecord s e.1).isOk = true)
    (hwithin : ∀ d ∈ w.dispatchAll (ops.filterMap Operation.emission?),
      ∀ c ∈ d.routing.targets, c.toNat < w.lanes.length) :
    w.Throughout s (fun w op => w.closed = false ∧ w.Fit s op) ops := by
  induction ops generalizing w with
  | nil => exact throughout_nil
  | cons op ops ih =>
    obtain ⟨hop, hlater⟩ := List.forall_mem_cons.1 hops
    have hsteers := perform_steers hopen hop
    have hrest := dispatchAll_congr (w := { w with selector := w.selectorAfter s op })
      hsteers.replay_eq (length_perform w op) hsteers.selector_eq
      (ops.filterMap Operation.emission?)
    have hopen' := hsteers.closed_eq.trans hopen
    have hlength := length_perform w op
    refine throughout_cons.2 ?_
    cases op with
    | emit record superstep =>
      obtain ⟨hfirst, hencode⟩ := List.forall_mem_cons.1 hencode
      obtain ⟨hhere, hwithin⟩ := List.forall_mem_cons.1 hwithin
      refine ⟨⟨hopen, hfirst, hhere⟩, ih hopen' hlater hencode ?_⟩
      rw [hrest, hlength]
      exact hwithin
    | broadcast _ | endSuperstep | flush | close | clear | drop | turn _ =>
      refine ⟨⟨hopen, trivial⟩, ih hopen' hlater hencode ?_⟩
      rw [hrest, hlength]
      exact hwithin

end Runs

end Writer

end Fanout
