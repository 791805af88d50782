import Fanout.Proofs.Routing.Calls
import Fanout.Proofs.Writer.Dispatches
import Fanout.Proofs.Writer.Failures

/-!
# Selections out of range

That a channel is out of range is said by the check of a selection and by nothing else
(`perform_eq_outOfRange_iff`). So a writer whose selector stays in range never says it: its records
are routed by a selection for its own width, with a replay filter as well as without one
(`StaysInRange.neverOutOfRange`). The selectors of the library are of this kind
(`selectors_in_range`).
-/

namespace Fanout

/-- The error of a selection that has a channel too many. -/
def WriterError.OutOfRange : WriterError → Prop
  | .channelOutOfRange _ _ => True
  | _ => False

theorem WriterError.OutOfRange.harmless {e : WriterError} (h : e.OutOfRange) : e.Harmless := by
  cases e with
  | channelOutOfRange c width => trivial
  | serialization _ | transport _ _ | poolDestroyed | bufferTimeout _ | illegalState _
  | edgesAlreadyUsed | deadlineOverflow | starved => exact h.elim

/-! ## What lanes complain of -/

namespace Lane

variable {c : ChannelId} {s : Serializer} {o : Outlet} {e : WriterError} {P : WriterError → Prop}
  {step : ChannelId → Serializer → Outlet → LaneResult Unit}

theorem not_outOfRange_serve {frame : Except RecordError ByteArray}
    (h : (serve c frame s o).2.1 = .error e) : ¬e.OutOfRange := by
  intro hrange
  obtain ⟨⟨cause, rfl⟩, -⟩ := serve_of_harmless h hrange.harmless
  unfold serve Serializer.add at h
  split at h
  · rename_i hadd
    split at hadd
    · cases hadd
      cases h
      exact hrange
    · cases hadd
      cases h
      exact hrange
  · rename_i hadd
    split at hadd <;> exact nomatch hadd

theorem not_harmless_flush (h : (flush c s o).1 = .error e) : ¬e.Harmless := by
  unfold flush at h
  split at h
  · cases h
    exact id
  · split at h
    · cases h
    · split at h
      · cases h
      · rename_i b _ _
        cases hforward : (o.forward c b).1 with
        | error cause =>
          simp only [hforward] at h
          cases h
          exact o.not_harmless_forward c b hforward
        | ok _ =>
          simp only [hforward] at h
          cases h

theorem not_harmless_prime (h : (prime s o).1 = .error e) : ¬e.Harmless := by
  unfold prime at h
  split at h
  · rename_i hrequest
    exact o.not_harmless_request (by rw [hrequest]; exact h)
  · cases h

theorem not_harmless_endSuperstep (h : (endSuperstep c s o).1 = .error e) : ¬e.Harmless := by
  unfold endSuperstep at h
  split at h
  · rename_i hflush
    cases h
    exact not_harmless_flush (c := c) (s := s) (o := o) (congrArg Prod.fst hflush)
  · split at h
    · exact not_harmless_prime h
    · cases h

theorem not_harmless_retire (h : (retire c s o).1 = .error e) : ¬e.Harmless := by
  unfold retire at h
  split at h
  · rename_i hflush
    cases h
    exact not_harmless_flush (c := c) (s := s) (o := o) (congrArg Prod.fst hflush)
  · split at h <;> cases h

theorem not_harmless_sendEvent {event : Event} (h : (sendEvent event c s o).1 = .error e) :
    ¬e.Harmless := by
  unfold sendEvent at h
  split at h
  · rename_i hflush
    cases h
    exact not_harmless_flush (c := c) (s := s) (o := o) (congrArg Prod.fst hflush)
  · split at h
    · rename_i hsend
      unfold Outlet.sendEvent at hsend
      split at hsend
      · cases hsend
      · cases hsend
        cases h
        exact id
    · split at h
      · exact not_harmless_prime h
      · cases h

/-- A sweep complains of what its steps complain of. -/
theorem sweep_complaint (hstep : ∀ c s o e, (step c s o).1 = .error e → P e) {i : Nat}
    {lanes : List Serializer} (h : (sweep step i lanes o).1 = .error e) : P e := by
  induction lanes generalizing i o with
  | nil => cases h
  | cons s lanes ih =>
    unfold sweep at h
    rcases hfirst : step (ChannelId.ofNat i) s o with ⟨_ | _, s', o'⟩
    · rw [hfirst] at h
      exact hstep (ChannelId.ofNat i) s o e (by rw [hfirst]; exact h)
    · rw [hfirst] at h
      exact ih h

theorem sweepAll_complaint (hstep : ∀ c s o e, (step c s o).1 = .error e → P e) {i : Nat}
    {lanes : List Serializer} (h : (sweepAll step i lanes o).1 = .error e) : P e := by
  induction lanes generalizing i o with
  | nil => cases h
  | cons s lanes ih =>
    unfold sweepAll at h
    rcases hfirst : step (ChannelId.ofNat i) s o with ⟨_ | _, s', o'⟩
    · rw [hfirst] at h
      exact hstep (ChannelId.ofNat i) s o e (by rw [hfirst]; exact h)
    · rw [hfirst] at h
      exact ih h

end Lane

namespace Writer

variable {σ : Type} {s : Schema} [ChannelSelector σ s.Value] {w : Writer σ} {e : WriterError}
  {record : s.Value} {superstep : Option Superstep} {op : Operation s.Value}

theorem not_outOfRange_serve {frame : Except RecordError ByteArray} {targets : List ChannelId}
    {lanes : List Serializer} {o : Outlet} (h : (serve frame targets lanes o).2.1 = .error e) :
    ¬e.OutOfRange := by
  induction targets generalizing lanes o with
  | nil => cases h
  | cons c targets ih =>
    unfold serve at h
    split at h
    · rename_i hserve
      cases h
      exact Lane.not_outOfRange_serve (congrArg (fun out => out.2.1) hserve)
    · exact ih h

/-! ## What operations complain of -/

/-- Only an emission complains of a selection. -/
theorem emission_of_outOfRange (h : (w.perform s op).1 = .error e) (he : e.OutOfRange) :
    ∃ record superstep, op = .emit record superstep := by
  have hswept {step : ChannelId → Serializer → Outlet → LaneResult Unit}
      (hstep : ∀ c s o e, (step c s o).1 = .error e → ¬e.Harmless)
      (h : (Lane.sweep step 0 w.lanes w.outlet).1 = .error e) : False :=
    Lane.sweep_complaint hstep h he.harmless
  have hflushed {v : Writer σ} (h : v.flush.1 = .error e) : False :=
    Lane.sweepAll_complaint (fun _ _ _ _ => Lane.not_harmless_retire) h he.harmless
  cases op with
  | emit record superstep => exact ⟨record, superstep, rfl⟩
  | broadcast event =>
    change (w.broadcast event).1 = .error e at h
    unfold broadcast at h
    split at h
    · cases h
      exact he.elim
    · exact (hswept (fun _ _ _ _ => Lane.not_harmless_sendEvent) h).elim
  | endSuperstep =>
    change w.endSuperstep.1 = .error e at h
    unfold endSuperstep at h
    split at h
    · cases h
      exact he.elim
    · split at h
      · rename_i hsweep
        cases h
        exact (hswept (fun _ _ _ _ => Lane.not_harmless_endSuperstep)
          (congrArg Prod.fst hsweep)).elim
      · rename_i o _
        change o.endSuperstep.1 = .error e at h
        unfold Outlet.endSuperstep at h
        split at h
        · cases h
        · cases h
          exact he.elim
  | flush => exact (hflushed h).elim
  | close =>
    change w.close.1 = .error e at h
    unfold close at h
    split at h
    · cases h
    · exact (hflushed h).elim
  | clear | drop | turn _ => cases h

/-- What an open writer says of a record: what the check of the selection says, or else what its
targets say. -/
theorem emit_result (hopen : w.closed = false) :
    (w.perform s (.emit record superstep)).1 =
      match checkSelection (w.targets s record superstep) w.width with
      | .error cause => .error (.ofRouting cause)
      | .ok () => (serve ((encodeRecord s record).map pack) (w.targets s record superstep) w.lanes
          w.outlet).2.1 := by
  show (w.emit s record superstep).1 = _
  unfold emit
  rw [if_neg (Bool.eq_false_iff.1 hopen), targets]
  rcases w.route record superstep with ⟨_ | _ | selected, selector⟩
  · rfl
  · rfl
  · show (Writer.emitTo { w with selector := selector } ((encodeRecord s record).map pack)
      superstep selected).1 = match checkSelection selected w.width with
        | .error cause => .error (.ofRouting cause)
        | .ok () => (serve ((encodeRecord s record).map pack) selected w.lanes w.outlet).2.1
    have hwidth : Writer.width { w with selector := selector } = w.width := rfl
    unfold emitTo
    rw [hwidth]
    cases checkSelection selected w.width with
    | error cause => rfl
    | ok _ =>
      rcases serve ((encodeRecord s record).map pack) selected w.lanes w.outlet with
        ⟨accepted, _ | _, lanes, o⟩ <;> rfl

/-- **A channel is out of range** for a writer exactly if it is so for the check of the selection by
which an open writer routes a record. -/
theorem perform_eq_outOfRange_iff {c : ChannelId} {width : Nat} :
    (w.perform s op).1 = .error (.channelOutOfRange c width) ↔
      ∃ record superstep, op = .emit record superstep ∧ w.closed = false ∧
        checkSelection (w.targets s record superstep) w.width =
          .error (.channelOutOfRange c width) := by
  constructor
  · intro h
    obtain ⟨record, superstep, rfl⟩ := emission_of_outOfRange h trivial
    cases hclosed : w.closed with
    | true =>
      change (w.emit s record superstep).1 = _ at h
      rw [emit, if_pos hclosed] at h
      exact nomatch h
    | false =>
      refine ⟨record, superstep, rfl, rfl, ?_⟩
      rw [emit_result hclosed] at h
      cases hcheck : checkSelection (w.targets s record superstep) w.width with
      | error cause =>
        rw [hcheck] at h
        cases cause with
        | channelOutOfRange c' width' =>
          obtain ⟨rfl, rfl⟩ := WriterError.channelOutOfRange.inj (Except.error.inj h)
          rfl
        | tooManyChannels _ => exact nomatch h
      | ok _ =>
        rw [hcheck] at h
        exact absurd trivial (not_outOfRange_serve h)
  · rintro ⟨record, superstep, rfl, hopen, hcheck⟩
    rw [emit_result hopen, hcheck]
    rfl

/-! ## Selectors that stay in range -/

/-- A writer whose selector stays in range, for widths that channel indices reach. -/
structure Ranging (s : Schema) [ChannelSelector σ s.Value] (w : Writer σ) : Prop where
  selector : StaysInRange s.Value w.selector
  width_le : w.width ≤ maxChannels
  former_le : ∀ filter, w.replay = some filter → filter.formerWidth ≤ maxChannels

theorem Ranging.of_make {partition : Partition} {pool : Pool} {selector : σ}
    {options : WriterOptions} {now : Duration} {surroundings : Surroundings} {disk : Disk}
    (h : StaysInRange s.Value selector)
    (hmade : make partition pool selector options now surroundings disk = .ok w) :
    w.Ranging s := by
  have hout : w.Outset partition selector options.replay :=
    MadeWith.outset ⟨pool, options, now, surroundings, disk, hmade, rfl⟩
  refine ⟨hout.selector_eq ▸ h, hout.width_eq ▸ hout.width_le, fun filter hfilter => ?_⟩
  rw [hout.replay_eq] at hfilter
  unfold make at hmade
  rw [hfilter] at hmade
  dsimp only at hmade
  split at hmade
  · exact nomatch hmade
  · split at hmade
    · exact nomatch hmade
    · rename_i hformer
      exact Nat.le_of_not_lt hformer

/-- **A record is routed by a selection for the width of the writer**, with a filter too; so the
selection is in range. -/
theorem Ranging.route (h : w.Ranging s) (record : s.Value) (superstep : Option Superstep) :
    checkSelection (w.targets s record superstep) w.width = .ok () ∧
      StaysInRange s.Value (w.route record superstep).2 := by
  have htargets {selected : List ChannelId} (hcheck : checkSelection selected w.width = .ok ()) :
      checkSelection (routingOf selected).targets w.width = .ok () := by
    unfold routingOf
    split
    · rfl
    · exact hcheck
  unfold targets Writer.route
  cases hfilter : w.activeFilter superstep with
  | none =>
    obtain ⟨⟨hcheck, -⟩, hnext⟩ := h.selector.select record h.width_le
    exact ⟨htargets hcheck, hnext⟩
  | some filter =>
    have hformer := h.former_le filter (Option.filter_eq_some_iff.1 hfilter).1
    obtain ⟨⟨hcheck, -⟩, hnext⟩ := h.selector.select record hformer
    dsimp only
    split
    · exact ⟨rfl, hnext⟩
    · split
      · rename_i hsame
        exact ⟨htargets (hsame ▸ hcheck), hnext⟩
      · obtain ⟨⟨hcheck', -⟩, hnext'⟩ := hnext.select record h.width_le
        exact ⟨htargets hcheck', hnext'⟩

theorem route_emit (w : Writer σ) (record : s.Value) (superstep : Option Superstep) :
    (w.emit s record superstep).2.replay = w.replay ∧
      ((w.emit s record superstep).2.selector = w.selector ∨
        (w.emit s record superstep).2.selector = (w.route record superstep).2) := by
  unfold emit
  split
  · exact ⟨rfl, .inl rfl⟩
  · rcases w.route record superstep with ⟨_ | _ | targets, selector⟩
    · exact ⟨rfl, .inr rfl⟩
    · exact ⟨rfl, .inr rfl⟩
    · have hsteers := emitTo_steers { w with selector := selector }
        ((encodeRecord s record).map pack) superstep targets
      exact ⟨hsteers.replay_eq, .inr hsteers.selector_eq⟩

/-- Every operation leaves the filter as it is, and the selector too or as some record moves it. -/
theorem route_perform (w : Writer σ) (op : Operation s.Value) :
    (w.perform s op).2.replay = w.replay ∧ ((w.perform s op).2.selector = w.selector ∨
      ∃ (record : s.Value) (superstep : Option Superstep),
        (w.perform s op).2.selector = (w.route record superstep).2) := by
  cases op with
  | emit record superstep =>
    obtain ⟨hreplay, hselector⟩ := route_emit w record superstep
    exact ⟨hreplay, hselector.imp_right fun h => ⟨record, superstep, h⟩⟩
  | broadcast event =>
    show (w.broadcast event).2.replay = _ ∧ ((w.broadcast event).2.selector = _ ∨ _)
    unfold broadcast
    split
    · exact ⟨rfl, .inl rfl⟩
    · exact ⟨rfl, .inl rfl⟩
  | endSuperstep =>
    show w.endSuperstep.2.replay = _ ∧ (w.endSuperstep.2.selector = _ ∨ _)
    unfold endSuperstep
    split
    · exact ⟨rfl, .inl rfl⟩
    · split
      · exact ⟨rfl, .inl rfl⟩
      · exact ⟨rfl, .inl rfl⟩
  | close =>
    show w.close.2.replay = _ ∧ (w.close.2.selector = _ ∨ _)
    unfold close
    split
    · exact ⟨rfl, .inl rfl⟩
    · exact ⟨rfl, .inl rfl⟩
  | flush | clear | drop | turn _ => exact ⟨rfl, .inl rfl⟩

theorem Ranging.perform (h : w.Ranging s) (op : Operation s.Value) :
    (w.perform s op).2.Ranging s := by
  obtain ⟨hreplay, hselector⟩ := route_perform w op
  refine ⟨?_, (length_perform w op).trans_le h.width_le, hreplay.symm ▸ h.former_le⟩
  rcases hselector with heq | ⟨record, superstep, heq⟩
  · exact heq ▸ h.selector
  · exact heq ▸ (h.route record superstep).2

theorem Ranging.run (h : w.Ranging s) (ops : List (Operation s.Value)) : (w.run s ops).Ranging s := by
  induction ops generalizing w with
  | nil => exact h
  | cons op ops ih => exact ih (h.perform op)

theorem Ranging.ne_outOfRange (h : w.Ranging s) (op : Operation s.Value) (c : ChannelId)
    (width : Nat) : (w.perform s op).1 ≠ .error (.channelOutOfRange c width) := by
  intro hresult
  obtain ⟨record, superstep, -, -, hcheck⟩ := perform_eq_outOfRange_iff.1 hresult
  rw [(h.route record superstep).1] at hcheck
  exact nomatch hcheck

end Writer

/-- No operation of a writer that is made with the selector says that a channel is out of range,
whatever its partition, its options and the operations before. -/
def NeverOutOfRange {σ : Type} (s : Schema) [ChannelSelector σ s.Value] (selector : σ) : Prop :=
  ∀ partition pool options now surroundings disk w,
    Writer.make partition pool selector options now surroundings disk = .ok w →
    ∀ ops : List (Operation s.Value), w.Throughout s (fun w op =>
      ∀ c width, (w.perform s op).1 ≠ .error (.channelOutOfRange c width)) ops

theorem StaysInRange.neverOutOfRange {σ : Type} {s : Schema} [ChannelSelector σ s.Value]
    {selector : σ} (h : StaysInRange s.Value selector) : NeverOutOfRange s selector :=
  fun _ _ _ _ _ _ _ hmade _ before op _ =>
    ((Writer.Ranging.of_make h hmade).run before).ne_outOfRange op

/-- **The selectors of the library stay in range**, for any records and any widths that channel
indices reach, and no selection is empty unless there are no channels.

In turn and by key is one channel for each record. By key it is the one of the key among so many
channels, whatever was selected before. In turn, while there are the same number of channels, the
channels follow each other and begin again, so that none is selected two times more often than
another. A broadcast, though it keeps its selection, is to all channels, each once and in order. And
no writer with such a selector ever finds a channel out of range. -/
theorem selectors_in_range {α : Type} :
    (∀ r : RoundRobin, StaysInRange α r) ∧ (∀ b : Broadcast, StaysInRange α b) ∧
    StaysInRange α KeptBroadcast.start ∧ (∀ k : KeyPartitioned α, StaysInRange α k) ∧
    (∀ (r : RoundRobin) (calls : List (α × Nat)), (∀ call ∈ calls, call.2 ≤ maxChannels) →
      List.Forall₂ (fun call selected => call.2 ≠ 0 → ∃ c, selected = [c]) calls
        (selections r calls)) ∧
    (∀ (k : KeyPartitioned α) (calls : List (α × Nat)),
      selections k calls = calls.map fun call =>
        if call.2 = 0 then [] else [channelOfKey (k.key call.1) call.2]) ∧
    (∀ calls : List (α × Nat), selections KeptBroadcast.start calls = selections (⟨⟩ : Broadcast) calls ∧
      ((∀ call ∈ calls, call.2 ≤ maxChannels) →
        (selections KeptBroadcast.start calls).map (List.map ChannelId.toNat) =
          calls.map fun call => List.range call.2)) ∧
    (∀ (r : RoundRobin) n (records : List α), 0 < n → n ≤ maxChannels →
      (∃ first, selections r (records.map (·, n)) = (List.range records.length).map fun k =>
        [ChannelId.ofNat ((first + k) % n)]) ∧
      ∀ c d : ChannelId, c.toNat < n → d.toNat < n →
        (selections r (records.map (·, n))).flatten.count c ≤
          (selections r (records.map (·, n))).flatten.count d + 1) ∧
    ∀ s : Schema, (∀ r : RoundRobin, NeverOutOfRange s r) ∧ (∀ b : Broadcast, NeverOutOfRange s b) ∧
      NeverOutOfRange s KeptBroadcast.start ∧ ∀ k : KeyPartitioned s.Value, NeverOutOfRange s k := by
  refine ⟨staysInRange_roundRobin, staysInRange_broadcast,
    staysInRange_keptBroadcast KeptBroadcast.sound_start, staysInRange_keyPartitioned,
    fun r _ hcalls => singles_roundRobin r hcalls, selections_keyPartitioned, fun calls => ?_,
    fun r n records hpos hle => ?_, fun s => ?_⟩
  · have hkept := selections_keptBroadcast (α := α) KeptBroadcast.sound_start calls
    refine ⟨hkept.trans (selections_broadcast ⟨⟩ calls).symm, fun hcalls => ?_⟩
    rw [hkept, List.map_map]
    exact List.map_congr_left fun call hcall => toNat_allChannels (hcalls call hcall)
  · exact ⟨⟨_, selections_roundRobin r hpos records⟩,
      fun c d hc hd => count_selections_le r hle records hc hd⟩
  · exact ⟨fun r => (staysInRange_roundRobin r).neverOutOfRange,
      fun b => (staysInRange_broadcast b).neverOutOfRange,
      (staysInRange_keptBroadcast KeptBroadcast.sound_start).neverOutOfRange,
      fun k => (staysInRange_keyPartitioned k).neverOutOfRange⟩

/-! A small case: turns that end on the last channel that there can be, then no channels, then fewer
than before; and a broadcast of one record by a writer with one channel. -/

theorem selectors_in_range_small :
    let calls : List (Unit × Nat) := [((), 65536), ((), 0), ((), 65536), ((), 3), ((), 1)]
    let ops : List (Operation Schema.bytes.Value) := [.emit [1, 2, 3] none, .flush]
    (∀ call ∈ calls, call.2 ≤ maxChannels) ∧
    List.Forall₂ (fun call selected => checkSelection selected call.2 = .ok () ∧
      (selected = [] ↔ call.2 = 0)) calls (selections (⟨some 65534⟩ : RoundRobin) calls) ∧
    selections (⟨some 65534⟩ : RoundRobin) calls = [[⟨65535⟩], [], [⟨0⟩], [⟨1⟩], [⟨0⟩]] ∧
    Writer.smallWriter.Throughout .bytes (fun w op =>
      ∀ c width, (w.perform .bytes op).1 ≠ .error (.channelOutOfRange c width)) ops := by
  intro calls ops
  have hcalls : ∀ call ∈ calls, call.2 ≤ maxChannels := by decide
  obtain ⟨hturns, -, -, -, -, -, -, -, hwriters⟩ := selectors_in_range (α := Unit)
  refine ⟨hcalls, hturns ⟨some 65534⟩ calls hcalls, by decide +kernel, ?_⟩
  exact (hwriters .bytes).2.1 ⟨⟩ Writer.smallPartition Writer.smallPool ⟨none, none, .unlimited⟩
    (.ofSeconds 1) .attentive Disk.empty Writer.smallWriter rfl ops

end Fanout
