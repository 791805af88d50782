import Fanout.Proofs.Writer.Backups
import Fanout.Proofs.Writer.Dispatches
import Fanout.Proofs.Writer.Ledgers
import Fanout.Proofs.Writer.Ownership
import Fanout.Proofs.Writer.Packing

/-!
# Metering

What the counters of a writer say about its past. The partition has a record of all that was offered
to it, the results of the operations tell which of them succeeded, and the routings of the records
say where they went. The books of an outlet (`Outlet.Booked`) hold its counters against these, and
every request for a buffer against what became of it. Each call keeps them, those that fail as well,
so every operation and every run does.

* `Outlet.booked_ledger` — the books are a ledger.
* `run_posts` — what ledgers say at every point of every run.
* `metrics_run` — the metrics of a writer match what happened.
-/

namespace Fanout

/-! ## What a partition was offered -/

/-- What a partition was offered on all its channels, apart from markers. -/
structure Intake where
  taken : List Buffer
  refused : List Buffer
  events : List Event
  deriving DecidableEq

namespace Intake

def none : Intake := ⟨[], [], []⟩

/-- The intake with one more offer. A refused event leaves nothing behind. -/
def offer (intake : Intake) (offer : Offer) : Intake :=
  match offer.delivery, offer.taken with
  | .buffer b, true => { intake with taken := intake.taken ++ [b] }
  | .buffer b, false => { intake with refused := intake.refused ++ [b] }
  | .event e, true => { intake with events := intake.events ++ [e] }
  | .event _, false | .endOfSuperstep, _ => intake

end Intake

namespace Partition

variable {p p' : Partition}

def intake (p : Partition) : Intake := p.offers.toList.foldl Intake.offer .none

theorem intake_congr (h : p'.offers = p.offers) : p'.intake = p.intake := by
  rw [intake, h, intake]

theorem intake_push {offer : Offer} (h : p'.offers = p.offers.push offer) :
    p'.intake = p.intake.offer offer := by
  rw [intake, h, Array.toList_push, List.foldl_append, intake]
  rfl

/-- Markers are no part of the intake. -/
theorem intake_of_marks (h : p.Adds (· = .endOfSuperstep) p') : p'.intake = p.intake := by
  obtain ⟨more, hoffers, hmarks⟩ := h
  rw [intake, hoffers, List.foldl_append, ← intake]
  clear hoffers
  induction more with
  | nil => rfl
  | cons offer more ih =>
    obtain ⟨hmark, hmore⟩ := List.forall_mem_cons.1 hmarks
    obtain ⟨c, d, taken⟩ := offer
    obtain rfl : d = .endOfSuperstep := hmark
    exact ih hmore

end Partition

/-! ## Books -/

theorem ofNat_succ (n : Nat) : UInt64.ofNat (n + 1) = UInt64.ofNat n + 1 := UInt64.ofNat_add n 1

/-- The count of a record that was routed so. -/
def Dispatch.count {α : Type} (d : Dispatch α) (t : Traffic) : Traffic :=
  match d.routing with
  | .filtered => t.countFiltered
  | .unrouted => t.countUnrouted
  | .to _ => t.countEmitted

namespace Outlet

variable {α : Type} {ds : List (Dispatch α)} {ended held denied : Nat} {o : Outlet}

/-- **The books of an outlet**, when records were dispatched and supersteps ended: what is counted of
buffers and events is what the partition was offered, and each request is accounted for by a buffer
that was taken, given back or refused, by one that lanes hold, or by its denial. -/
structure Booked (ds : List (Dispatch α)) (ended held denied : Nat) (o : Outlet) : Prop where
  buffers_eq : o.traffic.buffers = UInt64.ofNat o.partition.intake.taken.length
  bytes_eq : o.traffic.bytes = UInt64.ofNat (o.partition.intake.taken.map Buffer.size).sum
  events_eq : o.traffic.events = UInt64.ofNat o.partition.intake.events.length
  emitted_eq : o.traffic.emitted = UInt64.ofNat (ds.countP Dispatch.isSent)
  filtered_eq : o.traffic.filtered = UInt64.ofNat (ds.countP Dispatch.isFiltered)
  unrouted_eq : o.traffic.unrouted = UInt64.ofNat (ds.countP Dispatch.isUnrouted)
  ended_eq : o.traffic.supersteps = UInt64.ofNat ended
  balance : ∃ discarded, o.traffic.discarded = UInt64.ofNat discarded ∧
    o.requests = o.partition.intake.taken.length + discarded +
      o.partition.intake.refused.length + held + denied

theorem traffic_turn (o : Outlet) (t : Turn) : (o.turn t).traffic = o.traffic := by
  cases t with
  | borrow =>
    simp only [turn]
    split <;> rfl
  | receiveOne _ | receive _ | giveBack | disconnect _ | destroyPool | settle => rfl

theorem traffic_request (o : Outlet) : o.request.2.traffic = o.traffic :=
  request_keeps (P := fun o' => o'.traffic = o.traffic)
    (fun o' t h => (o'.traffic_turn t).trans h) (fun _ _ _ h => h) rfl

namespace Booked

/-- Nothing is taken and nothing counted. -/
theorem unchanged (h : o.Booked ds ended held denied) (o' : Outlet)
    (htraffic : o'.traffic = o.traffic)
    (htaken : o'.partition.intake.taken = o.partition.intake.taken)
    (hevents : o'.partition.intake.events = o.partition.intake.events) {held' denied' : Nat}
    (hrequests : o'.requests + (o.partition.intake.refused.length + held + denied) =
      o.requests + (o'.partition.intake.refused.length + held' + denied')) :
    o'.Booked ds ended held' denied' := by
  obtain ⟨discarded, hdiscarded, hbalance⟩ := h.balance
  refine ⟨?_, ?_, ?_, ?_, ?_, ?_, ?_, discarded, htraffic ▸ hdiscarded, ?_⟩
  · rw [htraffic, htaken]
    exact h.buffers_eq
  · rw [htraffic, htaken]
    exact h.bytes_eq
  · rw [htraffic, hevents]
    exact h.events_eq
  · exact htraffic ▸ h.emitted_eq
  · exact htraffic ▸ h.filtered_eq
  · exact htraffic ▸ h.unrouted_eq
  · exact htraffic ▸ h.ended_eq
  · rw [htaken]
    omega

/-- Nothing is offered. -/
theorem unoffered (h : o.Booked ds ended held denied) (o' : Outlet)
    (htraffic : o'.traffic = o.traffic)
    (hintake : o'.partition.intake = o.partition.intake) {held' denied' : Nat}
    (hrequests : o'.requests + (held + denied) = o.requests + (held' + denied')) :
    o'.Booked ds ended held' denied' := by
  refine h.unchanged o' htraffic (congrArg Intake.taken hintake) (congrArg Intake.events hintake) ?_
  rw [hintake]
  omega

theorem turn (h : o.Booked ds ended held denied) (t : Turn) :
    (o.turn t).Booked ds ended held denied :=
  h.unoffered _ (o.traffic_turn t) (Partition.intake_congr (o.offers_turn t))
    (congrArg (· + _) (o.requests_turn t))

theorem request (h : o.Booked ds ended held denied) :
    o.request.2.Booked ds ended (held + Pool.granted o.request.1)
      (denied + denials o.request.1) := by
  have hone := o.granted_add_denials
  refine h.unoffered _ o.traffic_request (Partition.intake_congr o.offers_request) ?_
  rw [o.requests_request]
  omega

theorem discard (h : o.Booked ds ended (held + 1) denied) (b : Buffer) :
    (o.discard b).Booked ds ended held denied := by
  obtain ⟨discarded, hdiscarded, hbalance⟩ := h.balance
  refine ⟨h.1, h.2, h.3, h.4, h.5, h.6, h.7, discarded + 1, ?_, ?_⟩
  · show o.traffic.discarded + UInt64.ofNat 1 = _
    rw [hdiscarded, UInt64.ofNat_add]
  · show o.requests = o.partition.intake.taken.length + (discarded + 1) +
      o.partition.intake.refused.length + held + denied
    omega

/-- A buffer that the partition takes is counted with its size; one that it does not take goes back
and is not counted. -/
theorem forward (h : o.Booked ds ended (held + 1) denied) (c : ChannelId) (b : Buffer) :
    (o.forward c b).2.Booked ds ended held denied := by
  unfold Outlet.forward
  by_cases hempty : b.isEmpty = true
  · rw [if_pos hempty]
    exact h.discard b
  · rw [if_neg hempty]
    obtain ⟨discarded, hdiscarded, hbalance⟩ := h.balance
    have hnoted := o.partition.writeBuffer_noted c b
    rcases hout : o.partition.writeBuffer c b with ⟨r, p⟩
    rw [hout] at hnoted
    cases hnoted with
    | taken hoffers =>
      have hintake := Partition.intake_push hoffers
      refine ⟨?_, ?_, ?_, h.4, h.5, h.6, h.7, discarded, hdiscarded, ?_⟩
      · show o.traffic.buffers + 1 = UInt64.ofNat p.intake.taken.length
        rw [hintake, h.buffers_eq, ← ofNat_succ]
        simp [Intake.offer]
      · show o.traffic.bytes + UInt64.ofNat b.size = UInt64.ofNat (p.intake.taken.map _).sum
        rw [hintake, h.bytes_eq, ← UInt64.ofNat_add]
        simp [Intake.offer]
      · show o.traffic.events = UInt64.ofNat p.intake.events.length
        rw [hintake]
        exact h.events_eq
      · show o.requests = p.intake.taken.length + discarded + p.intake.refused.length + held + denied
        rw [hintake]
        simp only [Intake.offer, List.length_append, List.length_singleton]
        omega
    | refused e hoffers =>
      have hintake := Partition.intake_push hoffers
      refine h.unchanged { o with partition := p, pool := o.pool.recycle b } rfl
        (congrArg Intake.taken hintake :) (congrArg Intake.events hintake :) ?_
      show o.requests + _ = o.requests + (p.intake.refused.length + held + denied)
      rw [hintake]
      simp only [Intake.offer, List.length_append, List.length_singleton]
      omega

theorem sendEvent (h : o.Booked ds ended held denied) (c : ChannelId) (e : Event) :
    (o.sendEvent c e).2.Booked ds ended held denied := by
  have hnoted := o.partition.writeEvent_noted c e
  unfold Outlet.sendEvent
  rcases hout : o.partition.writeEvent c e with ⟨r, p⟩
  rw [hout] at hnoted
  cases hnoted with
  | taken hoffers =>
    have hintake := Partition.intake_push hoffers
    refine ⟨?_, ?_, ?_, h.4, h.5, h.6, h.7, ?_⟩
    · show o.traffic.buffers = UInt64.ofNat p.intake.taken.length
      rw [hintake]
      exact h.buffers_eq
    · show o.traffic.bytes = UInt64.ofNat (p.intake.taken.map _).sum
      rw [hintake]
      exact h.bytes_eq
    · show o.traffic.events + 1 = UInt64.ofNat p.intake.events.length
      rw [hintake, h.events_eq, ← ofNat_succ]
      simp [Intake.offer]
    · obtain ⟨discarded, hdiscarded, hbalance⟩ := h.balance
      refine ⟨discarded, hdiscarded, ?_⟩
      show o.requests = p.intake.taken.length + discarded + p.intake.refused.length + held + denied
      rw [hintake]
      exact hbalance
  | refused cause hoffers =>
    exact h.unoffered { o with partition := p } rfl (Partition.intake_push hoffers) rfl

/-- A superstep that is ended is counted. -/
theorem endSuperstep (h : o.Booked ds ended held denied) :
    o.endSuperstep.2.Booked ds (ended + Pool.granted o.endSuperstep.1) held denied := by
  have hintake := Partition.intake_of_marks (adds_endSuperstep (P := (· = .endOfSuperstep)) rfl o)
  rw [partition_endSuperstep] at hintake
  unfold Outlet.endSuperstep
  rcases hout : o.partition.writeEndOfSuperstep with ⟨r, p⟩
  rw [hout] at hintake
  have hintake : p.intake = o.partition.intake := hintake
  have hbooked : { o with partition := p }.Booked ds ended held denied :=
    h.unoffered { o with partition := p } rfl hintake rfl
  cases r with
  | error e => exact hbooked
  | ok _ =>
    refine ⟨hbooked.1, hbooked.2, hbooked.3, hbooked.4, hbooked.5, hbooked.6, ?_, hbooked.8⟩
    show o.traffic.supersteps + 1 = UInt64.ofNat (ended + 1)
    rw [h.ended_eq, ofNat_succ]

/-- A record is counted by its routing. -/
theorem count (h : o.Booked ds ended held denied) (d : Dispatch α) :
    { o with traffic := d.count o.traffic }.Booked (ds ++ [d]) ended held denied := by
  have hstanding : { o with traffic := d.count o.traffic }.standing =
      Dispatch.counted (.ok ()) o.standing d := by
    obtain ⟨record, superstep, _ | _ | targets⟩ := d <;> rfl
  have hcount {count : Standing → UInt64} {picks : Dispatch α → Bool}
      (hpicks : Writer.Counts count picks (.ok ()))
      (hbefore : count o.standing = UInt64.ofNat (ds.countP picks)) :
      count { o with traffic := d.count o.traffic }.standing =
        UInt64.ofNat ((ds ++ [d]).countP picks) := by
    rw [hstanding, hpicks, hbefore, List.countP_append, List.countP_singleton, UInt64.ofNat_add]
    cases picks d <;> rfl
  obtain ⟨hbuffers, hbytes, hevents, hemitted, hfiltered, hunrouted, hended, hbalance⟩ := h
  refine ⟨?_, ?_, ?_, hcount Writer.counts_emitted hemitted,
    hcount (Writer.counts_filtered _) hfiltered, hcount (Writer.counts_unrouted _) hunrouted, ?_, ?_⟩
  all_goals
    -- nothing but the count of records changes
    obtain ⟨record, superstep, _ | _ | targets⟩ := d <;> assumption

end Booked

/-- **The books of an outlet are a ledger.** -/
theorem booked_ledger (ds : List (Dispatch α)) (ended : Nat) : Ledger (Booked ds ended) :=
  ⟨fun h => h.request, fun c b h => h.forward c b, fun b h => h.discard b,
    fun c e h => h.sendEvent c e⟩

/-- Since the pool had handed out `start` buffers, it handed out one for each request of the writer
that was not denied, and nobody else has taken any. -/
structure Sole (start denied : Nat) (o : Outlet) : Prop where
  lone : o.surroundings.Lone
  requested_eq : o.pool.requested + denied = start + o.requests

namespace Sole

variable {start : Nat}

theorem of_standing (h : o.Sole start denied) (o' : Outlet) (hstanding : o'.standing = o.standing)
    {denied' : Nat} (hrequested : o'.pool.requested + denied' + o.requests + o.pool.requested =
      o.pool.requested + denied + o'.requests + o.pool.requested) :
    o'.Sole start denied' := by
  have hsurroundings : o'.surroundings = o.surroundings := congrArg Standing.surroundings hstanding
  refine ⟨hsurroundings ▸ h.lone, ?_⟩
  have hbefore := h.requested_eq
  omega

theorem turn (h : o.Sole start denied) {t : Turn} (ht : t ≠ .borrow) :
    (o.turn t).Sole start denied := by
  refine h.of_standing _ (o.standing_turn t) ?_
  rw [o.requested_turn ht, o.requests_turn]

theorem request (h : o.Sole start denied) :
    o.request.2.Sole start (denied + denials o.request.1) := by
  have hone := o.granted_add_denials
  refine h.of_standing _ o.standing_request ?_
  rw [requested_request h.lone, o.requests_request]
  omega

theorem forward (h : o.Sole start denied) (c : ChannelId) (b : Buffer) :
    (o.forward c b).2.Sole start denied := by
  have hpool : (o.forward c b).2.pool.requested = o.pool.requested := by
    unfold Outlet.forward
    split
    · rfl
    · rcases o.partition.writeBuffer c b with ⟨_ | _, p⟩ <;> rfl
  refine h.of_standing _ (o.standing_forward c b) ?_
  rw [hpool, o.requests_forward]

theorem sendEvent (h : o.Sole start denied) (c : ChannelId) (e : Event) :
    (o.sendEvent c e).2.Sole start denied := by
  have hpool : (o.sendEvent c e).2.pool = o.pool := by
    unfold Outlet.sendEvent
    rcases o.partition.writeEvent c e with ⟨_ | _, p⟩ <;> rfl
  refine h.of_standing _ (o.standing_sendEvent c e) ?_
  rw [hpool, o.requests_sendEvent]

theorem endSuperstep (h : o.Sole start denied) : o.endSuperstep.2.Sole start denied := by
  have hpool : o.endSuperstep.2.pool = o.pool := by
    unfold Outlet.endSuperstep
    rcases o.partition.writeEndOfSuperstep with ⟨_ | _, p⟩ <;> rfl
  refine h.of_standing _ o.standing_endSuperstep ?_
  rw [hpool, o.requests_endSuperstep]

theorem ledger (start : Nat) : Ledger fun _ denied o => o.Sole start denied :=
  ⟨fun h => h.request, fun c b h => h.forward c b, fun _ h => ⟨h.lone, h.requested_eq⟩,
    fun c e h => h.sendEvent c e⟩

end Sole

end Outlet

/-! ## Operations -/

/-- The operation emits a record. -/
def Operation.isEmission {α : Type} (op : Operation α) : Bool := op.emission?.isSome

/-- The operation ends a superstep. -/
def Operation.endsSuperstep {α : Type} : Operation α → Bool
  | .endSuperstep => true
  | .emit _ _ | .broadcast _ | .flush | .close | .clear | .drop | .turn _ => false

/-- Ledgers that also tell of the records that were counted and the supersteps that ended, for
every past of either. -/
structure Books {α : Type} (Q : List (Dispatch α) → Nat → Nat → Nat → Outlet → Prop) : Prop where
  ledger (ds : List (Dispatch α)) (ended : Nat) : Outlet.Ledger (Q ds ended)
  endSuperstep {ds : List (Dispatch α)} {ended held denied : Nat} {o : Outlet} :
    Q ds ended held denied o →
      Q ds (ended + Pool.granted o.endSuperstep.1) held denied o.endSuperstep.2
  count {ds : List (Dispatch α)} {ended held denied : Nat} {o : Outlet} (d : Dispatch α) :
    Q ds ended held denied o →
      Q (ds ++ [d]) ended held denied { o with traffic := d.count o.traffic }

namespace Outlet

theorem booked_books {α : Type} : Books (α := α) Booked :=
  ⟨booked_ledger, fun h => h.endSuperstep, fun d h => h.count d⟩

theorem sole_books {α : Type} (start : Nat) :
    Books (α := α) fun _ _ _ denied o => o.Sole start denied :=
  ⟨fun _ _ => Sole.ledger start, fun h => h.endSuperstep, fun _ h => ⟨h.lone, h.requested_eq⟩⟩

end Outlet

namespace Writer

variable {σ : Type} {s : Schema} [ChannelSelector σ s.Value] {w : Writer σ}
  {Q : List (Dispatch s.Value) → Nat → Nat → Nat → Outlet → Prop} {op : Operation s.Value}

/-- The operation if it returns without an error. -/
def completed (s : Schema) [ChannelSelector σ s.Value] (w : Writer σ) (op : Operation s.Value) :
    List (Operation s.Value) :=
  if (w.perform s op).1.isOk then [op] else []

/-- Where the record of an operation goes that returns without an error. -/
def dispatched (s : Schema) [ChannelSelector σ s.Value] (w : Writer σ) (op : Operation s.Value) :
    List (Dispatch s.Value) :=
  if (w.perform s op).1.isOk then w.dispatches s op else []

/-- How many operations of a run were denied a buffer. -/
def denied (s : Schema) [ChannelSelector σ s.Value] (w : Writer σ)
    (ops : List (Operation s.Value)) : Nat :=
  (along s (fun w op => [denials (w.perform s op).1]) w ops).sum

/-- How many buffers the writer obtained from the pool in a run: one with each of its requests but
those that were denied. -/
def obtained (s : Schema) [ChannelSelector σ s.Value] (w : Writer σ)
    (ops : List (Operation s.Value)) : Nat :=
  (w.run s ops).outlet.requests - w.outlet.requests - w.denied s ops

/-- **An operation posts to the books** what the lanes hold then, whether it was denied a buffer,
and what it has done if it returns without an error. -/
def Posts (Q : List (Dispatch s.Value) → Nat → Nat → Nat → Outlet → Prop) (w : Writer σ)
    (op : Operation s.Value) (out : Except WriterError Unit × Writer σ) : Prop :=
  ∀ ds ended denied, Q ds ended (Lane.holding w.lanes) denied w.outlet →
    Q (ds ++ if out.1.isOk then w.dispatches s op else [])
      (ended + ((if out.1.isOk then [op] else []).countP Operation.endsSuperstep))
      (Lane.holding out.2.lanes) (denied + denials out.1) out.2.outlet

/-- An operation that failed has done nothing, and may have been denied a buffer. -/
theorem Posts.failed {e : WriterError} {w' : Writer σ}
    (h : ∀ ds ended denied, Q ds ended (Lane.holding w.lanes) denied w.outlet →
      Q ds ended (Lane.holding w'.lanes) (denied + denials (.error e : Except WriterError Unit))
        w'.outlet) : w.Posts Q op (.error e, w') := by
  intro ds ended denied hbooks
  show Q (ds ++ []) (ended + 0) _ _ _
  rw [List.append_nil, Nat.add_zero]
  exact h ds ended denied hbooks

/-- An operation that returns without an error was denied nothing. -/
theorem Posts.done {w' : Writer σ}
    (h : ∀ ds ended denied, Q ds ended (Lane.holding w.lanes) denied w.outlet →
      Q (ds ++ w.dispatches s op) (ended + op.endsSuperstep.toNat) (Lane.holding w'.lanes) denied
        w'.outlet) : w.Posts Q op (.ok (), w') := by
  intro ds ended denied hbooks
  have hone : [op].countP Operation.endsSuperstep = op.endsSuperstep.toNat := by
    rw [List.countP_singleton]
    cases op.endsSuperstep <;> rfl
  show Q (ds ++ w.dispatches s op) (ended + [op].countP Operation.endsSuperstep) _ _ _
  rw [hone]
  exact h ds ended denied hbooks

/-- An operation that works on the lanes alone. -/
theorem Posts.of_lanes {out : Except WriterError Unit × Writer σ}
    (hdispatches : w.dispatches s op = []) (hends : op.endsSuperstep = false)
    (h : ∀ ds ended denied, Q ds ended (Lane.holding w.lanes) denied w.outlet →
      Q ds ended (Lane.holding out.2.lanes) (denied + denials out.1) out.2.outlet) :
    w.Posts Q op out := by
  obtain ⟨_ | _, w'⟩ := out
  · exact .failed h
  · refine .done fun ds ended denied hbooks => ?_
    rw [hdispatches, hends, List.append_nil]
    exact h ds ended denied hbooks

/-- A refusal to start. -/
theorem Posts.refused {e : WriterError} {w' : Writer σ} (hlanes : w'.lanes = w.lanes)
    (houtlet : w'.outlet = w.outlet) (he : e.isDenial = false) : w.Posts Q op (.error e, w') := by
  refine .failed fun ds ended denied hbooks => ?_
  rw [hlanes, houtlet, denials, he]
  exact hbooks

section Books

variable (hQ : Books Q)

include hQ

theorem emitTo_posts {record : s.Value} {superstep : Option Superstep} {targets : List ChannelId}
    {selector : σ} (hroute : w.route record superstep = (.to targets, selector)) :
    w.Posts Q (.emit record superstep) (({ w with selector := selector } : Writer σ).emitTo
      ((encodeRecord s record).map pack) superstep targets) := by
  have hdispatches : w.dispatches s (.emit record superstep) =
      [⟨record, superstep, .to targets⟩] := by
    rw [dispatches, hroute]
  have hwidth : ({ w with selector := selector } : Writer σ).width = w.width := rfl
  unfold emitTo
  rw [hwidth]
  cases hcheck : checkSelection targets w.width with
  | error e => exact .refused rfl rfl (by cases e <;> rfl)
  | ok _ =>
    have hserved ds ended denied (hbooks : Q ds ended (Lane.holding w.lanes) denied w.outlet) :=
      serve_posts (hQ.ledger ds ended) ((encodeRecord s record).map pack) targets
        (fun c hc => of_decide_eq_true (checkSelection_eq_ok_iff.1 hcheck c hc)) hbooks
    rcases hserve : serve ((encodeRecord s record).map pack) targets w.lanes w.outlet with
      ⟨accepted, r, lanes, o⟩
    rw [hserve] at hserved
    cases r with
    | error e => exact .failed hserved
    | ok _ =>
      refine .done fun ds ended denied hbooks => ?_
      rw [hdispatches]
      exact hQ.count _ (hserved ds ended denied hbooks)

theorem emit_posts (record : s.Value) (superstep : Option Superstep) :
    w.Posts Q (.emit record superstep) (w.emit s record superstep) := by
  unfold emit
  by_cases hclosed : w.closed = true
  · rw [if_pos hclosed]
    exact .refused rfl rfl rfl
  · rw [if_neg hclosed]
    rcases hroute : w.route record superstep with ⟨routing, selector⟩
    have hdispatches : w.dispatches s (.emit record superstep) =
        [⟨record, superstep, routing⟩] := by
      rw [dispatches, hroute]
    rcases routing with _ | _ | targets
    · refine .done fun ds ended denied hbooks => ?_
      rw [hdispatches]
      exact hQ.count _ hbooks
    · refine .done fun ds ended denied hbooks => ?_
      rw [hdispatches]
      exact hQ.count _ hbooks
    · exact emitTo_posts hQ hroute

theorem broadcast_posts (e : Event) : w.Posts Q (.broadcast e) (w.broadcast e) := by
  unfold broadcast
  by_cases hclosed : w.closed = true
  · rw [if_pos hclosed]
    exact .refused rfl rfl rfl
  · rw [if_neg hclosed]
    refine .of_lanes rfl rfl fun ds ended denied hbooks => ?_
    exact swept_posts (Lane.sendEvent_posts (hQ.ledger ds ended) e) hbooks

theorem endSuperstep_posts : w.Posts Q .endSuperstep w.endSuperstep := by
  unfold endSuperstep
  by_cases hclosed : w.closed = true
  · rw [if_pos hclosed]
    exact .refused rfl rfl rfl
  · rw [if_neg hclosed]
    have hswept ds ended denied (hbooks : Q ds ended (Lane.holding w.lanes) denied w.outlet) :=
      swept_posts (Lane.endSuperstep_posts (hQ.ledger ds ended)) hbooks
    rcases hsweep : Lane.sweep Lane.endSuperstep 0 w.lanes w.outlet with ⟨r, lanes, o⟩
    rw [hsweep] at hswept
    cases r with
    | error e => exact .failed hswept
    | ok _ =>
      have hended ds ended denied (hbooks : Q ds ended (Lane.holding w.lanes) denied w.outlet) :=
        hQ.endSuperstep (hswept ds ended denied hbooks)
      have hdenials := o.denials_endSuperstep
      show w.Posts Q .endSuperstep (o.endSuperstep.1, { w with
        lanes := lanes, outlet := o.endSuperstep.2, backup := w.backup.close o.now })
      rcases hend : o.endSuperstep with ⟨_ | _, o'⟩ <;> rw [hend] at hended hdenials
      · refine .failed fun ds ended denied hbooks => ?_
        rw [hdenials]
        exact hended ds ended denied hbooks
      · refine .done fun ds ended denied hbooks => ?_
        show Q (ds ++ []) (ended + 1) _ _ _
        rw [List.append_nil]
        exact hended ds ended denied hbooks

theorem close_posts : w.Posts Q .close w.close := by
  unfold close
  by_cases hclosed : w.closed = true
  · rw [if_pos hclosed]
    exact .of_lanes rfl rfl fun _ _ _ hbooks => hbooks
  · rw [if_neg hclosed]
    refine .of_lanes rfl rfl fun ds ended denied hbooks => ?_
    obtain ⟨hflushed, hdenials⟩ :=
      flush_posts (w := { w with closed := true }) (hQ.ledger ds ended) hbooks
    show Q ds ended _ (denied + denials ({ w with closed := true } : Writer σ).flush.1) _
    rw [hdenials]
    exact clear_posts (hQ.ledger ds ended) hflushed

/-- **Every operation** posts to the books; a turn of somebody else must be one that keeps them. -/
theorem perform_posts (hturn : ∀ t, op = .turn t → ∀ ds ended held denied o,
      Q ds ended held denied o → Q ds ended held denied (o.turn t)) :
    w.Posts Q op (w.perform s op) := by
  cases op with
  | emit record superstep => exact emit_posts hQ record superstep
  | broadcast e => exact broadcast_posts hQ e
  | endSuperstep => exact endSuperstep_posts hQ
  | flush =>
    refine .of_lanes rfl rfl fun ds ended denied hbooks => ?_
    obtain ⟨hflushed, hdenials⟩ := flush_posts (hQ.ledger ds ended) hbooks
    show Q ds ended _ (denied + denials w.flush.1) _
    rw [hdenials]
    exact hflushed
  | close => exact close_posts hQ
  | clear | drop =>
    exact .of_lanes rfl rfl fun ds ended denied hbooks => clear_posts (hQ.ledger ds ended) hbooks
  | turn t => exact .of_lanes rfl rfl fun ds ended denied => hturn t rfl ds ended _ denied w.outlet

/-- **What the books say at every point of every run**, whatever fails in it. -/
theorem run_posts (ops : List (Operation s.Value))
    (hturn : ∀ t, .turn t ∈ ops → ∀ ds ended held denied o,
      Q ds ended held denied o → Q ds ended held denied (o.turn t))
    (ds : List (Dispatch s.Value)) (ended : Nat) {denied : Nat}
    (h : Q ds ended (Lane.holding w.lanes) denied w.outlet) :
    Q (ds ++ along s (fun w op => w.dispatched s op) w ops)
      (ended + (along s (fun w op => w.completed s op) w ops).countP Operation.endsSuperstep)
      (Lane.holding (w.run s ops).lanes) (denied + w.denied s ops) (w.run s ops).outlet := by
  induction ops generalizing w ds ended denied with
  | nil =>
    show Q (ds ++ []) _ _ _ _
    rw [List.append_nil]
    exact h
  | cons op ops ih =>
    have hfirst := perform_posts hQ (fun t ht => hturn t (ht ▸ List.mem_cons_self)) ds ended denied h
    have hrest := ih (fun t ht => hturn t (List.mem_cons_of_mem op ht)) _ _ hfirst
    rw [along, along, List.countP_append, Writer.denied, along, List.sum_append, List.sum_singleton,
      ← List.append_assoc, ← Nat.add_assoc, ← Nat.add_assoc]
    exact hrest

end Books

/-- Each emission that returned without an error has dispatched a record. -/
theorem length_dispatched (w : Writer σ) (ops : List (Operation s.Value)) :
    (along s (fun w op => w.dispatched s op) w ops).length =
      (along s (fun w op => w.completed s op) w ops).countP Operation.isEmission := by
  induction ops generalizing w with
  | nil => rfl
  | cons op ops ih =>
    have hone : (w.dispatched s op).length =
        (w.completed s op).countP Operation.isEmission := by
      unfold dispatched completed
      split
      · cases op <;> rfl
      · rfl
    rw [along, along, List.length_append, List.countP_append, hone, ih]

/-- Every record that was dispatched was sent, held back or sent nowhere. -/
theorem countP_dispatches {α : Type} (ds : List (Dispatch α)) :
    ds.countP Dispatch.isSent + ds.countP Dispatch.isFiltered + ds.countP Dispatch.isUnrouted =
      ds.length := by
  induction ds with
  | nil => rfl
  | cons d ds ih =>
    obtain ⟨record, superstep, routing⟩ := d
    simp only [List.countP_cons, List.length_cons]
    rcases routing with _ | _ | targets <;>
      simp only [Dispatch.isSent, Dispatch.isFiltered, Dispatch.isUnrouted, reduceCtorEq] <;>
      simp <;> omega

namespace MadeFor

variable {p : Partition}

omit [ChannelSelector σ s.Value] in
/-- The books of a writer that was just made are blank. -/
theorem booked (hmade : w.MadeFor p) (hp : p.offers = #[]) :
    w.outlet.Booked ([] : List (Dispatch s.Value)) 0 (Lane.holding w.lanes) 0 := by
  have hlanes := (MadeFor.start hmade).lanes_eq
  obtain ⟨pool, selector, options, now, surroundings, disk, hmade⟩ := hmade
  have hintake : p.intake = .none := by
    rw [Partition.intake, hp]
    rfl
  rw [hlanes, Lane.holding_start, outlet_make hmade]
  refine ⟨?_, ?_, ?_, rfl, rfl, rfl, rfl, 0, rfl, ?_⟩ <;>
    simp only [hintake, Intake.none, List.length_nil, List.map_nil, List.sum_nil] <;> rfl

/-- The backup counts the records that its log has, throughout. -/
theorem agrees_run (hmade : w.MadeFor p) (ops : List (Operation s.Value)) :
    (w.run s ops).backup.Agrees := by
  obtain ⟨pool, selector, options, now, surroundings, disk, hmade⟩ := hmade
  rw [backup_run, backup_make hmade]
  exact Backup.agrees_callAll (Backup.agrees_make _ _) _

end MadeFor

variable {p : Partition}

/-- **The metrics of a writer match what happened**, at every point of every run from its making on,
whatever failed in the run. The buffers and bytes that it counts are those that the partition took,
and so are the events. The records that were sent, held back by the filter, or sent nowhere are
those of the emissions that returned without an error, and the supersteps are the calls to end one
that did. Each buffer that the writer obtained was taken by the partition, given back and counted,
refused by the partition, or is held by a lane; and if nobody else takes buffers, the writer
obtained just what the pool handed out. The records in the recovery log are as many as the log
says. -/
theorem metrics_run (hmade : w.MadeFor p) (hp : p.offers = #[]) (ops : List (Operation s.Value)) :
    let v := w.run s ops
    let traffic := v.metrics.traffic
    let intake := v.outlet.partition.intake
    let done := along s (fun w op => w.completed s op) w ops
    let dispatched := along s (fun w op => w.dispatched s op) w ops
    traffic.buffers = UInt64.ofNat intake.taken.length ∧
    traffic.bytes = UInt64.ofNat (intake.taken.map Buffer.size).sum ∧
    traffic.events = UInt64.ofNat intake.events.length ∧
    (traffic.emitted = UInt64.ofNat (dispatched.countP Dispatch.isSent) ∧
      traffic.filtered = UInt64.ofNat (dispatched.countP Dispatch.isFiltered) ∧
      traffic.unrouted = UInt64.ofNat (dispatched.countP Dispatch.isUnrouted)) ∧
    traffic.emitted + traffic.filtered + traffic.unrouted =
      UInt64.ofNat (done.countP Operation.isEmission) ∧
    traffic.supersteps = UInt64.ofNat (done.countP Operation.endsSuperstep) ∧
    (∃ discarded, traffic.discarded = UInt64.ofNat discarded ∧
      w.obtained s ops =
        intake.taken.length + discarded + intake.refused.length + Lane.holding v.lanes) ∧
    (w.outlet.surroundings.Lone → .turn .borrow ∉ ops →
      v.outlet.pool.requested = w.outlet.pool.requested + w.obtained s ops) ∧
    v.metrics.backup.records = match v.backup.log with
      | none => 0
      | some log => UInt64.ofNat log.records := by
  intro v traffic intake done dispatched
  have hbooked := run_posts Outlet.booked_books ops
    (fun t _ ds ended held denied o h => h.turn t) [] 0 (hmade.booked hp)
  have hrequests : w.outlet.requests = 0 := by
    obtain ⟨pool, selector, options, now, surroundings, disk, hmade⟩ := hmade
    rw [outlet_make hmade]
  obtain ⟨discarded, hdiscarded, hbalance⟩ := hbooked.balance
  have hobtained : w.obtained s ops =
      intake.taken.length + discarded + intake.refused.length + Lane.holding v.lanes := by
    have hbalance : v.outlet.requests = intake.taken.length + discarded + intake.refused.length +
      Lane.holding v.lanes + (0 + w.denied s ops) := hbalance
    show v.outlet.requests - w.outlet.requests - w.denied s ops = _
    omega
  have hended := hbooked.ended_eq
  rw [Nat.zero_add] at hended
  refine ⟨hbooked.buffers_eq, hbooked.bytes_eq, hbooked.events_eq,
    ⟨hbooked.emitted_eq, hbooked.filtered_eq, hbooked.unrouted_eq⟩, ?_, hended,
    ⟨discarded, hdiscarded, hobtained⟩, fun hlone hborrow => ?_, hmade.agrees_run ops⟩
  · have hall := congrArg UInt64.ofNat (countP_dispatches dispatched)
    rw [UInt64.ofNat_add, UInt64.ofNat_add, length_dispatched] at hall
    exact (congrArg₂ (· + ·) (congrArg₂ (· + ·) hbooked.emitted_eq hbooked.filtered_eq)
      hbooked.unrouted_eq).trans hall
  · have hsole : w.outlet.Sole w.outlet.pool.requested 0 :=
      ⟨hlone, by rw [hrequests]⟩
    have hran := run_posts (Outlet.sole_books w.outlet.pool.requested) ops
      (fun t ht _ _ _ _ _ h => h.turn fun heq => hborrow (heq ▸ ht)) [] 0 hsole
    have hrequested : v.outlet.pool.requested + (0 + w.denied s ops) =
      w.outlet.pool.requested + v.outlet.requests := hran.requested_eq
    have hbalance : v.outlet.requests = intake.taken.length + discarded + intake.refused.length +
      Lane.holding v.lanes + (0 + w.denied s ops) := hbalance
    omega

/-- Two channels with a log, of which the partition does not take the second buffer. -/
def refusedWriter : Writer Broadcast :=
  { smallPairWriter (some "log") Disk.empty with
    outlet := ⟨smallPool, smallPair.failing .buffer (.window 1 1 "full"), .start, .unlimited,
      .ofSeconds 1, .attentive, 0, 0⟩ }

/-- A superstep, a record on both channels, and another of which the first channel takes more than
the second. The event reaches the first channel only, where something is left to flush. Then the
pool is torn down, what the lanes hold is given up, and the last record finds no buffer. -/
theorem metrics_run_small :
    let ops : List (Operation Schema.bytes.Value) :=
      [.endSuperstep, .emit [1, 2] (some ⟨7⟩), .emit [3, 4] (some ⟨7⟩),
        .broadcast .endOfSuperstep, .turn .destroyPool, .clear, .emit [5] none]
    let v := refusedWriter.run .bytes ops
    let traffic := v.metrics.traffic
    traffic.buffers = 2 ∧ traffic.bytes = 14 ∧ traffic.events = 1 ∧
    traffic.emitted + traffic.filtered + traffic.unrouted = 1 ∧ traffic.supersteps = 1 ∧
    (∃ discarded, traffic.discarded = UInt64.ofNat discarded ∧
      refusedWriter.obtained .bytes ops = 2 + discarded + 1 + 0) ∧
    v.outlet.pool.requested = refusedWriter.obtained .bytes ops ∧
    v.metrics.backup.records = 2 := by
  intro ops v traffic
  have hmade : refusedWriter.MadeFor (smallPair.failing .buffer (.window 1 1 "full")) :=
    ⟨smallPool, ⟨⟩, ⟨some "log", none, .unlimited⟩, .ofSeconds 1, .attentive, Disk.empty, rfl⟩
  obtain ⟨hbuffers, hbytes, hevents, -, hrecords, hsupersteps, ⟨discarded, hdiscarded, hobtained⟩,
    hrequested, hlogged⟩ := metrics_run (s := .bytes) hmade rfl ops
  have htaken : v.outlet.partition.intake.taken.map Buffer.size = [8, 6] := by decide +kernel
  have hrefused : v.outlet.partition.intake.refused.length = 1 := by decide +kernel
  have hcount : v.outlet.partition.intake.taken.length = 2 := by
    rw [← List.length_map Buffer.size, htaken]
    rfl
  have hholding : Lane.holding v.lanes = 0 := by decide +kernel
  have hlone : Surroundings.attentive.Lone := fun _ => ⟨List.not_mem_nil, fun h => nomatch List.mem_singleton.1 h⟩
  refine ⟨?_, ?_, ?_, ?_, ?_, ⟨discarded, hdiscarded, ?_⟩, ?_, ?_⟩
  · rw [hcount] at hbuffers
    exact hbuffers
  · rw [htaken] at hbytes
    exact hbytes
  · exact hevents.trans (congrArg UInt64.ofNat (by decide +kernel))
  · exact hrecords.trans (congrArg UInt64.ofNat (by decide +kernel))
  · exact hsupersteps.trans (congrArg UInt64.ofNat (by decide +kernel))
  · rw [hcount, hrefused, hholding] at hobtained
    exact hobtained
  · exact (hrequested hlone (by simp [ops])).trans (Nat.zero_add _)
  · have hlog : v.backup.log.map RecoveryLog.records = some 2 := by decide +kernel
    obtain ⟨log, hsome, hlast⟩ := Option.map_eq_some_iff.1 hlog
    rw [hsome] at hlogged
    exact hlogged.trans (congrArg UInt64.ofNat hlast)

end Writer

end Fanout
