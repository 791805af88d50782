import Fanout.Proofs.Writer.Streams

/-!
# Dispatches

Where a record goes is up to the width of the writer, its replay filter and the state of its
selector. The selector moves on with every record and with nothing else, so the routings of a run
follow from the records that it emits, whatever becomes of their bytes.

* `dispatches_run` — the routings of a run, from its records alone.
* `filtered_run`, `emitted_run`, `unrouted_run` — a writer counts just the records that its filter
  held back, that it sent, and for which no channel was selected.
-/

namespace Fanout

/-- A record that was emitted, and where it was routed. -/
structure Dispatch (α : Type) where
  record : α
  superstep : Option Superstep
  routing : Routing
  deriving DecidableEq

namespace Dispatch

variable {α : Type}

/-- The record and its superstep, as they were emitted. -/
def emission (d : Dispatch α) : α × Option Superstep := (d.record, d.superstep)

def isFiltered (d : Dispatch α) : Bool := d.routing = .filtered

def isUnrouted (d : Dispatch α) : Bool := d.routing = .unrouted

def isSent (d : Dispatch α) : Bool := !d.isFiltered && !d.isUnrouted

/-- How a record is counted, given what became of its emission. -/
def counted (r : Except WriterError Unit) (st : Outlet.Standing) (d : Dispatch α) :
    Outlet.Standing :=
  match d.routing with
  | .filtered => { st with filtered := st.filtered + 1 }
  | .unrouted => { st with unrouted := st.unrouted + 1 }
  | .to _ => if r.isOk then { st with emitted := st.emitted + 1 } else st

end Dispatch

/-- The record that an operation emits, and its superstep. -/
def Operation.emission? {α : Type} : Operation α → Option (α × Option Superstep)
  | .emit record superstep => some (record, superstep)
  | _ => none

namespace Writer

section Routings

variable {σ α : Type} [ChannelSelector σ α]

/-- What a writer makes of some records, one after the other. -/
def dispatchAll (w : Writer σ) : List (α × Option Superstep) → List (Dispatch α)
  | [] => []
  | (record, superstep) :: later =>
    ⟨record, superstep, (w.route record superstep).1⟩ ::
      dispatchAll { w with selector := (w.route record superstep).2 } later

variable {w w' : Writer σ}

/-- Nothing else of a writer has a part in its routings. -/
theorem route_congr (hreplay : w'.replay = w.replay) (hwidth : w'.width = w.width)
    (hselector : w'.selector = w.selector) (record : α) (superstep : Option Superstep) :
    w'.route record superstep = w.route record superstep := by
  unfold route activeFilter
  rw [hreplay, hwidth, hselector]

theorem dispatchAll_congr (hreplay : w'.replay = w.replay) (hwidth : w'.width = w.width)
    (hselector : w'.selector = w.selector) (emissions : List (α × Option Superstep)) :
    w'.dispatchAll emissions = w.dispatchAll emissions := by
  induction emissions generalizing w w' with
  | nil => rfl
  | cons e later ih =>
    obtain ⟨record, superstep⟩ := e
    have hroute := route_congr hreplay hwidth hselector record superstep
    unfold dispatchAll
    rw [hroute]
    exact congrArg _ (ih hreplay hwidth rfl)

theorem emissions_dispatchAll (w : Writer σ) (emissions : List (α × Option Superstep)) :
    (w.dispatchAll emissions).map Dispatch.emission = emissions := by
  induction emissions generalizing w with
  | nil => rfl
  | cons e later ih => exact congrArg (e :: ·) (ih _)

end Routings

variable {σ : Type} {s : Schema} [ChannelSelector σ s.Value] {w w' : Writer σ}
  {p : Partition} {selector : σ} {replay : Option ReplayFilter} {op : Operation s.Value}
  {ops : List (Operation s.Value)}

/-- What an operation dispatches: the record that it emits. -/
def dispatches (s : Schema) [ChannelSelector σ s.Value] (w : Writer σ) :
    Operation s.Value → List (Dispatch s.Value)
  | .emit record superstep => [⟨record, superstep, (w.route record superstep).1⟩]
  | _ => []

/-- The state of the selector after an operation. -/
def selectorAfter (s : Schema) [ChannelSelector σ s.Value] (w : Writer σ) : Operation s.Value → σ
  | .emit record superstep => (w.route record superstep).2
  | _ => w.selector

/-! ## The start -/

/-- The writer was made for the partition, with the selector and the filter. -/
def MadeWith (w : Writer σ) (p : Partition) (selector : σ) (replay : Option ReplayFilter) : Prop :=
  ∃ pool options now surroundings disk,
    make p pool selector options now surroundings disk = .ok w ∧ options.replay = replay

/-- What a writer routes by at the start. -/
structure Outset (w : Writer σ) (p : Partition) (selector : σ) (replay : Option ReplayFilter) :
    Prop where
  width_eq : w.width = p.width
  width_le : p.width ≤ maxChannels
  selector_eq : w.selector = selector
  replay_eq : w.replay = replay
  closed_eq : w.closed = false
  filtered_eq : w.outlet.traffic.filtered = 0

theorem MadeWith.madeFor (h : w.MadeWith p selector replay) :
    w.MadeFor p := by
  obtain ⟨pool, options, now, surroundings, disk, hmade, _⟩ := h
  exact ⟨pool, selector, options, now, surroundings, disk, hmade⟩

theorem MadeWith.outset (h : w.MadeWith p selector replay) :
    w.Outset p selector replay := by
  have hstart := h.madeFor.start
  obtain ⟨pool, options, now, surroundings, disk, hmade, rfl⟩ := h
  simp only [make] at hmade
  split_ifs at hmade
  obtain rfl := Except.ok.inj hmade
  exact ⟨hstart.length_eq, hstart.width_le, rfl, rfl, rfl, rfl⟩

/-! ## One operation -/

/-- What an operation makes of all that has a part in routings, and of what stands still while lanes
work. -/
structure Steers (w : Writer σ) (selector : σ) (standing : Outlet.Standing) (w' : Writer σ) :
    Prop where
  selector_eq : w'.selector = selector
  replay_eq : w'.replay = w.replay
  closed_eq : w'.closed = w.closed
  standing_eq : w'.outlet.standing = standing

/-- An operation on the lanes alone. -/
theorem Steers.of_outlet {lanes : List Serializer} {o : Outlet} {backup : Backup}
    (h : o.standing = w.outlet.standing) :
    Steers w w.selector w.outlet.standing { w with lanes := lanes, outlet := o, backup := backup } :=
  ⟨rfl, rfl, rfl, h⟩

theorem emitTo_steers (w : Writer σ) (frame : Except RecordError ByteArray)
    (superstep : Option Superstep) (targets : List ChannelId) :
    Steers w w.selector
      (if (w.emitTo frame superstep targets).1.isOk
        then { w.outlet.standing with emitted := w.outlet.traffic.emitted + 1 }
        else w.outlet.standing)
      (w.emitTo frame superstep targets).2 := by
  have hserved := serve_keeps frame (P := fun o => o.standing = w.outlet.standing)
    (fun c lane o ho => (Lane.serve_works c lane o frame).uses.standing_eq.trans ho)
    targets w.lanes rfl
  unfold emitTo
  split
  · exact ⟨rfl, rfl, rfl, rfl⟩
  · rcases hserve : serve frame targets w.lanes w.outlet with ⟨accepted, r, lanes, o⟩
    rw [hserve] at hserved
    cases r with
    | error e => exact .of_outlet hserved
    | ok _ =>
      refine ⟨rfl, rfl, rfl, ?_⟩
      have hemitted := congrArg Outlet.Standing.emitted hserved
      show { o.standing with emitted := o.traffic.emitted + 1 } = _
      rw [hserved, show o.traffic.emitted = w.outlet.traffic.emitted from hemitted]
      rfl

theorem emit_steers (hopen : w.closed = false) (record : s.Value) (superstep : Option Superstep) :
    Steers w (w.route record superstep).2
      ((w.dispatches s (.emit record superstep)).foldl
        (Dispatch.counted (w.emit s record superstep).1) w.outlet.standing)
      (w.emit s record superstep).2 := by
  show Steers w _ (Dispatch.counted _ w.outlet.standing ⟨record, superstep, _⟩) _
  unfold emit
  rw [if_neg (Bool.eq_false_iff.1 hopen)]
  rcases w.route record superstep with ⟨_ | _ | targets, selector⟩
  · exact ⟨rfl, rfl, rfl, rfl⟩
  · exact ⟨rfl, rfl, rfl, rfl⟩
  · obtain ⟨hselector, hreplay, hclosed, hstanding⟩ := emitTo_steers
      { w with selector := selector } ((encodeRecord s record).map pack) superstep targets
    exact ⟨hselector, hreplay, hclosed, hstanding⟩

/-- **Only an emission moves the selector on.** An operation of a producer at work leaves the filter as
it is, and counts a record by its routing. -/
theorem perform_steers (hopen : w.closed = false) (hop : op.AtWork) :
    Steers w (w.selectorAfter s op)
      ((w.dispatches s op).foldl (Dispatch.counted (w.perform s op).1) w.outlet.standing)
      (w.perform s op).2 := by
  have hopen' : ¬w.closed = true := Bool.eq_false_iff.1 hopen
  have hswept {step : ChannelId → Serializer → Outlet → LaneResult Unit}
      (hlocal : Lane.Local step) :=
    Lane.sweep_keeps (P := fun o => o.standing = w.outlet.standing)
      (fun c lane o ho => (hlocal c lane o).standing_eq.trans ho) 0 w.lanes rfl
  cases op with
  | emit record superstep => exact emit_steers hopen record superstep
  | broadcast e =>
    show Steers w w.selector w.outlet.standing (w.broadcast e).2
    unfold broadcast
    rw [if_neg hopen']
    exact .of_outlet (hswept (Lane.local_sendEvent e))
  | endSuperstep =>
    have hswept := hswept Lane.local_endSuperstep
    show Steers w w.selector w.outlet.standing w.endSuperstep.2
    unfold endSuperstep
    rw [if_neg hopen']
    rcases hsweep : Lane.sweep Lane.endSuperstep 0 w.lanes w.outlet with ⟨_ | _, lanes, o⟩ <;>
      rw [hsweep] at hswept
    · exact .of_outlet hswept
    · exact .of_outlet (o.standing_endSuperstep.trans hswept)
  | flush =>
    have hswept := Lane.sweepAll_keeps (P := fun o => o.standing = w.outlet.standing)
      (fun c lane o ho => (Lane.local_retire c lane o).standing_eq.trans ho) 0 w.lanes rfl
    exact .of_outlet hswept
  | turn t => exact .of_outlet (w.outlet.standing_turn t)
  | close | clear | drop => exact hop.elim

/-! ## Runs -/

theorem dispatches_run (hopen : w.closed = false) (hops : ∀ op ∈ ops, op.AtWork) :
    along s (fun w op => w.dispatches s op) w ops =
      w.dispatchAll (ops.filterMap Operation.emission?) := by
  induction ops generalizing w with
  | nil => rfl
  | cons op ops ih =>
    obtain ⟨hop, hlater⟩ := List.forall_mem_cons.1 hops
    have hsteers := perform_steers hopen hop
    have hclosed := hsteers.closed_eq.trans hopen
    -- the writer after the operation routes like this one with the selector moved on
    have hrest := dispatchAll_congr (w := { w with selector := w.selectorAfter s op })
      hsteers.replay_eq (length_perform w op) hsteers.selector_eq
      (ops.filterMap Operation.emission?)
    rw [along, ih hclosed hlater, hrest]
    cases op with
    | emit record superstep => rfl
    | broadcast _ | endSuperstep | flush | close | clear | drop | turn _ => rfl

theorem closed_run (hopen : w.closed = false) (hops : ∀ op ∈ ops, op.AtWork) :
    (w.run s ops).closed = false := by
  induction ops generalizing w with
  | nil => exact hopen
  | cons op ops ih =>
    obtain ⟨hop, hlater⟩ := List.forall_mem_cons.1 hops
    exact ih ((perform_steers hopen hop).closed_eq.trans hopen) hlater

/-! ## Counts -/

/-- What becomes of an emission adds one to a count for each record that it picks. -/
def Counts {α : Type} (count : Outlet.Standing → UInt64) (picks : Dispatch α → Bool)
    (r : Except WriterError Unit) : Prop :=
  ∀ st d, count (Dispatch.counted r st d) = count st + if picks d then 1 else 0

theorem counts_filtered {α : Type} (r : Except WriterError Unit) :
    Counts (α := α) Outlet.Standing.filtered Dispatch.isFiltered r := by
  rintro st ⟨record, superstep, _ | _ | targets⟩
  · rfl
  · exact (UInt64.add_zero _).symm
  · cases r <;> exact (UInt64.add_zero _).symm

theorem counts_unrouted {α : Type} (r : Except WriterError Unit) :
    Counts (α := α) Outlet.Standing.unrouted Dispatch.isUnrouted r := by
  rintro st ⟨record, superstep, _ | _ | targets⟩
  · exact (UInt64.add_zero _).symm
  · rfl
  · cases r <;> exact (UInt64.add_zero _).symm

/-- A record is counted as sent only when its emission succeeded. -/
theorem counts_emitted {α : Type} :
    Counts (α := α) Outlet.Standing.emitted Dispatch.isSent (.ok ()) := by
  rintro st ⟨record, superstep, _ | _ | targets⟩
  · exact (UInt64.add_zero _).symm
  · exact (UInt64.add_zero _).symm
  · rfl

variable {count : Outlet.Standing → UInt64} {picks : Dispatch s.Value → Bool}

theorem Counts.foldl {α : Type} {picks : Dispatch α → Bool} {r : Except WriterError Unit}
    (h : Counts count picks r) (st : Outlet.Standing) (ds : List (Dispatch α)) :
    count (ds.foldl (Dispatch.counted r) st) = count st + UInt64.ofNat (ds.countP picks) := by
  induction ds generalizing st with
  | nil => exact (UInt64.add_zero _).symm
  | cons d ds ih =>
    rw [List.foldl_cons, ih, h, List.countP_cons, UInt64.ofNat_add, UInt64.add_assoc,
      UInt64.add_comm (UInt64.ofNat _)]
    split <;> rfl

theorem count_run (hopen : w.closed = false) (hops : ∀ op ∈ ops, op.AtWork)
    (hcounts : w.Throughout s (fun w op => Counts count picks (w.perform s op).1) ops) :
    count (w.run s ops).outlet.standing = count w.outlet.standing + UInt64.ofNat
      ((along s (fun w op => w.dispatches s op) w ops).countP picks) := by
  induction ops generalizing w with
  | nil => exact (UInt64.add_zero _).symm
  | cons op ops ih =>
    obtain ⟨hop, hlater⟩ := List.forall_mem_cons.1 hops
    obtain ⟨hfirst, hrest⟩ := throughout_cons.1 hcounts
    have hsteers := perform_steers hopen hop
    show count ((w.perform s op).2.run s ops).outlet.standing = _
    rw [ih (hsteers.closed_eq.trans hopen) hlater hrest, hsteers.standing_eq, hfirst.foldl, along,
      List.countP_append, UInt64.ofNat_add, ← UInt64.add_assoc]

theorem filtered_run (hopen : w.closed = false) (hops : ∀ op ∈ ops, op.AtWork) :
    (w.run s ops).outlet.traffic.filtered = w.outlet.traffic.filtered + UInt64.ofNat
      ((along s (fun w op => w.dispatches s op) w ops).countP Dispatch.isFiltered) :=
  count_run hopen hops fun _ _ _ => counts_filtered _

theorem unrouted_run (hopen : w.closed = false) (hops : ∀ op ∈ ops, op.AtWork) :
    (w.run s ops).outlet.traffic.unrouted = w.outlet.traffic.unrouted + UInt64.ofNat
      ((along s (fun w op => w.dispatches s op) w ops).countP Dispatch.isUnrouted) :=
  count_run hopen hops fun _ _ _ => counts_unrouted _

theorem emitted_run (hopen : w.closed = false) (hops : ∀ op ∈ ops, op.AtWork)
    (hok : w.Succeeds s ops) :
    (w.run s ops).outlet.traffic.emitted = w.outlet.traffic.emitted + UInt64.ofNat
      ((along s (fun w op => w.dispatches s op) w ops).countP Dispatch.isSent) :=
  count_run hopen hops fun before op h => (hok before op h).symm ▸ counts_emitted

end Writer

end Fanout
