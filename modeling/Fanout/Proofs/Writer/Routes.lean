import Fanout.Proofs.Recovery.Ready
import Fanout.Proofs.Stream.Payloads
import Fanout.Proofs.Writer.Backups

/-!
# Routes

Where the records of a run go is said once, record by record and target by target (`routes`). When
all operations succeed, a lane accepts every record that is routed to its channel, so the same list
tells what is asked for on a channel and what is handed to the recovery log.

* `recordsOf_entries_run` — the records asked for on a channel are those that are routed there.
* `asked_run` — the copies asked of a log are the records routed to remote channels in supersteps.
-/

namespace Fanout

/-- A record on its way to a channel. -/
structure Route (α : Type) where
  channel : ChannelId
  superstep : Option Superstep
  record : α
  deriving DecidableEq

/-- The superstep that an operation names. -/
def Operation.superstep? {α : Type} : Operation α → Option Superstep
  | .emit _ superstep => superstep
  | _ => none

/-- The copy of a routed record, if it goes to another channel than the given one and in a
superstep. -/
def copyOf (s : Schema) (own : ChannelId) (r : Route s.Value) : Option Copy :=
  match r.superstep, encodeRecord s r.record with
  | some step, .ok frame => if r.channel = own then none else some ⟨r.channel, step, frame⟩
  | _, _ => none

theorem Framed.frames {s : Schema} {script : List (Entry s.Value)}
    {frames : List (Entry (List UInt8))} (h : Framed s script frames) :
    Frames s (recordsOf script) (recordsOf frames) := by
  induction h with
  | nil => exact .nil
  | cons hhead _ ih =>
    cases hhead with
    | record hencode => exact .cons hencode ih
    | mark m => exact ih

namespace Writer

variable {σ : Type} {s : Schema} [ChannelSelector σ s.Value] {w : Writer σ} {own c : ChannelId}
  {op : Operation s.Value} {ops : List (Operation s.Value)} {r : Route s.Value}

/-- What an operation routes: a record to each of its targets, in order and with repetitions. -/
def routes (s : Schema) [ChannelSelector σ s.Value] (w : Writer σ) :
    Operation s.Value → List (Route s.Value)
  | .emit record superstep => (w.targets s record superstep).map fun c => ⟨c, superstep, record⟩
  | _ => []

/-! ## One operation -/

/-- A record that is emitted without an error is accepted by all lanes to which it is routed. -/
theorem accepting_of_ok {record : s.Value} {superstep : Option Superstep}
    (hok : (w.perform s (.emit record superstep)).1 = .ok ()) :
    w.accepting s record superstep = w.targets s record superstep ∧
    ∀ c ∈ w.targets s record superstep,
      c.toNat < w.lanes.length ∧ ∃ frame, encodeRecord s record = .ok frame := by
  cases emit_emitted s w record superstep with
  | nowhere _ _ haccepting htargets =>
    rw [haccepting, htargets hok]
    exact ⟨rfl, fun c hc => nomatch hc⟩
  | served hserve _ =>
    have haccepts := serve_accepts ((encodeRecord s record).map pack)
      (w.targets s record superstep) w.lanes w.outlet
    rw [hserve] at haccepts
    obtain ⟨hall, hencoded⟩ := haccepts hok
    refine ⟨hall, ?_⟩
    intro c hc
    have hall : w.accepting s record superstep = w.targets s record superstep := hall
    constructor
    · unfold accepting at hall
      split at hall
      · rw [← hall] at hc
        exact nomatch hc
      · split at hall
        · rw [← hall] at hc
          exact nomatch hc
        · rename_i hcheck
          exact of_decide_eq_true (checkSelection_eq_ok_iff.1 hcheck c hc)
    · rcases hencoded with hnone | ⟨bytes, hbytes⟩
      · rw [hnone] at hc
        exact nomatch hc
      · cases hencode : encodeRecord s record with
        | ok frame => exact ⟨frame, rfl⟩
        | error cause =>
          rw [hencode] at hbytes
          exact nomatch hbytes

theorem mem_routes (hok : (w.perform s op).1 = .ok ()) (hr : r ∈ w.routes s op) :
    r.channel.toNat < w.lanes.length ∧ (∃ frame, encodeRecord s r.record = .ok frame) ∧
    r.superstep = op.superstep? := by
  cases op with
  | emit record superstep =>
    obtain ⟨c, hc, rfl⟩ := List.mem_map.1 hr
    obtain ⟨hlt, hframe⟩ := (accepting_of_ok hok).2 c hc
    exact ⟨hlt, hframe, rfl⟩
  | broadcast _ | endSuperstep | flush | close | clear | drop | turn _ => exact nomatch hr

/-- What is asked for on a channel are the records that are routed there, and marks. -/
theorem recordsOf_entries (w : Writer σ) (c : ChannelId) (op : Operation s.Value) :
    recordsOf (w.entries s c op) =
      ((w.routes s op).filter fun r => r.channel = c).map Route.record := by
  cases op with
  | emit record superstep =>
    rw [entries, recordsOf_map_record, routed, routes, List.filter_map, List.map_map]
    rfl
  | broadcast _ | endSuperstep | flush | close | clear | drop | turn _ => rfl

/-- A log of the partition's writer takes what goes to remote channels in supersteps. -/
theorem engages_scopeOf {p : Partition} {dir : String} (hmany : 1 < p.info.subpartitions)
    (hlocal : p.info.localChannel = some own) (hc : c.toNat < p.info.subpartitions)
    (step : Superstep) : (scopeOf p dir).engages c (some step) = !decide (c = own) := by
  have hscope : (RecoveryLog.make (scopeOf p dir)).scope = scopeOf p dir := rfl
  have hown : (scopeOf p dir).localChannel = some own := hlocal
  have hwidth : (scopeOf p dir).width = p.info.subpartitions := rfl
  unfold LogScope.engages RecoveryLog.isEngaged
  rw [(RecoveryLog.isFor_make _).length_eq, hscope, hown, hwidth]
  simp [ChannelId.isWithin, hmany, hc, eq_comm]

/-- What an operation that succeeds asks of the log. -/
theorem asked_logCalls {p : Partition} (dir : String) (hmany : 1 < p.info.subpartitions)
    (hlocal : p.info.localChannel = some own) (hlength : w.lanes.length = p.info.subpartitions)
    (hok : (w.perform s op).1 = .ok ()) :
    (w.logCalls s op).flatMap (scopeOf p dir).asked = (w.routes s op).filterMap (copyOf s own) := by
  cases op with
  | emit record superstep =>
    obtain ⟨haccepting, htargets⟩ := accepting_of_ok hok
    rw [logCalls, routes, List.filterMap_map]
    cases hencode : encodeRecord s record with
    | error e =>
      refine (List.filterMap_eq_nil_iff.2 ?_).symm
      intro c _
      cases superstep <;> simp [copyOf, hencode]
    | ok frame =>
      dsimp only
      rw [haccepting, List.flatMap_map, List.filterMap_eq_flatMap_toList]
      refine List.flatMap_congr ?_
      intro c hc
      cases superstep with
      | none => rfl
      | some step =>
        have hlt : c.toNat < p.info.subpartitions := hlength ▸ (htargets c hc).1
        simp only [LogScope.asked, engages_scopeOf hmany hlocal hlt, octets_pack, copyOf, hencode,
          Function.comp_apply]
        by_cases hown : c = own <;> simp [hown]
  | endSuperstep =>
    show List.flatMap _ (if w.closed then _ else _) = []
    split
    · rfl
    · split <;> rfl
  | close =>
    show List.flatMap _ (if w.closed then _ else _) = []
    split <;> rfl
  | broadcast _ | flush | clear | drop | turn _ => rfl

/-! ## Runs -/

theorem mem_routes_run (hok : w.Succeeds s ops)
    (hr : r ∈ along s (fun w op => w.routes s op) w ops) :
    r.channel.toNat < w.lanes.length ∧ (∃ frame, encodeRecord s r.record = .ok frame) ∧
    ∃ op ∈ ops, r.superstep = op.superstep? := by
  induction ops generalizing w with
  | nil => exact nomatch hr
  | cons op ops ih =>
    obtain ⟨hfirst, hrest⟩ := throughout_cons.1 hok
    rcases List.mem_append.1 hr with hr | hr
    · obtain ⟨hlt, hframe, hstep⟩ := mem_routes hfirst hr
      exact ⟨hlt, hframe, op, List.mem_cons_self, hstep⟩
    · obtain ⟨hlt, hframe, later, hlater, hstep⟩ := ih hrest hr
      rw [length_perform] at hlt
      exact ⟨hlt, hframe, later, List.mem_cons_of_mem _ hlater, hstep⟩

theorem recordsOf_entries_run (w : Writer σ) (c : ChannelId) (ops : List (Operation s.Value)) :
    recordsOf (along s (fun w op => w.entries s c op) w ops) =
      ((along s (fun w op => w.routes s op) w ops).filter fun r => r.channel = c).map
        Route.record := by
  induction ops generalizing w with
  | nil => rfl
  | cons op ops ih =>
    rw [along, along, recordsOf_append, recordsOf_entries, ih, List.filter_append, List.map_append]

/-- After a last flush the deliveries on a channel are the frames of the records that were routed
there. -/
theorem frames_run {p : Partition} (hstart : w.Start p) (hp : p.Fresh)
    (hops : ∀ op ∈ ops, op.AtWork) (hflush : ops.getLast? = some .flush) (hok : w.Succeeds s ops)
    (hc : c.toNat < p.width) :
    ∃ frames, bytesOf ((w.run s ops).delivered c) = frames.flatten ∧
      Frames s (((along s (fun w op => w.routes s op) w ops).filter fun r => r.channel = c).map
        Route.record) frames := by
  obtain ⟨script, hcarries, hframed⟩ := carries_flushed hstart hp hc hops hflush hok
  have hframes := hframed.frames
  rw [recordsOf_entries_run] at hframes
  have hbytes := hcarries.bytes_eq
  rw [List.append_nil] at hbytes
  exact ⟨recordsOf script, hbytes, hframes⟩

/-- The consumer of a channel reads the records that were routed there. -/
theorem drainRecords_run {p : Partition} (hstart : w.Start p) (hp : p.Fresh)
    (hops : ∀ op ∈ ops, op.AtWork) (hflush : ops.getLast? = some .flush) (hok : w.Succeeds s ops)
    (hc : c.toNat < p.width) :
    (Reassembly.start.receive ((w.run s ops).delivered c).toArray).drainRecords s =
      (.ok (((along s (fun w op => w.routes s op) w ops).filter fun r => r.channel = c).map
        Route.record), Reassembly.start) := by
  obtain ⟨frames, hbytes, hframes⟩ := frames_run hstart hp hops hflush hok hc
  rw [Reassembly.receive_start, hbytes]
  exact Reassembly.drainRecords_flatten hframes

/-- **What a run asks of the log** when its operations succeed. -/
theorem asked_run {p : Partition} (dir : String) (hmany : 1 < p.info.subpartitions)
    (hlocal : p.info.localChannel = some own) (hlength : w.lanes.length = p.info.subpartitions)
    (hok : w.Succeeds s ops) :
    (along s (fun w op => w.logCalls s op) w ops).flatMap (scopeOf p dir).asked =
      (along s (fun w op => w.routes s op) w ops).filterMap (copyOf s own) := by
  induction ops generalizing w with
  | nil => rfl
  | cons op ops ih =>
    obtain ⟨hfirst, hrest⟩ := throughout_cons.1 hok
    rw [along, along, List.flatMap_append, List.filterMap_append,
      asked_logCalls dir hmany hlocal hlength hfirst,
      ih ((length_perform w op).trans hlength) hrest]

/-- The supersteps of routed records are in order if those that the operations name are. -/
theorem pairwise_supersteps_run (hok : w.Succeeds s ops)
    (hops : (ops.filterMap Operation.superstep?).Pairwise (· ≤ ·)) :
    ((along s (fun w op => w.routes s op) w ops).filterMap Route.superstep).Pairwise (· ≤ ·) := by
  induction ops generalizing w with
  | nil => exact .nil
  | cons op ops ih =>
    obtain ⟨hfirst, hrest⟩ := throughout_cons.1 hok
    have hsame {step : Superstep} (h : step ∈ (w.routes s op).filterMap Route.superstep) :
        op.superstep? = some step := by
      obtain ⟨r, hr, hstep⟩ := List.mem_filterMap.1 h
      exact (mem_routes hfirst hr).2.2.symm.trans hstep
    have hlater {step : Superstep}
        (h : step ∈ (along s (fun w op => w.routes s op) (w.perform s op).2 ops).filterMap
          Route.superstep) : step ∈ ops.filterMap Operation.superstep? := by
      obtain ⟨r, hr, hstep⟩ := List.mem_filterMap.1 h
      obtain ⟨_, _, op', hop', hstep'⟩ := mem_routes_run hrest hr
      exact List.mem_filterMap.2 ⟨op', hop', hstep'.symm.trans hstep⟩
    rw [along, List.filterMap_append, List.pairwise_append]
    refine ⟨?_, ?_, ?_⟩
    · -- all records of one operation are for the same superstep
      refine List.pairwise_of_forall_mem_list ?_
      intro a ha b hb
      obtain rfl := Option.some.inj ((hsame ha).symm.trans (hsame hb))
      exact Nat.le_refl _
    · refine ih hrest (hops.sublist ?_)
      exact (List.sublist_cons_self op ops).filterMap _
    · intro a ha b hb
      rw [List.filterMap_cons_some (hsame ha)] at hops
      exact List.rel_of_pairwise_cons hops (hlater hb)

end Writer

end Fanout
