import Fanout.Proofs.Recovery.Calls
import Fanout.Proofs.Writer.Streams

/-!
# Writers and their backups

What a writer hands to its recovery log can be said without looking at the log (`logCalls`), and so
can everything else that it does: with another backup in its place every operation gives the same
result and leaves the same writer, apart from the backup (`perform_withBackup`).

* `runs_agree` — two writers that differ in their backups alone agree on all that they report, send
  and count, and a backup that has a log counts every frame that the log takes.
-/

namespace Fanout

namespace Writer

variable {σ : Type} {s : Schema} [ChannelSelector σ s.Value] {w : Writer σ}

/-! ## What a log is handed -/

/-- What an operation hands to the log: the frames that lanes accepted, and the end of segments. -/
def logCalls (s : Schema) [ChannelSelector σ s.Value] (w : Writer σ) :
    Operation s.Value → List LogCall
  | .emit record superstep =>
    match encodeRecord s record with
    | .ok frame =>
      (w.accepting s record superstep).map fun c => .frame w.outlet.now c superstep (pack frame)
    | .error _ => []
  | .endSuperstep =>
    if w.closed then []
    else match (Lane.sweep Lane.endSuperstep 0 w.lanes w.outlet).1 with
      | .ok () => [.finish w.outlet.now]
      | .error _ => []
  | .flush | .drop => [.finish w.outlet.now]
  | .close => if w.closed then [] else [.finish w.outlet.now]
  | .broadcast _ | .clear | .turn _ => []

/-- The writer with another backup in the place of its own. -/
def withBackup (w : Writer σ) (b : Backup) : Writer σ := { w with backup := b }

theorem now_serve (frame : Except RecordError ByteArray) (targets : List ChannelId)
    (lanes : List Serializer) (o : Outlet) : (serve frame targets lanes o).2.2.2.now = o.now :=
  serve_keeps frame (P := fun o' => o'.now = o.now)
    (fun c lane o' h => ((Lane.serve_works c lane o' frame).uses.now_eq).trans h) targets lanes rfl

/-- The channels whose lanes accept a frame that is served to a selection. -/
def accepted (w : Writer σ) (frame : Except RecordError ByteArray) (selected : List ChannelId) :
    List ChannelId :=
  match checkSelection selected w.width with
  | .error _ => []
  | .ok () => (serve frame selected w.lanes w.outlet).1

theorem recordAll_eq_callAll (b : Backup) (now : Duration) (superstep : Option Superstep)
    (frame : ByteArray) (cs : List ChannelId) : b.recordAll now superstep frame cs =
      b.callAll (cs.map fun c => .frame now c superstep frame) := by
  rw [Backup.recordAll, Backup.callAll, List.foldl_map]
  rfl

/-- Whatever the backup, a record is served in the same way and its frame handed over to the log
for the channels that accepted it. -/
theorem emitTo_withBackup (w : Writer σ) (b : Backup) (frame : Except RecordError ByteArray)
    (superstep : Option Superstep) (selected : List ChannelId) :
    (w.withBackup b).emitTo frame superstep selected =
      ((w.emitTo frame superstep selected).1,
        (w.emitTo frame superstep selected).2.withBackup
          (match frame with
            | .ok frame => b.callAll ((w.accepted (.ok frame) selected).map fun c =>
                .frame w.outlet.now c superstep frame)
            | .error _ => b)) := by
  have hnow := now_serve frame selected w.lanes w.outlet
  unfold emitTo accepted
  show (match checkSelection selected w.width with | .error e => _ | .ok _ => _) = _
  cases hcheck : checkSelection selected w.width with
  | error e =>
    cases frame with
    | error cause => rfl
    | ok frame => rfl
  | ok _ =>
    rcases hserve : serve frame selected w.lanes w.outlet with ⟨accepting, r, lanes, o⟩
    rw [hserve] at hnow
    have hnow : o.now = w.outlet.now := hnow
    have hsame : serve frame selected (w.withBackup b).lanes (w.withBackup b).outlet =
      (accepting, r, lanes, o) := hserve
    cases frame with
    | error cause =>
      simp only [hsame]
      cases r <;> rfl
    | ok frame =>
      simp only [hsame, hserve, recordAll_eq_callAll, hnow]
      cases r <;> rfl

theorem accepting_eq {selected : List ChannelId} (hopen : w.closed = false) {record : s.Value}
    {superstep : Option Superstep} (htargets : w.targets s record superstep = selected) :
    w.accepting s record superstep = w.accepted ((encodeRecord s record).map pack) selected := by
  rw [accepting, hopen, htargets, accepted]
  rfl

theorem emit_withBackup (w : Writer σ) (b : Backup) (record : s.Value)
    (superstep : Option Superstep) :
    (w.withBackup b).perform s (.emit record superstep) =
      ((w.perform s (.emit record superstep)).1,
        (w.perform s (.emit record superstep)).2.withBackup
          (b.callAll (w.logCalls s (.emit record superstep)))) := by
  show (w.withBackup b).emit s record superstep = ((w.emit s record superstep).1, _)
  -- a record that goes nowhere hands nothing over
  have hnone (h : w.accepting s record superstep = []) :
      b.callAll (w.logCalls s (.emit record superstep)) = b := by
    rw [logCalls, h]
    cases encodeRecord s record <;> rfl
  by_cases hclosed : w.closed = true
  · have hrefused : w.emit s record superstep = (.error (.illegalState .closed), w) :=
      if_pos hclosed
    have hrefused' : (w.withBackup b).emit s record superstep =
        (.error (.illegalState .closed), w.withBackup b) := if_pos hclosed
    show _ = ((w.emit s record superstep).1, (w.emit s record superstep).2.withBackup _)
    rw [hrefused, hrefused', hnone (if_pos hclosed)]
  · have hopen := Bool.eq_false_iff.2 hclosed
    have hemit : w.emit s record superstep = _ := if_neg hclosed
    have hemit' : (w.withBackup b).emit s record superstep = _ := if_neg hclosed
    show _ = ((w.emit s record superstep).1, (w.emit s record superstep).2.withBackup _)
    rw [hemit, hemit']
    have hroute' : (w.withBackup b).route record superstep = w.route record superstep := rfl
    rw [hroute']
    rcases hroute : w.route record superstep with ⟨routing, selector⟩
    have htargets : w.targets s record superstep = routing.targets := by
      rw [targets, hroute]
    have haccepting := accepting_eq hopen htargets
    rcases routing with _ | _ | selected
    · rw [hnone haccepting]
      rfl
    · rw [hnone haccepting]
      rfl
    · have hemitted := emitTo_withBackup { w with selector := selector } b
        ((encodeRecord s record).map pack) superstep selected
      refine hemitted.trans ?_
      rw [logCalls, haccepting]
      cases encodeRecord s record <;> rfl

theorem endSuperstep_withBackup (w : Writer σ) (b : Backup) :
    (w.withBackup b).endSuperstep = (w.endSuperstep.1,
      w.endSuperstep.2.withBackup (b.callAll (w.logCalls s .endSuperstep))) := by
  have hnow := Lane.sweep_keeps (P := fun o => o.now = w.outlet.now)
    (fun c s o h => (Lane.local_endSuperstep c s o).now_eq.trans h) 0 w.lanes rfl
  unfold endSuperstep logCalls
  show (if w.closed then _ else _) = _
  by_cases hclosed : w.closed = true
  · simp only [if_pos hclosed]
    rfl
  · simp only [if_neg hclosed]
    have hsame : Lane.sweep Lane.endSuperstep 0 (w.withBackup b).lanes (w.withBackup b).outlet =
      Lane.sweep Lane.endSuperstep 0 w.lanes w.outlet := rfl
    rw [hsame]
    rcases hsweep : Lane.sweep Lane.endSuperstep 0 w.lanes w.outlet with ⟨r, lanes, o⟩
    rw [hsweep] at hnow
    have hlast : o.now = w.outlet.now := hnow
    cases r with
    | error e => rfl
    | ok _ =>
      simp only [hlast]
      rfl

theorem flush_withBackup (w : Writer σ) (b : Backup) :
    (w.withBackup b).flush =
      (w.flush.1, w.flush.2.withBackup (b.callAll [.finish w.outlet.now])) := by
  have hnow := Lane.sweepAll_keeps (P := fun o => o.now = w.outlet.now)
    (fun c s o h => (Lane.local_retire c s o).now_eq.trans h) 0 w.lanes rfl
  show (_, { w with
    lanes := (Lane.sweepAll Lane.retire 0 w.lanes w.outlet).2.1
    outlet := (Lane.sweepAll Lane.retire 0 w.lanes w.outlet).2.2
    backup := b.close (Lane.sweepAll Lane.retire 0 w.lanes w.outlet).2.2.now }) = _
  rw [hnow]
  rfl

theorem close_withBackup (w : Writer σ) (b : Backup) :
    (w.withBackup b).close =
      (w.close.1, w.close.2.withBackup (b.callAll (w.logCalls s .close))) := by
  unfold close logCalls
  show (if w.closed then _ else _) = _
  by_cases hclosed : w.closed = true
  · simp only [if_pos hclosed]
    rfl
  · have hflush := flush_withBackup { w with closed := true } b
    have hsame : { w.withBackup b with closed := true } =
      withBackup { w with closed := true } b := rfl
    simp only [if_neg hclosed, hsame, hflush]
    rfl

/-- **No operation looks at the backup**: with any other in its place it gives the same result and
leaves the same writer, and the log of the backup is handed the same. -/
theorem perform_withBackup (w : Writer σ) (b : Backup) (op : Operation s.Value) :
    (w.withBackup b).perform s op =
      ((w.perform s op).1, (w.perform s op).2.withBackup (b.callAll (w.logCalls s op))) := by
  cases op with
  | emit record superstep => exact emit_withBackup w b record superstep
  | broadcast e =>
    show (w.withBackup b).broadcast e = ((w.broadcast e).1, (w.broadcast e).2.withBackup b)
    unfold broadcast
    show (if w.closed then _ else _) = _
    by_cases hclosed : w.closed = true
    · simp only [if_pos hclosed]
    · simp only [if_neg hclosed]
      rfl
  | endSuperstep => exact endSuperstep_withBackup w b
  | flush => exact flush_withBackup w b
  | close => exact close_withBackup w b
  | clear => rfl
  | drop => rfl
  | turn t => rfl

/-! ## Runs -/

theorem run_withBackup (w : Writer σ) (b : Backup) (ops : List (Operation s.Value)) :
    (w.withBackup b).run s ops =
      (w.run s ops).withBackup (b.callAll (along s (fun w op => w.logCalls s op) w ops)) := by
  induction ops generalizing w b with
  | nil => rfl
  | cons op ops ih =>
    show ((w.withBackup b).perform s op).2.run s ops = _
    rw [perform_withBackup, ih, along, Backup.callAll_append]
    rfl

/-- What a run contributes that does not depend on the backup. -/
theorem along_withBackup {β : Type} {f : Writer σ → Operation s.Value → List β}
    (hf : ∀ w b op, f (withBackup w b) op = f w op) (w : Writer σ) (b : Backup)
    (ops : List (Operation s.Value)) : along s f (w.withBackup b) ops = along s f w ops := by
  induction ops generalizing w b with
  | nil => rfl
  | cons op ops ih => rw [along, hf, perform_withBackup, ih, along]

/-- **What was handed to the log of a run** is all that has become of its backup. -/
theorem backup_run (w : Writer σ) (ops : List (Operation s.Value)) :
    (w.run s ops).backup = w.backup.callAll (along s (fun w op => w.logCalls s op) w ops) :=
  congrArg backup (run_withBackup w w.backup ops)

/-- What an operation reports: its result, and clearing also how many buffers there were. -/
def report (s : Schema) [ChannelSelector σ s.Value] (w : Writer σ) (op : Operation s.Value) :
    Except WriterError Unit × Option Nat :=
  match op with
  | .clear => ((w.perform s op).1, some w.clear.1)
  | op => ((w.perform s op).1, none)

theorem report_withBackup (w : Writer σ) (b : Backup) (op : Operation s.Value) :
    (w.withBackup b).report s op = w.report s op := by
  have hresult := congrArg Prod.fst (perform_withBackup w b op)
  cases op with
  | emit _ _ | broadcast _ | endSuperstep | flush | close | drop | turn _ =>
    exact congrArg (·, none) hresult
  | clear => rfl

/-- The channels that accept the frame of an operation and for which a log for the scope takes it,
with repetitions. -/
def engaged (s : Schema) [ChannelSelector σ s.Value] (scope : LogScope) (w : Writer σ) :
    Operation s.Value → List ChannelId
  | .emit record superstep =>
    match encodeRecord s record with
    | .ok _ => (w.accepting s record superstep).filter fun c => scope.engages c superstep
    | .error _ => []
  | _ => []

theorem countP_logCalls (scope : LogScope) (w : Writer σ) (op : Operation s.Value) :
    (w.logCalls s op).countP scope.takes = (w.engaged s scope op).length := by
  cases op with
  | emit record superstep =>
    cases hencode : encodeRecord s record with
    | error _ => simp only [logCalls, engaged, hencode, List.countP_nil, List.length_nil]
    | ok frame =>
      simp only [logCalls, engaged, hencode, List.countP_map, ← List.countP_eq_length_filter]
      rfl
  | endSuperstep =>
    show List.countP _ (if w.closed then _ else _) = 0
    split
    · rfl
    · split <;> rfl
  | close =>
    show List.countP _ (if w.closed then _ else _) = 0
    split <;> rfl
  | broadcast _ | flush | clear | drop | turn _ => rfl

theorem countP_along (scope : LogScope) (w : Writer σ) (ops : List (Operation s.Value)) :
    (along s (fun w op => w.logCalls s op) w ops).countP scope.takes =
      (along s (fun w op => w.engaged s scope op) w ops).length := by
  induction ops generalizing w with
  | nil => rfl
  | cons op ops ih =>
    rw [along, along, List.countP_append, List.length_append, countP_logCalls, ih]

/-- What a log is for when the writer of a partition keeps it in a directory. -/
def scopeOf (p : Partition) (dir : String) : LogScope :=
  ⟨dir, p.info.dataset, p.info.subpartitions, p.info.localChannel⟩

theorem backup_make {p : Partition} {pool : Pool} {selector : σ} {options : WriterOptions}
    {now : Duration} {surroundings : Surroundings} {disk : Disk}
    (hmade : make p pool selector options now surroundings disk = .ok w) :
    w.backup = Backup.make (options.recoveryDir.map (scopeOf p)) disk := by
  simp only [make] at hmade
  split_ifs at hmade
  rw [← Except.ok.inj hmade]
  rfl

/-- **The backup cannot disturb the data path.** Two writers that are made alike, except for where
they keep a recovery log, if at all, and for the disk with whatever is on it and whichever of its
calls fail: in every run of the same operations they report the same results, leave the pool and
the partition the same, with the same buffers, events and markers delivered on every channel, and
count the same traffic. And a writer with a log counts every frame that was accepted on a channel and in a
superstep for which the log is engaged, as logged or as failed. -/
theorem runs_agree {w₁ w₂ : Writer σ} {p : Partition} {pool : Pool} {selector : σ}
    {options₁ options₂ : WriterOptions} {now : Duration} {surroundings : Surroundings}
    {disk₁ disk₂ : Disk}
    (hmade₁ : make p pool selector options₁ now surroundings disk₁ = .ok w₁)
    (hmade₂ : make p pool selector options₂ now surroundings disk₂ = .ok w₂)
    (hreplay : options₁.replay = options₂.replay)
    (hpatience : options₁.patience = options₂.patience) (ops : List (Operation s.Value)) :
    along s (fun w op => [w.report s op]) w₁ ops = along s (fun w op => [w.report s op]) w₂ ops ∧
    (w₁.run s ops).outlet = (w₂.run s ops).outlet ∧
    (∀ c, (w₁.run s ops).delivered c = (w₂.run s ops).delivered c) ∧
    (w₁.run s ops).metrics.traffic = (w₂.run s ops).metrics.traffic ∧
    ∀ dir, options₁.recoveryDir = some dir →
      (w₁.run s ops).metrics.backup.records + (w₁.run s ops).metrics.backup.failures =
        UInt64.ofNat (along s (fun w op => w.engaged s (scopeOf p dir) op) w₁ ops).length := by
  have hsame : w₁ = w₂.withBackup w₁.backup := by
    simp only [make, hreplay, hpatience] at hmade₁ hmade₂
    split_ifs at hmade₁ hmade₂
    rw [← Except.ok.inj hmade₁, ← Except.ok.inj hmade₂]
    rfl
  have houtlet : (w₁.run s ops).outlet = (w₂.run s ops).outlet := by
    rw [hsame, run_withBackup]
    rfl
  refine ⟨?_, houtlet, fun c => ?_, ?_, fun dir hdir => ?_⟩
  · rw [hsame]
    exact along_withBackup (fun w b op => congrArg ([·]) (report_withBackup w b op)) w₂ _ ops
  · rw [delivered, houtlet, delivered]
  · rw [metrics, metrics, houtlet]
  · have hbackup := backup_make hmade₁
    rw [hdir] at hbackup
    have hfor : w₁.backup.IsFor (scopeOf p dir) := by
      rw [hbackup]
      exact ⟨_, rfl, RecoveryLog.isFor_make _⟩
    have htotal := Backup.total_callAll hfor (along s (fun w op => w.logCalls s op) w₁ ops)
    rw [← backup_run, countP_along, hbackup] at htotal
    exact htotal.trans (UInt64.zero_add _)

/-! A small case: two channels, of which the first is the local one. -/

def smallPair : Partition := .make ⟨⟨"small"⟩, 2, some ⟨0⟩⟩

def smallPairWriter (dir : Option String) (disk : Disk) : Writer Broadcast where
  lanes := [Serializer.start, Serializer.start]
  outlet := ⟨smallPool, smallPair, .start, .unlimited, .ofSeconds 1, .attentive, 0, 0⟩
  selector := ⟨⟩
  replay := none
  backup := .make (dir.map (scopeOf smallPair)) disk
  closed := false

theorem make_smallPair (dir : Option String) (disk : Disk) :
    make smallPair smallPool ⟨⟩ ⟨dir, none, .unlimited⟩ (.ofSeconds 1) .attentive disk =
      .ok (smallPairWriter dir disk) := rfl

/-- Two records of a superstep and one outside of it, with a log that fails at its first call and
without a log. The frames that go to the remote channel in the superstep are counted. -/
theorem runs_agree_small :
    let ops : List (Operation Schema.bytes.Value) :=
      [.emit [1, 2] (some ⟨7⟩), .emit [3, 4] (some ⟨7⟩), .emit [5] none, .flush]
    let failing : Disk := { Disk.empty with faults := .window 0 1 .storageFull }
    let w₁ := smallPairWriter (some "log") failing
    let w₂ := smallPairWriter none Disk.empty
    (w₁.run .bytes ops).outlet = (w₂.run .bytes ops).outlet ∧
    (w₁.run .bytes ops).metrics.backup.records + (w₁.run .bytes ops).metrics.backup.failures = 2 := by
  intro ops failing w₁ w₂
  have hengaged : (along .bytes (fun w op => w.engaged .bytes (scopeOf smallPair "log") op) w₁
      ops).length = 2 := by decide +kernel
  obtain ⟨_, houtlet, _, _, hcounted⟩ := runs_agree (s := .bytes)
    (make_smallPair (some "log") failing) (make_smallPair none Disk.empty) rfl rfl ops
  refine ⟨houtlet, (hcounted "log" rfl).trans ?_⟩
  rw [hengaged]
  rfl

end Writer

end Fanout
