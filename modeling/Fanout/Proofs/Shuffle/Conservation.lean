import Fanout.Proofs.Shuffle.Job

/-!
# Conservation

What the writer of a shuffle counts and what its consumers count agree. Every message is sent or
held back; all copies of those that were sent arrive, with all their bytes, and every consumer meets
all barriers and all ends of supersteps between two records.

* `conserves_records` — a shuffle of valid settings over its own channels, among any consumers that
  stay: it succeeds if there are enough buffers, memory for them and patience, and whenever it
  succeeds the counts agree.
* `unaffordable_small` — valid settings for which there is no memory.
-/

namespace Fanout

/-- To how many channels a record goes. -/
def SelectorKind.copies (kind : SelectorKind) (channels : Nat) : Nat :=
  match kind with
  | .broadcast => channels
  | .roundRobin | .keyPartitioned => 1

namespace Shuffle

theorem picks_policy (kind : SelectorKind) : (policy kind).Picks kind.copies := by
  cases kind <;> rfl

/-! ## Messages -/

theorem length_varint_le (n : Nat) : (Varint.encode n).length ≤ 17 := by
  unfold Varint.encode
  split
  · exact (by decide : 1 ≤ 17)
  · rw [List.length_cons, Bytes.length_littleEndian]
    cases Varint.widthFor n <;> decide

/-- Every message has a frame. -/
theorem encodeRecord_isOk (m : record.Value) : (encodeRecord record m).isOk = true := by
  obtain ⟨target, payload⟩ := m
  have hfit : (Varint.encode target.toNat ++ Varint.encode payload.toNat).length ≤ maxPayload := by
    have htarget := length_varint_le target.toNat
    have hpayload := length_varint_le payload.toNat
    have hroom : 34 ≤ maxPayload := by decide
    rw [List.length_append]
    omega
  have hencode : record.encode (⟨target, payload⟩ : Message word.Value word.Value) =
      .ok (Varint.encode target.toNat ++ Varint.encode payload.toNat) := rfl
  unfold encodeRecord
  rw [hencode]
  exact congrArg Except.isOk (if_pos hfit)

/-! ## Consumers -/

theorem mapM_consume {report : Nat → ChannelReport} {subs : List Subpartition} {k : Nat}
    (h : ∀ i sub, subs[i]? = some sub →
      Consumer.consume record (ChannelId.ofNat (k + i)) sub.sent.toList =
        .ok (report (k + i))) :
    (subs.zipIdx k).mapM (fun (s, i) =>
      Consumer.consume record (ChannelId.ofNat i) s.sent.toList) =
        .ok ((List.range' k subs.length).map report) := by
  induction subs generalizing k with
  | nil => rfl
  | cons sub subs ih =>
    have hfirst := h 0 sub rfl
    rw [Nat.add_zero] at hfirst
    have hlater := ih (k := k + 1) fun i sub hi => by
      rw [Nat.add_assoc, Nat.add_comm 1]
      exact h (i + 1) sub hi
    rw [List.zipIdx_cons, List.mapM_cons, hlater]
    dsimp only
    rw [hfirst]
    rfl

theorem consumeAll_eq_ok {p : Partition} {report : Nat → ChannelReport}
    (h : ∀ i sub, p.subpartitions[i]? = some sub →
      Consumer.consume record (ChannelId.ofNat i) sub.sent.toList = .ok (report i)) :
    consumeAll p = .ok ((List.range p.subpartitions.length).map report) := by
  unfold consumeAll
  rw [List.range_eq_range']
  refine mapM_consume fun i sub hi => ?_
  rw [Nat.zero_add]
  exact h i sub hi

/-- How often a channel is picked in turn. -/
theorem count_inTurn {i channels : Nat} (hi : i < channels) (hle : channels ≤ maxChannels)
    (ks : List Nat) : (ks.map fun k => ChannelId.ofNat (k % channels)).count (ChannelId.ofNat i) =
      ks.countP fun k => k % channels = i := by
  rw [List.count_eq_countP, List.countP_map]
  refine List.countP_congr fun k _ => ?_
  have hk : k % channels < maxChannels := Nat.lt_of_lt_of_le (Nat.mod_lt _ (by omega)) hle
  have hposition : (ChannelId.ofNat (k % channels)).toNat = k % channels :=
    ChannelId.toNat_ofNat_of_lt hk
  have hposition' : (ChannelId.ofNat i).toNat = i :=
    ChannelId.toNat_ofNat_of_lt (Nat.lt_of_lt_of_le hi hle)
  rw [Function.comp_apply, beq_iff_eq, decide_eq_true_iff]
  constructor
  · intro hsame
    rw [← hposition, hsame, hposition']
  · intro hsame
    rw [hsame]

/-! ## Producers -/

/-- The job with a last flush. -/
def flushedJob (args : RunArgs) : List (Operation record.Value) :=
  job args args.supersteps ++ [.flush]

theorem atWork_flushedJob (args : RunArgs) : ∀ op ∈ flushedJob args, op.AtWork :=
  List.forall_mem_append.2
    ⟨fun op hop => (sends_job args _ op hop).atWork, List.forall_mem_singleton.2 trivial⟩

/-- The producer when its job is done and flushed. -/
def flushed (w : Producer) (args : RunArgs) : Producer := w.run record (flushedJob args)

/-- Where the messages of the job go. -/
def dispatched (w : Producer) (args : RunArgs) : List (Dispatch record.Value) :=
  Writer.along record (fun w op => w.dispatches record op) w (flushedJob args)

/-- What the consumer of a channel is to report. -/
def reportOf (w : Producer) (args : RunArgs) (i : Nat) : ChannelReport :=
  .tally (ChannelId.ofNat i)
    (Writer.along record (fun w op => w.entries record (ChannelId.ofNat i) op) w (flushedJob args))
    ((flushed w args).delivered (ChannelId.ofNat i))

theorem records_reportOf (w : Producer) (args : RunArgs) (i : Nat) :
    (reportOf w args i).records = (targetsOf (dispatched w args)).count (ChannelId.ofNat i) :=
  Writer.length_recordsOf_entries_run w _ _

theorem marks_flushedJob (args : RunArgs) : (flushedJob args).filterMap Operation.mark? =
    (job args args.supersteps).filterMap Operation.mark? := by
  rw [flushedJob, List.filterMap_append]
  exact List.append_nil _

theorem events_reportOf (w : Producer) (args : RunArgs) (i : Nat) :
    (reportOf w args i).events = checkpoints args.checkpointInterval args.supersteps := by
  have hnone : checkpoints args.checkpointInterval (args.supersteps - args.supersteps) = 0 := by
    rw [Nat.sub_self]
    cases args.checkpointInterval with
    | none => rfl
    | some every => exact Nat.zero_div every
  show (marksOf _).countP Mark.isEvent = _
  rw [Writer.marksOf_entries_run, marks_flushedJob, ← events_job args le_rfl, hnone, Nat.add_zero]

theorem supersteps_reportOf (w : Producer) (args : RunArgs) (i : Nat) :
    (reportOf w args i).supersteps = args.supersteps := by
  show (marksOf _).countP Mark.isEndOfSuperstep = _
  rw [Writer.marksOf_entries_run, marks_flushedJob, ends_job]

/-- A producer with valid settings, over the channels that they name, among consumers that stay. -/
structure Ready (c : Config) (args : RunArgs) (w : Producer) : Prop where
  valid : c.Valid
  own : args.channels = none
  setup : ∃ surroundings d, surroundings.Receive ∧ setup c args surroundings d = .ok w

namespace Ready

variable {c : Config} {args : RunArgs} {w : Producer} (h : Ready c args w)

include h

theorem outset : w.Outset (Partition.make (partitionInfo c args)) (policy c.writer.selector)
    (writerOptions c).replay := by
  obtain ⟨_, _, _, hsetup⟩ := h.setup
  exact (madeWith_setup hsetup).outset

theorem madeFor : w.MadeFor (Partition.make (partitionInfo c args)) := by
  obtain ⟨_, _, _, hsetup⟩ := h.setup
  exact (madeWith_setup hsetup).madeFor

theorem channels_eq : (Partition.make (partitionInfo c args)).width = c.writer.channels := by
  show width c args = _
  rw [width, h.own]
  rfl

theorem width_eq : w.width = c.writer.channels := h.outset.width_eq.trans h.channels_eq

theorem widths : w.Widths := by
  have hreplay (f : ReplayFilter) (hf : w.replay = some f) :
      ∃ r, c.recovery.replay = some r ∧ f.formerWidth = r.formerParallelism := by
    rw [h.outset.replay_eq] at hf
    obtain ⟨r, hr, rfl⟩ := Option.map_eq_some_iff.1 hf
    exact ⟨r, hr, rfl⟩
  refine ⟨?_, ?_, fun f hf => ?_, fun f hf => ?_⟩
  · rw [h.width_eq]
    exact h.valid.writer.channels_pos
  · rw [h.width_eq]
    exact h.valid.writer.channels_le
  · obtain ⟨r, hr, hformer⟩ := hreplay f hf
    rw [hformer]
    exact (h.valid.recovery.replay r hr).former_pos
  · obtain ⟨r, hr, hformer⟩ := hreplay f hf
    rw [hformer]
    exact (h.valid.recovery.replay r hr).former_le

/-- Every message is held back or goes to as many channels. -/
theorem copied (emissions : List (record.Value × Option Superstep)) :
    ∀ d ∈ w.dispatchAll emissions,
      d.routing.Copied (c.writer.selector.copies c.writer.channels) c.writer.channels := by
  have hpicks : w.selector.Picks c.writer.selector.copies := by
    rw [h.outset.selector_eq]
    exact picks_policy _
  have hcopied := Writer.copied_dispatchAll hpicks h.widths emissions
  rwa [h.width_eq] at hcopied

theorem served : w.outlet.Served c.writer.channels := by
  obtain ⟨surroundings, d, hreceive, hsetup⟩ := h.setup
  have hwidth : width c args = c.writer.channels := h.channels_eq
  rw [← hwidth]
  exact served_setup hsetup hreceive.stay

/-- Every operation of the job is fit. -/
theorem fit (n : Nat) : w.Throughout record (fun w op => w.closed = false ∧ w.Fit record op)
    (job args n ++ [.close]) := by
  have hops (op : Operation record.Value) (hop : op ∈ job args n) : op.AtWork :=
    (sends_job args n op hop).atWork
  refine Writer.throughout_concat.2 ⟨?_, Writer.closed_run h.outset.closed_eq hops, trivial⟩
  refine Writer.throughout_fit h.outset.closed_eq hops (fun e _ => encodeRecord_isOk e.1) ?_
  intro d hd channel hchannel
  have hwithin := (h.copied _ d hd).within channel hchannel
  rwa [← h.width_eq] at hwithin

/-- **With a buffer for each channel and patience without a limit the producer comes to the end of
its job.** -/
theorem produces (htimeout : c.buffer.requestTimeout = none)
    (hpool : c.writer.channels ≤ c.buffer.poolSize) :
    (produce w args args.supersteps).1 = .ok () := by
  obtain ⟨surroundings, d, hreceive, hsetup⟩ := h.setup
  have hwidth : width c args = c.writer.channels := h.channels_eq
  obtain ⟨pool, _, hmade⟩ := setup_made hsetup
  obtain ⟨asks, smooth, hdeals, hok⟩ := produce_deals hsetup
  rw [hwidth] at hdeals
  have hpatience : w.outlet.patience = .unlimited := by
    rw [Writer.outlet_make hmade]
    show (writerOptions c).patience = _
    rw [writerOptions, htimeout]
  have hsmooth := hdeals.smooth_eq h.served (balanced_setup hsetup hreceive.ofConsumers.spare)
    hpatience hpool
  exact hok hsmooth (h.fit _)

/-- The producer that came to its end has flushed its lanes, and nothing of what it sent or counted
has changed since. -/
theorem produced (hok : (produce w args args.supersteps).1 = .ok ()) :
    w.Succeeds record (flushedJob args) ∧ (produce w args args.supersteps).2 =
      { (flushed w args).clear.2 with closed := true } := by
  rw [produce_eq] at hok ⊢
  have hsucceeds := (Writer.performAll_eq_ok_iff _ _).1 hok
  obtain ⟨hjob, hclose⟩ := Writer.throughout_concat.1 hsucceeds
  have hopen := Writer.closed_run (s := record) h.outset.closed_eq fun op hop =>
    (sends_job args args.supersteps op hop).atWork
  have hclose : (w.run record (job args args.supersteps)).close.1 = .ok () := hclose
  rw [Writer.close_eq hopen] at hclose
  refine ⟨Writer.throughout_concat.2 ⟨hjob, hclose⟩, ?_⟩
  rw [Writer.performAll_snd hsucceeds, Writer.run_concat, flushed, flushedJob, Writer.run_concat]
  exact congrArg Prod.snd (Writer.close_eq hopen)

theorem served_flushed (hok : (produce w args args.supersteps).1 = .ok ()) :
    (flushed w args).outlet.Served c.writer.channels := by
  obtain ⟨surroundings, d, _, hsetup⟩ := h.setup
  obtain ⟨asks, smooth, hdeals, _⟩ := produce_deals hsetup
  have hwidth : width c args = c.writer.channels := h.channels_eq
  rw [hwidth] at hdeals
  have hserved := h.served.of_deals hdeals
  rw [(h.produced hok).2] at hserved
  -- giving up empty lanes changes the pool and the count of discarded buffers only
  exact ⟨hserved.partition_open, hserved.stay, hserved.bytes_eq⟩

/-! ### Messages -/

theorem dispatched_eq : dispatched w args =
    w.dispatchAll ((job args args.supersteps).filterMap Operation.emission?) := by
  rw [dispatched, Writer.dispatches_run h.outset.closed_eq (atWork_flushedJob args), flushedJob,
    List.filterMap_append]
  exact congrArg w.dispatchAll (List.append_nil _)

theorem copied_dispatched : ∀ d ∈ dispatched w args,
    d.routing.Copied (c.writer.selector.copies c.writer.channels) c.writer.channels := by
  rw [h.dispatched_eq]
  exact h.copied _

theorem length_dispatched (hvertices : args.vertices < UInt64.size) :
    (dispatched w args).length = messageCount args := by
  have hlength := congrArg List.length (w.emissions_dispatchAll
    ((job args args.supersteps).filterMap Operation.emission?))
  rw [List.length_map, ← h.dispatched_eq, emissions_job hvertices] at hlength
  exact hlength

/-- What the writer counts: every message is sent or held back. -/
theorem traffic_flushed (hok : w.Succeeds record (flushedJob args)) :
    let traffic := (flushed w args).outlet.traffic
    traffic.emitted = UInt64.ofNat ((dispatched w args).countP Dispatch.isSent) ∧
      traffic.filtered = UInt64.ofNat ((dispatched w args).countP Dispatch.isFiltered) ∧
      traffic.unrouted = 0 := by
  intro traffic
  obtain ⟨surroundings, d, _, hsetup⟩ := h.setup
  obtain ⟨pool, _, hmade⟩ := setup_made hsetup
  have hstart : w.outlet.traffic = .start := by rw [Writer.outlet_make hmade]
  have hopen := h.outset.closed_eq
  have hops := atWork_flushedJob args
  have hnone := (Writer.countP_copied h.copied_dispatched).2
  have hemitted := Writer.emitted_run hopen hops hok
  have hfiltered := Writer.filtered_run hopen hops
  have hunrouted := Writer.unrouted_run hopen hops
  rw [hstart] at hemitted hfiltered hunrouted
  refine ⟨hemitted.trans (UInt64.zero_add _), hfiltered.trans (UInt64.zero_add _), ?_⟩
  rw [show traffic.unrouted = _ from hunrouted, ← dispatched, hnone]
  rfl

/-- Messages that go to the channels in turn begin with the first channel. -/
theorem targetsOf_inTurn (hselector : c.writer.selector = .roundRobin)
    (hreplay : c.recovery.replay = none) (hvertices : args.vertices < UInt64.size) :
    targetsOf (dispatched w args) = (List.range (messageCount args)).map fun k =>
      ChannelId.ofNat (k % c.writer.channels) := by
  have hnone : w.replay = none := by
    rw [h.outset.replay_eq, writerOptions, hreplay]
    rfl
  have hinTurn : w.selector = .roundRobin RoundRobin.start := by
    rw [h.outset.selector_eq, hselector]
    rfl
  rw [h.dispatched_eq, Writer.targetsOf_inTurn hnone h.widths.pos hinTurn, emissions_job hvertices,
    h.width_eq]
  refine List.map_congr_left fun k _ => ?_
  rw [RoundRobin.nextPosition, RoundRobin.start, Nat.zero_add]

/-! ### Consumers -/

theorem sent_flushed (hok : (produce w args args.supersteps).1 = .ok ()) {i : Nat}
    {sub : Subpartition} (hsub : (flushed w args).outlet.partition.subpartitions[i]? = some sub) :
    i < c.writer.channels ∧
      sub.sent.toList = (flushed w args).delivered (ChannelId.ofNat i) := by
  have hopen := (h.served_flushed hok).partition_open
  have hi : i < c.writer.channels := by
    rw [← hopen.length_eq]
    exact (List.getElem?_eq_some_iff.1 hsub).1
  have hfaithful : w.outlet.partition.Faithful c.writer.channels := by
    rw [h.madeFor.start.partition_eq, ← h.channels_eq]
    exact .start rfl rfl
  have hposition : (ChannelId.ofNat i).toNat = i :=
    ChannelId.toNat_ofNat_of_lt (Nat.lt_of_lt_of_le hi h.valid.writer.channels_le)
  refine ⟨hi, (Writer.faithful_run hfaithful (flushedJob args)).sent_eq ?_ ?_⟩
  · rw [hposition]
    exact hsub
  · exact hopen.connected sub (List.mem_of_getElem? hsub)

/-- **All consumers come to the end of their streams.** -/
theorem consumed (hok : (produce w args args.supersteps).1 = .ok ()) :
    consumeAll (flushed w args).outlet.partition =
      .ok ((List.range c.writer.channels).map (reportOf w args)) := by
  have hopen := (h.served_flushed hok).partition_open
  rw [← hopen.length_eq]
  refine consumeAll_eq_ok fun i sub hsub => ?_
  obtain ⟨hi, hsent⟩ := h.sent_flushed hok hsub
  rw [hsent]
  refine Writer.consume_run h.madeFor ⟨rfl, rfl⟩ (atWork_flushedJob args)
    List.getLast?_concat (h.produced hok).1 ?_
  rw [ChannelId.toNat_ofNat_of_lt (Nat.lt_of_lt_of_le hi h.valid.writer.channels_le), h.channels_eq]
  exact hi

theorem consumed_produced (hok : (produce w args args.supersteps).1 = .ok ()) :
    consumeAll (produce w args args.supersteps).2.outlet.partition =
      .ok ((List.range c.writer.channels).map (reportOf w args)) := by
  rw [(h.produced hok).2]
  exact h.consumed hok

theorem bytes_reports (hok : (produce w args args.supersteps).1 = .ok ()) :
    (((List.range c.writer.channels).map (reportOf w args)).map ChannelReport.bytes).sum =
      (flushed w args).outlet.partition.volume := by
  have hopen := (h.served_flushed hok).partition_open
  rw [← hopen.length_eq]
  refine congrArg List.sum (List.ext_getElem (by simp) fun i hi hsub => ?_)
  rw [List.length_map] at hsub
  obtain ⟨_, hsent⟩ := h.sent_flushed hok (List.getElem?_eq_getElem hsub)
  simp only [List.getElem_map, List.getElem_range, Subpartition.volume, hsent]
  rfl

end Ready

/-! ## Shuffles -/

/-- **The counts of a shuffle agree.** -/
structure Conserved (c : Config) (args : RunArgs) (report : RunReport) : Prop where
  /-- Every message was sent or held back, and all copies of those that were sent arrived. -/
  messages : ∃ emitted filtered, emitted + filtered = messageCount args ∧
    report.metrics.traffic.emitted = UInt64.ofNat emitted ∧
    report.metrics.traffic.filtered = UInt64.ofNat filtered ∧
    report.received = emitted * c.writer.selector.copies c.writer.channels
  unrouted_eq : report.metrics.traffic.unrouted = 0
  bytes_eq : report.metrics.traffic.bytes =
    UInt64.ofNat (report.channels.map ChannelReport.bytes).sum
  /-- Every consumer met all barriers and all ends of supersteps. -/
  marks_eq : report.channels.map (fun r => (r.channel, r.events, r.supersteps)) =
    (List.range c.writer.channels).map fun i =>
      (ChannelId.ofNat i, checkpoints args.checkpointInterval args.supersteps, args.supersteps)
  /-- Messages that go to the channels in turn are dealt out from the first channel on. -/
  inTurn_eq : c.writer.selector = .roundRobin → c.recovery.replay = none →
    report.channels.map ChannelReport.records = (List.range c.writer.channels).map fun i =>
      (List.range (messageCount args)).countP fun k => k % c.writer.channels = i

variable {c : Config} {args : RunArgs} {surroundings : Surroundings} {d : Disk} {w : Producer}
  {report : RunReport}

theorem received_eq_sum (report : RunReport) :
    report.received = (report.channels.map ChannelReport.records).sum := by
  rw [RunReport.received, ← List.foldl_map (f := ChannelReport.records) (g := (· + ·)),
    List.sum_eq_foldl]

theorem Ready.conserved (h : Ready c args w) (hvertices : args.vertices < UInt64.size)
    (hok : (produce w args args.supersteps).1 = .ok ()) :
    Conserved c args ⟨(List.range c.writer.channels).map (reportOf w args),
      (produce w args args.supersteps).2.metrics⟩ := by
  obtain ⟨hsucceeds, hproduced⟩ := h.produced hok
  obtain ⟨hemitted, hfiltered, hunrouted⟩ := h.traffic_flushed hsucceeds
  have hcount := (Writer.countP_copied h.copied_dispatched).1
  rw [hproduced]
  refine ⟨⟨_, _, hcount.trans (h.length_dispatched hvertices), hemitted, hfiltered, ?_⟩, hunrouted,
    ?_, ?_, fun hselector hreplay => ?_⟩
  · rw [received_eq_sum, List.map_map, ← Writer.sum_count_targetsOf h.valid.writer.channels_le
      h.copied_dispatched]
    exact congrArg List.sum (List.map_congr_left fun i _ => records_reportOf w args i)
  · rw [h.bytes_reports hok]
    exact (h.served_flushed hok).bytes_eq
  · rw [List.map_map]
    refine List.map_congr_left fun i _ => ?_
    show (ChannelId.ofNat i, (reportOf w args i).events, (reportOf w args i).supersteps) = _
    rw [events_reportOf, supersteps_reportOf]
  · rw [List.map_map]
    refine List.map_congr_left fun i hi => ?_
    show (reportOf w args i).records = _
    rw [records_reportOf, h.targetsOf_inTurn hselector hreplay hvertices]
    exact count_inTurn (List.mem_range.1 hi) h.valid.writer.channels_le _

/-- **Shuffles conserve records.** A shuffle of valid settings over its own channels succeeds if it
may wait for buffers as long as it takes, has one for each channel, and there is memory for them.
And whenever it succeeds, the counts agree. -/
theorem conserves_records (hvalid : c.validate = .ok ()) (hown : args.channels = none)
    (hvertices : args.vertices < UInt64.size) (hreceive : surroundings.Receive) (d : Disk) :
    (c.buffer.requestTimeout = none → c.writer.channels ≤ c.buffer.poolSize →
      fitsMemory c args = true → ∃ report, (runAmong surroundings c args d).1 = .ok report) ∧
    ∀ report, (runAmong surroundings c args d).1 = .ok report → Conserved c args report := by
  have hvalid := Config.validate_eq_ok_iff.1 hvalid
  have hready {w : Producer} (hsetup : setup c args surroundings d = .ok w) : Ready c args w :=
    ⟨hvalid, hown, surroundings, d, hreceive, hsetup⟩
  constructor
  · intro htimeout hpool hfits
    have heffective : (effective c args).Valid := by rwa [effective_of_none hown]
    obtain ⟨w, hsetup⟩ := setup_of_valid heffective hfits surroundings d
    have hok := (hready hsetup).produces htimeout hpool
    have hconsumed := (hready hsetup).consumed_produced hok
    exact ⟨⟨_, _⟩, (runAmong_eq_ok_iff hsetup).2 ⟨hok, hconsumed, rfl⟩⟩
  · intro report hreport
    obtain ⟨w, hsetup⟩ := setup_of_runAmong hreport
    obtain ⟨hok, hchannels, hmetrics⟩ := (runAmong_eq_ok_iff hsetup).1 hreport
    rw [(hready hsetup).consumed_produced hok] at hchannels
    obtain ⟨channels, metrics⟩ := report
    obtain rfl := Except.ok.inj hchannels
    obtain rfl := hmetrics
    exact (hready hsetup).conserved hvertices hok

/-- Two vertices message each other for two supersteps, over two channels and with buffers of four
bytes, so that every message is cut. -/
theorem conserves_records_small :
    let c : Config := { writer := { channels := 2 }, buffer := { bufferSize := 4, poolSize := 2 } }
    let args : RunArgs := { supersteps := 2, vertices := 2, checkpointInterval := some 2 }
    ∃ report, (run c args Disk.empty).1 = .ok report ∧
      report.metrics.traffic.emitted = 8 ∧ report.metrics.traffic.unrouted = 0 ∧
      report.channels.map ChannelReport.records = [4, 4] ∧
      report.channels.map (fun r => (r.channel, r.events, r.supersteps)) =
        [(⟨0⟩, 1, 2), (⟨1⟩, 1, 2)] := by
  intro c args
  obtain ⟨hsucceeds, hconserved⟩ := conserves_records (show c.validate = .ok () by decide)
    (show args.channels = none from rfl) (by decide) Surroundings.receive_attentive Disk.empty
  obtain ⟨report, hreport⟩ := hsucceeds rfl (by decide) (by decide)
  obtain ⟨⟨emitted, filtered, _, hemitted, _, hreceived⟩, hunrouted, _, hmarks, hinTurn⟩ :=
    hconserved report hreport
  have hrecords : report.channels.map ChannelReport.records = [4, 4] :=
    (hinTurn rfl rfl).trans (by decide)
  rw [received_eq_sum, hrecords] at hreceived
  obtain rfl : emitted = 8 := (hreceived.trans (Nat.mul_one emitted)).symm
  exact ⟨report, hreport, hemitted, hunrouted, hrecords, hmarks.trans (by decide)⟩

/-- **Valid settings for which there is no memory**: the free buffers of so large a pool would take
more bytes than can be asked for, although the pool has a buffer for each channel. -/
theorem unaffordable_small :
    let c : Config := {
      writer := { channels := 2 }
      buffer := { bufferSize := 256, poolSize := 4611686018427387904 } }
    c.validate = .ok () ∧ c.buffer.requestTimeout = none ∧
      c.writer.channels ≤ c.buffer.poolSize ∧
      run c { supersteps := 1, vertices := 2 } Disk.empty = (.error .memory, Disk.empty) := by
  exact ⟨by decide, rfl, by decide, rfl⟩

end Shuffle

end Fanout
