import Fanout.Proofs.Shuffle.Consumption
import Fanout.Proofs.Shuffle.Setup
import Fanout.Proofs.Writer.Copies
import Fanout.Proofs.Writer.Ownership
import Fanout.Proofs.Writer.Vertices

/-!
# The job of a shuffle

What the producer of a shuffle does with its writer, written down beforehand: a list of operations
(`job`), which it performs up to the first that fails (`produce_eq`). How many messages, checkpoints
and ends of supersteps there are can be read off the job, and that its supersteps follow one another
(`supersteps_job`).

* `produce_deals` — what the producer deals with the pool, and when it comes to its end.
* `runAmong_eq_ok_iff` — a shuffle succeeds if its producer and its consumers do.
-/

namespace Fanout

/-- The operations that send something. -/
def Operation.Sends {α : Type} : Operation α → Prop
  | emit _ _ | broadcast _ | endSuperstep => True
  | flush | close | clear | drop | turn _ => False

theorem Operation.Sends.atWork {α : Type} {op : Operation α} (h : op.Sends) : op.AtWork := by
  cases op with
  | emit _ _ | broadcast _ | endSuperstep => trivial
  | flush | close | clear | drop | turn _ => exact h.elim

namespace Shuffle

/-- The messages of a vertex to its neighbours. -/
def messages (step : Superstep) (vertices vertex : UInt64) : List (Operation record.Value) :=
  ((neighbours vertex vertices).map wordValue).map fun target =>
    .emit (⟨target, wordValue (vertex ^^^ step.round.toUInt64)⟩ : Message word.Value word.Value)
      (some step)

/-- They go along the edges to the neighbours. -/
theorem messages_eq (step : Superstep) (vertices vertex : UInt64) :
    messages step vertices vertex =
      MessagingContext.messages (k := word) (m := word) (some step)
        (wordValue (vertex ^^^ step.round.toUInt64))
        (((neighbours vertex vertices).map wordValue).map Edge.to) := by
  rw [MessagingContext.messages, List.map_map]
  rfl

/-- The messages of the last `n` vertices. -/
def allMessages (step : Superstep) (vertices : UInt64) : (n : Nat) → List (Operation record.Value)
  | 0 => []
  | n + 1 => messages step vertices (vertices - UInt64.ofNat (n + 1)) ++ allMessages step vertices n

/-- The end of superstep `n`: the barrier if there is to be one, and the markers. -/
def barriers (args : RunArgs) (n : Nat) : List (Operation record.Value) :=
  (if isCheckpoint args.checkpointInterval n then
    [.broadcast (.barrier (UInt64.ofNat n) (some ⟨UInt32.ofNat n⟩))] else []) ++ [.endSuperstep]

/-- The last `n` supersteps. -/
def job (args : RunArgs) : (n : Nat) → List (Operation record.Value)
  | 0 => []
  | n + 1 =>
    let k := args.supersteps - (n + 1)
    allMessages ⟨UInt32.ofNat k⟩ (UInt64.ofNat args.vertices) args.vertices ++ barriers args k ++
      job args n

theorem sends_allMessages (step : Superstep) (vertices : UInt64) (n : Nat) :
    ∀ op ∈ allMessages step vertices n, op.Sends := by
  induction n with
  | zero => exact List.forall_mem_nil _
  | succ n ih =>
    refine List.forall_mem_append.2 ⟨fun op hop => ?_, ih⟩
    obtain ⟨_, _, rfl⟩ := List.mem_map.1 hop
    trivial

theorem sends_barriers (args : RunArgs) (n : Nat) : ∀ op ∈ barriers args n, op.Sends := by
  refine List.forall_mem_append.2 ⟨?_, List.forall_mem_singleton.2 trivial⟩
  split
  · exact List.forall_mem_singleton.2 trivial
  · exact List.forall_mem_nil _

theorem sends_job (args : RunArgs) (n : Nat) : ∀ op ∈ job args n, op.Sends := by
  induction n with
  | zero => exact List.forall_mem_nil _
  | succ n ih =>
    refine List.forall_mem_append.2 ⟨List.forall_mem_append.2 ⟨?_, ?_⟩, ih⟩
    · exact sends_allMessages _ _ _
    · exact sends_barriers _ _

/-! ## The producer -/

theorem sendMessages_eq (w : Producer) (step : Superstep) (vertices vertex : UInt64) :
    sendMessages w step vertices vertex = w.performAll record (messages step vertices vertex) := by
  unfold sendMessages MessagingContext.sendAll Vertex.start MessagingContext.start
    MessagingContext.takeEdges
  dsimp only
  rw [MessagingContext.sendEach_eq, messages_eq]
  dsimp only
  rcases w.performAll record (MessagingContext.messages (k := word) (m := word) _ _ _) with
    ⟨_ | _, w'⟩
  · rfl
  · rfl

theorem sendAllMessages_eq (w : Producer) (step : Superstep) (vertices : UInt64) (n : Nat) :
    sendAllMessages w step vertices n = w.performAll record (allMessages step vertices n) := by
  induction n generalizing w with
  | zero => rfl
  | succ n ih =>
    rw [allMessages, Writer.performAll_append, ← sendMessages_eq, sendAllMessages]
    rcases sendMessages w step vertices (vertices - UInt64.ofNat (n + 1)) with ⟨_ | _, w'⟩
    · rfl
    · exact ih w'

theorem superstep_eq (w : Producer) (args : RunArgs) (n : Nat) :
    superstep w args n = w.performAll record
      (allMessages ⟨UInt32.ofNat n⟩ (UInt64.ofNat args.vertices) args.vertices ++
        barriers args n) := by
  rw [Writer.performAll_append, ← sendAllMessages_eq, superstep]
  dsimp only
  rcases sendAllMessages w _ _ _ with ⟨_ | _, w'⟩
  · rfl
  · dsimp only
    rw [barriers, Writer.performAll_append]
    by_cases hcheckpoint : isCheckpoint args.checkpointInterval n = true
    · rw [if_pos hcheckpoint, if_pos hcheckpoint, Writer.performAll_singleton]
      unfold Writer.perform
      dsimp only
      rcases w'.broadcast _ with ⟨_ | _, w''⟩
      · rfl
      · exact (Writer.performAll_singleton w'' .endSuperstep).symm
    · rw [if_neg hcheckpoint, if_neg hcheckpoint]
      exact (Writer.performAll_singleton w' .endSuperstep).symm

/-- **The producer** performs its job and closes the writer, up to the first failure. -/
theorem produce_eq (w : Producer) (args : RunArgs) (n : Nat) :
    produce w args n = w.performAll record (job args n ++ [.close]) := by
  induction n generalizing w with
  | zero => exact (Writer.performAll_singleton w .close).symm
  | succ n ih =>
    rw [job, List.append_assoc, Writer.performAll_append, ← superstep_eq, produce]
    rcases superstep w args _ with ⟨_ | _, w'⟩
    · rfl
    · exact ih w'

/-! ## What the producer deals -/

section Dealings

variable {c : Config} {args : RunArgs} {surroundings : Surroundings} {d : Disk} {w : Producer}

/-- At the start no buffer of the configured pool is in use. -/
theorem balanced_setup (hsetup : setup c args surroundings d = .ok w)
    (hspare : surroundings.Spare) :
    w.outlet.Balanced c.buffer.poolSize (some false) 0 := by
  obtain ⟨pool, hmakePool, hmade⟩ := setup_made hsetup
  have hbalanced : w.Balanced c.buffer.poolSize (some false) :=
    Writer.balanced_make hmakePool (fun sub hsub => by
      rw [List.eq_of_mem_replicate hsub]
      exact ⟨rfl, rfl⟩) hmade (by simp) fun _ => hspare
  have hholding : Lane.holding w.lanes = 0 := by
    rw [(madeWith_setup hsetup).madeFor.start.lanes_eq, Lane.holding_start]
  exact hholding ▸ hbalanced

/-- At the start nothing was sent, and the partition takes whatever it is sent while its consumers
stay. -/
theorem served_setup (hsetup : setup c args surroundings d = .ok w) (hstay : surroundings.Stay) :
    w.outlet.Served (width c args) := by
  obtain ⟨pool, _, hmade⟩ := setup_made hsetup
  have hopen := Partition.open_make (madeWith_setup hsetup).madeFor.start.width_le
  rw [Writer.outlet_make hmade]
  refine ⟨hopen, hstay, ?_⟩
  show 0 = UInt64.ofNat ((List.replicate _ Subpartition.start).map Subpartition.volume).sum
  rw [List.map_replicate, List.sum_replicate]
  rfl

/-- The producer deals with as many lanes as there are channels. If nothing of that fails, and all
operations of its job are fit, then it comes to the end of its job. -/
theorem produce_deals (hsetup : setup c args surroundings d = .ok w) :
    let produced := produce w args args.supersteps
    ∃ asks smooth,
      w.outlet.Deals (width c args) 0 asks smooth (Lane.holding produced.2.lanes)
        produced.2.outlet ∧
      (smooth = true → w.Throughout record (fun w op => w.closed = false ∧ w.Fit record op)
        (job args args.supersteps ++ [.close]) → produced.1 = .ok ()) := by
  intro produced
  have hstart := (madeWith_setup hsetup).madeFor.start
  have hwidth : w.lanes.length = width c args := hstart.length_eq
  have hsettled : Lane.Settled w.lanes := hstart.lanes_eq ▸ Lane.settled_start _
  have hholding : Lane.holding w.lanes = 0 := by
    rw [hstart.lanes_eq, Lane.holding_start]
  have hops : ∀ op ∈ job args args.supersteps ++ [.close], ∀ t, op ≠ .turn t := by
    refine List.forall_mem_append.2 ⟨fun op hop t hturn => ?_, ?_⟩
    · exact absurd (sends_job args _ op hop) (hturn ▸ id)
    · exact List.forall_mem_singleton.2 fun t hturn => nomatch hturn
  obtain ⟨asks, smooth, hdeals, hok⟩ := Writer.performAll_deals hwidth.le hops
  rw [← produce_eq, hholding] at hdeals
  rw [← produce_eq] at hok
  exact ⟨asks, smooth, hdeals, fun hsmooth => hok hsmooth hsettled⟩

end Dealings

/-! ## Shuffles -/

section Shuffles

variable {c : Config} {args : RunArgs} {surroundings : Surroundings} {d : Disk} {w : Producer}
  {report : RunReport}

/-- A shuffle that was not set up leaves the disk as it is. -/
theorem runAmong_of_refused {e : ShuffleError} (h : setup c args surroundings d = .error e) :
    runAmong surroundings c args d = (.error e, d) := by
  unfold runAmong
  rw [h]

theorem setup_of_runAmong (h : (runAmong surroundings c args d).1 = .ok report) :
    ∃ w, setup c args surroundings d = .ok w := by
  cases hsetup : setup c args surroundings d with
  | ok w => exact ⟨w, rfl⟩
  | error e =>
    rw [runAmong_of_refused hsetup] at h
    exact nomatch h

/-- A shuffle that was set up succeeds if its producer and all its consumers do. -/
theorem runAmong_eq_ok_iff (hsetup : setup c args surroundings d = .ok w) :
    (runAmong surroundings c args d).1 = .ok report ↔
      (produce w args args.supersteps).1 = .ok () ∧
      consumeAll (produce w args args.supersteps).2.outlet.partition = .ok report.channels ∧
      (produce w args args.supersteps).2.metrics = report.metrics := by
  unfold runAmong
  rw [hsetup]
  dsimp only
  rcases produce w args args.supersteps with ⟨e | ⟨⟩, last⟩
  · constructor
    · intro h
      split at h
      · exact nomatch h
      · exact nomatch h
      · exact nomatch h
      · rename_i hproduced _
        exact nomatch hproduced
    · exact fun h => nomatch h.1
  · dsimp only
    rcases consumeAll last.outlet.partition with e | channels
    · exact ⟨fun h => (nomatch h), fun h => (nomatch h.2.1)⟩
    · constructor
      · intro h
        obtain rfl := Except.ok.inj h
        exact ⟨rfl, rfl, rfl⟩
      · rintro ⟨_, hchannels, hmetrics⟩
        rw [Except.ok.inj hchannels, hmetrics]

/-- Whatever a shuffle reports, its log is closed when its writer is given up. -/
theorem runAmong_snd (hsetup : setup c args surroundings d = .ok w) :
    (runAmong surroundings c args d).2 = (produce w args args.supersteps).2.drop.backup.disk := by
  unfold runAmong
  rw [hsetup]
  dsimp only
  rcases produce w args args.supersteps with ⟨produced, last⟩
  split <;> rfl

/-- A shuffle that reports something was set up. -/
theorem exists_setup (hreport : (runAmong surroundings c args d).1 = .ok report) :
    ∃ w, setup c args surroundings d = .ok w := by
  cases hsetup : setup c args surroundings d with
  | ok w => exact ⟨w, rfl⟩
  | error e =>
    unfold runAmong at hreport
    rw [hsetup] at hreport
    exact nomatch hreport

end Shuffles

/-! ## What a job comes to -/

/-- How many messages a job has. -/
def messageCount (args : RunArgs) : Nat :=
  args.supersteps * if args.vertices ≤ 1 then args.vertices else 2 * args.vertices

/-- How many checkpoints there are in the first supersteps. -/
def checkpoints (interval : Option Nat) (supersteps : Nat) : Nat :=
  match interval with
  | none => 0
  | some every => supersteps / every

theorem length_neighbours (vertex vertices : UInt64) :
    (neighbours vertex vertices).length = if vertices ≤ 1 then 1 else 2 := by
  unfold neighbours
  split <;> rfl

theorem emissions_messages (step : Superstep) (vertices vertex : UInt64) :
    ((messages step vertices vertex).filterMap Operation.emission?).length =
      if vertices ≤ 1 then 1 else 2 := by
  rw [← length_neighbours vertex, messages, List.filterMap_map, List.length_filterMap_eq_countP]
  simp [Operation.emission?, Function.comp_def]

theorem emissions_allMessages (step : Superstep) (vertices : UInt64) (n : Nat) :
    ((allMessages step vertices n).filterMap Operation.emission?).length =
      n * if vertices ≤ 1 then 1 else 2 := by
  induction n with
  | zero => exact (Nat.zero_mul _).symm
  | succ n ih =>
    rw [allMessages, List.filterMap_append, List.length_append, ih, emissions_messages,
      Nat.succ_mul, Nat.add_comm]

theorem emissions_barriers (args : RunArgs) (n : Nat) :
    (barriers args n).filterMap Operation.emission? = [] := by
  unfold barriers
  split <;> rfl

/-- The number of vertices fits the numbers by which they are told apart. -/
theorem emissions_job {args : RunArgs} (hvertices : args.vertices < UInt64.size) (n : Nat) :
    ((job args n).filterMap Operation.emission?).length =
      n * if args.vertices ≤ 1 then args.vertices else 2 * args.vertices := by
  have hfew : UInt64.ofNat args.vertices ≤ 1 ↔ args.vertices ≤ 1 := by
    rw [UInt64.le_iff_toNat_le, UInt64.toNat_ofNat_of_lt' hvertices]
    rfl
  induction n with
  | zero => exact (Nat.zero_mul _).symm
  | succ n ih =>
    rw [job, List.filterMap_append, List.filterMap_append, emissions_barriers, List.append_nil,
      List.length_append, ih, emissions_allMessages, Nat.add_mul n, Nat.add_comm]
    simp only [hfew]
    split <;> omega

/-- The messages of a superstep are sent in it. -/
theorem superstep_allMessages {step : Superstep} {vertices : UInt64} {n : Nat}
    {op : Operation record.Value} (hop : op ∈ allMessages step vertices n) :
    op.superstep? = some step := by
  induction n with
  | zero => exact nomatch hop
  | succ n ih =>
    rcases List.mem_append.1 hop with hop | hop
    · obtain ⟨_, _, rfl⟩ := List.mem_map.1 hop
      rfl
    · exact ih hop

theorem supersteps_barriers (args : RunArgs) (n : Nat) :
    (barriers args n).filterMap Operation.superstep? = [] := by
  unfold barriers
  split <;> rfl

/-- **The supersteps of a job follow one another**, as long as there are numbers for them. -/
theorem supersteps_job {args : RunArgs} (hsteps : args.supersteps ≤ UInt32.size) {n : Nat}
    (hn : n ≤ args.supersteps) :
    ((job args n).filterMap Operation.superstep?).Pairwise (· ≤ ·) ∧
      ∀ step ∈ (job args n).filterMap Operation.superstep?,
        args.supersteps - n ≤ step.toNat := by
  induction n with
  | zero => exact ⟨.nil, fun step hstep => nomatch hstep⟩
  | succ n ih =>
    obtain ⟨hpairwise, hlater⟩ := ih (Nat.le_of_succ_le hn)
    have hround : (⟨UInt32.ofNat (args.supersteps - (n + 1))⟩ : Superstep).toNat =
        args.supersteps - (n + 1) := UInt32.toNat_ofNat_of_lt' (by omega)
    have hfirst {step : Superstep} (hstep : step ∈ (allMessages
        ⟨UInt32.ofNat (args.supersteps - (n + 1))⟩ (UInt64.ofNat args.vertices)
          args.vertices).filterMap Operation.superstep?) :
        step.toNat = args.supersteps - (n + 1) := by
      obtain ⟨op, hop, hstep⟩ := List.mem_filterMap.1 hstep
      rw [superstep_allMessages hop] at hstep
      rw [← Option.some.inj hstep, hround]
    rw [job, List.filterMap_append, List.filterMap_append, supersteps_barriers, List.append_nil]
    constructor
    · refine List.pairwise_append.2 ⟨?_, hpairwise, fun a ha b hb => ?_⟩
      · refine List.pairwise_of_forall_mem_list fun a ha b hb => ?_
        exact Nat.le_of_eq ((hfirst ha).trans (hfirst hb).symm)
      · have hless := hlater b hb
        have hround := hfirst ha
        show a.toNat ≤ b.toNat
        omega
    · intro step hstep
      rcases List.mem_append.1 hstep with hstep | hstep
      · exact Nat.le_of_eq (hfirst hstep).symm
      · have hless := hlater step hstep
        omega

theorem marks_allMessages (step : Superstep) (vertices : UInt64) (n : Nat) :
    (allMessages step vertices n).filterMap Operation.mark? = [] := by
  refine List.filterMap_eq_nil_iff.2 fun op hop => ?_
  induction n with
  | zero => exact nomatch hop
  | succ n ih =>
    rcases List.mem_append.1 hop with hop | hop
    · obtain ⟨_, _, rfl⟩ := List.mem_map.1 hop
      rfl
    · exact ih hop

theorem marks_job (args : RunArgs) (n : Nat) :
    (job args (n + 1)).filterMap Operation.mark? =
      (barriers args (args.supersteps - (n + 1))).filterMap Operation.mark? ++
        (job args n).filterMap Operation.mark? := by
  rw [job, List.filterMap_append, List.filterMap_append, marks_allMessages]
  rfl

/-- Every superstep is ended once. -/
theorem ends_job (args : RunArgs) (n : Nat) :
    ((job args n).filterMap Operation.mark?).countP Mark.isEndOfSuperstep = n := by
  induction n with
  | zero => rfl
  | succ n ih =>
    have hone : ((barriers args (args.supersteps - (n + 1))).filterMap Operation.mark?).countP
        Mark.isEndOfSuperstep = 1 := by
      unfold barriers
      split <;> rfl
    rw [marks_job, List.countP_append, ih, hone, Nat.add_comm]

theorem checkpoints_succ (interval : Option Nat) (n : Nat) :
    checkpoints interval (n + 1) =
      checkpoints interval n + if isCheckpoint interval n then 1 else 0 := by
  cases interval with
  | none => rfl
  | some every =>
    simp only [checkpoints, isCheckpoint, Nat.succ_div, Nat.dvd_iff_mod_eq_zero]
    rcases Nat.eq_zero_or_pos every with rfl | hpos
    · simp
    · simp [hpos]

/-- A checkpoint follows every so many supersteps. -/
theorem events_job (args : RunArgs) {n : Nat} (hn : n ≤ args.supersteps) :
    ((job args n).filterMap Operation.mark?).countP Mark.isEvent +
        checkpoints args.checkpointInterval (args.supersteps - n) =
      checkpoints args.checkpointInterval args.supersteps := by
  induction n with
  | zero => exact Nat.zero_add _
  | succ n ih =>
    have hcheckpoint : ((barriers args (args.supersteps - (n + 1))).filterMap
        Operation.mark?).countP Mark.isEvent =
          if isCheckpoint args.checkpointInterval (args.supersteps - (n + 1)) then 1 else 0 := by
      unfold barriers
      split <;> rfl
    have hnext := checkpoints_succ args.checkpointInterval (args.supersteps - (n + 1))
    rw [show args.supersteps - (n + 1) + 1 = args.supersteps - n by omega] at hnext
    rw [marks_job, List.countP_append, hcheckpoint, ← ih (Nat.le_of_succ_le hn), hnext]
    omega

end Shuffle

end Fanout
