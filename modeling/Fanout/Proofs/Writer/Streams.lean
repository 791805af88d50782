import Fanout.Proofs.Writer.Runs
import Mathlib.Data.List.Induction

/-!
# Streams

What a channel carries while its course is smooth. The unsent bytes of its lane are what is still to
come; so along a run without refused buffers the deliveries and the unsent bytes carry a script
whose frames are those that the lane accepted, and which is all that was asked for as long as
operations succeed.

* `play_run_of_succeeds` — the consumer of a channel reads what was routed there, whatever way the
  buffers were cut, and finds every mark where it was asked for.
* `bytes_run_of_taken` — while buffers are taken no byte is lost, doubled or moved, whatever
  requests for buffers fail, and a channel with bytes that wait for a buffer is fenced.
-/

namespace Fanout

/-- Nothing was offered to the partition, and it has as many subpartitions as it announces, all of
them empty. It may refuse any calls later. -/
structure Partition.Fresh (p : Partition) : Prop where
  offers_eq : p.offers = #[]
  subpartitions_eq : p.subpartitions = List.replicate p.width Subpartition.start

namespace Writer

variable {σ : Type} {s : Schema} [ChannelSelector σ s.Value] {w : Writer σ} {p : Partition}
  {c : ChannelId} {ops : List (Operation s.Value)}

/-! ## The start -/

/-- The writer was made for the partition, with any pool, selector, options and surroundings. -/
def MadeFor (w : Writer σ) (p : Partition) : Prop :=
  ∃ pool selector options now surroundings disk,
    make p pool selector options now surroundings disk = .ok w

/-- What a writer is at the start. -/
structure Start (w : Writer σ) (p : Partition) : Prop where
  partition_eq : w.outlet.partition = p
  lanes_eq : w.lanes = List.replicate p.width Serializer.start
  width_le : p.width ≤ maxChannels

theorem MadeFor.start (h : w.MadeFor p) : w.Start p := by
  obtain ⟨pool, selector, options, now, surroundings, disk, h⟩ := h
  simp only [make] at h
  split_ifs at h with hwidth
  obtain rfl := Except.ok.inj h
  exact ⟨rfl, rfl, Nat.le_of_not_lt hwidth⟩

/-- A writer can be made for as many channels as there are indices. -/
theorem make_of_widths (pool : Pool) (selector : σ) {options : WriterOptions} (now : Duration)
    (surroundings : Surroundings) (disk : Disk) (hwidth : p.width ≤ maxChannels)
    (hformer : ∀ f, options.replay = some f → f.formerWidth ≤ maxChannels) :
    ∃ w, make p pool selector options now surroundings disk = .ok w := by
  unfold make
  dsimp only
  rw [if_neg (Nat.not_lt.2 hwidth), if_neg]
  · exact ⟨_, rfl⟩
  · cases hreplay : options.replay with
    | none => exact Nat.not_lt_zero _
    | some f => exact Nat.not_lt.2 (hformer f hreplay)

namespace Start

variable (h : w.Start p)

include h

theorem length_eq : w.lanes.length = p.width := by
  rw [h.lanes_eq, List.length_replicate]

theorem length_run_eq (ops : List (Operation s.Value)) : (w.run s ops).lanes.length = p.width :=
  (length_run w ops).trans h.length_eq

theorem length_run_le (ops : List (Operation s.Value)) :
    (w.run s ops).lanes.length ≤ maxChannels := h.length_run_eq ops ▸ h.width_le

theorem lane_eq (c : ChannelId) : w.lane c = Serializer.start := by
  rw [lane, laneOf, h.lanes_eq, List.getElem?_replicate]
  split <;> rfl

theorem offersTo_eq (hp : p.offers = #[]) (c : ChannelId) : w.offersTo c = [] := by
  rw [offersTo, h.partition_eq, Partition.offersTo, hp]
  rfl

/-- At the start nothing is delivered and nothing unsent. -/
theorem carries (hp : p.offers = #[]) (c : ChannelId) :
    Carries [] (takenOf (w.offersTo c)) (w.lane c).unsent := by
  rw [h.offersTo_eq hp, h.lane_eq]
  exact .nil

end Start

/-! ## Smooth runs -/

/-- One more operation on a smooth course. -/
theorem Plays.carries {op : Operation s.Value} {script before : List (Entry (List UInt8))}
    (h : w.Plays s c op script)
    (hbefore : Carries before (takenOf (w.offersTo c)) (w.lane c).unsent)
    (hsmooth : (w.perform s op).1 = .ok () ∨
      ∀ b, ⟨c, .buffer b, false⟩ ∉ (w.perform s op).2.offersTo c) :
    Carries (before ++ script) (takenOf ((w.perform s op).2.offersTo c))
      ((w.perform s op).2.lane c).unsent := by
  have hcourse := h.course
  rcases hsmooth with hok | htaken
  · rw [hok] at hcourse
    exact hcourse.smooth_of_ok.carries hbefore
  · exact (hcourse.smooth_of_taken htaken).carries hbefore

/-- While operations succeed, the deliveries and the unsent bytes of a channel carry what was asked
for there. -/
theorem carries_run_of_succeeds (hstart : w.Start p) (hp : p.Fresh) (hc : c.toNat < p.width)
    (hops : ∀ op ∈ ops, op.AtWork) (hok : w.Succeeds s ops) :
    ∃ script, Carries script ((w.run s ops).delivered c) ((w.run s ops).lane c).unsent ∧
      Framed s (along s (fun w op => w.entries s c op) w ops) script := by
  -- from the last operation back: what was asked for is read off the writer that performs it
  induction ops using List.reverseRecOn with
  | nil => exact ⟨[], hstart.carries hp.offers_eq c, .nil⟩
  | append_singleton ops op ih =>
    obtain ⟨hok, hlast⟩ := hok.of_concat
    obtain ⟨script, hcarries, hframed⟩ :=
      ih (fun op hop => hops op (List.mem_append_left _ hop)) hok
    obtain ⟨more, hplays⟩ := plays_perform (w := w.run s ops) (c := c) (hstart.length_run_le ops)
      (by rwa [hstart.length_run_eq]) (hops op (List.mem_append_right _ List.mem_cons_self))
    have hfaithful : w.outlet.partition.Faithful p.width := by
      rw [hstart.partition_eq]
      exact .start hp.subpartitions_eq hp.offers_eq
    rw [run_concat, along_concat]
    refine ⟨script ++ more, hplays.carries hcarries (.inl hlast), ?_⟩
    exact List.rel_append hframed (hplays.framed hlast (faithful_run hfaithful ops) hc)

/-- Offers are only added while the producer is at work. -/
theorem offersTo_isPrefix (hw : w.lanes.length ≤ maxChannels) (hc : c.toNat < w.lanes.length)
    {op : Operation s.Value} (hop : op.AtWork) :
    w.offersTo c <+: (w.perform s op).2.offersTo c := by
  obtain ⟨_, hplays⟩ := plays_perform hw hc hop
  exact hplays.course.offers_isPrefix

/-- While no buffer is refused on a channel, its deliveries and unsent bytes carry the frames that
its lane accepted. -/
theorem carries_run_of_taken (hstart : w.Start p) (hp : p.offers = #[]) (hc : c.toNat < p.width)
    (hops : ∀ op ∈ ops, op.AtWork)
    (htaken : ∀ b, ⟨c, .buffer b, false⟩ ∉ (w.run s ops).offersTo c) :
    ∃ script, Carries script ((w.run s ops).delivered c) ((w.run s ops).lane c).unsent ∧
      recordsOf script = along s (fun w op => w.acceptedFrames s c op) w ops := by
  induction ops using List.reverseRecOn with
  | nil => exact ⟨[], hstart.carries hp c, rfl⟩
  | append_singleton ops op ih =>
    have hw := hstart.length_run_le ops
    have hc' : c.toNat < (w.run s ops).lanes.length := by rwa [hstart.length_run_eq]
    have hop := hops op (List.mem_append_right _ List.mem_cons_self)
    rw [run_concat] at htaken
    -- offers stay on record, so no buffer was refused earlier either
    obtain ⟨script, hcarries, hframes⟩ := ih (fun op hop => hops op (List.mem_append_left _ hop))
      fun b hb => htaken b ((offersTo_isPrefix hw hc' hop).subset hb)
    obtain ⟨more, hplays⟩ := plays_perform hw hc' hop
    rw [run_concat, along_concat]
    refine ⟨script ++ more, hplays.carries hcarries (.inr htaken), ?_⟩
    rw [recordsOf_append, hframes, hplays.frames_eq]

/-- After a flush that succeeded nothing is unsent. -/
theorem unsent_flush (hw : w.lanes.length ≤ maxChannels) (hc : c.toNat < w.lanes.length)
    (hok : w.flush.1 = .ok ()) : (w.flush.2.lane c).unsent = [] := by
  have hswept := sweptAll hw hc Lane.local_retire
  obtain ⟨lane', _, hlane, _⟩ := hswept.course [] (Lane.plays_retire c (w.lane c))
  rw [lane_of_getElem? w.flush.2 hlane]
  exact hswept.lane_of_ok (P := fun lane => lane.unsent = [])
    (Lane.unsent_retire c (w.lane c)) hok lane' hlane

/-- A last flush leaves nothing to come: the deliveries alone carry what was asked for. -/
theorem carries_flushed (hstart : w.Start p) (hp : p.Fresh) (hc : c.toNat < p.width)
    (hops : ∀ op ∈ ops, op.AtWork) (hflush : ops.getLast? = some .flush) (hok : w.Succeeds s ops) :
    ∃ script, Carries script ((w.run s ops).delivered c) [] ∧
      Framed s (along s (fun w op => w.entries s c op) w ops) script := by
  obtain ⟨script, hcarries, hframed⟩ := carries_run_of_succeeds hstart hp hc hops hok
  have hunsent : ((w.run s ops).lane c).unsent = [] := by
    obtain ⟨before, rfl⟩ := List.getLast?_eq_some_iff.1 hflush
    rw [run_concat]
    exact unsent_flush (hstart.length_run_le before) (by rwa [hstart.length_run_eq])
      hok.of_concat.2
  exact ⟨script, hunsent ▸ hcarries, hframed⟩

/-- **Stream reconstruction.** In every run of a producer at work whose operations all succeed, the
consumer of a channel that looks at its stream whenever a mark arrives reads what was asked for
there: the records that were routed to the channel and the marks, each once, in order. What it has
not read yet are records behind the last mark, and after a flush it reads these too and has nothing
left. -/
theorem play_run_of_succeeds (hmade : w.MadeFor p) (hp : p.Fresh) (hops : ∀ op ∈ ops, op.AtWork)
    (hok : w.Succeeds s ops) (hc : c.toNat < p.width) :
    ∃ (read : Playback s) (later : List s.Value),
      play s ((w.run s ops).delivered c) = some read ∧
      along s (fun w op => w.entries s c op) w ops = read.read ++ later.map .record ∧
      (ops.getLast? = some .flush →
        read.drain = some ⟨along s (fun w op => w.entries s c op) w ops, Reassembly.start⟩) := by
  have hstart := hmade.start
  obtain ⟨script, hcarries, hframed⟩ := carries_run_of_succeeds hstart hp hc hops hok
  obtain ⟨read, later, back, hplay, hread, hlater, hbytes⟩ := hcarries.play hframed
  refine ⟨read, later, hplay, hread, fun hflush => ?_⟩
  -- the last flush succeeded too, so all frames are in the stream
  obtain ⟨before, rfl⟩ := List.getLast?_eq_some_iff.1 hflush
  have hunsent : ((w.run s (before ++ [.flush])).lane c).unsent = [] := by
    rw [run_concat]
    exact unsent_flush (hstart.length_run_le before) (by rwa [hstart.length_run_eq])
      hok.of_concat.2
  rw [hunsent, List.append_nil] at hbytes
  rw [Playback.drain_of_frames hlater hbytes, hread]

/-! A small case: one channel, and two buffers of eight bytes that a consumer gives back whenever
the writer waits for one. -/

instance : DecidableEq Schema.bytes.Value := inferInstanceAs (DecidableEq (List UInt8))

def smallPartition : Partition := .make ⟨⟨"small"⟩, 1, none⟩

def smallPool : Pool := .fresh 2 8 (by decide) (by decide)

def smallWriter : Writer Broadcast where
  lanes := [Serializer.start]
  outlet := ⟨smallPool, smallPartition, .start, .unlimited, .ofSeconds 1, .attentive, 0, 0⟩
  selector := ⟨⟩
  replay := none
  backup := .make none Disk.empty
  closed := false

theorem madeFor_small : smallWriter.MadeFor smallPartition :=
  ⟨smallPool, ⟨⟩, ⟨none, none, .unlimited⟩, .ofSeconds 1, .attentive, Disk.empty, rfl⟩

/-- A record in two buffers, an event and an empty record. -/
theorem play_run_small :
    let ops : List (Operation Schema.bytes.Value) :=
      [.emit [1, 2, 3, 4, 5, 6, 7, 8, 9, 10] none, .broadcast .endOfSuperstep, .emit [] none,
        .flush]
    let asked : List (Entry Schema.bytes.Value) :=
      [.record [1, 2, 3, 4, 5, 6, 7, 8, 9, 10], .mark (.event .endOfSuperstep), .record []]
    ∃ (read : Playback .bytes) (later : List Schema.bytes.Value),
      play .bytes ((smallWriter.run .bytes ops).delivered ⟨0⟩) = some read ∧
      asked = read.read ++ later.map .record ∧ read.drain = some ⟨asked, Reassembly.start⟩ := by
  intro ops asked
  have hasked : along .bytes (fun w op => w.entries .bytes ⟨0⟩ op) smallWriter ops = asked := by
    decide +kernel
  have hok : smallWriter.Succeeds .bytes ops := by decide +kernel
  obtain ⟨read, later, hplay, hread, hflushed⟩ := play_run_of_succeeds (s := .bytes) (c := ⟨0⟩)
    madeFor_small ⟨rfl, rfl⟩ (by decide) hok (by decide)
  rw [hasked] at hread hflushed
  exact ⟨read, later, hplay, hread, hflushed rfl⟩

/-- **No byte is lost, doubled or moved** while no buffer is refused on a channel, whatever requests
for buffers fail and whatever the producer does after errors: the bytes delivered, the bytes in the
held buffer and the bytes that wait for one are the frames that the lane accepted. And a channel
with bytes that wait is fenced: what has work for its lane fails, nothing more is delivered and the
lane stays as it is. -/
theorem bytes_run_of_taken (hmade : w.MadeFor p) (hp : p.offers = #[])
    (hops : ∀ op ∈ ops, op.AtWork) (hc : c.toNat < p.width)
    (htaken : ∀ b, ⟨c, .buffer b, false⟩ ∉ (w.run s ops).offersTo c) :
    bytesOf ((w.run s ops).delivered c) ++ ((w.run s ops).lane c).held ++
        octets ((w.run s ops).lane c).pending =
      (along s (fun w op => w.acceptedFrames s c op) w ops).flatten ∧
    (octets ((w.run s ops).lane c).pending ≠ [] → ∀ op : Operation s.Value, op.AtWork →
      ((w.run s ops).Concerns s c op → ∃ e, ((w.run s ops).perform s op).1 = .error e) ∧
        ((w.run s ops).perform s op).2.delivered c = (w.run s ops).delivered c ∧
        ((w.run s ops).perform s op).2.lane c = (w.run s ops).lane c) := by
  have hstart := hmade.start
  obtain ⟨script, hcarries, hframes⟩ := carries_run_of_taken hstart hp hc hops htaken
  refine ⟨?_, fun hpending op hop => ?_⟩
  · rw [← hframes, ← hcarries.bytes_eq, Serializer.unsent, List.append_assoc]
  · have hpending : ((w.run s ops).lane c).hasPending = true :=
      Bool.of_not_eq_false fun h => hpending (Serializer.hasPending_eq_false_iff.1 h)
    obtain ⟨herror, hlane, hoffers⟩ := perform_fenced (hstart.length_run_le ops)
      (by rwa [hstart.length_run_eq]) hpending hop
    exact ⟨herror, congrArg takenOf hoffers, hlane⟩

/-- The pool is torn down when the first byte of the second frame is in a buffer. -/
theorem bytes_run_small :
    let ops : List (Operation Schema.bytes.Value) :=
      [.emit [1, 2] none, .turn .destroyPool, .emit [3, 4] none]
    let w := smallWriter.run .bytes ops
    bytesOf (w.delivered ⟨0⟩) ++ (w.lane ⟨0⟩).held ++ octets (w.lane ⟨0⟩).pending =
      [0, 0, 0, 3, 2, 1, 2, 0, 0, 0, 3, 2, 3, 4] ∧
    octets (w.lane ⟨0⟩).pending = [0, 0, 3, 2, 3, 4] ∧
    ∀ op : Operation Schema.bytes.Value, op.AtWork →
      (w.Concerns .bytes ⟨0⟩ op → ∃ e, (w.perform .bytes op).1 = .error e) ∧
        (w.perform .bytes op).2.delivered ⟨0⟩ = w.delivered ⟨0⟩ ∧
        (w.perform .bytes op).2.lane ⟨0⟩ = w.lane ⟨0⟩ := by
  intro ops w
  have hpending : octets (w.lane ⟨0⟩).pending = [0, 0, 3, 2, 3, 4] := by decide +kernel
  have htaken : ∀ o ∈ w.offersTo ⟨0⟩, o.taken = true := by decide +kernel
  have haccepted : along .bytes (fun w op => w.acceptedFrames .bytes ⟨0⟩ op) smallWriter ops =
      [[0, 0, 0, 3, 2, 1, 2], [0, 0, 0, 3, 2, 3, 4]] := by decide +kernel
  have hops : ∀ op ∈ ops, op.AtWork := by decide
  obtain ⟨hbytes, hfenced⟩ := bytes_run_of_taken (s := .bytes) (c := ⟨0⟩) madeFor_small rfl hops
    (by decide) fun b hb => Bool.false_ne_true (htaken _ hb)
  rw [haccepted] at hbytes
  exact ⟨hbytes, hpending, hfenced (by rw [hpending]; decide)⟩

end Writer

end Fanout
