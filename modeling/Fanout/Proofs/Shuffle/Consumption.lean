import Fanout.Proofs.Stream.Chunks
import Fanout.Proofs.Writer.Serving
import Fanout.Shuffle.Consumer

/-!
# Consumption

The consumer of a channel takes the records of each buffer as soon as it comes, so it is always as
far as it can be: what it holds is a part of one frame. Where the deliveries carry a script it meets
every mark between two records, and in the end it has counted the script (`consume_of_carries`).
When some frames are still to come it reports a cut stream, unless whole frames were delivered
(`KeepsUp.consume_eq`).
The consumers of a writer whose operations succeed count what was asked for on their channels
(`consume_run`).
-/

namespace Fanout

namespace Reassembly

variable {s : Schema} {records : List s.Value} {frames : List (List UInt8)} {r : Reassembly}
  {toCome : List UInt8}

/-- **Draining a part of some frames** gives the records whose frames are complete. -/
theorem drainRecords_of_part (h : Frames s records frames)
    (hr : octets r.pending ++ toCome = frames.flatten) :
    ∃ taken later back r', records = taken ++ later ∧ Frames s later back ∧
      octets r'.pending ++ toCome = back.flatten ∧ r.drainRecords s = (.ok taken, r') ∧
      r'.drainRecords s = (.ok [], r') := by
  induction h generalizing r with
  | nil =>
    have hnone := nextRecord_of_isPrefix (s := s) .nil ⟨toCome, hr⟩
    rcases hnone with hnone | ⟨_, _, _, _, _, hnil, _⟩
    · have hdrain : r.drainRecords s = (.ok [], r) := by rw [drainRecords_eq, hnone]
      exact ⟨[], [], [], r, rfl, .nil, hr, hdrain, hdrain⟩
    · exact nomatch hnil
  | cons hhead htail ih =>
    rcases nextRecord_of_isPrefix (.cons hhead htail) ⟨toCome, hr⟩ with
      hnone | ⟨v, later, frame, back, r', hrecords, hframes, _, hpending, hsome⟩
    · have hdrain : r.drainRecords s = (.ok [], r) := by rw [drainRecords_eq, hnone]
      exact ⟨[], _, _, r, rfl, .cons hhead htail, hr, hdrain, hdrain⟩
    · obtain ⟨rfl, rfl⟩ := List.cons.inj hrecords
      obtain ⟨rfl, rfl⟩ := List.cons.inj hframes
      rw [hpending, List.append_assoc, List.flatten_cons] at hr
      obtain ⟨taken, later, back, last, rfl, hlater, hbytes, hdrain, hsettled⟩ :=
        ih (List.append_cancel_left hr)
      refine ⟨_ :: taken, later, back, last, rfl, hlater, hbytes, ?_, hsettled⟩
      rw [drainRecords_eq, hsome]
      simp only [hdrain]
      rfl

/-- Draining takes whole frames from the front of a stream, if it does not fail. -/
theorem wholeFrames_drainRecords {taken : List s.Value} {r' : Reassembly}
    (h : r.drainRecords s = (.ok taken, r')) :
    ∃ whole, WholeFrames whole ∧ octets r.pending = whole ++ octets r'.pending := by
  fun_induction drainRecords s r generalizing taken with
  | case1 r _ =>
    obtain ⟨_, rfl⟩ := Prod.mk.inj h
    exact ⟨[], .nil, rfl⟩
  | case2 r payload rest hnext _ e _ => exact nomatch h
  | case3 r payload rest hnext _ record _ e last _ _ => exact nomatch h
  | case4 r payload rest hnext _ record _ records last hrest ih =>
    obtain ⟨_, rfl⟩ := Prod.mk.inj h
    obtain ⟨whole, hwhole, hpending⟩ := ih hrest
    obtain ⟨hfit, hfirst⟩ := nextFrame?_eq_some_iff.1 hnext
    refine ⟨frameOf (octets payload) ++ whole, hwhole.cons ⟨_, hfit, rfl⟩, ?_⟩
    rw [hfirst, hpending, List.append_assoc]

end Reassembly

namespace Mark

def isEvent : Mark → Bool
  | event _ => true
  | endOfSuperstep => false

def isEndOfSuperstep : Mark → Bool
  | endOfSuperstep => true
  | event _ => false

end Mark

/-- The report of a consumer that has read a script from some deliveries. -/
def ChannelReport.tally {α : Type} (c : ChannelId) (read : List (Entry α)) (ds : List Delivery) :
    ChannelReport where
  channel := c
  records := (recordsOf read).length
  bytes := (ds.map Delivery.size).sum
  events := (marksOf read).countP Mark.isEvent
  supersteps := (marksOf read).countP Mark.isEndOfSuperstep

namespace ChannelReport

variable {α : Type} (c : ChannelId) (read : List (Entry α)) (ds : List Delivery)

theorem tally_buffer (taken : List α) (b : Buffer) :
    tally c (read ++ taken.map .record) (ds ++ [.buffer b]) =
      { tally c read ds with
        records := (tally c read ds).records + taken.length
        bytes := (tally c read ds).bytes + b.size } := by
  simp [tally, Delivery.size]

theorem tally_event (e : Event) : tally c (read ++ [.mark (.event e)]) (ds ++ [.event e]) =
    { tally c read ds with events := (tally c read ds).events + 1 } := by
  simp [tally, Delivery.size, Mark.isEvent, Mark.isEndOfSuperstep]

theorem tally_endOfSuperstep :
    tally c (read ++ [.mark .endOfSuperstep]) (ds ++ [.endOfSuperstep]) =
      { tally c read ds with supersteps := (tally c read ds).supersteps + 1 } := by
  simp [tally, Delivery.size, Mark.isEvent, Mark.isEndOfSuperstep]

end ChannelReport

namespace Consumer

variable {s : Schema} {k : Consumer} {c : ChannelId} {ds : List Delivery}
  {read script : List (Entry s.Value)} {later : List s.Value} {toCome : List UInt8}

theorem consume_of_received (h : ds.foldlM (receive s) (start c) = .ok k) :
    consume s c ds = k.finish := by
  unfold consume
  rw [h]
  rfl

/-- A consumer has taken whole frames of what it received, and it holds the rest. -/
theorem wholeFrames_received (h : ds.foldlM (receive s) (start c) = .ok k) :
    ∃ whole, WholeFrames whole ∧ bytesOf ds = whole ++ octets k.stream.pending := by
  induction ds using List.reverseRecOn generalizing k with
  | nil =>
    obtain rfl := Except.ok.inj h
    exact ⟨[], .nil, rfl⟩
  | append_singleton ds d ih =>
    rw [List.foldlM_append] at h
    cases hbefore : ds.foldlM (receive s) (start c) with
    | error e =>
      rw [hbefore] at h
      cases h
    | ok before =>
      rw [hbefore] at h
      replace h : before.receive s d = .ok k := (bind_pure _).symm.trans h
      obtain ⟨whole, hwhole, hbytes⟩ := ih hbefore
      cases d with
      | buffer b =>
        unfold receive at h
        dsimp only at h
        split at h
        · cases h
        · rename_i records stream hdrain
          obtain rfl := Except.ok.inj h
          obtain ⟨taken, htaken, hpending⟩ := Reassembly.wholeFrames_drainRecords hdrain
          rw [Reassembly.octets_push] at hpending
          refine ⟨whole ++ taken, hwhole.append htaken, ?_⟩
          rw [bytesOf_append, bytesOf_buffer, hbytes, List.append_assoc, List.append_assoc]
          exact congrArg (whole ++ ·) hpending
      | event e =>
        obtain rfl := Except.ok.inj h
        refine ⟨whole, hwhole, ?_⟩
        rw [bytesOf_append, hbytes]
        exact List.append_nil _
      | endOfSuperstep =>
        unfold receive at h
        dsimp only at h
        split at h
        · cases h
        · obtain rfl := Except.ok.inj h
          refine ⟨whole, hwhole, ?_⟩
          rw [bytesOf_append, hbytes]
          exact List.append_nil _

/-- **A consumer that keeps up**: it has received the deliveries and read a script, it can take no
further record, and the frames of the records after the script are in its stream or still to
come. -/
structure KeepsUp (s : Schema) (k : Consumer) (c : ChannelId) (ds : List Delivery)
    (read : List (Entry s.Value)) (later : List s.Value) (toCome : List UInt8) : Prop where
  received : ds.foldlM (receive s) (start c) = .ok k
  report_eq : k.report = .tally c read ds
  settled : k.stream.drainRecords s = (.ok [], k.stream)
  behind : ∃ back, Frames s later back ∧ octets k.stream.pending ++ toCome = back.flatten

theorem keepsUp_start (c : ChannelId) : (start c).KeepsUp s c [] [] [] [] :=
  ⟨rfl, rfl, Reassembly.drainRecords_of_none rfl, [], .nil, rfl⟩

namespace KeepsUp

/-- A consumer whose stream is whole frames holds nothing: it would have taken them. -/
theorem stream_eq_start (h : k.KeepsUp s c ds read later toCome)
    (hwhole : WholeFrames (octets k.stream.pending)) : k.stream = .start := by
  obtain ⟨back, hlater, hbytes⟩ := h.behind
  obtain ⟨front, rest, rfl, hfront, _⟩ := frames_of_prefix hlater.isFrame hwhole hbytes.symm
  obtain ⟨records, _, hrecords⟩ := hlater.of_sublist (List.sublist_append_left front rest)
  have hdrain := Reassembly.drainRecords_flatten hrecords
  rw [← hfront, pack_octets, h.settled] at hdrain
  exact (Prod.mk.inj hdrain).2

/-- When nothing is to come the consumer has read everything, and holds nothing. -/
theorem finished (h : k.KeepsUp s c ds read later []) : later = [] ∧ k.stream = .start := by
  obtain ⟨back, hlater, hbytes⟩ := h.behind
  have hdrain := Reassembly.drainRecords_flatten hlater
  rw [← hbytes, List.append_nil, pack_octets, h.settled] at hdrain
  obtain ⟨hrecords, hstream⟩ := Prod.mk.inj hdrain
  exact ⟨(Except.ok.inj hrecords).symm, hstream⟩

theorem received_concat (h : k.KeepsUp s c ds read later toCome) (d : Delivery) :
    (ds ++ [d]).foldlM (receive s) (start c) = k.receive s d := by
  rw [List.foldlM_append, h.received]
  show (k.receive s d) >>= pure = k.receive s d
  exact bind_pure _

/-- The frame of one more record is to come. -/
theorem record (h : k.KeepsUp s c ds read later toCome) {v : s.Value} {frame : List UInt8}
    (hv : encodeRecord s v = .ok frame) :
    k.KeepsUp s c ds read (later ++ [v]) (toCome ++ frame) := by
  obtain ⟨back, hlater, hbytes⟩ := h.behind
  refine ⟨h.received, h.report_eq, h.settled, back ++ [frame], ?_, ?_⟩
  · exact List.rel_append hlater (.cons hv .nil)
  · rw [← List.append_assoc, hbytes, List.flatten_append, List.flatten_singleton]

/-- A buffer brings some of the records that were to come. -/
theorem buffer {b : Buffer} (h : k.KeepsUp s c ds read later (b.contents ++ toCome)) :
    ∃ (k' : Consumer) (taken later' : List s.Value), later = taken ++ later' ∧
      k'.KeepsUp s c (ds ++ [.buffer b]) (read ++ taken.map .record) later' toCome := by
  obtain ⟨back, hlater, hbytes⟩ := h.behind
  rw [← List.append_assoc] at hbytes
  have hpushed : octets (k.stream.push b.bytes).pending ++ toCome = back.flatten := by
    rw [Reassembly.octets_push]
    exact hbytes
  obtain ⟨taken, later', back', stream, rfl, hlater', hbytes', hdrain, hsettled⟩ :=
    Reassembly.drainRecords_of_part hlater hpushed
  refine ⟨⟨stream, .tally c (read ++ taken.map .record) (ds ++ [.buffer b])⟩, taken, later', rfl,
    ?_, rfl, hsettled, back', hlater', hbytes'⟩
  rw [h.received_concat, ChannelReport.tally_buffer, ← h.report_eq]
  unfold receive
  simp only [hdrain]

/-- A mark is met between two records. -/
theorem mark (h : k.KeepsUp s c ds read later []) (m : Mark) :
    ∃ k' : Consumer, k'.KeepsUp s c (ds ++ [m.delivery]) (read ++ [.mark m]) [] [] := by
  obtain ⟨_, hstream⟩ := h.finished
  have hdrain : k.stream.drainRecords s = (.ok [], k.stream) := h.settled
  refine ⟨⟨k.stream, .tally c (read ++ [.mark m]) (ds ++ [m.delivery])⟩, ?_, rfl, hdrain, [], .nil,
    ?_⟩
  · rw [h.received_concat]
    cases m with
    | event e =>
      rw [Mark.delivery, ChannelReport.tally_event, ← h.report_eq]
      rfl
    | endOfSuperstep =>
      rw [Mark.delivery, ChannelReport.tally_endOfSuperstep, ← h.report_eq]
      unfold receive
      rw [hstream]
      rfl
  · rw [hstream]
    rfl

/-- **What a consumer that keeps up reports in the end**: that its stream is cut, unless whole
frames were delivered. -/
theorem consume_eq (h : k.KeepsUp s c ds read later toCome) :
    WholeFrames (bytesOf ds) ∧ consume s c ds = .ok k.report ∨
      ¬WholeFrames (bytesOf ds) ∧ consume s c ds = .error (.streamCut c) := by
  obtain ⟨whole, hwhole, hbytes⟩ := wholeFrames_received h.received
  rw [consume_of_received h.received, finish, hbytes, h.report_eq]
  by_cases hpartial : k.stream.hasPartial = true
  · refine .inr ⟨fun hall => ?_, if_pos hpartial⟩
    rw [h.stream_eq_start (hwhole.of_append_left hall)] at hpartial
    exact nomatch hpartial
  · refine .inl ⟨?_, if_neg hpartial⟩
    have hempty : octets k.stream.pending = [] := by
      have hnone : k.stream.buffered = 0 := by simpa [Reassembly.hasPartial] using hpartial
      exact List.length_eq_zero_iff.1 ((Reassembly.length_pending _).trans hnone)
    rw [hempty, List.append_nil]
    exact hwhole

end KeepsUp

/-- **A consumer whose deliveries carry a script keeps up**: it has read the script up to some
records at its end. -/
theorem keepsUp_of_carries {frames : List (Entry (List UInt8))} (h : Carries frames ds toCome)
    (hscript : Framed s script frames) (c : ChannelId) :
    ∃ (k : Consumer) (read : List (Entry s.Value)) (later : List s.Value),
      script = read ++ later.map .record ∧ k.KeepsUp s c ds read later toCome := by
  induction h generalizing script with
  | nil =>
    obtain rfl := List.forall₂_nil_right_iff.1 hscript
    exact ⟨start c, [], [], rfl, keepsUp_start c⟩
  | record frame _ ih =>
    obtain ⟨earlier, entry, rfl, hearlier, hentry⟩ := hscript.last
    obtain ⟨k, read, later, rfl, hk⟩ := ih hearlier
    cases hentry with
    | @record v _ hv =>
      refine ⟨k, read, later ++ [v], ?_, hk.record hv⟩
      rw [List.map_append, List.append_assoc, List.map_singleton]
  | buffer b _ ih =>
    obtain ⟨k, read, later, rfl, hk⟩ := ih hscript
    obtain ⟨k', taken, later', rfl, hk'⟩ := hk.buffer
    refine ⟨k', read ++ taken.map .record, later', ?_, hk'⟩
    rw [List.map_append, List.append_assoc]
  | mark m _ ih =>
    obtain ⟨earlier, entry, rfl, hearlier, hentry⟩ := hscript.last
    obtain ⟨k, read, later, rfl, hk⟩ := ih hearlier
    cases hentry with
    | mark m =>
      obtain ⟨rfl, _⟩ := hk.finished
      obtain ⟨k', hk'⟩ := hk.mark m
      refine ⟨k', read ++ [.mark m], [], ?_, hk'⟩
      rw [List.map_nil, List.append_nil, List.append_nil]

/-- **A consumer counts the script** that its deliveries carry, and reports no cut record. -/
theorem consume_of_carries {frames : List (Entry (List UInt8))} (h : Carries frames ds [])
    (hscript : Framed s script frames) (c : ChannelId) :
    consume s c ds = .ok (.tally c script ds) := by
  obtain ⟨k, read, later, rfl, hk⟩ := keepsUp_of_carries h hscript c
  obtain ⟨rfl, hstream⟩ := hk.finished
  rw [consume_of_received hk.received, finish, hstream, hk.report_eq, List.map_nil, List.append_nil]
  rfl

end Consumer

/-- **The consumer of a channel counts what was asked for there**, when all operations succeed and
the last one is a flush. -/
theorem Writer.consume_run {σ : Type} {s : Schema} [ChannelSelector σ s.Value] {w : Writer σ}
    {p : Partition} {ops : List (Operation s.Value)} {c : ChannelId} (hmade : w.MadeFor p)
    (hp : p.Fresh) (hops : ∀ op ∈ ops, op.AtWork) (hflush : ops.getLast? = some .flush)
    (hok : w.Succeeds s ops) (hc : c.toNat < p.width) :
    Consumer.consume s c ((w.run s ops).delivered c) =
      .ok (.tally c (along s (fun w op => w.entries s c op) w ops)
        ((w.run s ops).delivered c)) := by
  obtain ⟨script, hcarries, hframed⟩ := carries_flushed hmade.start hp hc hops hflush hok
  exact Consumer.consume_of_carries hcarries hframed c

end Fanout
