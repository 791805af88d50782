import Fanout.Proofs.Writer.Streams

/-!
# Barriers

A frame whose first bytes were delivered loses the others when the writer is cleared, and when the
buffer that ends it is refused: nothing is pending then, and the channel is not fenced. What is sent
next stands inside the record. Bytes that are given up between two frames do no harm, and apart from
these two cases none are given up.

* `marks_run_of_givesUpWhole` — if bytes are given up between frames only, then whatever else fails
  no mark is delivered inside a record, and only records that were routed to a channel are read
  there.
* `mark_inside_record` — if not, a mark may well be.
-/

namespace Fanout

/-- Frames that are given up behind the deliveries leave the records of the others. -/
theorem Carries.giveUp_records {s : Schema} {script : List (Entry (List UInt8))}
    {ds : List Delivery} {toCome : List UInt8} {records : List s.Value}
    (h : Carries script ds toCome) (hframes : Frames s records (recordsOf script))
    (hwhole : WholeFrames (bytesOf ds)) :
    ∃ rest kept, Carries rest ds [] ∧ Frames s kept (recordsOf rest) ∧ kept.Sublist records := by
  obtain ⟨rest, hrest, hcarries⟩ := h.giveUp hframes.isFrame hwhole
  obtain ⟨kept, hkept, hframes⟩ := hframes.of_sublist (hrest.filterMap _)
  exact ⟨rest, kept, hcarries, hframes, hkept⟩

namespace Writer

variable {σ : Type} {s : Schema} {w w' : Writer σ} {p : Partition} {c : ChannelId}

/-! ## Intact channels -/

/-- The deliveries of a channel carry frames of records that were routed there, together with some
bytes to come. These are the unsent bytes of the lane, unless the lane is fenced. -/
structure Intact (s : Schema) (w : Writer σ) (c : ChannelId) (routed : List s.Value)
    (script : List (Entry (List UInt8))) (toCome : List UInt8) (records : List s.Value) : Prop where
  carries : Carries script (w.delivered c) toCome
  frames : Frames s records (recordsOf script)
  routed : records.Sublist routed
  unsent : toCome = (w.lane c).unsent ∨ (w.lane c).hasPending = true

namespace Intact

variable {routed records : List s.Value} {script : List (Entry (List UInt8))} {toCome : List UInt8}

/-- Nothing happens to the channel. -/
theorem of_same (h : Intact s w c routed script toCome records) (hlane : w'.lane c = w.lane c)
    (hoffers : w'.offersTo c = w.offersTo c) (more : List s.Value) :
    Intact s w' c (routed ++ more) script toCome records where
  carries := by
    show Carries script (takenOf (w'.offersTo c)) toCome
    rw [hoffers]
    exact h.carries
  frames := h.frames
  routed := h.routed.trans (List.sublist_append_left _ _)
  unsent := by
    rw [hlane]
    exact h.unsent

/-- What is to come is given up between two frames. -/
theorem giveUp (hcarries : Carries script (w'.delivered c) toCome)
    (hframes : Frames s records (recordsOf script)) (hrouted : records.Sublist routed)
    (hwhole : WholeFrames (bytesOf (w'.delivered c))) (hunsent : (w'.lane c).unsent = []) :
    ∃ script toCome records, Intact s w' c routed script toCome records := by
  obtain ⟨rest, kept, hrest, hkept, hsub⟩ := hcarries.giveUp_records hframes hwhole
  exact ⟨rest, [], kept, hrest, hkept, hsub.trans hrouted, .inl hunsent.symm⟩

/-- Clearing gives up all that is to come. -/
theorem clear (h : Intact s w c routed script toCome records)
    (hwhole : WholeFrames (bytesOf (w.delivered c))) :
    ∃ script toCome records, Intact s w.clear.2 c routed script toCome records := by
  refine giveUp h.carries h.frames h.routed hwhole ?_
  rw [lane_clear]
  rfl

end Intact

/-! ## Giving up bytes -/

variable [ChannelSelector σ s.Value] {op : Operation s.Value} {ops : List (Operation s.Value)}

section GivesUp

variable (s) (w : Writer σ) (c : ChannelId)

/-- A buffer of the channel is refused during an operation. -/
def Refuses (op : Operation s.Value) : Prop :=
  ∃ more b, (w.perform s op).2.offersTo c = w.offersTo c ++ more ∧ ⟨c, .buffer b, false⟩ ∈ more

/-- An operation gives up bytes of the channel: it clears the writer, or a buffer is refused and
nothing is pending that would fence the channel. -/
def GivesUp (op : Operation s.Value) : Prop :=
  op = .clear ∨ w.Refuses s c op ∧ ((w.perform s op).2.lane c).hasPending = false

/-- Bytes of the channel are given up between frames only: whenever some are, those that were
delivered are whole frames. -/
def GivesUpWhole (ops : List (Operation s.Value)) : Prop :=
  w.Throughout s (fun w op => w.GivesUp s c op →
    WholeFrames (bytesOf ((w.perform s op).2.delivered c))) ops

end GivesUp

/-- **An operation of a producer at work** leaves the channel intact if it gives up bytes between
frames only. -/
theorem Intact.perform {routed records : List s.Value} {script : List (Entry (List UInt8))}
    {toCome : List UInt8} (h : Intact s w c routed script toCome records) 
    (hw : w.lanes.length ≤ maxChannels) (hc : c.toNat < w.lanes.length) (hop : op.AtWork)
    (hwhole : w.GivesUp s c op → WholeFrames (bytesOf ((w.perform s op).2.delivered c))) :
    ∃ script toCome records,
      Intact s (w.perform s op).2 c (routed ++ w.routed s c op) script toCome records := by
  by_cases hfenced : (w.lane c).hasPending = true
  · obtain ⟨_, hlane, hoffers⟩ := perform_fenced hw hc hfenced hop
    exact ⟨script, toCome, records, h.of_same hlane hoffers _⟩
  · have hunsent : toCome = (w.lane c).unsent := h.unsent.resolve_right hfenced
    have hcarries := h.carries
    rw [hunsent] at hcarries
    obtain ⟨more, hplays⟩ := plays_perform hw hc hop
    obtain ⟨accepted, haccepted, hrouted⟩ := frames_acceptedFrames w c op
    have hframes : Frames s (records ++ accepted) (recordsOf (script ++ more)) := by
      rw [recordsOf_append, hplays.frames_eq]
      exact List.rel_append h.frames haccepted
    have hsub := h.routed.append hrouted
    rcases hplays.course.smooth_or_refused with
      hsmooth | ⟨earlier, b, _, hoffers, _, hbuffer, hsmooth⟩
    · exact ⟨_, _, _, hsmooth.carries hcarries, hframes, hsub, .inl rfl⟩
    · have hlost : Carries (script ++ more) ((w.perform s op).2.delivered c)
          (b.contents ++ ((w.perform s op).2.lane c).unsent) := by
        show Carries _ (takenOf ((w.perform s op).2.offersTo c)) _
        rw [hoffers, takenOf_append, takenOf_refused, List.append_nil]
        exact hsmooth.carries hcarries
      by_cases hpending : ((w.perform s op).2.lane c).hasPending = true
      · exact ⟨_, _, _, hlost, hframes, hsub, .inr hpending⟩
      · -- the refused buffer ended its frame: nothing fences the channel
        have hpending := Bool.eq_false_iff.2 hpending
        have hrefuses : w.Refuses s c op := by
          obtain ⟨news, hnews⟩ : w.offersTo c <+: earlier := hsmooth.offers_isPrefix
          refine ⟨news ++ [⟨c, .buffer b, false⟩], b, ?_, ?_⟩
          · rw [hoffers, ← hnews, List.append_assoc]
          · exact List.mem_append_right _ List.mem_cons_self
        refine Intact.giveUp hlost hframes hsub (hwhole (.inr ⟨hrefuses, hpending⟩)) ?_
        rw [Serializer.unsent_of_none hbuffer, Serializer.hasPending_eq_false_iff.1 hpending]

/-- **Along a run** that gives up bytes between frames only a channel stays intact. -/
theorem intact_run (hstart : w.Start p) (hp : p.offers = #[]) (hc : c.toNat < p.width)
    (hops : ∀ op ∈ ops, op.AtWork ∨ op = .clear) (hwhole : w.GivesUpWhole s c ops) :
    ∃ script toCome records, Intact s (w.run s ops) c
      (along s (fun w op => w.routed s c op) w ops) script toCome records := by
  induction ops using List.reverseRecOn with
  | nil => exact ⟨[], _, [], hstart.carries hp c, .nil, .slnil, .inl rfl⟩
  | append_singleton ops op ih =>
    obtain ⟨hwhole, hlast⟩ := hwhole.of_concat
    obtain ⟨script, toCome, records, h⟩ :=
      ih (fun op hop => hops op (List.mem_append_left _ hop)) hwhole
    rw [run_concat, along_concat]
    rcases hops op (List.mem_append_right _ List.mem_cons_self) with hop | rfl
    · exact h.perform (hstart.length_run_le ops) (by rwa [hstart.length_run_eq]) hop hlast
    · have hnothing : (w.run s ops).routed s c .clear = [] := rfl
      rw [hnothing, List.append_nil]
      exact h.clear (hlast (.inl rfl))

/-- **No mark inside a record and no record out of nothing.** Any requests for buffers may fail, any
buffers, events and markers may be refused, and the producer may go on after errors and after
clearing the writer. As long as bytes of a channel are given up between frames only, all that was
delivered before a mark are whole frames; and whoever reads the deliveries takes records that were
routed to the channel, in this order and no more often. -/
theorem marks_run_of_givesUpWhole (hmade : w.MadeFor p) (hp : p.offers = #[])
    (hops : ∀ op ∈ ops, op.AtWork ∨ op = .clear) (hc : c.toNat < p.width)
    (hwhole : w.GivesUpWhole s c ops) :
    (∀ (before : List Delivery) (m : Mark), before ++ [m.delivery] <+: (w.run s ops).delivered c →
      WholeFrames (bytesOf before)) ∧
    (∀ (received : List Delivery) (taken : List s.Value) (r : Reassembly),
      received <+: (w.run s ops).delivered c → Reading s received taken r →
        taken.Sublist (along s (fun w op => w.routed s c op) w ops)) := by
  obtain ⟨script, toCome, records, h⟩ := intact_run hmade.start hp hc hops hwhole
  refine ⟨fun before m hbefore => ?_, fun received taken r hreceived hreading => ?_⟩
  · exact h.carries.whole_before_mark h.frames.isFrame hbefore
  · have hstream : bytesOf received <+: (recordsOf script).flatten := by
      obtain ⟨more, hmore⟩ := hreceived
      rw [← h.carries.bytes_eq, ← hmore, bytesOf_append, List.append_assoc]
      exact List.prefix_append _ _
    -- a reader that starts between frames stays in step: what it took begins the records
    obtain ⟨later, _, _, hat⟩ := hreading.readUpTo h.frames hstream
    have htaken : taken.Sublist records := by
      rw [hat.records_eq]
      exact List.sublist_append_left taken later
    exact htaken.trans h.routed

/-- A record is cleared of which nothing was delivered, and the mark behind the next one is not
inside it. -/
theorem marks_run_small :
    let ops : List (Operation Schema.bytes.Value) :=
      [.emit [1, 2] none, .clear, .emit [3, 4] none, .broadcast .endOfSuperstep]
    let w := smallWriter.run .bytes ops
    (∀ (before : List Delivery) (m : Mark), before ++ [m.delivery] <+: w.delivered ⟨0⟩ →
      WholeFrames (bytesOf before)) ∧
    (∀ (received : List Delivery) (taken : List Schema.bytes.Value) (r : Reassembly),
      received <+: w.delivered ⟨0⟩ → Reading .bytes received taken r →
        taken.Sublist [[1, 2], [3, 4]]) := by
  intro ops w
  have hops : ∀ op ∈ ops, op.AtWork ∨ op = .clear := by simp [ops, Operation.AtWork]
  have hrouted : along .bytes (fun w op => w.routed .bytes ⟨0⟩ op) smallWriter ops =
      ([[1, 2], [3, 4]] : List Schema.bytes.Value) := by decide +kernel
  have hwhole : smallWriter.GivesUpWhole .bytes ⟨0⟩ ops := by
    have hnone {ds : List Delivery} (h : bytesOf ds = []) : WholeFrames (bytesOf ds) := h ▸ .nil
    have hframe {ds : List Delivery} (h : bytesOf ds = frameOf [2, 3, 4]) :
        WholeFrames (bytesOf ds) :=
      ⟨[frameOf [2, 3, 4]], fun f hf => ⟨[2, 3, 4], by decide, List.mem_singleton.1 hf⟩,
        h.trans List.flatten_singleton.symm⟩
    refine throughout_cons.2 ⟨fun _ => hnone (by decide +kernel), ?_⟩
    refine throughout_cons.2 ⟨fun _ => hnone (by decide +kernel), ?_⟩
    refine throughout_cons.2 ⟨fun _ => hnone (by decide +kernel), ?_⟩
    exact throughout_cons.2 ⟨fun _ => hframe (by decide +kernel), throughout_nil⟩
  have h := marks_run_of_givesUpWhole (s := .bytes) (c := ⟨0⟩) madeFor_small rfl hops (by decide)
    hwhole
  rwa [hrouted] at h

/-- **A mark inside a record.** The first bytes of a record are delivered, and the event that is
sent next stands where the others should be: they were cleared, or the buffer that held them was
refused and the producer went on. -/
theorem mark_inside_record :
    let cleared := smallWriter.run .bytes
      [.emit [1, 2, 3, 4, 5] none, .clear, .broadcast .endOfSuperstep]
    let refused := (smallWriter.failing .buffer (.window 1 1 "refused")).run .bytes
      [.emit [1, 2, 3, 4, 5] none, .flush, .broadcast .endOfSuperstep]
    ∀ w ∈ [cleared, refused],
      ∃ before, before ++ [.event .endOfSuperstep] <+: w.delivered ⟨0⟩ ∧
        ¬ WholeFrames (bytesOf before) := by
  intro cleared refused w hw
  have hinside (h : (w.delivered ⟨0⟩).take 1 ++ [.event .endOfSuperstep] <+: w.delivered ⟨0⟩)
      (hbytes : bytesOf ((w.delivered ⟨0⟩).take 1) = [0, 0, 0, 6, 5, 1, 2, 3]) :
      ∃ before, before ++ [.event .endOfSuperstep] <+: w.delivered ⟨0⟩ ∧
        ¬ WholeFrames (bytesOf before) := by
    refine ⟨_, h, fun hwhole => ?_⟩
    rw [hbytes] at hwhole
    exact absurd (hwhole.announced_le (by decide)) (by decide)
  rcases List.mem_pair.1 hw with rfl | rfl
  · exact hinside (by decide +kernel) (by decide +kernel)
  · exact hinside (by decide +kernel) (by decide +kernel)

end Writer

end Fanout
