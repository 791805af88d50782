import Fanout.Proofs.Writer.Streams

/-!
# Aborts

A producer that aborts after the first error only flushes, clears, closes or drops its writer. A
buffer that was refused is not sent again and nothing follows it, and clearing loses the last bytes
that were accepted; so what was delivered on a channel is a beginning of what was accepted there.
The same holds when the producer aborts without an error, from the moment at which it gives up
bytes.

* `bytes_isPrefix_run_of_abandons` — the bytes of such a run, and its refused buffers.
* `not_isPrefix_after_clear` — bytes that are cleared are missing if the producer goes on.
-/

namespace Fanout

/-- The operations that give up what the lanes hold. -/
def Operation.Discards {α : Type} : Operation α → Prop
  | .clear | .drop => True
  | _ => False

instance {α : Type} : DecidablePred (Operation.Discards (α := α))
  | .clear | .drop => .isTrue trivial
  | .emit _ _ | .broadcast _ | .endSuperstep | .flush | .close | .turn _ => .isFalse id

namespace Writer

variable {σ : Type} {s : Schema} [ChannelSelector σ s.Value] {w : Writer σ} {p : Partition}
  {c : ChannelId} {op : Operation s.Value} {ops : List (Operation s.Value)}

section Abandons

variable (s) (c : ChannelId)

/-- The producer's work on a channel ends with an operation that fails, or that gives up bytes which
the channel's lane accepted. -/
def EndsWork (w : Writer σ) (op : Operation s.Value) : Prop :=
  (w.perform s op).1 ≠ .ok () ∨ op.Discards ∧ (w.lane c).unsent ≠ []

/-- Once its work has ended the producer adds nothing. -/
def Abandons : Writer σ → List (Operation s.Value) → Prop
  | _, [] => True
  | w, op :: later =>
    (w.EndsWork s c op → ∀ op' ∈ later, op'.Teardown) ∧ Abandons (w.perform s op).2 later

instance (w : Writer σ) (op : Operation s.Value) : Decidable (EndsWork s c w op) :=
  inferInstanceAs (Decidable (_ ∨ _))

instance decidableAbandons (w : Writer σ) :
    (ops : List (Operation s.Value)) → Decidable (Abandons s c w ops)
  | [] => .isTrue trivial
  | op :: later =>
    have := decidableAbandons (w.perform s op).2 later
    inferInstanceAs (Decidable (_ ∧ _))

end Abandons

/-! ## The invariants -/

/-- The producer is at work on the channel: no buffer was refused, and the deliveries and the unsent
bytes carry the frames that were accepted. -/
structure Busy (w : Writer σ) (c : ChannelId) (accepted : List (List UInt8))
    (script : List (Entry (List UInt8))) : Prop where
  carries : Carries script (w.delivered c) (w.lane c).unsent
  frames_eq : recordsOf script = accepted
  taken : ∀ b, ⟨c, .buffer b, false⟩ ∉ w.offersTo c

/-- What was delivered is a beginning of what was accepted, and a refused buffer was the last offer
of all. -/
structure Unbroken (w : Writer σ) (c : ChannelId) (accepted : List (List UInt8)) : Prop where
  bytes_isPrefix : bytesOf (w.delivered c) <+: accepted.flatten
  refused_last (before : List Offer) (b : Buffer) (after : List Offer) :
    w.offersTo c = before ++ ⟨c, .buffer b, false⟩ :: after → after = []

section Invariants

variable {accepted : List (List UInt8)} {script : List (Entry (List UInt8))} {w' : Writer σ}

theorem Unbroken.of_same (h : w.Unbroken c accepted) (hoffers : w'.offersTo c = w.offersTo c) :
    w'.Unbroken c accepted where
  bytes_isPrefix := by
    show bytesOf (takenOf (w'.offersTo c)) <+: _
    rw [hoffers]
    exact h.bytes_isPrefix
  refused_last := by
    rw [hoffers]
    exact h.refused_last

/-- Whatever is to come may be lost at the end. -/
theorem Unbroken.of_carries {toCome : List UInt8} (h : Carries script (w.delivered c) toCome)
    (hframes : recordsOf script = accepted)
    (htaken : ∀ b, ⟨c, .buffer b, false⟩ ∉ w.offersTo c) : w.Unbroken c accepted where
  bytes_isPrefix := by
    rw [← hframes, ← h.bytes_eq]
    exact List.prefix_append _ _
  refused_last before b after hoffers := by
    refine absurd ?_ (htaken b)
    rw [hoffers]
    exact List.mem_append_right _ List.mem_cons_self

/-- The same with a refused buffer behind everything else. -/
theorem Unbroken.of_refused {earlier : List Offer} {b : Buffer} {toCome : List UInt8}
    (hoffers : w.offersTo c = earlier ++ [⟨c, .buffer b, false⟩])
    (htaken : ∀ b, ⟨c, .buffer b, false⟩ ∉ earlier) (h : Carries script (takenOf earlier) toCome)
    (hframes : recordsOf script = accepted) : w.Unbroken c accepted where
  bytes_isPrefix := by
    show bytesOf (takenOf (w.offersTo c)) <+: _
    rw [hoffers, takenOf_append, takenOf_refused, List.append_nil, ← hframes, ← h.bytes_eq]
    exact List.prefix_append _ _
  refused_last before b' after hsplit := by
    rcases List.eq_nil_or_concat after with rfl | ⟨after, last, rfl⟩
    · rfl
    · -- the refused buffer would be among the earlier offers
      rw [hoffers, List.concat_eq_append, ← List.cons_append, ← List.append_assoc] at hsplit
      refine absurd ?_ (htaken b')
      rw [(List.append_inj' hsplit rfl).1]
      exact List.mem_append_right _ List.mem_cons_self

theorem Busy.unbroken (h : w.Busy c accepted script) : w.Unbroken c accepted :=
  .of_carries h.carries h.frames_eq h.taken

/-! ## Teardown -/

/-- Closing an open writer flushes its lanes and leaves them empty. -/
theorem perform_close (hopen : w.closed = false) :
    (w.perform s .close).1 = { w with closed := true }.flush.1 ∧
      (w.perform s .close).2.offersTo c = { w with closed := true }.flush.2.offersTo c ∧
      (w.perform s .close).2.lane c = Serializer.start := by
  have hclose : w.perform s .close = _ := close_eq hopen
  rw [hclose]
  exact ⟨rfl, offersTo_clear w.flush.2 c, lane_clear w.flush.2 c⟩

/-- **A producer that aborts** sends nothing on a channel whose lane has no buffer. -/
theorem Unbroken.teardown (hw : w.lanes.length ≤ maxChannels) (hc : c.toNat < w.lanes.length)
    (h : w.Unbroken c accepted) (hbuffer : (w.lane c).buffer = none) (hop : op.Teardown) :
    (w.perform s op).2.Unbroken c accepted ∧ ((w.perform s op).2.lane c).buffer = none := by
  have hcleared (w' : Writer σ) : (w'.clear.2.lane c).buffer = none := by
    rw [lane_clear]
    rfl
  cases op with
  | flush =>
    obtain ⟨hlane, hoffers⟩ := flush_of_none hw hc hbuffer
    exact ⟨h.of_same hoffers, (congrArg Serializer.buffer hlane).trans hbuffer⟩
  | close =>
    by_cases hclosed : w.closed = true
    · have hclose : w.perform s .close = (.ok (), w) := if_pos hclosed
      rw [hclose]
      exact ⟨h, hbuffer⟩
    · obtain ⟨_, hoffers, hlane⟩ := perform_close (s := s) (c := c) (Bool.eq_false_iff.2 hclosed)
      have hflush := flush_of_none (w := { w with closed := true }) hw hc hbuffer
      refine ⟨h.of_same (hoffers.trans hflush.2), ?_⟩
      rw [hlane]
      rfl
  | clear => exact ⟨h.of_same (offersTo_clear w c), hcleared w⟩
  | drop => exact ⟨h.of_same (offersTo_clear w c), hcleared w⟩
  | turn t => exact ⟨h.of_same (Partition.offersTo_congr (w.outlet.offers_turn t) c), hbuffer⟩
  | emit _ _ | broadcast _ | endSuperstep => exact nomatch hop

theorem acceptedFrames_teardown (w : Writer σ) (c : ChannelId) (hop : op.Teardown) :
    w.acceptedFrames s c op = [] := by
  cases op with
  | flush | close | clear | drop | turn _ => rfl
  | emit _ _ | broadcast _ | endSuperstep => exact nomatch hop

theorem Unbroken.run_teardown (hw : w.lanes.length ≤ maxChannels) (hc : c.toNat < w.lanes.length)
    (h : w.Unbroken c accepted) (hbuffer : (w.lane c).buffer = none)
    (hops : ∀ op ∈ ops, op.Teardown) :
    (w.run s ops).Unbroken c (accepted ++ along s (fun w op => w.acceptedFrames s c op) w ops) := by
  induction ops generalizing w with
  | nil => rwa [along, List.append_nil]
  | cons op ops ih =>
    have hop := hops op List.mem_cons_self
    obtain ⟨h, hbuffer⟩ := h.teardown hw hc hbuffer hop
    rw [along, acceptedFrames_teardown w c hop]
    exact ih (by rwa [length_perform]) (by rwa [length_perform]) h hbuffer
      fun op hop => hops op (List.mem_cons_of_mem _ hop)

/-! ## Work and its end -/

/-- What one operation comes to for a busy channel. -/
inductive Onward (s : Schema) [ChannelSelector σ s.Value] (w : Writer σ) (c : ChannelId)
    (op : Operation s.Value) (accepted : List (List UInt8)) : Prop where
  | busy {script : List (Entry (List UInt8))} :
    (w.perform s op).2.Busy c (accepted ++ w.acceptedFrames s c op) script →
    Onward s w c op accepted
  | ended : w.EndsWork s c op →
    (w.perform s op).2.Unbroken c (accepted ++ w.acceptedFrames s c op) →
    ((w.perform s op).2.lane c).buffer = none → Onward s w c op accepted

theorem Busy.work (hw : w.lanes.length ≤ maxChannels) (hc : c.toNat < w.lanes.length)
    (h : w.Busy c accepted script) (hop : op.AtWork) : Onward s w c op accepted := by
  obtain ⟨more, hplays⟩ := plays_perform hw hc hop
  have hframes : recordsOf (script ++ more) = accepted ++ w.acceptedFrames s c op := by
    rw [recordsOf_append, h.frames_eq, hplays.frames_eq]
  rcases hplays.course.smooth_or_refused with
    hsmooth | ⟨earlier, b, e, hoffers, herror, hbuffer, hsmooth⟩
  · exact .busy ⟨hsmooth.carries h.carries, hframes, hsmooth.taken h.taken⟩
  · refine .ended (.inl ?_) ?_ hbuffer
    · rw [herror]
      exact fun h => nomatch h
    · exact .of_refused hoffers (hsmooth.taken h.taken) (hsmooth.carries h.carries) hframes

/-- A lane that had nothing unsent is cleared. -/
theorem Busy.of_cleared (h : w.Busy c accepted script) (hunsent : (w.lane c).unsent = [])
    (hoffers : w'.offersTo c = w.offersTo c) (hlane : w'.lane c = Serializer.start) :
    w'.Busy c accepted script where
  carries := by
    have hcarries := h.carries
    rw [hunsent] at hcarries
    show Carries script (takenOf (w'.offersTo c)) (w'.lane c).unsent
    rw [hoffers, hlane]
    exact hcarries
  frames_eq := h.frames_eq
  taken := by
    rw [hoffers]
    exact h.taken

theorem Busy.discard (h : w.Busy c accepted script) (hdiscards : op.Discards)
    (hnothing : w.acceptedFrames s c op = [])
    (hoffers : (w.perform s op).2.offersTo c = w.offersTo c)
    (hlane : (w.perform s op).2.lane c = Serializer.start) : Onward s w c op accepted := by
  rw [← List.append_nil accepted, ← hnothing] at h
  by_cases hunsent : (w.lane c).unsent = []
  · exact .busy (h.of_cleared hunsent hoffers hlane)
  · refine .ended (.inr ⟨hdiscards, hunsent⟩) (h.unbroken.of_same hoffers) ?_
    rw [hlane]
    rfl

/-- Closing is like flushing: what could not be flushed is lost and the close fails. -/
theorem Busy.close (hw : w.lanes.length ≤ maxChannels) (hc : c.toNat < w.lanes.length)
    (h : w.Busy c accepted script) : Onward s w c .close accepted := by
  by_cases hclosed : w.closed = true
  · have hclose : w.perform s .close = (.ok (), w) := if_pos hclosed
    have hbusy : (w.perform s .close).2.Busy c (accepted ++ []) script := by
      rw [hclose, List.append_nil]
      exact h
    exact .busy hbusy
  · obtain ⟨hresult, hoffers, hlane⟩ :=
      perform_close (s := s) (c := c) (Bool.eq_false_iff.2 hclosed)
    have hbuffer : ((w.perform s .close).2.lane c).buffer = none := by
      rw [hlane]
      rfl
    -- closing flushes with the writer marked as closed, and clears it whatever the flush gives
    have hclosing : Busy { w with closed := true } c accepted script :=
      ⟨h.carries, h.frames_eq, h.taken⟩
    have hflush : Onward s { w with closed := true } c .flush accepted :=
      hclosing.work hw hc trivial
    have hfails (herror : { w with closed := true }.flush.1 ≠ .ok ()) : w.EndsWork s c .close :=
      .inl (hresult ▸ herror)
    cases hflush with
    | busy hbusy =>
      by_cases hok : { w with closed := true }.flush.1 = .ok ()
      · exact .busy (hbusy.of_cleared (unsent_flush hw hc hok) hoffers hlane)
      · exact .ended (hfails hok) (hbusy.unbroken.of_same hoffers) hbuffer
    | ended hends hunbroken _ =>
      refine .ended (hfails ?_) (hunbroken.of_same hoffers) hbuffer
      exact hends.resolve_right fun h => h.1

/-- **One operation** of a producer whose work on a channel has not ended. -/
theorem Busy.perform (hw : w.lanes.length ≤ maxChannels) (hc : c.toNat < w.lanes.length)
    (h : w.Busy c accepted script) (op : Operation s.Value) : Onward s w c op accepted := by
  cases op with
  | emit _ _ | broadcast _ | endSuperstep | flush | turn _ => exact h.work hw hc trivial
  | close => exact h.close hw hc
  | clear => exact h.discard trivial rfl (offersTo_clear w c) (lane_clear w c)
  | drop => exact h.discard trivial rfl (offersTo_clear w c) (lane_clear w c)

theorem Busy.run (hw : w.lanes.length ≤ maxChannels) (hc : c.toNat < w.lanes.length)
    (h : w.Busy c accepted script) (hops : Abandons s c w ops) :
    (w.run s ops).Unbroken c (accepted ++ along s (fun w op => w.acceptedFrames s c op) w ops) := by
  induction ops generalizing w accepted script with
  | nil =>
    rw [along, List.append_nil]
    exact h.unbroken
  | cons op ops ih =>
    obtain ⟨hends, hrest⟩ := hops
    rw [along, ← List.append_assoc]
    -- the discipline counts from the first operation that ends the work
    cases h.perform hw hc op with
    | busy hbusy => exact ih (by rwa [length_perform]) (by rwa [length_perform]) hbusy hrest
    | ended hended hunbroken hbuffer =>
      exact hunbroken.run_teardown (by rwa [length_perform]) (by rwa [length_perform]) hbuffer
        (hends hended)

end Invariants

/-- **Delivered bytes stay a beginning of the accepted ones**, whatever buffers, events and markers
the partition refuses, as long as the producer abandons its work when an operation fails or when it
gives up bytes itself. And a refused buffer is the last thing that is offered on its channel. -/
theorem bytes_isPrefix_run_of_abandons (hmade : w.MadeFor p) (hp : p.offers = #[])
    (hc : c.toNat < p.width) (hops : Abandons s c w ops) :
    bytesOf ((w.run s ops).delivered c) <+:
      (along s (fun w op => w.acceptedFrames s c op) w ops).flatten ∧
    ∀ (before : List Offer) (b : Buffer) (after : List Offer),
      (w.run s ops).offersTo c = before ++ ⟨c, .buffer b, false⟩ :: after → after = [] := by
  have hstart := hmade.start
  have hbusy : w.Busy c [] [] := by
    refine ⟨hstart.carries hp c, rfl, fun b => ?_⟩
    rw [hstart.offersTo_eq hp]
    exact List.not_mem_nil
  have hw : w.lanes.length ≤ maxChannels := hstart.length_eq ▸ hstart.width_le
  have hunbroken := hbusy.run hw (hstart.length_eq ▸ hc) hops
  exact ⟨hunbroken.bytes_isPrefix, hunbroken.refused_last⟩

/-- The consumer goes away when the first bytes of a record were delivered. -/
theorem bytes_isPrefix_run_small :
    let ops : List (Operation Schema.bytes.Value) :=
      [.emit [1, 2, 3, 4, 5] none, .turn (.disconnect ⟨0⟩), .flush, .flush, .clear, .close]
    let w := smallWriter.run .bytes ops
    (w.offersTo ⟨0⟩).map Offer.taken = [true, false] ∧
    bytesOf (w.delivered ⟨0⟩) <+: [0, 0, 0, 6, 5, 1, 2, 3, 4, 5] ∧
    ∀ (before : List Offer) (b : Buffer) (after : List Offer),
      w.offersTo ⟨0⟩ = before ++ ⟨⟨0⟩, .buffer b, false⟩ :: after → after = [] := by
  intro ops w
  have hops : Abandons .bytes ⟨0⟩ smallWriter ops := by decide +kernel
  have haccepted : along .bytes (fun w op => w.acceptedFrames .bytes ⟨0⟩ op) smallWriter ops =
      [[0, 0, 0, 6, 5, 1, 2, 3, 4, 5]] := by decide +kernel
  obtain ⟨hbytes, hlast⟩ := bytes_isPrefix_run_of_abandons (s := .bytes) (c := ⟨0⟩)
    madeFor_small rfl (by decide) hops
  rw [haccepted] at hbytes
  exact ⟨by decide +kernel, hbytes, hlast⟩

/-- **Cleared bytes are missing** in front of those that are accepted afterwards, although no
operation fails. -/
theorem not_isPrefix_after_clear :
    let ops : List (Operation Schema.bytes.Value) :=
      [.emit [1] none, .clear, .emit [2] none, .flush]
    smallWriter.Succeeds .bytes ops ∧
    ¬ bytesOf ((smallWriter.run .bytes ops).delivered ⟨0⟩) <+:
      (along .bytes (fun w op => w.acceptedFrames .bytes ⟨0⟩ op) smallWriter ops).flatten := by
  decide +kernel

end Writer

end Fanout
