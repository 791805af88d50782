import Fanout.Proofs.Writer.Packing

/-!
# Outboxes

What a channel has delivered and what its lane holds is its outbox, and what the channel makes of a
call is `Outbox.play`: a function of the outbox, the call and the size of a buffer, and of nothing
else. Each step of a lane that succeeds plays its call.

* `Lane.Packs.outbox`, `Lane.outbox_serve` — frames.
* `Lane.outbox_flush` — what a lane holds goes out in a buffer of its own.
* `Lane.outbox_sendEvent`, `Lane.outbox_endSuperstep`, `Lane.outbox_retire` — the other steps.
-/

namespace Fanout

/-! ## What a channel makes of calls -/

namespace Buffer

/-- A buffer of the given size with the first of some bytes, as many as it takes. -/
def holding (size : Nat) (bytes : List UInt8) : Buffer := (fresh size).append (pack bytes)

/-- So many full buffers, cut off the front of some bytes. -/
def cut (size : Nat) : (n : Nat) → (bytes : List UInt8) → List Buffer
  | 0, _ => []
  | n + 1, bytes => holding size bytes :: cut size n (bytes.drop size)

theorem contents_holding (size : Nat) (bytes : List UInt8) :
    (holding size bytes).contents = bytes.take size := by
  have hlength : (pack bytes).size = bytes.length := by rw [← length_octets, octets_pack]
  rw [holding, contents_append, contents_fresh, List.nil_append, octets_pack, accepted,
    remaining_fresh, hlength, Nat.min_comm, ← List.take_eq_take_min]

/-- A buffer is its capacity and its contents. -/
theorem ext_contents {a b : Buffer} (hcapacity : a.capacity = b.capacity)
    (hcontents : a.contents = b.contents) : a = b := by
  have hbytes : a.bytes = b.bytes := by
    rw [← pack_octets a.bytes, ← pack_octets b.bytes]
    exact congrArg pack hcontents
  cases a
  cases b
  obtain rfl : _ = _ := hcapacity
  obtain rfl : _ = _ := hbytes
  rfl

theorem holding_contents {b : Buffer} {size : Nat} (h : b.capacity = size) :
    holding size b.contents = b := by
  have hall : b.contents.length ≤ size := h ▸ b.bounded
  refine ext_contents h.symm ?_
  rw [contents_holding, List.take_of_length_le hall]

theorem holding_append {b : Buffer} {size : Nat} (h : b.Filled size) (rest : List UInt8) :
    holding size (b.contents ++ rest) = b := by
  refine ext_contents h.1.symm ?_
  rw [contents_holding, ← h.length_contents, List.take_left]

/-- **Full buffers are cut off their bytes**, whatever stands behind these. -/
theorem cut_flatMap {sent : List Buffer} {size : Nat} (hfilled : ∀ b ∈ sent, b.Filled size)
    (rest : List UInt8) : cut size sent.length (sent.flatMap contents ++ rest) = sent := by
  induction sent with
  | nil => rfl
  | cons b sent ih =>
    obtain ⟨hb, hsent⟩ := List.forall_mem_cons.1 hfilled
    rw [List.flatMap_cons, List.append_assoc, List.length_cons, cut, holding_append hb,
      List.drop_left' hb.length_contents, ih hsent]

end Buffer

/-- One thing that is asked of a channel. -/
inductive ChannelCall where
  /-- A frame is routed to the channel. -/
  | frame (bytes : List UInt8)
  | mark (m : Mark)
  | flush
  | clear
  deriving DecidableEq

/-- What a channel has delivered, and the bytes in the buffer that its lane holds. -/
structure Outbox where
  delivered : List Delivery
  held : List UInt8

namespace Outbox

def start : Outbox := ⟨[], []⟩

/-- The held bytes are delivered, if there are any. -/
def surrender (size : Nat) (b : Outbox) : Outbox :=
  if b.held = [] then b else ⟨b.delivered ++ [.buffer (.holding size b.held)], []⟩

/-- **What a channel makes of a call**, with buffers of the given size. A frame goes behind the held
bytes, and all full buffers are delivered; before a mark, and when it is flushed, the channel
delivers what it holds. -/
def play (size : Nat) (b : Outbox) : ChannelCall → Outbox
  | .frame bytes =>
    let all := b.held ++ bytes
    let n := all.length / size
    ⟨b.delivered ++ (Buffer.cut size n all).map .buffer, all.drop (size * n)⟩
  | .mark m => ⟨(b.surrender size).delivered ++ [m.delivery], []⟩
  | .flush => b.surrender size
  | .clear => ⟨b.delivered, []⟩

theorem surrender_of_nil {b : Outbox} (h : b.held = []) (size : Nat) : b.surrender size = b :=
  if_pos h

theorem held_surrender (size : Nat) (b : Outbox) : (b.surrender size).held = [] := by
  unfold surrender
  split
  · assumption
  · rfl

end Outbox

namespace Lane

variable {c : ChannelId} {s : Serializer} {o o' : Outlet} {size : Nat}

/-- The outbox of a lane's channel. -/
def outbox (c : ChannelId) (s : Serializer) (o : Outlet) : Outbox :=
  ⟨o.partition.delivered c, s.held⟩

/-- What is delivered follows from what is offered. -/
theorem outbox_congr (h : o'.partition.offersTo c = o.partition.offersTo c) (s : Serializer) :
    outbox c s o' = outbox c s o := by
  rw [outbox, Partition.delivered, h]
  rfl

/-! ## Frames -/

/-- Packing that succeeds delivers the full buffers and holds what is left. -/
theorem Packs.outbox {lacking : Nat} {bytes : List UInt8} {s' : Serializer} (hsize : 0 < size)
    (h : Packs c size lacking bytes o (.ok (), s', o')) :
    outbox c s' o' =
      ⟨o.partition.delivered c ++ (Buffer.cut size (bytes.length / size) bytes).map .buffer,
        bytes.drop (size * (bytes.length / size))⟩ := by
  cases h with
  | @packed sent rest _ _ hfills hbuffer hcapacity hroom hpending hbytes =>
    have hlength := length_flatMap_contents hfills.filled
    have hcount : rest.size + size * sent.length = bytes.length := by
      rw [← hbytes, List.length_append, hlength, Nat.add_comm]
      rfl
    obtain ⟨hdiv, -⟩ := (Nat.div_mod_unique hsize).2 ⟨hcount, hroom⟩
    have hdelivered : o'.partition.delivered c =
        o.partition.delivered c ++ sent.map .buffer := by
      rw [Partition.delivered, Partition.offersTo, hfills.offers_eq hsize, List.filter_append,
        takenOf_append]
      refine congrArg (o.partition.delivered c ++ ·) ?_
      simp [takenOf, List.filter_eq_self.2]
    rw [hdiv, ← hbytes, Buffer.cut_flatMap hfills.filled, List.drop_left' hlength, Lane.outbox,
      hdelivered, Serializer.held_of_buffer hbuffer]

/-- **A frame that is served** to a lane with room is played. -/
theorem outbox_serve (hsize : o.pool.bufferSize = size) (hs : s.Roomy size)
    (hpending : s.hasPending = false) {frame : ByteArray}
    (hok : (serve c (.ok frame) s o).2.1 = .ok ()) :
    outbox c (serve c (.ok frame) s o).2.2.1 (serve c (.ok frame) s o).2.2.2 =
      (outbox c s o).play size (.frame (octets frame)) := by
  obtain ⟨-, hpacks⟩ := serve_packs (c := c) hsize hs hpending frame
  rcases hout : serve c (.ok frame) s o with ⟨accepted, r, s', o'⟩
  rw [hout] at hpacks hok
  obtain rfl : r = .ok () := hok
  exact hpacks.outbox (hsize ▸ o.pool.bufferSize_pos)

/-! ## Flushes -/

/-- **Flushing** delivers what is held, in a buffer of its own. -/
theorem outbox_flush (hs : s.Roomy size) {sent : Bool} {s' : Serializer}
    (hok : flush c s o = (.ok sent, s', o')) :
    outbox c s' o' = (outbox c s o).surrender size ∧ s'.held = [] := by
  have hflushed := flush_flushed c s o
  generalize flush c s o = out at hok hflushed
  cases hflushed with
  | fenced e _ => exact nomatch hok
  | idle _ hheld =>
    simp only [Prod.mk.injEq] at hok
    obtain ⟨-, rfl, rfl⟩ := hok
    exact ⟨(Outbox.surrender_of_nil (b := outbox c s o) hheld size).symm, hheld⟩
  | @sent b _ hb hnonempty =>
    have hforward := o.forward_forwarded c b
    rcases hout : o.forward c b with ⟨r, last⟩
    rw [hout] at hforward
    simp only [hout, Prod.mk.injEq] at hok
    obtain ⟨hr, rfl, rfl⟩ := hok
    refine ⟨?_, rfl⟩
    cases hforward with
    | unsent hnil _ => exact absurd hnil hnonempty
    | refused e _ => exact nomatch hr
    | taken hpush =>
      have hdelivered := Partition.delivered_of_taken (Partition.offersTo_of_push hpush)
      have hheld := Serializer.held_of_buffer hb
      have hholds : ¬(outbox c s o).held = [] := fun h => hnonempty (hheld.symm.trans h)
      rw [outbox, Outbox.surrender, if_neg hholds, hdelivered]
      show _ = Outbox.mk (_ ++ [.buffer (.holding size s.held)]) []
      rw [hheld, Buffer.holding_contents (hs b hb).1]
      rfl

/-- A lane that holds nothing may get an empty buffer: that delivers nothing. -/
theorem outbox_reprime (hs : s.unsent = []) (sent : Bool) (c : ChannelId) :
    outbox c (if sent then prime s o else (.ok (), s, o)).2.1
      (if sent then prime s o else (.ok (), s, o)).2.2 = outbox c s o := by
  have hheld : s.held = [] := (List.append_eq_nil_iff.1 hs).1
  have hheld' := (List.append_eq_nil_iff.1 (unsent_prime (o := o) hs sent)).1
  have hoffers := Partition.offersTo_congr o.offers_request c
  rw [outbox, outbox, hheld, hheld']
  refine congrArg (Outbox.mk · []) ?_
  cases sent with
  | false => rfl
  | true =>
    show (prime s o).2.2.partition.delivered c = _
    unfold prime
    rcases hrequest : o.request with ⟨_ | _, o'⟩ <;> rw [hrequest] at hoffers <;>
      exact congrArg takenOf hoffers

/-! ## Steps -/

/-- **A lane at the end of a superstep** has delivered what it held. -/
theorem outbox_endSuperstep (hs : s.Roomy size) (hok : (endSuperstep c s o).1 = .ok ()) :
    outbox c (endSuperstep c s o).2.1 (endSuperstep c s o).2.2 =
      (outbox c s o).surrender size := by
  have hunsent {sent : Bool} (h : (flush c s o).1 = .ok sent) := unsent_flush c s o h
  unfold endSuperstep at hok ⊢
  rcases hout : flush c s o with ⟨e | sent, s', o'⟩
  · rw [hout] at hok
    exact nomatch hok
  · obtain ⟨hflushed, -⟩ := outbox_flush hs hout
    rw [hout] at hunsent
    exact (outbox_reprime (hunsent rfl) sent c).trans hflushed

/-- **A lane that sends an event** delivers what it held, and then the event. -/
theorem outbox_sendEvent (hs : s.Roomy size) {e : Event} (hok : (sendEvent e c s o).1 = .ok ()) :
    outbox c (sendEvent e c s o).2.1 (sendEvent e c s o).2.2 =
      (outbox c s o).play size (.mark (.event e)) := by
  have hunsent {sent : Bool} (h : (flush c s o).1 = .ok sent) := unsent_flush c s o h
  unfold sendEvent at hok ⊢
  rcases hout : flush c s o with ⟨cause | sent, s', o'⟩
  · rw [hout] at hok
    exact nomatch hok
  · obtain ⟨hflushed, hheld⟩ := outbox_flush hs hout
    have hnoted := o'.sendEvent_noted c e
    rw [hout] at hunsent hok
    dsimp only at hok ⊢
    rcases hsent : o'.sendEvent c e with ⟨cause | _, last⟩
    · rw [hsent] at hok
      exact nomatch hok
    · rw [hsent] at hnoted
      cases hnoted with
      | taken hpush =>
        have hdelivered := Partition.delivered_of_taken (Partition.offersTo_of_push hpush)
        refine (outbox_reprime (hunsent rfl) sent c).trans ?_
        rw [outbox, hdelivered, hheld, Outbox.play, ← hflushed]
        rfl

/-- **A lane that is retired** has delivered what it held. -/
theorem outbox_retire (hs : s.Roomy size) (hok : (retire c s o).1 = .ok ()) :
    outbox c (retire c s o).2.1 (retire c s o).2.2 = (outbox c s o).surrender size := by
  unfold retire at hok ⊢
  rcases hout : flush c s o with ⟨e | sent, s', o'⟩
  · rw [hout] at hok
    exact nomatch hok
  · obtain ⟨hflushed, hheld⟩ := outbox_flush hs hout
    rw [← hflushed]
    dsimp only
    cases hb : s'.buffer with
    | none => rfl
    | some b => exact congrArg (Outbox.mk _) hheld.symm

/-- The step of the lane is the whole of a sweep that succeeds, seen from its channel. -/
theorem Swept.outbox {step : ChannelId → Serializer → Outlet → LaneResult Unit}
    {f : Outbox → Outbox} {lane : Option Serializer} {last : Outlet}
    (h : Swept step c s o (.ok ()) lane last)
    (hstep : ∀ o, (step c s o).1 = .ok () →
      Lane.outbox c (step c s o).2.1 (step c s o).2.2 = f (Lane.outbox c s o)) :
    ∃ s', lane = some s' ∧ Lane.outbox c s' last = f (Lane.outbox c s o) := by
  cases h with
  | @stepped before _ _ hbefore hafter hok =>
    refine ⟨_, rfl, ?_⟩
    rw [outbox_congr hafter, hstep before (hok rfl), outbox_congr hbefore]

end Lane

end Fanout
