import Fanout.Proofs.Writer.Attempts
import Fanout.Proofs.Writer.Refills

/-!
# Packing

The bytes that a lane holds are always fewer than a buffer takes (`Serializer.Roomy`), whatever
operations a writer performs and however they end. So how many buffers a frame costs is a division
with remainder: the quotient is sent, the remainder is held.

* `Lane.Packs.served` — the number of buffers that packing a frame takes.
* `Writer.Roomy.run` — in every run the lanes hold buffers with room.
* `Writer.packing_law` — how frames are packed in every state that a writer reaches.
-/

namespace Fanout

namespace Lane

variable {c : ChannelId} {s : Serializer} {o : Outlet} {size lacking : Nat} {bytes : List UInt8}

/-! ## How many buffers a frame costs -/

/-- The bytes of some full buffers. -/
theorem length_flatMap_contents {sent : List Buffer} (hfilled : ∀ b ∈ sent, b.Filled size) :
    (sent.flatMap Buffer.contents).length = size * sent.length := by
  induction sent with
  | nil => rfl
  | cons b sent ih =>
    obtain ⟨hb, hsent⟩ := List.forall_mem_cons.1 hfilled
    rw [List.flatMap_cons, List.length_append, hb.length_contents, ih hsent, List.length_cons,
      Nat.mul_succ, Nat.add_comm]

/-- **A frame that was packed**: the buffers that were sent, which are full, the buffer that the
lane holds then, and how many of each follow from the number of bytes. -/
structure Packed (c : ChannelId) (size : Nat) (frame : ByteArray) (s : Serializer) (o : Outlet)
    (sent : List Buffer) (rest : Buffer) (s' : Serializer) (o' : Outlet) : Prop where
  offers_eq : o'.partition.offers.toList =
    o.partition.offers.toList ++ sent.map fun b => ⟨c, .buffer b, true⟩
  filled : ∀ b ∈ sent, b.Filled size
  length_eq : sent.length = (s.held.length + frame.size) / size
  requests_eq : o'.requests =
    o.requests + (s.held.length + frame.size) / size + if s.buffer.isSome then 0 else 1
  buffer_eq : s'.buffer = some rest
  capacity_eq : rest.capacity = size
  size_eq : rest.size = (s.held.length + frame.size) % size
  pending_eq : s'.hasPending = false
  bytes_eq : sent.flatMap Buffer.contents ++ rest.contents = s.held ++ octets frame

/-- What serving a frame to a lane comes to. Either the frame is packed, or a request or the sending
of a full buffer fails after calls that succeeded, and these were no more than the frame costs. -/
inductive Served (c : ChannelId) (size : Nat) (frame : ByteArray) (s : Serializer) (o : Outlet) :
    Bool × LaneResult Unit → Prop where
  | packed {sent : List Buffer} {rest : Buffer} {s' : Serializer} {o' : Outlet} :
    Packed c size frame s o sent rest s' o' → Served c size frame s o (true, .ok (), s', o')
  | failed {sent : List Buffer} {asked : Nat} {s' : Serializer} {mid o' : Outlet} (e : WriterError) :
    o.Fills c size sent asked mid →
    mid.request = (.error e, o') ∨ (∃ b, b.Filled size ∧ mid.forward c b = (.error e, o')) →
    sent.length ≤ (s.held.length + frame.size) / size →
    o'.requests ≤
      o.requests + (s.held.length + frame.size) / size + (if s.buffer.isSome then 0 else 1) →
    Served c size frame s o (true, .error e, s', o')

theorem lacking_eq (s : Serializer) : 1 - s.holding = if s.buffer.isSome then 0 else 1 := by
  cases hb : s.buffer with
  | none => rw [Serializer.holding_of_none hb]; rfl
  | some b => rw [Serializer.holding_of_some hb]; rfl

/-- Packing as a division of the number of bytes by the size of a buffer. -/
theorem Packs.served {frame : ByteArray} {out : LaneResult Unit} (hsize : 0 < size)
    (h : Packs c size (1 - s.holding) (s.held ++ octets frame) o out) :
    Served c size frame s o (true, out) := by
  have hsent {sent : List Buffer} {rest : List UInt8} (hfilled : ∀ b ∈ sent, b.Filled size)
      (hbytes : sent.flatMap Buffer.contents ++ rest = s.held ++ octets frame) :
      rest.length + size * sent.length = s.held.length + frame.size := by
    have hlength := congrArg List.length hbytes
    rw [List.length_append, List.length_append, length_flatMap_contents hfilled, length_octets]
      at hlength
    rw [← hlength, Nat.add_comm]
  rw [lacking_eq] at h
  cases h with
  | @packed sent rest s' o' hfills hbuffer hcapacity hroom hpending hbytes =>
    have hcount := hsent hfills.filled hbytes
    obtain ⟨hdiv, hmod⟩ := (Nat.div_mod_unique hsize).2 ⟨hcount, hroom⟩
    have hrequests := hfills.requests_eq
    rw [← hdiv, ← Nat.add_assoc] at hrequests
    exact .packed ⟨hfills.offers_eq hsize, hfills.filled, hdiv.symm, hrequests, hbuffer, hcapacity,
      hmod.symm, hpending, hbytes⟩
  | @denied sent asked s' mid o' e hfills hasked hrequest _ hbytes =>
    have hcount := hsent hfills.filled hbytes
    have hsent : sent.length ≤ (s.held.length + frame.size) / size := by
      rw [Nat.le_div_iff_mul_le hsize, Nat.mul_comm]
      omega
    have hrequests := mid.requests_request
    rw [hrequest, hfills.requests_eq] at hrequests
    refine .failed e hfills (.inl hrequest) hsent ?_
    have hlast : o'.requests = o.requests + asked + 1 := hrequests
    omega
  | @refused sent b s' mid o' e hfills hb hforward _ hbytes =>
    have hcount := hsent hfills.filled hbytes
    rw [List.length_append, hb.length_contents] at hcount
    have hsent : sent.length ≤ (s.held.length + frame.size) / size := by
      rw [Nat.le_div_iff_mul_le hsize, Nat.mul_comm]
      omega
    have hrequests := mid.requests_forward c b
    rw [hforward, hfills.requests_eq] at hrequests
    refine .failed e hfills (.inr ⟨b, hb, hforward⟩) hsent ?_
    have hlast : o'.requests = o.requests + (sent.length + _) := hrequests
    omega

/-! ## What a lane leaves -/

theorem Packs.roomy {out : LaneResult Unit} (h : Packs c size lacking bytes o out) :
    out.2.1.Roomy size := by
  cases h with
  | packed _ hbuffer hcapacity hroom hpending _ =>
    exact Serializer.roomy_of_some hbuffer hcapacity hroom hpending
  | denied e _ _ _ hbuffer _ => exact Serializer.roomy_of_none hbuffer
  | refused e _ _ _ hbuffer _ => exact Serializer.roomy_of_none hbuffer

theorem roomy_serve (hsize : o.pool.bufferSize = size) (hs : s.Roomy size)
    (frame : Except RecordError ByteArray) : (serve c frame s o).2.2.1.Roomy size := by
  by_cases hpending : s.hasPending = true
  · obtain ⟨-, e, hfenced⟩ := fenced_serve (c := c) (o := o) hpending frame
    rw [hfenced]
    exact hs
  · cases frame with
    | error cause =>
      unfold serve Serializer.add
      rw [if_neg hpending]
      exact fun b hb => ⟨(hs b hb).1, (hs b hb).2.1, rfl⟩
    | ok frame => exact (serve_packs hsize hs (Bool.eq_false_iff.2 hpending) frame).2.roomy

theorem roomy_flush (hs : s.Roomy size) : (flush c s o).2.1.Roomy size := by
  have hflushed := flush_flushed c s o
  generalize flush c s o = out at hflushed
  cases hflushed with
  | fenced e _ => exact hs
  | idle _ _ => exact hs
  | sent _ _ _ => exact Serializer.roomy_of_none rfl

theorem roomy_reprime (hsize : o.pool.bufferSize = size) (hs : s.Roomy size)
    (hpending : s.hasPending = false) (sent : Bool) :
    (if sent then prime s o else (.ok (), s, o)).2.1.Roomy size := by
  cases sent with
  | false => exact hs
  | true =>
    have hgranted := o.bufferSize_request.trans hsize
    show (prime s o).2.1.Roomy size
    unfold prime
    rcases hrequest : o.request with ⟨_ | _, o'⟩
    · exact hs
    · rw [hrequest] at hgranted
      exact Serializer.roomy_install hpending hgranted

/-- What a step leaves that flushes the lane first. -/
theorem roomy_flushed (hsize : o.pool.bufferSize = size) (hs : s.Roomy size) {sent : Bool}
    {s' : Serializer} {o' : Outlet} (h : flush c s o = (.ok sent, s', o')) :
    o'.pool.bufferSize = size ∧ s'.Roomy size ∧ s'.hasPending = false := by
  have huses := (flush_works c s o).uses
  have hroomy := roomy_flush (c := c) (o := o) hs
  have hunsent := unsent_flush c s o (congrArg Prod.fst h)
  rw [h] at huses hroomy hunsent
  exact ⟨huses.bufferSize_eq.trans hsize, hroomy, hasPending_of_unsent hunsent⟩

theorem roomy_endSuperstep (hsize : o.pool.bufferSize = size) (hs : s.Roomy size) :
    (endSuperstep c s o).2.1.Roomy size := by
  have hfailed := roomy_flush (c := c) (o := o) hs
  unfold endSuperstep
  rcases hout : flush c s o with ⟨e | sent, s', o'⟩
  · rw [hout] at hfailed
    exact hfailed
  · obtain ⟨hsize, hroomy, hpending⟩ := roomy_flushed hsize hs hout
    exact roomy_reprime hsize hroomy hpending sent

theorem roomy_sendEvent (hsize : o.pool.bufferSize = size) (hs : s.Roomy size) (e : Event) :
    (sendEvent e c s o).2.1.Roomy size := by
  have hfailed := roomy_flush (c := c) (o := o) hs
  unfold sendEvent
  rcases hout : flush c s o with ⟨cause | sent, s', o'⟩
  · rw [hout] at hfailed
    exact hfailed
  · obtain ⟨hsize, hroomy, hpending⟩ := roomy_flushed hsize hs hout
    have hsend := (o'.bufferSize_sendEvent c e).trans hsize
    dsimp only
    rcases hsent : o'.sendEvent c e with ⟨_ | _, last⟩
    · exact hroomy
    · rw [hsent] at hsend
      exact roomy_reprime hsend hroomy hpending sent

theorem roomy_retire (hs : s.Roomy size) : (retire c s o).2.1.Roomy size := by
  have hflushed := roomy_flush (c := c) (o := o) hs
  unfold retire
  rcases hout : flush c s o with ⟨e | sent, s', o'⟩ <;> rw [hout] at hflushed
  · exact hflushed
  · cases hb : s'.buffer with
    | none =>
      simp only [hb]
      exact hflushed
    | some b =>
      simp only [hb]
      exact Serializer.roomy_of_none rfl

end Lane

/-! ## What is offered -/

/-- A full buffer. -/
def Delivery.Full (size : Nat) : Delivery → Prop
  | .buffer b => b.Filled size
  | .event _ | .endOfSuperstep => False

/-- A buffer with something in it, or a mark. -/
def Delivery.Nonempty : Delivery → Prop
  | .buffer b => b.contents ≠ []
  | .event _ | .endOfSuperstep => True

namespace Partition

variable {P : Delivery → Prop} {p p' p'' : Partition}

/-- All that a partition was offered since, on any channel and taken or not, is of one kind. -/
def Adds (P : Delivery → Prop) (p p' : Partition) : Prop :=
  ∃ more : List Offer, p'.offers.toList = p.offers.toList ++ more ∧
    ∀ offer ∈ more, P offer.delivery

namespace Adds

theorem of_offers (h : p'.offers = p.offers) : p.Adds P p' :=
  ⟨[], by rw [h, List.append_nil], List.forall_mem_nil _⟩

theorem of_push {c : ChannelId} {d : Delivery} {taken : Bool}
    (h : p'.offers = p.offers.push ⟨c, d, taken⟩) (hd : P d) : p.Adds P p' :=
  ⟨[⟨c, d, taken⟩], by rw [h, Array.toList_push], List.forall_mem_singleton.2 hd⟩

theorem trans (h : p.Adds P p') (h' : p'.Adds P p'') : p.Adds P p'' := by
  obtain ⟨more, hoffers, hmore⟩ := h
  obtain ⟨later, hoffers', hlater⟩ := h'
  refine ⟨more ++ later, ?_, List.forall_mem_append.2 ⟨hmore, hlater⟩⟩
  rw [hoffers', hoffers, List.append_assoc]

end Adds

theorem Noted.adds {ε : Type} {c : ChannelId} {d : Delivery} {out : Except ε Unit × Partition}
    (h : Noted p c d out) (hd : P d) : p.Adds P out.2 := by
  cases h with
  | taken h => exact .of_push h hd
  | refused e h => exact .of_push h hd

theorem adds_markFrom (hmark : P .endOfSuperstep) (p : Partition) (i n : Nat) :
    p.Adds P (p.markFrom i n).2 := by
  induction n generalizing p i with
  | zero => exact .of_offers rfl
  | succ n ih =>
    unfold markFrom
    cases ChannelId.ofNat? i with
    | none => exact .of_offers rfl
    | some c =>
      have hsend := (p.send_noted c .endOfSuperstep).adds hmark
      rcases hout : p.send c .endOfSuperstep with ⟨r, p'⟩
      rw [hout] at hsend
      simp only [hout]
      cases r with
      | error e => exact hsend
      | ok _ => exact hsend.trans (ih p' (i + 1))

end Partition

namespace Outlet

variable {o o' : Outlet}

/-- **An empty buffer is never offered.** -/
theorem adds_forward (o : Outlet) (c : ChannelId) (b : Buffer) :
    o.partition.Adds Delivery.Nonempty (o.forward c b).2.partition := by
  rw [partition_forward]
  split
  · exact .of_offers rfl
  · rename_i hempty
    exact (o.partition.writeBuffer_noted c b).adds (mt b.isEmpty_iff.2 hempty)

theorem adds_sendEvent {P : Delivery → Prop} (o : Outlet) (c : ChannelId) {e : Event}
    (he : P (.event e)) : o.partition.Adds P (o.sendEvent c e).2.partition :=
  (o.sendEvent_noted c e).adds he

theorem adds_endSuperstep {P : Delivery → Prop} (hmark : P .endOfSuperstep) (o : Outlet) :
    o.partition.Adds P o.endSuperstep.2.partition := by
  rw [partition_endSuperstep]
  unfold Partition.writeEndOfSuperstep
  rcases o.partition.markerFaults.next with ⟨fault, plan⟩
  cases fault with
  | some reason => exact .of_offers rfl
  | none => exact Partition.adds_markFrom hmark _ 0 _

namespace Deals

variable {slots start held : Nat} {asks : List Outlet} {smooth : Bool}

/-- **Whatever a writer does offers no empty buffer.** -/
theorem adds (h : o.Deals slots start asks smooth held o') :
    o.partition.Adds Delivery.Nonempty o'.partition := by
  induction h with
  | refl => exact .of_offers rfl
  | request _ _ ih => exact ih.trans (.of_offers (offers_request _))
  | forward b _ _ ih => exact ih.trans (adds_forward _ _ b)
  | sendEvent e _ _ ih => exact ih.trans (adds_sendEvent _ _ trivial)
  | endSuperstep _ ih => exact ih.trans (adds_endSuperstep trivial _)
  | recycle _ _ ih | count f _ _ ih => exact ih

theorem bufferSize_eq (h : o.Deals slots start asks smooth held o') :
    o'.pool.bufferSize = o.pool.bufferSize := by
  induction h with
  | refl => rfl
  | request _ _ ih => exact (bufferSize_request _).trans ih
  | forward b _ _ ih => exact (bufferSize_forward _ _ b).trans ih
  | sendEvent e _ _ ih => exact (bufferSize_sendEvent _ _ e).trans ih
  | endSuperstep _ ih => exact (bufferSize_endSuperstep _).trans ih
  | recycle _ _ ih | count f _ _ ih => exact ih

end Deals

end Outlet

namespace Lane

variable {c : ChannelId} {s : Serializer} {o : Outlet} {size lacking : Nat} {bytes : List UInt8}

/-- Packing offers full buffers only, also if a call fails. -/
theorem Packs.adds {out : LaneResult Unit} (h : Packs c size lacking bytes o out)
    (hsize : 0 < size) : o.partition.Adds (Delivery.Full size) out.2.2.partition := by
  have hfills {sent : List Buffer} {asked : Nat} {mid : Outlet}
      (h : o.Fills c size sent asked mid) : o.partition.Adds (Delivery.Full size) mid.partition := by
    refine ⟨_, h.offers_eq hsize, fun offer hoffer => ?_⟩
    obtain ⟨b, hb, rfl⟩ := List.mem_map.1 hoffer
    exact h.filled b hb
  cases h with
  | packed h _ _ _ _ _ => exact hfills h
  | @denied _ _ _ mid _ e h _ hrequest _ _ =>
    have hsame := mid.offers_request
    rw [hrequest] at hsame
    exact (hfills h).trans (.of_offers hsame)
  | @refused _ b _ mid _ e h hb hforward _ _ =>
    have hforwarded := mid.forward_forwarded c b
    rw [hforward] at hforwarded
    cases hforwarded with
    | refused _ hpush => exact (hfills h).trans (.of_push hpush hb)

theorem adds_serve (hsize : o.pool.bufferSize = size) (hs : s.Roomy size)
    (frame : Except RecordError ByteArray) :
    o.partition.Adds (Delivery.Full size) (serve c frame s o).2.2.2.partition := by
  by_cases hpending : s.hasPending = true
  · obtain ⟨-, e, hfenced⟩ := fenced_serve (c := c) (o := o) hpending frame
    rw [hfenced]
    exact .of_offers rfl
  · cases frame with
    | error cause =>
      unfold serve Serializer.add
      rw [if_neg hpending]
      exact .of_offers rfl
    | ok frame =>
      exact (serve_packs hsize hs (Bool.eq_false_iff.2 hpending) frame).2.adds
        (hsize ▸ o.pool.bufferSize_pos)

end Lane

namespace Writer

variable {σ : Type} {s : Schema} [ChannelSelector σ s.Value] {w : Writer σ} {p : Partition}
  {size : Nat}

/-- **The lanes hold buffers with room**, of the size that the pool lends. -/
structure Roomy (w : Writer σ) (size : Nat) : Prop where
  size_eq : w.outlet.pool.bufferSize = size
  roomy_of_mem : ∀ lane ∈ w.lanes, lane.Roomy size

theorem roomy_laneOf {lanes : List Serializer} (h : ∀ lane ∈ lanes, lane.Roomy size)
    (c : ChannelId) : (laneOf lanes c).Roomy size := by
  unfold laneOf
  cases hlane : lanes[c.toNat]? with
  | none => exact Serializer.roomy_of_none rfl
  | some lane => exact h lane (List.mem_of_getElem? hlane)

theorem roomy_set {lanes : List Serializer} (h : ∀ lane ∈ lanes, lane.Roomy size)
    {lane : Serializer} (hlane : lane.Roomy size) (i : Nat) :
    ∀ t ∈ lanes.set i lane, t.Roomy size := by
  intro t ht
  rcases List.mem_or_eq_of_mem_set ht with ht | rfl
  · exact h t ht
  · exact hlane

/-- Serving a frame to some lanes with room offers full buffers only and leaves them room. -/
theorem serve_roomy (frame : Except RecordError ByteArray) (targets : List ChannelId)
    {lanes : List Serializer} {o : Outlet} (hsize : o.pool.bufferSize = size)
    (hlanes : ∀ lane ∈ lanes, lane.Roomy size) :
    (∀ lane ∈ (serve frame targets lanes o).2.2.1, lane.Roomy size) ∧
      (serve frame targets lanes o).2.2.2.pool.bufferSize = size ∧
      o.partition.Adds (Delivery.Full size) (serve frame targets lanes o).2.2.2.partition := by
  induction targets generalizing lanes o with
  | nil => exact ⟨hlanes, hsize, .of_offers rfl⟩
  | cons first targets ih =>
    have hfirst := roomy_laneOf hlanes first
    have hroomy := Lane.roomy_serve (c := first) hsize hfirst frame
    have hadds := Lane.adds_serve (c := first) hsize hfirst frame
    have huses := (Lane.serve_works first (laneOf lanes first) o frame).uses
    rw [serve_cons]
    rcases hout : Lane.serve first frame (laneOf lanes first) o with ⟨accepted, r, lane, o'⟩
    rw [hout] at hroomy hadds huses
    have hsize' : o'.pool.bufferSize = size := huses.bufferSize_eq.trans hsize
    cases r with
    | error e => exact ⟨roomy_set hlanes hroomy first.toNat, hsize', hadds⟩
    | ok _ =>
      obtain ⟨hlanes, hlast, hrest⟩ := ih hsize' (roomy_set hlanes hroomy first.toNat)
      exact ⟨hlanes, hlast, hadds.trans hrest⟩

theorem adds_perform (w : Writer σ) (op : Operation s.Value) :
    w.outlet.partition.Adds Delivery.Nonempty (w.perform s op).2.outlet.partition := by
  by_cases hturn : ∃ t, op = .turn t
  · obtain ⟨t, rfl⟩ := hturn
    exact .of_offers (w.outlet.offers_turn t)
  · obtain ⟨_, _, hdeals, _⟩ :=
      perform_deals (s := s) (Nat.le_refl w.lanes.length) fun t ht => hturn ⟨t, ht⟩
    exact hdeals.adds

theorem bufferSize_perform (w : Writer σ) (op : Operation s.Value) :
    (w.perform s op).2.outlet.pool.bufferSize = w.outlet.pool.bufferSize := by
  by_cases hturn : ∃ t, op = .turn t
  · obtain ⟨t, rfl⟩ := hturn
    exact w.outlet.bufferSize_turn t
  · obtain ⟨_, _, hdeals, _⟩ :=
      perform_deals (s := s) (Nat.le_refl w.lanes.length) fun t ht => hturn ⟨t, ht⟩
    exact hdeals.bufferSize_eq

namespace Roomy

/-- **Every operation leaves the lanes room**, also if it fails. -/
theorem perform (h : w.Roomy size) (op : Operation s.Value) : (w.perform s op).2.Roomy size := by
  refine ⟨(bufferSize_perform w op).trans h.size_eq, ?_⟩
  have hsweep {step : ChannelId → Serializer → Outlet → LaneResult Unit}
      (hlocal : Lane.Local step)
      (hstep : ∀ c lane o, lane.Roomy size → o.pool.bufferSize = size →
        (step c lane o).2.1.Roomy size) :=
    Lane.lanes_sweep (P := (·.Roomy size)) (Q := (·.pool.bufferSize = size))
      (fun c lane o hlane ho =>
        ⟨hstep c lane o hlane ho, (hlocal c lane o).bufferSize_eq.trans ho⟩)
      0 h.roomy_of_mem h.size_eq
  have hflush : ∀ lane ∈ (Lane.sweepAll Lane.retire 0 w.lanes w.outlet).2.1, lane.Roomy size :=
    Lane.lanes_sweepAll (P := (·.Roomy size)) (Q := fun _ => True)
      (fun c lane o hlane _ => ⟨Lane.roomy_retire hlane, trivial⟩) 0 h.roomy_of_mem trivial
  have hclear (w : Writer σ) : ∀ lane ∈ w.clear.2.lanes, lane.Roomy size := by
    intro lane hlane
    change lane ∈ (Lane.clearAll w.lanes w.outlet.pool).2.1 at hlane
    rw [clearAll_lanes] at hlane
    obtain ⟨_, _, rfl⟩ := List.mem_map.1 hlane
    exact Serializer.roomy_of_none rfl
  cases op with
  | emit record superstep =>
    cases emit_emitted s w record superstep with
    | nowhere hlanes _ _ _ =>
      rw [hlanes]
      exact h.roomy_of_mem
    | served hserve _ =>
      obtain ⟨hlanes, -, -⟩ := serve_roomy ((encodeRecord s record).map pack)
        (w.targets s record superstep) h.size_eq h.roomy_of_mem
      rw [hserve] at hlanes
      exact hlanes
  | broadcast e =>
    show ∀ lane ∈ (w.broadcast e).2.lanes, lane.Roomy size
    unfold broadcast
    split
    · exact h.roomy_of_mem
    · exact hsweep (Lane.local_sendEvent e) fun c lane o hlane ho => Lane.roomy_sendEvent ho hlane e
  | endSuperstep =>
    have hswept := hsweep Lane.local_endSuperstep fun c lane o hlane ho =>
      Lane.roomy_endSuperstep ho hlane
    have hended : Ended w (w.perform s .endSuperstep) := endSuperstep_ended w
    cases hended with
    | closed e hout =>
      rw [hout]
      exact h.roomy_of_mem
    | stopped e hout _ =>
      rw [hout] at hswept
      exact hswept
    | marked hout _ _ =>
      rw [hout] at hswept
      exact hswept
  | flush => exact hflush
  | close =>
    show ∀ lane ∈ w.close.2.lanes, lane.Roomy size
    unfold close
    split
    · exact h.roomy_of_mem
    · exact hclear _
  | clear | drop => exact hclear w
  | turn t => exact h.roomy_of_mem

/-- **In every run the lanes hold buffers with room.** -/
theorem run (h : w.Roomy size) (ops : List (Operation s.Value)) : (w.run s ops).Roomy size := by
  induction ops generalizing w with
  | nil => exact h
  | cons op ops ih => exact ih (h.perform op)

end Roomy

/-- At the start the lanes hold no buffers. -/
theorem MadeFor.roomy (h : w.MadeFor p) : w.Roomy w.outlet.pool.bufferSize := by
  refine ⟨rfl, fun lane hlane => ?_⟩
  rw [h.start.lanes_eq] at hlane
  rw [List.eq_of_mem_replicate hlane]
  exact Serializer.roomy_of_none rfl

/-- An emitted record offers full buffers only, also if it fails. -/
theorem adds_emit (h : w.Roomy size) (record : s.Value) (superstep : Option Superstep) :
    w.outlet.partition.Adds (Delivery.Full size)
      (w.perform s (.emit record superstep)).2.outlet.partition := by
  cases emit_emitted s w record superstep with
  | nowhere _ hpartition _ _ => exact .of_offers (congrArg Partition.offers hpartition)
  | served hserve hpartition =>
    obtain ⟨-, -, hadds⟩ := serve_roomy ((encodeRecord s record).map pack)
      (w.targets s record superstep) h.size_eq h.roomy_of_mem
    rw [hserve] at hadds
    rw [hpartition]
    exact hadds

/-- **The law of packing.** Take any state that a writer reaches, also in the midst of an emitted
record, when its frame was served to some channels. If nothing is pending on a channel, serving a
frame to it packs the frame: with `size` the size of a buffer, and as many bytes as the lane holds
and the frame has together, the quotient by `size` is how many buffers are sent and asked for (one
more if the lane held none), all of them full, the remainder is what the lane holds, and no byte is
lost or moved. Or else a request or the sending of a full buffer fails, after no more calls. So
records make the writer offer full buffers only; and no operation makes it offer an empty one. -/
theorem packing_law (hmade : w.MadeFor p) (ops : List (Operation s.Value)) :
    let size := w.outlet.pool.bufferSize
    let reached := w.run s ops
    (∀ (earlier : List ChannelId) (frame : ByteArray) (c : ChannelId),
      let served := serve (.ok frame) earlier reached.lanes reached.outlet
      let lane := laneOf served.2.2.1 c
      lane.hasPending = false → Lane.Served c size frame lane served.2.2.2
        (Lane.serve c (.ok frame) lane served.2.2.2)) ∧
    (∀ (record : s.Value) (superstep : Option Superstep),
      reached.outlet.partition.Adds (Delivery.Full size)
        (reached.perform s (.emit record superstep)).2.outlet.partition) ∧
    ∀ op : Operation s.Value, reached.outlet.partition.Adds Delivery.Nonempty
      (reached.perform s op).2.outlet.partition := by
  intro size reached
  have hroomy : reached.Roomy size := hmade.roomy.run ops
  refine ⟨?_, adds_emit hroomy, adds_perform reached⟩
  intro earlier frame c served lane hpending
  obtain ⟨hlanes, hsize, -⟩ :=
    serve_roomy (.ok frame) earlier hroomy.size_eq hroomy.roomy_of_mem
  obtain ⟨haccepted, hpacks⟩ :=
    Lane.serve_packs (c := c) hsize (roomy_laneOf hlanes c) hpending frame
  have hserved := hpacks.served w.outlet.pool.bufferSize_pos
  rw [← haccepted] at hserved
  exact hserved

/-- Seven bytes are held in a buffer of eight: a frame of ten bytes fills two, and leaves one byte
in a third. -/
theorem packing_law_small :
    let reached := smallWriter.run .bytes [.emit [1, 2] none]
    let frame := pack [0, 0, 0, 6, 5, 5, 4, 3, 2, 1]
    (reached.lane ⟨0⟩).hasPending = false ∧ (reached.lane ⟨0⟩).held = [0, 0, 0, 3, 2, 1, 2] ∧
    ∃ (sent : List Buffer) (rest : Buffer) (lane : Serializer) (o : Outlet),
      Lane.serve ⟨0⟩ (.ok frame) (reached.lane ⟨0⟩) reached.outlet = (true, .ok (), lane, o) ∧
      sent.length = 2 ∧ (∀ b ∈ sent, b.Filled 8) ∧ o.requests = 3 ∧ lane.buffer = some rest ∧
      rest.size = 1 ∧
      sent.flatMap Buffer.contents ++ rest.contents =
        [0, 0, 0, 3, 2, 1, 2, 0, 0, 0, 6, 5, 5, 4, 3, 2, 1] := by
  intro reached frame
  have hpending : (reached.lane ⟨0⟩).hasPending = false := by decide +kernel
  have hheld : (reached.lane ⟨0⟩).held = [0, 0, 0, 3, 2, 1, 2] := by decide +kernel
  have hrequests : reached.outlet.requests = 1 := by decide +kernel
  have hsome : (reached.lane ⟨0⟩).buffer.isSome = true := by decide +kernel
  have hok : (Lane.serve ⟨0⟩ (.ok frame) (reached.lane ⟨0⟩) reached.outlet).2.1 = .ok () := by
    decide +kernel
  have hserved := (packing_law (s := .bytes) madeFor_small [.emit [1, 2] none]).1 [] frame ⟨0⟩
    hpending
  change Lane.Served ⟨0⟩ 8 frame (reached.lane ⟨0⟩) reached.outlet
    (Lane.serve ⟨0⟩ (.ok frame) (reached.lane ⟨0⟩) reached.outlet) at hserved
  refine ⟨hpending, hheld, ?_⟩
  rcases hout : Lane.serve ⟨0⟩ (.ok frame) (reached.lane ⟨0⟩) reached.outlet with
    ⟨accepted, r, lane, o⟩
  rw [hout] at hserved hok
  cases hserved with
  | failed e _ _ _ _ => exact nomatch hok
  | @packed sent rest _ _ h =>
    have htotal : (reached.lane ⟨0⟩).held.length + frame.size = 17 := by
      rw [hheld]
      rfl
    have hlength := h.length_eq
    have hasked := h.requests_eq
    have hsize := h.size_eq
    rw [htotal] at hlength hasked hsize
    rw [hrequests, hsome] at hasked
    exact ⟨sent, rest, lane, o, rfl, hlength, h.filled, hasked, h.buffer_eq, hsize,
      h.bytes_eq.trans (congrArg (· ++ octets frame) hheld)⟩

end Writer

end Fanout
