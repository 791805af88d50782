import Fanout.Proofs.Writer.Dealings
import Fanout.Proofs.Writer.Serializers

/-!
# Refills

A lane packs a frame behind the bytes that its buffer holds: it fills the buffer to the last byte,
sends it and asks for another, until the rest of the frame leaves room in the one that it got. The
calls that this takes are `Outlet.Fills`, and what it comes to, also if a call fails, is `Lane.Packs`.

* `Serializer.copy_of_some` — copying fills the buffer or ends the frame.
* `Lane.refill_packs` — what the loop that sends full buffers and asks for others comes to.
* `Lane.serve_packs` — what serving a frame to a lane comes to.
-/

namespace Fanout

/-! ## Copying -/

/-- A buffer of this size with no room left. -/
def Buffer.Filled (b : Buffer) (size : Nat) : Prop := b.capacity = size ∧ b.size = size

theorem Buffer.Filled.length_contents {b : Buffer} {size : Nat} (h : b.Filled size) :
    b.contents.length = size := h.2

namespace Serializer

variable {s : Serializer} {b : Buffer} {size : Nat}

theorem copy_of_none (h : s.buffer = none) : s.copy.2 = s ∧ s.copy.1.needsBuffer = true := by
  have hsame : s.copy.2 = s := by simp only [copy, h]
  refine ⟨hsame, s.copy_exact.2.2 fun b hb => ?_⟩
  rw [hsame, h] at hb
  cases hb

/-- **Copying fills the buffer or ends the frame**, and it asks for another buffer exactly if it
filled the one it had. -/
theorem copy_of_some (h : s.buffer = some b) (hb : b.capacity = size) :
    ∃ b', s.copy.2.buffer = some b' ∧ b'.capacity = size ∧
      (s.copy.1.needsBuffer = true → b'.size = size) ∧
      (s.copy.1.needsBuffer = false → b'.size < size ∧ s.copy.2.hasPending = false) := by
  have hbuffer : s.copy.2.buffer = some (b.append s.pending) := by simp only [copy, h]
  obtain ⟨hcomplete, hneeds⟩ := s.copy_exact
  have hroom : (b.append s.pending).isFull = true ↔ size - (b.append s.pending).size = 0 := by
    rw [Buffer.isFull, decide_eq_true_eq, Buffer.remaining, Buffer.capacity_append, hb]
  have hbounded : (b.append s.pending).size ≤ size := hb ▸ (b.append s.pending).bounded
  refine ⟨b.append s.pending, hbuffer, hb, fun hneed => ?_, fun hdone => ⟨?_, ?_⟩⟩
  · have hfull := hroom.1 (hneeds.1 hneed _ hbuffer)
    omega
  · by_contra hover
    have hfull : (b.append s.pending).isFull = true := hroom.2 (by omega)
    refine Bool.eq_false_iff.1 hdone (hneeds.2 fun b' hb' => ?_)
    rwa [← Option.some.inj (hbuffer.symm.trans hb')]
  · refine pendingSize_eq_zero_iff.1 (hcomplete.1 ?_)
    cases hprogress : s.copy.1 with
    | recordCopied => rfl
    | recordCopiedBufferFull | recordPending =>
      rw [hprogress] at hdone
      cases hdone

/-- A lane that has nothing pending has accepted just what it holds. -/
theorem unsent_of_settled (h : s.hasPending = false) : s.unsent = s.held := by
  rw [unsent, hasPending_eq_false_iff.1 h, List.append_nil]

/-- **A lane's buffer has room** and is one of this size, and then nothing waits for another. -/
def Roomy (s : Serializer) (size : Nat) : Prop :=
  ∀ b, s.buffer = some b → b.capacity = size ∧ b.size < size ∧ s.hasPending = false

theorem roomy_of_none (h : s.buffer = none) : s.Roomy size := by
  intro b hb
  rw [h] at hb
  exact nomatch hb

theorem roomy_of_some (h : s.buffer = some b) (hb : b.capacity = size) (hroom : b.size < size)
    (hs : s.hasPending = false) : s.Roomy size := by
  intro b' hb'
  obtain rfl := Option.some.inj (h.symm.trans hb')
  exact ⟨hb, hroom, hs⟩

/-- A lane that has nothing pending leaves a buffer that it gets as it is. -/
theorem roomy_install (hs : s.hasPending = false) {pool : Pool} (hsize : pool.bufferSize = size) :
    (s.install pool.lent).2.Roomy size := by
  have hpositive := pool.bufferSize_pos
  have hpending := mt s.hasPending_iff.2 (Bool.eq_false_iff.1 hs)
  have hnone : (install s pool.lent).2.hasPending = false := by
    refine Bool.eq_false_iff.2 (mt (hasPending_iff _).1 ?_)
    simp only [install, copy, pendingSize] at hpending ⊢
    omega
  refine roomy_of_some (b := pool.lent.append s.pending) rfl hsize ?_ hnone
  rw [Buffer.size_append, Buffer.accepted, size_pending]
  simp only [Pool.lent_eq, Buffer.fresh, Buffer.size, ByteArray.size_empty]
  omega

end Serializer

/-! ## Full buffers out, others in -/

/-- **Full buffers go out and others come in**: calls on one channel that all succeed, the buffers
that were sent, in order, and how many others were asked for. -/
inductive Outlet.Fills (c : ChannelId) (size : Nat) (o : Outlet) :
    List Buffer → Nat → Outlet → Prop where
  | refl : Fills c size o [] 0 o
  | request {sent : List Buffer} {asked : Nat} {o' o'' : Outlet} :
    Fills c size o sent asked o' → o'.request = (.ok (), o'') → Fills c size o sent (asked + 1) o''
  | forward {sent : List Buffer} {asked : Nat} {o' o'' : Outlet} {b : Buffer} :
    Fills c size o sent asked o' → b.Filled size → o'.forward c b = (.ok (), o'') →
    Fills c size o (sent ++ [b]) asked o''

namespace Outlet.Fills

variable {c : ChannelId} {size asked asked' : Nat} {o o' o'' : Outlet} {sent sent' : List Buffer}

theorem trans (h : Fills c size o sent asked o') (h' : Fills c size o' sent' asked' o'') :
    Fills c size o (sent ++ sent') (asked + asked') o'' := by
  induction h' with
  | refl =>
    rw [List.append_nil]
    exact h
  | request _ hrequest ih => exact ih.request hrequest
  | forward _ hb hforward ih =>
    rw [← List.append_assoc]
    exact ih.forward hb hforward

theorem filled (h : Fills c size o sent asked o') : ∀ b ∈ sent, b.Filled size := by
  induction h with
  | refl => exact List.forall_mem_nil _
  | request _ _ ih => exact ih
  | forward _ hb _ ih => exact List.forall_mem_append.2 ⟨ih, List.forall_mem_singleton.2 hb⟩

theorem uses (h : Fills c size o sent asked o') : o.Uses c o' := by
  induction h with
  | refl => exact .refl o
  | request _ hrequest ih =>
    have hnext := ih.request
    rwa [hrequest] at hnext
  | @forward _ _ _ _ b _ _ hforward ih =>
    have hnext := ih.forward b
    rwa [hforward] at hnext

theorem requests_eq (h : Fills c size o sent asked o') : o'.requests = o.requests + asked := by
  induction h with
  | refl => rfl
  | @request _ _ o' _ _ hrequest ih =>
    have hcounted := o'.requests_request
    rw [hrequest, ih] at hcounted
    exact hcounted
  | @forward _ _ o' _ b _ _ hforward ih =>
    have hcounted := o'.requests_forward c b
    rw [hforward] at hcounted
    exact hcounted.trans ih

/-- A full buffer that was sent is the next offer on record, and was taken. -/
theorem offers_of_forward {b : Buffer} (hb : b.Filled size) (hsize : 0 < size)
    (h : o.forward c b = (.ok (), o')) :
    o'.partition.offers = o.partition.offers.push ⟨c, .buffer b, true⟩ := by
  have hforward := o.forward_forwarded c b
  rw [h] at hforward
  cases hforward with
  | unsent hempty _ =>
    have hlength : b.size = 0 := congrArg List.length hempty
    have hfull := hb.2
    omega
  | taken h => exact h

/-- **The partition was offered the full buffers and nothing else**, on any channel. -/
theorem offers_eq (h : Fills c size o sent asked o') (hsize : 0 < size) :
    o'.partition.offers.toList =
      o.partition.offers.toList ++ sent.map fun b => ⟨c, .buffer b, true⟩ := by
  induction h with
  | refl => exact (List.append_nil _).symm
  | @request _ _ o' _ _ hrequest ih =>
    have hsame := o'.offers_request
    rw [hrequest] at hsame
    rw [hsame, ih]
  | forward _ hb hforward ih =>
    rw [offers_of_forward hb hsize hforward, Array.toList_push, ih, List.map_append,
      List.append_assoc]
    rfl

end Outlet.Fills

namespace Lane

variable {c : ChannelId} {s : Serializer} {o : Outlet} {size lacking : Nat} {bytes : List UInt8}

/-- **What packing some bytes comes to**, for a lane that lacks a buffer at first (one) or has one
(zero). It succeeds with the rest of the bytes in a buffer with room, or a call fails: a request, or
the sending of a full buffer. Every buffer that is sent is full, and another is asked for in the
place of each. -/
inductive Packs (c : ChannelId) (size lacking : Nat) (bytes : List UInt8) (o : Outlet) :
    LaneResult Unit → Prop where
  | packed {sent : List Buffer} {rest : Buffer} {s' : Serializer} {o' : Outlet} :
    o.Fills c size sent (sent.length + lacking) o' → s'.buffer = some rest →
    rest.capacity = size → rest.size < size → s'.hasPending = false →
    sent.flatMap Buffer.contents ++ rest.contents = bytes →
    Packs c size lacking bytes o (.ok (), s', o')
  | denied {sent : List Buffer} {asked : Nat} {s' : Serializer} {mid o' : Outlet}
    (e : WriterError) :
    o.Fills c size sent asked mid → asked + 1 = sent.length + lacking →
    mid.request = (.error e, o') → s'.buffer = none →
    sent.flatMap Buffer.contents ++ octets s'.pending = bytes →
    Packs c size lacking bytes o (.error e, s', o')
  | refused {sent : List Buffer} {b : Buffer} {s' : Serializer} {mid o' : Outlet}
    (e : WriterError) :
    o.Fills c size sent (sent.length + lacking) mid → b.Filled size →
    mid.forward c b = (.error e, o') → s'.buffer = none →
    sent.flatMap Buffer.contents ++ (b.contents ++ octets s'.pending) = bytes →
    Packs c size lacking bytes o (.error e, s', o')

/-- Packing goes on after some calls that lead to a lane with a full buffer. -/
theorem Packs.after {sent : List Buffer} {asked : Nat} {mid : Outlet} {out : LaneResult Unit}
    (h : o.Fills c size sent asked mid) (hasked : asked = sent.length + lacking)
    (h' : Packs c size 0 bytes mid out) :
    Packs c size lacking (sent.flatMap Buffer.contents ++ bytes) o out := by
  have hcount (later : List Buffer) :
      asked + (later.length + 0) = (sent ++ later).length + lacking := by
    rw [List.length_append]
    omega
  cases h' with
  | packed hfills hbuffer hcapacity hroom hpending hbytes =>
    refine .packed (hcount _ ▸ h.trans hfills) hbuffer hcapacity hroom hpending ?_
    rw [List.flatMap_append, List.append_assoc, hbytes]
  | @denied later _ _ _ _ e hfills hasked' hrequest hbuffer hbytes =>
    refine .denied e (h.trans hfills) ?_ hrequest hbuffer ?_
    · have hsame := hcount later
      omega
    · rw [List.flatMap_append, List.append_assoc, hbytes]
  | refused e hfills hb hforward hbuffer hbytes =>
    refine .refused e (hcount _ ▸ h.trans hfills) hb hforward hbuffer ?_
    rw [List.flatMap_append, List.append_assoc, hbytes]

/-- What giving up a buffer comes to. -/
theorem surrender_eq {r : Except WriterError Unit} {emptied : Serializer} {sent : Outlet}
    (h : surrender c s o = (r, emptied, sent)) :
    (s.buffer = none ∧ r = .ok () ∧ emptied = s ∧ sent = o) ∨
      ∃ b, s.buffer = some b ∧ emptied = s.release ∧ o.forward c b = (r, sent) := by
  unfold surrender at h
  cases hb : s.buffer with
  | none =>
    simp only [hb, Prod.mk.injEq] at h
    obtain ⟨rfl, rfl, rfl⟩ := h
    exact .inl ⟨rfl, rfl, rfl, rfl⟩
  | some b =>
    simp only [hb, Prod.mk.injEq] at h
    obtain ⟨hr, rfl, ho⟩ := h
    exact .inr ⟨b, rfl, rfl, Prod.ext hr ho⟩

/-- The held buffer, if any, makes way for another. -/
theorem surrender_fills {emptied : Serializer} {sent : Outlet}
    (hs : surrender c s o = (.ok (), emptied, sent))
    (hfilled : ∀ b, s.buffer = some b → b.Filled size) :
    o.Fills c size s.buffer.toList 0 sent ∧ s.buffer.toList.length + (1 - s.holding) = 1 ∧
      s.buffer.toList.flatMap Buffer.contents ++ octets emptied.pending = s.unsent := by
  rcases surrender_eq hs with ⟨hb, -, rfl, rfl⟩ | ⟨b, hb, rfl, hforward⟩
  · rw [hb, Serializer.holding_of_none hb, Serializer.unsent_of_none hb]
    exact ⟨.refl, rfl, rfl⟩
  · rw [hb, Serializer.holding_of_some hb]
    have hnothing : o.Fills c size [] 0 o := .refl
    refine ⟨hnothing.forward (hfilled b hb) hforward, rfl, ?_⟩
    rw [Serializer.unsent, Serializer.held_of_buffer hb]
    simp [Serializer.release, Serializer.pending]

/-- What a lane without a buffer holds when it got one. -/
theorem install_lent {pool : Pool} {progress : Progress} {next : Serializer}
    (hs : s.buffer = none) (hsize : pool.bufferSize = size)
    (h : s.install pool.lent = (progress, next)) :
    ∃ b, next.buffer = some b ∧ b.capacity = size ∧ next.unsent = octets s.pending ∧
      (progress.needsBuffer = true → b.size = size) ∧
      (progress.needsBuffer = false → b.size < size ∧ next.hasPending = false) := by
  obtain ⟨b, hb, hcapacity, hfull, hroom⟩ :=
    Serializer.copy_of_some (s := { s with buffer := some pool.lent }) rfl hsize
  have hunsent := Serializer.unsent_install (Serializer.held_of_none hs) pool.contents_lent
  rw [Serializer.unsent_of_none hs, h] at hunsent
  change (s.install pool.lent).2.buffer = some b at hb
  change (s.install pool.lent).1.needsBuffer = true → _ at hfull
  change (s.install pool.lent).1.needsBuffer = false → _ ∧ (s.install pool.lent).2.hasPending = _
    at hroom
  rw [h] at hb hfull hroom
  exact ⟨b, hb, hcapacity, hunsent, hfull, hroom⟩

/-- **One round of refilling**: the held buffer, if any, is sent, and the lane holds another one. -/
theorem round_fills {emptied next : Serializer} {sent granted : Outlet} {progress : Progress}
    (hsize : o.pool.bufferSize = size) (hfilled : ∀ b, s.buffer = some b → b.Filled size)
    (hs : surrender c s o = (.ok (), emptied, sent)) (hrequest : sent.request = (.ok (), granted))
    (hinstall : emptied.install granted.pool.lent = (progress, next)) :
    o.Fills c size s.buffer.toList (s.buffer.toList.length + (1 - s.holding)) granted ∧
      granted.pool.bufferSize = size ∧
      s.buffer.toList.flatMap Buffer.contents ++ next.unsent = s.unsent ∧
      ∃ b, next.buffer = some b ∧ b.capacity = size ∧
        (progress.needsBuffer = true → b.size = size) ∧
        (progress.needsBuffer = false → b.size < size ∧ next.hasPending = false) := by
  obtain ⟨hfills, hcount, hbytes⟩ := surrender_fills hs hfilled
  have hround := hfills.request hrequest
  have hnone := buffer_surrender c s o
  rw [hs] at hnone
  have hgranted : granted.pool.bufferSize = size := hround.uses.bufferSize_eq.trans hsize
  obtain ⟨b, hb, hcapacity, hunsent, hcopied⟩ := install_lent hnone hgranted hinstall
  rw [hcount, hunsent]
  exact ⟨hround, hgranted, hbytes, b, hb, hcapacity, hcopied⟩

/-- **Refilling** a lane whose buffer, if it has one, is full packs what waits for a buffer. -/
theorem refill_packs (hsize : o.pool.bufferSize = size)
    (hfilled : ∀ b, s.buffer = some b → b.Filled size) :
    Packs c size (1 - s.holding) s.unsent o (refill c s o) := by
  -- after each round but the last the lane holds a full buffer again
  fun_induction refill c s o with
  | case1 s o e s' o' hs =>
    rcases surrender_eq hs with ⟨-, hr, -⟩ | ⟨b, hb, rfl, hforward⟩
    · cases hr
    · have hunsent : s.unsent = [].flatMap Buffer.contents ++ (b.contents ++ octets s.pending) := by
        rw [Serializer.unsent, Serializer.held_of_buffer hb]
        rfl
      rw [hunsent, Serializer.holding_of_some hb]
      exact .refused e .refl (hfilled b hb) hforward rfl rfl
  | case2 s o emptied sent hs e o' hrequest =>
    obtain ⟨hfills, hcount, hbytes⟩ := surrender_fills hs hfilled
    have hnone := buffer_surrender c s o
    rw [hs] at hnone
    exact .denied e hfills hcount.symm hrequest hnone hbytes
  | case3 s o emptied sent hs granted hrequest progress next hinstall hneeds ih =>
    obtain ⟨hround, hgranted, hbytes, b, hb, hcapacity, hfull, -⟩ :=
      round_fills hsize hfilled hs hrequest hinstall
    have hrest := ih hgranted fun b' hb' => by
      obtain rfl := Option.some.inj (hb.symm.trans hb')
      exact ⟨hcapacity, hfull hneeds⟩
    rw [Serializer.holding_of_some hb] at hrest
    rw [← hbytes]
    exact hrest.after hround rfl
  | case4 s o emptied sent hs granted hrequest progress next hinstall hdone =>
    obtain ⟨hround, -, hbytes, b, hb, hcapacity, -, hroom⟩ :=
      round_fills hsize hfilled hs hrequest hinstall
    obtain ⟨hroom, hpending⟩ := hroom (Bool.eq_false_iff.2 hdone)
    refine .packed hround hb hcapacity hroom hpending ?_
    rw [← hbytes, Serializer.unsent_of_settled hpending, Serializer.held_of_buffer hb]

/-- **The law of packing.** Serving a frame to a lane with room packs it behind what the lane
holds. -/
theorem serve_packs (hsize : o.pool.bufferSize = size) (hroomy : s.Roomy size)
    (hs : s.hasPending = false) (frame : ByteArray) :
    (serve c (.ok frame) s o).1 = true ∧
      Packs c size (1 - s.holding) (s.held ++ octets frame) o (serve c (.ok frame) s o).2 := by
  have hcopied := Serializer.unsent_copy { s with frame := frame, position := 0 }
  have hholding := Serializer.holding_copy { s with frame := frame, position := 0 }
  rw [unsent_newFrame hs, Serializer.unsent_of_settled hs] at hcopied
  change _ = s.holding at hholding
  have hnone (hb : s.buffer = none) :=
    Serializer.copy_of_none (s := { s with frame := frame, position := 0 }) hb
  have hsome {b : Buffer} (hb : s.buffer = some b) :=
    Serializer.copy_of_some (s := { s with frame := frame, position := 0 }) hb (hroomy b hb).1
  unfold serve Serializer.add
  rw [if_neg (Bool.eq_false_iff.1 hs)]
  rcases hcopy : Serializer.copy { s with frame := frame, position := 0 } with ⟨progress, s'⟩
  rw [hcopy] at hcopied hholding hnone hsome
  simp only [hcopy]
  refine ⟨trivial, ?_⟩
  rw [← hcopied, ← hholding]
  by_cases hneeds : progress.needsBuffer = true
  · rw [if_pos hneeds]
    refine refill_packs hsize fun b' hb' => ?_
    cases hb : s.buffer with
    | none =>
      obtain ⟨rfl, -⟩ := hnone hb
      exact nomatch hb.symm.trans hb'
    | some b =>
      obtain ⟨b'', hb'', hcapacity, hfull, -⟩ := hsome hb
      obtain rfl := Option.some.inj (hb''.symm.trans hb')
      exact ⟨hcapacity, hfull hneeds⟩
  · rw [if_neg hneeds]
    cases hb : s.buffer with
    | none => exact absurd (hnone hb).2 hneeds
    | some b =>
      obtain ⟨b', hb', hcapacity, -, hroom⟩ := hsome hb
      obtain ⟨hroom, hpending⟩ := hroom (Bool.eq_false_iff.2 hneeds)
      rw [Serializer.holding_of_some hb', Serializer.unsent_of_settled hpending,
        Serializer.held_of_buffer hb']
      exact .packed .refl hb' hcapacity hroom hpending rfl

end Lane

end Fanout
