import Fanout.Proofs.Writer.Offers

/-!
# Calls of an outlet

What an outlet goes through while a lane works is a sequence of calls on one channel (`Uses`):
requests for buffers, buffers and events that are offered, buffers that are given back. What every
call keeps is kept by all of them.

* `Uses.offersTo_other` — work on one channel offers nothing on another.
* `Uses.faithful` — channels hold what was delivered on them (`Faithful`), whatever consumers do.
* `Uses.standing_eq` — no call touches the clock or the counts of records.
* `Uses.bufferSize_eq` — all buffers have one size, whatever is called.
-/

namespace Fanout

/-! ## What consumers find -/

/-- A consumer may leave what is queued as it is, or go away and take part of it along. -/
def Subpartition.Leaves (s s' : Subpartition) : Prop :=
  s'.sent.toList <+: s.sent.toList ∧
    (s'.connected = true → s.connected = true ∧ s'.sent = s.sent)

namespace Partition

/-- **A channel holds what was delivered on it**: all of it while its consumer is there, and the
beginning of it when the consumer has gone away. -/
structure Faithful (p : Partition) (width : Nat) : Prop where
  length_eq : p.subpartitions.length = width
  sent_isPrefix {c : ChannelId} {s : Subpartition} : p.subpartitions[c.toNat]? = some s →
    s.sent.toList <+: p.delivered c
  sent_eq {c : ChannelId} {s : Subpartition} : p.subpartitions[c.toNat]? = some s →
    s.connected = true → s.sent.toList = p.delivered c

namespace Faithful

variable {p p' : Partition} {width : Nat}

theorem start {n : Nat} (h : p.subpartitions = List.replicate n Subpartition.start)
    (hoffers : p.offers = #[]) : p.Faithful n := by
  have hdelivered (c : ChannelId) : p.delivered c = [] := by
    simp [delivered, offersTo, hoffers, takenOf]
  have hsent {c : ChannelId} {s : Subpartition} (hs : p.subpartitions[c.toNat]? = some s) :
      s.sent.toList = [] := by
    rw [h] at hs
    rw [List.eq_of_mem_replicate (List.mem_of_getElem? hs)]
    rfl
  refine ⟨by rw [h, List.length_replicate], fun hs => ?_, fun hs _ => ?_⟩
  · rw [hsent hs]
    exact List.nil_prefix
  · rw [hsent hs, hdelivered]

/-- What consumers do keeps the channels faithful. -/
theorem of_consumers (h : p.Faithful width) (hoffers : p'.offers = p.offers)
    (hlength : p'.subpartitions.length = p.subpartitions.length)
    (hsub : ∀ (i : Nat) (s' : Subpartition), p'.subpartitions[i]? = some s' →
      ∃ s, p.subpartitions[i]? = some s ∧ s.Leaves s') : p'.Faithful width := by
  have hdelivered (c : ChannelId) : p'.delivered c = p.delivered c := by
    rw [delivered, offersTo_congr hoffers, delivered]
  refine ⟨hlength.trans h.length_eq, fun hs => ?_, fun hs hconnected => ?_⟩
  · obtain ⟨s, hs, hprefix, _⟩ := hsub _ _ hs
    rw [hdelivered]
    exact hprefix.trans (h.sent_isPrefix hs)
  · obtain ⟨s, hs, _, hkeep⟩ := hsub _ _ hs
    obtain ⟨hconnected, hsame⟩ := hkeep hconnected
    rw [hdelivered, hsame]
    exact h.sent_eq hs hconnected

theorem update (h : p.Faithful width) (c : ChannelId) (f : Subpartition → Subpartition)
    (hf : ∀ s : Subpartition, s.Leaves (f s)) : (p.update c f).Faithful width := by
  refine h.of_consumers rfl (by simp [Partition.update]) fun i s' hs' => ?_
  simp only [Partition.update, List.getElem?_modify] at hs'
  obtain ⟨s, hs, rfl⟩ := Option.map_eq_some_iff.1 hs'
  refine ⟨s, hs, ?_⟩
  by_cases hi : c.toNat = i
  · rw [if_pos hi]
    exact hf s
  · rw [if_neg hi]
    exact ⟨List.prefix_rfl, fun hconnected => ⟨hconnected, rfl⟩⟩

/-- A refused offer delivers nothing. -/
theorem refused (h : p.Faithful width) {c : ChannelId} {d : Delivery}
    (hoffers : p'.offers = p.offers.push ⟨c, d, false⟩)
    (hsub : p'.subpartitions = p.subpartitions) : p'.Faithful width := by
  have hdelivered (c' : ChannelId) : p'.delivered c' = p.delivered c' := by
    by_cases hc : c = c'
    · subst hc
      rw [delivered, offersTo_of_push hoffers, takenOf_append, takenOf_refused, List.append_nil,
        delivered]
    · rw [delivered, offersTo_of_push_other hc hoffers, delivered]
  refine ⟨by rw [hsub, h.length_eq], fun hs => ?_, fun hs hconnected => ?_⟩
  · rw [hdelivered]
    exact h.sent_isPrefix (hsub ▸ hs)
  · rw [hdelivered]
    exact h.sent_eq (hsub ▸ hs) hconnected

/-- A delivery that is taken is the last one that the channel holds, and on no other channel
anything changes. -/
theorem taken (h : p.Faithful width) {c : ChannelId} {d : Delivery} {s : Subpartition}
    (hs : p.subpartitions[c.toNat]? = some s) (hconnected : s.connected = true) :
    ((p.update c fun s => { s with sent := s.sent.push d }).note c d true).Faithful width := by
  have hsame : ((p.update c fun s => { s with sent := s.sent.push d }).note c d true).delivered c =
      p.delivered c ++ [d] := delivered_of_taken (offersTo_of_push rfl)
  have hother {c' : ChannelId} (hne : c ≠ c') :
      ((p.update c fun s => { s with sent := s.sent.push d }).note c d true).delivered c' =
        p.delivered c' := by
    rw [delivered, offersTo_of_push_other (p := p) hne rfl, delivered]
  -- a subpartition afterwards is that of the channel, with the delivery, or it is as it was
  have hsub {c' : ChannelId} {s' : Subpartition}
      (hs' : ((p.update c fun s => { s with sent := s.sent.push d }).note c d
        true).subpartitions[c'.toNat]? = some s') :
      c = c' ∧ s'.sent.toList = p.delivered c ++ [d] ∨
        c ≠ c' ∧ p.subpartitions[c'.toNat]? = some s' := by
    simp only [note, Partition.update, List.getElem?_modify] at hs'
    by_cases hc : c = c'
    · subst hc
      simp only [hs, if_true, Option.map_eq_map, Option.map_some, Option.some.injEq] at hs'
      rw [← hs', Array.toList_push, h.sent_eq hs hconnected]
      exact .inl ⟨rfl, rfl⟩
    · have hi : c.toNat ≠ c'.toNat := fun hi => hc (ChannelId.ext_toNat hi)
      simp only [if_neg hi, Option.map_eq_map, Option.map_id_fun', id_eq] at hs'
      exact .inr ⟨hc, hs'⟩
  refine ⟨by simp [Partition.update, note, h.length_eq], fun hs' => ?_, fun hs' hconnected' => ?_⟩
  · rcases hsub hs' with ⟨rfl, hsent⟩ | ⟨hne, hs'⟩
    · exact ⟨[], (List.append_nil _).trans (hsent.trans hsame.symm)⟩
    · rw [hother hne]
      exact h.sent_isPrefix hs'
  · rcases hsub hs' with ⟨rfl, hsent⟩ | ⟨hne, hs'⟩
    · rw [hsame, hsent]
    · rw [hother hne]
      exact h.sent_eq hs' hconnected'

theorem send (h : p.Faithful width) (c : ChannelId) (d : Delivery) :
    (p.send c d).2.Faithful width := by
  unfold Partition.send
  split
  · exact h.refused rfl rfl
  · rename_i s hs
    by_cases hconnected : s.connected = true
    · rw [if_pos hconnected]
      exact h.taken hs hconnected
    · rw [if_neg hconnected]
      exact h.refused rfl rfl

theorem writeBuffer (h : p.Faithful width) (c : ChannelId) (b : Buffer) :
    (p.writeBuffer c b).2.Faithful width := by
  unfold Partition.writeBuffer
  rcases p.bufferFaults.next with ⟨fault, plan⟩
  have hplan : ({ p with bufferFaults := plan } : Partition).Faithful width := ⟨h.1, h.2, h.3⟩
  cases fault with
  | some reason => exact hplan.refused rfl rfl
  | none => exact hplan.send c (.buffer b)

theorem writeEvent (h : p.Faithful width) (c : ChannelId) (e : Event) :
    (p.writeEvent c e).2.Faithful width := by
  unfold Partition.writeEvent
  rcases p.eventFaults.next with ⟨fault, plan⟩
  have hplan : ({ p with eventFaults := plan } : Partition).Faithful width := ⟨h.1, h.2, h.3⟩
  cases fault with
  | some reason => exact hplan.refused rfl rfl
  | none => exact hplan.send c (.event e)

theorem markFrom (h : p.Faithful width) (i n : Nat) : (p.markFrom i n).2.Faithful width := by
  induction n generalizing p i with
  | zero => exact h
  | succ n ih =>
    unfold Partition.markFrom
    cases ChannelId.ofNat? i with
    | none => exact h
    | some c =>
      have hsend := h.send c .endOfSuperstep
      rcases hout : p.send c .endOfSuperstep with ⟨r, p'⟩
      rw [hout] at hsend
      simp only [hout]
      cases r with
      | error e => exact hsend
      | ok _ => exact ih hsend (i + 1)

theorem writeEndOfSuperstep (h : p.Faithful width) : p.writeEndOfSuperstep.2.Faithful width := by
  unfold Partition.writeEndOfSuperstep
  rcases p.markerFaults.next with ⟨fault, plan⟩
  have hplan : ({ p with markerFaults := plan } : Partition).Faithful width := ⟨h.1, h.2, h.3⟩
  cases fault with
  | some reason => exact hplan
  | none => exact hplan.markFrom 0 _

end Faithful

end Partition

namespace Outlet

variable {o : Outlet} {width : Nat}

theorem faithful_turn (h : o.partition.Faithful width) (t : Turn) :
    (o.turn t).partition.Faithful width := by
  cases t with
  | receiveOne c | receive c =>
    exact h.update c _ fun s => ⟨List.prefix_rfl, fun hconnected => ⟨hconnected, rfl⟩⟩
  | disconnect c =>
    refine h.update c _ fun s => ⟨?_, fun hconnected => nomatch hconnected⟩
    rw [Subpartition.disconnect, Array.toList_extract, List.extract_eq_take_drop]
    exact List.take_prefix _ _
  | settle =>
    -- all consumers at once, so not an update of one channel
    refine h.of_consumers rfl (List.length_map _) fun i s' hs' => ?_
    obtain ⟨s, hs, rfl⟩ := Option.map_eq_some_iff.1 (List.getElem?_map.symm.trans hs')
    exact ⟨s, hs, List.prefix_rfl, fun hconnected => ⟨hconnected, rfl⟩⟩
  | borrow =>
    simp only [turn]
    split <;> exact h
  | giveBack | destroyPool => exact h

theorem faithful_request (h : o.partition.Faithful width) :
    o.request.2.partition.Faithful width := by
  refine request_keeps (P := fun o => o.partition.Faithful width) ?_ ?_ h
  · intro o t ho
    exact faithful_turn ho t
  · intro o pool requests ho
    exact ho

theorem partition_forward (o : Outlet) (c : ChannelId) (b : Buffer) :
    (o.forward c b).2.partition =
      if b.isEmpty then o.partition else (o.partition.writeBuffer c b).2 := by
  unfold forward
  split
  · rfl
  · rcases o.partition.writeBuffer c b with ⟨_ | _, p⟩ <;> rfl

theorem partition_sendEvent (o : Outlet) (c : ChannelId) (e : Event) :
    (o.sendEvent c e).2.partition = (o.partition.writeEvent c e).2 := by
  unfold sendEvent
  rcases o.partition.writeEvent c e with ⟨_ | _, p⟩ <;> rfl

theorem partition_endSuperstep (o : Outlet) :
    o.endSuperstep.2.partition = o.partition.writeEndOfSuperstep.2 := by
  unfold endSuperstep
  rcases o.partition.writeEndOfSuperstep with ⟨_ | _, p⟩ <;> rfl

theorem faithful_forward (h : o.partition.Faithful width) (c : ChannelId) (b : Buffer) :
    (o.forward c b).2.partition.Faithful width := by
  rw [partition_forward]
  split
  · exact h
  · exact h.writeBuffer c b

theorem faithful_sendEvent (h : o.partition.Faithful width) (c : ChannelId) (e : Event) :
    (o.sendEvent c e).2.partition.Faithful width := by
  rw [partition_sendEvent]
  exact h.writeEvent c e

theorem faithful_endSuperstep (h : o.partition.Faithful width) :
    o.endSuperstep.2.partition.Faithful width := by
  rw [partition_endSuperstep]
  exact h.writeEndOfSuperstep

/-! ## Work on one channel -/

/-- The calls on one channel that lead from one outlet to another. -/
inductive Uses (c : ChannelId) : Outlet → Outlet → Prop where
  | refl (o : Outlet) : Uses c o o
  | request {o o' : Outlet} : Uses c o o' → Uses c o o'.request.2
  | forward {o o' : Outlet} (b : Buffer) : Uses c o o' → Uses c o (o'.forward c b).2
  | sendEvent {o o' : Outlet} (e : Event) : Uses c o o' → Uses c o (o'.sendEvent c e).2
  | discard {o o' : Outlet} (b : Buffer) : Uses c o o' → Uses c o (o'.discard b)

namespace Uses

variable {c : ChannelId} {o o' o'' : Outlet}

theorem trans (h : Uses c o o') (h' : Uses c o' o'') : Uses c o o'' := by
  induction h' with
  | refl => exact h
  | request _ ih => exact ih.request
  | forward b _ ih => exact ih.forward b
  | sendEvent e _ ih => exact ih.sendEvent e
  | discard b _ ih => exact ih.discard b

/-- **Work on one channel offers nothing on another.** -/
theorem offersTo_other (h : Uses c o o') {other : ChannelId} (hne : c ≠ other) :
    o'.partition.offersTo other = o.partition.offersTo other := by
  induction h with
  | refl => rfl
  | request _ ih => rw [Partition.offersTo_congr (offers_request _), ih]
  | @forward o' b _ ih =>
    rw [← ih]
    have hforward := o'.forward_forwarded c b
    rcases hout : o'.forward c b with ⟨r, last⟩
    rw [hout] at hforward
    cases hforward with
    | unsent _ h => exact Partition.offersTo_congr h other
    | taken h => exact Partition.offersTo_of_push_other hne h
    | refused e h => exact Partition.offersTo_of_push_other hne h
  | @sendEvent o' e _ ih =>
    rw [← ih]
    have hnoted := o'.sendEvent_noted c e
    rcases hout : o'.sendEvent c e with ⟨r, last⟩
    rw [hout] at hnoted
    cases hnoted with
    | taken h => exact Partition.offersTo_of_push_other hne h
    | refused cause h => exact Partition.offersTo_of_push_other hne h
  | discard _ _ ih => exact ih

/-- **Channels stay faithful**, whatever consumers do meanwhile. -/
theorem faithful (h : Uses c o o') {width : Nat} (ho : o.partition.Faithful width) :
    o'.partition.Faithful width := by
  induction h with
  | refl => exact ho
  | request _ ih => exact faithful_request ih
  | forward b _ ih => exact faithful_forward ih c b
  | sendEvent e _ ih => exact faithful_sendEvent ih c e
  | discard _ _ ih => exact ih

end Uses

/-! ## What no call touches -/

/-- What stands still while lanes work: the clock, how requests wait and among whom, and the counts
of the records that were sent, held back and sent nowhere. -/
structure Standing where
  now : Duration
  patience : Patience
  surroundings : Surroundings
  emitted : UInt64
  filtered : UInt64
  unrouted : UInt64

def standing (o : Outlet) : Standing :=
  ⟨o.now, o.patience, o.surroundings, o.traffic.emitted, o.traffic.filtered, o.traffic.unrouted⟩

variable {c : ChannelId} {o' : Outlet}

theorem standing_turn (o : Outlet) (t : Turn) : (o.turn t).standing = o.standing := by
  cases t with
  | borrow =>
    simp only [turn]
    split <;> rfl
  | receiveOne _ | receive _ | giveBack | disconnect _ | destroyPool | settle => rfl

theorem standing_request (o : Outlet) : o.request.2.standing = o.standing := by
  refine request_keeps (P := fun o' => o'.standing = o.standing) ?_ ?_ rfl
  · intro o' t ho'
    exact (standing_turn o' t).trans ho'
  · intro o' pool requests ho'
    exact ho'

theorem standing_forward (o : Outlet) (c : ChannelId) (b : Buffer) :
    (o.forward c b).2.standing = o.standing := by
  unfold forward
  split
  · rfl
  · rcases o.partition.writeBuffer c b with ⟨_ | _, p⟩ <;> rfl

theorem standing_sendEvent (o : Outlet) (c : ChannelId) (e : Event) :
    (o.sendEvent c e).2.standing = o.standing := by
  unfold sendEvent
  rcases o.partition.writeEvent c e with ⟨_ | _, p⟩ <;> rfl

theorem standing_endSuperstep (o : Outlet) : o.endSuperstep.2.standing = o.standing := by
  unfold endSuperstep
  rcases o.partition.writeEndOfSuperstep with ⟨_ | _, p⟩ <;> rfl

theorem Uses.standing_eq (h : Uses c o o') : o'.standing = o.standing := by
  induction h with
  | refl => rfl
  | request _ ih => exact (standing_request _).trans ih
  | forward b _ ih => exact (standing_forward _ c b).trans ih
  | sendEvent e _ ih => exact (standing_sendEvent _ c e).trans ih
  | discard _ _ ih => exact ih

/-- The clock stands still during an operation. -/
theorem Uses.now_eq (h : Uses c o o') : o'.now = o.now := congrArg Standing.now h.standing_eq

/-! ## Requests are counted -/

theorem requests_turn (o : Outlet) (t : Turn) : (o.turn t).requests = o.requests := by
  cases t with
  | borrow =>
    simp only [turn]
    split <;> rfl
  | receiveOne c | receive c | giveBack | disconnect c | destroyPool | settle => rfl

theorem requests_request (o : Outlet) : o.request.2.requests = o.requests + 1 := by
  have hawait {o : Outlet} {n : Nat} (h : o.requests = n) (index : Nat) :
      (o.await index).requests = n :=
    await_keeps (P := fun o => o.requests = n)
      (fun o t (_ : True) ho => (requests_turn o t).trans ho)
      (fun _ _ _ => ⟨fun _ _ => trivial, fun _ _ => trivial⟩) trivial h index
  unfold request
  dsimp only
  split
  · rfl
  · rfl
  · split
    · rfl
    · split <;> exact hawait rfl _

theorem requests_forward (o : Outlet) (c : ChannelId) (b : Buffer) :
    (o.forward c b).2.requests = o.requests := by
  unfold forward
  split
  · rfl
  · rcases o.partition.writeBuffer c b with ⟨_ | _, p⟩ <;> rfl

theorem requests_sendEvent (o : Outlet) (c : ChannelId) (e : Event) :
    (o.sendEvent c e).2.requests = o.requests := by
  unfold sendEvent
  rcases o.partition.writeEvent c e with ⟨_ | _, p⟩ <;> rfl

theorem requests_endSuperstep (o : Outlet) : o.endSuperstep.2.requests = o.requests := by
  unfold endSuperstep
  rcases o.partition.writeEndOfSuperstep with ⟨_ | _, p⟩ <;> rfl

/-! ## All buffers have one size -/

theorem bufferSize_turn (o : Outlet) (t : Turn) :
    (o.turn t).pool.bufferSize = o.pool.bufferSize := by
  cases t with
  | borrow =>
    simp only [turn]
    split
    · rename_i htry
      exact Pool.bufferSize_of_tryRequest htry
    · rename_i htry
      exact Pool.bufferSize_of_tryRequest htry
  | giveBack | settle | disconnect _ => exact Pool.bufferSize_recycleMany _ _
  | receiveOne _ | receive _ | destroyPool => rfl

theorem bufferSize_request (o : Outlet) : o.request.2.pool.bufferSize = o.pool.bufferSize := by
  have hturn (o' : Outlet) (t : Turn) (_ : True)
      (h : o'.pool.bufferSize = o.pool.bufferSize) :
      (o'.turn t).pool.bufferSize = o.pool.bufferSize := (bufferSize_turn o' t).trans h
  have hturned :
      (o.turns (o.surroundings.before o.requests)).pool.bufferSize = o.pool.bufferSize :=
    turns_keep (P := fun o' => o'.pool.bufferSize = o.pool.bufferSize) hturn rfl
      fun _ _ => trivial
  have hawaited {o' : Outlet} (index : Nat) (h : o'.pool.bufferSize = o.pool.bufferSize) :
      (o'.await index).pool.bufferSize = o.pool.bufferSize :=
    await_keeps (P := fun o' => o'.pool.bufferSize = o.pool.bufferSize) hturn
      (fun _ _ _ => ⟨fun _ _ => trivial, fun _ _ => trivial⟩) trivial h index
  unfold request
  dsimp only
  split
  · rename_i htry
    exact (Pool.bufferSize_of_tryRequest htry).trans hturned
  · rename_i htry
    exact (Pool.bufferSize_of_tryRequest htry).trans hturned
  · rename_i htry
    have htried := (Pool.bufferSize_of_tryRequest htry).trans hturned
    split
    · rename_i hwait
      exact (Pool.bufferSize_of_startWait hwait).trans htried
    · rename_i pool hwait
      -- none was free, so the request waited; what others did meanwhile leaves the size alone too
      have hwaited := (Pool.bufferSize_of_startWait hwait).trans htried
      split
      · rename_i hend
        exact (Pool.bufferSize_of_endWait hend).trans (hawaited _ hwaited)
      · rename_i hend
        exact (Pool.bufferSize_of_endWait hend).trans (hawaited _ hwaited)

theorem bufferSize_forward (o : Outlet) (c : ChannelId) (b : Buffer) :
    (o.forward c b).2.pool.bufferSize = o.pool.bufferSize := by
  unfold forward
  split
  · rfl
  · rcases o.partition.writeBuffer c b with ⟨_ | _, p⟩ <;> rfl

theorem bufferSize_sendEvent (o : Outlet) (c : ChannelId) (e : Event) :
    (o.sendEvent c e).2.pool.bufferSize = o.pool.bufferSize := by
  unfold sendEvent
  rcases o.partition.writeEvent c e with ⟨_ | _, p⟩ <;> rfl

theorem bufferSize_endSuperstep (o : Outlet) :
    o.endSuperstep.2.pool.bufferSize = o.pool.bufferSize := by
  unfold endSuperstep
  rcases o.partition.writeEndOfSuperstep with ⟨_ | _, p⟩ <;> rfl

theorem Uses.bufferSize_eq (h : Uses c o o') : o'.pool.bufferSize = o.pool.bufferSize := by
  induction h with
  | refl => rfl
  | request _ ih => exact (bufferSize_request _).trans ih
  | forward b _ ih => exact (bufferSize_forward _ c b).trans ih
  | sendEvent e _ ih => exact (bufferSize_sendEvent _ c e).trans ih
  | discard _ _ ih => exact ih

end Outlet

end Fanout
