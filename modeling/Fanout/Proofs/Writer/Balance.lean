import Fanout.Proofs.Buffer.Accounts
import Fanout.Writer.Outlet
import Mathlib.Algebra.GroupWithZero.Nat
import Mathlib.Algebra.Order.BigOperators.Group.List
import Mathlib.Algebra.Order.Group.Nat

/-!
# The balance of an outlet

Where the leased buffers of a pool are: with the lanes of the writer, queued in the partition, or
with others. An outlet is balanced (`Balanced`) if the accounts of its pool say just that. Each call
of an outlet moves a buffer from one place to another or gives it back, and leaves the outlet
balanced for the buffers that the lanes hold then.

* `Balanced.turn`, `Balanced.request`, `Balanced.forward` — what others do, a buffer for a lane, and
  a buffer from a lane.
-/

namespace Fanout

/-- A change at one position of a list changes a sum over the list by what it changes there. -/
theorem sum_map_modify {α : Type} (g : α → Nat) (f : α → α) (l : List α) (i : Nat) :
    ((l.modify i f).map g).sum + l[i]?.elim 0 g = (l.map g).sum + l[i]?.elim 0 fun a => g (f a) := by
  induction l generalizing i with
  | nil => simp
  | cons a l ih =>
    cases i with
    | zero =>
      simp only [List.modify_zero_cons, List.map_cons, List.sum_cons, List.getElem?_cons_zero,
        Option.elim_some]
      omega
    | succ i =>
      have hrest := ih i
      simp only [List.modify_succ_cons, List.map_cons, List.sum_cons, List.getElem?_cons_succ]
      omega

/-! ## Queued buffers -/

/-- How many buffers a delivery carries. -/
def Delivery.buffers : Delivery → Nat
  | .buffer _ => 1
  | _ => 0

theorem bufferCount_eq_sum (ds : Array Delivery) :
    bufferCount ds = (ds.toList.map Delivery.buffers).sum := by
  have hfold (ds : List Delivery) (n : Nat) :
      ds.foldl (fun n d => match d with | .buffer _ => n + 1 | _ => n) n =
        n + (ds.map Delivery.buffers).sum := by
    induction ds generalizing n with
    | nil => rfl
    | cons d ds ih =>
      rw [List.foldl_cons, ih, List.map_cons, List.sum_cons]
      cases d with
      | buffer b => exact Nat.add_assoc n 1 _
      | event e | endOfSuperstep => simp [Delivery.buffers]
  rw [bufferCount, ← Array.foldl_toList]
  exact (hfold ds.toList 0).trans (Nat.zero_add _)

namespace Subpartition

/-- The consumer has received no more than was sent. -/
def Sound (s : Subpartition) : Prop := s.received ≤ s.sent.size

/-- The buffers that are queued for the consumer. -/
def buffers (s : Subpartition) : Nat := bufferCount s.queue

variable {s : Subpartition}

theorem buffers_eq_sum (s : Subpartition) :
    s.buffers = ((s.sent.toList.drop s.received).map Delivery.buffers).sum := by
  rw [buffers, bufferCount_eq_sum, queue, Array.toList_extract, List.extract_eq_take_drop,
    List.take_of_length_le (by simp)]

theorem buffers_push (h : s.Sound) (d : Delivery) :
    { s with sent := s.sent.push d }.buffers = s.buffers + d.buffers := by
  rw [buffers_eq_sum, buffers_eq_sum, Array.toList_push,
    List.drop_append_of_le_length (by simpa [Sound] using h)]
  simp

theorem buffers_receiveOne_le (s : Subpartition) : s.receiveOne.buffers ≤ s.buffers := by
  rw [buffers_eq_sum, buffers_eq_sum]
  refine List.Sublist.sum_le_sum (List.Sublist.map _ ?_) fun _ _ => Nat.zero_le _
  show (s.sent.toList.drop (min (s.received + 1) s.sent.size)).Sublist _
  by_cases hreceived : s.received ≤ s.sent.size
  · exact List.drop_sublist_drop_left _ (Nat.le_min.2 ⟨Nat.le_succ _, hreceived⟩)
  · rw [List.drop_of_length_le (Nat.le_min.2 ⟨by rw [Array.length_toList]; omega, by simp⟩)]
    exact List.nil_sublist _

theorem buffers_receiveAll (s : Subpartition) : s.receiveAll.buffers = 0 := by
  rw [buffers_eq_sum, receiveAll, List.drop_of_length_le (by simp)]
  rfl

theorem buffers_disconnect (s : Subpartition) : s.disconnect.buffers = 0 := by
  rw [buffers_eq_sum, disconnect, List.drop_of_length_le (by simp)]
  rfl

end Subpartition

namespace Partition

variable {p : Partition}

/-- No consumer has received more than was sent to it. -/
def Sound (p : Partition) : Prop := ∀ s ∈ p.subpartitions, s.Sound

theorem allQueuedBuffers_eq_sum (p : Partition) :
    p.allQueuedBuffers = (p.subpartitions.map Subpartition.buffers).sum := by
  have hfold (subs : List Subpartition) (n : Nat) :
      subs.foldl (fun n s => n + bufferCount s.queue) n =
        n + (subs.map Subpartition.buffers).sum := by
    induction subs generalizing n with
    | nil => rfl
    | cons s subs ih =>
      rw [List.foldl_cons, ih, List.map_cons, List.sum_cons, Nat.add_assoc]
      rfl
  rw [allQueuedBuffers, hfold, Nat.zero_add]

/-- A change on one channel changes what is queued by what it changes there. -/
theorem allQueuedBuffers_update (p : Partition) (c : ChannelId) (f : Subpartition → Subpartition) :
    (p.update c f).allQueuedBuffers + p.queuedBuffers c =
      p.allQueuedBuffers + (p.update c f).queuedBuffers c := by
  have hqueued : p.queuedBuffers c = p.subpartitions[c.toNat]?.elim 0 Subpartition.buffers := by
    unfold queuedBuffers
    cases p.subpartitions[c.toNat]? <;> rfl
  have hchanged : (p.update c f).queuedBuffers c =
      p.subpartitions[c.toNat]?.elim 0 fun s => (f s).buffers := by
    unfold queuedBuffers update
    simp only [List.getElem?_modify, if_true]
    cases p.subpartitions[c.toNat]? <;> rfl
  rw [allQueuedBuffers_eq_sum, allQueuedBuffers_eq_sum, hqueued, hchanged]
  exact sum_map_modify Subpartition.buffers f p.subpartitions c.toNat

theorem Sound.update (h : p.Sound) (c : ChannelId) {f : Subpartition → Subpartition}
    (hf : ∀ s : Subpartition, s.Sound → (f s).Sound) : (p.update c f).Sound := by
  intro s' hs'
  obtain ⟨i, hi⟩ := List.mem_iff_getElem?.1 hs'
  simp only [Partition.update, List.getElem?_modify] at hi
  obtain ⟨s, hs, rfl⟩ := Option.map_eq_some_iff.1 hi
  have hsound := h s (List.mem_of_getElem? hs)
  by_cases hc : c.toNat = i
  · rw [if_pos hc]
    exact hf s hsound
  · rw [if_neg hc]
    exact hsound

theorem queuedBuffers_update {f : Subpartition → Subpartition}
    (hf : ∀ s : Subpartition, (f s).buffers = 0) (c : ChannelId) :
    (p.update c f).queuedBuffers c = 0 := by
  simp only [queuedBuffers, update, List.getElem?_modify, if_true]
  cases p.subpartitions[c.toNat]? with
  | none => rfl
  | some s => exact hf s

theorem allQueuedBuffers_receiveEverywhere (p : Partition) :
    p.receiveEverywhere.allQueuedBuffers = 0 := by
  rw [allQueuedBuffers_eq_sum, receiveEverywhere, List.map_map]
  exact List.sum_eq_zero fun n hn => by
    obtain ⟨s, _, rfl⟩ := List.mem_map.1 hn
    exact s.buffers_receiveAll

/-! ## Calls of a partition -/

/-- What a call of a partition with `queued` buffers comes to that queues `n` more if it
succeeds. -/
inductive Queues (queued n : Nat) : Except TransportError Unit × Partition → Prop where
  | taken {p : Partition} : p.Sound → p.allQueuedBuffers = queued + n → Queues queued n (.ok (), p)
  | refused (e : TransportError) {p : Partition} : p.Sound → p.allQueuedBuffers = queued →
    Queues queued n (.error e, p)

theorem queues_send (h : p.Sound) (c : ChannelId) (d : Delivery) :
    Queues p.allQueuedBuffers d.buffers (p.send c d) := by
  unfold send
  split
  · exact .refused _ h rfl
  · rename_i s hs
    by_cases hconnected : s.connected = true
    · rw [if_pos hconnected]
      refine .taken (h.update c fun s hs => ?_) ?_
      · simpa [Subpartition.Sound] using Nat.le_succ_of_le hs
      · have hupdate := p.allQueuedBuffers_update c fun s => { s with sent := s.sent.push d }
        have hpush := Subpartition.buffers_push (h s (List.mem_of_getElem? hs)) d
        have hbefore : p.queuedBuffers c = s.buffers := by
          rw [queuedBuffers, hs]
          rfl
        have hafter : (p.update c fun s => { s with sent := s.sent.push d }).queuedBuffers c =
            { s with sent := s.sent.push d }.buffers := by
          simp only [queuedBuffers, update, List.getElem?_modify, hs]
          rfl
        show (p.update c fun s => { s with sent := s.sent.push d }).allQueuedBuffers = _
        omega
    · rw [if_neg hconnected]
      exact .refused _ h rfl

theorem queues_writeBuffer (h : p.Sound) (c : ChannelId) (b : Buffer) :
    Queues p.allQueuedBuffers 1 (p.writeBuffer c b) := by
  unfold writeBuffer
  rcases p.bufferFaults.next with ⟨fault, plan⟩
  cases fault with
  | some reason => exact .refused _ h rfl
  | none => exact queues_send (p := { p with bufferFaults := plan }) h c (.buffer b)

theorem queues_writeEvent (h : p.Sound) (c : ChannelId) (e : Event) :
    Queues p.allQueuedBuffers 0 (p.writeEvent c e) := by
  unfold writeEvent
  rcases p.eventFaults.next with ⟨fault, plan⟩
  cases fault with
  | some reason => exact .refused _ h rfl
  | none => exact queues_send (p := { p with eventFaults := plan }) h c (.event e)

theorem queues_markFrom (h : p.Sound) (i n : Nat) :
    Queues p.allQueuedBuffers 0 (p.markFrom i n) := by
  induction n generalizing p i with
  | zero => exact .taken h rfl
  | succ n ih =>
    unfold markFrom
    cases ChannelId.ofNat? i with
    | none => exact .refused _ h rfl
    | some c =>
      have hsend := queues_send h c .endOfSuperstep
      rcases hout : p.send c .endOfSuperstep with ⟨r, p'⟩
      rw [hout] at hsend
      simp only [hout]
      cases hsend with
      | refused e hsound hsame => exact .refused e hsound hsame
      | taken hsound hsame =>
        -- a marker is no buffer, so as many are queued as before
        have hsame : p'.allQueuedBuffers = p.allQueuedBuffers := hsame
        rw [← hsame]
        exact ih hsound (i + 1)

theorem queues_writeEndOfSuperstep (h : p.Sound) :
    Queues p.allQueuedBuffers 0 p.writeEndOfSuperstep := by
  unfold writeEndOfSuperstep
  rcases p.markerFaults.next with ⟨fault, plan⟩
  cases fault with
  | some reason => exact .refused _ h rfl
  | none => exact queues_markFrom (p := { p with markerFaults := plan }) h 0 _

end Partition

/-! ## Calls of an outlet -/

/-- Nobody around the writer ever tears the pool down. -/
def Surroundings.Spare (r : Surroundings) : Prop :=
  ∀ k, Turn.destroyPool ∉ r.before k ∧ Turn.destroyPool ∉ r.during k

namespace Outlet

variable {o : Outlet} {capacity held : Nat} {fate : Option Bool}

/-- **Every leased buffer is in one place**: `held` of them with the lanes, the others queued in the
partition or with others. -/
structure Balanced (o : Outlet) (capacity : Nat) (fate : Option Bool) (held : Nat) : Prop where
  sound : o.partition.Sound
  accounts : o.pool.Accounts capacity fate (held + o.partition.allQueuedBuffers + o.lent)
  spare : fate = some false → o.surroundings.Spare

namespace Balanced

/-- Buffers that are with others go back. -/
theorem giveBack (h : o.Balanced capacity fate held) (n : Nat) :
    (o.giveBack n).Balanced capacity fate held := by
  refine ⟨h.sound, Pool.Accounts.recycleMany ?_, h.spare⟩
  have hlent : held + o.partition.allQueuedBuffers + o.lent =
      held + o.partition.allQueuedBuffers + (o.lent - min n o.lent) + min n o.lent := by omega
  exact hlent ▸ h.accounts

/-- What is queued goes to others. -/
theorem received (h : o.Balanced capacity fate held) {p : Partition} {n : Nat} (hsound : p.Sound)
    (hqueued : p.allQueuedBuffers + n = o.partition.allQueuedBuffers) :
    { o with partition := p, lent := o.lent + n }.Balanced capacity fate held := by
  refine ⟨hsound, ?_, h.spare⟩
  have hleased : held + o.partition.allQueuedBuffers + o.lent =
      held + p.allQueuedBuffers + (o.lent + n) := by omega
  exact hleased ▸ h.accounts

theorem settle (h : o.Balanced capacity fate held) : o.settle.Balanced capacity fate held := by
  refine (h.received (p := o.partition.receiveEverywhere) ?_ ?_).giveBack _
  · intro s' hs'
    obtain ⟨s, _, rfl⟩ := List.mem_map.1 hs'
    exact Nat.le_refl _
  · rw [Partition.allQueuedBuffers_receiveEverywhere, Nat.zero_add]

/-- **Others** move buffers from the queues to themselves and from themselves to the pool, and may
take free ones. -/
theorem turn (h : o.Balanced capacity fate held) {t : Turn}
    (ht : fate = some false → t ≠ .destroyPool) : (o.turn t).Balanced capacity fate held := by
  cases t with
  | receiveOne c =>
    have hupdate := o.partition.allQueuedBuffers_update c Subpartition.receiveOne
    have hle : (o.partition.update c Subpartition.receiveOne).queuedBuffers c ≤
        o.partition.queuedBuffers c := by
      simp only [Partition.queuedBuffers, Partition.update, List.getElem?_modify, if_true]
      cases o.partition.subpartitions[c.toNat]? with
      | none => exact Nat.le_refl 0
      | some s => exact s.buffers_receiveOne_le
    refine h.received (h.sound.update c fun s _ => Nat.min_le_right _ _) ?_
    omega
  | receive c =>
    refine h.received (h.sound.update c fun s _ => Nat.le_refl _) ?_
    have hupdate := o.partition.allQueuedBuffers_update c Subpartition.receiveAll
    rwa [Partition.queuedBuffers_update Subpartition.buffers_receiveAll, Nat.add_zero] at hupdate
  | giveBack => exact h.giveBack 1
  | borrow =>
    unfold Outlet.turn
    rcases htry : o.pool.tryRequest with ⟨r, pool⟩
    have htried := h.accounts.tryRequest htry
    rcases r with e | _ | _
    · exact ⟨h.sound, htried, h.spare⟩
    · exact ⟨h.sound, htried, h.spare⟩
    · exact ⟨h.sound, htried, h.spare⟩
  | disconnect c =>
    have hupdate := o.partition.allQueuedBuffers_update c Subpartition.disconnect
    rw [Partition.queuedBuffers_update Subpartition.buffers_disconnect, Nat.add_zero] at hupdate
    refine ⟨h.sound.update c fun s hs => ?_, .recycleMany ?_, h.spare⟩
    · simpa [Subpartition.Sound, Subpartition.disconnect] using hs
    · have hleased : held + o.partition.allQueuedBuffers + o.lent =
          held + (o.partition.update c Subpartition.disconnect).allQueuedBuffers + o.lent +
            o.partition.queuedBuffers c := by omega
      exact hleased ▸ h.accounts
  | destroyPool => exact ⟨h.sound, h.accounts.destroy fun hfate => ht hfate rfl, h.spare⟩
  | settle => exact h.settle

theorem turns (h : o.Balanced capacity fate held) {ts : List Turn}
    (hts : fate = some false → Turn.destroyPool ∉ ts) :
    (o.turns ts).Balanced capacity fate held := by
  induction ts generalizing o with
  | nil => exact h
  | cons t ts ih =>
    refine ih (h.turn fun hfate heq => hts hfate ?_) fun hfate hmem => hts hfate ?_
    · exact heq ▸ List.mem_cons_self
    · exact List.mem_cons_of_mem t hmem

theorem await (h : o.Balanced capacity fate held) (index : Nat) :
    (o.await index).Balanced capacity fate held := by
  have hturns : (o.turns (o.surroundings.during index)).Balanced capacity fate held :=
    h.turns fun hfate => (h.spare hfate index).2
  unfold Outlet.await
  dsimp only
  split
  · exact hturns
  · split
    · exact hturns
    · exact hturns.settle

/-- The pool of an outlet serves a try or a wait. -/
theorem withPool (h : o.Balanced capacity fate held) {pool : Pool} {n : Nat}
    (hpool : pool.Accounts capacity fate (held + o.partition.allQueuedBuffers + o.lent + n)) :
    { o with pool := pool }.Balanced capacity fate (held + n) := by
  refine ⟨h.sound, ?_, h.spare⟩
  have hleased : held + o.partition.allQueuedBuffers + o.lent + n =
      held + n + o.partition.allQueuedBuffers + o.lent := by omega
  exact hleased ▸ hpool

/-- **A request** brings a buffer if it succeeds. -/
theorem request (h : o.Balanced capacity fate held) :
    o.request.2.Balanced capacity fate (held + Pool.granted o.request.1) := by
  have hturned := h.turns fun hfate => (h.spare hfate o.requests).1
  have hbefore : { o.turns (o.surroundings.before o.requests) with
      requests := o.requests + 1 }.Balanced capacity fate held :=
    ⟨hturned.sound, hturned.accounts, hturned.spare⟩
  unfold Outlet.request
  dsimp only
  split
  · rename_i htry
    exact hbefore.withPool (hbefore.accounts.tryRequest htry)
  · rename_i htry
    exact hbefore.withPool (hbefore.accounts.tryRequest htry)
  · rename_i htry
    have htried := hbefore.accounts.tryRequest htry
    split
    · rename_i hwait
      exact hbefore.withPool (htried.startWait hwait)
    · rename_i hwait
      -- what others do during the wait may free a buffer, which the last try then takes
      have hawaited := (hbefore.withPool (htried.startWait hwait)).await o.requests
      split
      · rename_i hend
        exact hawaited.withPool (hawaited.accounts.endWait hend)
      · rename_i hend
        exact hawaited.withPool (hawaited.accounts.endWait hend)

/-- A buffer that no lane holds any more goes back to the pool. -/
theorem recycle (h : o.Balanced capacity fate (held + 1)) {p : Partition} (hsound : p.Sound)
    (hqueued : p.allQueuedBuffers = o.partition.allQueuedBuffers) (b : Buffer) :
    { o with partition := p, pool := o.pool.recycle b }.Balanced capacity fate held := by
  refine ⟨hsound, Pool.Accounts.recycle ?_ b, h.spare⟩
  have hleased : held + 1 + o.partition.allQueuedBuffers + o.lent =
      held + p.allQueuedBuffers + o.lent + 1 := by omega
  exact hleased ▸ h.accounts

theorem discard (h : o.Balanced capacity fate (held + 1)) (b : Buffer) :
    (o.discard b).Balanced capacity fate held :=
  ⟨h.sound, (h.recycle h.sound rfl b).accounts, h.spare⟩

/-- **A buffer that a lane gives up** is queued, or it goes back to the pool. -/
theorem forward (h : o.Balanced capacity fate (held + 1)) (c : ChannelId) (b : Buffer) :
    (o.forward c b).2.Balanced capacity fate held := by
  unfold Outlet.forward
  by_cases hempty : b.isEmpty = true
  · rw [if_pos hempty]
    exact h.discard b
  · rw [if_neg hempty]
    have hqueues := Partition.queues_writeBuffer h.sound c b
    rcases hout : o.partition.writeBuffer c b with ⟨r, p⟩
    rw [hout] at hqueues
    cases hqueues with
    | taken hsound hqueued =>
      refine ⟨hsound, ?_, h.spare⟩
      have hleased : held + 1 + o.partition.allQueuedBuffers + o.lent =
          held + p.allQueuedBuffers + o.lent := by omega
      exact hleased ▸ h.accounts
    | refused e hsound hqueued => exact h.recycle hsound hqueued b

/-- A call that queues no buffer. -/
theorem withPartition (h : o.Balanced capacity fate held) {p : Partition} (hsound : p.Sound)
    (hqueued : p.allQueuedBuffers = o.partition.allQueuedBuffers) (traffic : Traffic) :
    { o with partition := p, traffic := traffic }.Balanced capacity fate held :=
  ⟨hsound, hqueued.symm ▸ h.accounts, h.spare⟩

theorem sendEvent (h : o.Balanced capacity fate held) (c : ChannelId) (e : Event) :
    (o.sendEvent c e).2.Balanced capacity fate held := by
  have hqueues := Partition.queues_writeEvent h.sound c e
  unfold Outlet.sendEvent
  rcases hout : o.partition.writeEvent c e with ⟨r, p⟩
  rw [hout] at hqueues
  cases hqueues with
  | taken hsound hqueued => exact h.withPartition hsound hqueued _
  | refused cause hsound hqueued => exact h.withPartition hsound hqueued _

theorem endSuperstep (h : o.Balanced capacity fate held) :
    o.endSuperstep.2.Balanced capacity fate held := by
  have hqueues := Partition.queues_writeEndOfSuperstep h.sound
  unfold Outlet.endSuperstep
  rcases hout : o.partition.writeEndOfSuperstep with ⟨r, p⟩
  rw [hout] at hqueues
  cases hqueues with
  | taken hsound hqueued => exact h.withPartition hsound hqueued _
  | refused cause hsound hqueued => exact h.withPartition hsound hqueued _

end Balanced

end Outlet

end Fanout
