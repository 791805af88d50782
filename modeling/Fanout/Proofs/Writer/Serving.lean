import Fanout.Proofs.Writer.Attempts

/-!
# Dealings among consumers

What comes of the dealings of a writer if nobody but consumers is around it. Consumers that stay
take whatever is sent to them, and the bytes that were sent are counted (`Served`), also if others
take buffers or tear the pool down. A request gets a buffer, since others than the lanes give back
what they have, as long as the lanes hold fewer buffers than there are.

* `Served.of_deals` — the count of bytes is what the subpartitions were sent.
* `Served.taken_of_deals` — no buffer is refused.
* `Deals.smooth_eq` — nothing fails among consumers that stay, with enough buffers and patience.
-/

namespace Fanout

/-! ## Consumers -/

/-- What consumers do: they receive buffers and give them back, and they may go away. -/
def Turn.OfConsumer : Turn → Prop
  | receiveOne _ | receive _ | giveBack | disconnect _ | settle => True
  | borrow | destroyPool => False

/-- What consumers that stay do. -/
def Turn.Receives : Turn → Prop
  | receiveOne _ | receive _ | giveBack | settle => True
  | borrow | disconnect _ | destroyPool => False

theorem Turn.Receives.ofConsumer {t : Turn} (h : t.Receives) : t.OfConsumer := by
  cases t with
  | receiveOne _ | receive _ | giveBack | settle => trivial
  | borrow | disconnect _ | destroyPool => exact h.elim

/-- Any act but that a consumer goes away. -/
def Turn.Stays : Turn → Prop
  | disconnect _ => False
  | receiveOne _ | receive _ | giveBack | borrow | destroyPool | settle => True

theorem Turn.Receives.stays {t : Turn} (h : t.Receives) : t.Stays := by
  cases t with
  | receiveOne _ | receive _ | giveBack | settle => trivial
  | borrow | disconnect _ | destroyPool => exact h.elim

namespace Surroundings

variable {r : Surroundings}

/-- Nobody but consumers is around the writer. -/
def OfConsumers (r : Surroundings) : Prop :=
  ∀ k, (∀ t ∈ r.before k, t.OfConsumer) ∧ ∀ t ∈ r.during k, t.OfConsumer

/-- Nobody but consumers is around the writer, and they stay. -/
def Receive (r : Surroundings) : Prop :=
  ∀ k, (∀ t ∈ r.before k, t.Receives) ∧ ∀ t ∈ r.during k, t.Receives

/-- The consumers stay, whoever else is around the writer. -/
def Stay (r : Surroundings) : Prop :=
  ∀ k, (∀ t ∈ r.before k, t.Stays) ∧ ∀ t ∈ r.during k, t.Stays

theorem OfConsumers.spare (h : r.OfConsumers) : r.Spare :=
  fun k => ⟨fun hmem => (h k).1 _ hmem, fun hmem => (h k).2 _ hmem⟩

theorem Receive.ofConsumers (h : r.Receive) : r.OfConsumers :=
  fun k => ⟨fun t ht => ((h k).1 t ht).ofConsumer, fun t ht => ((h k).2 t ht).ofConsumer⟩

theorem Receive.stay (h : r.Receive) : r.Stay :=
  fun k => ⟨fun t ht => ((h k).1 t ht).stays, fun t ht => ((h k).2 t ht).stays⟩

theorem receive_attentive : attentive.Receive :=
  fun _ => ⟨List.forall_mem_nil _, List.forall_mem_singleton.2 trivial⟩

end Surroundings

/-! ## Partitions -/

namespace FaultPlan

variable {ε : Type} {plan : FaultPlan ε}

/-- No call is to fail. -/
def Faultless (plan : FaultPlan ε) : Prop := ∀ k, plan.fault k = .none

theorem Faultless.next (h : plan.Faultless) :
    ∃ plan', plan.next = (.none, plan') ∧ plan'.Faultless :=
  ⟨{ plan with calls := plan.calls + 1 }, congrArg (·, _) (h plan.calls), h⟩

end FaultPlan

/-- How many bytes a delivery carries. -/
def Delivery.size : Delivery → Nat
  | .buffer b => b.size
  | .event _ | .endOfSuperstep => 0

/-- How many bytes were sent to a channel. -/
def Subpartition.volume (s : Subpartition) : Nat := (s.sent.toList.map Delivery.size).sum

namespace Partition

variable {p : Partition} {width : Nat} {c : ChannelId}

/-- How many bytes were sent. -/
def volume (p : Partition) : Nat := (p.subpartitions.map Subpartition.volume).sum

/-- An offer that is not a refused buffer is made. -/
theorem not_refused_of_push {p' : Partition} {first : ChannelId} {d : Delivery} {taken : Bool}
    (hoffers : p'.offers = p.offers.push ⟨first, d, taken⟩)
    (hnew : taken = true ∨ ∀ b, d ≠ .buffer b) (h : ∀ b, ⟨c, .buffer b, false⟩ ∉ p.offersTo c) :
    ∀ b, ⟨c, .buffer b, false⟩ ∉ p'.offersTo c := by
  intro b hmem
  by_cases hfirst : first = c
  · subst hfirst
    rw [offersTo_of_push hoffers] at hmem
    rcases List.mem_append.1 hmem with hmem | hmem
    · exact h b hmem
    · obtain ⟨-, rfl, rfl⟩ := Offer.mk.inj (List.mem_singleton.1 hmem)
      rcases hnew with hnew | hnew
      · exact nomatch hnew
      · exact hnew b rfl
  · rw [offersTo_of_push_other hfirst hoffers] at hmem
    exact h b hmem

/-- **A partition that takes whatever it is sent**: no failure is planned, and the consumers of all
channels are there. -/
structure Open (p : Partition) (width : Nat) : Prop where
  length_eq : p.subpartitions.length = width
  width_le : width ≤ maxChannels
  connected : ∀ s ∈ p.subpartitions, s.connected = true
  bufferFaults : p.bufferFaults.Faultless
  eventFaults : p.eventFaults.Faultless
  markerFaults : p.markerFaults.Faultless

theorem open_make {info : PartitionInfo} (h : info.subpartitions ≤ maxChannels) :
    (make info).Open info.subpartitions := by
  refine ⟨List.length_replicate, h, fun s hs => ?_, fun _ => rfl, fun _ => rfl,
    fun _ => rfl⟩
  rw [List.eq_of_mem_replicate hs]
  rfl

/-- What consumers that stay and calls of the partition do to one channel. -/
theorem Open.update (h : p.Open width) (c : ChannelId) {f : Subpartition → Subpartition}
    (hf : ∀ s : Subpartition, (f s).connected = s.connected) : (p.update c f).Open width := by
  refine ⟨by simp [Partition.update, h.length_eq], h.width_le, fun s' hs' => ?_, h.bufferFaults,
    h.eventFaults, h.markerFaults⟩
  obtain ⟨i, hi⟩ := List.mem_iff_getElem?.1 hs'
  simp only [Partition.update, List.getElem?_modify] at hi
  obtain ⟨s, hs, rfl⟩ := Option.map_eq_some_iff.1 hi
  have hconnected := h.connected s (List.mem_of_getElem? hs)
  split
  · rw [hf, hconnected]
  · exact hconnected

theorem volume_update (p : Partition) (c : ChannelId) {f : Subpartition → Subpartition}
    (hf : ∀ s : Subpartition, (f s).volume = s.volume) : (p.update c f).volume = p.volume := by
  have hsum := sum_map_modify Subpartition.volume f p.subpartitions c.toNat
  simp only [hf] at hsum
  exact Nat.add_right_cancel hsum

namespace Open

variable (h : p.Open width)

include h

/-- A delivery is taken. -/
theorem send (hc : c.toNat < width) (d : Delivery) :
    ∃ p', p.send c d = (.ok (), p') ∧ p'.Open width ∧ p'.volume = p.volume + d.size := by
  obtain ⟨s, hs⟩ : ∃ s, p.subpartitions[c.toNat]? = some s :=
    ⟨_, List.getElem?_eq_getElem (h.length_eq.symm ▸ hc)⟩
  have hopen := h.update c (f := fun s => { s with sent := s.sent.push d }) fun _ => rfl
  refine ⟨(p.update c fun s => { s with sent := s.sent.push d }).note c d true, ?_,
    ⟨hopen.1, hopen.2, hopen.3, hopen.4, hopen.5, hopen.6⟩, ?_⟩
  · unfold Partition.send
    rw [hs]
    exact if_pos (h.connected s (List.mem_of_getElem? hs))
  · have hpush : Subpartition.volume { s with sent := s.sent.push d } = s.volume + d.size := by
      simp [Subpartition.volume]
    have hsum := sum_map_modify Subpartition.volume (fun s => { s with sent := s.sent.push d })
      p.subpartitions c.toNat
    simp only [hs, Option.elim_some, hpush] at hsum
    show ((p.subpartitions.modify c.toNat _).map Subpartition.volume).sum = _
    exact Nat.add_right_cancel (hsum.trans (by rw [volume]; omega))

theorem writeBuffer (hc : c.toNat < width) (b : Buffer) :
    ∃ p', p.writeBuffer c b = (.ok (), p') ∧ p'.Open width ∧ p'.volume = p.volume + b.size := by
  obtain ⟨plan, hnext, hplan⟩ := h.bufferFaults.next
  have hopen : ({ p with bufferFaults := plan } : Partition).Open width :=
    ⟨h.1, h.2, h.3, hplan, h.5, h.6⟩
  unfold Partition.writeBuffer
  rw [hnext]
  exact hopen.send hc (.buffer b)

theorem writeEvent (hc : c.toNat < width) (e : Event) :
    ∃ p', p.writeEvent c e = (.ok (), p') ∧ p'.Open width ∧ p'.volume = p.volume := by
  obtain ⟨plan, hnext, hplan⟩ := h.eventFaults.next
  have hopen : ({ p with eventFaults := plan } : Partition).Open width :=
    ⟨h.1, h.2, h.3, h.4, hplan, h.6⟩
  unfold Partition.writeEvent
  rw [hnext]
  exact hopen.send hc (.event e)

theorem markFrom {i n : Nat} (hn : i + n ≤ width) :
    ∃ p', p.markFrom i n = (.ok (), p') ∧ p'.Open width ∧ p'.volume = p.volume := by
  induction n generalizing p i with
  | zero => exact ⟨p, rfl, h, rfl⟩
  | succ n ih =>
    have hi : i < maxChannels := by
      have hle := h.width_le
      omega
    have hc : (ChannelId.ofNat i).toNat < width := by
      rw [ChannelId.toNat_ofNat_of_lt hi]
      omega
    obtain ⟨p₁, hsend, hopen₁, hvolume₁⟩ := h.send hc .endOfSuperstep
    obtain ⟨p', hmarked, hopen, hvolume⟩ := ih hopen₁ (i := i + 1) (by omega)
    refine ⟨p', ?_, hopen, hvolume.trans hvolume₁⟩
    have hsome : ChannelId.ofNat? i = some (ChannelId.ofNat i) :=
      ChannelId.ofNat?_eq_some_iff.2 (ChannelId.toNat_ofNat_of_lt hi)
    unfold Partition.markFrom
    simp only [hsome, hsend]
    exact hmarked

theorem writeEndOfSuperstep :
    ∃ p', p.writeEndOfSuperstep = (.ok (), p') ∧ p'.Open width ∧ p'.volume = p.volume := by
  obtain ⟨plan, hnext, hplan⟩ := h.markerFaults.next
  have hopen : ({ p with markerFaults := plan } : Partition).Open width :=
    ⟨h.1, h.2, h.3, h.4, h.5, hplan⟩
  have hall : 0 + p.subpartitions.length ≤ width := by
    rw [h.length_eq, Nat.zero_add]
  unfold Partition.writeEndOfSuperstep
  rw [hnext]
  exact hopen.markFrom hall

end Open

end Partition

/-! ## Outlets -/

namespace Outlet

variable {o o' : Outlet} {width slots start held capacity : Nat} {asks : List Outlet}
  {smooth : Bool}

/-- **An outlet among consumers that stay**, whose partition takes whatever it is sent. The bytes
that were sent are counted. -/
structure Served (o : Outlet) (width : Nat) : Prop where
  partition_open : o.partition.Open width
  stay : o.surroundings.Stay
  bytes_eq : o.traffic.bytes = UInt64.ofNat o.partition.volume

namespace Served

variable (h : o.Served width)

include h

/-- A call that sends so many bytes. -/
theorem sent {p : Partition} (bytes : Nat) (hopen : p.Open width)
    (hvolume : p.volume = o.partition.volume + bytes) {traffic : Traffic}
    (htraffic : traffic.bytes = o.traffic.bytes + UInt64.ofNat bytes) :
    { o with partition := p, traffic := traffic }.Served width := by
  refine ⟨hopen, h.stay, ?_⟩
  show traffic.bytes = UInt64.ofNat p.volume
  rw [htraffic, h.bytes_eq, hvolume, UInt64.ofNat_add]

theorem turn {t : Turn} (ht : t.Stays) : (o.turn t).Served width := by
  cases t with
  | receiveOne c =>
    have hvolume := o.partition.volume_update c (f := Subpartition.receiveOne) fun _ => rfl
    exact ⟨h.partition_open.update c fun _ => rfl, h.stay,
      h.bytes_eq.trans (congrArg UInt64.ofNat hvolume.symm)⟩
  | receive c =>
    have hvolume := o.partition.volume_update c (f := Subpartition.receiveAll) fun _ => rfl
    exact ⟨h.partition_open.update c fun _ => rfl, h.stay,
      h.bytes_eq.trans (congrArg UInt64.ofNat hvolume.symm)⟩
  | giveBack => exact ⟨h.partition_open, h.stay, h.bytes_eq⟩
  | settle =>
    refine ⟨⟨?_, h.partition_open.width_le, fun s hs => ?_, h.partition_open.bufferFaults,
      h.partition_open.eventFaults, h.partition_open.markerFaults⟩, h.stay, ?_⟩
    · exact (List.length_map _).trans h.partition_open.length_eq
    · obtain ⟨s, hmem, rfl⟩ := List.mem_map.1 hs
      exact h.partition_open.connected s hmem
    · have hvolume : o.settle.partition.volume = o.partition.volume :=
        congrArg List.sum (List.map_map)
      exact h.bytes_eq.trans (congrArg UInt64.ofNat hvolume.symm)
  | borrow =>
    unfold Outlet.turn
    dsimp only
    split <;> exact ⟨h.partition_open, h.stay, h.bytes_eq⟩
  | destroyPool => exact ⟨h.partition_open, h.stay, h.bytes_eq⟩
  | disconnect _ => exact ht.elim

theorem request : o.request.2.Served width :=
  request_keeps_among (P := fun o => o.Served width) (fun _ _ ht ho => ho.turn ht)
    (fun _ ho => ho.stay) (show Turn.Stays .settle from trivial)
    (fun _ _ _ ho => ⟨ho.1, ho.2, ho.3⟩) h

theorem forward {c : ChannelId} (hc : c.toNat < width) (b : Buffer) :
    ∃ o', o.forward c b = (.ok (), o') ∧ o'.Served width := by
  unfold Outlet.forward
  by_cases hempty : b.isEmpty = true
  · rw [if_pos hempty]
    exact ⟨_, rfl, h.1, h.2, h.3⟩
  · rw [if_neg hempty]
    obtain ⟨p, hwrite, hopen, hvolume⟩ := h.partition_open.writeBuffer hc b
    rw [hwrite]
    exact ⟨_, rfl, h.sent _ hopen hvolume rfl⟩

theorem sendEvent {c : ChannelId} (hc : c.toNat < width) (e : Event) :
    ∃ o', o.sendEvent c e = (.ok (), o') ∧ o'.Served width := by
  obtain ⟨p, hwrite, hopen, hvolume⟩ := h.partition_open.writeEvent hc e
  unfold Outlet.sendEvent
  rw [hwrite]
  exact ⟨_, rfl, h.sent 0 hopen hvolume (UInt64.add_zero _).symm⟩

theorem endSuperstep : ∃ o', o.endSuperstep = (.ok (), o') ∧ o'.Served width := by
  obtain ⟨p, hwrite, hopen, hvolume⟩ := h.partition_open.writeEndOfSuperstep
  unfold Outlet.endSuperstep
  rw [hwrite]
  exact ⟨_, rfl, h.sent 0 hopen hvolume (UInt64.add_zero _).symm⟩

/-- **Among consumers that stay, the count of bytes is what was sent**, whatever a writer does. -/
theorem of_deals (hdeals : o.Deals width start asks smooth held o') : o'.Served width := by
  induction hdeals with
  | refl => exact h
  | request _ _ ih => exact ih.request
  | forward b _ hc ih =>
    obtain ⟨last, hforward, hserved⟩ := ih.forward hc b
    rw [hforward]
    exact hserved
  | recycle _ _ ih => exact ⟨ih.1, ih.2, ih.3⟩
  | sendEvent e _ hc ih =>
    obtain ⟨last, hsent, hserved⟩ := ih.sendEvent hc e
    rw [hsent]
    exact hserved
  | endSuperstep _ ih =>
    obtain ⟨last, hended, hserved⟩ := ih.endSuperstep
    rw [hended]
    exact hserved
  | count f hf _ ih => exact ⟨ih.1, ih.2, (hf _).trans ih.3⟩

/-- **No buffer is refused** among consumers that stay. -/
theorem taken_of_deals (hdeals : o.Deals width start asks smooth held o') {c : ChannelId}
    (htaken : ∀ b, ⟨c, .buffer b, false⟩ ∉ o.partition.offersTo c) :
    ∀ b, ⟨c, .buffer b, false⟩ ∉ o'.partition.offersTo c := by
  induction hdeals with
  | refl => exact htaken
  | request _ _ ih =>
    rw [Partition.offersTo_congr (offers_request _)]
    exact ih
  | @forward _ _ _ o' c' b hdeals hc ih =>
    obtain ⟨last, hforward, _⟩ := (h.of_deals hdeals).forward hc b
    have hforwarded := o'.forward_forwarded c' b
    rw [hforward] at hforwarded ⊢
    cases hforwarded with
    | unsent _ hoffers =>
      rw [Partition.offersTo_congr hoffers]
      exact ih
    | taken hoffers => exact Partition.not_refused_of_push hoffers (.inl rfl) ih
  | recycle _ _ ih | count _ _ _ ih => exact ih
  | @sendEvent _ _ _ o' c' e _ _ ih =>
    have hnoted := o'.sendEvent_noted c' e
    generalize o'.sendEvent c' e = out at hnoted
    obtain ⟨r, last⟩ := out
    cases hnoted with
    | taken hoffers => exact Partition.not_refused_of_push hoffers (.inl rfl) ih
    | refused _ hoffers =>
      exact Partition.not_refused_of_push hoffers (.inr fun _ hd => nomatch hd) ih
  | @endSuperstep _ _ _ o' _ ih =>
    obtain ⟨marks, hmarks, hatMost, _⟩ := o'.offersTo_endSuperstep c
    intro b hmem
    rw [hmarks] at hmem
    rcases List.mem_append.1 hmem with hmem | hmem
    · exact ih b hmem
    · rcases hatMost with rfl | ⟨taken, rfl⟩
      · exact nomatch hmem
      · exact nomatch List.mem_singleton.1 hmem

end Served

/-! ## Requests -/

theorem patience_turns (o : Outlet) (ts : List Turn) : (o.turns ts).patience = o.patience :=
  turns_keep (P := fun o' => o'.patience = o.patience)
    (fun o' t (_ : True) ho' => (congrArg Standing.patience (o'.standing_turn t)).trans ho') rfl
    fun _ _ => trivial

/-- A request without a limit of patience, where the lanes hold fewer buffers than there are: when
all others gave back what they have, a buffer is free. -/
theorem Balanced.free_await (h : o.Balanced capacity (some false) held) (hheld : held < capacity)
    (hpatience : o.patience = .unlimited) (index : Nat) : 0 < (o.await index).pool.free := by
  have hturned := h.turns fun hfate => (h.spare hfate index).2
  have halive := hturned.accounts.destroyed_eq rfl
  unfold Outlet.await
  dsimp only
  rw [patience_turns, hpatience, halive, Bool.false_or]
  dsimp only
  split
  · rename_i hfree
    exact of_decide_eq_true hfree
  · have hsettled := hturned.settle
    have hsum := hsettled.accounts.free_of_alive (hsettled.accounts.destroyed_eq rfl)
    have hqueued : (o.turns (o.surroundings.during index)).settle.partition.allQueuedBuffers = 0 :=
      Partition.allQueuedBuffers_receiveEverywhere _
    have hlent : (o.turns (o.surroundings.during index)).settle.lent = 0 := by
      simp [Outlet.settle, Outlet.giveBack]
    omega

/-- **A request gets a buffer** if the lanes hold fewer than there are and patience has no limit. -/
theorem Balanced.request_eq_ok (h : o.Balanced capacity (some false) held) (hheld : held < capacity)
    (hpatience : o.patience = .unlimited) : o.request.1 = .ok () := by
  have hturned := h.turns fun hfate => (h.spare hfate o.requests).1
  have hbefore : { o.turns (o.surroundings.before o.requests) with
      requests := o.requests + 1 }.Balanced capacity (some false) held :=
    ⟨hturned.sound, hturned.accounts, hturned.spare⟩
  unfold Outlet.request
  dsimp only
  split
  · rename_i e pool htry
    have hgranted := Pool.tryRequest_of_alive (hbefore.accounts.destroyed_eq rfl)
    rw [htry] at hgranted
    exact nomatch hgranted
  · rfl
  · rename_i pool htry
    have htried := hbefore.accounts.tryRequest htry
    split
    · rename_i hwait
      rw [patience_turns, hpatience] at hwait
      exact nomatch hwait
    · rename_i hwait
      have hawaiting := hbefore.withPool (htried.startWait hwait)
      have hawaited := hawaiting.await o.requests
      have hfree := hawaiting.free_await hheld ((patience_turns _ _).trans hpatience) o.requests
      have hended := Pool.endWait_of_free (hawaited.accounts.destroyed_eq rfl) hfree
      split
      · rename_i hend
        exact nomatch (congrArg Prod.fst hend).symm.trans (hended _)
      · rfl

namespace Deals

theorem patience_eq (h : o.Deals slots start asks smooth held o') : o'.patience = o.patience := by
  induction h with
  | refl => rfl
  | request _ _ ih => exact (congrArg Standing.patience (standing_request _)).trans ih
  | forward b _ _ ih => exact (congrArg Standing.patience (standing_forward _ _ b)).trans ih
  | sendEvent e _ _ ih => exact (congrArg Standing.patience (standing_sendEvent _ _ e)).trans ih
  | endSuperstep _ ih => exact (congrArg Standing.patience (standing_endSuperstep _)).trans ih
  | recycle _ _ ih | count f _ _ ih => exact ih

/-- **Nothing fails among consumers that stay**, with a buffer for each lane and patience without a
limit. -/
theorem smooth_eq (h : o.Deals slots start asks smooth held o') (hserved : o.Served slots)
    (hbalanced : o.Balanced capacity (some false) start) (hpatience : o.patience = .unlimited)
    (hslots : slots ≤ capacity) : smooth = true := by
  induction h with
  | refl => rfl
  | request h hheld ih =>
    have hgranted := (h.balanced hbalanced).1.request_eq_ok (Nat.lt_of_lt_of_le hheld hslots)
      (h.patience_eq.trans hpatience)
    rw [ih, hgranted]
    rfl
  | forward b h hc ih =>
    obtain ⟨last, hforward, _⟩ := (hserved.of_deals h).forward hc b
    rw [ih, hforward]
    rfl
  | sendEvent e h hc ih =>
    obtain ⟨last, hsent, _⟩ := (hserved.of_deals h).sendEvent hc e
    rw [ih, hsent]
    rfl
  | endSuperstep h ih =>
    obtain ⟨last, hended, _⟩ := (hserved.of_deals h).endSuperstep
    rw [ih, hended]
    rfl
  | recycle _ _ ih | count f _ _ ih => exact ih

end Deals

end Outlet

end Fanout
