import Fanout.Proofs.Stream.Script
import Fanout.Writer.Outlet

/-!
# Offers

What a partition was offered on a channel and what it took of that (`delivered`), and how each call
of an outlet changes it. Nothing that others do changes it: consumers receive, buffers come back,
a pool is torn down, and what was offered stays on record.

* `forward_forwarded`, `sendEvent_noted`, `offersTo_endSuperstep` — each call puts at most one offer
  per channel on record, with its outcome.
* `offers_request` — a request for a buffer, with all that happens around it, offers nothing.
-/

namespace Fanout

/-- The deliveries among some offers that were taken, in order. -/
def takenOf (offers : List Offer) : List Delivery :=
  (offers.filter fun offer => offer.taken).map Offer.delivery

theorem takenOf_append (a b : List Offer) : takenOf (a ++ b) = takenOf a ++ takenOf b := by
  simp [takenOf]

theorem takenOf_taken (c : ChannelId) (d : Delivery) : takenOf [⟨c, d, true⟩] = [d] := rfl

theorem takenOf_refused (c : ChannelId) (d : Delivery) : takenOf [⟨c, d, false⟩] = [] := rfl

namespace Partition

/-- What was offered on a channel, oldest first. -/
def offersTo (p : Partition) (c : ChannelId) : List Offer :=
  p.offers.toList.filter fun offer => offer.channel = c

/-- What was delivered on a channel, oldest first. -/
def delivered (p : Partition) (c : ChannelId) : List Delivery := takenOf (p.offersTo c)

/-- A call that offers a delivery on a channel puts it on record, with the outcome of the call. -/
inductive Noted {ε : Type} (p : Partition) (c : ChannelId) (d : Delivery) :
    Except ε Unit × Partition → Prop where
  | taken {p' : Partition} : p'.offers = p.offers.push ⟨c, d, true⟩ → Noted p c d (.ok (), p')
  | refused {p' : Partition} (e : ε) : p'.offers = p.offers.push ⟨c, d, false⟩ →
    Noted p c d (.error e, p')

variable {p p' : Partition} {c : ChannelId}

theorem offersTo_of_push {d : Delivery} {taken : Bool}
    (h : p'.offers = p.offers.push ⟨c, d, taken⟩) :
    p'.offersTo c = p.offersTo c ++ [⟨c, d, taken⟩] := by
  simp [offersTo, h]

theorem offersTo_of_push_other {other : ChannelId} (hne : c ≠ other) {d : Delivery} {taken : Bool}
    (h : p'.offers = p.offers.push ⟨c, d, taken⟩) : p'.offersTo other = p.offersTo other := by
  simp [offersTo, h, hne]

/-- An offer that is taken is a delivery. -/
theorem delivered_of_taken {d : Delivery} (h : p'.offersTo c = p.offersTo c ++ [⟨c, d, true⟩]) :
    p'.delivered c = p.delivered c ++ [d] := by
  rw [delivered, h, takenOf_append, takenOf_taken, delivered]

theorem offersTo_congr (h : p'.offers = p.offers) (c : ChannelId) :
    p'.offersTo c = p.offersTo c := by
  rw [offersTo, offersTo, h]

theorem Noted.of_offers {ε : Type} {q : Partition} {d : Delivery} {out : Except ε Unit × Partition}
    (h : Noted q c d out) (hq : q.offers = p.offers) : Noted p c d out := by
  cases h with
  | taken h => exact .taken (h.trans (by rw [hq]))
  | refused e h => exact .refused e (h.trans (by rw [hq]))

theorem send_noted (p : Partition) (c : ChannelId) (d : Delivery) : Noted p c d (p.send c d) := by
  unfold send
  split
  · exact .refused _ rfl
  · split
    · exact .taken rfl
    · exact .refused _ rfl

theorem writeBuffer_noted (p : Partition) (c : ChannelId) (b : Buffer) :
    Noted p c (.buffer b) (p.writeBuffer c b) := by
  unfold writeBuffer
  rcases p.bufferFaults.next with ⟨fault, plan⟩
  cases fault with
  | some reason => exact .refused _ rfl
  | none =>
    exact (send_noted { p with bufferFaults := plan } c (.buffer b)).of_offers rfl

theorem writeEvent_noted (p : Partition) (c : ChannelId) (e : Event) :
    Noted p c (.event e) (p.writeEvent c e) := by
  unfold writeEvent
  rcases p.eventFaults.next with ⟨fault, plan⟩
  cases fault with
  | some reason => exact .refused _ rfl
  | none => exact (send_noted { p with eventFaults := plan } c (.event e)).of_offers rfl

/-- Marking some subpartitions offers the marker at most once on a channel, and never on a channel
in front of the first of them. If all of them took it, each of their channels did. -/
theorem offersTo_markFrom (p : Partition) (i n : Nat) (c : ChannelId) :
    ∃ marks, (p.markFrom i n).2.offersTo c = p.offersTo c ++ marks ∧
      (marks = [] ∨ ∃ taken, marks = [⟨c, .endOfSuperstep, taken⟩]) ∧
      ((p.markFrom i n).1 = .ok () → i ≤ c.toNat → c.toNat < i + n →
        marks = [⟨c, .endOfSuperstep, true⟩]) ∧
      (c.toNat < i → marks = []) := by
  induction n generalizing p i with
  | zero => exact ⟨[], (List.append_nil _).symm, .inl rfl, fun _ _ _ => by omega, fun _ => rfl⟩
  | succ n ih =>
    cases hc : ChannelId.ofNat? i with
    | none =>
      simp only [markFrom, hc]
      exact ⟨[], (List.append_nil _).symm, .inl rfl, (fun h => nomatch h), fun _ => rfl⟩
    | some first =>
      have hfirst := ChannelId.ofNat?_eq_some_iff.1 hc
      have hnoted := send_noted p first .endOfSuperstep
      rcases hout : p.send first .endOfSuperstep with ⟨r, p'⟩
      rw [hout] at hnoted
      simp only [markFrom, hc, hout]
      cases hnoted with
      | refused e h =>
        by_cases hcc : first = c
        · subst hcc
          refine ⟨_, offersTo_of_push h, .inr ⟨false, rfl⟩, (fun h => nomatch h), ?_⟩
          intro hlt
          omega
        · refine ⟨[], ?_, .inl rfl, (fun h => nomatch h), fun _ => rfl⟩
          rw [List.append_nil]
          exact offersTo_of_push_other hcc h
      | taken h =>
        obtain ⟨marks, hmarks, hatMost, hall, hbefore⟩ := ih p' (i + 1)
        by_cases hcc : first = c
        · -- this channel's turn: the later subpartitions are behind it
          subst hcc
          obtain rfl := hbefore (by omega)
          refine ⟨[⟨first, .endOfSuperstep, true⟩], ?_, .inr ⟨true, rfl⟩, fun _ _ _ => rfl, ?_⟩
          · rw [← offersTo_of_push h, ← List.append_nil (p'.offersTo first)]
            exact hmarks
          · intro hlt
            omega
        · refine ⟨marks, ?_, hatMost, fun hok hlo hhi => ?_, fun hlt => hbefore (by omega)⟩
          · rw [← offersTo_of_push_other hcc h]
            exact hmarks
          · have hne : c.toNat ≠ i := fun hi => hcc (ChannelId.ext_toNat (hfirst.trans hi.symm))
            exact hall hok (by omega) (by omega)

end Partition

namespace Outlet

/-! ## What others do -/

theorem offers_turn (o : Outlet) (t : Turn) :
    (o.turn t).partition.offers = o.partition.offers := by
  cases t with
  | borrow =>
    simp only [turn]
    split <;> rfl
  | receiveOne _ | receive _ | giveBack | disconnect _ | destroyPool | settle => rfl

section Request

variable {P : Outlet → Prop} {Among : Turn → Prop}
  (hturn : ∀ o t, Among t → P o → P (o.turn t))

include hturn

theorem turns_keep {o : Outlet} (ho : P o) {ts : List Turn} (hts : ∀ t ∈ ts, Among t) :
    P (o.turns ts) := by
  induction ts generalizing o with
  | nil => exact ho
  | cons t ts ih =>
    obtain ⟨ht, hts⟩ := List.forall_mem_cons.1 hts
    exact ih (hturn o t ht ho) hts

variable (hamong : ∀ o, P o → ∀ k, (∀ t ∈ o.surroundings.before k, Among t) ∧
  ∀ t ∈ o.surroundings.during k, Among t) (hsettle : Among .settle)

include hamong hsettle

/-- What the acts of those around keep is kept while a request waits. -/
theorem await_keeps {o : Outlet} (ho : P o) (index : Nat) : P (o.await index) := by
  have hturns := turns_keep hturn ho (hamong o ho index).2
  unfold await
  dsimp only
  split
  · exact hturns
  · split
    · exact hturns
    · exact hturn _ .settle hsettle hturns

/-- **What those around keep is kept by a request**, with all that they do before it and while it
waits, if it says nothing about the pool and the number of requests. -/
theorem request_keeps_among (hpool : ∀ o pool requests, P o → P { o with pool, requests })
    {o : Outlet} (ho : P o) : P o.request.2 := by
  have hbefore := turns_keep hturn ho (hamong o ho o.requests).1
  have hasked (pool : Pool) :
      P { o.turns (o.surroundings.before o.requests) with pool, requests := o.requests + 1 } :=
    hpool _ pool _ hbefore
  unfold request
  dsimp only
  split
  · exact hasked _
  · exact hasked _
  · split
    · exact hasked _
    · rename_i pool _
      have hwaited := await_keeps hturn hamong hsettle (hasked pool) o.requests
      split
      · exact hpool _ _ _ hwaited
      · exact hpool _ _ _ hwaited

end Request

/-- What every act of others keeps is kept by a request. -/
theorem request_keeps {P : Outlet → Prop} (hturn : ∀ o t, P o → P (o.turn t))
    (hpool : ∀ o pool requests, P o → P { o with pool, requests }) {o : Outlet} (ho : P o) :
    P o.request.2 :=
  request_keeps_among (fun o t (_ : True) => hturn o t)
    (fun _ _ _ => ⟨fun _ _ => trivial, fun _ _ => trivial⟩) trivial hpool ho

/-- **A request offers nothing**, whatever others do before it and while it waits. -/
theorem offers_request (o : Outlet) : o.request.2.partition.offers = o.partition.offers := by
  refine request_keeps (P := fun o' => o'.partition.offers = o.partition.offers) ?_ ?_ rfl
  · intro o' t ho'
    exact (o'.offers_turn t).trans ho'
  · intro o' pool requests ho'
    exact ho'

/-! ## What the writer does -/

/-- What forwarding a buffer comes to: an empty one is not offered, another is taken or refused. -/
inductive Forwarded (o : Outlet) (c : ChannelId) (b : Buffer) :
    Except WriterError Unit × Outlet → Prop where
  | unsent {o' : Outlet} : b.contents = [] → o'.partition.offers = o.partition.offers →
    Forwarded o c b (.ok (), o')
  | taken {o' : Outlet} : o'.partition.offers = o.partition.offers.push ⟨c, .buffer b, true⟩ →
    Forwarded o c b (.ok (), o')
  | refused {o' : Outlet} (e : WriterError) :
    o'.partition.offers = o.partition.offers.push ⟨c, .buffer b, false⟩ →
    Forwarded o c b (.error e, o')

theorem forward_forwarded (o : Outlet) (c : ChannelId) (b : Buffer) :
    Forwarded o c b (o.forward c b) := by
  unfold forward
  by_cases hempty : b.isEmpty = true
  · rw [if_pos hempty]
    exact .unsent (b.isEmpty_iff.1 hempty) rfl
  · rw [if_neg hempty]
    have hnoted := o.partition.writeBuffer_noted c b
    rcases hout : o.partition.writeBuffer c b with ⟨r, p'⟩
    rw [hout] at hnoted
    cases hnoted with
    | taken h => exact .taken h
    | refused e h => exact .refused _ h

theorem sendEvent_noted (o : Outlet) (c : ChannelId) (e : Event) :
    Partition.Noted o.partition c (.event e)
      ((o.sendEvent c e).1, (o.sendEvent c e).2.partition) := by
  have hnoted := o.partition.writeEvent_noted c e
  unfold sendEvent
  rcases hout : o.partition.writeEvent c e with ⟨r, p'⟩
  rw [hout] at hnoted
  cases hnoted with
  | taken h => exact .taken h
  | refused cause h => exact .refused _ h

/-- Ending a superstep offers the marker at most once on a channel, and if it succeeds, every
channel of the partition has taken it. -/
theorem offersTo_endSuperstep (o : Outlet) (c : ChannelId) :
    ∃ marks, o.endSuperstep.2.partition.offersTo c = o.partition.offersTo c ++ marks ∧
      (marks = [] ∨ ∃ taken, marks = [⟨c, .endOfSuperstep, taken⟩]) ∧
      (o.endSuperstep.1 = .ok () → c.toNat < o.partition.subpartitions.length →
        marks = [⟨c, .endOfSuperstep, true⟩]) := by
  unfold endSuperstep Partition.writeEndOfSuperstep
  rcases o.partition.markerFaults.next with ⟨fault, plan⟩
  cases fault with
  | some reason => exact ⟨[], (List.append_nil _).symm, .inl rfl, fun h => nomatch h⟩
  | none =>
    obtain ⟨marks, hmarks, hatMost, hall, _⟩ :=
      Partition.offersTo_markFrom { o.partition with markerFaults := plan } 0
        o.partition.subpartitions.length c
    rcases hout : Partition.markFrom { o.partition with markerFaults := plan } 0
      o.partition.subpartitions.length with ⟨r, p'⟩
    rw [hout] at hmarks hall
    simp only [hout]
    cases r with
    | error e => exact ⟨marks, hmarks, hatMost, fun h => nomatch h⟩
    | ok _ => exact ⟨marks, hmarks, hatMost, fun _ hc => hall rfl (Nat.zero_le _) (by omega)⟩

end Outlet

end Fanout
