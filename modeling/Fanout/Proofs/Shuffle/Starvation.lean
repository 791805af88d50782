import Fanout.Proofs.Shuffle.Job

/-!
# Starvation

The producer of a shuffle waits for a buffer when its pool has none free. If the pool has at least
as many buffers as there are channels, then one of them is on its way back: the lanes hold one each
at most, and the lane that asks holds none. With fewer buffers the lanes can come to hold all of
them.

* `never_starved` — a producer with enough buffers, among any consumers.
* `starved_small` — valid settings with which a producer starves.
-/

namespace Fanout

namespace Outlet

variable {o o' : Outlet} {asks : List Outlet}

/-- The requests of some dealings, in the order of their numbers. -/
theorem Deals.requests {slots start held : Nat} {smooth : Bool}
    (h : o.Deals slots start asks smooth held o') :
    asks.map Outlet.requests = List.range' o.requests asks.length ∧
      o'.requests = o.requests + asks.length := by
  induction h with
  | refl => exact ⟨rfl, rfl⟩
  | @request asks _ _ ask _ _ ih =>
    obtain ⟨hasks, hnext⟩ := ih
    have hlength : (asks ++ [ask]).length = asks.length + 1 := List.length_append
    rw [hlength, List.range'_concat, List.map_append, hasks, Nat.one_mul, requests_request, hnext]
    exact ⟨congrArg (_ ++ [·]) hnext, rfl⟩
  | forward b _ _ ih => exact ⟨ih.1, (requests_forward _ _ b).trans ih.2⟩
  | sendEvent e _ _ ih => exact ⟨ih.1, (requests_sendEvent _ _ e).trans ih.2⟩
  | endSuperstep _ ih => exact ⟨ih.1, (requests_endSuperstep _).trans ih.2⟩
  | recycle _ _ ih | count f _ _ ih => exact ih

/-- **Where the lanes hold fewer buffers than there are**, one of them is queued or with a consumer
whenever none is free, whatever consumers did. -/
theorem Balanced.returning {capacity held : Nat} (h : o.Balanced capacity (some false) held)
    (hheld : held < capacity) {ts : List Turn} (hts : ∀ t ∈ ts, t.OfConsumer)
    (hfree : (o.turns ts).pool.free = 0) :
    0 < (o.turns ts).partition.allQueuedBuffers + (o.turns ts).lent := by
  have hturned := h.turns fun _ hmem => hts _ hmem
  have halive := hturned.accounts.destroyed_eq rfl
  have hsum := hturned.accounts.free_of_alive halive
  omega

end Outlet

namespace Shuffle

/-- **A producer with as many buffers as channels does not starve.** Take a shuffle whose pool has
at least as many buffers as there are channels, among consumers that receive, give back and go away
whenever they like. Whenever the producer asks for a buffer and none is free, then or after anything
that the consumers do, a buffer is queued on a channel or with a consumer. -/
theorem never_starved {c : Config} {args : RunArgs} {surroundings : Surroundings} {d : Disk}
    {w : Producer} (hsetup : setup c args surroundings d = .ok w)
    (hpool : width c args ≤ c.buffer.poolSize) (hconsumers : surroundings.OfConsumers) :
    let produced := (produce w args args.supersteps).2
    ∃ asks smooth,
      w.outlet.Deals (width c args) 0 asks smooth (Lane.holding produced.lanes) produced.outlet ∧
      asks.map Outlet.requests = List.range produced.outlet.requests ∧
      ∀ o ∈ asks, ∀ ts : List Turn, (∀ t ∈ ts, t.OfConsumer) → (o.turns ts).pool.free = 0 →
        0 < (o.turns ts).partition.allQueuedBuffers + (o.turns ts).lent := by
  intro produced
  obtain ⟨pool, _, hmade⟩ := setup_made hsetup
  have hrequests : w.outlet.requests = 0 := by
    rw [Writer.outlet_make hmade]
  obtain ⟨asks, smooth, hdeals, _⟩ := produce_deals hsetup
  obtain ⟨hasks, hlast⟩ := hdeals.requests
  refine ⟨asks, smooth, hdeals, ?_, fun ask hask ts hts => ?_⟩
  · rw [hlast, hasks, hrequests, Nat.zero_add, List.range_eq_range']
  · have hbefore := balanced_setup hsetup hconsumers.spare
    obtain ⟨held, hheld, hask⟩ := (hdeals.balanced hbefore).2 ask hask
    exact hask.returning (Nat.lt_of_lt_of_le hheld hpool) hts

/-! A small case: two vertices message each other over two channels. -/

def scarceConfig (buffers : Nat) : Config where
  writer := { channels := 2 }
  buffer := { bufferSize := 256, poolSize := buffers }

def shortArgs : RunArgs where
  supersteps := 1
  vertices := 2

/-- With two buffers, each of the two lanes asks for one for its records, and for another after the
end of the superstep. -/
theorem never_starved_small :
    ∃ (w : Producer) (asks : List Outlet),
      setup (scarceConfig 2) shortArgs .attentive Disk.empty = .ok w ∧
      asks.map Outlet.requests = [0, 1, 2, 3] ∧
      ∀ o ∈ asks, ∀ ts : List Turn, (∀ t ∈ ts, t.OfConsumer) → (o.turns ts).pool.free = 0 →
        0 < (o.turns ts).partition.allQueuedBuffers + (o.turns ts).lent := by
  obtain ⟨w, hsetup⟩ : ∃ w, setup (scarceConfig 2) shortArgs .attentive Disk.empty = .ok w :=
    ⟨_, rfl⟩
  obtain ⟨asks, _, _, hasks, hreturning⟩ :=
    never_starved hsetup (by decide) Surroundings.receive_attentive.ofConsumers
  have hrequests : (produce w shortArgs 1).2.outlet.requests = 4 := by
    obtain rfl := Except.ok.inj hsetup
    decide +kernel
  refine ⟨w, asks, hsetup, ?_, hreturning⟩
  rw [hasks]
  show List.range (produce w shortArgs 1).2.outlet.requests = _
  rw [hrequests]
  rfl

/-- **Valid settings with which a producer starves**: with one buffer the lane of the first record
holds it when the second record needs another. The consumers have nothing that they could give
back. -/
theorem starved_small :
    (scarceConfig 1).validate = .ok () ∧
    ∃ w, setup (scarceConfig 1) shortArgs .attentive Disk.empty = .ok w ∧
      (produce w shortArgs 1).1 = .error .starved ∧
      let waiting := (produce w shortArgs 1).2
      waiting.outlet.pool.free = 0 ∧ Lane.holding waiting.lanes = waiting.outlet.pool.capacity ∧
        waiting.outlet.partition.allQueuedBuffers + waiting.outlet.lent = 0 := by
  refine ⟨by decide, _, rfl, ?_, ?_, ?_, ?_⟩ <;> decide +kernel

end Shuffle

end Fanout
