import Fanout.Proofs.Shuffle.Starvation
import Fanout.Proofs.Writer.Requests

/-!
# Deadlines

How the requests of a configured writer end. The clock and the patience stand still while a writer
is at work (`Outlet.terms`), so every request is made on the terms of the configuration, and the
only thing that can go wrong beside a timeout is that the timeout leads beyond the clock.

* `Writer.requests_answered` — the requests of every operation of every run.
* `Shuffle.request_beyond_clock` — valid settings with which a request overflows the clock.
-/

namespace Fanout

namespace Outlet

variable {o o' : Outlet} {asks : List Outlet}

/-- On what terms requests are made: the time, the patience, and who is around. -/
def terms (o : Outlet) : Duration × Patience × Surroundings := (o.now, o.patience, o.surroundings)

theorem terms_of_standing (h : o'.standing = o.standing) : o'.terms = o.terms :=
  congrArg (fun s : Standing => (s.now, s.patience, s.surroundings)) h

/-- **All requests are made on the terms of the start.** -/
theorem Deals.terms_eq {slots start held : Nat} {smooth : Bool}
    (h : o.Deals slots start asks smooth held o') :
    o'.terms = o.terms ∧ ∀ ask ∈ asks, ask.terms = o.terms := by
  induction h with
  | refl => exact ⟨rfl, List.forall_mem_nil _⟩
  | request _ _ ih =>
    refine ⟨(terms_of_standing (standing_request _)).trans ih.1, ?_⟩
    exact List.forall_mem_append.2 ⟨ih.2, List.forall_mem_singleton.2 ih.1⟩
  | forward b _ _ ih => exact ⟨(terms_of_standing (standing_forward _ _ b)).trans ih.1, ih.2⟩
  | sendEvent e _ _ ih => exact ⟨(terms_of_standing (standing_sendEvent _ _ e)).trans ih.1, ih.2⟩
  | endSuperstep _ ih => exact ⟨(terms_of_standing (standing_endSuperstep _)).trans ih.1, ih.2⟩
  | recycle _ _ ih | count f _ _ ih => exact ih

end Outlet

namespace Writer

variable {σ : Type} {s : Schema} [ChannelSelector σ s.Value] {w : Writer σ} {c : Config}
  {now : Duration}

theorem terms_perform (w : Writer σ) (op : Operation s.Value) :
    (w.perform s op).2.outlet.terms = w.outlet.terms := by
  by_cases hturn : ∃ t, op = .turn t
  · obtain ⟨t, rfl⟩ := hturn
    exact Outlet.terms_of_standing (w.outlet.standing_turn t)
  · obtain ⟨asks, smooth, hdeals, _⟩ :=
      perform_deals (Nat.le_refl w.lanes.length) fun t heq => hturn ⟨t, heq⟩
    exact hdeals.terms_eq.1

theorem terms_run (w : Writer σ) (ops : List (Operation s.Value)) :
    (w.run s ops).outlet.terms = w.outlet.terms := by
  induction ops generalizing w with
  | nil => rfl
  | cons op ops ih => exact (ih _).trans (terms_perform w op)

/-- The writer was made from settings that were accepted: with the configured pool and patience, for
any partition and with any selector, whatever its other options are and whoever is around. -/
def Configured (w : Writer σ) (c : Config) (now : Duration) : Prop :=
  c.validate = .ok () ∧ ∃ partition pool selector options surroundings disk,
    Shuffle.makePool c = .ok pool ∧ options.patience = (Shuffle.writerOptions c).patience ∧
    make partition pool selector options now surroundings disk = .ok w

/-- A configured writer waits as long as its settings say. -/
theorem Configured.terms_run (h : w.Configured c now) (ops : List (Operation s.Value)) :
    (w.run s ops).outlet.now = now ∧
      (w.run s ops).outlet.patience = (Shuffle.writerOptions c).patience := by
  obtain ⟨_, partition, pool, selector, options, surroundings, disk, _, hpatience, hmade⟩ := h
  have hterms := w.terms_run ops
  rw [outlet_make hmade] at hterms
  exact ⟨congrArg Prod.fst hterms, (congrArg (·.2.1) hterms).trans hpatience⟩

theorem patience_eq_upTo_iff {timeout : Duration} :
    (Shuffle.writerOptions c).patience = .upTo timeout ↔
      c.buffer.requestTimeout = some timeout := by
  unfold Shuffle.writerOptions
  cases c.buffer.requestTimeout with
  | none => exact iff_of_false (fun h => nomatch h) fun h => nomatch h
  | some configured =>
    exact ⟨fun h => congrArg some (Patience.upTo.inj h), fun h => congrArg _ (Option.some.inj h)⟩

theorem patience_eq_unlimited_iff :
    (Shuffle.writerOptions c).patience = .unlimited ↔ c.buffer.requestTimeout = none := by
  unfold Shuffle.writerOptions
  cases c.buffer.requestTimeout with
  | none => exact iff_of_true rfl rfl
  | some configured => exact iff_of_false (fun h => nomatch h) fun h => nomatch h

/-- **How the requests of a configured writer end.** Take a writer that was made from accepted
settings, any run of it among any others, and one more operation; its requests, by their numbers,
are the `asks`.

A request overflows the clock exactly if it finds the pool exhausted and there is a timeout that
leads beyond the clock. Any other request ends with a buffer, because the pool is destroyed, or
because the configured timeout is over; without a timeout it waits on as long as the lanes of the
writer have all buffers. And whatever it is that denies a request a buffer, the free buffers and the
counts of those that were requested and recycled are as others left them. -/
theorem requests_answered (hw : w.Configured c now) (ops : List (Operation s.Value))
    {op : Operation s.Value} (hop : ∀ t, op ≠ .turn t) :
    let before := w.run s ops
    let after := (before.perform s op).2
    ∃ asks smooth,
      before.outlet.Deals w.lanes.length (Lane.holding before.lanes) asks smooth
        (Lane.holding after.lanes) after.outlet ∧
      asks.map Outlet.requests = List.range' before.outlet.requests asks.length ∧
      after.outlet.requests = before.outlet.requests + asks.length ∧
      ∀ ask ∈ asks,
        (ask.request.1 = .error .deadlineOverflow ↔
          ask.met.pool.Exhausted ∧ ∃ timeout, c.buffer.requestTimeout = some timeout ∧
            Duration.clockLimit <
              (now.toNanoseconds + timeout.toNanoseconds) / Duration.perSecond) ∧
        (ask.request.1 ≠ .error .deadlineOverflow →
          ask.request.1 = .ok () ∨ ask.request.1 = .error .poolDestroyed ∨
          (∃ timeout, c.buffer.requestTimeout = some timeout ∧
            ask.request.1 = .error (.bufferTimeout timeout)) ∨
          c.buffer.requestTimeout = none ∧ ask.request.1 = .error .starved ∧
            ask.request.2.pool.Exhausted ∧ ask.request.2.partition.allQueuedBuffers = 0 ∧
            ask.request.2.lent = 0) ∧
        ∀ e, ask.request.1 = .error e → ∃ ts, ts <+: ask.around ∧
          ask.request.2.pool.free = (ask.turns ts).pool.free ∧
          ask.request.2.pool.requested = (ask.turns ts).pool.requested ∧
          ask.request.2.pool.recycled = (ask.turns ts).pool.recycled := by
  intro before after
  have hlanes : before.lanes.length = w.lanes.length := length_run w ops
  obtain ⟨asks, smooth, hdeals, _⟩ := perform_deals (w := before) hlanes.le hop
  obtain ⟨hasks, hnext⟩ := hdeals.requests
  obtain ⟨hnow, hpatience⟩ := hw.terms_run ops
  refine ⟨asks, smooth, hdeals, hasks, hnext, fun ask hask => ?_⟩
  have hterms := hdeals.terms_eq.2 ask hask
  have hasknow : ask.now = now := (congrArg Prod.fst hterms).trans hnow
  have haskpatience : ask.patience = (Shuffle.writerOptions c).patience :=
    (congrArg (·.2.1) hterms).trans hpatience
  refine ⟨?_, fun hclock => ?_, fun e herror => ?_⟩
  · rw [ask.request_eq_overflow_iff, haskpatience, hasknow]
    simp only [patience_eq_upTo_iff, Duration.deadline?_eq_none_iff]
  · cases hresult : ask.request.1 with
    | ok _ => exact .inl rfl
    | error e =>
      obtain ⟨ts, waits, _, hleft, hdenies⟩ := ask.request_denied hresult
      have hsame : (ask.turns ts).patience = (Shuffle.writerOptions c).patience :=
        (congrArg Outlet.Standing.patience (ask.standing_turns ts)).trans haskpatience
      rw [hresult] at hclock
      rw [hleft]
      right
      cases hdenies with
      | gone _ => exact .inl rfl
      | timedOut htimeout _ =>
        exact .inr (.inl ⟨_, patience_eq_upTo_iff.1 (hsame.symm.trans htimeout), rfl⟩)
      | overflow _ _ _ => exact absurd rfl hclock
      | starved hunlimited hexhausted hqueued hlent =>
        have hnone := patience_eq_unlimited_iff.1 (hsame.symm.trans hunlimited)
        exact .inr (.inr ⟨hnone, rfl, hexhausted, hqueued, hlent⟩)
  · obtain ⟨ts, waits, hts, hleft, _⟩ := ask.request_denied herror
    rw [hleft]
    exact ⟨ts, hts, rfl, rfl, rfl⟩

end Writer

/-! A small case: two vertices message each other over two channels with one buffer. -/

namespace Shuffle

theorem configured_setup {c : Config} {args : RunArgs} {surroundings : Surroundings} {d : Disk}
    {w : Producer} (hvalid : c.validate = .ok ()) (hsetup : setup c args surroundings d = .ok w) :
    w.Configured c startOfClock := by
  obtain ⟨pool, hpool, hmade⟩ := setup_made hsetup
  exact ⟨hvalid, _, pool, _, _, surroundings, d, hpool, rfl, hmade⟩

def patientConfig (timeout : Duration) : Config where
  writer := { channels := 2 }
  buffer := { bufferSize := 256, poolSize := 1, requestTimeout := some timeout }

/-- A message from the first vertex. -/
def firstMessage (target : UInt64) : Operation record.Value :=
  .emit (⟨wordValue target, wordValue 0⟩ : Message word.Value word.Value) (some ⟨0⟩)

end Shuffle

namespace Writer

open Shuffle

/-- The longest timeout whose end the clock shows when a shuffle starts: the second message waits
for the only buffer, and the timeout is over in the end. -/
theorem requests_answered_small :
    let timeout := Duration.ofSeconds (Duration.clockLimit - 1)
    ∃ w, setup (patientConfig timeout) {} .attentive Disk.empty = .ok w ∧
      w.Configured (patientConfig timeout) startOfClock ∧
      ((w.run record [firstMessage 1]).perform record (firstMessage 7)).1 =
        .error (.bufferTimeout timeout) ∧
      ∃ ask : Outlet, ask.requests = 1 ∧ ask.request.1 ≠ .error .deadlineOverflow ∧
        ∀ e, ask.request.1 = .error e → ∃ ts, ts <+: ask.around ∧
          ask.request.2.pool.free = (ask.turns ts).pool.free ∧
          ask.request.2.pool.requested = (ask.turns ts).pool.requested ∧
          ask.request.2.pool.recycled = (ask.turns ts).pool.recycled := by
  intro timeout
  have hvalid : (patientConfig timeout).validate = .ok () := by decide
  obtain ⟨w, hsetup⟩ : ∃ w, setup (patientConfig timeout) {} .attentive Disk.empty = .ok w :=
    ⟨_, rfl⟩
  have hw := configured_setup hvalid hsetup
  have hmessage : ∀ t, firstMessage 7 ≠ .turn t := fun t h => nomatch h
  obtain ⟨asks, _, _, hasks, hnext, hanswered⟩ := requests_answered hw [firstMessage 1] hmessage
  have hfirst : (w.run record [firstMessage 1]).outlet.requests = 1 := by
    obtain rfl := Except.ok.inj hsetup
    decide +kernel
  have hboth : ((w.run record [firstMessage 1]).perform record (firstMessage 7)).2.outlet.requests =
      2 := by
    obtain rfl := Except.ok.inj hsetup
    decide +kernel
  have hlength : asks.length = 1 := by omega
  obtain ⟨ask, rfl⟩ := List.length_eq_one_iff.1 hlength
  obtain ⟨hoverflow, _, hdenied⟩ := hanswered ask List.mem_cons_self
  refine ⟨w, hsetup, hw, ?_, ask, ?_, fun h => ?_, hdenied⟩
  · obtain rfl := Except.ok.inj hsetup
    decide +kernel
  · exact (List.singleton_inj.1 hasks).trans hfirst
  · obtain ⟨_, configured, hconfigured, hbeyond⟩ := hoverflow.1 h
    obtain rfl : timeout = configured := Option.some.inj hconfigured
    exact absurd hbeyond (by decide)

end Writer

namespace Shuffle

/-- **Valid settings with which a request overflows the clock**: the only buffer is with the lane of
the first message when the second one needs another, and no clock shows the end of the timeout. -/
theorem request_beyond_clock :
    let timeout := Duration.ofSeconds (UInt64.size - 1)
    (patientConfig timeout).validate = .ok () ∧ timeout.isZero = false ∧
    ∃ w, setup (patientConfig timeout) {} .attentive Disk.empty = .ok w ∧
      w.Configured (patientConfig timeout) startOfClock ∧
      ((w.run record [firstMessage 1]).perform record (firstMessage 7)).1 =
        .error .deadlineOverflow := by
  intro timeout
  have hvalid : (patientConfig timeout).validate = .ok () := by decide
  obtain ⟨w, hsetup⟩ : ∃ w, setup (patientConfig timeout) {} .attentive Disk.empty = .ok w :=
    ⟨_, rfl⟩
  refine ⟨hvalid, by decide, w, hsetup, configured_setup hvalid hsetup, ?_⟩
  obtain rfl := Except.ok.inj hsetup
  decide +kernel

end Shuffle

end Fanout
