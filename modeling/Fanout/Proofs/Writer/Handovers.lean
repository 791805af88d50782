import Fanout.Proofs.Writer.Flushes
import Fanout.Proofs.Writer.Moments

/-!
# Handovers

A lane hands its buffer over before it asks for another. So it asks with nothing in hand, what it is
given replaces nothing, and what it hands over has something in it. Between operations a lane holds
no buffer while bytes wait for one, and none that is full.

* `Outlet.Seen` — moments that show all the requests and all the buffers offered between two
  outlets.
* `Lane.seen_serve`, `Lane.seen_sendEvent` and the others — the steps of a lane.
* `Writer.handovers_run` — every operation in every state that a writer reaches.
-/

namespace Fanout

/-! ## Buffers on record -/

/-- The buffer of an offer, if it is of one. -/
def Offer.buffer? (offer : Offer) : Option (ChannelId × Buffer) :=
  match offer.delivery with
  | .buffer b => some (offer.channel, b)
  | .event _ | .endOfSuperstep => none

namespace Partition

variable {p p' : Partition}

/-- The buffers that were offered, oldest first. -/
def buffersOffered (p : Partition) : List (ChannelId × Buffer) :=
  p.offers.toList.filterMap Offer.buffer?

theorem buffersOffered_congr (h : p'.offers = p.offers) :
    p'.buffersOffered = p.buffersOffered := by
  rw [buffersOffered, h, buffersOffered]

theorem buffersOffered_of_push {c : ChannelId} {b : Buffer} {taken : Bool}
    (h : p'.offers = p.offers.push ⟨c, .buffer b, taken⟩) :
    p'.buffersOffered = p.buffersOffered ++ [(c, b)] := by
  rw [buffersOffered, h, Array.toList_push, List.filterMap_append, buffersOffered]
  rfl

/-- Marks are no buffers. -/
theorem Adds.buffersOffered_eq (h : p.Adds (fun d => d.buffers = 0) p') :
    p'.buffersOffered = p.buffersOffered := by
  obtain ⟨more, hoffers, hmarks⟩ := h
  have hnone : more.filterMap Offer.buffer? = [] := by
    rw [List.filterMap_eq_nil_iff]
    rintro ⟨c, _ | e | _, taken⟩ hoffer
    · exact absurd (hmarks _ hoffer) Nat.one_ne_zero
    · rfl
    · rfl
  rw [buffersOffered, hoffers, List.filterMap_append, hnone, List.append_nil, buffersOffered]

end Partition

/-! ## Moments between two outlets -/

namespace Moment

variable {τ : Type}

def isAsk (m : Moment τ) : Bool :=
  match m.point with
  | .ask => true
  | .install | .send _ | .vanish => false

/-- The buffer that is to be sent at a moment, if one is. -/
def sent? (m : Moment τ) : Option (ChannelId × Buffer) :=
  match m.point with
  | .send b => some (m.channel, b)
  | .ask | .install | .vanish => none

end Moment

/-- **What a lane has in hand**: nothing when it asks for a buffer or is given one, one with
something in it when it hands one over, and the one that it was seen to hold. -/
def Point.Fair (hand : Option Buffer) : Point → Prop
  | .ask | .install => hand = none
  | .send b => b.isEmpty = false
  | .vanish => False

namespace Outlet

variable {τ υ : Type} {P : Moment τ → Prop} {Q : Moment υ → Prop} {moments later : List (Moment τ)}
  {o o' o'' : Outlet}

/-- **All that was seen** between two outlets: moments of one kind, among them every request for a
buffer and every buffer that was offered. -/
structure Seen (P : Moment τ → Prop) (o : Outlet) (moments : List (Moment τ)) (o' : Outlet) :
    Prop where
  each : ∀ m ∈ moments, P m
  requests_eq : o'.requests = o.requests + moments.countP Moment.isAsk
  offered_eq : o'.partition.buffersOffered =
    o.partition.buffersOffered ++ moments.filterMap Moment.sent?

namespace Seen

theorem nothing (hrequests : o'.requests = o.requests)
    (hoffered : o'.partition.buffersOffered = o.partition.buffersOffered) : o.Seen P [] o' :=
  ⟨List.forall_mem_nil P, hrequests, by rw [hoffered, List.filterMap_nil, List.append_nil]⟩

theorem refl (o : Outlet) : o.Seen P [] o := .nothing rfl rfl

theorem trans (h : o.Seen P moments o') (h' : o'.Seen P later o'') :
    o.Seen P (moments ++ later) o'' := by
  refine ⟨List.forall_mem_append.2 ⟨h.each, h'.each⟩, ?_, ?_⟩
  · rw [h'.requests_eq, h.requests_eq, List.countP_append, Nat.add_assoc]
  · rw [h'.offered_eq, h.offered_eq, List.filterMap_append, List.append_assoc]

theorem ask {c : ChannelId} {state : τ} (hm : P ⟨c, state, .ask⟩) :
    o.Seen P [⟨c, state, .ask⟩] o.request.2 := by
  refine ⟨List.forall_mem_singleton.2 hm, requests_request o, ?_⟩
  rw [Partition.buffersOffered_congr (offers_request o)]
  exact (List.append_nil _).symm

theorem install {c : ChannelId} {state : τ} (hm : P ⟨c, state, .install⟩) :
    o.Seen P [⟨c, state, .install⟩] o :=
  ⟨List.forall_mem_singleton.2 hm, rfl, (List.append_nil _).symm⟩

/-- A buffer with something in it is offered if it is sent. -/
theorem send {c : ChannelId} {state : τ} {b : Buffer} (hm : P ⟨c, state, .send b⟩)
    (hb : b.isEmpty = false) : o.Seen P [⟨c, state, .send b⟩] (o.forward c b).2 := by
  refine ⟨List.forall_mem_singleton.2 hm, requests_forward o c b, ?_⟩
  have hforwarded := o.forward_forwarded c b
  generalize o.forward c b = out at hforwarded
  cases hforwarded with
  | unsent hempty _ => exact absurd (b.isEmpty_iff.2 hempty) (Bool.eq_false_iff.1 hb)
  | taken h | refused _ h => exact Partition.buffersOffered_of_push h

theorem view (h : o.Seen P moments o') (f : τ → υ)
    (hview : ∀ m, P m → Q ⟨m.channel, f m.state, m.point⟩) :
    o.Seen Q (moments.map fun m => ⟨m.channel, f m.state, m.point⟩) o' := by
  refine ⟨List.forall_mem_map.2 fun m hm => hview m (h.each m hm), ?_, ?_⟩
  · rw [h.requests_eq, List.countP_map]
    rfl
  · rw [h.offered_eq, List.filterMap_map]
    rfl

theorem sendEvent (o : Outlet) (c : ChannelId) (e : Event) : o.Seen P [] (o.sendEvent c e).2 :=
  have hmark := adds_sendEvent (P := fun d => d.buffers = 0) o c (e := e) rfl
  .nothing (requests_sendEvent o c e) hmark.buffersOffered_eq

theorem endSuperstep (o : Outlet) : o.Seen P [] o.endSuperstep.2 :=
  have hmarks := adds_endSuperstep (P := fun d => d.buffers = 0) rfl o
  .nothing (requests_endSuperstep o) hmarks.buffersOffered_eq

theorem turn (o : Outlet) (t : Turn) : o.Seen P [] (o.turn t) :=
  .nothing (requests_turn o t) (Partition.buffersOffered_congr (offers_turn o t))

end Seen

end Outlet

/-! ## Lanes -/

namespace Serializer

variable {s : Serializer}

/-- There is something in a buffer that is held. -/
def Loaded (s : Serializer) : Prop := ∀ b, s.buffer = some b → b.isEmpty = false

/-- A buffer that has no room left after copying has something in it. -/
theorem loaded_copy (hcapacity : ∀ b, s.buffer = some b → 0 < b.capacity)
    (hneeds : s.copy.1.needsBuffer = true) : s.copy.2.Loaded := by
  intro b hb
  cases hbefore : s.buffer with
  | none =>
    rw [(copy_of_none hbefore).1, hbefore] at hb
    exact nomatch hb
  | some before =>
    obtain ⟨b', hb', _, hfull, _⟩ := copy_of_some hbefore rfl
    obtain rfl := Option.some.inj (hb.symm.trans hb')
    have hsize := hfull hneeds
    have hpositive := hcapacity before hbefore
    exact decide_eq_false (by omega)

end Serializer

/-- A moment of the lane of a channel with no more in hand than there may be. -/
def Moment.FairOn (c : ChannelId) (m : Moment Serializer) : Prop :=
  m.channel = c ∧ m.point.Fair m.state.buffer

namespace Lane

variable {c : ChannelId} {s s' : Serializer} {o o' : Outlet}

theorem seen_surrender (hs : s.Loaded) :
    o.Seen (Moment.FairOn c) (watchSurrender c s o).moments (surrender c s o).2.2 := by
  unfold watchSurrender surrender
  cases hb : s.buffer with
  | none => exact .refl o
  | some b => exact .send ⟨rfl, hs b hb⟩ (hs b hb)

/-- **Every round of refilling** hands the held buffer over before another is asked for. -/
theorem seen_refill (hs : s.Loaded) :
    o.Seen (Moment.FairOn c) (watchRefill c s o).moments (watchRefill c s o).result.2.2 := by
  -- the surrender of a round leaves a lane without a buffer, which then asks for one
  have hround {s emptied : Serializer} {o sent : Outlet} {r : Except WriterError Unit}
      {handed : List (Moment Serializer)} (hs : s.Loaded)
      (hout : watchSurrender c s o = ⟨handed, r, emptied, sent⟩) :
      o.Seen (Moment.FairOn c) handed sent ∧ emptied.buffer = none ∧
        sent.Seen (Moment.FairOn c) [⟨c, emptied, .ask⟩] sent.request.2 := by
    have hseen := seen_surrender (c := c) (o := o) hs
    have hnone := buffer_surrender c s o
    rw [← result_watchSurrender, hout] at hseen hnone
    exact ⟨hseen, hnone, .ask ⟨rfl, hnone⟩⟩
  fun_induction watchRefill c s o with
  | case1 s o handed e s' o' hout => exact (hround hs hout).1
  | case2 s o handed emptied sent hout e o' hrequest =>
    obtain ⟨hseen, -, hask⟩ := hround hs hout
    rw [hrequest] at hask
    exact hseen.trans hask
  | case3 s o handed emptied sent hout granted hrequest progress next hinstall round hp later ih =>
    obtain ⟨hseen, hnone, hask⟩ := hround hs hout
    rw [hrequest] at hask
    have hgiven : granted.Seen (Moment.FairOn c) [⟨c, emptied, .install⟩] granted :=
      .install ⟨rfl, hnone⟩
    -- a new buffer that needs another at once is full
    have hloaded : next.Loaded := by
      have hcopied := Serializer.loaded_copy
        (s := { emptied with buffer := some granted.pool.lent }) fun b hb => by
          obtain rfl := Option.some.inj hb
          exact granted.pool.bufferSize_pos
      rw [show Serializer.copy _ = _ from hinstall] at hcopied
      exact hcopied hp
    exact (hseen.trans (hask.trans hgiven)).trans (ih hloaded)
  | case4 s o handed emptied sent hout granted hrequest progress next hinstall round hp =>
    obtain ⟨hseen, hnone, hask⟩ := hround hs hout
    rw [hrequest] at hask
    exact hseen.trans (hask.trans (.install ⟨rfl, hnone⟩))

/-- **Serving a frame**, with a buffer in hand that is of some size. -/
theorem seen_serve (hs : ∀ b, s.buffer = some b → 0 < b.capacity)
    (frame : Except RecordError ByteArray) :
    o.Seen (Moment.FairOn c) (watchServe c frame s o).moments
      (watchServe c frame s o).result.2.2.2 := by
  have hadded := s.add_added frame
  unfold watchServe
  generalize s.add frame = out at hadded
  cases hadded with
  | refused _ | unencoded _ _ => exact .refl o
  | @copied bytes begun _ _ hbegun =>
    dsimp only
    by_cases hp : begun.copy.1.needsBuffer = true
    · rw [if_pos hp]
      have hloaded : begun.copy.2.Loaded := Serializer.loaded_copy (hbegun ▸ hs) hp
      have hrefilled := seen_refill (c := c) (o := o) hloaded
      rw [Watched.moments_bind, Watched.moments_pure, List.append_nil]
      exact hrefilled
    · rw [if_neg hp]
      exact .refl o

/-- **Flushing** hands over what it looked at. -/
theorem seen_flush (c : ChannelId) (s : Serializer) (o : Outlet) :
    o.Seen (Moment.FairOn c) (watchFlush c s o).moments (watchFlush c s o).result.2.2 := by
  unfold watchFlush
  by_cases hs : s.hasPending = true
  · rw [if_pos hs]
    exact .refl o
  · rw [if_neg hs]
    by_cases hempty : s.buffer.all Buffer.isEmpty = true
    · rw [if_pos hempty]
      exact .refl o
    · rw [if_neg hempty]
      cases hb : s.buffer with
      | none =>
        -- a lane without a buffer has nothing to flush, so it does not come here
        rw [hb] at hempty
        exact absurd rfl hempty
      | some b =>
        rw [hb] at hempty
        have hloaded : b.isEmpty = false := Bool.eq_false_iff.2 hempty
        exact .send ⟨rfl, hloaded⟩ hloaded

/-- A lane that has nothing in hand asks for a buffer. -/
theorem seen_reprime {sent : Bool} (hs : sent = true → s.buffer = none) :
    o.Seen (Moment.FairOn c) (watchReprime sent c s o).moments
      (watchReprime sent c s o).result.2.2 := by
  unfold watchReprime
  cases sent with
  | false => exact .refl o
  | true =>
    have hnone := hs rfl
    have hask : o.Seen (Moment.FairOn c) [⟨c, s, .ask⟩] _ := .ask ⟨rfl, hnone⟩
    rw [if_pos rfl]
    unfold watchPrime
    rcases hrequest : o.request with ⟨_ | _, o'⟩ <;> rw [hrequest] at hask
    · exact hask
    · exact hask.trans (.install ⟨rfl, hnone⟩)

/-- What is done after flushing, if flushing succeeds. -/
theorem seen_flushed {next : LaneResult Bool → LaneWatch (LaneResult Unit)}
    (herror : ∀ e s o, next (.error e, s, o) = pure (.error e, s, o))
    (hok : ∀ sent s' o', flush c s o = (.ok sent, s', o') →
      o'.Seen (Moment.FairOn c) (next (.ok sent, s', o')).moments
        (next (.ok sent, s', o')).result.2.2) :
    o.Seen (Moment.FairOn c) (watchFlush c s o >>= next).moments
      (watchFlush c s o >>= next).result.2.2 := by
  have hflush := seen_flush c s o
  rw [Watched.moments_bind, Watched.result_bind]
  rw [result_watchFlush] at hflush ⊢
  rcases hout : flush c s o with ⟨e | sent, s', o'⟩ <;> rw [hout] at hflush
  · rw [herror]
    exact hflush.trans (.refl o')
  · exact hflush.trans (hok sent s' o' hout)

theorem seen_sendEvent (e : Event) (c : ChannelId) (s : Serializer) (o : Outlet) :
    o.Seen (Moment.FairOn c) (watchSendEvent e c s o).moments
      (watchSendEvent e c s o).result.2.2 := by
  refine seen_flushed (fun _ _ _ => rfl) fun sent s' o' hout => ?_
  have hsend : o'.Seen (Moment.FairOn c) [] _ := .sendEvent o' c e
  dsimp only
  rcases hsent : o'.sendEvent c e with ⟨_ | _, last⟩ <;> rw [hsent] at hsend
  · exact hsend
  · exact hsend.trans (seen_reprime fun h => buffer_flush (h ▸ hout))

theorem seen_endSuperstep (c : ChannelId) (s : Serializer) (o : Outlet) :
    o.Seen (Moment.FairOn c) (watchEndSuperstep c s o).moments
      (watchEndSuperstep c s o).result.2.2 :=
  seen_flushed (fun _ _ _ => rfl) fun _ _ _ hout => seen_reprime fun h => buffer_flush (h ▸ hout)

theorem seen_retire (c : ChannelId) (s : Serializer) (o : Outlet) :
    o.Seen (Moment.FairOn c) (watchRetire c s o).moments (watchRetire c s o).result.2.2 := by
  refine seen_flushed (fun _ _ _ => rfl) fun _ s' o' _ => ?_
  cases hb : s'.buffer with
  | none =>
    simp only [hb]
    exact .refl o'
  | some b =>
    simp only [hb]
    exact .nothing rfl rfl

end Lane

/-! ## All lanes -/

namespace Moment

open Writer (laneOf)

variable {c : ChannelId} {m : Moment Serializer} {state : List Serializer} {n : Nat}

/-- A moment of one of `n` channels, whose lane has no more in hand than there may be. -/
structure FairAmong (n : Nat) (m : Moment (List Serializer)) : Prop where
  length_eq : m.state.length = n
  channel_lt : m.channel.toNat < n
  fair : m.point.Fair (laneOf m.state m.channel).buffer

/-- A moment of one lane, among all lanes. -/
theorem FairOn.among (h : m.FairOn c) (hc : c.toNat < state.length)
    (hlane : laneOf state c = m.state) : FairAmong state.length ⟨m.channel, state, m.point⟩ := by
  obtain ⟨rfl, hfair⟩ := h
  exact ⟨rfl, hc, hlane ▸ hfair⟩

/-- **When a lane asks for a buffer** it holds none, so not every lane holds one. -/
theorem FairAmong.ask {m : Moment (List Serializer)} (h : m.FairAmong n) (hask : m.point = .ask) :
    (laneOf m.state m.channel).buffer = none ∧ Lane.holding m.state < n := by
  obtain ⟨rfl, hlt, hfair⟩ := h
  rw [hask] at hfair
  obtain ⟨others, hothers, hall, -⟩ := Lane.holding_set hlt
  have hlane : laneOf m.state m.channel = m.state[m.channel.toNat] := by
    rw [laneOf, List.getElem?_eq_getElem hlt, Option.getD_some]
  have hempty : (m.state[m.channel.toNat]).holding = 0 :=
    Serializer.holding_of_none (hlane ▸ hfair)
  refine ⟨hfair, ?_⟩
  rw [hall, hempty]
  exact hothers

end Moment

namespace Lane

/-- The lane behind those in `front` has a channel, and then the next comes. -/
theorem length_front {front lanes : List Serializer} {s : Serializer} {n : Nat}
    (hn : front.length + (s :: lanes).length ≤ n) :
    front.length < n ∧
      ∀ t, (front ++ [t]).length + lanes.length = front.length + (s :: lanes).length := by
  rw [List.length_cons] at hn ⊢
  refine ⟨by omega, fun t => ?_⟩
  rw [List.length_append, List.length_singleton]
  omega

variable {watchStep : ChannelId → Serializer → Outlet → LaneWatch (LaneResult Unit)}
  (hstep : ∀ c s (o : Outlet), o.Seen (Moment.FairOn c) (watchStep c s o).moments
    (watchStep c s o).result.2.2)

include hstep

/-- A step on the lane behind those in `front`. -/
theorem seen_step {front : List Serializer} (hfront : front.length < maxChannels)
    (rest : List Serializer) (s : Serializer) (o : Outlet) :
    o.Seen (Moment.FairAmong (front.length + (rest.length + 1)))
      ((watchStep (.ofNat front.length) s o).view (front ++ · :: rest)).moments
      (watchStep (.ofNat front.length) s o).result.2.2 := by
  have hindex := ChannelId.toNat_ofNat_of_lt hfront
  refine (hstep _ s o).view (front ++ · :: rest) fun m hm => ?_
  have hlength : (front ++ m.state :: rest).length = front.length + (rest.length + 1) :=
    List.length_append
  rw [← hlength]
  refine hm.among (by omega) ?_
  rw [Writer.laneOf, hindex, List.getElem?_append_right (Nat.le_refl _), Nat.sub_self]
  rfl

theorem seen_sweep {n : Nat} (hn : n ≤ maxChannels) (front lanes : List Serializer)
    (hlength : front.length + lanes.length = n) (o : Outlet) :
    o.Seen (Moment.FairAmong n) (watchSweep watchStep front lanes o).moments
      (watchSweep watchStep front lanes o).result.2.2 := by
  induction lanes generalizing front o with
  | nil => exact .refl o
  | cons s lanes ih =>
    obtain rfl := hlength
    obtain ⟨hfront, hnext⟩ := length_front hn
    have hfirst := seen_step hstep hfront lanes s o
    unfold watchSweep
    rw [Watched.moments_bind, Watched.result_bind, Watched.result_view]
    rcases hout : (watchStep (.ofNat front.length) s o).result with ⟨_ | _, s', o'⟩ <;>
      rw [hout] at hfirst
    · exact hfirst.trans (.refl o')
    -- the lanes in front are as their steps left them
    · exact hfirst.trans ((ih (front ++ [s']) (hnext s') o').trans (.refl _))

theorem seen_sweepAll {n : Nat} (hn : n ≤ maxChannels) (front lanes : List Serializer)
    (hlength : front.length + lanes.length = n) (o : Outlet) :
    o.Seen (Moment.FairAmong n) (watchSweepAll watchStep front lanes o).moments
      (watchSweepAll watchStep front lanes o).result.2.2 := by
  induction lanes generalizing front o with
  | nil => exact .refl o
  | cons s lanes ih =>
    obtain rfl := hlength
    obtain ⟨hfront, hnext⟩ := length_front hn
    have hfirst := seen_step hstep hfront lanes s o
    unfold watchSweepAll
    rw [Watched.moments_bind, Watched.result_bind, Watched.result_view]
    rcases hout : (watchStep (.ofNat front.length) s o).result with ⟨r, s', o'⟩
    rw [hout] at hfirst
    exact hfirst.trans ((ih (front ++ [s']) (hnext s') o').trans (.refl _))

end Lane

/-! ## Operations -/

namespace Writer

variable {σ : Type} {s : Schema} [ChannelSelector σ s.Value] {w : Writer σ} {p : Partition}
  {size : Nat}

/-- **Serving a frame** to some of the lanes, which have room. -/
theorem seen_serve (frame : Except RecordError ByteArray) {targets : List ChannelId}
    {lanes : List Serializer} {o : Outlet} (htargets : ∀ c ∈ targets, c.toNat < lanes.length)
    (hsize : o.pool.bufferSize = size) (hlanes : ∀ lane ∈ lanes, lane.Roomy size) :
    o.Seen (Moment.FairAmong lanes.length) (watchServe frame targets lanes o).moments
      (watchServe frame targets lanes o).result.2.2.2 := by
  induction targets generalizing lanes o with
  | nil => exact .refl o
  | cons c targets ih =>
    obtain ⟨hc, htargets⟩ := List.forall_mem_cons.1 htargets
    have hlane := roomy_laneOf hlanes c
    have hroomy := Lane.roomy_serve (c := c) hsize hlane frame
    have huses := (Lane.serve_works c (laneOf lanes c) o frame).uses
    have hpositive : ∀ b, (laneOf lanes c).buffer = some b → 0 < b.capacity := fun b hb => by
      obtain ⟨hcapacity, hroom, -⟩ := hlane b hb
      omega
    have hfirst := (Lane.seen_serve (c := c) (o := o) hpositive frame).view (lanes.set c.toNat)
      (Q := Moment.FairAmong lanes.length) fun m hm => by
        have hmoment : Moment.FairAmong (lanes.set c.toNat m.state).length
            ⟨m.channel, lanes.set c.toNat m.state, m.point⟩ :=
          hm.among (by rwa [List.length_set]) (laneOf_set_self hc m.state)
        rwa [List.length_set] at hmoment
    unfold watchServe
    rw [Watched.moments_bind, Watched.result_bind, Watched.result_view]
    rw [Lane.result_watchServe] at hfirst ⊢
    rcases hout : Lane.serve c frame (laneOf lanes c) o with ⟨accepted, _ | _, lane, o'⟩ <;>
      rw [hout] at hfirst hroomy huses
    · exact hfirst.trans (.refl o')
    · have hrest := ih (by rwa [List.length_set]) (huses.bufferSize_eq.trans hsize)
        (roomy_set hlanes hroomy c.toNat)
      rw [List.length_set] at hrest
      exact hfirst.trans (hrest.trans (.refl _))

theorem seen_emit (h : w.Roomy size) (record : s.Value) (superstep : Option Superstep) :
    w.outlet.Seen (Moment.FairAmong w.lanes.length) (w.watchEmit s record superstep).moments
      (w.watchEmit s record superstep).result.2.outlet := by
  unfold watchEmit
  by_cases hclosed : w.closed = true
  · rw [if_pos hclosed]
    exact .refl _
  · rw [if_neg hclosed]
    rcases w.route record superstep with ⟨_ | _ | targets, selector⟩
    · exact .nothing rfl rfl
    · exact .nothing rfl rfl
    · dsimp only [watchEmitTo]
      cases hchecked : checkSelection targets (width { w with selector := selector }) with
      | error e => exact .refl _
      | ok _ =>
        have htargets : ∀ c ∈ targets, c.toNat < w.lanes.length := fun c hc =>
          of_decide_eq_true (checkSelection_eq_ok_iff.1 hchecked c hc)
        have hserved := seen_serve ((encodeRecord s record).map pack) htargets h.size_eq
          h.roomy_of_mem
        dsimp only
        rw [Watched.moments_bind, Watched.result_bind]
        rcases hout : (watchServe ((encodeRecord s record).map pack) targets w.lanes
          w.outlet).result with ⟨accepted, _ | _, lanes, o⟩ <;> rw [hout] at hserved
        · exact hserved.trans (.refl o)
        · exact hserved.trans (.nothing rfl rfl)

theorem seen_broadcast (hw : w.lanes.length ≤ maxChannels) (e : Event) :
    w.outlet.Seen (Moment.FairAmong w.lanes.length) (w.watchBroadcast e).moments
      (w.watchBroadcast e).result.2.outlet := by
  unfold watchBroadcast
  by_cases hclosed : w.closed = true
  · rw [if_pos hclosed]
    exact .refl _
  · rw [if_neg hclosed]
    exact (Lane.seen_sweep (Lane.seen_sendEvent e) hw [] w.lanes (Nat.zero_add _) w.outlet).trans
      (.refl _)

theorem seen_endSuperstep (hw : w.lanes.length ≤ maxChannels) :
    w.outlet.Seen (Moment.FairAmong w.lanes.length) w.watchEndSuperstep.moments
      w.watchEndSuperstep.result.2.outlet := by
  unfold watchEndSuperstep
  by_cases hclosed : w.closed = true
  · rw [if_pos hclosed]
    exact .refl _
  · have hswept := Lane.seen_sweep Lane.seen_endSuperstep hw [] w.lanes (Nat.zero_add _) w.outlet
    rw [if_neg hclosed, Watched.moments_bind, Watched.result_bind]
    rcases hout : (Lane.watchSweep Lane.watchEndSuperstep [] w.lanes w.outlet).result with
      ⟨_ | _, lanes, o⟩ <;> rw [hout] at hswept
    · exact hswept.trans (.refl o)
    · exact hswept.trans (.endSuperstep o)

theorem seen_flush (hw : w.lanes.length ≤ maxChannels) :
    w.outlet.Seen (Moment.FairAmong w.lanes.length) w.watchFlush.moments
      w.watchFlush.result.2.outlet :=
  (Lane.seen_sweepAll Lane.seen_retire hw [] w.lanes (Nat.zero_add _) w.outlet).trans (.refl _)

theorem seen_close (hw : w.lanes.length ≤ maxChannels) :
    w.outlet.Seen (Moment.FairAmong w.lanes.length) w.watchClose.moments
      w.watchClose.result.2.outlet := by
  unfold watchClose
  by_cases hclosed : w.closed = true
  · rw [if_pos hclosed]
    exact .refl _
  · rw [if_neg hclosed]
    exact (seen_flush (w := { w with closed := true }) hw).trans (.nothing rfl rfl)

theorem seen_watch (h : w.Roomy size) (hw : w.lanes.length ≤ maxChannels)
    (op : Operation s.Value) :
    w.outlet.Seen (Moment.FairAmong w.lanes.length) (w.watch s op).moments
      (w.watch s op).result.2.outlet := by
  cases op with
  | emit record superstep => exact seen_emit h record superstep
  | broadcast e => exact seen_broadcast hw e
  | endSuperstep => exact seen_endSuperstep hw
  | flush => exact seen_flush hw
  | close => exact seen_close hw
  | clear | drop => exact .nothing rfl rfl
  | turn t => exact .turn w.outlet t

/-- **A lane hands its buffer over before it asks for another.** In every state that a writer
reaches, whatever failed on the way, a lane with bytes that wait for a buffer holds none, and no
lane holds a full one. And in every operation from there, also one that fails, the moments seen are
those of the operation, with all its requests for buffers and all the buffers that it offers. When a
lane asks for a buffer it holds none, so fewer buffers are held than there are channels; the buffer
that it is given takes the place of none; a buffer that is to be sent is not empty; and one that a
lane was seen to hold is always there. -/
theorem handovers_run (hmade : w.MadeFor p) (ops : List (Operation s.Value)) :
    let v := w.run s ops
    (∀ lane ∈ v.lanes, (lane.hasPending = true → lane.buffer = none) ∧
      ∀ b, lane.buffer = some b → b.isFull = false) ∧
    ∀ op : Operation s.Value,
      let seen := v.watch s op
      let after := (v.perform s op).2.outlet
      seen.result = v.perform s op ∧
      after.requests = v.outlet.requests + seen.moments.countP Moment.isAsk ∧
      after.partition.buffersOffered =
        v.outlet.partition.buffersOffered ++ seen.moments.filterMap Moment.sent? ∧
      ∀ m ∈ seen.moments, m.state.length = p.width ∧ m.channel.toNat < p.width ∧
        (m.point = .ask →
          (laneOf m.state m.channel).buffer = none ∧ Lane.holding m.state < p.width) ∧
        (m.point = .install → (laneOf m.state m.channel).buffer = none) ∧
        (∀ b, m.point = .send b → b.isEmpty = false) ∧
        m.point ≠ .vanish := by
  intro v
  have hroomy : v.Roomy w.outlet.pool.bufferSize := hmade.roomy.run ops
  have hwidth : v.lanes.length = p.width := hmade.start.length_run_eq ops
  refine ⟨fun lane hlane => ⟨hroomy.buffer_of_pending lane hlane, fun b hb => ?_⟩, fun op => ?_⟩
  · obtain ⟨hcapacity, hroom, -⟩ := hroomy.roomy_of_mem lane hlane b hb
    have hremaining : b.remaining = b.capacity - b.size := rfl
    exact decide_eq_false (by omega)
  · intro seen after
    have hseen := seen_watch hroomy (hmade.start.length_run_le ops) op
    have hresult := result_watch s v op
    rw [hresult, hwidth] at hseen
    refine ⟨hresult, hseen.requests_eq, hseen.offered_eq, fun m hm => ?_⟩
    have hamong := hseen.each m hm
    have hfair := hamong.fair
    refine ⟨hamong.length_eq, hamong.channel_lt, hamong.ask, fun hpoint => ?_, fun b hpoint => ?_,
      fun hpoint => ?_⟩ <;> rw [hpoint] at hfair
    · exact hfair
    · exact hfair
    · exact hfair

/-- Each of two lanes holds seven bytes of eight. For another frame of seven bytes the first sends
its buffer, asks while the other lane holds one, and is given one; then the second does so. -/
theorem handovers_run_small :
    let v := (smallPairWriter none Disk.empty).run .bytes [.emit [1, 2] none]
    let op : Operation Schema.bytes.Value := .emit [3, 4] none
    let seen := v.watch .bytes op
    let sent : Buffer := ⟨8, pack [0, 0, 0, 3, 2, 1, 2, 0], by decide⟩
    (seen.moments.map fun m => (m.channel, m.point, Lane.holding m.state)) =
      [(⟨0⟩, .send sent, 1), (⟨0⟩, .ask, 1), (⟨0⟩, .install, 1),
        (⟨1⟩, .send sent, 1), (⟨1⟩, .ask, 1), (⟨1⟩, .install, 1)] ∧
    (v.perform .bytes op).2.outlet.requests = 4 ∧
    (v.perform .bytes op).2.outlet.partition.buffersOffered = [(⟨0⟩, sent), (⟨1⟩, sent)] ∧
    ∀ m ∈ seen.moments, m.point = .ask → (laneOf m.state m.channel).buffer = none := by
  intro v op seen sent
  have hmade : (smallPairWriter none Disk.empty).MadeFor smallPair :=
    ⟨smallPool, ⟨⟩, ⟨none, none, .unlimited⟩, .ofSeconds 1, .attentive, Disk.empty, rfl⟩
  obtain ⟨-, hops⟩ := handovers_run (s := .bytes) hmade [.emit [1, 2] none]
  obtain ⟨-, hrequests, hoffered, hall⟩ := hops op
  refine ⟨by decide +kernel, hrequests.trans (by decide +kernel),
    hoffered.trans (by decide +kernel), fun m hm hask => ?_⟩
  obtain ⟨-, -, hheld, -⟩ := hall m hm
  exact (hheld hask).1

end Writer

end Fanout
