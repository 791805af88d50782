import Fanout.Proofs.Writer.Balance
import Fanout.Proofs.Writer.Streams

/-!
# Dealings with an outlet

Whatever a writer does comes down to calls of its outlet: it asks for buffers, gives them up, sends
events and markers, and counts (`Outlet.Deals`). A lane gives its buffer up before it asks for
another, so the lanes never hold more than one each, and a lane that asks holds none.

* `Outlet.Deals.balanced` — every leased buffer stays in one place, also whenever a lane asks.
* `Lane.sweep_deals`, `Lane.sweepAll_deals` — the steps of all lanes as dealings with the outlet.
* `Lane.sweep_of_ok` — what a step leaves when it succeeds, a sweep that succeeds leaves on all lanes.
-/

namespace Fanout

namespace Outlet

/-- **The dealings of a writer** of so many lanes (`slots`) with its outlet, from `start` on, which
is how many buffers the lanes hold at first. The `asks` are the outlets of which a buffer was asked
for, in order; the dealings are `smooth` if no call failed. -/
inductive Deals (slots start : Nat) (o : Outlet) : List Outlet → Bool → Nat → Outlet → Prop where
  | refl : Deals slots start o [] true start o
  | request {asks : List Outlet} {smooth : Bool} {held : Nat} {o' : Outlet} :
    Deals slots start o asks smooth held o' → held < slots →
    Deals slots start o (asks ++ [o']) (smooth && o'.request.1.isOk)
      (held + Pool.granted o'.request.1) o'.request.2
  | forward {asks : List Outlet} {smooth : Bool} {held : Nat} {o' : Outlet} {c : ChannelId}
    (b : Buffer) : Deals slots start o asks smooth (held + 1) o' → c.toNat < slots →
    Deals slots start o asks (smooth && (o'.forward c b).1.isOk) held (o'.forward c b).2
  | recycle {asks : List Outlet} {smooth : Bool} {held : Nat} {o' : Outlet} (b : Buffer) :
    Deals slots start o asks smooth (held + 1) o' →
    Deals slots start o asks smooth held { o' with pool := o'.pool.recycle b }
  | sendEvent {asks : List Outlet} {smooth : Bool} {held : Nat} {o' : Outlet} {c : ChannelId}
    (e : Event) : Deals slots start o asks smooth held o' → c.toNat < slots →
    Deals slots start o asks (smooth && (o'.sendEvent c e).1.isOk) held (o'.sendEvent c e).2
  | endSuperstep {asks : List Outlet} {smooth : Bool} {held : Nat} {o' : Outlet} :
    Deals slots start o asks smooth held o' →
    Deals slots start o asks (smooth && o'.endSuperstep.1.isOk) held o'.endSuperstep.2
  | count {asks : List Outlet} {smooth : Bool} {held : Nat} {o' : Outlet} (f : Traffic → Traffic) :
    (∀ t, (f t).bytes = t.bytes) → Deals slots start o asks smooth held o' →
    Deals slots start o asks smooth held { o' with traffic := f o'.traffic }

namespace Deals

variable {slots start held last capacity : Nat} {o o' o'' : Outlet} {asks asks' : List Outlet}
  {smooth smooth' : Bool} {fate : Option Bool}

theorem trans (h : Deals slots start o asks smooth held o')
    (h' : Deals slots held o' asks' smooth' last o'') :
    Deals slots start o (asks ++ asks') (smooth && smooth') last o'' := by
  induction h' with
  | refl =>
    rw [List.append_nil, Bool.and_true]
    exact h
  | request _ hslots ih =>
    rw [← List.append_assoc, ← Bool.and_assoc]
    exact ih.request hslots
  | forward b _ hc ih =>
    rw [← Bool.and_assoc]
    exact ih.forward b hc
  | recycle b _ ih => exact ih.recycle b
  | sendEvent e _ hc ih =>
    rw [← Bool.and_assoc]
    exact ih.sendEvent e hc
  | endSuperstep _ ih =>
    rw [← Bool.and_assoc]
    exact ih.endSuperstep
  | count f hf _ ih => exact ih.count f hf

theorem discard (h : Deals slots start o asks smooth (held + 1) o') (b : Buffer) :
    Deals slots start o asks smooth held (o'.discard b) :=
  (h.recycle b).count (·.countDiscarded 1) fun _ => rfl

/-- **Every leased buffer stays in one place**, also whenever a lane asks for one, and then the
lanes hold fewer buffers than there are lanes. -/
theorem balanced (h : Deals slots start o asks smooth held o')
    (ho : o.Balanced capacity fate start) :
    o'.Balanced capacity fate held ∧ ∀ ask ∈ asks, ∃ n < slots, ask.Balanced capacity fate n := by
  induction h with
  | refl => exact ⟨ho, List.forall_mem_nil _⟩
  | @request _ _ n _ _ hslots ih =>
    refine ⟨ih.1.request, List.forall_mem_append.2 ⟨ih.2, ?_⟩⟩
    exact List.forall_mem_singleton.2 ⟨n, hslots, ih.1⟩
  | forward b _ _ ih => exact ⟨ih.1.forward _ b, ih.2⟩
  | recycle b _ ih => exact ⟨ih.1.recycle ih.1.sound rfl b, ih.2⟩
  | sendEvent e _ _ ih => exact ⟨ih.1.sendEvent _ e, ih.2⟩
  | endSuperstep _ ih => exact ⟨ih.1.endSuperstep, ih.2⟩
  | count f _ _ ih => exact ⟨⟨ih.1.sound, ih.1.accounts, ih.1.spare⟩, ih.2⟩

end Deals

end Outlet

/-! ## Lanes -/

/-- How many buffers a serializer holds. -/
def Serializer.holding (s : Serializer) : Nat :=
  match s.buffer with
  | some _ => 1
  | none => 0

namespace Serializer

theorem holding_of_some {s : Serializer} {b : Buffer} (h : s.buffer = some b) : s.holding = 1 := by
  rw [holding, h]

theorem holding_of_none {s : Serializer} (h : s.buffer = none) : s.holding = 0 := by
  rw [holding, h]

theorem holding_le (s : Serializer) : s.holding ≤ 1 := by
  unfold holding
  split <;> omega

theorem holding_copy (s : Serializer) : s.copy.2.holding = s.holding := by
  unfold copy
  cases hb : s.buffer with
  | none => rfl
  | some b => exact (holding_of_some rfl).trans (holding_of_some hb).symm

theorem holding_install (s : Serializer) (b : Buffer) : (s.install b).2.holding = 1 :=
  holding_copy { s with buffer := some b }

end Serializer

theorem eq_ok_of_isOk {ε : Type} {r : Except ε Unit} (h : r.isOk = true) : r = .ok () := by
  cases r with
  | error e => exact nomatch h
  | ok _ => rfl

namespace Lane

variable {α β : Type} {c : ChannelId} {s s' : Serializer} {o o' : Outlet} {r : Except WriterError α}
  {fit fit' : Prop}

/-- **A step of a channel's lane as dealings with the outlet**, while the other lanes hold so few
buffers that the lane may ask for one. If all of them go smoothly, a lane that is `fit` for the step
succeeds. -/
def Deals (c : ChannelId) (fit : Prop) (s : Serializer) (o : Outlet) (out : LaneResult α) : Prop :=
  ∀ slots others, c.toNat < slots → others < slots → ∃ asks smooth,
    o.Deals slots (others + s.holding) asks smooth (others + out.2.1.holding) out.2.2 ∧
      (smooth = true → fit → out.1.isOk = true)

theorem Deals.idle (hr : fit → r.isOk = true) : Deals c fit s o (r, s, o) :=
  fun _ _ _ _ => ⟨[], true, .refl, fun _ => hr⟩

theorem Deals.trans {out : LaneResult β} (h : Deals c fit s o (r, s', o'))
    (h' : Deals c fit' s' o' out) (hfit : fit → fit') : Deals c fit s o out := by
  intro slots others hc hothers
  obtain ⟨asks, smooth, hdeals, _⟩ := h slots others hc hothers
  obtain ⟨asks', smooth', hdeals', hok⟩ := h' slots others hc hothers
  refine ⟨_, _, hdeals.trans hdeals', fun hsmooth hfits => hok ?_ (hfit hfits)⟩
  exact (Bool.and_eq_true _ _ ▸ hsmooth).2

/-- A buffer is given up to the outlet. -/
theorem forward_deals {b : Buffer} (hb : s.buffer = some b)
    (hr : (o.forward c b).1.isOk = true → r.isOk = true) :
    Deals c fit s o (r, s.release, (o.forward c b).2) := by
  intro slots others hc _
  rw [Serializer.holding_of_some hb]
  exact ⟨[], _, .forward b .refl hc, fun hsmooth _ => hr hsmooth⟩

theorem surrender_deals (c : ChannelId) (s : Serializer) (o : Outlet) :
    Deals c fit s o (surrender c s o) := by
  unfold surrender
  cases hb : s.buffer with
  | none => exact .idle fun _ => rfl
  | some b => exact forward_deals hb id

/-- A lane that holds nothing asks for a buffer: without success nothing changes. -/
theorem denied_deals (hs : s.buffer = none) {e : WriterError} (h : o.request = (.error e, o'))
    (r : Except WriterError α) : Deals c fit s o (r, s, o') := by
  intro slots others _ hothers
  rw [Serializer.holding_of_none hs]
  have hdeals : o.Deals slots others [o] _ _ _ := .request .refl hothers
  rw [h] at hdeals
  exact ⟨_, _, hdeals, fun hsmooth => nomatch hsmooth⟩

/-- With success it holds the buffer. -/
theorem granted_deals (hs : s.buffer = none) (h : o.request = (.ok (), o')) (b : Buffer) :
    Deals c fit s o ((.ok (), (s.install b).2, o') : LaneResult Unit) := by
  intro slots others _ hothers
  show ∃ asks smooth, o.Deals slots _ asks smooth (others + (s.install b).2.holding) o' ∧ _
  rw [Serializer.holding_of_none hs, Serializer.holding_install]
  have hdeals : o.Deals slots others [o] _ _ _ := .request .refl hothers
  rw [h] at hdeals
  exact ⟨_, _, hdeals, fun _ _ => rfl⟩

/-- One round of refilling: the held buffer is given up before another is asked for. -/
theorem round_deals {emptied next : Serializer} {sent granted : Outlet} {progress : Progress}
    (hs : surrender c s o = (.ok (), emptied, sent)) (hrequest : sent.request = (.ok (), granted))
    (hinstall : emptied.install granted.pool.lent = (progress, next)) :
    Deals c fit s o ((.ok (), next, granted) : LaneResult Unit) := by
  have hsurrender : Deals c fit s o _ := surrender_deals c s o
  have hnone := buffer_surrender c s o
  rw [hs] at hsurrender hnone
  have hgranted : Deals c fit emptied sent _ := granted_deals hnone hrequest granted.pool.lent
  rw [hinstall] at hgranted
  exact hsurrender.trans hgranted id

theorem refill_deals (c : ChannelId) (s : Serializer) (o : Outlet) :
    Deals c fit s o (refill c s o) := by
  fun_induction refill c s o with
  | case1 s o e s' o' hs =>
    rw [← hs]
    exact surrender_deals c s o
  | case2 s o emptied sent hs e o' hrequest =>
    have hsurrender : Deals c fit s o _ := surrender_deals c s o
    have hnone := buffer_surrender c s o
    rw [hs] at hsurrender hnone
    exact hsurrender.trans (denied_deals hnone hrequest _) id
  | case3 s o emptied sent hs granted hrequest progress next hinstall _ ih =>
    exact (round_deals hs hrequest hinstall).trans ih id
  | case4 s o emptied sent hs granted hrequest progress next hinstall _ =>
    exact round_deals hs hrequest hinstall

theorem serve_deals (c : ChannelId) (frame : Except RecordError ByteArray) (s : Serializer)
    (o : Outlet) :
    Deals c (s.hasPending = false ∧ frame.isOk = true) s o (serve c frame s o).2 := by
  unfold serve Serializer.add
  by_cases hs : s.hasPending = true
  · rw [if_pos hs]
    exact .idle fun hfit => absurd hs (Bool.eq_false_iff.1 hfit.1)
  · rw [if_neg hs]
    cases frame with
    | error cause =>
      exact fun _ _ _ _ => ⟨[], true, .refl, fun _ hfit => absurd hfit.2 Bool.false_ne_true⟩
    | ok frame =>
      have hcopied (fit : Prop) : Deals c fit s o
          ((.ok (), (Serializer.copy { s with frame := frame, position := 0 }).2, o) :
            LaneResult Unit) := by
        intro slots others _ _
        refine ⟨[], true, ?_, fun _ _ => rfl⟩
        show o.Deals slots _ [] true (others + Serializer.holding _) o
        rw [Serializer.holding_copy]
        exact .refl
      rcases hcopy : Serializer.copy { s with frame := frame, position := 0 } with ⟨progress, s'⟩
      rw [hcopy] at hcopied
      simp only [hcopy]
      by_cases hp : progress.needsBuffer = true
      · rw [if_pos hp]
        exact (hcopied _).trans (refill_deals c s' o) id
      · rw [if_neg hp]
        exact hcopied _

theorem flush_deals (c : ChannelId) (s : Serializer) (o : Outlet) :
    Deals c (s.hasPending = false) s o (flush c s o) := by
  have hflushed := flush_flushed c s o
  generalize flush c s o = out at hflushed
  cases hflushed with
  | fenced e hs => exact .idle fun hfit => absurd hs (Bool.eq_false_iff.1 hfit)
  | idle _ _ => exact .idle fun _ => rfl
  | @sent b _ hb _ =>
    refine forward_deals hb fun hsmooth => ?_
    rcases hforward : (o.forward c b).1 with e | _
    · rw [hforward] at hsmooth
      exact nomatch hsmooth
    · rfl

/-- A lane that flushed something holds no buffer. -/
theorem buffer_flush (h : flush c s o = (.ok true, s', o')) : s'.buffer = none := by
  have hflushed := flush_flushed c s o
  generalize flush c s o = out at h hflushed
  cases hflushed with
  | fenced e _ => exact nomatch h
  | idle _ _ => exact nomatch h
  | sent _ _ _ => exact congrArg (fun out => out.2.1.buffer) h.symm

/-- A lane that flushed something gets another buffer. -/
theorem reprime_deals {sent : Bool} (h : flush c s o = (.ok sent, s', o')) (o : Outlet) :
    Deals c fit s' o (if sent then prime s' o else (.ok (), s', o)) := by
  cases sent with
  | false => exact .idle fun _ => rfl
  | true =>
    show Deals c fit s' o (prime s' o)
    unfold prime
    rcases hrequest : o.request with ⟨_ | _, o'⟩
    · exact denied_deals (buffer_flush h) hrequest _
    · exact granted_deals (buffer_flush h) hrequest _

theorem sendEvent_deals (e : Event) (c : ChannelId) (s : Serializer) (o : Outlet) :
    Deals c (s.hasPending = false) s o (sendEvent e c s o) := by
  have hflush := flush_deals c s o
  unfold sendEvent
  rcases hout : flush c s o with ⟨r, s', o'⟩
  rw [hout] at hflush
  cases r with
  | error cause => exact hflush
  | ok sent =>
    have hsend : Deals c (s.hasPending = false) s' o'
        ((o'.sendEvent c e).1, s', (o'.sendEvent c e).2) :=
      fun _ _ hc _ => ⟨[], _, .sendEvent e .refl hc, fun hsmooth _ => hsmooth⟩
    rcases hsent : o'.sendEvent c e with ⟨r, last⟩
    rw [hsent] at hsend
    simp only [hsent]
    cases r with
    | error cause => exact hflush.trans hsend id
    | ok _ => exact hflush.trans (hsend.trans (reprime_deals hout last) id) id

theorem endSuperstep_deals (c : ChannelId) (s : Serializer) (o : Outlet) :
    Deals c (s.hasPending = false) s o (endSuperstep c s o) := by
  have hflush := flush_deals c s o
  unfold endSuperstep
  rcases hout : flush c s o with ⟨r, s', o'⟩
  rw [hout] at hflush
  cases r with
  | error e => exact hflush
  | ok sent => exact hflush.trans (reprime_deals hout o') id

theorem retire_deals (c : ChannelId) (s : Serializer) (o : Outlet) :
    Deals c (s.hasPending = false) s o (retire c s o) := by
  have hflush := flush_deals c s o
  unfold retire
  rcases hout : flush c s o with ⟨r, s', o'⟩
  rw [hout] at hflush
  cases r with
  | error e => exact hflush
  | ok sent =>
    cases hb : s'.buffer with
    | none =>
      simp only [hb]
      exact hflush.trans (Deals.idle fun _ => rfl) id
    | some b =>
      have hdiscard : Deals c (s.hasPending = false) s' o'
          ((.ok (), s'.release, o'.discard b) : LaneResult Unit) := by
        intro slots others _ _
        rw [Serializer.holding_of_some hb]
        exact ⟨[], true, Outlet.Deals.refl.discard b, fun _ _ => rfl⟩
      simp only [hb]
      exact hflush.trans hdiscard id

/-! ## All lanes -/

/-- How many buffers some lanes hold. -/
def holding (lanes : List Serializer) : Nat := (lanes.map Serializer.holding).sum

theorem holding_cons (s : Serializer) (lanes : List Serializer) :
    holding (s :: lanes) = s.holding + holding lanes := by
  rw [holding, List.map_cons, List.sum_cons, holding]

theorem holding_start (n : Nat) : holding (List.replicate n Serializer.start) = 0 := by
  rw [holding, List.map_replicate]
  exact List.sum_eq_zero fun n hn => List.eq_of_mem_replicate hn

theorem holding_le (lanes : List Serializer) : holding lanes ≤ lanes.length := by
  induction lanes with
  | nil => exact Nat.le_refl 0
  | cons s lanes ih =>
    have hone := s.holding_le
    rw [holding_cons, List.length_cons]
    omega

/-- The lane at a position and the others, of which each holds one buffer at most. -/
theorem holding_set {lanes : List Serializer} {i : Nat} (hi : i < lanes.length) :
    ∃ others < lanes.length, holding lanes = others + lanes[i].holding ∧
      ∀ s, holding (lanes.set i s) = others + s.holding := by
  induction lanes generalizing i with
  | nil => exact absurd hi (Nat.not_lt_zero i)
  | cons first lanes ih =>
    cases i with
    | zero =>
      refine ⟨holding lanes, Nat.lt_succ_of_le (holding_le lanes), ?_, fun s => ?_⟩
      · rw [holding_cons, Nat.add_comm]
        rfl
      · rw [List.set_cons_zero, holding_cons, Nat.add_comm]
    | succ i =>
      obtain ⟨others, hothers, hbefore, hafter⟩ := ih (Nat.lt_of_succ_lt_succ hi)
      have hone := first.holding_le
      refine ⟨first.holding + others, ?_, ?_, fun s => ?_⟩
      · rw [List.length_cons]
        omega
      · rw [holding_cons, hbefore, Nat.add_assoc]
        rfl
      · rw [List.set_cons_succ, holding_cons, hafter, Nat.add_assoc]

variable {step : ChannelId → Serializer → Outlet → LaneResult Unit} {Fit : Serializer → Prop}
  {slots : Nat}

theorem sweep_deals (hstep : ∀ c s o, Deals c (Fit s) s o (step c s o)) (i : Nat)
    (lanes : List Serializer) (o : Outlet) (held : Nat) (hslots : held + lanes.length ≤ slots)
    (hi : i + lanes.length ≤ slots) :
    ∃ asks smooth, o.Deals slots (held + holding lanes) asks smooth
        (held + holding (sweep step i lanes o).2.1) (sweep step i lanes o).2.2 ∧
      (smooth = true → (∀ s ∈ lanes, Fit s) → (sweep step i lanes o).1.isOk = true) := by
  induction lanes generalizing i o held with
  | nil => exact ⟨[], true, .refl, fun _ _ => rfl⟩
  | cons s lanes ih =>
    rw [List.length_cons] at hslots hi
    have hrest := holding_le lanes
    have hc : (ChannelId.ofNat i).toNat ≤ i := by
      rw [ChannelId.toNat_ofNat]
      exact Nat.mod_le i _
    obtain ⟨asks, smooth, hdeals, hok⟩ :=
      hstep (ChannelId.ofNat i) s o slots (held + holding lanes) (by omega) (by omega)
    have hbefore : held + holding (s :: lanes) = held + holding lanes + s.holding := by
      rw [holding_cons]
      omega
    unfold sweep
    rw [hbefore]
    rcases hout : step (ChannelId.ofNat i) s o with ⟨r, s', o'⟩
    rw [hout] at hdeals hok
    have hafter : held + holding lanes + s'.holding = held + s'.holding + holding lanes := by omega
    cases r with
    | error e =>
      refine ⟨asks, smooth, ?_, fun hsmooth hfit => ?_⟩
      · show o.Deals slots _ asks smooth (held + holding (s' :: lanes)) o'
        rw [holding_cons, ← Nat.add_assoc, ← hafter]
        exact hdeals
      · exact absurd (hok hsmooth (hfit s List.mem_cons_self)) Bool.false_ne_true
    | ok _ =>
      have hone := s'.holding_le
      obtain ⟨asks', smooth', hdeals', hok'⟩ :=
        ih (i + 1) o' (held + s'.holding) (by omega) (by omega)
      rw [hafter] at hdeals
      refine ⟨asks ++ asks', smooth && smooth', ?_,
        fun hsmooth hfit => hok' ?_ fun t ht => hfit t (.tail s ht)⟩
      · show o.Deals slots _ _ _ (held + holding (s' :: _)) _
        rw [holding_cons, ← Nat.add_assoc]
        exact hdeals.trans hdeals'
      · exact (Bool.and_eq_true _ _ ▸ hsmooth).2

theorem sweepAll_deals (hstep : ∀ c s o, Deals c (Fit s) s o (step c s o)) (i : Nat)
    (lanes : List Serializer) (o : Outlet) (held : Nat) (hslots : held + lanes.length ≤ slots)
    (hi : i + lanes.length ≤ slots) :
    ∃ asks smooth, o.Deals slots (held + holding lanes) asks smooth
        (held + holding (sweepAll step i lanes o).2.1) (sweepAll step i lanes o).2.2 ∧
      (smooth = true → (∀ s ∈ lanes, Fit s) → (sweepAll step i lanes o).1.isOk = true) := by
  induction lanes generalizing i o held with
  | nil => exact ⟨[], true, .refl, fun _ _ => rfl⟩
  | cons s lanes ih =>
    rw [List.length_cons] at hslots hi
    have hrest := holding_le lanes
    have hc : (ChannelId.ofNat i).toNat ≤ i := by
      rw [ChannelId.toNat_ofNat]
      exact Nat.mod_le i _
    obtain ⟨asks, smooth, hdeals, hok⟩ :=
      hstep (ChannelId.ofNat i) s o slots (held + holding lanes) (by omega) (by omega)
    have hbefore : held + holding (s :: lanes) = held + holding lanes + s.holding := by
      rw [holding_cons]
      omega
    unfold sweepAll
    rw [hbefore]
    rcases hout : step (ChannelId.ofNat i) s o with ⟨r, s', o'⟩
    rw [hout] at hdeals hok
    have hone := s'.holding_le
    obtain ⟨asks', smooth', hdeals', hok'⟩ :=
      ih (i + 1) o' (held + s'.holding) (by omega) (by omega)
    have hafter : held + holding lanes + s'.holding = held + s'.holding + holding lanes := by omega
    rw [hafter] at hdeals
    refine ⟨asks ++ asks', smooth && smooth', ?_, fun hsmooth hfit => ?_⟩
    · show o.Deals slots _ _ _ (held + holding (s' :: _)) _
      rw [holding_cons, ← Nat.add_assoc]
      exact hdeals.trans hdeals'
    · obtain ⟨hsmooth, hsmooth'⟩ := Bool.and_eq_true _ _ ▸ hsmooth
      cases r with
      | error e => exact absurd (hok hsmooth (hfit s List.mem_cons_self)) Bool.false_ne_true
      | ok _ => exact hok' hsmooth' fun t ht => hfit t (.tail s ht)

/-- Clearing gives back every buffer that the lanes hold. -/
theorem clearAll_deals (lanes : List Serializer) (o : Outlet) {held : Nat} :
    o.Deals slots (held + holding lanes) [] true held
      { o with pool := (clearAll lanes o.pool).2.2 } := by
  induction lanes generalizing o with
  | nil => exact .refl
  | cons s lanes ih =>
    have hfirst : o.Deals slots (held + holding (s :: lanes)) [] true (held + holding lanes)
        { o with pool := (clear s o.pool).2.2 } := by
      rw [holding_cons, Nat.add_comm s.holding, ← Nat.add_assoc]
      unfold clear
      cases hb : s.buffer with
      | none =>
        rw [Serializer.holding_of_none hb]
        exact .refl
      | some b =>
        rw [Serializer.holding_of_some hb]
        exact .recycle b .refl
    exact hfirst.trans (ih { o with pool := (clear s o.pool).2.2 })

/-! ## Nothing pending -/

/-- No lane has bytes that wait for a buffer. -/
def Settled (lanes : List Serializer) : Prop := ∀ s ∈ lanes, s.hasPending = false

theorem settled_start (n : Nat) : Settled (List.replicate n Serializer.start) := by
  intro s hs
  rw [List.eq_of_mem_replicate hs]
  rfl

theorem hasPending_of_unsent (h : s.unsent = []) : s.hasPending = false :=
  Serializer.hasPending_eq_false_iff.2 (List.append_eq_nil_iff.1 h).2

theorem hasPending_copy (h : s.copy.1.needsBuffer = false) : s.copy.2.hasPending = false := by
  unfold Serializer.copy at h ⊢
  cases hb : s.buffer with
  | none =>
    simp only [hb] at h
    split at h <;> exact nomatch h
  | some b =>
    simp only [hb] at h ⊢
    split at h
    · exact nomatch h
    · rename_i hpending
      exact Bool.eq_false_iff.2 hpending

theorem hasPending_refill (h : (refill c s o).1 = .ok ()) :
    (refill c s o).2.1.hasPending = false := by
  fun_induction refill c s o with
  | case1 | case2 => cases h
  | case3 _ _ _ _ _ _ _ _ _ _ _ ih => exact ih h
  | case4 s o emptied sent _ granted _ progress next hinstall hp =>
    have hcopied : (emptied.install granted.pool.lent).1.needsBuffer = false := by
      rw [hinstall]
      exact Bool.eq_false_iff.2 hp
    have hsettled :=
      hasPending_copy (s := { emptied with buffer := some granted.pool.lent }) hcopied
    change (emptied.install granted.pool.lent).2.hasPending = false at hsettled
    rw [hinstall] at hsettled
    exact hsettled

theorem hasPending_serve {frame : Except RecordError ByteArray}
    (h : (serve c frame s o).2.1 = .ok ()) : (serve c frame s o).2.2.1.hasPending = false := by
  unfold serve Serializer.add at h ⊢
  by_cases hs : s.hasPending = true
  · rw [if_pos hs] at h
    exact nomatch h
  · rw [if_neg hs] at h ⊢
    cases frame with
    | error cause => exact nomatch h
    | ok frame =>
      have hcopied := hasPending_copy (s := { s with frame := frame, position := 0 })
      rcases hcopy : Serializer.copy { s with frame := frame, position := 0 } with ⟨progress, s'⟩
      rw [hcopy] at hcopied
      simp only [hcopy] at h ⊢
      by_cases hp : progress.needsBuffer = true
      · rw [if_pos hp] at h ⊢
        exact hasPending_refill h
      · rw [if_neg hp]
        exact hcopied (Bool.eq_false_iff.2 hp)

/-- A step of a lane that leaves nothing pending if it succeeds. -/
def Settles (step : ChannelId → Serializer → Outlet → LaneResult Unit) : Prop :=
  ∀ c s o, (step c s o).1 = .ok () → (step c s o).2.1.hasPending = false

theorem settles_endSuperstep : Settles endSuperstep :=
  fun c s o h => hasPending_of_unsent (unsent_endSuperstep c s o h)

theorem settles_retire : Settles retire :=
  fun c s o h => hasPending_of_unsent (unsent_retire c s o h)

theorem settles_sendEvent (e : Event) : Settles (sendEvent e) :=
  fun c s o h => hasPending_of_unsent (unsent_sendEvent c s o e h)

/-- A sweep that succeeds leaves every lane as a step that succeeds does. -/
theorem sweep_of_ok {step : ChannelId → Serializer → Outlet → LaneResult Unit}
    {P : Serializer → Prop} (hstep : ∀ c s o, (step c s o).1 = .ok () → P (step c s o).2.1)
    (i : Nat) (lanes : List Serializer) (o : Outlet) (h : (sweep step i lanes o).1 = .ok ()) :
    ∀ s ∈ (sweep step i lanes o).2.1, P s := by
  induction lanes generalizing i o with
  | nil => exact List.forall_mem_nil _
  | cons s lanes ih =>
    have hfirst := hstep (ChannelId.ofNat i) s o
    unfold sweep at h ⊢
    rcases hout : step (ChannelId.ofNat i) s o with ⟨r, s', o'⟩
    rw [hout] at hfirst
    simp only [hout] at h ⊢
    cases r with
    | error e => exact nomatch h
    | ok _ => exact List.forall_mem_cons.2 ⟨hfirst rfl, ih (i + 1) o' h⟩

theorem sweepAll_of_ok {step : ChannelId → Serializer → Outlet → LaneResult Unit}
    {P : Serializer → Prop} (hstep : ∀ c s o, (step c s o).1 = .ok () → P (step c s o).2.1)
    (i : Nat) (lanes : List Serializer) (o : Outlet) (h : (sweepAll step i lanes o).1 = .ok ()) :
    ∀ s ∈ (sweepAll step i lanes o).2.1, P s := by
  induction lanes generalizing i o with
  | nil => exact List.forall_mem_nil _
  | cons s lanes ih =>
    have hfirst := hstep (ChannelId.ofNat i) s o
    unfold sweepAll at h ⊢
    rcases hout : step (ChannelId.ofNat i) s o with ⟨r, s', o'⟩
    rw [hout] at hfirst
    simp only [hout] at h ⊢
    cases r with
    | error e => exact nomatch h
    | ok _ => exact List.forall_mem_cons.2 ⟨hfirst rfl, ih (i + 1) o' h⟩

end Lane

end Fanout
