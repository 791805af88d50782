import Fanout.Proofs.Writer.Attempts

/-!
# Ledgers of an outlet

What is counted of an outlet while lanes work on it: how many buffers the lanes hold, and how many
requests for one were denied. A ledger (`Outlet.Ledger`) is a fact about an outlet and these two
numbers that every call of a lane keeps. Whatever a lane does then keeps it (`Lane.Posts`), and so
does every loop over lanes. A step is denied at most one request, and that is how it ends, so the
denials can be read off the results (`denials`).

* `Outlet.granted_add_denials` — each request brings a buffer or is denied one.
* `Outlet.requested_request` — what a pool hands out, if nobody else takes buffers.
* `Lane.refill_posts`, `Lane.sweep_posts`, `Writer.serve_posts` — what the steps of lanes keep.
-/

namespace Fanout

/-- The error of a request that brought no buffer. -/
def WriterError.isDenial : WriterError → Bool
  | .poolDestroyed | .bufferTimeout _ | .deadlineOverflow | .starved => true
  | .serialization _ | .transport _ _ | .channelOutOfRange _ _ | .illegalState _
  | .edgesAlreadyUsed => false

/-- How many requests were denied, by the result of what made them. -/
def denials {α : Type} : Except WriterError α → Nat
  | .error e => if e.isDenial then 1 else 0
  | .ok _ => 0

theorem isDenial_of_denials {α : Type} {e : WriterError}
    (h : denials (.error e : Except WriterError α) = 0) : e.isDenial = false := by
  change (if e.isDenial = true then 1 else 0) = 0 at h
  split_ifs at h with hdenial
  exact Bool.eq_false_iff.2 hdenial

theorem denials_map {α β : Type} (f : α → β) (r : Except WriterError α) :
    denials (r.map f) = denials r := by
  cases r <;> rfl

/-- Nobody around the writer ever takes a buffer. -/
def Surroundings.Lone (r : Surroundings) : Prop :=
  ∀ k, Turn.borrow ∉ r.before k ∧ Turn.borrow ∉ r.during k

namespace Outlet

/-- **A request brings a buffer or is denied one.** -/
theorem granted_add_denials (o : Outlet) :
    Pool.granted o.request.1 + denials o.request.1 = 1 := by
  have hdenied (e : RequestError) :
      Pool.granted (.error (.ofRequest e) : Except WriterError Unit) +
        denials (.error (.ofRequest e) : Except WriterError Unit) = 1 := by
    cases e <;> rfl
  unfold request
  dsimp only
  split
  · rfl
  · rfl
  · split
    · exact hdenied _
    · split
      · exact hdenied _
      · rfl

theorem denials_forward (o : Outlet) (c : ChannelId) (b : Buffer) :
    denials (o.forward c b).1 = 0 := by
  unfold forward
  split
  · rfl
  · rcases o.partition.writeBuffer c b with ⟨_ | _, p⟩ <;> rfl

theorem denials_sendEvent (o : Outlet) (c : ChannelId) (e : Event) :
    denials (o.sendEvent c e).1 = 0 := by
  unfold sendEvent
  rcases o.partition.writeEvent c e with ⟨_ | _, p⟩ <;> rfl

theorem denials_endSuperstep (o : Outlet) : denials o.endSuperstep.1 = 0 := by
  unfold endSuperstep
  rcases o.partition.writeEndOfSuperstep with ⟨_ | _, p⟩ <;> rfl

theorem requested_turn (o : Outlet) {t : Turn} (ht : t ≠ .borrow) :
    (o.turn t).pool.requested = o.pool.requested := by
  cases t with
  | borrow => exact absurd rfl ht
  | giveBack | settle | disconnect _ => exact Pool.requested_recycleMany _ _
  | receiveOne _ | receive _ | destroyPool => rfl

/-- Where nobody else takes buffers the pool hands out what the writer is granted. -/
theorem requested_request {o : Outlet} (h : o.surroundings.Lone) :
    o.request.2.pool.requested = o.pool.requested + Pool.granted o.request.1 := by
  have hturn (o' : Outlet) (t : Turn) (ht : t ≠ .borrow)
      (h : o'.pool.requested = o.pool.requested ∧ o'.surroundings = o.surroundings) :
      (o'.turn t).pool.requested = o.pool.requested ∧
        (o'.turn t).surroundings = o.surroundings :=
    ⟨(o'.requested_turn ht).trans h.1,
      (congrArg Standing.surroundings (o'.standing_turn t)).trans h.2⟩
  have hamong (o' : Outlet)
      (h' : o'.pool.requested = o.pool.requested ∧ o'.surroundings = o.surroundings) (k : Nat) :
      (∀ t ∈ o'.surroundings.before k, t ≠ .borrow) ∧
        ∀ t ∈ o'.surroundings.during k, t ≠ .borrow := by
    rw [h'.2]
    exact ⟨fun t ht heq => (h k).1 (heq ▸ ht), fun t ht heq => (h k).2 (heq ▸ ht)⟩
  have hturned := turns_keep hturn ⟨rfl, rfl⟩ (hamong o ⟨rfl, rfl⟩ o.requests).1
  have hawaited {pool : Pool} (hpool : pool.requested = o.pool.requested) :
      ({ o.turns (o.surroundings.before o.requests) with
        pool := pool, requests := o.requests + 1 }.await o.requests).pool.requested =
          o.pool.requested :=
    (await_keeps (o := { o.turns (o.surroundings.before o.requests) with
      pool := pool, requests := o.requests + 1 }) hturn hamong (by simp)
      ⟨hpool, hturned.2⟩ o.requests).1
  unfold request
  dsimp only
  split
  · rename_i htry
    exact (Pool.requested_of_tryRequest htry).trans (congrArg (· + 0) hturned.1)
  · rename_i htry
    exact (Pool.requested_of_tryRequest htry).trans (congrArg (· + 1) hturned.1)
  · rename_i htry
    have htried := (Pool.requested_of_tryRequest htry).trans hturned.1
    split
    · rename_i hwait
      exact (Pool.requested_of_startWait hwait).trans htried
    · rename_i hwait
      -- the turns during the wait take no buffer either
      have hwaited := (Pool.requested_of_startWait hwait).trans htried
      split
      · rename_i hend
        exact (Pool.requested_of_endWait hend).trans (congrArg (· + 0) (hawaited hwaited))
      · rename_i hend
        exact (Pool.requested_of_endWait hend).trans (congrArg (· + 1) (hawaited hwaited))

/-- **A ledger of an outlet**: what holds of it, given how many buffers the lanes hold and how many
requests were denied, and which every call of a lane keeps. -/
structure Ledger (P : Nat → Nat → Outlet → Prop) : Prop where
  request {held denied : Nat} {o : Outlet} : P held denied o →
    P (held + Pool.granted o.request.1) (denied + denials o.request.1) o.request.2
  forward {held denied : Nat} {o : Outlet} (c : ChannelId) (b : Buffer) :
    P (held + 1) denied o → P held denied (o.forward c b).2
  discard {held denied : Nat} {o : Outlet} (b : Buffer) :
    P (held + 1) denied o → P held denied (o.discard b)
  sendEvent {held denied : Nat} {o : Outlet} (c : ChannelId) (e : Event) :
    P held denied o → P held denied (o.sendEvent c e).2

end Outlet

namespace Lane

variable {α β : Type} {P : Nat → Nat → Outlet → Prop} {c : ChannelId} {s s' : Serializer}
  {o o' : Outlet} {r : Except WriterError α}

/-- **A step of a lane posts to a ledger** what its buffer has become and whether it was denied
one, whatever the other lanes hold. -/
def Posts (P : Nat → Nat → Outlet → Prop) (s : Serializer) (o : Outlet) (out : LaneResult α) :
    Prop :=
  ∀ others denied, P (others + s.holding) denied o →
    P (others + out.2.1.holding) (denied + denials out.1) out.2.2

theorem Posts.idle (hr : denials r = 0) (hs : s'.holding = s.holding) :
    Posts P s o (r, s', o) := by
  intro others denied h
  show P (others + s'.holding) (denied + denials r) o
  rw [hr, hs]
  exact h

/-- A step goes on only if it was denied nothing so far. -/
theorem Posts.trans {a : α} {out : LaneResult β} (h : Posts P s o (.ok a, s', o'))
    (h' : Posts P s' o' out) : Posts P s o out :=
  fun others denied hP => h' others denied (h others denied hP)

/-- A flush asks for nothing. -/
theorem denials_flush (c : ChannelId) (s : Serializer) (o : Outlet) :
    denials (flush c s o).1 = 0 := by
  unfold flush
  split
  · rfl
  · split
    · rfl
    · split
      · rfl
      · exact (denials_map _ _).trans (o.denials_forward c _)

/-- Giving up the buffer of a lane asks for nothing. -/
theorem denials_retire (c : ChannelId) (s : Serializer) (o : Outlet) :
    denials (retire c s o).1 = 0 := by
  have hflush := denials_flush c s o
  unfold retire
  rcases hout : flush c s o with ⟨_ | sent, s', o'⟩
  · rw [hout] at hflush
    exact hflush
  · cases hb : s'.buffer <;> simp only [hb] <;> rfl

section Steps

variable (hP : Outlet.Ledger P)

include hP

theorem forward_posts {b : Buffer} (hb : s.buffer = some b) (hr : denials r = 0) :
    Posts P s o (r, s.release, (o.forward c b).2) := by
  intro others denied h
  rw [Serializer.holding_of_some hb] at h
  show P others (denied + denials r) _
  rw [hr]
  exact hP.forward c b h

theorem surrender_posts (c : ChannelId) (s : Serializer) (o : Outlet) :
    Posts P s o (surrender c s o) := by
  unfold surrender
  cases hb : s.buffer with
  | none => exact .idle rfl rfl
  | some b => exact forward_posts hP hb (o.denials_forward c b)

theorem denied_posts (hs : s.buffer = none) {e : WriterError} (h : o.request = (.error e, o')) :
    Posts P s o ((.error e, s, o') : LaneResult Unit) := by
  intro others denied hbooks
  have hasked := hP.request hbooks
  rw [h] at hasked
  rw [Serializer.holding_of_none hs] at hasked
  show P (others + s.holding) (denied + denials (.error e : Except WriterError Unit)) o'
  rw [Serializer.holding_of_none hs]
  exact hasked

theorem granted_posts (hs : s.buffer = none) (h : o.request = (.ok (), o')) (b : Buffer) :
    Posts P s o ((.ok (), (s.install b).2, o') : LaneResult Unit) := by
  intro others denied hbooks
  have hasked := hP.request hbooks
  rw [h, Serializer.holding_of_none hs] at hasked
  show P (others + (s.install b).2.holding) denied o'
  rw [Serializer.holding_install]
  exact hasked

/-- The held buffer is given up before another is asked for. -/
theorem round_posts {emptied next : Serializer} {sent granted : Outlet} {progress : Progress}
    (hs : surrender c s o = (.ok (), emptied, sent)) (hrequest : sent.request = (.ok (), granted))
    (hinstall : emptied.install granted.pool.lent = (progress, next)) :
    Posts P s o ((.ok (), next, granted) : LaneResult Unit) := by
  have hsurrender := surrender_posts hP c s o
  have hnone := buffer_surrender c s o
  rw [hs] at hsurrender hnone
  have hgranted := granted_posts hP hnone hrequest granted.pool.lent
  rw [hinstall] at hgranted
  exact hsurrender.trans hgranted

theorem refill_posts (c : ChannelId) (s : Serializer) (o : Outlet) :
    Posts P s o (refill c s o) := by
  fun_induction refill c s o with
  | case1 s o e s' o' hs =>
    rw [← hs]
    exact surrender_posts hP c s o
  | case2 s o emptied sent hs e o' hrequest =>
    have hsurrender := surrender_posts hP c s o
    have hnone := buffer_surrender c s o
    rw [hs] at hsurrender hnone
    exact hsurrender.trans (denied_posts hP hnone hrequest)
  | case3 s o emptied sent hs granted hrequest progress next hinstall _ ih =>
    exact (round_posts hP hs hrequest hinstall).trans ih
  | case4 s o emptied sent hs granted hrequest progress next hinstall _ =>
    exact round_posts hP hs hrequest hinstall

theorem serve_posts (c : ChannelId) (frame : Except RecordError ByteArray) (s : Serializer)
    (o : Outlet) : Posts P s o (serve c frame s o).2 := by
  unfold serve Serializer.add
  by_cases hs : s.hasPending = true
  · rw [if_pos hs]
    exact .idle rfl rfl
  · rw [if_neg hs]
    cases frame with
    | error cause => exact .idle rfl rfl
    | ok frame =>
      -- copying fills the buffer that is held and takes no other
      have hcopied := Serializer.holding_copy { s with frame := frame, position := 0 }
      rcases hcopy : Serializer.copy { s with frame := frame, position := 0 } with ⟨progress, s'⟩
      rw [hcopy] at hcopied
      have hidle : Posts P s o ((.ok (), s', o) : LaneResult Unit) := .idle rfl hcopied
      simp only [hcopy]
      by_cases hp : progress.needsBuffer = true
      · rw [if_pos hp]
        exact hidle.trans (refill_posts hP c s' o)
      · rw [if_neg hp]
        exact hidle

theorem flush_posts (c : ChannelId) (s : Serializer) (o : Outlet) :
    Posts P s o (flush c s o) := by
  have hdenials := denials_flush c s o
  have hflushed := flush_flushed c s o
  generalize flush c s o = out at hflushed hdenials
  cases hflushed with
  | fenced e _ => exact .idle hdenials rfl
  | idle _ _ => exact .idle rfl rfl
  | sent _ hb _ => exact forward_posts hP hb hdenials

/-- A lane that flushed something asks for another buffer. -/
theorem reprime_posts {sent : Bool} (h : flush c s o = (.ok sent, s', o')) (o : Outlet) :
    Posts P s' o (if sent then prime s' o else (.ok (), s', o)) := by
  cases sent with
  | false => exact .idle rfl rfl
  | true =>
    show Posts P s' o (prime s' o)
    unfold prime
    rcases hrequest : o.request with ⟨_ | _, o'⟩
    · exact denied_posts hP (buffer_flush h) hrequest
    · exact granted_posts hP (buffer_flush h) hrequest _

theorem sendEvent_posts (e : Event) (c : ChannelId) (s : Serializer) (o : Outlet) :
    Posts P s o (sendEvent e c s o) := by
  have hflush := flush_posts hP c s o
  unfold sendEvent
  rcases hout : flush c s o with ⟨r, s', o'⟩
  rw [hout] at hflush
  cases r with
  | error cause => exact hflush
  | ok sent =>
    have hsend : Posts P s' o' ((o'.sendEvent c e).1, s', (o'.sendEvent c e).2) := by
      intro others denied h
      show P _ (denied + denials (o'.sendEvent c e).1) _
      rw [o'.denials_sendEvent c e]
      exact hP.sendEvent c e h
    rcases hsent : o'.sendEvent c e with ⟨r, last⟩
    rw [hsent] at hsend
    simp only [hsent]
    cases r with
    | error cause => exact hflush.trans hsend
    | ok _ => exact hflush.trans (hsend.trans (reprime_posts hP hout last))

theorem endSuperstep_posts (c : ChannelId) (s : Serializer) (o : Outlet) :
    Posts P s o (endSuperstep c s o) := by
  have hflush := flush_posts hP c s o
  unfold endSuperstep
  rcases hout : flush c s o with ⟨r, s', o'⟩
  rw [hout] at hflush
  cases r with
  | error e => exact hflush
  | ok sent => exact hflush.trans (reprime_posts hP hout o')

theorem retire_posts (c : ChannelId) (s : Serializer) (o : Outlet) :
    Posts P s o (retire c s o) := by
  have hflush := flush_posts hP c s o
  unfold retire
  rcases hout : flush c s o with ⟨r, s', o'⟩
  rw [hout] at hflush
  cases r with
  | error e => exact hflush
  | ok sent =>
    cases hb : s'.buffer with
    | none =>
      simp only [hb]
      exact hflush.trans (.idle rfl rfl)
    | some b =>
      have hdiscard : Posts P s' o' ((.ok (), s'.release, o'.discard b) : LaneResult Unit) := by
        intro others denied h
        rw [Serializer.holding_of_some hb] at h
        exact hP.discard b h
      simp only [hb]
      exact hflush.trans hdiscard

end Steps

/-! ## All lanes -/

variable {step : ChannelId → Serializer → Outlet → LaneResult Unit}

theorem sweep_posts (hstep : ∀ c s o, Posts P s o (step c s o)) (i : Nat)
    (lanes : List Serializer) {o : Outlet} {held denied : Nat}
    (h : P (held + holding lanes) denied o) :
    P (held + holding (sweep step i lanes o).2.1) (denied + denials (sweep step i lanes o).1)
      (sweep step i lanes o).2.2 := by
  induction lanes generalizing i o held with
  | nil => exact h
  | cons s lanes ih =>
    have hbefore : held + holding (s :: lanes) = held + holding lanes + s.holding := by
      rw [holding_cons]
      omega
    rw [hbefore] at h
    have hfirst := hstep (ChannelId.ofNat i) s o _ denied h
    unfold sweep
    rcases hout : step (ChannelId.ofNat i) s o with ⟨r, s', o'⟩
    rw [hout] at hfirst
    change P (held + holding lanes + s'.holding) (denied + denials r) o' at hfirst
    have hafter : held + holding lanes + s'.holding = held + s'.holding + holding lanes := by omega
    rw [hafter] at hfirst
    cases r with
    | error e =>
      show P (held + holding (s' :: lanes)) _ o'
      rw [holding_cons, ← Nat.add_assoc]
      exact hfirst
    | ok _ =>
      have hrest := ih (i + 1) hfirst
      show P (held + holding (s' :: _)) _ _
      rw [holding_cons, ← Nat.add_assoc]
      exact hrest

/-- A sweep over all lanes in spite of failures, with a step that asks for nothing. -/
theorem sweepAll_posts (hstep : ∀ c s o, Posts P s o (step c s o))
    (hnone : ∀ c s o, denials (step c s o).1 = 0) (i : Nat) (lanes : List Serializer) {o : Outlet}
    {held denied : Nat} (h : P (held + holding lanes) denied o) :
    P (held + holding (sweepAll step i lanes o).2.1) denied (sweepAll step i lanes o).2.2 ∧
      denials (sweepAll step i lanes o).1 = 0 := by
  induction lanes generalizing i o held with
  | nil => exact ⟨h, rfl⟩
  | cons s lanes ih =>
    have hbefore : held + holding (s :: lanes) = held + holding lanes + s.holding := by
      rw [holding_cons]
      omega
    rw [hbefore] at h
    have hfirst := hstep (ChannelId.ofNat i) s o _ denied h
    have hasked := hnone (ChannelId.ofNat i) s o
    rw [hasked] at hfirst
    unfold sweepAll
    rcases hout : step (ChannelId.ofNat i) s o with ⟨r, s', o'⟩
    rw [hout] at hfirst hasked
    have hafter : held + holding lanes + s'.holding = held + s'.holding + holding lanes := by omega
    change P (held + holding lanes + s'.holding) denied o' at hfirst
    rw [hafter] at hfirst
    obtain ⟨hrest, hresult⟩ := ih (i + 1) hfirst
    refine ⟨?_, ?_⟩
    · show P (held + holding (s' :: _)) _ _
      rw [holding_cons, ← Nat.add_assoc]
      exact hrest
    · cases r with
      | error e => exact hasked
      | ok _ => exact hresult

/-- Clearing gives up what the lanes hold, which is what is counted as given up. -/
theorem clearAll_posts (hP : Outlet.Ledger P) (lanes : List Serializer) {o : Outlet}
    {held denied : Nat} (h : P (held + holding lanes) denied o) :
    P held denied { o with
      pool := (clearAll lanes o.pool).2.2
      traffic := o.traffic.countDiscarded (clearAll lanes o.pool).1 } := by
  induction lanes generalizing o with
  | nil =>
    have hsame : o.traffic.countDiscarded 0 = o.traffic := by
      rw [Traffic.countDiscarded, show UInt64.ofNat 0 = 0 from rfl, UInt64.add_zero]
    show P held denied { o with traffic := o.traffic.countDiscarded 0 }
    rw [hsame]
    exact h
  | cons s lanes ih =>
    rw [holding_cons, Nat.add_comm s.holding, ← Nat.add_assoc] at h
    unfold clearAll clear
    cases hb : s.buffer with
    | none =>
      rw [Serializer.holding_of_none hb] at h
      exact ih h
    | some b =>
      rw [Serializer.holding_of_some hb] at h
      have hrest := ih (hP.discard b h)
      have hcount (n : Nat) : (o.traffic.countDiscarded 1).countDiscarded n =
          o.traffic.countDiscarded (n + 1) := by
        simp only [Traffic.countDiscarded, UInt64.ofNat_add, UInt64.add_assoc]
        rw [UInt64.add_comm (UInt64.ofNat 1)]
      change P held denied { o with
        pool := (clearAll lanes (o.pool.recycle b)).2.2
        traffic := (o.traffic.countDiscarded 1).countDiscarded
          (clearAll lanes (o.pool.recycle b)).1 } at hrest
      rw [hcount] at hrest
      exact hrest

end Lane

namespace Writer

variable {P : Nat → Nat → Outlet → Prop}

/-- The lanes that serve a frame, up to the first that fails. -/
theorem serve_posts (hP : Outlet.Ledger P) (frame : Except RecordError ByteArray)
    (targets : List ChannelId) {lanes : List Serializer} {o : Outlet} {denied : Nat}
    (htargets : ∀ c ∈ targets, c.toNat < lanes.length)
    (h : P (Lane.holding lanes) denied o) :
    P (Lane.holding (serve frame targets lanes o).2.2.1)
      (denied + denials (serve frame targets lanes o).2.1)
      (serve frame targets lanes o).2.2.2 := by
  induction targets generalizing lanes o with
  | nil => exact h
  | cons first targets ih =>
    have hi := htargets first List.mem_cons_self
    obtain ⟨others, -, hbefore, hafter⟩ := Lane.holding_set hi
    have hlane : (lanes[first.toNat]?).getD Serializer.start = lanes[first.toNat] := by
      rw [List.getElem?_eq_getElem hi, Option.getD_some]
    rw [hbefore] at h
    have hfirst := Lane.serve_posts hP first frame lanes[first.toNat] o others denied h
    unfold serve
    rw [hlane]
    rcases hout : Lane.serve first frame lanes[first.toNat] o with ⟨accepted, r, lane, o'⟩
    rw [hout] at hfirst
    change P (others + lane.holding) (denied + denials r) o' at hfirst
    rw [← hafter lane] at hfirst
    cases r with
    | error e => exact hfirst
    | ok _ =>
      have hlength : (lanes.set first.toNat lane).length = lanes.length := List.length_set
      exact ih (fun c hc => hlength.symm ▸ htargets c (List.mem_cons_of_mem _ hc)) hfirst

variable {σ : Type} {w : Writer σ} {denied : Nat}

/-- A sweep over all lanes. -/
theorem swept_posts {step : ChannelId → Serializer → Outlet → LaneResult Unit}
    (hstep : ∀ c s o, Lane.Posts P s o (step c s o)) (h : P (Lane.holding w.lanes) denied w.outlet) :
    P (Lane.holding (Lane.sweep step 0 w.lanes w.outlet).2.1)
      (denied + denials (Lane.sweep step 0 w.lanes w.outlet).1)
      (Lane.sweep step 0 w.lanes w.outlet).2.2 := by
  rw [← Nat.zero_add (Lane.holding _)] at h
  have hswept := Lane.sweep_posts hstep 0 w.lanes h
  rwa [Nat.zero_add] at hswept

theorem flush_posts (hP : Outlet.Ledger P) (h : P (Lane.holding w.lanes) denied w.outlet) :
    P (Lane.holding w.flush.2.lanes) denied w.flush.2.outlet ∧ denials w.flush.1 = 0 := by
  rw [← Nat.zero_add (Lane.holding _)] at h
  have hflushed := Lane.sweepAll_posts (Lane.retire_posts hP) Lane.denials_retire 0 w.lanes h
  rwa [Nat.zero_add] at hflushed

theorem clear_posts (hP : Outlet.Ledger P) (h : P (Lane.holding w.lanes) denied w.outlet) :
    P (Lane.holding w.clear.2.lanes) denied w.clear.2.outlet := by
  rw [holding_clear]
  rw [← Nat.zero_add (Lane.holding _)] at h
  exact Lane.clearAll_posts hP w.lanes h

end Writer

end Fanout
