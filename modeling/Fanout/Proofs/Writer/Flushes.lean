import Fanout.Proofs.Recovery.Shutting
import Fanout.Proofs.Writer.Backups
import Fanout.Proofs.Writer.Packing

/-!
# Flushes

A flush goes through all channels, whatever becomes of any of them. What it does can be said without
going through them: the buffers with something in them are offered to the partition in the order of
the channels (`Lane.outgoing`, `Partition.offerAll`), those without anything and those that were
refused go back to the pool, and the result is the first of the complaints that channels have
(`Lane.verdict`).

* `Lane.sweepAll_retire` — the steps of all lanes, taken together.
* `flush_run` — a flush of a writer, in every state that it reaches.
-/

namespace Fanout

namespace Partition

/-- Offers buffers one after the other, each once, whatever becomes of the others: the channels on
which they were refused, and the partition afterwards. -/
def offerAll (p : Partition) :
    List (ChannelId × Buffer) → List (ChannelId × TransportError) × Partition
  | [] => ([], p)
  | (c, b) :: later =>
    match p.writeBuffer c b with
    | (.ok (), p) => p.offerAll later
    | (.error cause, p) =>
      let (refusals, p) := p.offerAll later
      ((c, cause) :: refusals, p)

variable {sent : List (ChannelId × Buffer)}

theorem offerAll_append (p : Partition) (sent later : List (ChannelId × Buffer)) :
    p.offerAll (sent ++ later) =
      ((p.offerAll sent).1 ++ ((p.offerAll sent).2.offerAll later).1,
        ((p.offerAll sent).2.offerAll later).2) := by
  induction sent generalizing p with
  | nil => rfl
  | cons first sent ih =>
    obtain ⟨c, b⟩ := first
    rw [List.cons_append, offerAll, offerAll]
    rcases p.writeBuffer c b with ⟨_ | _, p'⟩
    · simp only [ih, List.cons_append]
    · exact ih p'

theorem refusals_sublist (p : Partition) (sent : List (ChannelId × Buffer)) :
    ((p.offerAll sent).1.map Prod.fst).Sublist (sent.map Prod.fst) := by
  induction sent generalizing p with
  | nil => exact List.Sublist.refl _
  | cons first later ih =>
    unfold offerAll
    rcases p.writeBuffer first.1 first.2 with ⟨_ | _, p'⟩
    · exact (ih p').cons_cons _
    · exact (ih p').cons _

/-- **Each buffer is put on record once, in order**, if no two are for the same channel; it was
taken unless its channel is among those that refused theirs. -/
theorem offers_offerAll (p : Partition) (hsent : (sent.map Prod.fst).Nodup) :
    (p.offerAll sent).2.offers.toList = p.offers.toList ++ sent.map fun x =>
      ⟨x.1, .buffer x.2, decide (x.1 ∉ (p.offerAll sent).1.map Prod.fst)⟩ := by
  induction sent generalizing p with
  | nil => exact (List.append_nil _).symm
  | cons first later ih =>
    obtain ⟨c, b⟩ := first
    obtain ⟨hfirst, hlater⟩ := List.nodup_cons.1 hsent
    have hnoted := p.writeBuffer_noted c b
    unfold offerAll
    rcases hout : p.writeBuffer c b with ⟨r, p'⟩
    rw [hout] at hnoted
    have hrefusals := p'.refusals_sublist later
    cases hnoted with
    | taken h =>
      have htaken : c ∉ (p'.offerAll later).1.map Prod.fst := fun hc => hfirst (hrefusals.subset hc)
      simp only [ih p' hlater, h, Array.toList_push, List.append_assoc, List.map_cons]
      rw [decide_eq_true htaken]
      rfl
    | refused e h =>
      -- the other buffers are for other channels
      have hrest : ∀ x ∈ later,
          (⟨x.1, .buffer x.2, decide (x.1 ∉ c :: (p'.offerAll later).1.map Prod.fst)⟩ : Offer) =
            ⟨x.1, .buffer x.2, decide (x.1 ∉ (p'.offerAll later).1.map Prod.fst)⟩ := by
        intro x hx
        have hne : x.1 ≠ c := fun heq => hfirst (List.mem_map.2 ⟨x, hx, heq⟩)
        simp [hne]
      simp only [ih p' hlater, h, Array.toList_push, List.append_assoc, List.map_cons]
      rw [List.map_congr_left hrest, decide_eq_false (not_not_intro List.mem_cons_self)]
      rfl

end Partition

namespace Serializer

variable {s : Serializer} {b : Buffer}

/-- The buffer that a serializer holds, if there is something in it. -/
def load (s : Serializer) : Option Buffer := s.buffer.filter fun b => !b.isEmpty

theorem load_of_none (h : s.buffer = none) : s.load = none := by rw [load, h, Option.filter_none]

theorem load_of_empty (h : s.buffer = some b) (hb : b.isEmpty = true) : s.load = none := by
  simp [load, h, hb]

theorem load_of_some (h : s.buffer = some b) (hb : b.isEmpty = false) : s.load = some b := by
  simp [load, h, hb]

/-- There is nothing to give up. -/
theorem release_of_none (h : s.buffer = none) : s.release = s := by rw [release, ← h]

end Serializer

namespace Lane

/-- Lanes with their channels, from channel `i` on. -/
def numbered (i : Nat) : List Serializer → List (ChannelId × Serializer)
  | [] => []
  | s :: lanes => (.ofNat i, s) :: numbered (i + 1) lanes

/-- The buffers with something in them that lanes hold. -/
def outgoing (lanes : List (ChannelId × Serializer)) : List (ChannelId × Buffer) :=
  lanes.filterMap fun x => x.2.load.map (x.1, ·)

/-- How many lanes hold an empty buffer. -/
def empties (lanes : List Serializer) : Nat := lanes.countP fun s => s.buffer.any Buffer.isEmpty

/-- What keeps a channel from being flushed: bytes of it wait for a buffer, or its buffer was
refused. -/
def complaint (refusals : List (ChannelId × TransportError)) (x : ChannelId × Serializer) :
    Option WriterError :=
  if x.2.hasPending then some (.illegalState (.unfinishedRecord x.1 x.2.pendingSize))
  else (refusals.lookup x.1).map (.transport (.channel x.1))

/-- The complaint of the first channel that has one. -/
def verdict (refusals : List (ChannelId × TransportError)) (lanes : List (ChannelId × Serializer)) :
    Except WriterError Unit :=
  match (lanes.filterMap (complaint refusals)).head? with
  | some e => .error e
  | none => .ok ()

variable {s : Serializer} {refusals later : List (ChannelId × TransportError)}

theorem outgoing_sublist (lanes : List (ChannelId × Serializer)) :
    ((outgoing lanes).map Prod.fst).Sublist (lanes.map Prod.fst) := by
  induction lanes with
  | nil => exact List.Sublist.refl _
  | cons first lanes ih =>
    unfold outgoing
    cases h : first.2.load with
    | none =>
      rw [List.filterMap_cons_none (by rw [h]; rfl)]
      exact ih.cons _
    | some b =>
      rw [List.filterMap_cons_some (b := (first.1, b)) (by rw [h]; rfl)]
      exact ih.cons_cons _

theorem channels_numbered (i : Nat) (lanes : List Serializer) :
    (numbered i lanes).map Prod.fst = (List.range' i lanes.length).map ChannelId.ofNat := by
  induction lanes generalizing i with
  | nil => rfl
  | cons s lanes ih =>
    rw [numbered, List.map_cons, ih, List.length_cons, List.range'_succ, List.map_cons]

theorem lanes_numbered (i : Nat) (lanes : List Serializer) :
    (numbered i lanes).map Prod.snd = lanes := by
  induction lanes generalizing i with
  | nil => rfl
  | cons s lanes ih => rw [numbered, List.map_cons, ih]

theorem nodup_numbered {i : Nat} {lanes : List Serializer} (hi : i + lanes.length ≤ maxChannels) :
    ((numbered i lanes).map Prod.fst).Nodup := by
  rw [channels_numbered, List.Nodup, List.pairwise_map]
  refine List.Pairwise.imp_of_mem (fun _ hk hlt => ofNat_ne ?_ hlt) List.pairwise_lt_range'
  have hk := (List.mem_range'_1.1 hk).2
  omega

theorem lookup_refusals {c : ChannelId} (h : c ∉ refusals.map Prod.fst) :
    refusals.lookup c = none := by
  refine List.lookup_eq_none_iff.2 fun x hx => bne_iff_ne.2 fun heq => h ?_
  exact List.mem_map.2 ⟨x, hx, heq.symm⟩

/-- Refusals on other channels are no reason to complain. -/
theorem complaint_append_left {x : ChannelId × Serializer} (h : x.1 ∉ later.map Prod.fst) :
    complaint (refusals ++ later) x = complaint refusals x := by
  rw [complaint, List.lookup_append, lookup_refusals h, Option.or_none, complaint]

theorem complaint_append_right {x : ChannelId × Serializer} (h : x.1 ∉ refusals.map Prod.fst) :
    complaint (refusals ++ later) x = complaint later x := by
  rw [complaint, List.lookup_append, lookup_refusals h, Option.none_or, complaint]

theorem complaint_eq_none_iff {x : ChannelId × Serializer} :
    complaint refusals x = none ↔ x.2.hasPending = false ∧ x.1 ∉ refusals.map Prod.fst := by
  unfold complaint
  cases x.2.hasPending with
  | true => simp
  | false =>
    rw [if_neg Bool.false_ne_true, Option.map_eq_none_iff]
    refine ⟨fun h => ⟨rfl, fun hmem => ?_⟩, fun h => lookup_refusals h.2⟩
    obtain ⟨y, hy, heq⟩ := List.mem_map.1 hmem
    exact bne_iff_ne.1 (List.lookup_eq_none_iff.1 h y hy) heq.symm

theorem verdict_eq_ok_iff {lanes : List (ChannelId × Serializer)} :
    verdict refusals lanes = .ok () ↔ ∀ x ∈ lanes, complaint refusals x = none := by
  rw [← List.filterMap_eq_nil_iff, verdict]
  cases lanes.filterMap (complaint refusals) <;> simp

/-- The verdict on a lane and on those behind it, on other channels. -/
theorem verdict_cons {x : ChannelId × Serializer} {lanes : List (ChannelId × Serializer)}
    (hx : x.1 ∉ later.map Prod.fst) (hlanes : ∀ y ∈ lanes, y.1 ∉ refusals.map Prod.fst) :
    verdict (refusals ++ later) (x :: lanes) =
      match verdict refusals [x] with
      | .error e => .error e
      | .ok () => verdict later lanes := by
  have hrest :
      lanes.filterMap (complaint (refusals ++ later)) = lanes.filterMap (complaint later) :=
    List.filterMap_congr fun y hy => complaint_append_right (hlanes y hy)
  rw [verdict, verdict, List.filterMap_cons, List.filterMap_cons, complaint_append_left hx, hrest]
  cases complaint refusals x <;> rfl

/-- **What flushing lanes comes to**, from channel `i` on: the result, and what becomes of the lanes
and the outlet. -/
structure Flush (i : Nat) (lanes : List Serializer) (o : Outlet)
    (out : Except WriterError Unit × List Serializer × Outlet) : Prop where
  result_eq : out.1 =
    verdict (o.partition.offerAll (outgoing (numbered i lanes))).1 (numbered i lanes)
  lanes_eq : out.2.1 = lanes.map Serializer.release
  partition_eq : out.2.2.partition = (o.partition.offerAll (outgoing (numbered i lanes))).2
  pool_eq : out.2.2.pool = o.pool.recycleMany
    (empties lanes + (o.partition.offerAll (outgoing (numbered i lanes))).1.length)
  requests_eq : out.2.2.requests = o.requests

theorem verdict_of_some {x : ChannelId × Serializer} {e : WriterError}
    (h : complaint refusals x = some e) : verdict refusals [x] = .error e := by
  rw [verdict, List.filterMap_cons_some h, List.head?_cons]

theorem verdict_of_none {x : ChannelId × Serializer} (h : complaint refusals x = none) :
    verdict refusals [x] = .ok () := by
  rw [verdict, List.filterMap_cons_none h, List.filterMap_nil, List.head?_nil]

/-- A lane that holds no buffer with anything in it has nothing offered. -/
theorem flush_unloaded (i : Nat) {o o' : Outlet} {lane : Serializer}
    {r : Except WriterError Unit} (hload : s.load = none)
    (hresult : verdict [] [(ChannelId.ofNat i, s)] = r) (hlane : lane = s.release)
    (hpartition : o'.partition = o.partition)
    (hpool : o'.pool = o.pool.recycleMany (empties [s])) (hrequests : o'.requests = o.requests) :
    Flush i [s] o (r, [lane], o') := by
  have hnone : outgoing (numbered i [s]) = [] := by simp [numbered, outgoing, hload]
  refine ⟨?_, ?_, ?_, ?_, hrequests⟩
  · rw [hnone]
    exact hresult.symm
  · rw [hlane]
    rfl
  · rw [hnone]
    exact hpartition
  · rw [hnone]
    exact hpool

/-- A lane with a buffer that has something in it sends that. -/
theorem flush_loaded (i : Nat) (o : Outlet) {b : Buffer} (hs : s.hasPending = false)
    (hb : s.buffer = some b) (hempty : b.isEmpty = false) :
    Flush i [s] o ((o.forward (ChannelId.ofNat i) b).1, [s.release],
      (o.forward (ChannelId.ofNat i) b).2) := by
  have hone : outgoing (numbered i [s]) = [(ChannelId.ofNat i, b)] := by
    simp [numbered, outgoing, Serializer.load_of_some hb hempty]
  have hempties : empties [s] = 0 := by simp [empties, hb, hempty]
  have hcomplaint (refusals : List (ChannelId × TransportError)) :
      complaint refusals (ChannelId.ofNat i, s) =
        (refusals.lookup (ChannelId.ofNat i)).map (.transport (.channel (ChannelId.ofNat i))) :=
    if_neg (Bool.eq_false_iff.1 hs)
  rcases hwrite : o.partition.writeBuffer (ChannelId.ofNat i) b with ⟨cause | _, p⟩
  · have hoffered : o.partition.offerAll (outgoing (numbered i [s])) =
        ([(ChannelId.ofNat i, cause)], p) := by
      rw [hone]
      simp only [Partition.offerAll, hwrite]
    have hforward : o.forward (ChannelId.ofNat i) b =
        (.error (.transport (.channel (ChannelId.ofNat i)) cause),
          { o with partition := p, pool := o.pool.recycle b }) := by
      simp [Outlet.forward, hempty, hwrite]
    have hverdict : verdict [(ChannelId.ofNat i, cause)] [(ChannelId.ofNat i, s)] =
        .error (.transport (.channel (ChannelId.ofNat i)) cause) := by
      refine verdict_of_some ?_
      rw [hcomplaint, List.lookup_cons_self]
      rfl
    rw [hforward]
    refine ⟨?_, rfl, ?_, ?_, rfl⟩
    · rw [hoffered]
      exact hverdict.symm
    · rw [hoffered]
    · rw [hoffered, hempties]
      rfl
  · have hoffered : o.partition.offerAll (outgoing (numbered i [s])) = ([], p) := by
      rw [hone]
      simp only [Partition.offerAll, hwrite]
    have hforward : o.forward (ChannelId.ofNat i) b =
        (.ok (), { o with partition := p, traffic := o.traffic.countBuffer b.size }) := by
      simp [Outlet.forward, hempty, hwrite]
    have hverdict : verdict [] [(ChannelId.ofNat i, s)] = .ok () := verdict_of_none (hcomplaint [])
    rw [hforward]
    refine ⟨?_, rfl, ?_, ?_, rfl⟩
    · rw [hoffered]
      exact hverdict.symm
    · rw [hoffered]
    · rw [hoffered, hempties]
      rfl

/-- **One lane.** It is refused while bytes wait for a buffer; else a buffer with something in it is
offered, and another one goes back to the pool. -/
theorem retire_flush (i : Nat) (o : Outlet) (hs : s.hasPending = true → s.buffer = none) :
    Flush i [s] o ((retire (ChannelId.ofNat i) s o).1, [(retire (ChannelId.ofNat i) s o).2.1],
      (retire (ChannelId.ofNat i) s o).2.2) := by
  unfold retire flush
  by_cases hpending : s.hasPending = true
  · have hnone := hs hpending
    have hempties : empties [s] = 0 := by simp [empties, hnone]
    rw [if_pos hpending]
    refine flush_unloaded i (Serializer.load_of_none hnone) (verdict_of_some (if_pos hpending))
      (Serializer.release_of_none hnone).symm rfl ?_ rfl
    rw [hempties]
    rfl
  · have hverdict : verdict [] [(ChannelId.ofNat i, s)] = .ok () :=
      verdict_of_none (if_neg hpending)
    rw [if_neg hpending]
    cases hb : s.buffer with
    | none =>
      have hempties : empties [s] = 0 := by simp [empties, hb]
      simp only [hb]
      refine flush_unloaded i (Serializer.load_of_none hb) hverdict
        (Serializer.release_of_none hb).symm rfl ?_ rfl
      rw [hempties]
      rfl
    | some b =>
      cases hempty : b.isEmpty with
      | true =>
        have hempties : empties [s] = 1 := by simp [empties, hb, hempty]
        simp only [hempty, if_true, hb]
        refine flush_unloaded i (Serializer.load_of_empty hb hempty) hverdict rfl rfl ?_ rfl
        rw [hempties]
        rfl
      | false =>
        have hflush := flush_loaded i o (Bool.eq_false_iff.2 hpending) hb hempty
        simp only [hempty, Bool.false_eq_true, if_false]
        rcases hforward : o.forward (ChannelId.ofNat i) b with ⟨_ | _, o'⟩
        · rw [hforward] at hflush
          exact hflush
        · rw [hforward] at hflush
          exact hflush

/-- A lane and those behind it, on other channels. -/
theorem Flush.cons {i : Nat} {lanes : List Serializer} {o : Outlet} {first : LaneResult Unit}
    {rest : Except WriterError Unit × List Serializer × Outlet}
    (hother : ChannelId.ofNat i ∉ (numbered (i + 1) lanes).map Prod.fst)
    (hfirst : Flush i [s] o (first.1, [first.2.1], first.2.2))
    (hrest : Flush (i + 1) lanes first.2.2 rest) :
    Flush i (s :: lanes) o
      (match first.1 with | .error e => .error e | .ok () => rest.1, first.2.1 :: rest.2.1,
        rest.2.2) := by
  obtain ⟨hresult, hlanes, hpartition, hpool, hrequests⟩ := hfirst
  have hoffered : o.partition.offerAll (outgoing (numbered i (s :: lanes))) =
      ((o.partition.offerAll (outgoing (numbered i [s]))).1 ++
        (first.2.2.partition.offerAll (outgoing (numbered (i + 1) lanes))).1,
        (first.2.2.partition.offerAll (outgoing (numbered (i + 1) lanes))).2) := by
    have hsplit : outgoing (numbered i (s :: lanes)) =
        outgoing (numbered i [s]) ++ outgoing (numbered (i + 1) lanes) :=
      List.filterMap_append (l := numbered i [s])
    rw [hsplit, Partition.offerAll_append, ← hpartition]
  -- refusals are for the channel of the lane alone, and for later ones alone
  have hown := (o.partition.refusals_sublist _).trans (outgoing_sublist (numbered i [s]))
  have hlater := (first.2.2.partition.refusals_sublist _).trans
    (outgoing_sublist (numbered (i + 1) lanes))
  refine ⟨?_, ?_, ?_, ?_, hrest.requests_eq.trans hrequests⟩
  · rw [hoffered]
    refine Eq.trans ?_ (verdict_cons (x := (ChannelId.ofNat i, s)) (fun hmem => ?_)
      fun y hy hmem => ?_).symm
    · rw [← hrest.result_eq]
      exact congrArg (fun r => match r with | .error e => Except.error e | .ok () => rest.1) hresult
    · exact hother (hlater.subset hmem)
    · exact hother (List.mem_map.2 ⟨y, hy, List.mem_singleton.1 (hown.subset hmem)⟩)
  · show first.2.1 :: rest.2.1 = s.release :: lanes.map Serializer.release
    rw [hrest.lanes_eq]
    exact congrArg (· ++ lanes.map Serializer.release) hlanes
  · rw [hoffered, ← hrest.partition_eq]
  · have hempties : empties (s :: lanes) = empties [s] + empties lanes :=
      @List.countP_append _ _ [s] lanes
    have hpool : first.2.2.pool = _ := hpool
    rw [hrest.pool_eq, hpool, ← Pool.recycleMany_add, hoffered, hempties, List.length_append]
    congr 1
    omega

/-- **The steps of all lanes, taken together**, where no lane with bytes that wait has a buffer. -/
theorem sweepAll_retire (i : Nat) {lanes : List Serializer} (o : Outlet)
    (hi : i + lanes.length ≤ maxChannels)
    (hlanes : ∀ s ∈ lanes, s.hasPending = true → s.buffer = none) :
    Flush i lanes o (sweepAll retire i lanes o) := by
  induction lanes generalizing i o with
  | nil => exact ⟨rfl, rfl, rfl, rfl, rfl⟩
  | cons s lanes ih =>
    obtain ⟨hs, hlanes⟩ := List.forall_mem_cons.1 hlanes
    obtain ⟨hother, -⟩ := List.nodup_cons.1 (@nodup_numbered i (s :: lanes) hi)
    rw [List.length_cons] at hi
    exact .cons hother (retire_flush i o hs) (ih (i + 1) _ (by omega) hlanes)

/-- No lane has a buffer left. -/
theorem Flush.buffer_eq_none {i : Nat} {lanes : List Serializer} {o : Outlet}
    {out : Except WriterError Unit × List Serializer × Outlet} (h : Flush i lanes o out) :
    ∀ lane ∈ out.2.1, lane.buffer = none := by
  intro lane hlane
  rw [h.lanes_eq] at hlane
  obtain ⟨_, _, rfl⟩ := List.mem_map.1 hlane
  rfl

/-- **A flush succeeds** if and only if no bytes wait for a buffer and no buffer is refused. -/
theorem Flush.eq_ok_iff {i : Nat} {lanes : List Serializer} {o : Outlet}
    {out : Except WriterError Unit × List Serializer × Outlet} (h : Flush i lanes o out) :
    out.1 = .ok () ↔
      Settled lanes ∧ (o.partition.offerAll (outgoing (numbered i lanes))).1 = [] := by
  have hrefused := (o.partition.refusals_sublist _).trans (outgoing_sublist (numbered i lanes))
  rw [h.result_eq, verdict_eq_ok_iff]
  simp only [complaint_eq_none_iff]
  refine ⟨fun h => ⟨fun lane hlane => ?_, ?_⟩, fun h x hx => ⟨?_, ?_⟩⟩
  · rw [← lanes_numbered i lanes] at hlane
    obtain ⟨x, hx, rfl⟩ := List.mem_map.1 hlane
    exact (h x hx).1
  · -- a refusal would be a reason for its channel to complain
    refine List.eq_nil_iff_forall_not_mem.2 fun y hy => ?_
    have hy := List.mem_map_of_mem (f := Prod.fst) hy
    obtain ⟨x, hx, heq⟩ := List.mem_map.1 (hrefused.subset hy)
    exact (h x hx).2 (heq ▸ hy)
  · refine h.1 _ ?_
    rw [← lanes_numbered i lanes]
    exact List.mem_map_of_mem hx
  · rw [h.2]
    exact List.not_mem_nil

end Lane

namespace Writer

variable {σ : Type} {s : Schema} [ChannelSelector σ s.Value] {w : Writer σ} {p : Partition}
  {size : Nat}

/-- A lane with room that has bytes waiting for a buffer holds none. -/
theorem Roomy.buffer_of_pending (h : w.Roomy size) :
    ∀ lane ∈ w.lanes, lane.hasPending = true → lane.buffer = none := by
  intro lane hlane hpending
  cases hb : lane.buffer with
  | none => rfl
  | some b =>
    obtain ⟨-, -, hsettled⟩ := h.roomy_of_mem lane hlane b hb
    exact absurd hpending (Bool.eq_false_iff.1 hsettled)

/-- A flush of lanes with room. -/
theorem Roomy.flush (h : w.Roomy size) (hw : w.lanes.length ≤ maxChannels) :
    Lane.Flush 0 w.lanes w.outlet (Lane.sweepAll Lane.retire 0 w.lanes w.outlet) :=
  Lane.sweepAll_retire 0 w.outlet (by omega) h.buffer_of_pending

/-- No segment is ever open but for a channel. -/
theorem MadeFor.addressed_run (hmade : w.MadeFor p) (ops : List (Operation s.Value)) :
    (w.run s ops).backup.Addressed := by
  obtain ⟨pool, selector, options, now, surroundings, disk, hmade⟩ := hmade
  rw [backup_run, backup_make hmade]
  exact Backup.addressed_callAll (Backup.addressed_make _ _) _

/-- A flush ends all segments. -/
theorem MadeFor.shut_flush (hmade : w.MadeFor p) (ops : List (Operation s.Value)) :
    (w.run s ops).flush.2.backup.Shut := Backup.shut_close _ (hmade.addressed_run ops)

/-- **A flush serves every channel**, in every state that a writer reaches and whatever the
partition does. The buffers with something in them are offered to the partition, each once, in the
order of the channels, and nothing else is; the empty ones and those that were refused go back to
the pool; nothing is asked for, no lane has a buffer left and no segment of the recovery log is
open. The result is the complaint of the first channel that has one: because bytes of it wait for a
buffer, or because its buffer was refused. So it succeeds if and only if no bytes wait and no buffer
was refused. -/
theorem flush_run (hmade : w.MadeFor p) (ops : List (Operation s.Value)) :
    let v := w.run s ops
    let lanes := Lane.numbered 0 v.lanes
    let sent := Lane.outgoing lanes
    let refusals := (v.outlet.partition.offerAll sent).1
    let flushed := v.flush.2
    flushed.outlet.partition = (v.outlet.partition.offerAll sent).2 ∧
    flushed.outlet.partition.offers.toList = v.outlet.partition.offers.toList ++ sent.map (fun x =>
      ⟨x.1, .buffer x.2, decide (x.1 ∉ refusals.map Prod.fst)⟩) ∧
    flushed.outlet.pool = v.outlet.pool.recycleMany (Lane.empties v.lanes + refusals.length) ∧
    flushed.outlet.requests = v.outlet.requests ∧
    (∀ lane ∈ flushed.lanes, lane.buffer = none) ∧
    flushed.backup = v.backup.close flushed.outlet.now ∧ flushed.backup.Shut ∧
    v.flush.1 = Lane.verdict refusals lanes ∧
    (v.flush.1 = .ok () ↔ Lane.Settled v.lanes ∧ refusals = []) := by
  intro v lanes sent refusals flushed
  have hwidth : v.lanes.length ≤ maxChannels := hmade.start.length_run_le ops
  have hflush := (hmade.roomy.run ops).flush hwidth
  have hnodup : (lanes.map Prod.fst).Nodup := Lane.nodup_numbered (by omega)
  refine ⟨hflush.partition_eq, ?_, hflush.pool_eq, hflush.requests_eq, ?_, rfl,
    hmade.shut_flush ops, hflush.result_eq, hflush.eq_ok_iff⟩
  · rw [← v.outlet.partition.offers_offerAll ((Lane.outgoing_sublist lanes).nodup hnodup)]
    exact congrArg (fun p => p.offers.toList) hflush.partition_eq
  · exact hflush.buffer_eq_none

/-- Two channels hold a frame each; the partition refuses the first of the two buffers. -/
theorem flush_run_small :
    let plan : FaultPlan String := .window 0 1 "refused"
    let v := ((smallPairWriter none Disk.empty).failing .buffer plan).run .bytes [.emit [1] none]
    let frame : Buffer := ⟨8, pack [0, 0, 0, 2, 1, 1], by decide⟩
    v.flush.1 = .error (.transport (.channel ⟨0⟩) (.refused "refused")) ∧
    v.flush.2.outlet.partition.offers.toList =
      [⟨⟨0⟩, .buffer frame, false⟩, ⟨⟨1⟩, .buffer frame, true⟩] ∧
    v.flush.2.outlet.pool.recycled = 1 := by
  intro plan v frame
  have hmade : ((smallPairWriter none Disk.empty).failing .buffer plan).MadeFor
      (smallPair.failing .buffer plan) :=
    ⟨smallPool, ⟨⟩, ⟨none, none, .unlimited⟩, .ofSeconds 1, .attentive, Disk.empty, rfl⟩
  obtain ⟨-, hoffers, hpool, -, -, -, -, hresult, -⟩ :=
    flush_run (s := .bytes) hmade [.emit [1] none]
  refine ⟨hresult.trans (by decide +kernel), hoffers.trans (by decide +kernel), ?_⟩
  exact (congrArg Pool.recycled hpool).trans (by decide +kernel)

end Writer

end Fanout
