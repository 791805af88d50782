import Fanout.Proofs.Writer.Backups
import Fanout.Proofs.Writer.Dispatches

/-!
# Writers that are alike

A serializer keeps the frame that was added last also when all of it is in buffers. Nothing reads
those bytes again: what a serializer does depends on the buffer that it holds and on the bytes that
wait for one. Writers whose serializers agree in these two, and which agree in everything else, are
`Alike`, and no later operation can tell them apart.

* `agree_refill`, `agree_serve` — work on serializers that are alike has the same outcome.
* `Alike.perform`, `Alike.run` — so have operations and runs of writers that are alike.
-/

namespace Fanout

/-- Serializers that hold the same and owe the same. -/
structure Serializer.Alike (s s' : Serializer) : Prop where
  buffer_eq : s.buffer = s'.buffer
  pending_eq : s.pending = s'.pending

/-- Outcomes of some work that are the same but for related states. -/
inductive Agree {ρ α γ : Type} (R : α → α → Prop) : ρ × α × γ → ρ × α × γ → Prop where
  | intro (r : ρ) {a a' : α} (rest : γ) : R a a' → Agree R (r, a, rest) (r, a', rest)

theorem Agree.eq_of_left {ρ α γ : Type} {R : α → α → Prop} {r : ρ} {a : α} {rest : γ}
    {out : ρ × α × γ} (h : Agree R (r, a, rest) out) : ∃ a', out = (r, a', rest) ∧ R a a' := by
  cases h with
  | intro _ _ h => exact ⟨_, rfl, h⟩

namespace Serializer

variable {s s' : Serializer}

/-- What still waits after some more bytes were copied. -/
theorem pending_advance (s : Serializer) (n : Nat) (buffer : Option Buffer) :
    pending { s with position := s.position + n, buffer := buffer } =
      s.pending.extract n s.pendingSize := by
  have hend : min (s.position + s.pendingSize) s.frame.size = s.frame.size := by
    rw [pendingSize]
    omega
  rw [pending, pending, ByteArray.extract_extract, hend]

namespace Alike

theorem refl (s : Serializer) : s.Alike s := ⟨rfl, rfl⟩

variable (h : s.Alike s')

include h

theorem pendingSize_eq : s.pendingSize = s'.pendingSize := by
  rw [← size_pending, h.pending_eq, size_pending]

theorem hasPending_eq : s.hasPending = s'.hasPending := by
  rw [Bool.eq_iff_iff, hasPending_iff, hasPending_iff, h.pendingSize_eq]

theorem release : s.release.Alike s'.release := ⟨rfl, h.pending_eq⟩

theorem copy : s.copy.1 = s'.copy.1 ∧ s.copy.2.Alike s'.copy.2 := by
  unfold Serializer.copy
  rw [← h.buffer_eq]
  cases s.buffer with
  | none =>
    refine ⟨?_, h⟩
    show (if s.hasPending then _ else _) = _
    rw [h.hasPending_eq]
  | some b =>
    have hnext : Alike
        { s with position := s.position + b.accepted s.pending, buffer := b.append s.pending }
        { s' with
          position := s'.position + b.accepted s'.pending
          buffer := b.append s'.pending } := by
      refine ⟨?_, ?_⟩
      · rw [h.pending_eq]
      · rw [pending_advance, pending_advance, h.pending_eq, h.pendingSize_eq]
    refine ⟨?_, hnext⟩
    show (if hasPending _ then _ else _) = _
    rw [hnext.hasPending_eq, h.pending_eq]

theorem install (b : Buffer) :
    (s.install b).1 = (s'.install b).1 ∧ (s.install b).2.Alike (s'.install b).2 := by
  have hgiven : Alike { s with buffer := b } { s' with buffer := b } := ⟨rfl, h.pending_eq⟩
  exact hgiven.copy

theorem add (frame : Except RecordError ByteArray) :
    (s.add frame).1 = (s'.add frame).1 ∧ (s.add frame).2.Alike (s'.add frame).2 := by
  unfold Serializer.add
  rw [h.hasPending_eq, h.pendingSize_eq]
  split
  · exact ⟨rfl, h⟩
  · cases frame with
    | error cause => exact ⟨rfl, h.buffer_eq, rfl⟩
    | ok frame =>
      -- the new frame takes the place of all in which the two may differ
      simp only [h.buffer_eq]
      exact ⟨trivial, .refl _⟩

end Alike

end Serializer

namespace Lane

variable {s s' : Serializer} (c : ChannelId) (o : Outlet)

/-! ## Work on a lane -/

/-- Outcomes of work on a lane that are the same but for lanes that are alike. -/
abbrev Agrees {α : Type} : LaneResult α → LaneResult α → Prop := Agree Serializer.Alike

/-- A step of lanes that cannot tell lanes apart that are alike. -/
def Blind (step : ChannelId → Serializer → Outlet → LaneResult Unit) : Prop :=
  ∀ c o s s', s.Alike s' → Agrees (step c s o) (step c s' o)

theorem agree_surrender (h : s.Alike s') : Agrees (surrender c s o) (surrender c s' o) := by
  unfold surrender
  rw [← h.buffer_eq]
  split
  · exact .intro _ _ h
  · exact .intro _ _ h.release

/-- One round of refilling. -/
theorem refill_eq (s : Serializer) : refill c s o =
    match surrender c s o with
    | (.error e, s, o) => (.error e, s, o)
    | (.ok (), emptied, sent) =>
      match sent.request with
      | (.error e, o) => (.error e, emptied, o)
      | (.ok (), granted) =>
        if (emptied.install granted.pool.lent).1.needsBuffer then
          refill c (emptied.install granted.pool.lent).2 granted
        else (.ok (), (emptied.install granted.pool.lent).2, granted) := by
  rw [refill]
  rcases surrender c s o with ⟨_ | _, emptied, sent⟩
  · rfl
  · rcases hrequest : sent.request with ⟨_ | _, granted⟩
    · simp only [hrequest]
    · simp only [hrequest]
      rfl

/-- **Refilling** does the same for lanes that are alike. -/
theorem agree_refill (h : s.Alike s') : Agrees (refill c s o) (refill c s' o) := by
  -- round by round the same buffer is sent and the same bytes wait for another
  fun_induction refill c s o generalizing s' with
  | case1 s o e emptied sent hs =>
    obtain ⟨emptied', hs', hemptied⟩ := (hs ▸ agree_surrender c o h).eq_of_left
    rw [refill_eq c o s', hs']
    exact .intro _ _ hemptied
  | case2 s o emptied sent hs e o' hrequest =>
    obtain ⟨emptied', hs', hemptied⟩ := (hs ▸ agree_surrender c o h).eq_of_left
    rw [refill_eq c o s', hs']
    simp only [hrequest]
    exact .intro _ _ hemptied
  | case3 s o emptied sent hs granted hrequest progress next hinstall hp ih =>
    obtain ⟨emptied', hs', hemptied⟩ := (hs ▸ agree_surrender c o h).eq_of_left
    obtain ⟨hprogress, hnext⟩ := hemptied.install granted.pool.lent
    rw [hinstall] at hprogress hnext
    rw [refill_eq c o s', hs']
    simp only [hrequest, ← hprogress, if_pos hp]
    exact ih hnext
  | case4 s o emptied sent hs granted hrequest progress next hinstall hp =>
    obtain ⟨emptied', hs', hemptied⟩ := (hs ▸ agree_surrender c o h).eq_of_left
    obtain ⟨hprogress, hnext⟩ := hemptied.install granted.pool.lent
    rw [hinstall] at hprogress hnext
    rw [refill_eq c o s', hs']
    simp only [hrequest, ← hprogress, if_neg hp]
    exact .intro _ _ hnext

/-- **Serving a frame** does the same for lanes that are alike. -/
theorem agree_serve (frame : Except RecordError ByteArray) (h : s.Alike s') :
    (serve c frame s o).1 = (serve c frame s' o).1 ∧
      Agrees (serve c frame s o).2 (serve c frame s' o).2 := by
  obtain ⟨hresult, hadded⟩ := h.add frame
  unfold serve
  generalize s.add frame = out, s'.add frame = out' at hresult hadded
  obtain ⟨r, added⟩ := out
  obtain ⟨r', added'⟩ := out'
  obtain rfl : r = r' := hresult
  cases r with
  | error e => exact ⟨rfl, .intro _ _ hadded⟩
  | ok progress =>
    refine ⟨rfl, ?_⟩
    show Agrees (if progress.needsBuffer then _ else _) (if progress.needsBuffer then _ else _)
    split
    · exact agree_refill c o hadded
    · exact .intro _ _ hadded

theorem agree_flush (h : s.Alike s') : Agrees (flush c s o) (flush c s' o) := by
  unfold flush
  rw [← h.hasPending_eq, ← h.pendingSize_eq, ← h.buffer_eq]
  split
  · exact .intro _ _ h
  · split
    · exact .intro _ _ h
    · split
      · exact .intro _ _ h
      · exact .intro _ _ h.release

theorem agree_reprime (h : s.Alike s') (sent : Bool) :
    Agrees (if sent then prime s o else (.ok (), s, o))
      (if sent then prime s' o else (.ok (), s', o)) := by
  cases sent with
  | false => exact .intro _ _ h
  | true =>
    show Agrees (prime s o) (prime s' o)
    unfold prime
    rcases o.request with ⟨_ | _, o'⟩
    · exact .intro _ _ h
    · exact .intro _ _ (h.install o'.pool.lent).2

theorem blind_sendEvent (e : Event) : Blind (sendEvent e) := by
  intro c o s s' h
  have hflush := agree_flush c o h
  unfold sendEvent
  generalize flush c s o = out, flush c s' o = out' at hflush
  obtain ⟨r, o, h⟩ := hflush
  cases r with
  | error cause => exact .intro _ _ h
  | ok sent =>
    rcases hsend : o.sendEvent c e with ⟨_ | _, o'⟩
    · simp only [hsend]
      exact .intro _ _ h
    · simp only [hsend]
      exact agree_reprime o' h sent

theorem blind_endSuperstep : Blind endSuperstep := by
  intro c o s s' h
  have hflush := agree_flush c o h
  unfold endSuperstep
  generalize flush c s o = out, flush c s' o = out' at hflush
  obtain ⟨r, o, h⟩ := hflush
  cases r with
  | error cause => exact .intro _ _ h
  | ok sent => exact agree_reprime o h sent

theorem blind_retire : Blind retire := by
  intro c o s s' h
  have hflush := agree_flush c o h
  unfold retire
  generalize flush c s o = out, flush c s' o = out' at hflush
  obtain ⟨r, o, h⟩ := hflush
  cases r with
  | error cause => exact .intro _ _ h
  | ok sent =>
    simp only [← h.buffer_eq]
    split
    · exact .intro _ _ h
    · exact .intro _ _ h.release

/-! ## Work on all lanes -/

/-- Lanes that are alike, channel by channel. -/
abbrev AllAlike : List Serializer → List Serializer → Prop := List.Forall₂ Serializer.Alike

variable {lanes lanes' : List Serializer} {step : ChannelId → Serializer → Outlet → LaneResult Unit}

theorem AllAlike.refl (lanes : List Serializer) : AllAlike lanes lanes :=
  List.forall₂_same.2 fun lane _ => Serializer.Alike.refl lane

theorem agree_sweep (hstep : Blind step) (i : Nat) (h : AllAlike lanes lanes') :
    Agree AllAlike (sweep step i lanes o) (sweep step i lanes' o) := by
  induction h generalizing i o with
  | nil => exact .intro _ _ .nil
  | @cons s s' lanes lanes' hs hlanes ih =>
    have hfirst := hstep (ChannelId.ofNat i) o s s' hs
    unfold sweep
    generalize step (ChannelId.ofNat i) s o = out, step (ChannelId.ofNat i) s' o = out' at hfirst
    obtain ⟨r, o, hs⟩ := hfirst
    cases r with
    | error e => exact .intro _ _ (List.Forall₂.cons hs hlanes)
    | ok _ =>
      have hrest := ih o (i + 1)
      dsimp only
      generalize sweep step (i + 1) lanes o = out, sweep step (i + 1) lanes' o = out' at hrest
      obtain ⟨r, o, hlanes⟩ := hrest
      exact .intro _ _ (List.Forall₂.cons hs hlanes)

theorem agree_sweepAll (hstep : Blind step) (i : Nat) (h : AllAlike lanes lanes') :
    Agree AllAlike (sweepAll step i lanes o) (sweepAll step i lanes' o) := by
  induction h generalizing i o with
  | nil => exact .intro _ _ .nil
  | @cons s s' lanes lanes' hs hlanes ih =>
    have hfirst := hstep (ChannelId.ofNat i) o s s' hs
    unfold sweepAll
    generalize step (ChannelId.ofNat i) s o = out, step (ChannelId.ofNat i) s' o = out' at hfirst
    obtain ⟨r, o, hs⟩ := hfirst
    have hrest := ih o (i + 1)
    dsimp only
    generalize sweepAll step (i + 1) lanes o = out, sweepAll step (i + 1) lanes' o = out' at hrest
    obtain ⟨rest, o, hlanes⟩ := hrest
    exact .intro _ _ (List.Forall₂.cons hs hlanes)

/-- Cleared lanes are the same if they were alike. -/
theorem clearAll_eq_of_alike (h : AllAlike lanes lanes') (pool : Pool) :
    clearAll lanes pool = clearAll lanes' pool := by
  induction h generalizing pool with
  | nil => rfl
  | @cons s s' lanes lanes' hs hlanes ih =>
    unfold clearAll clear
    rw [hs.buffer_eq]
    cases s'.buffer with
    | none => simp only [ih, Serializer.clear]
    | some b => simp only [ih, Serializer.clear]

end Lane

namespace Writer

open Lane

variable {lanes lanes' : List Serializer}

theorem alike_laneOf (h : AllAlike lanes lanes') (c : ChannelId) :
    (laneOf lanes c).Alike (laneOf lanes' c) := by
  unfold laneOf
  generalize c.toNat = i
  induction h generalizing i with
  | nil => exact .refl _
  | cons hs _ ih =>
    cases i with
    | zero => exact hs
    | succ i => exact ih i

theorem allAlike_set (h : AllAlike lanes lanes') (i : Nat) {s s' : Serializer} (hs : s.Alike s') :
    AllAlike (lanes.set i s) (lanes'.set i s') := by
  induction h generalizing i with
  | nil => exact .nil
  | cons hfirst hrest ih =>
    cases i with
    | zero => exact .cons hs hrest
    | succ i => exact .cons hfirst (ih i)

/-- One lane in the place of another that it is alike. -/
theorem allAlike_set_self {c : ChannelId} {s : Serializer} (hs : (laneOf lanes c).Alike s) :
    AllAlike lanes (lanes.set c.toNat s) := by
  have hset := allAlike_set (.refl lanes) c.toNat hs
  by_cases hc : c.toNat < lanes.length
  · rwa [laneOf, List.getElem?_eq_getElem hc, Option.getD_some, List.set_getElem_self] at hset
  · rw [List.set_eq_of_length_le (Nat.le_of_not_lt hc)]
    exact .refl lanes

/-- **Serving a frame to some targets** does the same for lanes that are alike. -/
theorem agree_serve (frame : Except RecordError ByteArray) (targets : List ChannelId)
    (h : AllAlike lanes lanes') (o : Outlet) :
    (serve frame targets lanes o).1 = (serve frame targets lanes' o).1 ∧
      Agree AllAlike (serve frame targets lanes o).2 (serve frame targets lanes' o).2 := by
  induction targets generalizing lanes lanes' o with
  | nil => exact ⟨rfl, .intro _ _ h⟩
  | cons first targets ih =>
    obtain ⟨haccepted, hfirst⟩ := Lane.agree_serve first o frame (alike_laneOf h first)
    rw [serve_cons, serve_cons]
    generalize Lane.serve first frame (laneOf lanes first) o = out,
      Lane.serve first frame (laneOf lanes' first) o = out' at haccepted hfirst
    obtain ⟨accepted, out⟩ := out
    obtain ⟨accepted', out'⟩ := out'
    obtain rfl : accepted = accepted' := haccepted
    obtain ⟨r, o, hs⟩ := hfirst
    have hset := allAlike_set h first.toNat hs
    cases r with
    | error e => exact ⟨rfl, .intro _ _ hset⟩
    | ok _ =>
      obtain ⟨hothers, hrest⟩ := ih hset o
      exact ⟨congrArg (first :: ·) hothers, hrest⟩

/-! ## Operations and runs -/

variable {σ : Type} {w w' : Writer σ}

/-- **Writers that are alike**: the lanes of the second are alike those of the first, and all else
is the same. -/
inductive Alike (w : Writer σ) : Writer σ → Prop where
  | intro {lanes : List Serializer} : AllAlike w.lanes lanes → Alike w { w with lanes := lanes }

theorem Alike.refl (w : Writer σ) : w.Alike w :=
  .intro (.refl w.lanes)

theorem Alike.outlet_eq (h : w.Alike w') : w'.outlet = w.outlet := by
  obtain ⟨_⟩ := h
  rfl

theorem Alike.backup_eq (h : w.Alike w') : w'.backup = w.backup := by
  obtain ⟨_⟩ := h
  rfl

theorem Alike.lane (h : w.Alike w') (c : ChannelId) : (w.lane c).Alike (w'.lane c) := by
  obtain ⟨hlanes⟩ := h
  exact alike_laneOf hlanes c

/-- The same result, and writers that are alike. -/
def Tallies (out out' : Except WriterError Unit × Writer σ) : Prop :=
  out.1 = out'.1 ∧ out.2.Alike out'.2

theorem tallies_emitTo (h : w.Alike w') (frame : Except RecordError ByteArray)
    (superstep : Option Superstep) (targets : List ChannelId) :
    Tallies (w.emitTo frame superstep targets) (w'.emitTo frame superstep targets) := by
  obtain @⟨lanes, hlanes⟩ := h
  have hwidth : Writer.width { w with lanes := lanes } = w.width := hlanes.length_eq.symm
  unfold emitTo
  rw [hwidth]
  cases checkSelection targets w.width with
  | error e => exact ⟨rfl, .intro hlanes⟩
  | ok _ =>
    obtain ⟨haccepted, hserved⟩ := agree_serve frame targets hlanes w.outlet
    dsimp only
    generalize serve frame targets w.lanes w.outlet = out, serve frame targets lanes w.outlet = out'
      at haccepted hserved
    obtain ⟨accepted, out⟩ := out
    obtain ⟨accepted', out'⟩ := out'
    obtain rfl : accepted = accepted' := haccepted
    obtain ⟨r, o, hlanes⟩ := hserved
    cases r with
    | error e => exact ⟨rfl, .intro hlanes⟩
    | ok _ => exact ⟨rfl, .intro hlanes⟩

variable {s : Schema} [ChannelSelector σ s.Value]

theorem tallies_emit (h : w.Alike w') (record : s.Value) (superstep : Option Superstep) :
    Tallies (w.emit s record superstep) (w'.emit s record superstep) := by
  obtain @⟨lanes, hlanes⟩ := h
  have hroute := @route_congr σ s.Value _ w { w with lanes := lanes } rfl hlanes.length_eq.symm rfl
    record superstep
  unfold emit
  rw [hroute]
  show Tallies (if w.closed then _ else _) (if w.closed then _ else _)
  split
  · exact ⟨rfl, .intro hlanes⟩
  · rcases w.route record superstep with ⟨_ | _ | targets, selector⟩
    · exact ⟨rfl, .intro hlanes⟩
    · exact ⟨rfl, .intro hlanes⟩
    · have hrouted : Alike { w with selector := selector }
          { w with lanes := lanes, selector := selector } := .intro hlanes
      exact tallies_emitTo hrouted _ superstep targets

theorem tallies_flush (h : w.Alike w') : Tallies w.flush w'.flush := by
  obtain @⟨lanes, hlanes⟩ := h
  have hswept := agree_sweepAll w.outlet blind_retire 0 hlanes
  unfold flush
  dsimp only
  generalize sweepAll retire 0 w.lanes w.outlet = out, sweepAll retire 0 lanes w.outlet = out'
    at hswept
  obtain ⟨r, o, hlanes⟩ := hswept
  exact ⟨rfl, .intro hlanes⟩

/-- Clearing makes writers the same that are alike. -/
theorem Alike.clear (h : w.Alike w') : w.clear = w'.clear := by
  obtain ⟨hlanes⟩ := h
  unfold Writer.clear
  rw [clearAll_eq_of_alike hlanes]

theorem tallies_broadcast (h : w.Alike w') (e : Event) :
    Tallies (w.broadcast e) (w'.broadcast e) := by
  obtain @⟨lanes, hlanes⟩ := h
  have hswept := agree_sweep w.outlet (blind_sendEvent e) 0 hlanes
  unfold broadcast
  show Tallies (if w.closed then _ else _) (if w.closed then _ else _)
  split
  · exact ⟨rfl, .intro hlanes⟩
  · dsimp only
    generalize sweep (sendEvent e) 0 w.lanes w.outlet = out,
      sweep (sendEvent e) 0 lanes w.outlet = out' at hswept
    obtain ⟨r, o, hlanes⟩ := hswept
    exact ⟨rfl, .intro hlanes⟩

theorem tallies_endSuperstep (h : w.Alike w') : Tallies w.endSuperstep w'.endSuperstep := by
  obtain @⟨lanes, hlanes⟩ := h
  have hswept := agree_sweep w.outlet blind_endSuperstep 0 hlanes
  unfold endSuperstep
  show Tallies (if w.closed then _ else _) (if w.closed then _ else _)
  split
  · exact ⟨rfl, .intro hlanes⟩
  · dsimp only
    generalize sweep Lane.endSuperstep 0 w.lanes w.outlet = out,
      sweep Lane.endSuperstep 0 lanes w.outlet = out' at hswept
    obtain ⟨r, o, hlanes⟩ := hswept
    cases r with
    | error e => exact ⟨rfl, .intro hlanes⟩
    | ok _ => exact ⟨rfl, .intro hlanes⟩

theorem tallies_close (h : w.Alike w') : Tallies w.close w'.close := by
  have hclosed : w'.closed = w.closed := by
    obtain ⟨_⟩ := h
    rfl
  have hbegun : Alike { w with closed := true } { w' with closed := true } := by
    obtain ⟨hlanes⟩ := h
    exact .intro hlanes
  unfold close
  rw [hclosed]
  split
  · exact ⟨rfl, h⟩
  · obtain ⟨hresult, hlast⟩ := tallies_flush hbegun
    refine ⟨hresult, ?_⟩
    show Alike (Writer.clear _).2 (Writer.clear _).2
    rw [hlast.clear]
    exact .refl _

/-- **No operation tells writers apart that are alike.** -/
theorem Alike.perform (h : w.Alike w') (op : Operation s.Value) :
    Tallies (w.perform s op) (w'.perform s op) := by
  cases op with
  | emit record superstep => exact tallies_emit h record superstep
  | broadcast e => exact tallies_broadcast h e
  | endSuperstep => exact tallies_endSuperstep h
  | flush => exact tallies_flush h
  | close => exact tallies_close h
  | clear =>
    refine ⟨rfl, ?_⟩
    show w.clear.2.Alike w'.clear.2
    rw [h.clear]
    exact .refl _
  | drop =>
    refine ⟨rfl, ?_⟩
    show w.drop.Alike w'.drop
    rw [drop, h.clear, ← drop]
    exact .refl _
  | turn t =>
    obtain ⟨hlanes⟩ := h
    exact ⟨rfl, .intro hlanes⟩

/-- They report the same. -/
theorem Alike.report_eq (h : w.Alike w') (op : Operation s.Value) :
    w.report s op = w'.report s op := by
  have hresult := (h.perform op).1
  cases op with
  | clear =>
    rw [report, report, hresult, h.clear]
  | emit _ _ | broadcast _ | endSuperstep | flush | close | drop | turn _ =>
    exact congrArg (·, none) hresult

/-- **No run tells writers apart that are alike**: all that it reports is the same. -/
theorem Alike.run (h : w.Alike w') (ops : List (Operation s.Value)) :
    along s (fun w op => [w.report s op]) w ops = along s (fun w op => [w.report s op]) w' ops ∧
      (w.run s ops).Alike (w'.run s ops) := by
  induction ops generalizing w w' with
  | nil => exact ⟨rfl, h⟩
  | cons op ops ih =>
    obtain ⟨hreports, hlast⟩ := ih (h.perform op).2
    refine ⟨?_, hlast⟩
    rw [along, along, h.report_eq op, hreports]

end Writer

end Fanout
