import Fanout.Proofs.Writer.Course

/-!
# Work on lanes

What each step of a lane comes to, as a course of its channel: the script that it plays is the frame
that it accepted or the mark that it sent, if any. A lane on which bytes are pending refuses every
step and stays as it is (`fenced`).

* `refill_works` — the loop that sends full buffers and asks for others.
* `serve_works`, `sendEvent_works`, `endSuperstep_works`, `retire_works` — the steps.
-/

namespace Fanout

namespace Lane

variable (c : ChannelId) (s : Serializer) (o : Outlet)

/-! ## Buffers -/

theorem buffer_surrender : (surrender c s o).2.1.buffer = none := by
  unfold surrender
  split
  · assumption
  · rfl

/-- Giving a buffer up sends what is in it, unless it is refused. -/
theorem forward_works {b : Buffer} (hb : s.buffer = some b) :
    Works c [] s o ((o.forward c b).1, s.release, (o.forward c b).2) := by
  refine ⟨(Outlet.Uses.refl o).forward b, ?_⟩
  have hunsent : s.unsent = b.contents ++ s.release.unsent := by
    rw [Serializer.unsent, Serializer.held_of_buffer hb, Serializer.unsent_release]
  have hforward := o.forward_forwarded c b
  rcases hout : o.forward c b with ⟨r, last⟩
  rw [hout] at hforward
  cases hforward with
  | unsent hempty h =>
    refine .smooth _ ?_
    rw [Partition.offersTo_congr h, hunsent, hempty]
    exact .refl
  | taken h =>
    refine .smooth _ ?_
    rw [Partition.offersTo_of_push h, hunsent]
    exact Smooth.refl.send b
  | refused e h =>
    rw [Partition.offersTo_of_push h, hunsent]
    exact .refused e .refl rfl

theorem surrender_works : Works c [] s o (surrender c s o) := by
  unfold surrender
  cases hb : s.buffer with
  | none => exact .idle c s o _
  | some b => exact forward_works c s o hb

/-- A buffer is asked for and nothing is done with it yet. -/
theorem request_works {α : Type} (r : Except WriterError α) :
    Works c [] s o (r, s, o.request.2) := by
  refine ⟨(Outlet.Uses.refl o).request, .smooth _ ?_⟩
  rw [Partition.offersTo_congr o.offers_request]
  exact .refl

/-- A buffer was lent to a lane that holds none with anything in it. -/
theorem install_works {α : Type} (hs : s.held = []) (r : Except WriterError α) :
    Works c [] s o (r, (s.install o.pool.lent).2, o) := by
  refine ⟨.refl o, .smooth _ ?_⟩
  show Smooth c _ [] ⟨_, (s.install o.pool.lent).2.unsent⟩
  rw [Serializer.unsent_install hs o.pool.contents_lent]
  exact .refl

/-- One round of refilling: the held buffer is sent and the bytes that wait go to another. -/
theorem granted_works {emptied next : Serializer} {sent granted : Outlet} {progress : Progress}
    (hs : surrender c s o = (.ok (), emptied, sent)) (hrequest : sent.request = (.ok (), granted))
    (hinstall : emptied.install granted.pool.lent = (progress, next)) :
    Works c [] s o ((.ok (), next, granted) : LaneResult Unit) := by
  have hsurrender := surrender_works c s o
  have hheld := Serializer.held_of_none (buffer_surrender c s o)
  rw [hs] at hsurrender hheld
  have hrequested := request_works c emptied sent (.ok () : Except WriterError Unit)
  rw [hrequest] at hrequested
  have hinstalled := install_works c emptied granted hheld (.ok () : Except WriterError Unit)
  rw [hinstall] at hinstalled
  exact hsurrender.trans (hrequested.trans hinstalled)

/-- **Refilling** sends buffers and takes others, until nothing waits for one. -/
theorem refill_works : Works c [] s o (refill c s o) := by
  -- the bytes that wait move into buffers round by round; every round is a smooth course
  fun_induction refill c s o with
  | case1 s o e s' o' hs =>
    rw [← hs]
    exact surrender_works c s o
  | case2 s o emptied sent hs e o' hrequest =>
    have hsurrender := surrender_works c s o
    rw [hs] at hsurrender
    have hrequested := request_works c emptied sent (.error e : Except WriterError Unit)
    rw [hrequest] at hrequested
    exact hsurrender.trans hrequested
  | case3 s o emptied sent hs granted hrequest progress next hinstall _ ih =>
    exact (granted_works c s o hs hrequest hinstall).trans ih
  | case4 s o emptied sent hs granted hrequest progress next hinstall _ =>
    exact granted_works c s o hs hrequest hinstall

/-! ## Steps -/

/-- The script of a frame that was served. -/
def servedScript (frame : Except RecordError ByteArray) (accepted : Bool) :
    List (Entry (List UInt8)) :=
  match frame, accepted with
  | .ok frame, true => [.record (octets frame)]
  | _, _ => []

theorem servedScript_refused (frame : Except RecordError ByteArray) :
    servedScript frame false = [] := by
  cases frame <;> rfl

/-- A lane without pending bytes takes a new frame behind what it holds. -/
theorem unsent_newFrame {s : Serializer} (hs : s.hasPending = false) (frame : ByteArray) :
    Serializer.unsent { s with frame := frame, position := 0 } = s.unsent ++ octets frame := by
  rw [Serializer.unsent, Serializer.octets_pending, Serializer.unsent,
    Serializer.hasPending_eq_false_iff.1 hs, List.append_nil]
  rfl

theorem accept_works (hs : s.hasPending = false) (frame : ByteArray) :
    Works c [.record (octets frame)] s o
      ((.ok (), (Serializer.copy { s with frame := frame, position := 0 }).2, o) :
        LaneResult Unit) := by
  refine ⟨.refl o, .smooth _ ?_⟩
  show Smooth c _ _ ⟨_, (Serializer.copy _).2.unsent⟩
  rw [Serializer.unsent_copy, unsent_newFrame hs]
  exact Smooth.refl.accept (octets frame)

/-- **Serving** a frame plays it if the lane accepts it. -/
theorem serve_works (frame : Except RecordError ByteArray) :
    Works c (servedScript frame (serve c frame s o).1) s o (serve c frame s o).2 := by
  unfold serve Serializer.add
  by_cases hs : s.hasPending = true
  · rw [if_pos hs]
    show Works c (servedScript frame false) s o _
    rw [servedScript_refused]
    exact .idle c s o _
  · rw [if_neg hs]
    have hs := Bool.eq_false_iff.2 hs
    cases frame with
    | error cause =>
      refine ⟨.refl o, .smooth _ ?_⟩
      show Smooth c _ [] ⟨_, Serializer.unsent _⟩
      rw [unsent_newFrame hs, octets_empty, List.append_nil]
      exact .refl
    | ok frame =>
      -- the frame is accepted before it is copied; a request for a buffer may still fail then
      have haccept := accept_works c s o hs frame
      rcases hcopy : Serializer.copy { s with frame := frame, position := 0 } with ⟨progress, s'⟩
      rw [hcopy] at haccept
      simp only [hcopy, servedScript]
      by_cases hp : progress.needsBuffer = true
      · rw [if_pos hp]
        exact haccept.trans (refill_works c s' o)
      · rw [if_neg hp]
        exact haccept

/-- A lane that serves a frame without an error has accepted it. -/
theorem serve_accepts (frame : Except RecordError ByteArray)
    (h : (serve c frame s o).2.1 = .ok ()) :
    (serve c frame s o).1 = true ∧ ∃ bytes, frame = .ok bytes := by
  unfold serve Serializer.add at h ⊢
  by_cases hs : s.hasPending = true
  · rw [if_pos hs] at h
    exact nomatch h
  · rw [if_neg hs] at h ⊢
    cases frame with
    | error cause => exact nomatch h
    | ok bytes => exact ⟨rfl, bytes, rfl⟩

/-- What flushing a lane comes to: it is refused while bytes are pending, there is nothing to do if
nothing is held, and else the buffer is given up. -/
inductive Flushed (c : ChannelId) (s : Serializer) (o : Outlet) : LaneResult Bool → Prop where
  | fenced (e : WriterError) : s.hasPending = true → Flushed c s o (.error e, s, o)
  | idle : s.hasPending = false → s.held = [] → Flushed c s o (.ok false, s, o)
  | sent {b : Buffer} : s.hasPending = false → s.buffer = some b → b.contents ≠ [] →
    Flushed c s o ((o.forward c b).1.map fun _ => true, s.release, (o.forward c b).2)

theorem flush_flushed : Flushed c s o (flush c s o) := by
  unfold flush
  by_cases hs : s.hasPending = true
  · rw [if_pos hs]
    exact .fenced _ hs
  · rw [if_neg hs]
    have hs := Bool.eq_false_iff.2 hs
    cases hb : s.buffer with
    | none => exact .idle hs (Serializer.held_of_none hb)
    | some b =>
      show Flushed c s o (if b.isEmpty then _ else _)
      by_cases hempty : b.isEmpty = true
      · rw [if_pos hempty]
        exact .idle hs ((Serializer.held_of_buffer hb).trans (b.isEmpty_iff.1 hempty))
      · rw [if_neg hempty]
        exact .sent hs hb (mt b.isEmpty_iff.2 hempty)

theorem flush_works : Works c [] s o (flush c s o) := by
  have hflushed := flush_flushed c s o
  generalize flush c s o = out at hflushed
  cases hflushed with
  | fenced e _ => exact .idle c s o _
  | idle _ _ => exact .idle c s o _
  | @sent b _ hb _ =>
    have hforward := forward_works c s o hb
    rcases hout : o.forward c b with ⟨r, o'⟩
    rw [hout] at hforward
    cases r with
    | error e => exact hforward.of_error
    | ok _ => exact ⟨hforward.uses, .smooth _ hforward.course.smooth_of_ok⟩

/-- After a flush nothing is unsent. -/
theorem unsent_flush {sent : Bool} (h : (flush c s o).1 = .ok sent) :
    (flush c s o).2.1.unsent = [] := by
  have hflushed := flush_flushed c s o
  generalize flush c s o = out at h hflushed
  cases hflushed with
  | fenced e _ => exact nomatch h
  | idle hs hheld =>
    exact List.append_eq_nil_iff.2 ⟨hheld, Serializer.hasPending_eq_false_iff.1 hs⟩
  | sent hs _ _ =>
    exact (Serializer.unsent_release s).trans (Serializer.hasPending_eq_false_iff.1 hs)

/-- A buffer for a lane that has nothing unsent. -/
theorem prime_works (hs : s.unsent = []) : Works c [] s o (prime s o) := by
  have hrequested (r : Except WriterError Unit) := request_works c s o r
  have hheld : s.held = [] := (List.append_eq_nil_iff.1 hs).1
  unfold prime
  rcases hout : o.request with ⟨r, o'⟩
  rw [hout] at hrequested
  cases r with
  | error e => exact hrequested _
  | ok _ => exact (hrequested (.ok ())).trans (install_works c s o' hheld _)

/-- After a flush that sent something a lane gets another buffer, else it is left as it is. -/
theorem reprime_works (hs : s.unsent = []) (sent : Bool) :
    Works c [] s o (if sent then prime s o else (.ok (), s, o)) := by
  cases sent with
  | true => exact prime_works c s o hs
  | false => exact .idle c s o _

theorem unsent_prime {s : Serializer} {o : Outlet} (hs : s.unsent = []) (sent : Bool) :
    (if sent then prime s o else (.ok (), s, o)).2.1.unsent = [] := by
  cases sent with
  | true =>
    have hheld : s.held = [] := (List.append_eq_nil_iff.1 hs).1
    show (prime s o).2.1.unsent = []
    unfold prime
    rcases o.request with ⟨r, o'⟩
    cases r with
    | error e => exact hs
    | ok _ => exact (Serializer.unsent_install hheld (Pool.contents_lent _)).trans hs
  | false => exact hs

theorem endSuperstep_works : Works c [] s o (endSuperstep c s o) := by
  have hflush := flush_works c s o
  have hunsent (sent : Bool) (h : (flush c s o).1 = .ok sent) := unsent_flush c s o h
  unfold endSuperstep
  rcases hout : flush c s o with ⟨r, s', o'⟩
  rw [hout] at hflush hunsent
  cases r with
  | error e => exact hflush.of_error
  | ok sent => exact hflush.trans (reprime_works c s' o' (hunsent sent rfl) sent)

/-- At the end of a superstep nothing is unsent. -/
theorem unsent_endSuperstep (h : (endSuperstep c s o).1 = .ok ()) :
    (endSuperstep c s o).2.1.unsent = [] := by
  have hunsent (sent : Bool) (h : (flush c s o).1 = .ok sent) := unsent_flush c s o h
  unfold endSuperstep at h ⊢
  rcases hout : flush c s o with ⟨r, s', o'⟩
  rw [hout] at hunsent h
  cases r with
  | error e => exact nomatch h
  | ok sent => exact unsent_prime (hunsent sent rfl) sent

/-- **Sending an event** plays its mark if the event is taken, and if it succeeds it was. -/
theorem sendEvent_works (e : Event) : ∃ script, Works c script s o (sendEvent e c s o) ∧
    (script = [] ∨ script = [.mark (.event e)]) ∧
    ((sendEvent e c s o).1 = .ok () → script = [.mark (.event e)]) := by
  have hflush := flush_works c s o
  have hunsent (sent : Bool) (h : (flush c s o).1 = .ok sent) := unsent_flush c s o h
  unfold sendEvent
  rcases hout : flush c s o with ⟨r, s', o'⟩
  rw [hout] at hflush hunsent
  cases r with
  | error cause => exact ⟨[], hflush.of_error, .inl rfl, by simp⟩
  | ok sent =>
    have hs' := hunsent sent rfl
    have hnoted := o'.sendEvent_noted c e
    have huses := (Outlet.Uses.refl (c := c) o').sendEvent e
    rcases hsend : o'.sendEvent c e with ⟨r, last⟩
    rw [hsend] at hnoted huses
    simp only [hsend]
    cases hnoted with
    | refused cause h =>
      refine ⟨[], hflush.trans ⟨huses, .smooth _ ?_⟩, .inl rfl, by simp⟩
      rw [Partition.offersTo_of_push h]
      exact Smooth.refl.decline (.event e)
    | taken h =>
      -- the flush left nothing unsent, so the mark stands between two frames
      have hmark : Works c [.mark (.event e)] s' o' ((.ok (), s', last) : LaneResult Unit) := by
        refine ⟨huses, .smooth _ ?_⟩
        rw [Partition.offersTo_of_push h]
        show Smooth c ⟨_, s'.unsent⟩ _ ⟨_, s'.unsent⟩
        rw [hs']
        exact Smooth.refl.mark (.event e)
      exact ⟨[.mark (.event e)], hflush.trans (hmark.trans (reprime_works c s' last hs' sent)),
        .inr rfl, fun _ => rfl⟩

/-- Behind an event nothing is unsent. -/
theorem unsent_sendEvent (e : Event) (h : (sendEvent e c s o).1 = .ok ()) :
    (sendEvent e c s o).2.1.unsent = [] := by
  have hunsent (sent : Bool) (h : (flush c s o).1 = .ok sent) := unsent_flush c s o h
  unfold sendEvent at h ⊢
  rcases hout : flush c s o with ⟨r, s', o'⟩
  rw [hout] at hunsent
  simp only [hout] at h ⊢
  cases r with
  | error cause => cases h
  | ok sent =>
    rcases hsent : o'.sendEvent c e with ⟨_ | _, last⟩
    · simp only [hsent] at h
      cases h
    · simp only [hsent]
      exact unsent_prime (hunsent sent rfl) sent

theorem retire_works : Works c [] s o (retire c s o) := by
  have hflush := flush_works c s o
  have hunsent (sent : Bool) (h : (flush c s o).1 = .ok sent) := unsent_flush c s o h
  unfold retire
  rcases hout : flush c s o with ⟨r, s', o'⟩
  rw [hout] at hflush hunsent
  cases r with
  | error e => exact hflush.of_error
  | ok sent =>
    have hs' := hunsent sent rfl
    cases hb : s'.buffer with
    | none =>
      simp only [hb]
      exact hflush.trans (.idle c s' o' _)
    | some b =>
      -- the buffer is empty after the flush, so nothing is lost with it
      have hdiscard : Works c [] s' o' ((.ok (), s'.release, o'.discard b) : LaneResult Unit) := by
        refine ⟨(Outlet.Uses.refl o').discard b, .smooth _ ?_⟩
        show Smooth c ⟨_, s'.unsent⟩ [] ⟨_, s'.release.unsent⟩
        rw [Serializer.unsent_release, hs', (List.append_eq_nil_iff.1 hs').2]
        exact .refl
      simp only [hb]
      exact hflush.trans hdiscard

/-- A lane that was retired has nothing unsent. -/
theorem unsent_retire (h : (retire c s o).1 = .ok ()) : (retire c s o).2.1.unsent = [] := by
  have hunsent (sent : Bool) (h : (flush c s o).1 = .ok sent) := unsent_flush c s o h
  unfold retire at h ⊢
  rcases hout : flush c s o with ⟨r, s', o'⟩
  rw [hout] at hunsent h
  cases r with
  | error e => exact nomatch h
  | ok sent =>
    have hs' := hunsent sent rfl
    cases hb : s'.buffer with
    | none =>
      simp only [hb]
      exact hs'
    | some b =>
      simp only [hb]
      exact (Serializer.unsent_release s').trans (List.append_eq_nil_iff.1 hs').2

/-! ## Fences -/

/-- A lane step that a lane with pending bytes refuses, and which then changes nothing. -/
def Fenced {α : Type} (s : Serializer) (o : Outlet) (out : LaneResult α) : Prop :=
  ∃ e, out = (.error e, s, o)

variable {c s o}

theorem fenced_serve (hs : s.hasPending = true) (frame : Except RecordError ByteArray) :
    (serve c frame s o).1 = false ∧ Fenced s o (serve c frame s o).2 := by
  unfold serve Serializer.add
  rw [if_pos hs]
  exact ⟨rfl, _, rfl⟩

theorem fenced_flush (hs : s.hasPending = true) : Fenced s o (flush c s o) := ⟨_, if_pos hs⟩

theorem fenced_sendEvent (hs : s.hasPending = true) (e : Event) :
    Fenced s o (sendEvent e c s o) := by
  obtain ⟨cause, hflush⟩ := fenced_flush (c := c) (o := o) hs
  unfold sendEvent
  rw [hflush]
  exact ⟨cause, rfl⟩

theorem fenced_endSuperstep (hs : s.hasPending = true) : Fenced s o (endSuperstep c s o) := by
  obtain ⟨cause, hflush⟩ := fenced_flush (c := c) (o := o) hs
  unfold endSuperstep
  rw [hflush]
  exact ⟨cause, rfl⟩

theorem fenced_retire (hs : s.hasPending = true) : Fenced s o (retire c s o) := by
  obtain ⟨cause, hflush⟩ := fenced_flush (c := c) (o := o) hs
  unfold retire
  rw [hflush]
  exact ⟨cause, rfl⟩

/-- A lane without a buffer has nothing to flush: retiring it changes nothing. -/
theorem retire_of_none (hb : s.buffer = none) :
    ∃ r, retire c s o = (r, s, o) ∧ (s.hasPending = false → r = .ok ()) := by
  by_cases hs : s.hasPending = true
  · obtain ⟨e, h⟩ := fenced_retire (c := c) (o := o) hs
    exact ⟨_, h, fun hsettled => absurd hs (Bool.eq_false_iff.1 hsettled)⟩
  · refine ⟨.ok (), ?_, fun _ => rfl⟩
    unfold retire flush
    rw [if_neg hs]
    simp only [hb]

end Lane

end Fanout
