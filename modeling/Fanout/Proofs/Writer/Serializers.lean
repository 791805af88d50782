import Fanout.Proofs.Writer.Course

/-!
# Serializers on their own

A serializer under any calls in any order, not only those that lanes make. Copying reports exactly
whether the record is complete and whether another buffer is needed (`Progress.Exact`), and moves
what is pending into the held buffer, behind all that was there.

* `copy_exact` — what copying reports.
* `Session.Intact.written_copied` — copying moves bytes and loses none.
* `copies_exactly` — any calls: where the cursor is, what calls report, when frames are refused, and
  that the bytes in the successive buffers are those of the accepted frames.
-/

namespace Fanout

/-- **What is reported is exact**: whether anything is pending, and whether no room is left. -/
def Progress.Exact (p : Progress) (s : Serializer) : Prop :=
  (p.isComplete = true ↔ s.pendingSize = 0) ∧
    (p.needsBuffer = true ↔ ∀ b, s.buffer = some b → b.isFull = true)

namespace Serializer

variable {s : Serializer}

/-! ## Copying -/

theorem pendingSize_eq_zero_iff : s.pendingSize = 0 ↔ s.hasPending = false := by
  rw [← Bool.not_eq_true, hasPending_iff, Nat.not_lt, Nat.le_zero]

theorem exact_of_pending (h : s.hasPending = true)
    (hfull : ∀ b, s.buffer = some b → b.isFull = true) : Progress.recordPending.Exact s := by
  refine ⟨iff_of_false Bool.false_ne_true fun hnone => ?_, iff_of_true rfl hfull⟩
  exact Bool.false_ne_true ((pendingSize_eq_zero_iff.1 hnone).symm.trans h)

theorem exact_of_full (h : s.hasPending = false)
    (hfull : ∀ b, s.buffer = some b → b.isFull = true) :
    Progress.recordCopiedBufferFull.Exact s :=
  ⟨iff_of_true rfl (pendingSize_eq_zero_iff.2 h), iff_of_true rfl hfull⟩

theorem exact_of_room (h : s.hasPending = false) {b : Buffer} (hb : s.buffer = some b)
    (hroom : b.isFull = false) : Progress.recordCopied.Exact s := by
  refine ⟨iff_of_true rfl (pendingSize_eq_zero_iff.2 h), iff_of_false Bool.false_ne_true ?_⟩
  exact fun hfull => Bool.false_ne_true (hroom.symm.trans (hfull b hb))

/-- A buffer that does not take all is full afterwards. -/
theorem isFull_append {b : Buffer} {data : ByteArray} (h : b.accepted data < data.size) :
    (b.append data).isFull = true := by
  have hall : b.accepted data = b.remaining := by
    rw [Buffer.accepted] at h ⊢
    omega
  rw [Buffer.isFull, Buffer.remaining_append, hall, Nat.sub_self]
  rfl

/-- **Copying reports exactly** what it comes to. -/
theorem copy_exact (s : Serializer) : s.copy.1.Exact s.copy.2 := by
  unfold copy
  split
  · rename_i hnone
    have hfull : ∀ b, s.buffer = some b → b.isFull = true := fun b hb => nomatch hnone.symm.trans hb
    by_cases hpending : s.hasPending = true
    · rw [if_pos hpending]
      exact exact_of_pending hpending hfull
    · rw [if_neg hpending]
      exact exact_of_full (Bool.eq_false_iff.2 hpending) hfull
  · rename_i b _
    dsimp only
    generalize hafter : ({ s with
      position := s.position + b.accepted s.pending
      buffer := some (b.append s.pending) } : Serializer) = after
    have hbuffer : after.buffer = some (b.append s.pending) := by rw [← hafter]
    by_cases hpending : after.hasPending = true
    · rw [if_pos hpending]
      refine exact_of_pending hpending fun b' hb' => ?_
      obtain rfl := Option.some.inj (hbuffer.symm.trans hb')
      refine isFull_append ?_
      rw [← hafter] at hpending
      have hbehind := of_decide_eq_true hpending
      dsimp only at hbehind
      rw [size_pending, pendingSize]
      omega
    · rw [if_neg hpending]
      have hnone := Bool.eq_false_iff.2 hpending
      by_cases hfull : (b.append s.pending).isFull = true
      · rw [if_pos hfull]
        refine exact_of_full hnone fun b' hb' => ?_
        rw [← Option.some.inj (hbuffer.symm.trans hb')]
        exact hfull
      · rw [if_neg hfull]
        exact exact_of_room hnone hbuffer (Bool.eq_false_iff.2 hfull)

/-- The cursor stays in the frame. -/
theorem position_copy_le (h : s.position ≤ s.frame.size) :
    s.copy.2.position ≤ s.copy.2.frame.size := by
  unfold copy
  split
  · exact h
  · rename_i b _
    have hfits : b.accepted s.pending ≤ s.pending.size := Nat.min_le_left _ _
    rw [size_pending, pendingSize] at hfits
    show s.position + b.accepted s.pending ≤ s.frame.size
    omega

/-- **The ways of adding a frame.** -/
inductive Added (s : Serializer) (frame : Except RecordError ByteArray) :
    Except WriterError Progress × Serializer → Prop where
  | refused : s.hasPending = true →
    Added s frame (.error (.illegalState (.previousPending s.pendingSize)), s)
  | unencoded {cause : RecordError} : s.hasPending = false → frame = .error cause →
    Added s frame (.error (.serialization cause), { s with frame := .empty, position := 0 })
  | copied {bytes : ByteArray} {begun : Serializer} : s.hasPending = false → frame = .ok bytes →
    begun = { s with frame := bytes, position := 0 } →
    Added s frame (.ok begun.copy.1, begun.copy.2)

theorem add_added (s : Serializer) (frame : Except RecordError ByteArray) :
    s.Added frame (s.add frame) := by
  unfold add
  by_cases hpending : s.hasPending = true
  · rw [if_pos hpending]
    exact .refused hpending
  · rw [if_neg hpending]
    have hnone := Bool.eq_false_iff.2 hpending
    cases frame with
    | error cause => exact .unencoded hnone rfl
    | ok bytes => exact .copied hnone rfl rfl

/-! ## Calls -/

/-- A use of a serializer by its owner. -/
inductive Call where
  | addRecord (t : Schema) (record : t.Value)
  | addFrame (frame : ByteArray)
  | install (b : Buffer)
  | take
  | clear

/-- The frame that a call adds, or why there is none. -/
def Call.frame? : Call → Option (Except RecordError ByteArray)
  | addRecord t record => some ((encodeRecord t record).map pack)
  | addFrame frame => some (.ok frame)
  | install _ | take | clear => none

/-- The frame that a call added, by what it reported. -/
def Call.accepted (call : Call) (report : Option (Except WriterError Progress)) :
    List (List UInt8) :=
  match call.frame?, report with
  | some (.ok frame), some (.ok _) => [octets frame]
  | _, _ => []

/-- What a call reports, if it is one that copies, and the serializer afterwards. -/
def perform (s : Serializer) : Call → Option (Except WriterError Progress) × Serializer
  | .addRecord t record => (s.add ((encodeRecord t record).map pack)).map some id
  | .addFrame frame => (s.add (.ok frame)).map some id
  | .install b => (s.install b).map (fun progress => some (.ok progress)) id
  | .take => (none, s.release)
  | .clear => (none, s.clear)

theorem perform_of_frame {call : Call} {frame : Except RecordError ByteArray}
    (h : call.frame? = some frame) :
    s.perform call = (some (s.add frame).1, (s.add frame).2) := by
  cases call with
  | addRecord t record | addFrame frame =>
    obtain rfl := Option.some.inj h
    rfl
  | install _ | take | clear => exact nomatch h

/-- Whatever a call reports is exact. -/
theorem perform_exact {call : Call} {progress : Progress}
    (h : (s.perform call).1 = some (.ok progress)) : progress.Exact (s.perform call).2 := by
  have hadd (frame : Except RecordError ByteArray) (h : (s.add frame).1 = .ok progress) :
      progress.Exact (s.add frame).2 := by
    have hadded := s.add_added frame
    generalize s.add frame = out at h hadded
    cases hadded with
    | refused _ | unencoded _ _ => exact nomatch h
    | copied _ _ _ =>
      obtain rfl := Except.ok.inj h
      exact copy_exact _
  cases call with
  | addRecord t record => exact hadd _ (Option.some.inj h)
  | addFrame frame => exact hadd (.ok frame) (Option.some.inj h)
  | install b =>
    obtain rfl := Except.ok.inj (Option.some.inj h)
    exact copy_exact { s with buffer := some b }
  | take | clear => exact nomatch h

/-- **A frame is refused** while bytes are pending, and at no other time. -/
theorem perform_of_adds {call : Call} (h : call.frame?.isSome = true) :
    ((∃ cause, (s.perform call).1 = some (.error (.illegalState cause))) ↔ s.pendingSize ≠ 0) ∧
      (s.pendingSize ≠ 0 → s.perform call =
        (some (.error (.illegalState (.previousPending s.pendingSize))), s)) := by
  obtain ⟨frame, hframe⟩ := Option.isSome_iff_exists.1 h
  have hadded := s.add_added frame
  rw [perform_of_frame hframe, ne_eq, pendingSize_eq_zero_iff]
  generalize s.add frame = out at hadded
  cases hadded with
  | refused hpending =>
    have hnot : ¬s.hasPending = false := fun hnone => Bool.false_ne_true (hnone.symm.trans hpending)
    exact ⟨iff_of_true ⟨_, rfl⟩ hnot, fun _ => rfl⟩
  | unencoded hnone _ | copied hnone _ _ =>
    refine ⟨iff_of_false ?_ (not_not_intro hnone), fun hpending => absurd hnone hpending⟩
    rintro ⟨cause, hcause⟩
    exact nomatch Option.some.inj hcause

theorem position_perform_le (h : s.position ≤ s.frame.size) (call : Call) :
    (s.perform call).2.position ≤ (s.perform call).2.frame.size := by
  have hadd (frame : Except RecordError ByteArray) :
      (s.add frame).2.position ≤ (s.add frame).2.frame.size := by
    have hadded := s.add_added frame
    generalize s.add frame = out at hadded
    cases hadded with
    | refused _ => exact h
    | unencoded _ _ => exact Nat.le_refl 0
    | copied _ _ hbegun => exact position_copy_le (hbegun ▸ Nat.zero_le _)
  cases call with
  | addRecord t record => exact hadd _
  | addFrame frame => exact hadd (.ok frame)
  | install b => exact position_copy_le (s := { s with buffer := some b }) h
  | take => exact h
  | clear => exact Nat.le_refl 0

/-! ## The bytes in the buffers -/

/-- What was appended to a buffer since it was as before. -/
def appended (before now : Buffer) : List UInt8 := now.contents.drop before.size

/-- A serializer that somebody uses: the held buffer as it came, the buffers that were taken, as
they came and as they went, and the frames that were accepted. -/
structure Session where
  serializer : Serializer
  came : Option Buffer
  taken : List (Buffer × Buffer)
  accepted : List (List UInt8)

namespace Session

variable {t : Session}

def start : Session := ⟨Serializer.start, none, [], []⟩

/-- The held buffer, as it came and as it is. -/
def held (t : Session) : List (Buffer × Buffer) :=
  match t.came, t.serializer.buffer with
  | some before, some now => [(before, now)]
  | _, _ => []

/-- The successive buffers: those that were taken, and the one that is held. -/
def buffers (t : Session) : List (Buffer × Buffer) := t.taken ++ t.held

/-- The bytes that were appended to the successive buffers. -/
def written (t : Session) : List UInt8 :=
  (t.buffers.map fun entry => appended entry.1 entry.2).flatten

def perform (t : Session) (call : Call) : Session :=
  let (report, s) := t.serializer.perform call
  { serializer := s
    came := match call with
      | .addRecord _ _ | .addFrame _ => t.came
      | .install b => some b
      | .take | .clear => none
    taken := match call with
      | .take => t.buffers
      | .addRecord _ _ | .addFrame _ | .install _ | .clear => t.taken
    accepted := t.accepted ++ call.accepted report }

def run (t : Session) (calls : List Call) : Session := calls.foldl perform t

/-- Copying what is pending. -/
def copied (t : Session) : Session := { t with serializer := t.serializer.copy.2 }

/-- **The steps of a session.** -/
inductive Steps (t : Session) : Call → Session → Prop where
  | refused {call : Call} : Steps t call t
  | unencoded {call : Call} : t.serializer.hasPending = false →
    Steps t call { t with serializer := ⟨.empty, 0, t.serializer.buffer⟩ }
  | copied {call : Call} {bytes : ByteArray} : t.serializer.hasPending = false →
    Steps t call (Session.copied { t with
      serializer := ⟨bytes, 0, t.serializer.buffer⟩
      accepted := t.accepted ++ [octets bytes] })
  | installed (b : Buffer) : Steps t (.install b)
    (Session.copied { t with
      serializer := { t.serializer with buffer := some b }
      came := some b })
  | taken : Steps t .take
    { t with serializer := t.serializer.release, came := none, taken := t.buffers }
  | cleared : Steps t .clear { t with serializer := Serializer.start, came := none }

theorem perform_steps (t : Session) (call : Call) : t.Steps call (t.perform call) := by
  have hadd {frame : Except RecordError ByteArray} (hframe : call.frame? = some frame) :
      t.Steps call { t with
        serializer := (t.serializer.add frame).2
        accepted := t.accepted ++ call.accepted (some (t.serializer.add frame).1) } := by
    have hadded := t.serializer.add_added frame
    generalize t.serializer.add frame = out at hadded
    unfold Call.accepted
    rw [hframe]
    cases hadded with
    | refused hpending =>
      cases frame <;> simp only [List.append_nil] <;> exact .refused
    | unencoded hnone hcause =>
      subst hcause
      simp only [List.append_nil]
      exact .unencoded hnone
    | copied hnone hbytes hbegun =>
      subst hbytes hbegun
      exact .copied hnone
  have hnothing : t.accepted ++ [] = t.accepted := List.append_nil _
  cases call with
  | addRecord r record => exact hadd rfl
  | addFrame frame => exact hadd rfl
  | install b =>
    show t.Steps _ ⟨_, _, _, t.accepted ++ []⟩
    rw [hnothing]
    exact .installed b
  | take =>
    show t.Steps _ ⟨_, _, _, t.accepted ++ []⟩
    rw [hnothing]
    exact .taken
  | clear =>
    show t.Steps _ ⟨_, _, _, t.accepted ++ []⟩
    rw [hnothing]
    exact .cleared

/-! ## What sessions keep -/

/-- **Buffers only grow** between their installation and now, and a buffer is held exactly if one
came. -/
structure Intact (t : Session) : Prop where
  came_iff : t.came.isSome = t.serializer.buffer.isSome
  grown : ∀ entry ∈ t.buffers,
    entry.1.contents <+: entry.2.contents ∧ entry.2.capacity = entry.1.capacity

theorem held_eq {before now : Buffer} (hcame : t.came = some before)
    (hnow : t.serializer.buffer = some now) : t.held = [(before, now)] := by
  rw [held, hcame, hnow]

/-- The held buffer, if there is one, as it came and as it is. -/
theorem Intact.cases (h : t.Intact) :
    t.serializer.buffer = none ∨ ∃ before now, t.came = some before ∧
      t.serializer.buffer = some now ∧ before.contents <+: now.contents ∧
        now.capacity = before.capacity := by
  have hcame := h.came_iff
  cases hnow : t.serializer.buffer with
  | none => exact .inl rfl
  | some now =>
    rw [hnow] at hcame
    obtain ⟨before, hbefore⟩ := Option.isSome_iff_exists.1 hcame
    have hgrown := h.grown (before, now)
    rw [buffers, held_eq hbefore hnow] at hgrown
    have hheld := hgrown (List.mem_append_right _ (List.mem_singleton_self _))
    exact .inr ⟨before, now, hbefore, rfl, hheld⟩

theorem written_of_held {before now : Buffer} (hcame : t.came = some before)
    (hnow : t.serializer.buffer = some now) :
    t.written = (t.taken.map fun entry => appended entry.1 entry.2).flatten ++
      appended before now := by
  rw [written, buffers, held_eq hcame hnow, List.map_append, List.flatten_append,
    List.map_singleton, List.flatten_singleton]

theorem copied_of_none (h : t.serializer.buffer = none) : t.copied = t := by
  unfold copied copy
  rw [h]

theorem copied_of_some {b : Buffer} (h : t.serializer.buffer = some b) :
    t.copied.serializer.buffer = some (b.append t.serializer.pending) ∧
      octets t.copied.serializer.pending =
        (octets t.serializer.pending).drop (b.accepted t.serializer.pending) := by
  rw [octets_pending, octets_pending, List.drop_drop]
  unfold copied copy
  rw [h]
  exact ⟨rfl, rfl⟩

theorem Intact.copied (h : t.Intact) : t.copied.Intact := by
  obtain hnone | ⟨before, now, hcame, hnow, hprefix, hcapacity⟩ := h.cases
  · rw [copied_of_none hnone]
    exact h
  · obtain ⟨hbuffer, -⟩ := copied_of_some hnow
    refine ⟨?_, fun entry hentry => ?_⟩
    · show t.came.isSome = _
      rw [hcame, hbuffer]
      rfl
    · rw [buffers, held_eq (t := t.copied) hcame hbuffer] at hentry
      rcases List.mem_append.1 hentry with htaken | hheld
      · exact h.grown entry (List.mem_append_left _ htaken)
      · obtain rfl := List.mem_singleton.1 hheld
        refine ⟨?_, hcapacity⟩
        rw [Buffer.contents_append]
        exact hprefix.trans (List.prefix_append _ _)

/-- **Copying moves bytes and loses none**, seen from the buffers. -/
theorem Intact.written_copied (h : t.Intact) :
    t.copied.written ++ octets t.copied.serializer.pending =
      t.written ++ octets t.serializer.pending := by
  obtain hnone | ⟨before, now, hcame, hnow, hprefix, -⟩ := h.cases
  · rw [copied_of_none hnone]
  · obtain ⟨hbuffer, hpending⟩ := copied_of_some hnow
    have happended : appended before (now.append t.serializer.pending) = appended before now ++
        (octets t.serializer.pending).take (now.accepted t.serializer.pending) := by
      rw [appended, Buffer.contents_append]
      exact List.drop_append_of_le_length hprefix.length_le
    rw [written_of_held (t := t.copied) hcame hbuffer, written_of_held hcame hnow, hpending,
      happended]
    simp only [List.append_assoc, List.take_append_drop]
    rfl

/-- The bytes in the buffers and those that wait for one are those of the accepted frames. -/
def Flows (t : Session) : Prop :=
  t.written ++ octets t.serializer.pending = t.accepted.flatten

theorem Intact.flows_copied (h : t.Intact) (hflows : t.Flows) : t.copied.Flows :=
  h.written_copied.trans hflows

/-- Nothing was appended to a buffer that holds nothing. -/
theorem Intact.written_of_empty (h : t.Intact) (hempty : t.serializer.held = []) :
    t.written = (t.taken.map fun entry => appended entry.1 entry.2).flatten := by
  obtain hnone | ⟨before, now, hcame, hnow, -⟩ := h.cases
  · have hheld : t.held = [] := by
      unfold held
      rw [hnone]
      cases t.came <;> rfl
    rw [written, buffers, hheld, List.append_nil]
  · rw [held_of_buffer hnow] at hempty
    rw [written_of_held hcame hnow, appended, hempty, List.drop_nil, List.append_nil]

/-- The calls with which bytes are lost. -/
def Loses (t : Session) : Call → Prop
  | .install _ => t.serializer.held ≠ []
  | .clear => True
  | .addRecord _ _ | .addFrame _ | .take => False

instance (t : Session) : DecidablePred t.Loses
  | .install _ => inferInstanceAs (Decidable (t.serializer.held ≠ []))
  | .clear => .isTrue trivial
  | .addRecord _ _ | .addFrame _ | .take => .isFalse id

theorem Intact.installed (h : t.Intact) (b : Buffer) :
    Intact { t with serializer := { t.serializer with buffer := some b }, came := some b } := by
  refine ⟨rfl, fun entry hentry => ?_⟩
  rcases List.mem_append.1 hentry with htaken | hheld
  · exact h.grown entry (List.mem_append_left _ htaken)
  · obtain rfl := List.mem_singleton.1 hheld
    exact ⟨List.prefix_rfl, rfl⟩

theorem Intact.perform (h : t.Intact) (call : Call) : (t.perform call).Intact := by
  have hsteps := t.perform_steps call
  generalize t.perform call = t' at hsteps
  cases hsteps with
  | refused => exact h
  | unencoded _ => exact ⟨h.came_iff, h.grown⟩
  | copied _ => exact Intact.copied ⟨h.came_iff, h.grown⟩
  | installed b => exact (h.installed b).copied
  | taken =>
    refine ⟨rfl, fun entry hentry => h.grown entry ?_⟩
    rwa [buffers, held, List.append_nil] at hentry
  | cleared =>
    refine ⟨rfl, fun entry hentry => h.grown entry (List.mem_append_left _ ?_)⟩
    rwa [buffers, held, List.append_nil] at hentry

theorem Intact.flows_perform (h : t.Intact) {call : Call} (hflows : t.Flows)
    (hloses : ¬t.Loses call) : (t.perform call).Flows := by
  have hsteps := t.perform_steps call
  generalize t.perform call = t' at hsteps
  cases hsteps with
  | refused => exact hflows
  | unencoded hnone =>
    unfold Flows at hflows ⊢
    rw [hasPending_eq_false_iff.1 hnone] at hflows
    exact hflows
  | @copied _ bytes hnone =>
    refine Intact.flows_copied ⟨h.came_iff, h.grown⟩ ?_
    unfold Flows at hflows ⊢
    rw [hasPending_eq_false_iff.1 hnone, List.append_nil] at hflows
    rw [octets_pending, List.flatten_append, ← hflows, List.flatten_singleton]
    rfl
  | installed b =>
    refine (h.installed b).flows_copied ?_
    unfold Flows at hflows ⊢
    rw [h.written_of_empty (not_not.1 hloses)] at hflows
    rw [written_of_held rfl rfl, appended, ← Buffer.length_contents, List.drop_length,
      List.append_nil]
    exact hflows
  | taken =>
    unfold Flows at hflows ⊢
    rw [← hflows, written, buffers, held, List.append_nil]
    rfl
  | cleared => exact absurd trivial hloses

/-- None of the calls loses bytes where it is made. -/
def Keeps : Session → List Call → Prop
  | _, [] => True
  | t, call :: calls => ¬t.Loses call ∧ Keeps (t.perform call) calls

instance decidableKeeps : (t : Session) → (calls : List Call) → Decidable (t.Keeps calls)
  | _, [] => .isTrue trivial
  | t, call :: calls =>
    have := decidableKeeps (t.perform call) calls
    inferInstanceAs (Decidable (¬t.Loses call ∧ Keeps (t.perform call) calls))

theorem Intact.run (h : t.Intact) (calls : List Call) : (t.run calls).Intact := by
  induction calls generalizing t with
  | nil => exact h
  | cons call calls ih => exact ih (h.perform call)

theorem Intact.flows_run (h : t.Intact) (hflows : t.Flows) {calls : List Call}
    (hkeeps : t.Keeps calls) : (t.run calls).Flows := by
  induction calls generalizing t with
  | nil => exact hflows
  | cons call calls ih =>
    exact ih (h.perform call) (h.flows_perform hflows hkeeps.1) hkeeps.2

theorem intact_start : start.Intact := ⟨rfl, List.forall_mem_nil _⟩

theorem position_run_le (h : t.serializer.position ≤ t.serializer.frame.size) (calls : List Call) :
    (t.run calls).serializer.position ≤ (t.run calls).serializer.frame.size := by
  induction calls generalizing t with
  | nil => exact h
  | cons call calls ih => exact ih (position_perform_le h call)

end Session

/-- **A serializer copies exactly.** After any calls in any order:

* the cursor is in the frame,
* whatever the next call reports is exact,
* a frame is refused while bytes are pending, which changes nothing, and at no other time,
* every buffer still begins with what it came with, and, if no call gave bytes up, what was
  appended to the buffers and then what is pending are the frames that were accepted. -/
theorem copies_exactly (calls : List Call) :
    let t := Session.start.run calls
    let s := t.serializer
    s.position ≤ s.frame.size ∧
    (∀ call progress, (s.perform call).1 = some (.ok progress) →
      progress.Exact (s.perform call).2) ∧
    (∀ call : Call, call.frame?.isSome = true →
      ((∃ cause, (s.perform call).1 = some (.error (.illegalState cause))) ↔ s.pendingSize ≠ 0) ∧
      (s.pendingSize ≠ 0 → s.perform call =
        (some (.error (.illegalState (.previousPending s.pendingSize))), s))) ∧
    (∀ entry ∈ t.buffers,
      entry.1.contents <+: entry.2.contents ∧ entry.2.capacity = entry.1.capacity) ∧
    (Session.start.Keeps calls → t.written ++ octets s.pending = t.accepted.flatten) := by
  intro t s
  have hintact : t.Intact := Session.intact_start.run calls
  refine ⟨Session.position_run_le (t := .start) (Nat.le_refl 0) calls,
    fun call progress h => perform_exact h, fun call h => perform_of_adds h, hintact.grown,
    Session.intact_start.flows_run rfl⟩

/-! A small case: a frame that comes before there is a buffer, in one that was begun and in a new
one, and an empty frame behind it. -/

theorem copies_exactly_small :
    let begun : Buffer := ⟨4, ⟨#[9]⟩, by decide⟩
    let t := Session.start.run [.addFrame ⟨#[1, 2, 3, 4, 5]⟩, .install begun, .take,
      .addFrame ⟨#[6]⟩, .install (Buffer.fresh 3), .addFrame .empty]
    t.buffers.map (fun entry => entry.2.contents) = [[9, 1, 2, 3], [4, 5]] ∧
      t.accepted = [[1, 2, 3, 4, 5], []] ∧
      t.written ++ octets t.serializer.pending = t.accepted.flatten := by
  intro begun t
  obtain ⟨-, -, -, -, hflows⟩ := copies_exactly [.addFrame ⟨#[1, 2, 3, 4, 5]⟩, .install begun,
    .take, .addFrame ⟨#[6]⟩, .install (Buffer.fresh 3), .addFrame .empty]
  exact ⟨by decide +kernel, by decide +kernel, hflows (by decide +kernel)⟩

end Serializer

end Fanout
