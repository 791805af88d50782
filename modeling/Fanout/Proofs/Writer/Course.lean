import Fanout.Proofs.Writer.Calls
import Fanout.Writer.Lane

/-!
# The course of a channel

All that concerns one channel are the offers that were made on it and the bytes that its lane has
accepted and not sent (`Side`). As long as no buffer is refused a channel takes its *smooth* course:
frames are accepted behind the unsent bytes, buffers are sent from the front of them, and a mark is
sent when there are none. A refused buffer ends the course, and the operation with it.

* `Smooth.carries` — what is delivered and what is unsent carry the script, on every smooth course.
* `Works` — what a piece of work on a lane comes to: calls on its channel and a course of it.
-/

namespace Fanout

namespace Serializer

/-- The bytes that were accepted and not sent: those in the held buffer, then those that wait for
one. -/
def unsent (s : Serializer) : List UInt8 := s.held ++ octets s.pending

theorem octets_pending (s : Serializer) : octets s.pending = (octets s.frame).drop s.position := by
  rw [pending, octets_extract, ← length_octets]
  exact List.take_of_length_le (Nat.le_of_eq List.length_drop)

/-- Nothing is pending where no bytes are. -/
theorem hasPending_eq_false_iff {s : Serializer} :
    s.hasPending = false ↔ octets s.pending = [] := by
  rw [octets_pending, List.drop_eq_nil_iff, length_octets, hasPending, decide_eq_false_iff_not,
    Nat.not_lt]

theorem held_of_buffer {s : Serializer} {b : Buffer} (h : s.buffer = some b) :
    s.held = b.contents := by
  rw [held, h]

theorem held_of_none {s : Serializer} (h : s.buffer = none) : s.held = [] := by
  rw [held, h]

theorem unsent_of_none {s : Serializer} (h : s.buffer = none) : s.unsent = octets s.pending := by
  rw [unsent, held_of_none h, List.nil_append]

/-- **Copying moves bytes and loses none**: those that the buffer takes are the first ones that
waited for it. -/
@[simp] theorem unsent_copy (s : Serializer) : s.copy.2.unsent = s.unsent := by
  unfold copy
  cases hb : s.buffer with
  | none => rfl
  | some b =>
    show (b.append s.pending).contents ++ octets (pending { s with position := _, buffer := _ }) = _
    -- what the buffer accepts is what the position moves by
    rw [octets_pending]
    show _ ++ (octets s.frame).drop (s.position + b.accepted s.pending) = _
    rw [Buffer.contents_append, unsent, held_of_buffer hb, List.append_assoc, ← List.drop_drop,
      ← octets_pending, List.take_append_drop]

/-- An empty buffer in the place of one that holds nothing. -/
theorem unsent_install {s : Serializer} {b : Buffer} (hs : s.held = []) (hb : b.contents = []) :
    (s.install b).2.unsent = s.unsent := by
  rw [install, unsent_copy, unsent, held_of_buffer rfl, hb, unsent, hs]
  rfl

theorem unsent_release (s : Serializer) : s.release.unsent = octets s.pending :=
  unsent_of_none rfl

end Serializer

/-- What concerns one channel. -/
structure Side where
  offers : List Offer
  unsent : List UInt8

/-- The smooth courses of a channel, each with the script that it plays. -/
inductive Smooth (c : ChannelId) (start : Side) : List (Entry (List UInt8)) → Side → Prop where
  | refl : Smooth c start [] start
  | accept {script : List (Entry (List UInt8))} {a : Side} (frame : List UInt8) :
    Smooth c start script a →
    Smooth c start (script ++ [.record frame]) ⟨a.offers, a.unsent ++ frame⟩
  | send {script : List (Entry (List UInt8))} {offers : List Offer} {unsent : List UInt8}
    (b : Buffer) : Smooth c start script ⟨offers, b.contents ++ unsent⟩ →
    Smooth c start script ⟨offers ++ [⟨c, .buffer b, true⟩], unsent⟩
  | mark {script : List (Entry (List UInt8))} {offers : List Offer} (m : Mark) :
    Smooth c start script ⟨offers, []⟩ →
    Smooth c start (script ++ [.mark m]) ⟨offers ++ [⟨c, m.delivery, true⟩], []⟩
  | decline {script : List (Entry (List UInt8))} {a : Side} (m : Mark) :
    Smooth c start script a →
    Smooth c start script ⟨a.offers ++ [⟨c, m.delivery, false⟩], a.unsent⟩

namespace Smooth

variable {c : ChannelId} {a b d : Side} {script script' : List (Entry (List UInt8))}

theorem trans (h : Smooth c a script b) (h' : Smooth c b script' d) :
    Smooth c a (script ++ script') d := by
  induction h' with
  | refl => rwa [List.append_nil]
  | accept frame _ ih =>
    rw [← List.append_assoc]
    exact ih.accept frame
  | send b _ ih => exact ih.send b
  | mark m _ ih =>
    rw [← List.append_assoc]
    exact ih.mark m
  | decline m _ ih => exact ih.decline m

/-- **The deliveries and the unsent bytes carry the script**, and go on to do so. -/
theorem carries (h : Smooth c a script b) {before : List (Entry (List UInt8))}
    (ha : Carries before (takenOf a.offers) a.unsent) :
    Carries (before ++ script) (takenOf b.offers) b.unsent := by
  induction h with
  | refl => rwa [List.append_nil]
  | accept frame _ ih =>
    rw [← List.append_assoc]
    exact ih.record frame
  | send b _ ih =>
    rw [takenOf_append, takenOf_taken]
    exact ih.buffer b
  | mark m _ ih =>
    rw [takenOf_append, takenOf_taken, ← List.append_assoc]
    exact ih.mark m
  | decline m _ ih =>
    rw [takenOf_append, takenOf_refused, List.append_nil]
    exact ih

/-- Offers are only added. -/
theorem offers_isPrefix (h : Smooth c a script b) : a.offers <+: b.offers := by
  induction h with
  | refl => exact List.prefix_rfl
  | accept _ _ ih => exact ih
  | send _ _ ih | mark _ _ ih | decline _ _ ih => exact ih.trans (List.prefix_append _ _)

/-- No buffer is refused. -/
theorem taken (h : Smooth c a script b) (ha : ∀ buffer, ⟨c, .buffer buffer, false⟩ ∉ a.offers) :
    ∀ buffer, ⟨c, .buffer buffer, false⟩ ∉ b.offers := by
  induction h with
  | refl => exact ha
  | accept _ _ ih => exact ih
  | send _ _ ih => simpa using ih
  | mark m _ ih => cases m <;> simpa [Mark.delivery] using ih
  | decline m _ ih => cases m <;> simpa [Mark.delivery] using ih

end Smooth

/-- The course of a channel during a piece of work with a result, from one side to the offers and
the lane that it leaves. It is smooth, or the last thing that happened is that the partition refused
a buffer; then the lane has no buffer left. -/
inductive Course {α : Type} (c : ChannelId) (script : List (Entry (List UInt8))) (start : Side) :
    Except WriterError α → List Offer → Serializer → Prop where
  | smooth {offers : List Offer} {lane : Serializer} (r : Except WriterError α) :
    Smooth c start script ⟨offers, lane.unsent⟩ → Course c script start r offers lane
  | refused {offers : List Offer} {lane : Serializer} {b : Buffer} (e : WriterError) :
    Smooth c start script ⟨offers, b.contents ++ lane.unsent⟩ → lane.buffer = none →
    Course c script start (.error e) (offers ++ [⟨c, .buffer b, false⟩]) lane

namespace Course

variable {α : Type} {c : ChannelId} {script : List (Entry (List UInt8))} {start : Side}
  {offers : List Offer} {lane : Serializer}

theorem offers_isPrefix {r : Except WriterError α} (h : Course c script start r offers lane) :
    start.offers <+: offers := by
  cases h with
  | smooth _ h => exact h.offers_isPrefix
  | refused _ h _ => exact h.offers_isPrefix.trans (List.prefix_append _ _)

theorem smooth_of_ok {x : α} (h : Course c script start (.ok x) offers lane) :
    Smooth c start script ⟨offers, lane.unsent⟩ := by
  cases h with
  | smooth _ h => exact h

/-- Where no buffer was refused the course is smooth. -/
theorem smooth_of_taken {r : Except WriterError α} (h : Course c script start r offers lane)
    (htaken : ∀ b, ⟨c, .buffer b, false⟩ ∉ offers) :
    Smooth c start script ⟨offers, lane.unsent⟩ := by
  cases h with
  | smooth _ h => exact h
  | refused _ _ _ =>
    exact absurd (List.mem_append_right _ List.mem_cons_self) (htaken _)

/-- A course is smooth up to a refused buffer, if there is one. -/
theorem smooth_or_refused {r : Except WriterError α} (h : Course c script start r offers lane) :
    Smooth c start script ⟨offers, lane.unsent⟩ ∨
      ∃ earlier b e, offers = earlier ++ [⟨c, .buffer b, false⟩] ∧ r = .error e ∧
        lane.buffer = none ∧ Smooth c start script ⟨earlier, b.contents ++ lane.unsent⟩ := by
  cases h with
  | smooth _ h => exact .inl h
  | refused e h hlane => exact .inr ⟨_, _, e, rfl, rfl, hlane, h⟩

/-- A result that is an error at least as often. -/
theorem of_result {β : Type} {r : Except WriterError α} {r' : Except WriterError β}
    (h : Course c script start r offers lane) (hr : (∃ x, r' = .ok x) → ∃ x, r = .ok x) :
    Course c script start r' offers lane := by
  cases h with
  | smooth _ h => exact .smooth _ h
  | refused _ h hlane =>
    cases r' with
    | error e => exact .refused e h hlane
    | ok x =>
      obtain ⟨_, h⟩ := hr ⟨x, rfl⟩
      exact nomatch h

theorem trans {r : Except WriterError α} {b : Side} {script' : List (Entry (List UInt8))}
    (h : Smooth c start script b) (h' : Course c script' b r offers lane) :
    Course c (script ++ script') start r offers lane := by
  cases h' with
  | smooth _ h' => exact .smooth _ (h.trans h')
  | refused _ h' hlane => exact .refused _ (h.trans h') hlane

end Course

/-- **A piece of work on a lane**: calls of the outlet on the lane's channel only, and a course of
this channel. -/
structure Works {α : Type} (c : ChannelId) (script : List (Entry (List UInt8))) (s : Serializer)
    (o : Outlet) (out : LaneResult α) : Prop where
  uses : o.Uses c out.2.2
  course : Course c script ⟨o.partition.offersTo c, s.unsent⟩ out.1 (out.2.2.partition.offersTo c)
    out.2.1

namespace Works

variable {α β : Type} {c : ChannelId} {script script' : List (Entry (List UInt8))}
  {s s' : Serializer} {o o' : Outlet}

/-- Nothing was done. -/
theorem idle (c : ChannelId) (s : Serializer) (o : Outlet) (r : Except WriterError α) :
    Works c [] s o (r, s, o) := ⟨.refl o, .smooth r .refl⟩

theorem of_error {e : WriterError}
    (h : Works c script s o ((.error e, s', o') : LaneResult α)) :
    Works c script s o ((.error e, s', o') : LaneResult β) :=
  ⟨h.uses, h.course.of_result fun ⟨_, h⟩ => nomatch h⟩

/-- One piece of work after another that succeeded. -/
theorem trans {x : α} (h : Works c script s o (.ok x, s', o')) {out : LaneResult β}
    (h' : Works c script' s' o' out) : Works c (script ++ script') s o out :=
  ⟨h.uses.trans h'.uses, h'.course.trans h.course.smooth_of_ok⟩

end Works

end Fanout
