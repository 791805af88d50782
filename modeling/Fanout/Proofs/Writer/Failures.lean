import Fanout.Proofs.Recovery.Shutting
import Fanout.Proofs.Writer.Dealings
import Fanout.Proofs.Writer.Likeness

/-!
# Failed emissions

A record that cannot be encoded and a selection that is out of range leave a writer as it was, apart
from its selector (`Harmless`). Any other failure of an open writer ends the service of a frame at
one of its targets (`StopsAt`): the targets before it were served, those behind it were not looked
at.

* `Smooth.bytes_eq` — on a smooth course a channel's bytes grow by the frames that it accepts.
* `StopsAt.kept_or_refused` — a target that was served keeps the frame, unless it is selected again
  and its buffer is refused then.
* `emit_failure` — what a failed emission leaves behind.
-/

namespace Fanout

/-- The failures of an emission after which the writer is as it was before. -/
def WriterError.Harmless : WriterError → Prop
  | .serialization _ | .channelOutOfRange _ _ => True
  | _ => False

instance : DecidablePred WriterError.Harmless := fun e => by
  unfold WriterError.Harmless
  split <;> infer_instance

/-! ## Calls that fail -/

theorem Outlet.not_harmless_forward (o : Outlet) (c : ChannelId) (b : Buffer) {e : WriterError}
    (h : (o.forward c b).1 = .error e) : ¬ e.Harmless := by
  unfold forward at h
  split at h
  · cases h
  · split at h
    · cases h
    · cases h
      exact id

theorem Outlet.not_harmless_request (o : Outlet) {e : WriterError}
    (h : o.request.1 = .error e) : ¬ e.Harmless := by
  have hrequest (cause : RequestError) : ¬ (WriterError.ofRequest cause).Harmless := by
    cases cause <;> exact id
  unfold request at h
  dsimp only at h
  split at h
  · cases h
    exact id
  · cases h
  · split at h
    · cases h
      exact hrequest _
    · split at h
      · cases h
        exact hrequest _
      · cases h

namespace Lane

variable {c : ChannelId} {s : Serializer} {o : Outlet} {e : WriterError}

theorem not_harmless_surrender (h : (surrender c s o).1 = .error e) : ¬ e.Harmless := by
  unfold surrender at h
  split at h
  · cases h
  · exact o.not_harmless_forward c _ h

theorem not_harmless_refill (h : (refill c s o).1 = .error e) : ¬ e.Harmless := by
  fun_induction refill c s o with
  | case1 s o cause emptied sent hs =>
    exact not_harmless_surrender (c := c) (s := s) (o := o) (hs ▸ h)
  | case2 s o emptied sent hs cause o' hrequest => exact sent.not_harmless_request (hrequest ▸ h)
  | case3 s o emptied sent hs granted hrequest progress next hinstall hp ih => exact ih h
  | case4 s o emptied sent hs granted hrequest progress next hinstall hp => cases h

/-- A frame fails without harm only if there is none; the lane is then alike what it was. -/
theorem serve_of_harmless {frame : Except RecordError ByteArray}
    (h : (serve c frame s o).2.1 = .error e) (he : e.Harmless) :
    (∃ cause, frame = .error cause) ∧ (serve c frame s o).1 = false ∧
      s.Alike (serve c frame s o).2.2.1 ∧ (serve c frame s o).2.2.2 = o := by
  unfold serve Serializer.add at h ⊢
  by_cases hs : s.hasPending = true
  · rw [if_pos hs] at h
    cases h
    exact he.elim
  · rw [if_neg hs] at h ⊢
    cases frame with
    | error cause =>
      -- what the lane forgets of its last frame is in buffers
      have hnone := Serializer.hasPending_eq_false_iff.1 (Bool.eq_false_iff.2 hs)
      refine ⟨⟨cause, rfl⟩, rfl, ⟨rfl, ?_⟩, rfl⟩
      rw [← pack_octets s.pending, hnone]
      rfl
    | ok frame =>
      rcases hcopy : Serializer.copy { s with frame := frame, position := 0 } with ⟨progress, s'⟩
      simp only [hcopy] at h
      split at h
      · exact absurd he (not_harmless_refill h)
      · cases h

/-! ## What a lane still owes -/

@[simp] theorem frame_copy (s : Serializer) : s.copy.2.frame = s.frame := by
  unfold Serializer.copy
  cases s.buffer <;> rfl

theorem frame_surrender (c : ChannelId) (s : Serializer) (o : Outlet) :
    (surrender c s o).2.1.frame = s.frame := by
  unfold surrender
  split <;> rfl

theorem frame_refill (c : ChannelId) (s : Serializer) (o : Outlet) :
    (refill c s o).2.1.frame = s.frame := by
  have hinstalled {emptied next : Serializer} {b : Buffer} {progress : Progress}
      (h : emptied.install b = (progress, next)) : next.frame = emptied.frame := by
    rw [← frame_copy { emptied with buffer := b }, ← Serializer.install, h]
  fun_induction refill c s o with
  | case1 s o e emptied sent hs =>
    rw [← frame_surrender c s o, hs]
  | case2 s o emptied sent hs e o' hrequest =>
    rw [← frame_surrender c s o, hs]
  | case3 s o emptied sent hs granted hrequest progress next hinstall hp ih =>
    rw [ih, hinstalled hinstall, ← frame_surrender c s o, hs]
  | case4 s o emptied sent hs granted hrequest progress next hinstall hp =>
    rw [hinstalled hinstall, ← frame_surrender c s o, hs]

/-- A lane without pending bytes accepts a frame and owes no more than that afterwards, also if it
fails. -/
theorem serve_settled (hs : s.hasPending = false) (frame : ByteArray) :
    (serve c (.ok frame) s o).1 = true ∧
      (serve c (.ok frame) s o).2.2.1.pendingSize ≤ frame.size := by
  have hle {t : Serializer} (ht : t.frame = frame) : t.pendingSize ≤ frame.size := by
    rw [← ht]
    exact Nat.sub_le _ _
  have hcopied := frame_copy { s with frame := frame, position := 0 }
  unfold serve Serializer.add
  rw [if_neg (Bool.eq_false_iff.1 hs)]
  rcases hcopy : Serializer.copy { s with frame := frame, position := 0 } with ⟨progress, s'⟩
  rw [hcopy] at hcopied
  simp only [hcopy]
  refine ⟨trivial, ?_⟩
  split
  · exact hle ((frame_refill c s' o).trans hcopied)
  · exact hle hcopied

end Lane

/-! ## Bytes of a channel -/

/-- The bytes of a channel that were sent or are to be. -/
def Side.bytes (a : Side) : List UInt8 := bytesOf (takenOf a.offers) ++ a.unsent

/-- **On a smooth course** the bytes of a channel grow by the frames that it plays. -/
theorem Smooth.bytes_eq {c : ChannelId} {a b : Side} {script : List (Entry (List UInt8))}
    (h : Smooth c a script b) : b.bytes = a.bytes ++ (recordsOf script).flatten := by
  induction h with
  | refl => exact (List.append_nil _).symm
  | accept frame _ ih =>
    rw [recordsOf_append, recordsOf_record, List.flatten_append, List.flatten_singleton,
      ← List.append_assoc, ← ih, Side.bytes, Side.bytes, List.append_assoc]
  | send b _ ih =>
    rw [← ih, Side.bytes, Side.bytes, takenOf_append, takenOf_taken, bytesOf_append, bytesOf_buffer,
      List.append_assoc]
  | mark m _ ih =>
    rw [recordsOf_append, recordsOf_mark, List.append_nil, ← ih, Side.bytes, Side.bytes,
      takenOf_append, takenOf_taken, bytesOf_append, bytesOf_mark, List.append_nil]
  | decline m _ ih =>
    rw [← ih, Side.bytes, Side.bytes, takenOf_append, takenOf_refused, List.append_nil]

/-- What is in front of some bytes is in front of fewer of them as well. -/
theorem isPrefix_of_append_eq {a b front back : List UInt8} (h : a ++ b = front ++ back)
    (hle : b.length ≤ back.length) : front <+: a := by
  have hlength := congrArg List.length h
  simp only [List.length_append] at hlength
  refine List.prefix_of_prefix_length_le ⟨back, h.symm⟩ (List.prefix_append a b) ?_
  omega

namespace Lane

/-- What a channel forwarded and still holds. -/
def kept (c : ChannelId) (s : Serializer) (o : Outlet) : List UInt8 :=
  bytesOf (o.partition.delivered c) ++ s.held

/-- The last that happened on a channel is that a buffer was refused; until then it had forwarded
these bytes, or they were in the buffer. -/
def Refused (c : ChannelId) (o o' : Outlet) (bytes : List UInt8) : Prop :=
  ∃ offers b, o'.partition.offersTo c = offers ++ [⟨c, .buffer b, false⟩] ∧
    o.partition.offersTo c <+: offers ∧ bytes <+: bytesOf (takenOf offers) ++ b.contents

variable {c : ChannelId} {s : Serializer} {o : Outlet}

theorem bytes_of_settled (hs : s.hasPending = false) :
    Side.bytes ⟨o.partition.offersTo c, s.unsent⟩ = kept c s o := by
  rw [Side.bytes, Serializer.unsent, Serializer.hasPending_eq_false_iff.1 hs, List.append_nil]
  rfl

/-- **A frame that fails takes nothing from those before it** on the channel, unless a buffer is
refused. -/
theorem kept_serve (hs : s.hasPending = false) (frame : ByteArray) :
    kept c s o <+: kept c (serve c (.ok frame) s o).2.2.1 (serve c (.ok frame) s o).2.2.2 ∨
      Refused c o (serve c (.ok frame) s o).2.2.2 (kept c s o) := by
  obtain ⟨haccepted, howed⟩ := serve_settled (c := c) (o := o) hs frame
  have hcourse := (serve_works c s o (.ok frame)).course
  rw [haccepted] at hcourse
  generalize (serve c (.ok frame) s o).2.1 = r, (serve c (.ok frame) s o).2.2.1 = lane,
    (serve c (.ok frame) s o).2.2.2 = last at hcourse howed
  -- all that waits of the frame is behind what was there before
  rw [← Serializer.size_pending, ← length_octets, ← length_octets] at howed
  have hframes : (recordsOf (servedScript (.ok frame) true)).flatten = octets frame :=
    List.append_nil _
  rcases hcourse.smooth_or_refused with hsmooth | ⟨offers, b, e, hoffers, -, hnone, hsmooth⟩
  · refine .inl (isPrefix_of_append_eq ?_ howed)
    rw [← hframes, ← bytes_of_settled hs, ← hsmooth.bytes_eq, Side.bytes, Serializer.unsent, kept,
      List.append_assoc]
    rfl
  · refine .inr ⟨offers, b, hoffers, hsmooth.offers_isPrefix, isPrefix_of_append_eq ?_ howed⟩
    rw [← hframes, ← bytes_of_settled hs, ← hsmooth.bytes_eq, Side.bytes,
      Serializer.unsent_of_none hnone, List.append_assoc]

end Lane

namespace Writer

variable {lanes : List Serializer} {o : Outlet} {frame : Except RecordError ByteArray}
  {earlier later targets : List ChannelId} {c : ChannelId} {e : WriterError}

/-! ## Where service ends -/

/-- **Service of a frame ends at a channel**: the targets before it were served, and it fails. -/
structure StopsAt (frame : Except RecordError ByteArray) (lanes : List Serializer) (o : Outlet)
    (earlier : List ChannelId) (c : ChannelId) (e : WriterError) : Prop where
  served : (serve frame earlier lanes o).2.1 = .ok ()
  failed : (Lane.serve c frame (laneOf (serve frame earlier lanes o).2.2.1 c)
    (serve frame earlier lanes o).2.2.2).2.1 = .error e

/-- Failed service stops at one of the targets. -/
theorem exists_stopsAt (h : (serve frame targets lanes o).2.1 = .error e) :
    ∃ earlier c later, targets = earlier ++ c :: later ∧ StopsAt frame lanes o earlier c e := by
  induction targets generalizing lanes o with
  | nil => cases h
  | cons first targets ih =>
    rw [serve_cons] at h
    rcases hout : Lane.serve first frame (laneOf lanes first) o with ⟨accepted, r, s, o'⟩
    rw [hout] at h
    cases r with
    | error cause =>
      refine ⟨[], first, targets, rfl, rfl, ?_⟩
      show (Lane.serve first frame (laneOf lanes first) o).2.1 = _
      rw [hout]
      exact h
    | ok _ =>
      obtain ⟨earlier, c, later, rfl, hserved, hfailed⟩ := ih h
      refine ⟨first :: earlier, c, later, rfl, ?_, ?_⟩
      · rw [serve_cons, hout]
        exact hserved
      · rw [serve_cons, hout]
        exact hfailed

theorem serve_append_of_ok (h : (serve frame earlier lanes o).2.1 = .ok ())
    (later : List ChannelId) : serve frame (earlier ++ later) lanes o =
      let mid := (serve frame earlier lanes o).2.2
      (earlier ++ (serve frame later mid.1 mid.2).1, (serve frame later mid.1 mid.2).2) := by
  induction earlier generalizing lanes o with
  | nil => rfl
  | cons first earlier ih =>
    rw [serve_cons] at h
    rw [List.cons_append, serve_cons, serve_cons]
    rcases hout : Lane.serve first frame (laneOf lanes first) o with ⟨accepted, r, s, o'⟩
    rw [hout] at h
    cases r with
    | error cause => cases h
    | ok _ =>
      simp only [ih h]
      rfl

theorem serve_cons_of_error (h : (Lane.serve c frame (laneOf lanes c) o).2.1 = .error e)
    (later : List ChannelId) : serve frame (c :: later) lanes o =
      let last := Lane.serve c frame (laneOf lanes c) o
      (if last.1 then [c] else [], .error e, lanes.set c.toNat last.2.2.1, last.2.2.2) := by
  rw [serve_cons]
  rcases hout : Lane.serve c frame (laneOf lanes c) o with ⟨accepted, r, s, o'⟩
  rw [hout] at h
  obtain rfl : r = .error e := h
  rfl

/-- **What failed service leaves**: the target at which it ends is the last one that was looked
at. -/
theorem StopsAt.serve_eq (h : StopsAt frame lanes o earlier c e) (later : List ChannelId) :
    let mid := (serve frame earlier lanes o).2.2
    let last := Lane.serve c frame (laneOf mid.1 c) mid.2
    serve frame (earlier ++ c :: later) lanes o =
      (earlier ++ (if last.1 then [c] else []), .error e, mid.1.set c.toNat last.2.2.1,
        last.2.2.2) := by
  have hlast := serve_cons_of_error h.failed later
  rw [serve_append_of_ok h.served]
  dsimp only
  rw [hlast]

/-- A channel that is not among the targets is left alone. -/
theorem serve_other (hc : c ∉ targets) :
    laneOf (serve frame targets lanes o).2.2.1 c = laneOf lanes c ∧
      (serve frame targets lanes o).2.2.2.partition.offersTo c = o.partition.offersTo c := by
  induction targets generalizing lanes o with
  | nil => exact ⟨rfl, rfl⟩
  | cons first targets ih =>
    obtain ⟨hne, hrest⟩ := not_or.1 (mt List.mem_cons.2 hc)
    have hne := Ne.symm hne
    have huses := (Lane.serve_works first (laneOf lanes first) o frame).uses
    rw [serve_cons]
    rcases hout : Lane.serve first frame (laneOf lanes first) o with ⟨accepted, r, s, o'⟩
    rw [hout] at huses
    have hoffers := huses.offersTo_other hne
    have hlane : laneOf (lanes.set first.toNat s) c = laneOf lanes c := laneOf_set_of_ne hne s
    cases r with
    | error cause => exact ⟨hlane, hoffers⟩
    | ok _ =>
      obtain ⟨hlater, hlast⟩ := @ih (lanes.set first.toNat s) o' hrest
      exact ⟨hlater.trans hlane, hlast.trans hoffers⟩

/-- A target that was served has nothing pending. -/
theorem settled_target (hc : c.toNat < lanes.length)
    (h : (serve frame targets lanes o).2.1 = .ok ()) (hmem : c ∈ targets) :
    (laneOf (serve frame targets lanes o).2.2.1 c).hasPending = false := by
  induction targets generalizing lanes o with
  | nil => cases hmem
  | cons first targets ih =>
    have hfirst := @Lane.hasPending_serve first (laneOf lanes first) o frame
    rw [serve_cons] at h ⊢
    rcases hout : Lane.serve first frame (laneOf lanes first) o with ⟨accepted, r, s, o'⟩
    rw [hout] at h hfirst
    cases r with
    | error cause => cases h
    | ok _ =>
      have hlength : c.toNat < (lanes.set first.toNat s).length := by rwa [List.length_set]
      by_cases hrest : c ∈ targets
      · exact ih hlength h hrest
      · -- it was served for the last time
        obtain rfl : c = first := (List.mem_cons.1 hmem).resolve_right hrest
        have hlane : laneOf (serve frame targets (lanes.set c.toNat s) o').2.2.1 c = s :=
          (serve_other hrest).1.trans (laneOf_set_self hc s)
        show (laneOf (serve frame targets (lanes.set c.toNat s) o').2.2.1 c).hasPending = false
        rw [hlane]
        exact hfirst rfl

/-- Service that ends without harm ends at the first target, and nothing was done. -/
theorem serve_of_harmless (h : (serve frame targets lanes o).2.1 = .error e) (he : e.Harmless) :
    (serve frame targets lanes o).1 = [] ∧ Lane.AllAlike lanes (serve frame targets lanes o).2.2.1 ∧
      (serve frame targets lanes o).2.2.2 = o := by
  obtain ⟨earlier, c, later, rfl, hstops⟩ := exists_stopsAt h
  obtain ⟨⟨cause, rfl⟩, haccepted, halike, houtlet⟩ := Lane.serve_of_harmless hstops.failed he
  -- a target before it would have been served a frame
  obtain rfl : earlier = [] := by
    obtain ⟨-, hnone | ⟨bytes, hbytes⟩⟩ := serve_accepts _ _ _ _ hstops.served
    · exact hnone
    · cases hbytes
  rw [hstops.serve_eq later, haccepted]
  exact ⟨rfl, allAlike_set_self halike, houtlet⟩

/-- Only the targets up to the last are looked at. -/
theorem StopsAt.other (h : StopsAt frame lanes o earlier c e) (later : List ChannelId)
    {c' : ChannelId} (hc' : c' ∉ earlier ++ [c]) :
    let out := serve frame (earlier ++ c :: later) lanes o
    c' ∉ out.1 ∧ laneOf out.2.2.1 c' = laneOf lanes c' ∧
      out.2.2.2.partition.offersTo c' = o.partition.offersTo c' := by
  have hsame : serve frame (earlier ++ c :: later) lanes o = serve frame (earlier ++ [c]) lanes o :=
    (h.serve_eq later).trans (h.serve_eq []).symm
  rw [hsame]
  exact ⟨fun hmem => hc' ((serve_isPrefix frame _ lanes o).subset hmem), serve_other hc'⟩

/-! ## Channels of a failed emission -/

section Channels

variable {frame : List UInt8}

/-- Targets that were served keep the frame, behind all that they had kept before. -/
theorem kept_of_served (hc : c.toNat < lanes.length)
    (h : (serve (.ok (pack frame)) targets lanes o).2.1 = .ok ()) (hmem : c ∈ targets) :
    Lane.kept c (laneOf (serve (.ok (pack frame)) targets lanes o).2.2.1 c)
        (serve (.ok (pack frame)) targets lanes o).2.2.2 =
      Lane.kept c (laneOf lanes c) o ++ (List.replicate (targets.count c) frame).flatten := by
  have hcourse := serve_course (.ok (pack frame)) c targets lanes o hc
  have hafter := settled_target hc h hmem
  obtain ⟨haccepted, -⟩ := serve_accepts _ _ _ _ h
  -- a lane with pending bytes would have refused the frame
  have hbefore : (laneOf lanes c).hasPending = false := by
    refine Bool.eq_false_iff.2 fun hpending => ?_
    obtain ⟨herror, -, -⟩ := serve_fenced (.ok (pack frame)) targets lanes o hc hpending
    obtain ⟨e, he⟩ := herror hmem
    rw [h] at he
    cases he
  have hrecords : recordsOf (acceptedScript c (.ok (pack frame)) targets) =
      List.replicate (targets.count c) frame := by
    rw [acceptedScript, octets_pack, List.map_const', ← List.map_replicate, recordsOf_map_record,
      List.count_eq_length_filter]
    rfl
  rw [h, haccepted] at hcourse
  rw [← Lane.bytes_of_settled hafter, ← Lane.bytes_of_settled hbefore, ← hrecords]
  exact hcourse.smooth_of_ok.bytes_eq

/-- **The targets before the last**: each keeps the frame, or it is selected once more and its
buffer is refused then. -/
theorem StopsAt.kept_or_refused (h : StopsAt (.ok (pack frame)) lanes o earlier c e)
    (later : List ChannelId) {c' : ChannelId} (hc : c'.toNat < lanes.length) (hmem : c' ∈ earlier) :
    let out := (serve (.ok (pack frame)) (earlier ++ c :: later) lanes o).2.2
    let bytes := Lane.kept c' (laneOf lanes c') o ++
      (List.replicate (earlier.count c') frame).flatten
    bytes <+: Lane.kept c' (laneOf out.1 c') out.2 ∨ c' = c ∧ Lane.Refused c o out.2 bytes := by
  intro out bytes
  have hmid := kept_of_served hc h.served hmem
  have hsettled := settled_target hc h.served hmem
  have hlength := length_serve (.ok (pack frame)) earlier lanes o
  have hbefore := (serve_course (.ok (pack frame)) c' earlier lanes o hc).offers_isPrefix
  simp only [out, bytes, h.serve_eq later]
  rw [← hmid]
  generalize (serve (.ok (pack frame)) earlier lanes o).2.2.1 = mid,
    (serve (.ok (pack frame)) earlier lanes o).2.2.2 = sent at *
  by_cases hne : c = c'
  · subst hne
    rw [laneOf_set_self (hlength ▸ hc)]
    rcases Lane.kept_serve hsettled (pack frame) with hkept | ⟨offers, b, hoffers, hlater, hkept⟩
    · exact .inl hkept
    · exact .inr ⟨rfl, offers, b, hoffers, hbefore.trans hlater, hkept⟩
  · -- the last target is another channel
    have huses := (Lane.serve_works c (laneOf mid c) sent (.ok (pack frame))).uses
    rw [laneOf_set_of_ne hne, Lane.kept, Lane.kept, Partition.delivered, Partition.delivered,
      huses.offersTo_other hne]
    exact .inl List.prefix_rfl

end Channels

/-! ## Emissions -/

variable {σ : Type} {s : Schema} [ChannelSelector σ s.Value] {w : Writer σ}

/-- What failed service of a selection comes to: the selection is out of range, or service of the
frame stops at a target. -/
inductive Fails (w : Writer σ) (frame : Except RecordError ByteArray)
    (superstep : Option Superstep) (selected : List ChannelId) (e : WriterError) (w' : Writer σ) :
    Prop where
  | outOfRange : e.Harmless → w' = w → Fails w frame superstep selected e w'
  | stopped {accepted : List ChannelId} {lanes : List Serializer} {o : Outlet} {backup : Backup} :
    (∀ c ∈ selected, c.toNat < w.lanes.length) →
    serve frame selected w.lanes w.outlet = (accepted, .error e, lanes, o) →
    (backup = w.backup ∨ ∃ bytes, frame = .ok bytes ∧
      backup = w.backup.recordAll o.now superstep bytes accepted) →
    w' = { w with lanes := lanes, outlet := o, backup := backup } →
    Fails w frame superstep selected e w'

theorem harmless_of_checkSelection {selected : List ChannelId} {width : Nat} {cause : RoutingError}
    (h : checkSelection selected width = .error cause) :
    (WriterError.ofRouting cause).Harmless := by
  unfold checkSelection at h
  split at h
  · cases h
    trivial
  · cases h

theorem emitTo_fails {frame : Except RecordError ByteArray} {superstep : Option Superstep}
    {selected : List ChannelId} (h : (w.emitTo frame superstep selected).1 = .error e) :
    Fails w frame superstep selected e (w.emitTo frame superstep selected).2 := by
  unfold emitTo at h ⊢
  rcases hcheck : checkSelection selected w.width with cause | _
  · simp only [hcheck] at h ⊢
    cases h
    exact .outOfRange (harmless_of_checkSelection hcheck) rfl
  · have hwithin : ∀ c ∈ selected, c.toNat < w.lanes.length := fun c hc =>
      of_decide_eq_true (checkSelection_eq_ok_iff.1 hcheck c hc)
    simp only [hcheck] at h ⊢
    rcases hserve : serve frame selected w.lanes w.outlet with ⟨accepted, r, lanes, o⟩
    simp only [hserve] at h ⊢
    cases r with
    | ok _ => cases h
    | error cause =>
      cases h
      cases frame with
      | error _ => exact .stopped hwithin hserve (.inl rfl) rfl
      | ok bytes => exact .stopped hwithin hserve (.inr ⟨bytes, rfl, rfl⟩) rfl

/-- **A failed emission** of an open writer moves the selector on, and then its selection fails. -/
theorem emit_fails (hopen : w.closed = false) {record : s.Value} {superstep : Option Superstep}
    (h : (w.perform s (.emit record superstep)).1 = .error e) :
    Fails { w with selector := (w.route record superstep).2 } ((encodeRecord s record).map pack)
      superstep (w.targets s record superstep) e (w.perform s (.emit record superstep)).2 := by
  change (w.emit s record superstep).1 = .error e at h
  show Fails _ _ _ _ e (w.emit s record superstep).2
  unfold emit at h ⊢
  rw [if_neg (Bool.eq_false_iff.1 hopen)] at h ⊢
  rw [targets]
  rcases hroute : w.route record superstep with ⟨_ | _ | selected, selector⟩
  · rw [hroute] at h
    cases h
  · rw [hroute] at h
    cases h
  · rw [hroute] at h
    exact emitTo_fails h

/-- The frames of other channels leave what the log has for a channel as it is. -/
theorem channel_recordAll (b : Backup) (now : Duration) (superstep : Option Superstep)
    (frame : ByteArray) {c : ChannelId} {accepted : List ChannelId} (hc : c ∉ accepted) :
    (b.recordAll now superstep frame accepted).log.map (·.channel c) = b.log.map (·.channel c) := by
  induction accepted generalizing b with
  | nil => rfl
  | cons first accepted ih =>
    obtain ⟨hne, hrest⟩ := not_or.1 (mt List.mem_cons.2 hc)
    refine (ih (b.record now superstep frame first) hrest).trans ?_
    unfold Backup.record
    cases hlog : b.log with
    | none =>
      show b.log.map _ = _
      rw [hlog]
    | some log =>
      have hlasting : RecoveryLog.Lasting first (·.channel c = log.channel c) :=
        ⟨fun state h => (RecoveryLog.channel_setChannel_of_ne (Ne.symm hne) state).trans h,
          fun _ _ _ h => h⟩
      exact congrArg some (hlasting.logFrame now b.disk rfl superstep frame)

namespace Fails

variable {frame : Except RecordError ByteArray} {superstep : Option Superstep}
  {selected earlier later : List ChannelId} {c c' : ChannelId} {w' : Writer σ}

/-- Without harm nothing is done. -/
theorem alike (h : w.Fails frame superstep selected e w') (he : e.Harmless) : w.Alike w' := by
  cases h with
  | outOfRange _ hw' =>
    rw [hw']
    exact .refl _
  | @stopped accepted lanes o backup _ hserve hbackup hw' =>
    have hstopped : (serve frame selected w.lanes w.outlet).2.1 = .error e := by rw [hserve]
    have hnothing := serve_of_harmless hstopped he
    rw [hserve] at hnothing
    obtain ⟨rfl, hlanes, rfl⟩ := hnothing
    -- no lane accepted anything, so nothing is backed up
    have hsame : backup = w.backup := by
      obtain hsame | ⟨bytes, -, hsame⟩ := hbackup
      · exact hsame
      · exact hsame
    rw [hw', hsame]
    exact .intro hlanes

/-- With harm service stops at one of the targets. -/
theorem exists_stopsAt (h : w.Fails frame superstep selected e w') (he : ¬ e.Harmless) :
    ∃ earlier c later, selected = earlier ++ c :: later ∧
      StopsAt frame w.lanes w.outlet earlier c e := by
  cases h with
  | outOfRange hharmless _ => exact absurd hharmless he
  | stopped _ hserve _ _ =>
    refine Writer.exists_stopsAt ?_
    rw [hserve]

/-- No record is counted. -/
theorem emitted_eq (h : w.Fails frame superstep selected e w') :
    w'.outlet.traffic.emitted = w.outlet.traffic.emitted := by
  cases h with
  | outOfRange _ hw' => rw [hw']
  | stopped _ hserve _ hw' =>
    have hstanding := serve_keeps frame (P := fun o => o.standing = w.outlet.standing)
      (fun c lane o h => ((Lane.serve_works c lane o _).uses.standing_eq).trans h)
      selected w.lanes rfl
    rw [hserve] at hstanding
    rw [hw']
    exact congrArg Outlet.Standing.emitted hstanding

/-- Channels that are not among the targets up to the last are left alone. -/
theorem other (h : w.Fails frame superstep (earlier ++ c :: later) e w')
    (hstops : StopsAt frame w.lanes w.outlet earlier c e) (hc' : c' ∉ earlier ++ [c]) :
    w'.lane c' = w.lane c' ∧ w'.offersTo c' = w.offersTo c' ∧
      w'.backup.log.map (·.channel c') = w.backup.log.map (·.channel c') := by
  cases h with
  | outOfRange _ hw' =>
    rw [hw']
    exact ⟨rfl, rfl, rfl⟩
  | stopped _ hserve hbackup hw' =>
    have hother := hstops.other later hc'
    rw [hserve] at hother
    obtain ⟨hrefused, hlane, hoffers⟩ := hother
    rw [hw']
    refine ⟨hlane, hoffers, ?_⟩
    obtain rfl | ⟨bytes, -, rfl⟩ := hbackup
    · rfl
    · exact channel_recordAll w.backup _ superstep bytes hrefused

/-- The targets before the last keep the frame or have a buffer refused. -/
theorem kept_or_refused {frame : List UInt8}
    (h : w.Fails (.ok (pack frame)) superstep (earlier ++ c :: later) e w') (he : ¬ e.Harmless)
    (hstops : StopsAt (.ok (pack frame)) w.lanes w.outlet earlier c e) (hmem : c' ∈ earlier) :
    let bytes := Lane.kept c' (w.lane c') w.outlet ++
      (List.replicate (earlier.count c') frame).flatten
    bytes <+: Lane.kept c' (w'.lane c') w'.outlet ∨
      c' = c ∧ Lane.Refused c w.outlet w'.outlet bytes := by
  cases h with
  | outOfRange hharmless _ => exact absurd hharmless he
  | stopped hwithin hserve _ hw' =>
    have hkept :=
      hstops.kept_or_refused later (hwithin c' (List.mem_append_left _ hmem)) hmem
    rw [hserve] at hkept
    rw [hw']
    exact hkept

end Fails

/-- **What a failed emission leaves behind**, whatever state the writer is in. If the record cannot
be encoded, or the selection is out of range, then the pool, the partition, the counters, the
recovery log, and the held buffer and the pending bytes of every lane are as they were, and the
writer will report and do the same as one whose selector alone was moved on. Any other failure comes
at one of the targets. No record is counted then. Channels that are not among the targets up to that
one are as they were, in the lanes, in the partition and in the log. And every target before it has
forwarded or holds the whole frame, as often as it was selected and behind all that it had before,
unless it is selected once more as that target and the partition refused its buffer: then the frame
was forwarded or is in that buffer. -/
theorem emit_failure (hopen : w.closed = false) {record : s.Value} {superstep : Option Superstep}
    {e : WriterError} (hfail : (w.perform s (.emit record superstep)).1 = .error e) :
    let w' := (w.perform s (.emit record superstep)).2
    (e.Harmless →
      w'.outlet = w.outlet ∧ w'.backup = w.backup ∧
      (∀ c, (w'.lane c).buffer = (w.lane c).buffer ∧ (w'.lane c).pending = (w.lane c).pending) ∧
      ∀ ops : List (Operation s.Value),
        let only := { w with selector := (w.route record superstep).2 }
        along s (fun w op => [w.report s op]) only ops =
            along s (fun w op => [w.report s op]) w' ops ∧
          (only.run s ops).Alike (w'.run s ops)) ∧
    (¬ e.Harmless → ∃ earlier c later, w.targets s record superstep = earlier ++ c :: later ∧
      StopsAt ((encodeRecord s record).map pack) w.lanes w.outlet earlier c e ∧
      w'.outlet.traffic.emitted = w.outlet.traffic.emitted ∧
      (∀ c', c' ∉ earlier ++ [c] → w'.lane c' = w.lane c' ∧ w'.offersTo c' = w.offersTo c' ∧
        w'.backup.log.map (·.channel c') = w.backup.log.map (·.channel c')) ∧
      ∀ c' ∈ earlier, ∃ frame, encodeRecord s record = .ok frame ∧
        let bytes := Lane.kept c' (w.lane c') w.outlet ++
          (List.replicate (earlier.count c') frame).flatten
        bytes <+: Lane.kept c' (w'.lane c') w'.outlet ∨
          c' = c ∧ Lane.Refused c w.outlet w'.outlet bytes) := by
  intro w'
  have hfails := emit_fails hopen hfail
  refine ⟨fun he => ?_, fun he => ?_⟩
  · have halike := hfails.alike he
    refine ⟨halike.outlet_eq, halike.backup_eq, fun c => ?_, fun ops => halike.run ops⟩
    exact ⟨(halike.lane c).buffer_eq.symm, (halike.lane c).pending_eq.symm⟩
  · obtain ⟨earlier, c, later, htargets, hstops⟩ := hfails.exists_stopsAt he
    rw [htargets] at hfails
    refine ⟨earlier, c, later, htargets, hstops, hfails.emitted_eq,
      fun c' hc' => hfails.other hstops hc', fun c' hmem => ?_⟩
    cases hencode : encodeRecord s record with
    | error cause =>
      -- a target was served, so there was a frame
      rw [hencode] at hstops
      obtain ⟨-, hnone | ⟨bytes, hbytes⟩⟩ := serve_accepts _ _ _ _ hstops.served
      · rw [hnone] at hmem
        cases hmem
      · cases hbytes
    | ok frame =>
      rw [hencode] at hfails hstops
      exact ⟨frame, rfl, hfails.kept_or_refused he hstops hmem⟩

/-- A record that refuses to be encoded behind its first byte does nothing. And of two channels,
the first has the whole frame, in part in a buffer that was sent, when a buffer of the second is
refused. -/
theorem emit_failure_small :
    let halting : Schema := .option (.tuple [.unsigned .w8, .unencodable])
    let w₁ := smallWriter.run halting [.emit none none]
    let out₁ := w₁.perform halting (.emit (some (7#8, "no", ())) none)
    let w₂ := (smallPairWriter none Disk.empty).failing .buffer (.window 1 1 "full")
    let out₂ := w₂.perform .bytes (.emit [1, 2, 3, 4, 5, 6, 7, 8, 9, 10] none)
    (out₁.1 = .error (.serialization (.encode (.refused "no"))) ∧ out₁.2.outlet = w₁.outlet) ∧
    out₂.1 = .error (.transport (.channel ⟨1⟩) (.refused "full")) ∧
      out₂.2.outlet.traffic.emitted = 0 ∧
      [0, 0, 0, 11, 10, 1, 2, 3, 4, 5, 6, 7, 8, 9, 10] <+:
        Lane.kept ⟨0⟩ (out₂.2.lane ⟨0⟩) out₂.2.outlet := by
  intro halting w₁ out₁ w₂ out₂
  have hfail₁ : out₁.1 = .error (.serialization (.encode (.refused "no"))) := by decide +kernel
  have hfail₂ : out₂.1 = .error (.transport (.channel ⟨1⟩) (.refused "full")) := by decide +kernel
  have hopen₁ : w₁.closed = false := by decide +kernel
  obtain ⟨hharmless, -⟩ := emit_failure hopen₁ hfail₁
  obtain ⟨houtlet, -⟩ := hharmless trivial
  obtain ⟨-, hstopped⟩ := emit_failure (w := w₂) rfl hfail₂
  obtain ⟨earlier, c, later, htargets, hstops, hemitted, -, hkept⟩ := hstopped id
  have hselected : w₂.targets .bytes [1, 2, 3, 4, 5, 6, 7, 8, 9, 10] none = [⟨0⟩, ⟨1⟩] := by
    decide +kernel
  rw [hselected] at htargets
  refine ⟨⟨hfail₁, houtlet⟩, hfail₂, hemitted, ?_⟩
  -- the first channel is served, so the second is where service stops
  rcases earlier with _ | ⟨first, _ | ⟨second, earlier⟩⟩
  · obtain ⟨rfl, -⟩ := List.cons.inj htargets
    have hserved : (Lane.serve ⟨0⟩ ((encodeRecord .bytes [1, 2, 3, 4, 5, 6, 7, 8, 9, 10]).map pack)
      (laneOf w₂.lanes ⟨0⟩) w₂.outlet).2.1 = .ok () := by decide +kernel
    exact absurd (hserved.symm.trans hstops.failed) (by simp)
  · obtain ⟨rfl, hrest⟩ := List.cons.inj htargets
    obtain ⟨rfl, -⟩ := List.cons.inj hrest
    obtain ⟨frame, hframe, hkept | ⟨hsame, -⟩⟩ := hkept ⟨0⟩ List.mem_cons_self
    · have hencode : encodeRecord .bytes [1, 2, 3, 4, 5, 6, 7, 8, 9, 10] =
        .ok [0, 0, 0, 11, 10, 1, 2, 3, 4, 5, 6, 7, 8, 9, 10] := by decide +kernel
      obtain rfl := Except.ok.inj (hencode.symm.trans hframe)
      exact hkept
    · exact absurd hsame (by decide)
  · have hlength := congrArg List.length htargets
    simp at hlength

/-! A selection may name a channel twice. If the second frame fills the buffer that has the first
one and the partition refuses it, both are lost: it goes back to the pool as it is. -/

def twiceWriter : Writer RowCycle where
  lanes := [Serializer.start]
  outlet := ⟨smallPool, smallPartition.failing .buffer (.window 0 1 "full"), .start, .unlimited,
    .ofSeconds 1, .attentive, 0, 0⟩
  selector := ⟨[[⟨0⟩, ⟨0⟩]], 0⟩
  replay := none
  backup := .make none Disk.empty
  closed := false

/-- The first of the two targets was served its frame, and it neither holds nor forwarded any byte
of it after the second one failed. -/
theorem frame_lost_with_refused_buffer :
    let out := twiceWriter.perform .bytes (.emit [1] none)
    let frame : Except RecordError (List UInt8) := encodeRecord .bytes [1]
    frame = .ok [0, 0, 0, 2, 1, 1] ∧
    twiceWriter.targets .bytes [1] none = [] ++ [⟨0⟩] ++ ⟨0⟩ :: [] ∧
    StopsAt (frame.map pack) twiceWriter.lanes twiceWriter.outlet [⟨0⟩] ⟨0⟩
      (.transport (.channel ⟨0⟩) (.refused "full")) ∧
    out.1 = .error (.transport (.channel ⟨0⟩) (.refused "full")) ∧
    Lane.kept ⟨0⟩ (out.2.lane ⟨0⟩) out.2.outlet = [] :=
  ⟨by decide +kernel, by decide +kernel, ⟨by decide +kernel, by decide +kernel⟩,
    by decide +kernel, by decide +kernel⟩

end Writer

end Fanout
