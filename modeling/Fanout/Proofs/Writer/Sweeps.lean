import Fanout.Proofs.Writer.Lanes
import Fanout.Writer.Basic

/-!
# Sweeps

Every operation of a writer is a sweep of lane steps: over all lanes up to the first failure, over
all lanes regardless, or over the lanes of some targets. Seen from one channel a sweep is one step
of its lane, among steps of other lanes that do not concern it (`Swept`); only the targets of a
record may name a channel more than once.

* `sweep_swept`, `sweepAll_swept` — what a sweep comes to on one channel.
* `serve_course` — serving a frame to some targets plays it on a channel once for each time that
  the channel's lane accepted it.
-/

namespace Fanout

namespace Lane

/-- A step that makes calls on its own channel only. -/
def Local (step : ChannelId → Serializer → Outlet → LaneResult Unit) : Prop :=
  ∀ (c : ChannelId) (s : Serializer) (o : Outlet), o.Uses c (step c s o).2.2

theorem local_sendEvent (e : Event) : Local (sendEvent e) := by
  intro c s o
  obtain ⟨_, hworks, _⟩ := sendEvent_works c s o e
  exact hworks.uses

theorem local_endSuperstep : Local endSuperstep := fun c s o => (endSuperstep_works c s o).uses

theorem local_retire : Local retire := fun c s o => (retire_works c s o).uses

/-- What a sweep comes to on one channel: an earlier lane failed and this one was not reached, or
the lane did its step, and the sweep succeeded only if the step did. -/
inductive Swept (step : ChannelId → Serializer → Outlet → LaneResult Unit) (c : ChannelId)
    (s : Serializer) (o : Outlet) :
    Except WriterError Unit → Option Serializer → Outlet → Prop where
  | skipped {o' : Outlet} (e : WriterError) :
    o'.partition.offersTo c = o.partition.offersTo c → Swept step c s o (.error e) (some s) o'
  | stepped {before o' : Outlet} {r : Except WriterError Unit} :
    before.partition.offersTo c = o.partition.offersTo c →
    o'.partition.offersTo c = (step c s before).2.2.partition.offersTo c →
    (r = .ok () → (step c s before).1 = .ok ()) →
    Swept step c s o r (some (step c s before).2.1) o'

variable {step : ChannelId → Serializer → Outlet → LaneResult Unit}

/-- Steps of other lanes before the sweep reaches the channel. -/
theorem Swept.of_before {c : ChannelId} {s : Serializer} {o o' last : Outlet}
    {r : Except WriterError Unit} {lane : Option Serializer} (h : Swept step c s o' r lane last)
    (ho : o'.partition.offersTo c = o.partition.offersTo c) : Swept step c s o r lane last := by
  cases h with
  | skipped e h => exact .skipped e (h.trans ho)
  | stepped hbefore hafter hok => exact .stepped (hbefore.trans ho) hafter hok

/-- A result that is an error at least as often. -/
theorem Swept.of_result {c : ChannelId} {s : Serializer} {o last : Outlet}
    {r r' : Except WriterError Unit} {lane : Option Serializer} (h : Swept step c s o r lane last)
    (hr : r' = .ok () → r = .ok ()) : Swept step c s o r' lane last := by
  cases h with
  | skipped e h =>
    cases r' with
    | error e' => exact .skipped e' h
    | ok _ => exact nomatch hr rfl
  | stepped hbefore hafter hok => exact .stepped hbefore hafter fun h => hok (hr h)

/-- Two positions within reach of channel indices are two channels. -/
theorem ofNat_ne {i j : Nat} (hj : j < maxChannels) (hij : i < j) :
    ChannelId.ofNat i ≠ ChannelId.ofNat j := by
  intro h
  have hnat := congrArg ChannelId.toNat h
  rw [ChannelId.toNat_ofNat_of_lt hj, ChannelId.toNat_ofNat_of_lt (Nat.lt_trans hij hj)] at hnat
  omega

theorem length_sweep (i : Nat) (lanes : List Serializer) (o : Outlet) :
    (sweep step i lanes o).2.1.length = lanes.length := by
  induction lanes generalizing i o with
  | nil => rfl
  | cons s lanes ih =>
    unfold sweep
    rcases step (ChannelId.ofNat i) s o with ⟨r, s', o'⟩
    cases r with
    | error e => rfl
    | ok _ => exact congrArg (· + 1) (ih (i + 1) o')

theorem length_sweepAll (i : Nat) (lanes : List Serializer) (o : Outlet) :
    (sweepAll step i lanes o).2.1.length = lanes.length := by
  induction lanes generalizing i o with
  | nil => rfl
  | cons s lanes ih => exact congrArg (· + 1) (ih (i + 1) _)

/-- What every step keeps is kept by a sweep. -/
theorem sweep_keeps {P : Outlet → Prop} (hstep : ∀ c s o, P o → P (step c s o).2.2) (i : Nat)
    (lanes : List Serializer) {o : Outlet} (ho : P o) : P (sweep step i lanes o).2.2 := by
  induction lanes generalizing i o with
  | nil => exact ho
  | cons s lanes ih =>
    have hfirst := hstep (ChannelId.ofNat i) s o ho
    unfold sweep
    rcases hout : step (ChannelId.ofNat i) s o with ⟨r, s', o'⟩
    rw [hout] at hfirst
    cases r with
    | error e => exact hfirst
    | ok _ => exact ih (i + 1) hfirst

theorem sweepAll_keeps {P : Outlet → Prop} (hstep : ∀ c s o, P o → P (step c s o).2.2) (i : Nat)
    (lanes : List Serializer) {o : Outlet} (ho : P o) : P (sweepAll step i lanes o).2.2 := by
  induction lanes generalizing i o with
  | nil => exact ho
  | cons s lanes ih => exact ih (i + 1) (hstep (ChannelId.ofNat i) s o ho)

/-- What every step keeps of the lanes, as long as something holds of the outlet, is kept by a
sweep. -/
theorem lanes_sweep {P : Serializer → Prop} {Q : Outlet → Prop}
    (hstep : ∀ c s o, P s → Q o → P (step c s o).2.1 ∧ Q (step c s o).2.2) (i : Nat)
    {lanes : List Serializer} {o : Outlet} (hlanes : ∀ s ∈ lanes, P s) (ho : Q o) :
    ∀ s ∈ (sweep step i lanes o).2.1, P s := by
  induction lanes generalizing i o with
  | nil => exact List.forall_mem_nil P
  | cons s lanes ih =>
    obtain ⟨hs, hlanes⟩ := List.forall_mem_cons.1 hlanes
    obtain ⟨hs', ho'⟩ := hstep (ChannelId.ofNat i) s o hs ho
    unfold sweep
    rcases hout : step (ChannelId.ofNat i) s o with ⟨r, s', o'⟩
    rw [hout] at hs' ho'
    cases r with
    | error e => exact List.forall_mem_cons.2 ⟨hs', hlanes⟩
    | ok _ => exact List.forall_mem_cons.2 ⟨hs', ih (i + 1) hlanes ho'⟩

theorem lanes_sweepAll {P : Serializer → Prop} {Q : Outlet → Prop}
    (hstep : ∀ c s o, P s → Q o → P (step c s o).2.1 ∧ Q (step c s o).2.2) (i : Nat)
    {lanes : List Serializer} {o : Outlet} (hlanes : ∀ s ∈ lanes, P s) (ho : Q o) :
    ∀ s ∈ (sweepAll step i lanes o).2.1, P s := by
  induction lanes generalizing i o with
  | nil => exact List.forall_mem_nil P
  | cons s lanes ih =>
    obtain ⟨hs, hlanes⟩ := List.forall_mem_cons.1 hlanes
    obtain ⟨hs', ho'⟩ := hstep (ChannelId.ofNat i) s o hs ho
    exact List.forall_mem_cons.2 ⟨hs', ih (i + 1) hlanes ho'⟩

/-- A sweep over later lanes offers nothing on an earlier channel. -/
theorem offersTo_sweep (hlocal : Local step) {i k : Nat} (hik : i < k) (lanes : List Serializer)
    (hk : k + lanes.length ≤ maxChannels) (o : Outlet) :
    (sweep step k lanes o).2.2.partition.offersTo (ChannelId.ofNat i) =
      o.partition.offersTo (ChannelId.ofNat i) := by
  induction lanes generalizing k o with
  | nil => rfl
  | cons s lanes ih =>
    rw [List.length_cons] at hk
    have hother := (hlocal (ChannelId.ofNat k) s o).offersTo_other
      (ofNat_ne (by omega) hik).symm
    unfold sweep
    rcases hout : step (ChannelId.ofNat k) s o with ⟨r, s', o'⟩
    rw [hout] at hother
    cases r with
    | error e => exact hother
    | ok _ => exact (ih (by omega) (by omega) o').trans hother

theorem offersTo_sweepAll (hlocal : Local step) {i k : Nat} (hik : i < k)
    (lanes : List Serializer) (hk : k + lanes.length ≤ maxChannels) (o : Outlet) :
    (sweepAll step k lanes o).2.2.partition.offersTo (ChannelId.ofNat i) =
      o.partition.offersTo (ChannelId.ofNat i) := by
  induction lanes generalizing k o with
  | nil => rfl
  | cons s lanes ih =>
    rw [List.length_cons] at hk
    have hother := (hlocal (ChannelId.ofNat k) s o).offersTo_other
      (ofNat_ne (by omega) hik).symm
    exact (ih (by omega) (by omega) _).trans hother

/-- **A sweep up to the first failure**, seen from one channel. -/
theorem sweep_swept (hlocal : Local step) (i : Nat) (lanes : List Serializer)
    (hi : i + lanes.length ≤ maxChannels) (o : Outlet) {j : Nat} {s : Serializer}
    (hs : lanes[j]? = some s) :
    Swept step (ChannelId.ofNat (i + j)) s o (sweep step i lanes o).1
      (sweep step i lanes o).2.1[j]? (sweep step i lanes o).2.2 := by
  induction lanes generalizing i j o with
  | nil => exact nomatch hs
  | cons first lanes ih =>
    rw [List.length_cons] at hi
    have huses := hlocal (ChannelId.ofNat i) first o
    cases j with
    | zero =>
      -- the lane's own step; those behind it do not concern the channel
      obtain rfl := Option.some.inj hs
      have hstepped {r : Except WriterError Unit} {last : Outlet}
          (hlast : last.partition.offersTo (ChannelId.ofNat i) =
            (step (ChannelId.ofNat i) first o).2.2.partition.offersTo (ChannelId.ofNat i))
          (hok : r = .ok () → (step (ChannelId.ofNat i) first o).1 = .ok ()) :
          Swept step (ChannelId.ofNat (i + 0)) first o r
            (some (step (ChannelId.ofNat i) first o).2.1) last :=
        .stepped rfl hlast hok
      unfold sweep
      rcases hout : step (ChannelId.ofNat i) first o with ⟨r, s', o'⟩
      rw [hout] at hstepped
      cases r with
      | error e => exact hstepped rfl fun h => nomatch h
      | ok _ =>
        exact hstepped (offersTo_sweep hlocal (Nat.lt_succ_self i) lanes (by omega) o')
          fun _ => rfl
    | succ j =>
      have hj : j < lanes.length := by
        rw [List.getElem?_cons_succ] at hs
        exact (List.getElem?_eq_some_iff.1 hs).1
      have hother := huses.offersTo_other (ofNat_ne (j := i + (j + 1)) (by omega) (by omega))
      unfold sweep
      rcases hout : step (ChannelId.ofNat i) first o with ⟨r, s', o'⟩
      rw [hout] at hother
      cases r with
      | error e =>
        -- the sweep ends before it reaches the lane
        show Swept step _ s o (.error e) (first :: lanes)[j + 1]? o'
        rw [hs]
        exact .skipped e hother
      | ok _ =>
        have hrest := ih (i + 1) (by omega) o' hs
        rw [show i + 1 + j = i + (j + 1) by omega] at hrest
        exact hrest.of_before hother

/-- **A sweep over all lanes**, seen from one channel: the lane did its step. -/
theorem sweepAll_swept (hlocal : Local step) (i : Nat) (lanes : List Serializer)
    (hi : i + lanes.length ≤ maxChannels) (o : Outlet) {j : Nat} {s : Serializer}
    (hs : lanes[j]? = some s) :
    Swept step (ChannelId.ofNat (i + j)) s o (sweepAll step i lanes o).1
      (sweepAll step i lanes o).2.1[j]? (sweepAll step i lanes o).2.2 := by
  induction lanes generalizing i j o with
  | nil => exact nomatch hs
  | cons first lanes ih =>
    rw [List.length_cons] at hi
    have huses := hlocal (ChannelId.ofNat i) first o
    cases j with
    | zero =>
      obtain rfl := Option.some.inj hs
      refine .stepped (show o.partition.offersTo _ = _ from rfl) ?_ ?_
      · exact offersTo_sweepAll hlocal (Nat.lt_succ_self i) lanes (by omega) _
      · intro h
        unfold sweepAll at h
        rw [Nat.add_zero]
        rcases hout : step (ChannelId.ofNat i) first o with ⟨r, s', o'⟩
        rw [hout] at h
        cases r with
        | error e => exact nomatch h
        | ok _ => rfl
    | succ j =>
      have hj : j < lanes.length := by
        rw [List.getElem?_cons_succ] at hs
        exact (List.getElem?_eq_some_iff.1 hs).1
      have hother := huses.offersTo_other (ofNat_ne (j := i + (j + 1)) (by omega) (by omega))
      -- a failure of an earlier lane makes the result an error and changes nothing else
      have hrest := ih (i + 1) (by omega) (step (ChannelId.ofNat i) first o).2.2 hs
      rw [show i + 1 + j = i + (j + 1) by omega] at hrest
      refine (hrest.of_before hother).of_result fun h => ?_
      unfold sweepAll at h
      rcases hout : step (ChannelId.ofNat i) first o with ⟨r, s', o'⟩
      rw [hout] at h
      cases r with
      | error e => exact nomatch h
      | ok _ => exact h

/-- Whatever happened before, the step of the lane plays all of a script or nothing of it, and all
of it if it succeeds. -/
def Plays (full : List (Entry (List UInt8)))
    (step : ChannelId → Serializer → Outlet → LaneResult Unit) (c : ChannelId) (s : Serializer) :
    Prop :=
  ∀ o, ∃ script, Works c script s o (step c s o) ∧ (script = [] ∨ script = full) ∧
    ((step c s o).1 = .ok () → script = full)

theorem plays_endSuperstep (c : ChannelId) (s : Serializer) : Plays [] endSuperstep c s :=
  fun o => ⟨[], endSuperstep_works c s o, .inl rfl, fun _ => rfl⟩

theorem plays_retire (c : ChannelId) (s : Serializer) : Plays [] retire c s :=
  fun o => ⟨[], retire_works c s o, .inl rfl, fun _ => rfl⟩

namespace Swept

variable {c : ChannelId} {s : Serializer} {o last : Outlet} {r : Except WriterError Unit}
  {lane : Option Serializer}

/-- **The course of a channel in a sweep** is that of its lane's step. -/
theorem course (h : Swept step c s o r lane last) (full : List (Entry (List UInt8)))
    (hplays : Plays full step c s) :
    ∃ s' script, lane = some s' ∧
      Course c script ⟨o.partition.offersTo c, s.unsent⟩ r (last.partition.offersTo c) s' ∧
      (script = [] ∨ script = full) ∧ (r = .ok () → script = full) := by
  cases h with
  | skipped e h =>
    refine ⟨s, [], rfl, .smooth _ ?_, .inl rfl, fun h => nomatch h⟩
    rw [h]
    exact .refl
  | @stepped before _ _ hbefore hafter hok =>
    obtain ⟨script, hworks, hscript, hfull⟩ := hplays before
    refine ⟨_, script, rfl, ?_, hscript, fun h => hfull (hok h)⟩
    have hcourse := hworks.course
    rw [← hafter, hbefore] at hcourse
    exact hcourse.of_result fun ⟨_, h⟩ => ⟨(), hok h⟩

/-- A fact about the lane after every successful step. -/
theorem lane_of_ok (h : Swept step c s o r lane last) {P : Serializer → Prop}
    (hstep : ∀ o, (step c s o).1 = .ok () → P (step c s o).2.1) (hr : r = .ok ()) :
    ∀ s', lane = some s' → P s' := by
  cases h with
  | skipped e _ => exact nomatch hr
  | @stepped before _ _ _ _ hok =>
    intro s' hs'
    rw [← Option.some.inj hs']
    exact hstep before (hok hr)

/-- Where the step changes nothing the sweep changes nothing on the channel. -/
theorem unmoved (h : Swept step c s o r lane last) (hstep : ∀ o, (step c s o).2 = (s, o)) :
    lane = some s ∧ last.partition.offersTo c = o.partition.offersTo c := by
  cases h with
  | skipped _ h => exact ⟨rfl, h⟩
  | @stepped before _ _ hbefore hafter _ =>
    rw [hstep before] at hafter ⊢
    exact ⟨rfl, hafter.trans hbefore⟩

/-- **A fenced lane fails the sweep** and stays as it is. -/
theorem fenced (h : Swept step c s o r lane last) (hstep : ∀ o, Fenced s o (step c s o)) :
    (∃ e, r = .error e) ∧ lane = some s ∧
      last.partition.offersTo c = o.partition.offersTo c := by
  refine ⟨?_, h.unmoved fun o => ?_⟩
  · cases h with
    | skipped e _ => exact ⟨e, rfl⟩
    | @stepped before _ _ _ _ hok =>
      obtain ⟨e, he⟩ := hstep before
      cases r with
      | error e => exact ⟨e, rfl⟩
      | ok _ =>
        have hr := hok rfl
        rw [he] at hr
        exact nomatch hr
  · obtain ⟨e, he⟩ := hstep o
    rw [he]

end Swept

end Lane

namespace Writer

/-! ## Targets -/

/-- The lane of a channel. -/
def laneOf (lanes : List Serializer) (c : ChannelId) : Serializer :=
  (lanes[c.toNat]?).getD Serializer.start

theorem laneOf_set_self {lanes : List Serializer} {c : ChannelId} (hc : c.toNat < lanes.length)
    (s : Serializer) : laneOf (lanes.set c.toNat s) c = s := by
  rw [laneOf, List.getElem?_set_self hc, Option.getD_some]

theorem laneOf_set_of_ne {lanes : List Serializer} {c other : ChannelId} (hne : other ≠ c)
    (s : Serializer) : laneOf (lanes.set other.toNat s) c = laneOf lanes c := by
  rw [laneOf, List.getElem?_set_ne fun h => hne (ChannelId.ext_toNat h), laneOf]

/-- The first target of a frame, and the others. -/
theorem serve_cons (frame : Except RecordError ByteArray) (first : ChannelId)
    (targets : List ChannelId) (lanes : List Serializer) (o : Outlet) :
    serve frame (first :: targets) lanes o =
      match Lane.serve first frame (laneOf lanes first) o with
      | (accepted, .error e, s, o) =>
        (if accepted then [first] else [], .error e, lanes.set first.toNat s, o)
      | (_, .ok (), s, o) =>
        let (accepted, r, lanes, o) := serve frame targets (lanes.set first.toNat s) o
        (first :: accepted, r, lanes, o) := rfl

/-- The script that a channel plays when the lanes of some channels accept a frame. -/
def acceptedScript (c : ChannelId) (frame : Except RecordError ByteArray)
    (accepted : List ChannelId) : List (Entry (List UInt8)) :=
  match frame with
  | .ok frame => (accepted.filter fun channel => channel = c).map fun _ => .record (octets frame)
  | .error _ => []

theorem acceptedScript_cons_self (c : ChannelId) (frame : Except RecordError ByteArray)
    (accepted : List ChannelId) : acceptedScript c frame (c :: accepted) =
      Lane.servedScript frame true ++ acceptedScript c frame accepted := by
  cases frame with
  | ok frame => simp [acceptedScript, Lane.servedScript]
  | error _ => rfl

theorem acceptedScript_cons_of_ne {c other : ChannelId} (hne : other ≠ c)
    (frame : Except RecordError ByteArray) (accepted : List ChannelId) :
    acceptedScript c frame (other :: accepted) = acceptedScript c frame accepted := by
  cases frame with
  | ok frame => simp [acceptedScript, hne]
  | error _ => rfl

theorem acceptedScript_nil (c : ChannelId) (frame : Except RecordError ByteArray) :
    acceptedScript c frame [] = [] := by
  cases frame <;> rfl

variable (frame : Except RecordError ByteArray)

/-- **Serving a frame to some targets**, seen from one channel: a course that plays the frame as
often as the channel's lane accepted it. -/
theorem serve_course (c : ChannelId) (targets : List ChannelId) (lanes : List Serializer)
    (o : Outlet) (hc : c.toNat < lanes.length) :
    Course c (acceptedScript c frame (serve frame targets lanes o).1)
      ⟨o.partition.offersTo c, (laneOf lanes c).unsent⟩ (serve frame targets lanes o).2.1
      ((serve frame targets lanes o).2.2.2.partition.offersTo c)
      (laneOf (serve frame targets lanes o).2.2.1 c) := by
  induction targets generalizing lanes o with
  | nil =>
    show Course c (acceptedScript c frame []) _ _ _ _
    rw [acceptedScript_nil]
    exact .smooth _ .refl
  | cons first targets ih =>
    have hworks := Lane.serve_works first (laneOf lanes first) o frame
    have haccepts := Lane.serve_accepts first (laneOf lanes first) o frame
    rw [serve_cons]
    rcases hout : Lane.serve first frame (laneOf lanes first) o with ⟨accepted, r, s, o'⟩
    rw [hout] at hworks haccepts
    cases r with
    | error e =>
      -- the last target that is served: its frame may have been accepted all the same
      by_cases hne : first = c
      · subst hne
        have hscript : acceptedScript first frame (if accepted = true then [first] else []) =
            Lane.servedScript frame accepted := by
          cases accepted with
          | true =>
            rw [if_pos rfl, acceptedScript_cons_self, acceptedScript_nil, List.append_nil]
          | false =>
            rw [if_neg Bool.false_ne_true, acceptedScript_nil, Lane.servedScript_refused]
        show Course first
          (acceptedScript first frame (if accepted = true then [first] else [])) _ _ _
          (laneOf (lanes.set first.toNat s) first)
        rw [hscript, laneOf_set_self hc]
        exact hworks.course
      · have hscript : acceptedScript c frame (if accepted = true then [first] else []) = [] := by
          cases accepted with
          | true => rw [if_pos rfl, acceptedScript_cons_of_ne hne, acceptedScript_nil]
          | false => rw [if_neg Bool.false_ne_true, acceptedScript_nil]
        show Course c (acceptedScript c frame (if accepted = true then [first] else [])) _ _
          (o'.partition.offersTo c) (laneOf (lanes.set first.toNat s) c)
        rw [hscript, laneOf_set_of_ne hne, hworks.uses.offersTo_other hne]
        exact .smooth _ .refl
    | ok _ =>
      obtain ⟨haccepted, _⟩ := haccepts rfl
      have hrest := ih (lanes.set first.toNat s) o' (by rwa [List.length_set])
      by_cases hne : first = c
      · subst hne
        have hsmooth := hworks.course.smooth_of_ok
        rw [laneOf_set_self hc] at hrest
        show Course first (acceptedScript first frame (first :: _)) _ _ _ _
        rw [acceptedScript_cons_self, ← haccepted]
        exact hrest.trans hsmooth
      · rw [laneOf_set_of_ne hne, hworks.uses.offersTo_other hne] at hrest
        show Course c (acceptedScript c frame (first :: _)) _ _ _ _
        rw [acceptedScript_cons_of_ne hne]
        exact hrest

theorem length_serve (targets : List ChannelId) (lanes : List Serializer) (o : Outlet) :
    (serve frame targets lanes o).2.2.1.length = lanes.length := by
  induction targets generalizing lanes o with
  | nil => rfl
  | cons first targets ih =>
    unfold serve
    rcases Lane.serve first frame ((lanes[first.toNat]?).getD Serializer.start) o with
      ⟨accepted, r, s, o'⟩
    cases r with
    | error e => exact List.length_set
    | ok _ => exact (ih (lanes.set first.toNat s) o').trans List.length_set

theorem serve_keeps {P : Outlet → Prop} (hstep : ∀ c s o, P o → P (Lane.serve c frame s o).2.2.2)
    (targets : List ChannelId) (lanes : List Serializer) {o : Outlet} (ho : P o) :
    P (serve frame targets lanes o).2.2.2 := by
  induction targets generalizing lanes o with
  | nil => exact ho
  | cons first targets ih =>
    have hfirst := hstep first ((lanes[first.toNat]?).getD Serializer.start) o ho
    unfold serve
    rcases hout : Lane.serve first frame ((lanes[first.toNat]?).getD Serializer.start) o with
      ⟨accepted, r, s, o'⟩
    rw [hout] at hfirst
    cases r with
    | error e => exact hfirst
    | ok _ => exact ih (lanes.set first.toNat s) hfirst

/-- The lanes that accept a frame are those of the first targets. -/
theorem serve_isPrefix (targets : List ChannelId) (lanes : List Serializer) (o : Outlet) :
    (serve frame targets lanes o).1 <+: targets := by
  induction targets generalizing lanes o with
  | nil => exact List.prefix_rfl
  | cons first targets ih =>
    unfold serve
    rcases Lane.serve first frame ((lanes[first.toNat]?).getD Serializer.start) o with
      ⟨accepted, r, s, o'⟩
    cases r with
    | error e =>
      cases accepted with
      | true => exact List.prefix_append [first] targets
      | false => exact List.nil_prefix
    | ok _ => exact List.cons_prefix_cons.2 ⟨rfl, ih (lanes.set first.toNat s) o'⟩

/-- A frame that was served to its targets without an error was accepted by all of them. -/
theorem serve_accepts (targets : List ChannelId) (lanes : List Serializer) (o : Outlet)
    (h : (serve frame targets lanes o).2.1 = .ok ()) :
    (serve frame targets lanes o).1 = targets ∧ (targets = [] ∨ ∃ bytes, frame = .ok bytes) := by
  induction targets generalizing lanes o with
  | nil => exact ⟨rfl, .inl rfl⟩
  | cons first targets ih =>
    have haccepts := Lane.serve_accepts first ((lanes[first.toNat]?).getD Serializer.start) o frame
    unfold serve at h ⊢
    rcases hout : Lane.serve first frame ((lanes[first.toNat]?).getD Serializer.start) o with
      ⟨accepted, r, s, o'⟩
    rw [hout] at h haccepts
    cases r with
    | error e => exact nomatch h
    | ok _ => exact ⟨congrArg (first :: ·) (ih _ _ h).1, .inr (haccepts rfl).2⟩

/-- **A fenced lane accepts no frame** and stays as it is; the record fails if the lane's channel is
among its targets. -/
theorem serve_fenced {c : ChannelId} (targets : List ChannelId) (lanes : List Serializer)
    (o : Outlet) (hc : c.toNat < lanes.length) (hpending : (laneOf lanes c).hasPending = true) :
    (c ∈ targets → ∃ e, (serve frame targets lanes o).2.1 = .error e) ∧
      laneOf (serve frame targets lanes o).2.2.1 c = laneOf lanes c ∧
      (serve frame targets lanes o).2.2.2.partition.offersTo c = o.partition.offersTo c := by
  induction targets generalizing lanes o with
  | nil => exact ⟨(fun h => nomatch h), rfl, rfl⟩
  | cons first targets ih =>
    have hworks := Lane.serve_works first (laneOf lanes first) o frame
    have hfenced (hne : first = c) : Lane.Fenced (laneOf lanes first) o
        (Lane.serve first frame (laneOf lanes first) o).2 := by
      subst hne
      exact (Lane.fenced_serve hpending frame).2
    rw [serve_cons]
    rcases hout : Lane.serve first frame (laneOf lanes first) o with ⟨accepted, r, s, o'⟩
    rw [hout] at hworks hfenced
    by_cases hne : first = c
    · -- serving the fenced lane is the failure that ends it
      subst hne
      obtain ⟨e, he⟩ := hfenced rfl
      obtain ⟨rfl, hsame⟩ := Prod.mk.inj he
      obtain ⟨rfl, rfl⟩ := Prod.mk.inj hsame
      exact ⟨fun _ => ⟨e, rfl⟩, laneOf_set_self hc _, rfl⟩
    · have hoffers := hworks.uses.offersTo_other hne
      cases r with
      | error e => exact ⟨fun _ => ⟨e, rfl⟩, laneOf_set_of_ne hne s, hoffers⟩
      | ok _ =>
        obtain ⟨herror, hlane, hrest⟩ := ih (lanes.set first.toNat s) o'
          (by rwa [List.length_set]) (by rwa [laneOf_set_of_ne hne])
        refine ⟨fun hmem => herror ?_, hlane.trans (laneOf_set_of_ne hne s), hrest.trans hoffers⟩
        rcases List.mem_cons.1 hmem with h | h
        · exact absurd h.symm hne
        · exact h

end Writer

end Fanout
