import Fanout.Proofs.Recovery.Frames
import Fanout.Proofs.Recovery.Ready
import Mathlib.Data.List.Dedup

/-!
# Failed segments

A segment that could not be opened or written is given up for its superstep. Its channel is barred
from it (`Barred`): frames of the superstep fail at once and leave log and disk alone, until the
channel turns to another superstep, whose segment it opens. While supersteps only go forward, no
segment fails twice, so the failures of a log are the segments that failed and the closings.

* `logFrame_of_barred`, `barred_callAll` — a barred channel stays as it is.
* `followed_run` — no segment fails twice, and an open one is that of the last frame.
* `failed_run` — failed segments are not tried again in their superstep.
-/

namespace Fanout

/-- The superstep of a frame that is handed over for the channel. -/
def LogCall.stepOn? (c : ChannelId) : LogCall → Option Superstep
  | .frame _ c' superstep _ => if c' = c then superstep else none
  | .finish _ => none

/-- On every channel supersteps only go forward. -/
def LogCall.InOrder (calls : List LogCall) : Prop :=
  ∀ c, (calls.filterMap (LogCall.stepOn? c)).Pairwise (· ≤ ·)

namespace RecoveryLog

variable {l l' : RecoveryLog} {c c' : ChannelId} {step s : Superstep} {d : Disk}
  {state : RecoveryLog × Disk}

/-! ## Barred channels -/

/-- The segment of the superstep failed and was given up. -/
structure Barred (s : Superstep) (state : ChannelLog) : Prop where
  segment_eq : state.segment = none
  broken_eq : state.broken = some s

theorem Barred.broken_ne {state : ChannelLog} (h : Barred s state) (hne : step ≠ s) :
    state.broken ≠ some step := fun heq =>
  hne (Option.some.inj (heq.symm.trans h.broken_eq))

/-- A frame that fails bars its channel from its superstep. -/
theorem Resumed.barred_of_failed {state state' : ChannelLog} {outcome : LogOutcome}
    {as : List Attempt} (h : Resumed c step state outcome as state') (hfailed : outcome = .failed) :
    Barred step state' := by
  cases h with
  | written | opened => exact nomatch hfailed
  | unwritten | openedUnwritten => exact ⟨rfl, rfl⟩
  | barred hnone hbroken => exact ⟨hnone, hbroken⟩
  | unopened hnone _ => exact ⟨hnone, rfl⟩

theorem leave_of_none {state : ChannelLog} (h : state.segment = none) (step : Superstep) :
    state.leave step = state := by
  rw [ChannelLog.leave, h]

section Barred

variable (h : Barred s (l.channel c))

include h

theorem leaveSegment_of_barred (now : Duration) (step : Superstep) (d : Disk) :
    l.leaveSegment now c step d = (l, d) := by
  rw [leaveSegment, h.segment_eq]

/-- **A segment that failed is not tried again**: a frame fails at once, and log and disk stay as
they are. -/
theorem logFrame_of_barred (hengaged : l.isEngaged c (some s) = true) (now : Duration)
    (bytes : ByteArray) (d : Disk) : l.logFrame now c (some s) bytes d = (.failed, l, d) := by
  rw [logFrame_of_engaged hengaged, leaveSegment_of_barred h, resume, h.segment_eq]
  exact if_pos h.broken_eq

/-- **In another superstep** a frame opens a segment and writes to it. -/
theorem logFrame_of_moved (hengaged : l.isEngaged c (some step) = true) (hne : step ≠ s)
    (now : Duration) (bytes : ByteArray) (d : Disk) :
    l.logFrame now c (some step) bytes d = l.writeFirst now c step bytes d := by
  rw [logFrame_of_engaged hengaged, leaveSegment_of_barred h, resume, h.segment_eq]
  exact if_neg (h.broken_ne hne)

/-- It tries to open one only once. -/
theorem attempts_of_barred (hengaged : l.isEngaged c (some step) = true) (hne : step ≠ s)
    (now : Duration) (bytes : ByteArray) (d : Disk) :
    (attempts (l, d) (.frame now c (some step) bytes)).countP Attempt.isOpening = 1 := by
  have hleft : l.leaveAttempts c step d = [] := by
    rw [leaveAttempts, h.segment_eq]
  rw [attempts_of_engaged hengaged, leaveSegment_of_barred h, hleft, List.nil_append,
    resumeAttempts, h.segment_eq]
  dsimp only
  rw [if_neg (h.broken_ne hne)]
  split
  · rfl
  · rfl

end Barred

/-- A barred channel stays so until it turns to another superstep. -/
theorem barred_call (h : Barred s (state.1.channel c)) {use : LogCall}
    (hstays : ∀ t ∈ use.stepOn? c, t = s) : Barred s ((call state use).1.channel c) := by
  cases use with
  | finish now =>
    show Barred s ((state.1.finishAll now state.2).2.1.channel c)
    rw [channel_finishAll]
    exact ⟨rfl, h.broken_eq⟩
  | frame now c' superstep bytes =>
    show Barred s ((state.1.logFrame now c' superstep bytes state.2).2.1.channel c)
    by_cases hc : c' = c
    · subst hc
      cases hengaged : state.1.isEngaged c' superstep with
      | false =>
        rw [logFrame_of_not_engaged hengaged]
        exact h
      | true =>
        obtain ⟨step, rfl⟩ := exists_step_of_engaged hengaged
        obtain rfl : step = s := hstays step (by simp [LogCall.stepOn?])
        rw [logFrame_of_barred h hengaged]
        exact h
    · rw [(alike_logFrame hc _ now superstep bytes _).channel_eq]
      exact h

theorem barred_callAll (h : Barred s (state.1.channel c)) {calls : List LogCall}
    (hstays : ∀ t ∈ calls.filterMap (LogCall.stepOn? c), t = s) :
    Barred s ((callAll state calls).1.channel c) := by
  induction calls generalizing state with
  | nil => exact h
  | cons use uses ih =>
    refine ih (barred_call h fun t ht => hstays t ?_) fun t ht => hstays t ?_
    · exact List.mem_filterMap.2 ⟨use, List.mem_cons_self, ht⟩
    · obtain ⟨later, hlater, ht⟩ := List.mem_filterMap.1 ht
      exact List.mem_filterMap.2 ⟨later, List.mem_cons_of_mem _ hlater, ht⟩

/-! ## Runs -/

/-- The superstep of a frame of the channel that was not skipped. -/
def visits (c : ChannelId) (state : RecoveryLog × Disk) : LogCall → List Superstep
  | .frame now c' superstep bytes =>
    if c' = c ∧ (state.1.logFrame now c' superstep bytes state.2).1 ≠ .skipped then superstep.toList
    else []
  | .finish _ => []

theorem visits_of_ne (h : c' ≠ c) (state : RecoveryLog × Disk) (now : Duration)
    (superstep : Option Superstep) (bytes : ByteArray) :
    visits c state (.frame now c' superstep bytes) = [] := if_neg fun hc => h hc.1

theorem visits_of_engaged (h : state.1.isEngaged c (some step) = true) (now : Duration)
    (bytes : ByteArray) : visits c state (.frame now c (some step) bytes) = [step] := by
  refine if_pos ⟨rfl, fun hskipped => ?_⟩
  rw [outcome_eq_skipped_iff, h] at hskipped
  exact nomatch hskipped

theorem visits_of_not_engaged {superstep : Option Superstep}
    (h : state.1.isEngaged c superstep = false) (now : Duration) (bytes : ByteArray) :
    visits c state (.frame now c superstep bytes) = [] := by
  refine if_neg fun hlogged => hlogged.2 ?_
  rw [logFrame_of_not_engaged h]

theorem visits_sublist (c : ChannelId) (state : RecoveryLog × Disk) (use : LogCall) :
    (visits c state use).Sublist (use.stepOn? c).toList := by
  cases use with
  | finish now => exact List.Sublist.refl _
  | frame now c' superstep bytes =>
    by_cases hc : c' = c
    · rw [LogCall.stepOn?, if_pos hc, visits]
      split
      · exact List.Sublist.refl _
      · exact List.nil_sublist _
    · rw [visits_of_ne hc]
      exact List.nil_sublist _

theorem along_visits_sublist (c : ChannelId) (state : RecoveryLog × Disk) (calls : List LogCall) :
    (along (visits c) state calls).Sublist (calls.filterMap (LogCall.stepOn? c)) := by
  induction calls generalizing state with
  | nil => exact List.Sublist.refl _
  | cons use uses ih =>
    have hcons : (use :: uses).filterMap (LogCall.stepOn? c) =
        (use.stepOn? c).toList ++ uses.filterMap (LogCall.stepOn? c) := by
      rw [List.filterMap_cons]
      cases use.stepOn? c <;> rfl
    rw [hcons]
    exact (visits_sublist c state use).append (ih _)

theorem failedSegments_leaveAttempts (l : RecoveryLog) (c : ChannelId) (step : Superstep)
    (d : Disk) : (l.leaveAttempts c step d).filterMap Attempt.failedSegment? = [] := by
  obtain hnone | ⟨ok, hclosing⟩ := l.leaveAttempts_eq c step d
  · rw [hnone]
    rfl
  · rw [hclosing]
    rfl

theorem failedSegments_closeAttempts (ws : List SegmentWriter) (d : Disk) :
    (closeAttempts ws d).filterMap Attempt.failedSegment? = [] := by
  induction ws generalizing d with
  | nil => rfl
  | cons w ws ih => exact ih _

/-- A segment fails only if it was not barred, and is barred then. -/
theorem Resumed.failedSegments {state state' : ChannelLog} {outcome : LogOutcome}
    {as : List Attempt} (h : Resumed c step state outcome as state') :
    as.filterMap Attempt.failedSegment? = [] ∧ (Barred step state → Barred step state') ∨
      as.filterMap Attempt.failedSegment? = [(c, step)] ∧ ¬Barred step state ∧
        Barred step state' := by
  cases h with
  | written hsome _ => exact .inl ⟨rfl, fun hbarred => nomatch hsome.symm.trans hbarred.1⟩
  | unwritten hsome =>
    exact .inr ⟨rfl, fun hbarred => (nomatch hsome.symm.trans hbarred.1), rfl, rfl⟩
  | barred _ _ => exact .inl ⟨rfl, id⟩
  | unopened hnone hbroken => exact .inr ⟨rfl, fun hbarred => hbroken hbarred.2, hnone, rfl⟩
  | opened _ hbroken _ => exact .inl ⟨rfl, fun hbarred => absurd hbarred.2 hbroken⟩
  | openedUnwritten _ hbroken => exact .inr ⟨rfl, fun hbarred => hbroken hbarred.2, rfl, rfl⟩

theorem superstep_of_leave {state : ChannelLog} {w : SegmentWriter}
    (h : (state.leave step).segment = some w) : w.superstep = step := by
  unfold ChannelLog.leave at h
  split at h
  · rename_i hnone
    exact nomatch hnone.symm.trans h
  · rename_i w' hsome
    split at h
    · rename_i hstep
      obtain rfl := Option.some.inj (hsome.symm.trans h)
      exact hstep
    · exact nomatch h

/-- The segment that a frame leaves open is that of its superstep. -/
theorem Resumed.superstep_eq {state state' : ChannelLog} {outcome : LogOutcome} {as : List Attempt}
    {w : SegmentWriter} (h : Resumed c step (state.leave step) outcome as state')
    (hsome : state'.segment = some w) : w.superstep = step := by
  cases h with
  | written hbefore hsame =>
    obtain rfl := Option.some.inj hsome
    exact hsame.trans (superstep_of_leave hbefore)
  | unwritten _ | openedUnwritten _ _ => exact nomatch hsome
  | barred _ _ => exact superstep_of_leave hsome
  | unopened hnone _ => exact nomatch hnone.symm.trans hsome
  | opened _ _ hstep =>
    obtain rfl := Option.some.inj hsome
    exact hstep

/-- How the channels of a log stand to the supersteps they went through and to the segments that
failed. -/
structure Followed (visited : ChannelId → List Superstep) (broke : List (ChannelId × Superstep))
    (l : RecoveryLog) : Prop where
  nodup : broke.Nodup
  last_eq : ∀ c w, (l.channel c).segment = some w → (visited c).getLast? = some w.superstep
  visited_of_broke : ∀ c s, (c, s) ∈ broke → s ∈ visited c
  barred_of_broke : ∀ c s, (c, s) ∈ broke → (visited c).getLast? = some s → Barred s (l.channel c)

theorem followed_make (scope : LogScope) : Followed (fun _ => []) [] (make scope) where
  nodup := List.nodup_nil
  last_eq c w hw := by
    have hstart : (make scope).channel c = ChannelLog.start := by
      unfold make channel
      rw [List.getElem?_replicate]
      split <;> rfl
    rw [hstart] at hw
    exact nomatch hw
  visited_of_broke _ _ h := nomatch h
  barred_of_broke _ _ h := nomatch h

/-- The greatest of a sequence in order is its last. -/
theorem getLast?_of_pairwise {steps : List Superstep} (h : (steps ++ [s]).Pairwise (· ≤ ·))
    (hmem : s ∈ steps) : steps.getLast? = some s := by
  obtain ⟨front, last, rfl⟩ :=
    (List.eq_nil_or_concat' steps).resolve_left (List.ne_nil_of_mem hmem)
  obtain ⟨hsteps, -, hgreatest⟩ := List.pairwise_append.1 h
  rw [List.getLast?_concat]
  rcases List.mem_append.1 hmem with hfront | hlast
  · have hge : s ≤ last :=
      (List.pairwise_append.1 hsteps).2.2 s hfront last (List.mem_singleton_self last)
    have hle : last ≤ s := hgreatest last (by simp) s (List.mem_singleton_self s)
    exact congrArg some (Superstep.ext_toNat (Nat.le_antisymm hle hge))
  · rw [List.mem_singleton.1 hlast]

variable {visited : ChannelId → List Superstep} {broke : List (ChannelId × Superstep)}

/-- A frame of a log that is engaged, where supersteps do not go back. -/
theorem followed_frame (h : Followed visited broke l) (hengaged : l.isEngaged c (some step) = true)
    (hordered : (visited c ++ [step]).Pairwise (· ≤ ·)) (now : Duration) (bytes : ByteArray)
    (d : Disk) :
    Followed (fun c' => visited c' ++ if c = c' then [step] else [])
      (broke ++ (attempts (l, d) (.frame now c (some step) bytes)).filterMap Attempt.failedSegment?)
      (l.logFrame now c (some step) bytes d).2.1 := by
  obtain ⟨as, has, hresumed⟩ := logFrame_resumed hengaged now bytes d
  have hother {c'} (hne : c ≠ c') := (alike_logFrame hne l now (some step) bytes d).channel_eq
  have hfailed := hresumed.failedSegments
  have hbarred : (c, step) ∈ broke → Barred step ((l.channel c).leave step) := fun hmem => by
    have hbarred := h.barred_of_broke c step hmem
      (getLast?_of_pairwise hordered (h.visited_of_broke c step hmem))
    rw [leave_of_none hbarred.segment_eq]
    exact hbarred
  rw [has, List.filterMap_append, failedSegments_leaveAttempts, List.nil_append]
  refine ⟨?nodup, fun c' w hw => ?last, fun c' s hmem => ?visited, fun c' s hmem hlast => ?barred⟩
  case nodup =>
    obtain ⟨hnone, -⟩ | ⟨hone, hnot, -⟩ := hfailed
    · rw [hnone, List.append_nil]
      exact h.nodup
    · rw [hone, List.nodup_append]
      refine ⟨h.nodup, List.nodup_singleton _, fun x hx y hy => ?_⟩
      rintro rfl
      rw [List.mem_singleton] at hy
      exact hnot (hbarred (hy ▸ hx))
  case last =>
    by_cases hc : c = c'
    · subst hc
      rw [if_pos rfl, List.getLast?_concat, hresumed.superstep_eq hw]
    · rw [if_neg hc, List.append_nil]
      rw [hother hc] at hw
      exact h.last_eq c' w hw
  case visited =>
    rcases List.mem_append.1 hmem with hold | hnew
    · exact List.mem_append_left _ (h.visited_of_broke c' s hold)
    · obtain ⟨hnone, -⟩ | ⟨hone, -, -⟩ := hfailed
      · rw [hnone] at hnew
        exact nomatch hnew
      · rw [hone, List.mem_singleton] at hnew
        obtain ⟨rfl, rfl⟩ := Prod.mk.inj hnew
        rw [if_pos rfl]
        exact List.mem_append_right _ (List.mem_singleton_self s)
  case barred =>
    by_cases hc : c = c'
    · subst hc
      rw [if_pos rfl, List.getLast?_concat] at hlast
      obtain rfl := Option.some.inj hlast
      obtain ⟨hnone, hkept⟩ | ⟨-, -, hnew⟩ := hfailed
      · rw [hnone, List.append_nil] at hmem
        exact hkept (hbarred hmem)
      · exact hnew
    · rw [if_neg hc, List.append_nil] at hlast
      rw [hother hc]
      rcases List.mem_append.1 hmem with hold | hnew
      · exact h.barred_of_broke c' s hold hlast
      · obtain ⟨hnone, -⟩ | ⟨hone, -, -⟩ := hfailed
        · rw [hnone] at hnew
          exact nomatch hnew
        · rw [hone, List.mem_singleton] at hnew
          exact absurd (Prod.mk.inj hnew).1.symm hc

theorem followed_call (h : Followed visited broke state.1) (use : LogCall)
    (hordered : ∀ c, (visited c ++ visits c state use).Pairwise (· ≤ ·)) :
    Followed (fun c => visited c ++ visits c state use)
      (broke ++ (attempts state use).filterMap Attempt.failedSegment?) (call state use).1 := by
  cases use with
  | finish now =>
    have hnone : (attempts state (.finish now)).filterMap Attempt.failedSegment? = [] :=
      failedSegments_closeAttempts _ _
    have hfinish c := state.1.channel_finishAll now c state.2
    rw [hnone, List.append_nil]
    refine ⟨h.nodup, fun c w hw => ?_, fun c s hmem => ?_, fun c s hmem hlast => ?_⟩
    · change ((state.1.finishAll now state.2).2.1.channel c).segment = some w at hw
      rw [hfinish] at hw
      exact nomatch hw
    · exact List.mem_append_left _ (h.visited_of_broke c s hmem)
    · rw [visits, List.append_nil] at hlast
      show Barred s ((state.1.finishAll now state.2).2.1.channel c)
      rw [hfinish]
      exact ⟨rfl, (h.barred_of_broke c s hmem hlast).broken_eq⟩
  | frame now c superstep bytes =>
    cases hengaged : state.1.isEngaged c superstep with
    | false =>
      have hvisits c' : visits c' state (.frame now c superstep bytes) = [] := by
        by_cases hc : c = c'
        · subst hc
          exact visits_of_not_engaged hengaged now bytes
        · exact visits_of_ne hc state now superstep bytes
      have hsame : (call state (.frame now c superstep bytes)).1 = state.1 :=
        congrArg (·.2.1) (logFrame_of_not_engaged hengaged now bytes state.2)
      simp only [hvisits, List.append_nil]
      rw [attempts_of_not_engaged hengaged, hsame]
      rw [List.filterMap_nil, List.append_nil]
      exact h
    | true =>
      obtain ⟨step, rfl⟩ := exists_step_of_engaged hengaged
      have hvisits c' : visits c' state (.frame now c (some step) bytes) =
          if c = c' then [step] else [] := by
        by_cases hc : c = c'
        · subst hc
          rw [if_pos rfl]
          exact visits_of_engaged hengaged now bytes
        · rw [if_neg hc]
          exact visits_of_ne hc state now (some step) bytes
      have hc := hordered c
      rw [hvisits, if_pos rfl] at hc
      simp only [hvisits]
      exact followed_frame h hengaged hc now bytes state.2

theorem followed_run (scope : LogScope) (d : Disk) {calls : List LogCall}
    (hordered : LogCall.InOrder calls) :
    Followed (fun c => along (visits c) (make scope, d) calls)
      ((along attempts (make scope, d) calls).filterMap Attempt.failedSegment?)
      (callAll (make scope, d) calls).1 := by
  induction calls using List.reverseRecOn with
  | nil => exact followed_make scope
  | append_singleton uses use ih =>
    have hbefore : LogCall.InOrder uses := fun c =>
      (hordered c).sublist ((List.sublist_append_left uses [use]).filterMap _)
    have hone {β : Type} (f : RecoveryLog × Disk → LogCall → List β) :
        along f (make scope, d) (uses ++ [use]) =
          along f (make scope, d) uses ++ f (callAll (make scope, d) uses) use := by
      rw [along_append, along, along, List.append_nil]
    have hcall := followed_call (ih hbefore) use fun c => by
      rw [← hone]
      exact (hordered c).sublist (along_visits_sublist c _ _)
    simp only [hone, List.filterMap_append]
    rw [callAll_concat]
    exact hcall

theorem engaged_of_failed {superstep : Option Superstep} {now : Duration} {bytes : ByteArray}
    (h : (l.logFrame now c superstep bytes d).1 = .failed) : l.isEngaged c superstep = true := by
  cases hengaged : l.isEngaged c superstep with
  | true => rfl
  | false =>
    rw [logFrame_of_not_engaged hengaged] at h
    exact nomatch h

/-- A log is engaged on the same channels throughout, within any superstep. -/
theorem isEngaged_callAll (scope : LogScope) (d : Disk) (calls more : List LogCall)
    (c : ChannelId) (s s' : Superstep) :
    (callAll (make scope, d) calls).1.isEngaged c (some s) =
      (callAll (make scope, d) more).1.isEngaged c (some s') := by
  have hfor (calls : List LogCall) : (callAll (make scope, d) calls).1.IsFor scope := by
    induction calls using List.reverseRecOn with
    | nil => exact isFor_make scope
    | append_singleton uses use ih =>
      rw [callAll_concat]
      exact isFor_call ih use
  rw [(hfor calls).isEngaged_eq, (hfor more).isEngaged_eq]
  rfl

/-- **A channel on which a frame failed** is barred as long as no later superstep comes. -/
theorem barred_since_failed {scope : LogScope} {d : Disk} {before between : List LogCall}
    {now : Duration} {bytes : ByteArray}
    (hordered : LogCall.InOrder (before ++ .frame now c (some s) bytes :: between))
    (hbetween : ∀ t ∈ between.filterMap (LogCall.stepOn? c), t ≤ s)
    (hfailed : ((callAll (make scope, d) before).1.logFrame now c (some s) bytes
      (callAll (make scope, d) before).2).1 = .failed) :
    Barred s ((callAll (make scope, d) (before ++ .frame now c (some s) bytes :: between)).1.channel
      c) := by
  obtain ⟨as, -, hresumed⟩ := logFrame_resumed (engaged_of_failed hfailed) now bytes
    (callAll (make scope, d) before).2
  -- the supersteps in between are not before this one either
  have hsteps : ∀ t ∈ between.filterMap (LogCall.stepOn? c), t = s := fun t ht => by
    have hc := hordered c
    rw [List.filterMap_append, List.pairwise_append] at hc
    have hframe : LogCall.stepOn? c (.frame now c (some s) bytes) = some s := if_pos rfl
    rw [List.filterMap_cons_some hframe, List.pairwise_cons] at hc
    exact Superstep.ext_toNat (Nat.le_antisymm (hbetween t ht) (hc.2.1.1 t ht))
  rw [callAll, List.foldl_append]
  exact barred_callAll (hresumed.barred_of_failed hfailed) hsteps

/-- **A failed segment is not tried again in its superstep**, whatever fails on the disk, when
supersteps never go back. Up to a later superstep every frame of the channel fails and leaves log
and disk as they are, and the first frame of the later one opens a segment, once. Other channels go
on as if nothing had failed. An open segment is that of the last frame that was not skipped, and
what the log counts as failures are the segments that could not be opened or written and the
closings that failed. -/
theorem failed_run (scope : LogScope) (d : Disk) {calls : List LogCall}
    (hordered : LogCall.InOrder calls) :
    let start := (make scope, d)
    let state := callAll start calls
    let tried := along attempts start calls
    (∀ before now c s bytes between, calls = before ++ .frame now c (some s) bytes :: between →
      (∀ t ∈ between.filterMap (LogCall.stepOn? c), t ≤ s) →
      ((callAll start before).1.logFrame now c (some s) bytes (callAll start before).2).1 =
        .failed →
      ∀ now' bytes',
        state.1.logFrame now' c (some s) bytes' state.2 = (.failed, state) ∧
        ∀ s', s < s' →
          state.1.logFrame now' c (some s') bytes' state.2 =
            state.1.writeFirst now' c s' bytes' state.2 ∧
          (attempts state (.frame now' c (some s') bytes')).countP Attempt.isOpening = 1) ∧
    (∀ now c superstep bytes c', c ≠ c' →
      let after := (state.1.logFrame now c superstep bytes state.2).2.1
      after.channel c' = state.1.channel c' ∧
      ∀ now' superstep' bytes' d',
        (after.logFrame now' c' superstep' bytes' d').1 =
          (state.1.logFrame now' c' superstep' bytes' d').1 ∧
        (after.logFrame now' c' superstep' bytes' d').2.1.channel c' =
          (state.1.logFrame now' c' superstep' bytes' d').2.1.channel c' ∧
        (after.logFrame now' c' superstep' bytes' d').2.2 =
          (state.1.logFrame now' c' superstep' bytes' d').2.2) ∧
    (∀ c w, (state.1.channel c).segment = some w →
      (along (visits c) start calls).getLast? = some w.superstep) ∧
    state.1.failureCount =
      (tried.filterMap Attempt.failedSegment?).dedup.length +
        tried.countP Attempt.failedClosing ∧
    state.1.opened = tried.countP Attempt.hasOpened ∧
    state.1.records = tried.countP Attempt.hasWritten := by
  intro start state tried
  have haddressed : start.1.Addressed := addressed_make scope
  have hcounted := counted_run haddressed calls
  have hfollowed := followed_run scope d hordered
  refine ⟨?failed, ?others, hfollowed.last_eq, ?count, ?opened, ?records⟩
  case failed =>
    rintro before now c s bytes between rfl hbetween hfailed now' bytes'
    have hbarred := barred_since_failed hordered hbetween hfailed
    have hstill (s' : Superstep) : state.1.isEngaged c (some s') = true :=
      (isEngaged_callAll scope d _ before c s' s).trans (engaged_of_failed hfailed)
    refine ⟨logFrame_of_barred hbarred (hstill s) now' bytes' state.2, fun s' hs' => ?_⟩
    have hne : s' ≠ s := fun heq => Nat.lt_irrefl s.toNat (heq ▸ hs')
    exact ⟨logFrame_of_moved hbarred (hstill s') hne now' bytes' state.2,
      attempts_of_barred hbarred (hstill s') hne now' bytes' state.2⟩
  case others =>
    intro now c superstep bytes c' hne after
    have halike := alike_logFrame hne state.1 now superstep bytes state.2
    refine ⟨halike.channel_eq, fun now' superstep' bytes' d' => ?_⟩
    obtain ⟨houtcome, hafter, hdisk⟩ := halike.logFrame now' d' superstep' bytes'
    exact ⟨houtcome, hafter.channel_eq, hdisk⟩
  case count =>
    rw [hfollowed.nodup.dedup, ← Attempt.countP_failed]
    exact hcounted.failures_eq.trans (Nat.zero_add _)
  case opened => exact hcounted.opened_eq.trans (Nat.zero_add _)
  case records => exact hcounted.records_eq.trans (Nat.zero_add _)

/-- A segment that could not be opened, in a log whose disk is well again. -/
theorem failed_run_small :
    let start := (make smallScope, { Disk.empty with faults := .window 0 1 .storageFull })
    let calls : List LogCall :=
      [.frame .zero ⟨1⟩ (some ⟨4⟩) (pack [1]), .frame .zero ⟨1⟩ (some ⟨4⟩) (pack [2])]
    let state := callAll start calls
    state.1.failureCount = 1 ∧
      state.1.logFrame .zero ⟨1⟩ (some ⟨4⟩) (pack [3]) state.2 = (.failed, state) := by
  intro start calls state
  have hordered : LogCall.InOrder calls := fun c => by
    by_cases hc : (⟨1⟩ : ChannelId) = c
    · subst hc
      decide
    · simp [calls, LogCall.stepOn?, hc]
  obtain ⟨hfailed, -, -, hcount, -, -⟩ := failed_run smallScope start.2 hordered
  refine ⟨hcount.trans (by decide +kernel), ?_⟩
  exact (hfailed [] .zero ⟨1⟩ ⟨4⟩ (pack [1]) _ rfl (by decide) (by decide +kernel) .zero
    (pack [3])).1

end RecoveryLog

end Fanout
