import Fanout.Recovery.Throttle
import Mathlib.Algebra.GroupWithZero.Nat
import Mathlib.Data.List.DropRight

/-!
# Warnings

Every failure is a call for a warning. The warnings that go out are an interval apart, and each
tells of its own failure and of those that were kept quiet since the one before. So warnings have
told of all failures but the pending ones.

* `Throttle.Follows` — what a throttle knows of the calls so far.
* `Throttle.Follows.warn` — one more call.
* `Throttle.warnings_law` — all calls, at times that never go back.
-/

namespace Fanout

/-- A call for a warning: when it came and, if the warning went out, how many failures before it
were kept quiet. -/
structure Alarm where
  time : Duration
  told : Option Nat
  deriving DecidableEq

namespace Alarm

variable {alarms : List Alarm} {a : Alarm} {interval now : Duration}

/-- The second of two calls comes no less than an interval after the first. -/
def Apart (interval : Duration) (a b : Alarm) : Prop :=
  a.time.toNanoseconds + interval.toNanoseconds ≤ b.time.toNanoseconds

/-- The calls whose warnings went out. -/
def warnings (alarms : List Alarm) : List Alarm := alarms.filter fun a => a.told.isSome

/-- The calls since the last warning. -/
def hushed (alarms : List Alarm) : List Alarm := alarms.rtakeWhile fun a => a.told.isNone

/-- The failures that the warnings told of: their own and those that were kept quiet. -/
def toldOf (alarms : List Alarm) : Nat := ((alarms.filterMap Alarm.told).map (· + 1)).sum

/-- **A call is due** if no warning went out yet, or an interval has passed since the last. -/
def Due (interval : Duration) (earlier : List Alarm) (a : Alarm) : Prop :=
  ∀ last ∈ (warnings earlier).getLast?, last.Apart interval a

theorem warnings_concat_some {n : Nat} (alarms : List Alarm) (now : Duration) :
    warnings (alarms ++ [⟨now, some n⟩]) = warnings alarms ++ [⟨now, some n⟩] := by
  rw [warnings, List.filter_append, warnings]
  rfl

theorem warnings_concat_none (alarms : List Alarm) (now : Duration) :
    warnings (alarms ++ [⟨now, none⟩]) = warnings alarms := by
  rw [warnings, List.filter_append, warnings]
  exact List.append_nil _

theorem toldOf_concat (alarms : List Alarm) (a : Alarm) :
    toldOf (alarms ++ [a]) = toldOf alarms + (a.told.map (· + 1)).getD 0 := by
  unfold toldOf
  rw [List.filterMap_append, List.map_append, List.sum_append]
  rcases a with ⟨now, _ | n⟩ <;> rfl

/-- What is an interval after the last of some warnings that are apart is so after all of them. -/
theorem Due.apart (hdue : Due interval alarms a)
    (hspaced : (warnings alarms).Pairwise (Apart interval)) :
    ∀ w ∈ warnings alarms, w.Apart interval a := by
  unfold Due at hdue
  rcases (warnings alarms).eq_nil_or_concat with hnil | ⟨front, last, hlast⟩
  · rw [hnil]
    exact List.forall_mem_nil _
  · rw [hlast, List.concat_eq_append] at hspaced hdue ⊢
    have hafter : last.Apart interval a := hdue last List.getLast?_concat
    obtain ⟨-, -, hbefore⟩ := List.pairwise_append.1 hspaced
    refine List.forall_mem_append.2 ⟨fun w hw => ?_, List.forall_mem_singleton.2 hafter⟩
    have hlast := hbefore w hw last (List.mem_singleton_self last)
    unfold Apart at *
    omega

end Alarm

namespace Throttle

open Alarm

variable {alarms : List Alarm} {interval now : Duration} {t : Throttle}

/-- Calls at some times, one after the other. -/
def warnAll (t : Throttle) : List Duration → List Alarm × Throttle
  | [] => ([], t)
  | now :: times =>
    let (told, t) := t.warn now
    let (alarms, t) := t.warnAll times
    (⟨now, told⟩ :: alarms, t)

/-- The last of some calls. -/
theorem warnAll_concat (t : Throttle) (times : List Duration) (now : Duration) :
    t.warnAll (times ++ [now]) =
      let (alarms, t) := t.warnAll times
      (alarms ++ [⟨now, (t.warn now).1⟩], (t.warn now).2) := by
  induction times generalizing t with
  | nil => rfl
  | cons first times ih =>
    simp only [List.cons_append, warnAll, ih]

theorem times_warnAll (t : Throttle) (times : List Duration) :
    (t.warnAll times).1.map Alarm.time = times := by
  induction times generalizing t with
  | nil => rfl
  | cons now times ih => exact congrArg (now :: ·) (ih (t.warn now).2)

/-- **What a throttle knows** of the calls so far: when the last warning went out and what the
numbers of failures are. -/
structure Follows (interval : Duration) (alarms : List Alarm) (t : Throttle) : Prop where
  interval_eq : t.interval = interval
  last_eq : t.last = (warnings alarms).getLast?.map Alarm.time
  pending_eq : t.pending = (hushed alarms).length
  total_eq : t.total = alarms.length
  toldOf_eq : toldOf alarms + t.pending = t.total

theorem follows_start (interval : Duration) : Follows interval [] (start interval) :=
  ⟨rfl, rfl, rfl, rfl, rfl⟩

/-- What a call does. -/
theorem warn_eq (t : Throttle) (now : Duration) :
    t.warn now =
      if t.isDue now then
        (some t.pending, { t with last := some now, pending := 0, total := t.total + 1 })
      else (none, { t with pending := t.pending + 1, total := t.total + 1 }) := rfl

namespace Follows

variable (h : Follows interval alarms t)

include h

/-- **A throttle knows what is due**, if the clock has not gone back since the last warning. -/
theorem isDue_iff {told : Option Nat}
    (hnow : ∀ a ∈ alarms, a.time.toNanoseconds ≤ now.toNanoseconds) :
    t.isDue now = true ↔ Due interval alarms ⟨now, told⟩ := by
  unfold isDue Due
  rw [h.last_eq, h.interval_eq]
  cases hlast : (warnings alarms).getLast? with
  | none => simp
  | some last =>
    -- a clock that went back would make the time since then zero
    have hback := hnow last (List.mem_of_mem_filter (List.mem_of_getLast? hlast))
    simp only [Option.map_some, decide_eq_true_eq, Option.mem_some_iff, forall_eq', Apart]
    omega

/-- A warning goes out when it is due. -/
theorem isSome_warn_iff (hnow : ∀ a ∈ alarms, a.time.toNanoseconds ≤ now.toNanoseconds) :
    (t.warn now).1.isSome = true ↔ Due interval alarms ⟨now, (t.warn now).1⟩ := by
  rw [← h.isDue_iff hnow, warn_eq]
  cases t.isDue now <;> simp

/-- **One more call** keeps what a throttle knows. -/
theorem warn (now : Duration) :
    Follows interval (alarms ++ [⟨now, (t.warn now).1⟩]) (t.warn now).2 := by
  have htold := h.toldOf_eq
  have hpending := h.pending_eq
  rw [warn_eq]
  by_cases hdue : t.isDue now = true
  · rw [if_pos hdue]
    refine ⟨h.interval_eq, ?_, ?_, ?_, ?_⟩
    · rw [warnings_concat_some, List.getLast?_concat]
      rfl
    · rw [hushed, List.rtakeWhile_concat_neg _ _ _ Bool.false_ne_true]
      rfl
    · rw [List.length_append, h.total_eq]
      rfl
    · rw [toldOf_concat]
      show toldOf alarms + (t.pending + 1) + 0 = t.total + 1
      omega
  · rw [if_neg hdue]
    refine ⟨h.interval_eq, ?_, ?_, ?_, ?_⟩
    · rw [warnings_concat_none]
      exact h.last_eq
    · rw [hushed, List.rtakeWhile_concat_pos _ _ _ rfl, List.length_append, hpending, hushed]
      rfl
    · rw [List.length_append, h.total_eq]
      rfl
    · rw [toldOf_concat]
      show toldOf alarms + 0 + (t.pending + 1) = t.total + 1
      omega

end Follows

theorem follows_warnAll (interval : Duration) (times : List Duration) :
    Follows interval ((start interval).warnAll times).1 ((start interval).warnAll times).2 := by
  induction times using List.reverseRecOn with
  | nil => exact follows_start interval
  | append_singleton times now ih =>
    rw [warnAll_concat]
    exact ih.warn now

variable {times : List Duration}

/-- A time that is no earlier than some others comes after all calls at those. -/
theorem times_le (h : ∀ n ∈ times.map Duration.toNanoseconds, n ≤ now.toNanoseconds) :
    ∀ a ∈ (t.warnAll times).1, a.time.toNanoseconds ≤ now.toNanoseconds := by
  intro a ha
  have htime : a.time ∈ (t.warnAll times).1.map Alarm.time := List.mem_map_of_mem ha
  rw [times_warnAll] at htime
  exact h _ (List.mem_map_of_mem htime)

/-- Sorted times, and the last of them. -/
theorem sorted_concat
    (h : ((times ++ [now]).map Duration.toNanoseconds).Pairwise (· ≤ ·)) :
    (times.map Duration.toNanoseconds).Pairwise (· ≤ ·) ∧
      ∀ n ∈ times.map Duration.toNanoseconds, n ≤ now.toNanoseconds := by
  rw [List.map_append] at h
  obtain ⟨hsorted, -, hlast⟩ := List.pairwise_append.1 h
  exact ⟨hsorted, fun n hn => hlast n hn _ (List.mem_singleton_self _)⟩

/-- **Warnings are an interval apart.** -/
theorem apart_warnAll (hsorted : (times.map Duration.toNanoseconds).Pairwise (· ≤ ·)) :
    (warnings ((start interval).warnAll times).1).Pairwise (Apart interval) := by
  induction times using List.reverseRecOn with
  | nil => exact .nil
  | append_singleton times now ih =>
    obtain ⟨hsorted, hlast⟩ := sorted_concat hsorted
    have hspaced := ih hsorted
    have hdue := (follows_warnAll interval times).isSome_warn_iff (times_le hlast)
    rw [warnAll_concat]
    dsimp only
    cases htold : (((start interval).warnAll times).2.warn now).1 with
    | none =>
      rw [warnings_concat_none]
      exact hspaced
    | some n =>
      rw [htold] at hdue
      rw [warnings_concat_some]
      -- the new warning is apart from the last one, and so from all of them
      refine List.pairwise_append.2 ⟨hspaced, List.pairwise_singleton _ _, fun w hw a ha => ?_⟩
      obtain rfl := List.mem_singleton.1 ha
      exact (hdue.1 rfl).apart hspaced w hw

/-- **The warnings of the calls that are due go out**, and of no others. -/
theorem due_warnAll (hsorted : (times.map Duration.toNanoseconds).Pairwise (· ≤ ·))
    {earlier later : List Alarm} {a : Alarm}
    (hcut : ((start interval).warnAll times).1 = earlier ++ a :: later) :
    a.told.isSome = true ↔ Due interval earlier a := by
  induction times using List.reverseRecOn generalizing later with
  | nil => exact absurd hcut.symm (List.append_ne_nil_of_right_ne_nil _ (List.cons_ne_nil _ _))
  | append_singleton times now ih =>
    obtain ⟨hsorted, hlast⟩ := sorted_concat hsorted
    rw [warnAll_concat] at hcut
    -- the call is the last one, or it is among those before
    rcases later.eq_nil_or_concat with rfl | ⟨later, last, rfl⟩
    · obtain ⟨rfl, hcall⟩ := List.append_inj' hcut rfl
      obtain rfl := List.singleton_inj.1 hcall
      exact (follows_warnAll interval times).isSome_warn_iff (times_le hlast)
    · rw [List.concat_eq_append, ← List.cons_append, ← List.append_assoc] at hcut
      exact ih hsorted (List.append_inj' hcut rfl).1

/-- **Throttled warnings lose no failure.** Take any interval, and any calls so far, at times that
never go back. The warning of the first call goes out and tells of no other failure. Any two
warnings that go out are at least the interval apart, and that of a call goes out if and only if
none did before or the interval has passed since the last. The total is the number of calls, and the
pending ones are those since the last warning. The failures that the warnings told of and the
pending ones are together all the failures. -/
theorem warnings_law (interval : Duration) (times : List Duration)
    (hsorted : (times.map Duration.toNanoseconds).Pairwise (· ≤ ·)) :
    let alarms := ((start interval).warnAll times).1
    let t := ((start interval).warnAll times).2
    alarms.map Alarm.time = times ∧
    (∀ first ∈ alarms.head?, first.told = some 0) ∧
    (warnings alarms).Pairwise (Apart interval) ∧
    (∀ earlier a later, alarms = earlier ++ a :: later →
      (a.told.isSome = true ↔ Due interval earlier a)) ∧
    t.total = times.length ∧
    t.pending = (hushed alarms).length ∧
    toldOf alarms + t.pending = t.total := by
  intro alarms t
  have hfollows : Follows interval alarms t := follows_warnAll interval times
  have htimes : alarms.map Alarm.time = times := times_warnAll _ times
  refine ⟨htimes, ?_, apart_warnAll hsorted, fun _ _ _ => due_warnAll hsorted, ?_,
    hfollows.pending_eq, hfollows.toldOf_eq⟩
  · cases times with
    | nil => exact fun _ hmem => nomatch hmem
    | cons now times =>
      rintro first hmem
      obtain rfl := Option.some.inj hmem
      rfl
  · rw [hfollows.total_eq, ← htimes, List.length_map]

/-- An interval of ten seconds: the calls at three seconds and one nanosecond before the interval
has passed are kept quiet, the one on time tells of them, and one more is pending. -/
theorem warnings_law_small :
    let times : List Duration := [⟨5, 0⟩, ⟨8, 0⟩, ⟨14, 999999999⟩, ⟨15, 0⟩, ⟨15, 0⟩]
    let alarms := ((start (.ofSeconds 10)).warnAll times).1
    let t := ((start (.ofSeconds 10)).warnAll times).2
    (times.map Duration.toNanoseconds).Pairwise (· ≤ ·) ∧
    alarms.map Alarm.told = [some 0, none, none, some 2, none] ∧
    (warnings alarms).Pairwise (Apart (.ofSeconds 10)) ∧
    t.total = 5 ∧ t.pending = 1 ∧ toldOf alarms = 4 := by
  intro times alarms t
  have hsorted : (times.map Duration.toNanoseconds).Pairwise (· ≤ ·) := by decide
  obtain ⟨-, -, hspaced, -, htotal, hpending, htold⟩ :=
    warnings_law (.ofSeconds 10) times hsorted
  have hpending : t.pending = 1 := hpending.trans (by decide +kernel)
  refine ⟨hsorted, by decide +kernel, hspaced, htotal, hpending, ?_⟩
  change toldOf alarms + t.pending = t.total at htold
  rw [hpending, show t.total = 5 from htotal] at htold
  exact Nat.succ.inj htold

end Throttle

end Fanout
