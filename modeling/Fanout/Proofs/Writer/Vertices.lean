import Fanout.Proofs.Writer.Attempts
import Fanout.Proofs.Writer.Ranges
import Fanout.Proofs.Writer.Requests
import Fanout.Proofs.Writer.Serializers
import Fanout.Proofs.Writer.Streams
import Fanout.Writer.Vertex

/-!
# The edges of a vertex

The edges of a vertex go to the first call that uses them and to no other, also if that call fails.
Messages along the edges are emissions of the writer in the order of the edges, up to the first that
fails; a message to a single vertex is an emission and has nothing to do with the edges.

* `Writer.emit_ne_edgesAlreadyUsed` — that the edges are used is never what an emission fails with.
* `MessagingContext.sendEach_eq` — messages along some edges, as operations of the writer.
* `MessagingContext.sendAll_fansOut` — how messages along the edges end.
* `MessagingContext.edges_used_once` — every call of a vertex, after any calls.
-/

namespace Fanout

/-! ## What emissions do not complain of -/

theorem Outlet.request_ne_edgesAlreadyUsed {o : Outlet} :
    o.request.1 ≠ .error .edgesAlreadyUsed := by
  intro h
  obtain ⟨ts, waits, -, -, hdenies⟩ := Outlet.request_denied h
  cases hdenies

theorem Lane.refill_ne_edgesAlreadyUsed (c : ChannelId) (s : Serializer) (o : Outlet) :
    (refill c s o).1 ≠ .error .edgesAlreadyUsed := by
  intro h
  fun_induction refill c s o with
  | case1 s o cause emptied sent hs =>
    obtain rfl := Except.error.inj h
    unfold surrender Outlet.forward at hs
    split at hs
    · cases hs
    · dsimp only at hs
      split at hs
      · cases hs
      · split at hs <;> cases hs
  | case2 s o emptied sent hs cause o' hrequest =>
    obtain rfl := Except.error.inj h
    exact Outlet.request_ne_edgesAlreadyUsed (congrArg Prod.fst hrequest)
  | case3 s o emptied sent hs granted hrequest progress next hinstall hp ih => exact ih h
  | case4 s o emptied sent hs granted hrequest progress next hinstall hp => cases h

theorem Lane.serve_ne_edgesAlreadyUsed (c : ChannelId) (frame : Except RecordError ByteArray)
    (s : Serializer) (o : Outlet) : (serve c frame s o).2.1 ≠ .error .edgesAlreadyUsed := by
  have hadded := s.add_added frame
  unfold serve
  generalize s.add frame = out at hadded ⊢
  cases hadded with
  | refused _ | unencoded _ _ =>
    intro h
    cases h
  | copied _ _ _ =>
    dsimp only
    split
    · exact refill_ne_edgesAlreadyUsed c _ o
    · intro h
      cases h

/-- **That the edges are used** is never what an emission fails with. -/
theorem Writer.emit_ne_edgesAlreadyUsed {σ : Type} {s : Schema} [ChannelSelector σ s.Value]
    (w : Writer σ) (record : s.Value) (superstep : Option Superstep) :
    (w.perform s (.emit record superstep)).1 ≠ .error .edgesAlreadyUsed := by
  intro h
  by_cases hclosed : w.closed = true
  · change (w.emit s record superstep).1 = _ at h
    unfold emit at h
    rw [if_pos hclosed] at h
    exact nomatch h
  · rw [emit_result (Bool.eq_false_iff.2 hclosed)] at h
    split at h
    · rename_i cause _
      cases cause <;> exact nomatch h
    · obtain ⟨earlier, c, later, -, hstops⟩ := exists_stopsAt h
      exact Lane.serve_ne_edgesAlreadyUsed c _ _ _ hstops.failed

namespace MessagingContext

variable {σ ν : Type} {k m : Schema} [ChannelSelector σ (Schema.message k m).Value]

/-! ## Messages as operations -/

/-- A message to a vertex, as an operation of the writer. -/
def message (superstep : Option Superstep) (payload : m.Value) (target : k.Value) :
    Operation (Schema.message k m).Value :=
  .emit (⟨target, payload⟩ : Message k.Value m.Value) superstep

/-- A message along each of some edges, in order. -/
def messages (superstep : Option Superstep) (payload : m.Value) (edges : List (Edge k.Value ν)) :
    List (Operation (Schema.message k m).Value) :=
  edges.map fun edge => message superstep payload edge.target

theorem send_eq (v : MessagingContext σ k.Value ν) (target : k.Value) (payload : m.Value) :
    v.send target payload =
      let out := v.writer.perform (.message k m) (message v.superstep payload target)
      (out.1, { v with writer := out.2 }) := rfl

/-- **Messages along some edges** are emissions of the writer up to the first that fails, and the
rest of the vertex stays as it is. -/
theorem sendEach_eq (v : MessagingContext σ k.Value ν) (payload : m.Value)
    (edges : List (Edge k.Value ν)) :
    v.sendEach payload edges =
      let out := v.writer.performAll (.message k m) (messages v.superstep payload edges)
      (out.1, { v with writer := out.2 }) := by
  induction edges generalizing v with
  | nil => rfl
  | cons edge edges ih =>
    rw [messages, List.map_cons, Writer.performAll, sendEach, send_eq]
    rcases v.writer.perform (.message k m) (message v.superstep payload edge.target) with
      ⟨_ | _, w⟩
    · rfl
    · exact ih { v with writer := w }

theorem takeEdges_of_none {κ : Type} {v : MessagingContext σ κ ν} (h : v.edges = none) :
    v.takeEdges = (.error .edgesAlreadyUsed, v) := by
  rw [takeEdges, h]

theorem takeEdges_of_some {κ : Type} {v : MessagingContext σ κ ν} {edges : List (Edge κ ν)}
    (h : v.edges = some edges) :
    v.takeEdges = (.ok edges, { v with edges := none }) := by
  rw [takeEdges, h]

/-- **How messages along the edges end**, from a vertex that still has these edges: all were
emitted in order, or those before one that failed were, and none behind it was tried. -/
inductive FansOut (v : MessagingContext σ k.Value ν) (payload : m.Value)
    (edges : List (Edge k.Value ν)) :
    Except WriterError Nat × MessagingContext σ k.Value ν → Prop where
  | all {w : Writer σ} :
    v.writer.Succeeds (.message k m) (messages v.superstep payload edges) →
    w = v.writer.run (.message k m) (messages v.superstep payload edges) →
    FansOut v payload edges (.ok edges.length, ⟨w, v.superstep, none⟩)
  | upTo {served unserved : List (Edge k.Value ν)} {failed : Edge k.Value ν} {e : WriterError}
    {w : Writer σ} :
    edges = served ++ failed :: unserved →
    v.writer.Succeeds (.message k m) (messages v.superstep payload served) →
    ((v.writer.run (.message k m) (messages v.superstep payload served)).perform (.message k m)
      (message v.superstep payload failed.target)).1 = .error e →
    e ≠ .edgesAlreadyUsed →
    w = v.writer.run (.message k m) (messages v.superstep payload (served ++ [failed])) →
    FansOut v payload edges (.error e, ⟨w, v.superstep, none⟩)

theorem sendAll_fansOut {v : MessagingContext σ k.Value ν} {edges : List (Edge k.Value ν)}
    (h : v.edges = some edges) (payload : m.Value) :
    v.FansOut payload edges (v.sendAll payload) := by
  rw [sendAll, takeEdges_of_some h]
  dsimp only
  rw [sendEach_eq]
  dsimp only
  rcases hout : v.writer.performAll (.message k m) (messages v.superstep payload edges) with
    ⟨_ | _, w⟩
  · rename_i e
    obtain ⟨before, op, ⟨rest, hsplit⟩, hok, herror, hrun⟩ :=
      Writer.performAll_of_error (congrArg Prod.fst hout)
    rw [hout] at hrun
    -- what was performed are the messages along the first edges
    rw [List.append_assoc, List.singleton_append] at hsplit
    obtain ⟨served, others, rfl, rfl, hothers⟩ := List.map_eq_append_iff.1 hsplit.symm
    obtain ⟨failed, unserved, rfl, rfl, -⟩ := List.map_eq_cons_iff.1 hothers
    refine .upTo rfl hok herror ?_ ?_
    · rintro rfl
      exact Writer.emit_ne_edgesAlreadyUsed _ _ _ herror
    · rw [messages, List.map_append, List.map_singleton]
      exact hrun
  · have hok := (Writer.performAll_eq_ok_iff _ _).1 (congrArg Prod.fst hout)
    have hran := Writer.performAll_snd hok
    rw [hout] at hran
    exact .all hok hran

/-! ## Calls -/

/-- A use of a vertex by its program, or of its writer by anybody. -/
inductive Call (k m : Schema) where
  | send (target : k.Value) (payload : m.Value)
  | takeEdges
  | sendAll (payload : m.Value)
  | elsewhere (op : Operation (Schema.message k m).Value)

namespace Call

/-- What a call returns if it does not fail. -/
def Result (ν : Type) : Call k m → Type
  | send _ _ | elsewhere _ => Unit
  | takeEdges => List (Edge k.Value ν)
  | sendAll _ => Nat

/-- The calls that use the edges. -/
def UsesEdges : Call k m → Prop
  | takeEdges | sendAll _ => True
  | send _ _ | elsewhere _ => False

instance : DecidablePred (UsesEdges (k := k) (m := m))
  | takeEdges | sendAll _ => .isTrue trivial
  | send _ _ | elsewhere _ => .isFalse id

end Call

def perform (v : MessagingContext σ k.Value ν) :
    (call : Call k m) → Except WriterError (call.Result ν) × MessagingContext σ k.Value ν
  | .send target payload => v.send target payload
  | .takeEdges => v.takeEdges
  | .sendAll payload => v.sendAll payload
  | .elsewhere op =>
    let (r, w) := v.writer.perform (.message k m) op
    (r, { v with writer := w })

/-- The vertex after some calls. -/
def run (v : MessagingContext σ k.Value ν) (calls : List (Call k m)) :
    MessagingContext σ k.Value ν :=
  calls.foldl (fun v call => (v.perform call).2) v

/-- **Edges that are used** stay so: no call gets them, and none does anything with the writer. -/
theorem perform_of_used {v : MessagingContext σ k.Value ν} (h : v.edges = none) {call : Call k m}
    (hcall : call.UsesEdges) : v.perform call = (.error .edgesAlreadyUsed, v) := by
  cases call with
  | send _ _ | elsewhere _ => exact hcall.elim
  | takeEdges => exact takeEdges_of_none h
  | sendAll payload =>
    show v.sendAll payload = _
    rw [sendAll, takeEdges_of_none h]
    rfl

/-- What a call leaves of a vertex, but for the writer. -/
theorem perform_leaves (v : MessagingContext σ k.Value ν) (call : Call k m) :
    (v.perform call).2.superstep = v.superstep ∧
      (v.perform call).2.edges = if call.UsesEdges then none else v.edges := by
  cases hedges : v.edges with
  | none =>
    by_cases hcall : call.UsesEdges
    · rw [perform_of_used hedges hcall, hedges, ite_self]
      exact ⟨rfl, rfl⟩
    · rw [if_neg hcall, ← hedges]
      cases call with
      | send _ _ | elsewhere _ => exact ⟨rfl, rfl⟩
      | takeEdges | sendAll _ => exact absurd trivial hcall
  | some edges =>
    rw [← hedges]
    cases call with
    | send _ _ | elsewhere _ => exact ⟨rfl, rfl⟩
    | takeEdges =>
      show v.takeEdges.2.superstep = _ ∧ v.takeEdges.2.edges = none
      rw [takeEdges_of_some hedges]
      exact ⟨rfl, rfl⟩
    | sendAll payload =>
      have hfans := sendAll_fansOut hedges payload
      show (v.sendAll payload).2.superstep = _ ∧ (v.sendAll payload).2.edges = none
      generalize v.sendAll payload = out at hfans
      cases hfans <;> exact ⟨rfl, rfl⟩

/-- **The edges of a vertex** after some calls: gone if one of them uses the edges. -/
theorem run_leaves (v : MessagingContext σ k.Value ν) (calls : List (Call k m)) :
    (v.run calls).superstep = v.superstep ∧
      (v.run calls).edges = if ∃ call ∈ calls, call.UsesEdges then none else v.edges := by
  induction calls generalizing v with
  | nil => simp [run]
  | cons call calls ih =>
    obtain ⟨hsuperstep, hedges⟩ := v.perform_leaves call
    obtain ⟨hrest, hused⟩ := ih (v.perform call).2
    refine ⟨hrest.trans hsuperstep, hused.trans ?_⟩
    rw [hedges]
    by_cases hcall : call.UsesEdges <;> simp [hcall]

/-- **The edges of a vertex are used once.** Let a vertex have made some calls, and its writer been
used by others. The next call is then

* for a message to a single vertex: an emission, whether or not the edges are there,
* for a call that uses the edges after another that did: refused, and nothing else happens,
* for the first that uses the edges: the edges themselves with their values, or an emission along
  each of them in order, up to the first that fails. -/
theorem edges_used_once (w : Writer σ) (superstep : Option Superstep)
    (edges : List (Edge k.Value ν)) (calls : List (Call k m)) :
    let v := (start w superstep edges).run calls
    let used := ∃ call ∈ calls, call.UsesEdges
    v.superstep = superstep ∧ (v.edgesUsed = true ↔ used) ∧
    (∀ (target : k.Value) (payload : m.Value), v.perform (.send target payload : Call k m) =
      let out := v.writer.perform (.message k m) (message superstep payload target)
      (out.1, { v with writer := out.2 })) ∧
    (∀ call : Call k m, call.UsesEdges → used →
      v.perform call = (.error .edgesAlreadyUsed, v)) ∧
    (¬used →
      v.perform (.takeEdges : Call k m) = (.ok edges, { v with edges := none }) ∧
      ∀ payload : m.Value, v.FansOut payload edges
        (v.perform (.sendAll payload : Call k m))) := by
  intro v used
  obtain ⟨hsuperstep, hedges⟩ := run_leaves (start w superstep edges) calls
  change v.superstep = superstep at hsuperstep
  change v.edges = if used then none else some edges at hedges
  refine ⟨hsuperstep, ?_, fun target payload => ?_, fun call hcall hused => ?_, fun hunused => ?_⟩
  · rw [edgesUsed, hedges]
    by_cases hused : used <;> simp [hused]
  · rw [← hsuperstep]
    exact send_eq (k := k) (m := m) v target payload
  · rw [if_pos hused] at hedges
    exact perform_of_used hedges hcall
  · rw [if_neg hunused] at hedges
    exact ⟨takeEdges_of_some hedges, fun payload => sendAll_fansOut hedges payload⟩

/-! A small case: the pool is destroyed before the second of three messages asks for a buffer. -/

/-- The small writer, whose pool is destroyed right before the second request. -/
def lapsingWriter : Writer Broadcast :=
  { Writer.smallWriter with
    outlet := { Writer.smallWriter.outlet with
      surroundings := ⟨fun n => if n = 1 then [.destroyPool] else [], fun _ => []⟩ } }

abbrev byte : Schema := .unsigned .w8

/-- Failed messages along the edges use them: the edges are refused afterwards. -/
theorem edges_used_once_small :
    let edges : List (Edge byte.Value String) := [⟨0#8, "near"⟩, ⟨1#8, "far"⟩, ⟨2#8, "near"⟩]
    let v := start lapsingWriter none edges
    let along : Call byte byte := .sendAll (7#8 : byte.Value)
    FansOut (m := byte) v 7#8 edges (v.perform along) ∧
      (v.perform along).1 = .error .poolDestroyed ∧
      (v.run [along]).perform (.takeEdges : Call byte byte) =
        (.error .edgesAlreadyUsed, v.run [along]) := by
  intro edges v along
  obtain ⟨-, -, -, -, hfirst⟩ :=
    edges_used_once (k := byte) (m := byte) lapsingWriter none edges []
  obtain ⟨-, -, -, hlater, -⟩ :=
    edges_used_once (k := byte) (m := byte) lapsingWriter none edges [along]
  have hfailed : (sendAll (m := byte) v 7#8).1 = .error .poolDestroyed := by decide +kernel
  refine ⟨(hfirst (by simp)).2 _, hfailed, hlater .takeEdges trivial ?_⟩
  exact ⟨along, List.mem_singleton_self _, trivial⟩

end MessagingContext

end Fanout
