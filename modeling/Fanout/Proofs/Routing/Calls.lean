import Fanout.Proofs.Routing.Selectors
import Mathlib.Data.Int.CardIntervalMod

/-!
# Calls of a selector

A selector is called record after record, and the number of channels may be another one each time.
The selectors of the library pick in range whatever they picked before (`StaysInRange`): by key the
earlier calls have no part in it (`selections_keyPartitioned`), a broadcast that keeps its selection
makes it anew when the width changes (`selections_keptBroadcast`), and in turn the position that is
kept is taken modulo the width. With one width for some calls in a row, the channels take turns, and
none is picked two times more often than another (`selections_roundRobin`, `count_selections_le`).
-/

namespace Fanout

/-- The selections of some calls, each for a record and a width. -/
def selections {σ α : Type} [ChannelSelector σ α] (sel : σ) : List (α × Nat) → List (List ChannelId)
  | [] => []
  | (record, width) :: calls =>
    (select sel record width).1 :: selections (select sel record width).2 calls

/-- Every call for a width that channel indices reach is answered with channels that are there, and
with none only if there are none. -/
def StaysInRange {σ : Type} (α : Type) [ChannelSelector σ α] (sel : σ) : Prop :=
  ∀ calls : List (α × Nat), (∀ call ∈ calls, call.2 ≤ maxChannels) →
    List.Forall₂ (fun call selected => checkSelection selected call.2 = .ok () ∧
      (selected = [] ↔ call.2 = 0)) calls (selections sel calls)

/-- A broadcast as it is carried out: it keeps its selection and makes it anew when the number of
channels is another. -/
structure KeptBroadcast where
  kept : List ChannelId

namespace KeptBroadcast

def start : KeptBroadcast := ⟨[]⟩

instance {α : Type} : ChannelSelector KeptBroadcast α where
  select b _ width :=
    let all := if b.kept.length = width then b.kept else allChannels width
    (all, ⟨all⟩)

end KeptBroadcast

variable {σ α : Type} {n width : Nat}

/-! ## Selectors that stay in range -/

theorem StaysInRange.select [ChannelSelector σ α] {sel : σ} (h : StaysInRange α sel) (record : α)
    (hle : width ≤ maxChannels) :
    (checkSelection (select sel record width).1 width = .ok () ∧
      ((Fanout.select sel record width).1 = [] ↔ width = 0)) ∧
      StaysInRange α (Fanout.select sel record width).2 := by
  have hcons (calls : List (α × Nat)) (hcalls : ∀ call ∈ calls, call.2 ≤ maxChannels) :=
    List.forall₂_cons.1 (h ((record, width) :: calls) (List.forall_mem_cons.2 ⟨hle, hcalls⟩))
  exact ⟨(hcons [] (List.forall_mem_nil _)).1, fun calls hcalls => (hcons calls hcalls).2⟩

/-- What holds of the selection in every state of some kind, which the next state is of too, holds of
the selections of all calls. -/
theorem forall₂_selections [ChannelSelector σ α] {P : σ → Prop}
    {R : α × Nat → List ChannelId → Prop}
    (hstep : ∀ sel, P sel → ∀ (record : α) width, width ≤ maxChannels →
      R (record, width) (select sel record width).1 ∧ P (select sel record width).2)
    {sel : σ} (h : P sel) {calls : List (α × Nat)} (hcalls : ∀ call ∈ calls, call.2 ≤ maxChannels) :
    List.Forall₂ R calls (selections sel calls) := by
  induction calls generalizing sel with
  | nil => exact .nil
  | cons call calls ih =>
    obtain ⟨hfirst, hlater⟩ := List.forall_mem_cons.1 hcalls
    obtain ⟨hselected, hnext⟩ := hstep sel h call.1 call.2 hfirst
    exact .cons hselected (ih hnext hlater)

theorem checkSelection_of_lt {selected : List ChannelId} (h : ∀ c ∈ selected, c.toNat < width) :
    checkSelection selected width = .ok () :=
  checkSelection_eq_ok_iff.2 fun c hc => decide_eq_true (h c hc)

/-- A selection of one channel where there is one. -/
theorem checkSelection_of_one {selected : List ChannelId} (hzero : width = 0 → selected = [])
    (hone : 0 < width → ∃ c, selected = [c] ∧ c.toNat < width) :
    checkSelection selected width = .ok () ∧ (selected = [] ↔ width = 0) := by
  rcases Nat.eq_zero_or_pos width with rfl | hpos
  · rw [hzero rfl]
    exact ⟨rfl, by simp⟩
  · obtain ⟨c, rfl, hc⟩ := hone hpos
    exact ⟨checkSelection_of_lt (List.forall_mem_singleton.2 hc), by simp; omega⟩

/-- **In turn**, whatever was picked last. -/
theorem staysInRange_roundRobin (r : RoundRobin) : StaysInRange α r := by
  intro calls hcalls
  refine forall₂_selections (P := fun _ => True) (fun r _ record width hle => ⟨?_, trivial⟩)
    trivial hcalls
  refine checkSelection_of_one (fun hzero => ?_) fun hpos => select_roundRobin r record hpos hle
  show (if width = 0 then _ else _ : List ChannelId × RoundRobin).1 = _
  rw [if_pos hzero]

/-- In turn is one channel at a time. -/
theorem singles_roundRobin (r : RoundRobin) {calls : List (α × Nat)}
    (hcalls : ∀ call ∈ calls, call.2 ≤ maxChannels) :
    List.Forall₂ (fun call selected => call.2 ≠ 0 → ∃ c, selected = [c]) calls
      (selections r calls) := by
  refine forall₂_selections (P := fun _ => True) (fun r _ record width hle => ⟨?_, trivial⟩)
    trivial hcalls
  intro hpos
  obtain ⟨c, hselected, -⟩ := select_roundRobin r record (Nat.pos_of_ne_zero hpos) hle
  exact ⟨c, hselected⟩

/-- **By key** the selections depend on the keys and the widths alone. -/
theorem selections_keyPartitioned (k : KeyPartitioned α) (calls : List (α × Nat)) :
    selections k calls = calls.map fun call =>
      if call.2 = 0 then [] else [channelOfKey (k.key call.1) call.2] := by
  induction calls with
  | nil => rfl
  | cons call calls ih => exact congrArg _ ih

theorem staysInRange_keyPartitioned (k : KeyPartitioned α) : StaysInRange α k := by
  intro calls hcalls
  refine forall₂_selections (P := fun _ => True) (fun k _ record width hle => ⟨?_, trivial⟩)
    trivial hcalls
  exact checkSelection_of_one (fun hzero => if_pos hzero)
    fun hpos => select_keyPartitioned k record hpos hle

/-! ## Broadcasts -/

theorem length_allChannels (width : Nat) : (allChannels width).length = width :=
  (List.length_map _).trans List.length_range

/-- All channels, each once and in order. -/
theorem toNat_allChannels (hle : width ≤ maxChannels) :
    (allChannels width).map ChannelId.toNat = List.range width := by
  rw [allChannels, List.map_map]
  refine List.map_congr_left (fun i hi => ?_) |>.trans (List.map_id _)
  exact ChannelId.toNat_ofNat_of_lt (Nat.lt_of_lt_of_le (List.mem_range.1 hi) hle)

theorem checkSelection_allChannels (hle : width ≤ maxChannels) :
    checkSelection (allChannels width) width = .ok () ∧ (allChannels width = [] ↔ width = 0) := by
  constructor
  · refine checkSelection_of_lt fun c hc => List.mem_range.1 ?_
    rw [← toNat_allChannels hle]
    exact List.mem_map_of_mem hc
  · rw [← List.length_eq_zero_iff, length_allChannels]

theorem selections_broadcast (b : Broadcast) (calls : List (α × Nat)) :
    selections b calls = calls.map fun call => allChannels call.2 := by
  induction calls with
  | nil => rfl
  | cons call calls ih => exact congrArg _ ih

theorem staysInRange_broadcast (b : Broadcast) : StaysInRange α b := by
  intro calls hcalls
  exact forall₂_selections (P := fun _ => True)
    (fun _ _ _ _ hle => ⟨checkSelection_allChannels hle, trivial⟩) trivial hcalls

namespace KeptBroadcast

/-- What is kept is the selection for some width. -/
def Sound (b : KeptBroadcast) : Prop := b.kept = allChannels b.kept.length

theorem sound_start : start.Sound := rfl

/-- A selection that is kept is the one that would be made. -/
theorem Sound.select {b : KeptBroadcast} (h : b.Sound) (record : α) (width : Nat) :
    select b record width = (allChannels width, ⟨allChannels width⟩) := by
  have hall : (if b.kept.length = width then b.kept else allChannels width) =
      allChannels width := by
    split
    · rename_i hsame
      rw [← hsame]
      exact h
    · rfl
  exact congrArg (fun all => (all, (⟨all⟩ : KeptBroadcast))) hall

theorem sound_allChannels (width : Nat) : Sound ⟨allChannels width⟩ := by
  rw [Sound, length_allChannels]

end KeptBroadcast

/-- **A broadcast that keeps its selection** selects as one that makes it anew for each record. -/
theorem selections_keptBroadcast {b : KeptBroadcast} (h : b.Sound) (calls : List (α × Nat)) :
    selections b calls = calls.map fun call => allChannels call.2 := by
  induction calls generalizing b with
  | nil => rfl
  | cons call calls ih =>
    rw [selections, h.select, ih (KeptBroadcast.sound_allChannels call.2), List.map_cons]

theorem staysInRange_keptBroadcast {b : KeptBroadcast} (h : b.Sound) : StaysInRange α b := by
  intro calls hcalls
  refine forall₂_selections (P := KeptBroadcast.Sound) (fun b hb record width hle => ?_) h hcalls
  rw [hb.select]
  exact ⟨checkSelection_allChannels hle, KeptBroadcast.sound_allChannels width⟩

/-! ## Turns -/

/-- **The channels take turns** while the width stays the same, from the one that is next. -/
theorem selections_roundRobin (r : RoundRobin) (hpos : 0 < n) (records : List α) :
    selections r (records.map (·, n)) = (List.range records.length).map fun k =>
      [ChannelId.ofNat ((r.nextPosition n + k) % n)] := by
  induction records generalizing r with
  | nil => rfl
  | cons record records ih =>
    have hfirst : r.nextPosition n % n = r.nextPosition n := by
      unfold RoundRobin.nextPosition
      split
      · exact Nat.mod_mod _ _
      · exact Nat.zero_mod _
    have hselect : select r record n =
        ([ChannelId.ofNat (r.nextPosition n)], ⟨some (r.nextPosition n)⟩) :=
      if_neg (Nat.ne_of_gt hpos)
    rw [List.map_cons, selections, hselect, ih, List.length_cons, List.range_succ_eq_map,
      List.map_cons, List.map_map, Nat.add_zero, hfirst]
    refine congrArg _ (List.map_congr_left fun k _ => ?_)
    show [ChannelId.ofNat (((r.nextPosition n + 1) % n + k) % n)] = _
    rw [Nat.mod_add_mod, Nat.add_assoc, Nat.add_comm 1 k]
    rfl

/-- How often a channel is picked in `m` turns: `m / n` times, or once more. -/
theorem count_turns (hle : n ≤ maxChannels) (first m : Nat) {c : ChannelId}
    (hc : c.toNat < n) :
    let picked := ((List.range m).map fun k => [ChannelId.ofNat ((first + k) % n)]).flatten
    m / n ≤ picked.count c ∧ picked.count c ≤ m / n + 1 := by
  have hpos : 0 < n := Nat.zero_lt_of_lt hc
  -- the turns of a channel are those that are congruent to one of them
  have hturn (k : Nat) : ChannelId.ofNat ((first + k) % n) = c ↔
      k ≡ c.toNat + (n - first % n) [MOD n] := by
    have hlt : (first + k) % n < maxChannels := Nat.lt_of_lt_of_le (Nat.mod_lt _ hpos) hle
    have hfirst : first % n < n := Nat.mod_lt _ hpos
    have hshift : c.toNat + (n - first % n) + first % n = c.toNat + n := by omega
    calc ChannelId.ofNat ((first + k) % n) = c ↔ (first + k) % n = c.toNat := by
          rw [ChannelId.ext_toNat_iff, ChannelId.toNat_ofNat_of_lt hlt]
      _ ↔ k + first % n ≡ c.toNat + (n - first % n) + first % n [MOD n] := by
          rw [hshift, Nat.ModEq, Nat.add_mod_right, Nat.mod_eq_of_lt hc, Nat.add_mod_mod,
            Nat.add_comm first k]
      _ ↔ k ≡ c.toNat + (n - first % n) [MOD n] := ⟨.add_right_cancel' _, .add_right _⟩
  intro picked
  have hcount : picked.count c = m.count (· ≡ c.toNat + (n - first % n) [MOD n]) := by
    have hpicked : picked = (List.range m).map fun k => ChannelId.ofNat ((first + k) % n) := by
      rw [List.map_eq_flatMap, List.flatMap_def]
    rw [hpicked, List.count_eq_countP, List.countP_map, Nat.count]
    exact List.countP_congr fun k _ => by simp [hturn k]
  rw [hcount, Nat.count_modEq_card m hpos]
  split <;> omega

/-- **Nobody is favoured**: of two channels, neither is picked two times more often. -/
theorem count_selections_le (r : RoundRobin) (hle : n ≤ maxChannels) (records : List α)
    {c d : ChannelId} (hc : c.toNat < n) (hd : d.toNat < n) :
    (selections r (records.map (·, n))).flatten.count c ≤
      (selections r (records.map (·, n))).flatten.count d + 1 := by
  rw [selections_roundRobin r (Nat.zero_lt_of_lt hc)]
  have hcount := (count_turns hle (r.nextPosition n) records.length hc).2
  have hcount' := (count_turns hle (r.nextPosition n) records.length hd).1
  omega

end Fanout
