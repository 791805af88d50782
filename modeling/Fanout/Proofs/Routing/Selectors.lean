import Fanout.Routing.Selector

/-!
# Selections

What the selectors of the library pick, when there are channels to pick from. Selections in turn and
by key are of one channel within the width (`PicksOne`); a broadcast goes to all, the first of them
first. So each of the three picks as many channels for every record (`Picks`).
-/

namespace Fanout

variable {α : Type} {width : Nat}

theorem select_roundRobin (r : RoundRobin) (record : α) (hpos : 0 < width)
    (hle : width ≤ maxChannels) :
    ∃ c, (select r record width).1 = [c] ∧ c.toNat < width := by
  have hnext : r.nextPosition width < width := by
    unfold RoundRobin.nextPosition
    split
    · exact Nat.mod_lt _ hpos
    · exact hpos
  refine ⟨ChannelId.ofNat (r.nextPosition width), ?_, ?_⟩
  · show (if width = 0 then _ else _ : List ChannelId × RoundRobin).1 = _
    rw [if_neg (Nat.ne_of_gt hpos)]
  · rwa [ChannelId.toNat_ofNat_of_lt (Nat.lt_of_lt_of_le hnext hle)]

theorem select_keyPartitioned (k : KeyPartitioned α) (record : α) (hpos : 0 < width)
    (hle : width ≤ maxChannels) :
    ∃ c, (select k record width).1 = [c] ∧ c.toNat < width := by
  have hlt : (Hash.sea (k.key record)).toNat % width < width := Nat.mod_lt _ hpos
  refine ⟨channelOfKey (k.key record) width, ?_, ?_⟩
  · show (if width = 0 then [] else _) = _
    rw [if_neg (Nat.ne_of_gt hpos)]
  · rw [channelOfKey, ChannelId.toNat_ofNat_of_lt (Nat.lt_of_lt_of_le hlt hle)]
    exact hlt

theorem head?_allChannels (hpos : 0 < width) :
    (allChannels width).head? = some (ChannelId.ofNat 0) := by
  obtain ⟨n, rfl⟩ := Nat.exists_eq_succ_of_ne_zero (Nat.ne_of_gt hpos)
  rw [allChannels, List.range_succ_eq_map]
  rfl

/-- Selectors that pick one channel for each record. -/
def Selector.PicksOne : Selector α → Prop
  | .roundRobin _ | .keyPartitioned _ => True
  | .broadcast _ | .forward _ | .rowCycle _ => False

theorem Selector.PicksOne.select {sel : Selector α} (h : sel.PicksOne) (record : α)
    (hpos : 0 < width) (hle : width ≤ maxChannels) :
    (∃ c, (select sel record width).1 = [c] ∧ c.toNat < width) ∧
      (Fanout.select sel record width).2.PicksOne := by
  cases sel with
  | roundRobin r => exact ⟨select_roundRobin r record hpos hle, trivial⟩
  | keyPartitioned k => exact ⟨select_keyPartitioned k record hpos hle, trivial⟩
  | broadcast _ | forward _ | rowCycle _ => exact h.elim

theorem select_broadcast (b : Broadcast) (record : α) (hle : width ≤ maxChannels) :
    (select b record width).1.length = width ∧ ∀ c ∈ (select b record width).1, c.toNat < width := by
  refine ⟨(List.length_map _).trans List.length_range, fun c hc => ?_⟩
  obtain ⟨i, hi, rfl⟩ := List.mem_map.1 hc
  have hlt := List.mem_range.1 hi
  rwa [ChannelId.toNat_ofNat_of_lt (Nat.lt_of_lt_of_le hlt hle)]

/-- Selectors that pick the given number of channels for each record, by the width. -/
def Selector.Picks (copies : Nat → Nat) : Selector α → Prop
  | .roundRobin _ | .keyPartitioned _ => copies = fun _ => 1
  | .broadcast _ => copies = id
  | .forward _ | .rowCycle _ => False

namespace Selector.Picks

variable {copies : Nat → Nat} {sel : Selector α}

theorem select (h : sel.Picks copies) (record : α) (hpos : 0 < width) (hle : width ≤ maxChannels) :
    (select sel record width).1.length = copies width ∧
      (∀ c ∈ (Fanout.select sel record width).1, c.toNat < width) ∧
      (Fanout.select sel record width).2.Picks copies := by
  have hone {selected : List ChannelId} (hone : ∃ c, selected = [c] ∧ c.toNat < width) :
      selected.length = 1 ∧ ∀ c ∈ selected, c.toNat < width := by
    obtain ⟨c, rfl, hc⟩ := hone
    exact ⟨rfl, List.forall_mem_singleton.2 hc⟩
  cases sel with
  | roundRobin r =>
    obtain rfl := h
    obtain ⟨hlength, hwithin⟩ := hone (select_roundRobin r record hpos hle)
    exact ⟨hlength, hwithin, rfl⟩
  | keyPartitioned k =>
    obtain rfl := h
    obtain ⟨hlength, hwithin⟩ := hone (select_keyPartitioned k record hpos hle)
    exact ⟨hlength, hwithin, rfl⟩
  | broadcast b =>
    obtain rfl := h
    obtain ⟨hlength, hwithin⟩ := select_broadcast b record hle
    exact ⟨hlength, hwithin, rfl⟩
  | forward _ | rowCycle _ => exact h.elim

theorem pos (h : sel.Picks copies) (hpos : 0 < width) : 0 < copies width := by
  cases sel with
  | roundRobin _ | keyPartitioned _ =>
    obtain rfl := h
    exact Nat.one_pos
  | broadcast _ =>
    obtain rfl := h
    exact hpos
  | forward _ | rowCycle _ => exact h.elim

end Selector.Picks

end Fanout
