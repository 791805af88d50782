import Fanout.Channel
import Fanout.Hash.Sea
import Fanout.Memory

/-!
# Channel selectors

A selector picks, for each record, the channels it is sent to: a list in order, possibly empty and
possibly with repetitions. It may keep state from call to call (`ChannelSelector`); the number of
channels it chooses from may differ from call to call as well.

The selectors that come with the library stay in range; a selector of the user need not, so every
selection is checked before use (`checkSelection`).
-/

namespace Fanout

/-- A policy with state `σ` that picks channels for records of type `α`. -/
class ChannelSelector (σ : Type) (α : Type) where
  /-- Picks among `width` channels and moves on to the next state. -/
  select : σ → α → (width : Nat) → List ChannelId × σ

export ChannelSelector (select)

/-- Why a selection or a partition cannot be served. -/
inductive RoutingError where
  /-- A selected channel is not one of the partition's. -/
  | channelOutOfRange (channel : ChannelId) (width : Nat)
  /-- A partition is wider than channel indices reach. -/
  | tooManyChannels (requested : Nat)
  deriving DecidableEq

def RoutingError.message : RoutingError → String
  | channelOutOfRange channel width => s!"{channel} is out of range for {width} channels"
  | tooManyChannels requested =>
    s!"{requested} channels requested, at most {maxChannels} supported"

/-- Accepts a selection if a partition of `width` channels has all of it; else names the first
channel that it lacks. -/
def checkSelection (selected : List ChannelId) (width : Nat) : Except RoutingError Unit :=
  match selected.find? fun c => !c.isWithin width with
  | some c => .error (.channelOutOfRange c width)
  | none => .ok ()

theorem checkSelection_eq_ok_iff {selected : List ChannelId} {width : Nat} :
    checkSelection selected width = .ok () ↔ ∀ c ∈ selected, c.isWithin width := by
  unfold checkSelection
  split
  · rename_i c h
    have hmem := List.mem_of_find?_eq_some h
    have hout := List.find?_some h
    simp only [reduceCtorEq, false_iff]
    intro hall
    simp [hall c hmem] at hout
  · rename_i h
    simpa using h

/-- The default: one channel per record, each in turn. -/
structure RoundRobin where
  /-- The position of the channel picked last. -/
  last : Option Nat

namespace RoundRobin

def start : RoundRobin := ⟨none⟩

/-- The position that is picked next among `width` channels. -/
def nextPosition (r : RoundRobin) (width : Nat) : Nat :=
  match r.last with
  | some last => (last + 1) % width
  | none => 0

instance {α : Type} : ChannelSelector RoundRobin α where
  select r _ width :=
    if width = 0 then ([], r)
    else
      let next := r.nextPosition width
      ([ChannelId.ofNat next], ⟨some next⟩)

end RoundRobin

structure Broadcast where

def allChannels (width : Nat) : List ChannelId := (List.range width).map ChannelId.ofNat

instance {α : Type} : ChannelSelector Broadcast α where
  select b _ width := (allChannels width, b)

structure Forward where
  channel : ChannelId

instance {α : Type} : ChannelSelector Forward α where
  select f _ width := (if width = 0 then [] else [f.channel], f)

/-- Records with equal keys to the same channel. -/
structure KeyPartitioned (α : Type) where
  key : α → List UInt8

/-- The channel of a key among `width` channels. -/
def channelOfKey (key : List UInt8) (width : Nat) : ChannelId :=
  ChannelId.ofNat ((Hash.sea key).toNat % width)

instance {α : Type} : ChannelSelector (KeyPartitioned α) α where
  select k record width := (if width = 0 then [] else [channelOfKey (k.key record) width], k)

/-- A fixed table of selections, one row per call, over and over. -/
structure RowCycle where
  rows : List (List ChannelId)
  calls : Nat

instance {α : Type} : ChannelSelector RowCycle α where
  select r _ _ := ((r.rows[r.calls % r.rows.length]?).getD [], { r with calls := r.calls + 1 })

/-- A selector chosen at run time. -/
inductive Selector (α : Type) where
  | roundRobin (r : RoundRobin)
  | broadcast (b : Broadcast)
  | forward (f : Forward)
  | keyPartitioned (k : KeyPartitioned α)
  | rowCycle (r : RowCycle)

instance {α : Type} : ChannelSelector (Selector α) α where
  select s record width :=
    match s with
    | .roundRobin r => let (cs, r) := select r record width; (cs, .roundRobin r)
    | .broadcast b => let (cs, b) := select b record width; (cs, .broadcast b)
    | .forward f => let (cs, f) := select f record width; (cs, .forward f)
    | .keyPartitioned k => let (cs, k) := select k record width; (cs, .keyPartitioned k)
    | .rowCycle r => let (cs, r) := select r record width; (cs, .rowCycle r)

/-- The bytes of a selected channel. -/
def channelSize : Nat := 2

/-- Whether memory could be asked for a selection among `width` channels. -/
def Selector.fitsMemory {α : Type} (s : Selector α) (width : Nat) : Bool :=
  match s with
  | .broadcast _ => Memory.admits width channelSize
  | _ => true

end Fanout
