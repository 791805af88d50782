/-!
# Channels

A channel is one output path of a producing task, named by a 16-bit index. A partition of `n`
channels holds the indices below `n`, so no partition is wider than `maxChannels`.
-/

namespace Fanout

/-- The index of an output channel. -/
structure ChannelId where
  index : UInt16
  deriving DecidableEq, Hashable

/-- The widest partition that channel indices can address. -/
def maxChannels : Nat := 65536

namespace ChannelId

def toNat (c : ChannelId) : Nat := c.index.toNat

/-- The channel at a position, if channel indices reach that far. -/
def ofNat? (i : Nat) : Option ChannelId :=
  if i < maxChannels then some ⟨UInt16.ofNat i⟩ else none

/-- The channel at a position counted modulo `maxChannels`. -/
def ofNat (i : Nat) : ChannelId := ⟨UInt16.ofNat i⟩

def isWithin (c : ChannelId) (width : Nat) : Bool := c.toNat < width

/-- A channel is written as `channel:` and its index. -/
def label (c : ChannelId) : String := s!"channel:{c.toNat}"

instance : ToString ChannelId := ⟨label⟩

theorem toNat_lt (c : ChannelId) : c.toNat < maxChannels := c.index.toNat_lt

@[simp] theorem toNat_ofNat (i : Nat) : (ofNat i).toNat = i % maxChannels := by
  simp [ofNat, toNat, maxChannels]

theorem toNat_ofNat_of_lt {i : Nat} (h : i < maxChannels) : (ofNat i).toNat = i := by
  rw [toNat_ofNat, Nat.mod_eq_of_lt h]

@[ext] theorem ext_toNat {a b : ChannelId} (h : a.toNat = b.toNat) : a = b := by
  cases a; cases b
  simp only [toNat, UInt16.toNat_inj] at h
  rw [h]

@[simp] theorem ofNat_toNat (c : ChannelId) : ofNat c.toNat = c := by
  apply ext_toNat
  rw [toNat_ofNat_of_lt c.toNat_lt]

theorem ofNat?_eq_some_iff {i : Nat} {c : ChannelId} : ofNat? i = some c ↔ c.toNat = i := by
  unfold ofNat?
  constructor
  · intro h
    split at h
    · rename_i hi
      obtain rfl := Option.some.inj h
      exact toNat_ofNat_of_lt hi
    · contradiction
  · rintro rfl
    rw [if_pos c.toNat_lt]
    exact congrArg some (ofNat_toNat c)

end ChannelId

end Fanout
