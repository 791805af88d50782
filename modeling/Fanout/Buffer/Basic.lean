import Fanout.Bytes

/-!
# Buffers

A buffer holds at most `capacity` bytes. Appending takes as much of the data as fits and tells how
much that was, so nothing is ever reallocated or lost.
-/

namespace Fanout

/-- Bytes of a fixed capacity. -/
structure Buffer where
  capacity : Nat
  bytes : ByteArray
  bounded : bytes.size ≤ capacity

namespace Buffer

def fresh (capacity : Nat) : Buffer := ⟨capacity, ByteArray.empty, Nat.zero_le _⟩

def size (b : Buffer) : Nat := b.bytes.size

def remaining (b : Buffer) : Nat := b.capacity - b.size

def isEmpty (b : Buffer) : Bool := b.size = 0

def isFull (b : Buffer) : Bool := b.remaining = 0

def contents (b : Buffer) : List UInt8 := octets b.bytes

/-- The number of bytes of `data` that are taken. -/
def accepted (b : Buffer) (data : ByteArray) : Nat := min data.size b.remaining

/-- Appends as much of `data` as fits, which is its first `accepted` bytes. -/
def append (b : Buffer) (data : ByteArray) : Buffer where
  capacity := b.capacity
  bytes := b.bytes ++ data.extract 0 (b.accepted data)
  bounded := by
    have := b.bounded
    simp only [ByteArray.size_append, ByteArray.size_extract, accepted, remaining, size]
    omega

instance : DecidableEq Buffer := fun a b =>
  decidable_of_iff (a.capacity = b.capacity ∧ a.bytes.data = b.bytes.data) <| by
    obtain ⟨_, ⟨_⟩, _⟩ := a
    obtain ⟨_, ⟨_⟩, _⟩ := b
    simp

def clear (b : Buffer) : Buffer := fresh b.capacity

@[simp] theorem capacity_append (b : Buffer) (data : ByteArray) :
    (b.append data).capacity = b.capacity := rfl

@[simp] theorem length_contents (b : Buffer) : b.contents.length = b.size := rfl

/-- Nothing is in an empty buffer. -/
theorem isEmpty_iff (b : Buffer) : b.isEmpty = true ↔ b.contents = [] := by
  rw [isEmpty, decide_eq_true_eq, ← length_contents, List.length_eq_zero_iff]

@[simp] theorem contents_fresh (capacity : Nat) : (fresh capacity).contents = [] := rfl

@[simp] theorem remaining_fresh (capacity : Nat) : (fresh capacity).remaining = capacity := by
  simp [fresh, remaining, size]

@[simp] theorem contents_append (b : Buffer) (data : ByteArray) :
    (b.append data).contents = b.contents ++ (octets data).take (b.accepted data) := by
  simp [append, contents]

theorem size_append (b : Buffer) (data : ByteArray) :
    (b.append data).size = b.size + b.accepted data := by
  simp only [append, size, ByteArray.size_append, ByteArray.size_extract, accepted]
  omega

theorem remaining_append (b : Buffer) (data : ByteArray) :
    (b.append data).remaining = b.remaining - b.accepted data := by
  simp only [remaining, capacity_append, size_append]
  omega

end Buffer

end Fanout
