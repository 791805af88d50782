/-!
# Byte strings

Fixed-width numbers as bytes, and cutting a byte string at an exact length. Decoders work on
`List UInt8`; stored bytes (buffers, frames, file contents) are `ByteArray`, whose list view is
`octets`.

`splitAt?_append`: the exact cut finds the border between two appended byte strings.
-/

namespace Fanout

/-- The bytes of a stored byte string, in order. -/
def octets (b : ByteArray) : List UInt8 := b.data.toList

/-- A stored byte string with the given bytes. -/
def pack (bytes : List UInt8) : ByteArray := ⟨bytes.toArray⟩

@[simp] theorem octets_pack (bytes : List UInt8) : octets (pack bytes) = bytes := by
  simp [octets, pack]

@[simp] theorem pack_octets (b : ByteArray) : pack (octets b) = b := by
  cases b; simp [octets, pack]

@[simp] theorem length_octets (b : ByteArray) : (octets b).length = b.size := rfl

@[simp] theorem octets_append (a b : ByteArray) : octets (a ++ b) = octets a ++ octets b := by
  simp [octets]

@[simp] theorem octets_empty : octets ByteArray.empty = [] := rfl

@[simp] theorem octets_extract (b : ByteArray) (i j : Nat) :
    octets (b.extract i j) = ((octets b).drop i).take (j - i) := by
  simp [octets, List.extract_eq_take_drop]

/-- `n` copies of one byte. -/
def repeated (n : Nat) (byte : UInt8) : ByteArray := ⟨Array.replicate n byte⟩

namespace Bytes

/-- The `k` least significant bytes of `n`, least significant first. -/
def littleEndian : (k : Nat) → (n : Nat) → List UInt8
  | 0, _ => []
  | k + 1, n => UInt8.ofNat n :: littleEndian k (n / 256)

/-- The number whose bytes are given, least significant first. -/
def ofLittleEndian : List UInt8 → Nat
  | [] => 0
  | b :: rest => b.toNat + 256 * ofLittleEndian rest

/-- The `k` least significant bytes of `n`, most significant first. -/
def bigEndian (k n : Nat) : List UInt8 := (littleEndian k n).reverse

/-- The number whose bytes are given, most significant first. -/
def ofBigEndian (bytes : List UInt8) : Nat := ofLittleEndian bytes.reverse

@[simp] theorem length_littleEndian (k n : Nat) : (littleEndian k n).length = k := by
  induction k generalizing n <;> simp [littleEndian, *]

@[simp] theorem length_bigEndian (k n : Nat) : (bigEndian k n).length = k := by
  simp [bigEndian]

/-- Puts other bytes in the place of as many bytes from a position on. -/
def overwrite (bytes : List UInt8) (position : Nat) (patch : List UInt8) : List UInt8 :=
  bytes.take position ++ patch ++ bytes.drop (position + patch.length)

/-- Cuts a byte string after exactly `n` bytes; `none` if it is shorter. -/
def splitAt? (n : Nat) (bytes : List UInt8) : Option (List UInt8 × List UInt8) :=
  let head := bytes.take n
  if head.length = n then some (head, bytes.drop n) else none

theorem splitAt?_append (a b : List UInt8) : splitAt? a.length (a ++ b) = some (a, b) := by
  simp [splitAt?]

theorem eq_append_of_splitAt? {n : Nat} {bytes a b : List UInt8}
    (h : splitAt? n bytes = some (a, b)) : bytes = a ++ b ∧ a.length = n := by
  simp only [splitAt?] at h
  split at h
  · rename_i hlen
    simp only [Option.some.injEq, Prod.mk.injEq] at h
    obtain ⟨rfl, rfl⟩ := h
    exact ⟨(List.take_append_drop n bytes).symm, hlen⟩
  · contradiction

theorem overwrite_append {patch blank : List UInt8} (h : patch.length = blank.length)
    (a b : List UInt8) : overwrite (a ++ blank ++ b) a.length patch = a ++ patch ++ b := by
  rw [overwrite, h, ← List.length_append, List.drop_left, List.append_assoc a blank,
    List.take_left]

end Bytes

end Fanout
