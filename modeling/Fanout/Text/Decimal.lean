/-!
# Decimal numbers

The decimal digits of a number and the reader of what people write for one: digits, with leading
zeros and one leading plus sign allowed.

* `read?_digits` — the digits of a number below the limit read back as the number.
-/

namespace Fanout.Decimal

/-- The decimal digits of a number, without leading zeros. -/
def digits (n : Nat) : List Char := Nat.toDigits 10 n

/-- The number that a nonempty row of digits spells. -/
def readDigits? (text : List Char) : Option Nat :=
  if text.isEmpty then none
  else if text.all Char.isDigit then some (Nat.ofDigitChars 10 text 0)
  else none

def dropPlus : List Char → List Char
  | '+' :: rest => rest
  | text => text

/-- The number below `limit` that a text spells. -/
def read? (limit : Nat) (text : List Char) : Option Nat :=
  match readDigits? (dropPlus text) with
  | some n => if n < limit then some n else none
  | none => none

theorem digits_ne_nil (n : Nat) : digits n ≠ [] := by
  simp [digits]

theorem isDigit_of_mem_digits {n : Nat} {c : Char} (h : c ∈ digits n) : c.isDigit :=
  Nat.isDigit_of_mem_toDigits (by decide) (by decide) h

@[simp] theorem readDigits?_digits (n : Nat) : readDigits? (digits n) = some n := by
  have h1 : (digits n).isEmpty = false := by
    simpa using digits_ne_nil n
  have h2 : (digits n).all Char.isDigit = true :=
    List.all_eq_true.2 fun c hc => isDigit_of_mem_digits hc
  have h3 : Nat.ofDigitChars 10 (digits n) 0 = n :=
    Nat.ofDigitChars_toDigits (by decide) (by decide)
  simp [readDigits?, h1, h2, h3]

theorem dropPlus_digits (n : Nat) : dropPlus (digits n) = digits n := by
  unfold dropPlus
  split
  · rename_i rest h
    have : ('+' : Char) ∈ digits n := by rw [h]; simp
    exact absurd (isDigit_of_mem_digits this) (by decide)
  · rfl

theorem read?_digits {limit n : Nat} (h : n < limit) : read? limit (digits n) = some n := by
  simp [read?, dropPlus_digits, h]

end Fanout.Decimal
