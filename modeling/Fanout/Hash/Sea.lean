import Fanout.Bytes

/-!
# Hashing keys

The SeaHash function with its default seeds: four 64-bit lanes take the input in turn, eight bytes
at a time, and a final diffusion mixes them with the length. Equal bytes hash equally on every
machine, so a key finds the same channel in every run.
-/

namespace Fanout.Hash

/-- The four lanes of a hash in progress. -/
structure Lanes where
  a : UInt64
  b : UInt64
  c : UInt64
  d : UInt64

def Lanes.seed : Lanes :=
  ⟨0x16f11fe89b0d677c, 0xb480a793d8e6c86c, 0x6fe2e5aaf078ebc9, 0x14f994a4c5259381⟩

def multiplier : UInt64 := 0x6eed0e9da4d94a4f

/-- Spreads every bit of a word over the whole word. -/
def diffuse (x : UInt64) : UInt64 :=
  let x := x * multiplier
  let x := x ^^^ ((x >>> 32) >>> (x >>> 60))
  x * multiplier

/-- Takes in a whole word: the first lane absorbs it and goes last. -/
def Lanes.absorb (l : Lanes) (word : UInt64) : Lanes := ⟨l.b, l.c, l.d, diffuse (l.a ^^^ word)⟩

/-- Takes in what is left at the end: the first lane absorbs it and stays. -/
def Lanes.absorbLast (l : Lanes) (rest : List UInt8) : Lanes :=
  if rest.isEmpty then l
  else { l with a := diffuse (l.a ^^^ UInt64.ofNat (Bytes.ofLittleEndian rest)) }

/-- Takes in words of eight bytes while there are any, and returns the shorter rest. -/
def Lanes.absorbWords (l : Lanes) : List UInt8 → Lanes × List UInt8
  | b0 :: b1 :: b2 :: b3 :: b4 :: b5 :: b6 :: b7 :: rest =>
    let word := Bytes.ofLittleEndian [b0, b1, b2, b3, b4, b5, b6, b7]
    (l.absorb (UInt64.ofNat word)).absorbWords rest
  | rest => (l, rest)

/-- The hash of a byte string. -/
def sea (input : List UInt8) : UInt64 :=
  let (l, rest) := Lanes.seed.absorbWords input
  let l := l.absorbLast rest
  diffuse (l.a ^^^ l.b ^^^ l.c ^^^ l.d ^^^ UInt64.ofNat input.length)

end Fanout.Hash
