import Fanout.Record.Frame
import Mathlib.Algebra.Group.Nat.Defs
import Mathlib.Tactic.SplitIfs

/-!
# Reading back what was encoded

A decoder *reads* a value from some bytes if it finds the value at the front of these bytes and
consumes exactly them, whatever follows (`Reads`). Reads compose along the binds of a decoder, so
that every decoder mirrors its encoder step by step.

* `reads_encode` — every value that can be encoded is read from its encoding.
* `decodeRecord_of_encodeRecord` — a record is what its own frame holds.
-/

namespace Fanout

/-- The decoder finds the value in front of any input that starts with these bytes. -/
def Reads {α : Type} (d : Decoder α) (bytes : List UInt8) (v : α) : Prop :=
  ∀ rest, d (bytes ++ rest) = .ok (v, rest)

namespace Reads

variable {α β : Type}

theorem pure (v : α) : Reads (Pure.pure v) [] v := fun _ => rfl

/-- The bytes of two decoders in a row follow each other. -/
theorem bind {d : Decoder α} {f : α → Decoder β} {a b : List UInt8} {v : α} {w : β}
    (hd : Reads d a v) (hf : Reads (f v) b w) : Reads (d >>= f) (a ++ b) w := by
  intro rest
  rw [List.append_assoc]
  show (d (a ++ (b ++ rest)) >>= fun p => f p.1 p.2) = _
  rw [hd (b ++ rest)]
  exact hf rest

/-- A last step that looks at what was read. -/
theorem bind_last {d : Decoder α} {f : α → Decoder β} {a : List UInt8} {v : α} {w : β}
    (hd : Reads d a v) (hf : Reads (f v) [] w) : Reads (d >>= f) a w := by
  have h := hd.bind hf
  rwa [List.append_nil] at h

/-- A last step that consumes nothing. -/
theorem map {d : Decoder α} {a : List UInt8} {v : α} (hd : Reads d a v) (f : α → β) :
    Reads (d >>= fun x => Pure.pure (f x)) a (f v) := hd.bind_last (Reads.pure (f v))

theorem takeByte (b : UInt8) : Reads Fanout.takeByte [b] b := fun _ => rfl

theorem takeBytes (raw : List UInt8) : Reads (Fanout.takeBytes raw.length) raw raw := by
  intro rest
  simp [Fanout.takeBytes, Bytes.splitAt?_append]

end Reads

/-! ## Numbers -/

namespace Bytes

/-- Writing a number in enough bytes and reading it back is the identity. -/
theorem ofLittleEndian_littleEndian (k n : Nat) (h : n < 256 ^ k) :
    ofLittleEndian (littleEndian k n) = n := by
  induction k generalizing n with
  | zero =>
    simp only [Nat.pow_zero] at h
    have hn : n = 0 := by omega
    simp [hn, littleEndian, ofLittleEndian]
  | succ k ih =>
    have hd : n / 256 < 256 ^ k := by
      apply (Nat.div_lt_iff_lt_mul (by decide : 0 < 256)).2
      simpa [Nat.pow_succ] using h
    simp only [littleEndian, ofLittleEndian, UInt8.toNat_ofNat', ih _ hd]
    omega

theorem ofBigEndian_bigEndian (k n : Nat) (h : n < 256 ^ k) :
    ofBigEndian (bigEndian k n) = n := by
  simp [ofBigEndian, bigEndian, ofLittleEndian_littleEndian k n h]

/-- The bytes of a number are those that it was read from. -/
theorem littleEndian_ofLittleEndian (bytes : List UInt8) :
    littleEndian bytes.length (ofLittleEndian bytes) = bytes := by
  induction bytes with
  | nil => rfl
  | cons b rest ih =>
    have hb : b.toNat < 256 := b.toNat_lt
    have hlow : UInt8.ofNat (b.toNat + 256 * ofLittleEndian rest) = b := by
      apply UInt8.toNat_inj.1
      rw [UInt8.toNat_ofNat']
      omega
    have hhigh : (b.toNat + 256 * ofLittleEndian rest) / 256 = ofLittleEndian rest := by omega
    simp only [List.length_cons, littleEndian, ofLittleEndian, hlow, hhigh, ih]

theorem bigEndian_ofBigEndian (bytes : List UInt8) :
    bigEndian bytes.length (ofBigEndian bytes) = bytes := by
  have h := littleEndian_ofLittleEndian bytes.reverse
  rw [List.length_reverse] at h
  rw [bigEndian, ofBigEndian, h, List.reverse_reverse]

theorem ofLittleEndian_lt (bytes : List UInt8) : ofLittleEndian bytes < 256 ^ bytes.length := by
  induction bytes with
  | nil => simp [ofLittleEndian]
  | cons b rest ih =>
    have hb : b.toNat < 256 := b.toNat_lt
    simp only [ofLittleEndian, List.length_cons, Nat.pow_succ]
    omega

theorem ofBigEndian_lt (bytes : List UInt8) : ofBigEndian bytes < 256 ^ bytes.length := by
  have h := ofLittleEndian_lt bytes.reverse
  rwa [List.length_reverse] at h

end Bytes

namespace Varint

theorem widthOf?_marker {w : IntWidth} (hw : w ≠ .w8) : widthOf? (marker w) = some w := by
  cases w with
  | w8 => exact absurd rfl hw
  | w16 | w32 | w64 | w128 => decide

theorem widthFor_ne_w8 (n : Nat) : widthFor n ≠ .w8 := by
  unfold widthFor
  split
  · decide
  · split
    · decide
    · split <;> decide

theorem maxSingleByte_lt_marker {w : IntWidth} (hw : w ≠ .w8) :
    ¬ (marker w).toNat ≤ maxSingleByte := by
  cases w with
  | w8 => exact absurd rfl hw
  | w16 | w32 | w64 | w128 => decide

/-- A number of some width is written in at most this width. -/
theorem bytes_widthFor_le {w : IntWidth} {n : Nat} (hw : w ≠ .w8) (hn : n < 2 ^ w.bits) :
    (widthFor n).bytes ≤ w.bytes := by
  unfold widthFor UInt16.size UInt32.size UInt64.size
  cases w with
  | w8 => exact absurd rfl hw
  | w16 | w32 | w64 | w128 =>
    simp only [IntWidth.bits, IntWidth.bytes, Nat.reduceMul, Nat.reducePow] at hn
    split_ifs <;> decide

/-- The digits of a number have room in the width it is written in. -/
theorem lt_widthFor {n : Nat} (hn : n < 2 ^ 128) : n < 256 ^ (widthFor n).bytes := by
  unfold widthFor UInt16.size UInt32.size UInt64.size
  split_ifs <;> simp only [IntWidth.bytes] <;> omega

/-- A variable-length number is read back by every width that holds it. -/
theorem reads_encode {w : IntWidth} {n : Nat} (hw : w ≠ .w8) (hn : n < 2 ^ w.bits) :
    Reads (decode w) (encode n) n := by
  have hlt : n < 256 ^ (widthFor n).bytes := by
    apply lt_widthFor
    refine Nat.lt_of_lt_of_le hn (Nat.pow_le_pow_right (by decide) ?_)
    cases w <;> decide
  unfold encode
  by_cases hsmall : n ≤ maxSingleByte
  · rw [if_pos hsmall]
    intro rest
    have hbyte : (UInt8.ofNat n).toNat = n := by
      rw [UInt8.toNat_ofNat']
      simp only [maxSingleByte] at hsmall
      omega
    -- the byte is below every marker, so the reader takes it for the number itself
    show (if (UInt8.ofNat n).toNat ≤ maxSingleByte then _ else _ : Decoder Nat) rest = _
    rw [hbyte, if_pos hsmall]
    rfl
  · rw [if_neg hsmall]
    intro rest
    have hwidth := widthFor_ne_w8 n
    show (if (marker (widthFor n)).toNat ≤ maxSingleByte then _ else _ : Decoder Nat)
      (Bytes.littleEndian (widthFor n).bytes n ++ rest) = _
    -- the marker is read back first, then as many digits as it announces
    rw [if_neg (maxSingleByte_lt_marker hwidth), widthOf?_marker hwidth]
    show (if (widthFor n).bytes ≤ w.bytes then _ else _ : Decoder Nat) _ = _
    rw [if_pos (bytes_widthFor_le hw hn)]
    have hdigits := (Reads.takeBytes (Bytes.littleEndian (widthFor n).bytes n)).map
      Bytes.ofLittleEndian
    rw [Bytes.length_littleEndian, Bytes.ofLittleEndian_littleEndian _ _ hlt] at hdigits
    exact hdigits rest

end Varint

/-- Folding a signed number of `k + 1` bits gives an unsigned one of as many bits. -/
theorem zigzag_lt {k : Nat} {i : Int} (hlo : -(2 ^ k : Nat) ≤ i) (hhi : i < (2 ^ k : Nat)) :
    zigzag i < 2 ^ (k + 1) := by
  cases i with
  | ofNat n =>
    simp only [zigzag, Nat.pow_succ]
    simp only [Int.ofNat_eq_natCast] at hhi
    omega
  | negSucc n =>
    simp only [zigzag, Nat.pow_succ]
    omega

namespace Schema

/-- One raw byte is read back as the number that it was written from. -/
theorem reads_byte (n : BitVec (IntWidth.bits .w8)) :
    Reads (do let b ← takeByte; return BitVec.ofNat (IntWidth.bits .w8) b.toNat)
      [UInt8.ofNat n.toNat] n := by
  have h := (Reads.takeByte (UInt8.ofNat n.toNat)).map fun b =>
    BitVec.ofNat (IntWidth.bits .w8) b.toNat
  have hn : n.toNat < 256 := n.isLt
  have hb : (UInt8.ofNat n.toNat).toNat = n.toNat := by
    rw [UInt8.toNat_ofNat']
    omega
  rwa [hb, BitVec.ofNat_toNat, BitVec.setWidth_eq] at h

/-- A variable-length number is read back as the bit vector that it was written from. -/
theorem reads_unsignedVarint {w : IntWidth} (hw : w ≠ .w8) (n : BitVec w.bits) :
    Reads (do let m ← Varint.decode w; return BitVec.ofNat w.bits m) (Varint.encode n.toNat) n := by
  have h := (Varint.reads_encode hw n.isLt).map fun m => BitVec.ofNat w.bits m
  rwa [BitVec.ofNat_toNat, BitVec.setWidth_eq] at h

theorem reads_encodeUnsigned (w : IntWidth) (n : BitVec w.bits) :
    Reads (decodeUnsigned w) (encodeUnsigned w n) n := by
  cases w with
  | w8 => exact reads_byte n
  | w16 | w32 | w64 | w128 => exact reads_unsignedVarint (by decide) n

theorem zigzag_toInt_lt (w : IntWidth) (n : BitVec w.bits) : zigzag n.toInt < 2 ^ w.bits := by
  have hlo := BitVec.le_toInt n
  have hhi := BitVec.toInt_lt (x := n)
  have hlt := zigzag_lt (k := w.bits - 1) (by simpa using hlo) (by simpa using hhi)
  have hpos : w.bits - 1 + 1 = w.bits := by cases w <;> rfl
  rwa [hpos] at hlt

/-- The same for a signed number, which is folded on the way. -/
theorem reads_signedVarint {w : IntWidth} (hw : w ≠ .w8) (n : BitVec w.bits) :
    Reads (do let m ← Varint.decode w; return BitVec.ofInt w.bits (unzigzag m))
      (Varint.encode (zigzag n.toInt)) n := by
  have h := (Varint.reads_encode hw (zigzag_toInt_lt w n)).map
    fun m => BitVec.ofInt w.bits (unzigzag m)
  rwa [unzigzag_zigzag, BitVec.ofInt_toInt] at h

theorem reads_encodeSigned (w : IntWidth) (n : BitVec w.bits) :
    Reads (decodeSigned w) (encodeSigned w n) n := by
  cases w with
  | w8 => exact reads_byte n
  | w16 | w32 | w64 | w128 => exact reads_signedVarint (by decide) n

end Schema

/-! ## Text -/

/-- The four ranges of first bytes. -/
theorem utf8Width?_ofNat {n k : Nat}
    (h : n < 0x80 ∧ k = 1 ∨ 0xc2 ≤ n ∧ n ≤ 0xdf ∧ k = 2 ∨ 0xe0 ≤ n ∧ n ≤ 0xef ∧ k = 3 ∨
      0xf0 ≤ n ∧ n ≤ 0xf4 ∧ k = 4) : utf8Width? (UInt8.ofNat n) = some k := by
  have hn : (UInt8.ofNat n).toNat = n := by
    rw [UInt8.toNat_ofNat']
    omega
  simp only [utf8Width?, UInt8.lt_iff_toNat_lt, UInt8.le_iff_toNat_le, hn]
  rcases h with ⟨h, rfl⟩ | ⟨h, h', rfl⟩ | ⟨h, h', rfl⟩ | ⟨h, h', rfl⟩
  · exact if_pos h
  all_goals
    simp only [UInt8.reduceToNat]
    split_ifs <;> first | rfl | omega

/-- The first byte of a character tells how many bytes it has. -/
theorem utf8Width?_utf8EncodeChar (c : Char) : ∃ first others,
    String.utf8EncodeChar c = first :: others ∧ utf8Width? first = some (others.length + 1) := by
  have hc : c.val.toNat < 0x110000 := by
    rcases c.valid with h | ⟨_, h⟩
    · exact Nat.lt_trans h (by decide)
    · exact h
  simp only [String.utf8EncodeChar]
  split_ifs with h1 h2 h3
  · exact ⟨_, _, rfl, utf8Width?_ofNat (.inl ⟨by omega, rfl⟩)⟩
  · exact ⟨_, _, rfl, utf8Width?_ofNat (.inr (.inl ⟨by omega, by omega, rfl⟩))⟩
  · exact ⟨_, _, rfl, utf8Width?_ofNat (.inr (.inr (.inl ⟨by omega, by omega, rfl⟩)))⟩
  · exact ⟨_, _, rfl, utf8Width?_ofNat (.inr (.inr (.inr ⟨by omega, by omega, rfl⟩)))⟩

theorem pack_eq_toByteArray (bytes : List UInt8) : pack bytes = bytes.toByteArray := by
  apply ByteArray.ext
  rw [List.data_toByteArray]
  rfl

theorem reads_utf8EncodeChar (c : Char) : Reads decodeChar (String.utf8EncodeChar c) c := by
  obtain ⟨first, others, heq, hwidth⟩ := utf8Width?_utf8EncodeChar c
  have hdecode : (pack (first :: others)).utf8DecodeChar? 0 = some c := by
    have h := ByteArray.utf8DecodeChar?_utf8EncodeChar_append (b := ByteArray.empty) (c := c)
    rwa [ByteArray.append_empty, heq, ← pack_eq_toByteArray] at h
  rw [heq]
  refine (Reads.takeByte first).bind (b := others) ?_
  rw [hwidth]
  refine Reads.bind_last (Reads.takeBytes others) ?_
  rw [hdecode]
  exact Reads.pure c

/-- A length and so many raw bytes. -/
theorem reads_block {raw : List UInt8} (h : raw.length < 2 ^ 64) :
    Reads decodeBlock (Varint.encode raw.length ++ raw) raw :=
  (Varint.reads_encode (w := .w64) (by decide) h).bind (Reads.takeBytes raw)

/-- Text that fits memory is read back. -/
theorem reads_text {text : String} (h : (octets text.toUTF8).length ≤ Memory.limit) :
    Reads decodeText (Varint.encode (octets text.toUTF8).length ++ octets text.toUTF8) text := by
  have hlength : (octets text.toUTF8).length < 2 ^ IntWidth.bits .w64 :=
    Nat.lt_of_le_of_lt h (by decide)
  have hadmits : Memory.admits (octets text.toUTF8).length 1 = true := by
    simpa [Memory.admits] using h
  have hutf8 : String.fromUTF8? (pack (octets text.toUTF8)) = some text := by
    rw [pack_octets]
    exact dif_pos text.isValidUTF8
  refine (Varint.reads_encode (by decide) hlength).bind ?_
  rw [hadmits]
  refine Reads.bind_last (Reads.takeBytes (octets text.toUTF8)) ?_
  rw [hutf8]
  exact Reads.pure text

/-! ## Values -/

theorem reads_float32 (bits : UInt32) :
    Reads Schema.float32.decode (Bytes.littleEndian 4 bits.toNat) bits := by
  have h := (Reads.takeBytes (Bytes.littleEndian 4 bits.toNat)).map
    fun raw => UInt32.ofNat (Bytes.ofLittleEndian raw)
  rw [Bytes.length_littleEndian, Bytes.ofLittleEndian_littleEndian _ _ bits.toNat_lt,
    UInt32.ofNat_toNat] at h
  exact h

theorem reads_float64 (bits : UInt64) :
    Reads Schema.float64.decode (Bytes.littleEndian 8 bits.toNat) bits := by
  have h := (Reads.takeBytes (Bytes.littleEndian 8 bits.toNat)).map
    fun raw => UInt64.ofNat (Bytes.ofLittleEndian raw)
  rw [Bytes.length_littleEndian, Bytes.ofLittleEndian_littleEndian _ _ bits.toNat_lt,
    UInt64.ofNat_toNat] at h
  exact h

theorem reads_bool (b : Bool) : Reads Schema.decodeBool [if b then 1 else 0] b := by
  intro rest
  cases b <;> rfl

/-- Two encodings in a row succeed if both do. -/
theorem bind_eq_ok {ε α β : Type} {x : Except ε α} {f : α → Except ε β} {b : β}
    (h : x >>= f = .ok b) : ∃ a, x = .ok a ∧ f a = .ok b := by
  cases x with
  | error e => exact nomatch h
  | ok a => exact ⟨a, rfl, h⟩

theorem encodeLength_eq_ok {n : Nat} {bytes : List UInt8} (h : encodeLength n = .ok bytes) :
    bytes = Varint.encode n ∧ n < 2 ^ 64 := by
  unfold encodeLength at h
  split at h
  · exact ⟨(Except.ok.inj h).symm, ‹_›⟩
  · exact nomatch h

theorem encodeIndex_eq_ok {n : Nat} {bytes : List UInt8} (h : encodeIndex n = .ok bytes) :
    bytes = Varint.encode n ∧ n < 2 ^ 32 := by
  unfold encodeIndex at h
  split at h
  · exact ⟨(Except.ok.inj h).symm, ‹_›⟩
  · exact nomatch h

/-- Elements are read back one by one if each of them is. -/
theorem reads_encodeEach {α : Type} {encode : α → Except EncodeError (List UInt8)}
    {decode : Decoder α}
    (hread : ∀ v bytes, encode v = .ok bytes → bytes.length ≤ maxPayload → Reads decode bytes v) :
    ∀ (vs : List α) (bytes : List UInt8), encodeEach encode vs = .ok bytes →
      bytes.length ≤ maxPayload → Reads (decodeEach decode vs.length) bytes vs := by
  intro vs
  induction vs with
  | nil =>
    intro bytes h _
    obtain rfl := Except.ok.inj h
    exact Reads.pure []
  | cons v vs ih =>
    intro bytes h hfit
    obtain ⟨head, hhead, h⟩ := bind_eq_ok h
    obtain ⟨tail, htail, h⟩ := bind_eq_ok h
    obtain rfl := Except.ok.inj h
    rw [List.length_append] at hfit
    exact (hread v head hhead (by omega)).bind ((ih tail htail (by omega)).map fun vs => v :: vs)

/-- The same behind the length of the sequence. -/
theorem reads_sequence {α : Type} {encode : α → Except EncodeError (List UInt8)}
    {decode : Decoder α}
    (hread : ∀ v bytes, encode v = .ok bytes → bytes.length ≤ maxPayload → Reads decode bytes v)
    {vs : List α} {bytes : List UInt8}
    (h : (do
      let length ← encodeLength vs.length
      let body ← encodeEach encode vs
      return length ++ body) = Except.ok bytes) (hfit : bytes.length ≤ maxPayload) :
    Reads (do
      let n ← Varint.decode .w64
      decodeEach decode n) bytes vs := by
  obtain ⟨length, hlength, h⟩ := bind_eq_ok h
  obtain ⟨body, hbody, h⟩ := bind_eq_ok h
  obtain rfl := Except.ok.inj h
  obtain ⟨rfl, hsize⟩ := encodeLength_eq_ok hlength
  rw [List.length_append] at hfit
  exact (Varint.reads_encode (w := .w64) (by decide) hsize).bind
    (reads_encodeEach hread vs body hbody (by omega))

namespace Schema

mutual

/-- **Every value is read from its encoding**, whatever follows it. A longer payload than a frame
can announce does not arise; the bound keeps texts within memory. -/
theorem reads_encode : (s : Schema) → (v : s.Value) → (bytes : List UInt8) →
    s.encode v = .ok bytes → bytes.length ≤ maxPayload → Reads s.decode bytes v
  | .unit, _, _, h, _ => by
    obtain rfl := Except.ok.inj h
    exact Reads.pure ()
  | .bool, (b : Bool), _, h, _ => by
    obtain rfl := Except.ok.inj h
    exact reads_bool b
  | .unsigned w, n, _, h, _ => by
    obtain rfl := Except.ok.inj h
    exact reads_encodeUnsigned w n
  | .signed w, n, _, h, _ => by
    obtain rfl := Except.ok.inj h
    exact reads_encodeSigned w n
  | .float32, bits, _, h, _ => by
    obtain rfl := Except.ok.inj h
    exact reads_float32 bits
  | .float64, bits, _, h, _ => by
    obtain rfl := Except.ok.inj h
    exact reads_float64 bits
  | .char, c, _, h, _ => by
    obtain rfl := Except.ok.inj h
    exact reads_utf8EncodeChar c
  | .string, text, _, h, hfit => by
    obtain rfl := Except.ok.inj h
    rw [List.length_append] at hfit
    refine reads_text (Nat.le_trans ?_ (show maxPayload ≤ Memory.limit by decide))
    exact Nat.le_trans (Nat.le_add_left _ _) hfit
  | .bytes, (raw : List UInt8), _, h, hfit => by
    obtain rfl := Except.ok.inj h
    rw [List.length_append] at hfit
    refine reads_block (Nat.lt_of_le_of_lt ?_ (show maxPayload < 2 ^ 64 by decide))
    exact Nat.le_trans (Nat.le_add_left _ _) hfit
  | .unencodable, _, _, h, _ => nomatch h
  | .option _, none, _, h, _ => by
    obtain rfl := Except.ok.inj h
    exact fun rest => rfl
  | .option s, some v, _, h, hfit => by
    obtain ⟨body, hbody, h⟩ := bind_eq_ok h
    obtain rfl := Except.ok.inj h
    -- the tag in front is one byte, so the bound on the whole holds for the rest
    have hv := (reads_encode s v body hbody (Nat.le_trans (Nat.le_succ _) hfit)).map some
    exact fun rest => hv rest
  | .seq s, vs, _, h, hfit => reads_sequence (reads_encode s) h hfit
  | .unsizedSeq _, _, _, h, _ => nomatch h
  | .tuple ss, fields, _, h, hfit => reads_encodeFields ss fields _ h hfit
  | .map k v, entries, _, h, hfit => by
    refine reads_sequence (fun entry bytes h hfit => ?_) h hfit
    obtain ⟨key, hkey, h⟩ := bind_eq_ok h
    obtain ⟨value, hvalue, h⟩ := bind_eq_ok h
    obtain rfl := Except.ok.inj h
    rw [List.length_append] at hfit
    exact (reads_encode k entry.1 key hkey (by omega)).bind
      ((reads_encode v entry.2 value hvalue (by omega)).map fun value => (entry.1, value))
  | .enum ss, choice, _, h, hfit => by
    obtain ⟨depth, body, rfl, hdepth, hread⟩ := reads_encodeChoice ss 0 choice _ h hfit
    rw [Nat.zero_add] at hdepth ⊢
    exact (Varint.reads_encode (w := .w32) (by decide) hdepth).bind (hread depth)
  | .message k m, msg, _, h, hfit => by
    obtain ⟨target, htarget, h⟩ := bind_eq_ok h
    obtain ⟨payload, hpayload, h⟩ := bind_eq_ok h
    obtain rfl := Except.ok.inj h
    rw [List.length_append] at hfit
    exact (reads_encode k msg.target target htarget (by omega)).bind
      ((reads_encode m msg.payload payload hpayload (by omega)).map
        fun payload => (⟨msg.target, payload⟩ : Message k.Value m.Value))

/-- The fields of a tuple are read back one after the other. -/
theorem reads_encodeFields : (ss : List Schema) → (vs : Fields ss) → (bytes : List UInt8) →
    encodeFields ss vs = .ok bytes → bytes.length ≤ maxPayload → Reads (decodeFields ss) bytes vs
  | [], _, _, h, _ => by
    obtain rfl := Except.ok.inj h
    exact Reads.pure ()
  | s :: ss, (v, vs), _, h, hfit => by
    obtain ⟨head, hhead, h⟩ := bind_eq_ok h
    obtain ⟨tail, htail, h⟩ := bind_eq_ok h
    obtain rfl := Except.ok.inj h
    rw [List.length_append] at hfit
    exact (reads_encode s v head hhead (by omega)).bind
      ((reads_encodeFields ss vs tail htail (by omega)).map fun vs => (v, vs))

/-- A variant's value is read back by skipping as many variants as its index counts. -/
theorem reads_encodeChoice : (ss : List Schema) → (base : Nat) → (choice : Choice ss) →
    (bytes : List UInt8) → encodeChoice ss base choice = .ok bytes → bytes.length ≤ maxPayload →
    ∃ depth body, bytes = Varint.encode (base + depth) ++ body ∧ base + depth < 2 ^ 32 ∧
      ∀ index, Reads (decodeChoice ss index depth) body choice
  | [], _, choice, _, _, _ => nomatch choice
  | s :: _, base, .inl v, _, h, hfit => by
    obtain ⟨tag, htag, h⟩ := bind_eq_ok h
    obtain ⟨body, hbody, h⟩ := bind_eq_ok h
    obtain rfl := Except.ok.inj h
    obtain ⟨rfl, hindex⟩ := encodeIndex_eq_ok htag
    rw [List.length_append] at hfit
    exact ⟨0, body, rfl, hindex, fun _ => (reads_encode s v body hbody (by omega)).map Sum.inl⟩
  | _ :: ss, base, .inr choice, _, h, hfit => by
    obtain ⟨depth, body, rfl, hindex, hread⟩ := reads_encodeChoice ss (base + 1) choice _ h hfit
    have hbase : base + 1 + depth = base + (depth + 1) := by omega
    rw [hbase] at hindex ⊢
    exact ⟨depth + 1, body, rfl, hindex, fun index => (hread index).map Sum.inr⟩

end

end Schema

/-- **A record is what its own frame holds.** The frame is that of a payload which the length field
can announce, and decoding the payload gives the record and leaves nothing over. -/
theorem decodeRecord_of_encodeRecord {s : Schema} {record : s.Value} {frame : List UInt8}
    (h : encodeRecord s record = .ok frame) :
    ∃ payload, frame = frameOf payload ∧ payload.length ≤ maxPayload ∧
      decodeRecord s payload = .ok record := by
  unfold encodeRecord at h
  split at h
  · exact nomatch h
  · rename_i payload hencode
    split at h
    · rename_i hfit
      refine ⟨payload, (Except.ok.inj h).symm, hfit, ?_⟩
      have hread := s.reads_encode record payload hencode hfit []
      rw [List.append_nil] at hread
      unfold decodeRecord
      rw [hread]
      rfl
    · exact nomatch h

end Fanout
