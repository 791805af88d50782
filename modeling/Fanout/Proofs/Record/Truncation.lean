import Fanout.Proofs.Record.RoundTrip

/-!
# Payloads that are cut short

A decoder goes through its input from the front and never looks at its length. So what it makes of
an input stands: unless it ran out of bytes, more bytes behind the input change nothing but what it
leaves over (`Steady`). Steadiness passes along the binds of a decoder, so every decoder has it.

* `steady_decode` — the decoder of every record type is steady.
* `codec_of_encode` — the frame of a record, and what becomes of its payload when it is decoded as
  it is, with something behind it, or cut short.
-/

namespace Fanout

/-- Unless the decoder runs out of input, it makes the same of a longer one and leaves the
additional bytes over. -/
def Steady {α : Type} (d : Decoder α) : Prop :=
  ∀ input more, d input = .error .unexpectedEnd ∨
    d (input ++ more) = (d input).map fun p => (p.1, p.2 ++ more)

namespace Steady

variable {α β : Type} {d : Decoder α}

theorem pure (v : α) : Steady (Pure.pure v : Decoder α) := by
  intro input more
  right
  rfl

theorem throw (e : DecodeError) : Steady (MonadExcept.throw e : Decoder α) := by
  intro input more
  right
  rfl

theorem bind (hd : Steady d) {f : α → Decoder β} (hf : ∀ v, Steady (f v)) : Steady (d >>= f) := by
  intro input more
  have hbind (bytes : List UInt8) : (d >>= f) bytes = d bytes >>= fun p => f p.1 p.2 := rfl
  rw [hbind, hbind]
  rcases hd input more with hout | hsame
  · left
    rw [hout]
    rfl
  · rw [hsame]
    cases d input with
    | error e =>
      right
      rfl
    | ok p =>
      obtain ⟨v, rest⟩ := p
      exact hf v rest more

/-- A last step that only looks at what was read. -/
theorem map (hd : Steady d) (f : α → β) : Steady (d >>= fun v => Pure.pure (f v)) := by
  refine hd.bind ?_
  intro v
  exact Steady.pure (f v)

theorem takeByte : Steady Fanout.takeByte := by
  intro input more
  cases input with
  | nil =>
    left
    rfl
  | cons b rest =>
    right
    rfl

theorem takeBytes (n : Nat) : Steady (Fanout.takeBytes n) := by
  intro input more
  unfold Fanout.takeBytes
  cases hsplit : Bytes.splitAt? n input with
  | none =>
    left
    rfl
  | some cut =>
    obtain ⟨front, rest⟩ := cut
    obtain ⟨rfl, rfl⟩ := Bytes.eq_append_of_splitAt? hsplit
    right
    rw [List.append_assoc, Bytes.splitAt?_append]
    rfl

/-- A payload that a decoder reads to its end cannot be cut short: the decoder runs out of it. -/
theorem unexpectedEnd_of_append (hd : Steady d) {v : α} {front missing : List UInt8}
    (h : d (front ++ missing) = .ok (v, [])) (hmissing : missing ≠ []) :
    d front = .error .unexpectedEnd := by
  rcases hd front missing with hout | hsame
  · exact hout
  · rw [hsame] at h
    cases hfront : d front with
    | error e =>
      rw [hfront] at h
      exact nomatch h
    | ok p =>
      rw [hfront] at h
      -- the missing bytes would be left over
      have hrest : p.2 ++ missing = [] := (Prod.mk.inj (Except.ok.inj h)).2
      exact absurd (List.append_eq_nil_iff.1 hrest).2 hmissing

end Steady

/-! ## Decoders -/

theorem Varint.steady_decode (w : IntWidth) : Steady (Varint.decode w) := by
  refine Steady.takeByte.bind ?_
  intro b
  split_ifs
  · exact Steady.pure _
  · cases widthOf? b with
    | none => exact Steady.throw _
    | some width =>
      dsimp only
      split_ifs
      · exact (Steady.takeBytes _).map _
      · exact Steady.throw _

theorem steady_decodeEach {α : Type} {d : Decoder α} (hd : Steady d) (n : Nat) :
    Steady (decodeEach d n) := by
  induction n with
  | zero => exact Steady.pure []
  | succ n ih =>
    refine hd.bind ?_
    intro v
    exact ih.map _

theorem steady_decodeChar : Steady decodeChar := by
  refine Steady.takeByte.bind ?_
  intro first
  cases utf8Width? first with
  | none => exact Steady.throw _
  | some width =>
    refine (Steady.takeBytes _).bind ?_
    intro others
    split
    · exact Steady.pure _
    · exact Steady.throw _

theorem steady_decodeBlock : Steady decodeBlock := by
  refine (Varint.steady_decode .w64).bind ?_
  intro n
  exact Steady.takeBytes n

theorem steady_decodeText : Steady decodeText := by
  refine (Varint.steady_decode .w64).bind ?_
  intro n
  cases Memory.admits n 1 with
  | true =>
    refine (Steady.takeBytes n).bind ?_
    intro raw
    split
    · exact Steady.pure _
    · exact Steady.throw _
  | false => exact Steady.throw _

namespace Schema

theorem steady_decodeUnsigned (w : IntWidth) : Steady (decodeUnsigned w) := by
  cases w with
  | w8 => exact Steady.takeByte.map _
  | w16 | w32 | w64 | w128 => exact (Varint.steady_decode _).map _

theorem steady_decodeSigned (w : IntWidth) : Steady (decodeSigned w) := by
  cases w with
  | w8 => exact Steady.takeByte.map _
  | w16 | w32 | w64 | w128 => exact (Varint.steady_decode _).map _

theorem steady_decodeBool : Steady decodeBool := by
  refine Steady.takeByte.bind ?_
  intro b
  split_ifs
  · exact Steady.pure _
  · exact Steady.pure _
  · exact Steady.throw _

/-- An optional value that is read steadily. -/
theorem steady_optional {α : Type} {d : Decoder α} (hd : Steady d) :
    Steady (do
      let tag ← takeByte
      if tag = 0 then return none
      else if tag = 1 then
        let v ← d
        return some v
      else throw .optionTag) := by
  refine Steady.takeByte.bind ?_
  intro tag
  split_ifs
  · exact Steady.pure none
  · exact hd.map some
  · exact Steady.throw _

/-- A sequence of elements that are read steadily. -/
theorem steady_sequence {α : Type} {d : Decoder α} (hd : Steady d) :
    Steady (do
      let n ← Varint.decode .w64
      decodeEach d n) := by
  refine (Varint.steady_decode .w64).bind ?_
  intro n
  exact steady_decodeEach hd n

mutual

/-- **The decoder of every record type is steady.** -/
theorem steady_decode : (s : Schema) → Steady s.decode
  | .unit => Steady.pure ()
  | .bool => steady_decodeBool
  | .unsigned w => steady_decodeUnsigned w
  | .signed w => steady_decodeSigned w
  | .float32 => (Steady.takeBytes 4).map _
  | .float64 => (Steady.takeBytes 8).map _
  | .char => steady_decodeChar
  | .string => steady_decodeText
  | .bytes => steady_decodeBlock
  | .unencodable => Steady.throw _
  | .option s => steady_optional (steady_decode s)
  | .seq s => steady_sequence (steady_decode s)
  | .unsizedSeq s => steady_sequence (steady_decode s)
  | .tuple ss => steady_decodeFields ss
  | .map k v => by
    refine steady_sequence ?_
    refine (steady_decode k).bind ?_
    intro key
    exact (steady_decode v).map _
  | .enum ss => by
    refine (Varint.steady_decode .w32).bind ?_
    intro index
    exact steady_decodeChoice ss index index
  | .message k m => by
    refine (steady_decode k).bind ?_
    intro target
    exact (steady_decode m).map _

theorem steady_decodeFields : (ss : List Schema) → Steady (decodeFields ss)
  | [] => Steady.pure ()
  | s :: ss => by
    refine (steady_decode s).bind ?_
    intro v
    exact (steady_decodeFields ss).map _

theorem steady_decodeChoice : (ss : List Schema) → (index skip : Nat) →
    Steady (decodeChoice ss index skip)
  | [], _, _ => Steady.throw _
  | s :: _, _, 0 => (steady_decode s).map _
  | _ :: ss, index, skip + 1 => (steady_decodeChoice ss index skip).map _

end

end Schema

/-! ## Payloads -/

section Payload

variable {s : Schema} {record : s.Value} {payload : List UInt8}

/-- Every payload is read back in front of anything. -/
theorem decode_payload (h : s.encode record = .ok payload) (hfit : payload.length ≤ maxPayload)
    (suffix : List UInt8) : s.decode (payload ++ suffix) = .ok (record, suffix) :=
  Schema.reads_encode s record payload h hfit suffix

theorem decodeRecord_payload (h : s.encode record = .ok payload)
    (hfit : payload.length ≤ maxPayload) : decodeRecord s payload = .ok record := by
  have hread := decode_payload h hfit []
  rw [List.append_nil] at hread
  simp [decodeRecord, hread]

/-- What follows the payload is found out. -/
theorem decodeRecord_append (h : s.encode record = .ok payload)
    (hfit : payload.length ≤ maxPayload) {suffix : List UInt8} (hsuffix : suffix ≠ []) :
    decodeRecord s (payload ++ suffix) =
      .error (.trailingBytes payload.length (payload ++ suffix).length) := by
  simp [decodeRecord, decode_payload h hfit, hsuffix]

/-- So is what is missing from it. -/
theorem decodeRecord_front (h : s.encode record = .ok payload)
    (hfit : payload.length ≤ maxPayload) {front : List UInt8} (hfront : front <+: payload)
    (hne : front ≠ payload) : decodeRecord s front = .error (.decode .unexpectedEnd) := by
  obtain ⟨missing, rfl⟩ := hfront
  have hmissing : missing ≠ [] := by
    rintro rfl
    exact hne (List.append_nil front).symm
  have hread := decode_payload h hfit []
  rw [List.append_nil] at hread
  rw [decodeRecord, (Schema.steady_decode s).unexpectedEnd_of_append hread hmissing]

/-- **The record codec is exact.** A record that can be encoded is appended to any bytes as the
length of its payload in four bytes, most significant first, and the payload, and the size of both
is returned; the payload gives the record back; with anything behind it, it is refused with the
number of bytes that belong to the record; and cut short anywhere it cannot be decoded. -/
theorem codec_of_encode (h : s.encode record = .ok payload) (hfit : payload.length < UInt32.size) :
    (∀ out, appendRecord s record out =
      (.ok (4 + payload.length), out ++ (Bytes.bigEndian 4 payload.length ++ payload))) ∧
    decodeRecord s payload = .ok record ∧
    (∀ suffix, suffix ≠ [] → decodeRecord s (payload ++ suffix) =
      .error (.trailingBytes payload.length (payload ++ suffix).length)) ∧
    (∀ front, front <+: payload → front ≠ payload →
      decodeRecord s front = .error (.decode .unexpectedEnd)) := by
  have hfit : payload.length ≤ maxPayload := Nat.le_of_lt_succ hfit
  refine ⟨?_, decodeRecord_payload h hfit, ?_, ?_⟩
  · intro out
    have hencode : encodeRecord s record = .ok (frameOf payload) := by
      simp only [encodeRecord, h, hfit, if_true]
    rw [appendRecord_eq, hencode]
    simp only [length_frameOf]
    rfl
  · intro suffix hsuffix
    exact decodeRecord_append h hfit hsuffix
  · intro front hfront hne
    exact decodeRecord_front h hfit hfront hne

end Payload

/-- A message to 300 with two booleans, whose payload is six bytes long. -/
theorem codec_of_encode_small :
    Schema.encode (.message (.unsigned .w16) (.seq .bool)) ⟨300#16, [true, false]⟩ =
        .ok [0xfb, 0x2c, 0x01, 2, 1, 0] ∧
      (∀ out, appendRecord (.message (.unsigned .w16) (.seq .bool)) ⟨300#16, [true, false]⟩ out =
        (.ok 10, out ++ [0, 0, 0, 6, 0xfb, 0x2c, 0x01, 2, 1, 0])) ∧
      decodeRecord (.message (.unsigned .w16) (.seq .bool)) [0xfb, 0x2c, 0x01, 2, 1, 0] =
        .ok ⟨300#16, [true, false]⟩ ∧
      decodeRecord (.message (.unsigned .w16) (.seq .bool)) [0xfb, 0x2c, 0x01, 2, 1, 0, 7] =
        .error (.trailingBytes 6 7) ∧
      decodeRecord (.message (.unsigned .w16) (.seq .bool)) [0xfb, 0x2c] =
        .error (.decode .unexpectedEnd) := by
  have hencode : Schema.encode (.message (.unsigned .w16) (.seq .bool)) ⟨300#16, [true, false]⟩ =
      .ok [0xfb, 0x2c, 0x01, 2, 1, 0] := by
    rfl
  obtain ⟨happend, hback, htrailing, hfront⟩ := codec_of_encode hencode (by decide)
  refine ⟨hencode, happend, hback, htrailing [7] (by decide), hfront [0xfb, 0x2c] (by decide)
    (by decide)⟩

end Fanout
