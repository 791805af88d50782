import Fanout.Proofs.Stream.Payloads

/-!
# Streams in chunks

A consumer pushes the bytes of a stream in chunks as they arrive and takes frames in between. Taking
a frame and pushing a chunk commute, so neither the cuts between the chunks nor the moments at which
the consumer looks make a difference: what it takes and what it then still finds is what it would
find if it got the whole stream at once.

* `nextFrame?_eq_some_iff` — a frame is taken exactly if the stream begins with it.
* `frames_of_calls` — the frames taken by any calls, and what is left of the stream.
-/

namespace Fanout

namespace Reassembly

/-- One call of a consumer. -/
inductive Call where
  | push (chunk : ByteArray)
  | next

/-- The bytes that some calls push, one chunk after the other. -/
def pushed : List Call → ByteArray
  | [] => ByteArray.empty
  | .push chunk :: calls => chunk ++ pushed calls
  | .next :: calls => pushed calls

/-- Makes some calls: the payloads that they take, in order, and the stream afterwards. -/
def callAll (r : Reassembly) : List Call → List ByteArray × Reassembly
  | [] => ([], r)
  | .push chunk :: calls => (r.push chunk).callAll calls
  | .next :: calls =>
    match r.nextFrame? with
    | none => r.callAll calls
    | some (payload, rest) =>
      let (payloads, last) := rest.callAll calls
      (payload :: payloads, last)

/-- Takes and decodes records for at most so many rounds; `none` if there is a round to go. -/
def drainRecordsWithin (s : Schema) :
    (rounds : Nat) → Reassembly → Option (Except RecordError (List s.Value) × Reassembly)
  | 0, _ => none
  | rounds + 1, r =>
    match r.nextRecord s with
    | (.error e, r) => some (.error e, r)
    | (.ok none, r) => some (.ok [], r)
    | (.ok (some record), r) =>
      (drainRecordsWithin s rounds r).map fun (records, last) =>
        (records.map (record :: ·), last)

variable {r r' : Reassembly} {payload chunk : ByteArray}

/-! ## One frame -/

theorem ext_octets (h : octets r.pending = octets r'.pending) : r = r' := by
  cases r with
  | mk bytes =>
    cases r' with
    | mk bytes' =>
      have hbytes := congrArg pack h
      rw [pack_octets, pack_octets] at hbytes
      exact congrArg mk hbytes

theorem length_pending (r : Reassembly) : (octets r.pending).length = r.buffered := rfl

theorem nextFrame?_eq_none_iff : r.nextFrame? = none ↔
    r.buffered < lengthFieldSize ∨ r.buffered < lengthFieldSize + r.announced := by
  unfold nextFrame?
  by_cases hheader : r.buffered < lengthFieldSize
  · simp [hheader]
  · by_cases hpayload : r.buffered - lengthFieldSize < r.announced
    · simp [hheader, hpayload]
      omega
    · simp [hheader, hpayload]
      omega

/-- The length field in front of a stream, if it has come in completely. -/
theorem length_header (h : lengthFieldSize ≤ r.buffered) :
    ((octets r.pending).take lengthFieldSize).length = lengthFieldSize := by
  rw [List.length_take, length_pending]
  omega

theorem announced_eq (r : Reassembly) :
    r.announced = Bytes.ofBigEndian ((octets r.pending).take lengthFieldSize) := by
  rw [announced, octets_extract, List.drop_zero, Nat.sub_zero, frameLength]

/-- What is announced is written in the length field. -/
theorem bigEndian_announced (h : lengthFieldSize ≤ r.buffered) :
    Bytes.bigEndian lengthFieldSize r.announced = (octets r.pending).take lengthFieldSize := by
  have hsame := Bytes.bigEndian_ofBigEndian ((octets r.pending).take lengthFieldSize)
  rw [length_header h] at hsame
  rw [announced_eq, hsame]

theorem announced_le (h : lengthFieldSize ≤ r.buffered) : r.announced ≤ maxPayload := by
  have hlt := Bytes.ofBigEndian_lt ((octets r.pending).take lengthFieldSize)
  have hsize : 256 ^ lengthFieldSize = maxPayload + 1 := by decide
  rw [length_header h, ← announced_eq, hsize] at hlt
  exact Nat.le_of_lt_succ hlt

/-- **A frame is taken exactly if the stream begins with it**, and the rest of the stream is
left. -/
theorem nextFrame?_eq_some_iff : r.nextFrame? = some (payload, r') ↔
    (octets payload).length ≤ maxPayload ∧
      octets r.pending = frameOf (octets payload) ++ octets r'.pending := by
  constructor
  · intro h
    have hcomplete : ¬ (r.buffered < lengthFieldSize ∨
        r.buffered < lengthFieldSize + r.announced) := by
      rw [← nextFrame?_eq_none_iff, h]
      simp
    have hheader : lengthFieldSize ≤ r.buffered := by omega
    have hwhole : lengthFieldSize + r.announced ≤ r.buffered := by omega
    simp only [nextFrame?] at h
    rw [if_neg (by omega), if_neg (by omega)] at h
    obtain ⟨rfl, rfl⟩ := Prod.mk.inj (Option.some.inj h)
    have hpayload : octets (r.pending.extract lengthFieldSize (lengthFieldSize + r.announced)) =
        ((octets r.pending).drop lengthFieldSize).take r.announced := by
      rw [octets_extract, Nat.add_sub_cancel_left]
    have hrest : octets (r.pending.extract (lengthFieldSize + r.announced) r.buffered) =
        ((octets r.pending).drop lengthFieldSize).drop r.announced := by
      rw [octets_extract, List.drop_drop]
      apply List.take_of_length_le
      exact Nat.le_of_eq List.length_drop
    -- the payload is as long as its length field announces
    have hlength : (octets (r.pending.extract lengthFieldSize
        (lengthFieldSize + r.announced))).length = r.announced := by
      rw [hpayload, List.length_take, List.length_drop, length_pending]
      omega
    constructor
    · rw [hlength]
      exact announced_le hheader
    · rw [frameOf, hlength, bigEndian_announced hheader, hpayload, hrest, List.append_assoc,
        List.take_append_drop, List.take_append_drop]
  · rintro ⟨hfit, hbytes⟩
    have h := nextFrame?_frameOf hfit (octets r'.pending)
    rw [← hbytes, pack_octets, pack_octets, pack_octets] at h
    exact h

/-- Taking a frame and pushing a chunk commute. -/
theorem nextFrame?_push (h : r.nextFrame? = some (payload, r')) (chunk : ByteArray) :
    (r.push chunk).nextFrame? = some (payload, r'.push chunk) := by
  obtain ⟨hfit, hbytes⟩ := nextFrame?_eq_some_iff.1 h
  apply nextFrame?_eq_some_iff.2
  refine ⟨hfit, ?_⟩
  rw [octets_push, octets_push, hbytes, List.append_assoc]

/-- A frame takes its length field at least. -/
theorem buffered_of_nextFrame? (h : r.nextFrame? = some (payload, r')) :
    r'.buffered + lengthFieldSize ≤ r.buffered := by
  have hlength := congrArg List.length (nextFrame?_eq_some_iff.1 h).2
  rw [List.length_append, length_frameOf, length_pending r, length_pending r'] at hlength
  omega

/-! ## Some calls -/

theorem push_empty (r : Reassembly) : r.push ByteArray.empty = r := by
  apply ext_octets
  rw [octets_push, octets_empty, List.append_nil]

theorem push_push (r : Reassembly) (a b : ByteArray) : (r.push a).push b = r.push (a ++ b) := by
  apply ext_octets
  rw [octets_push, octets_push, octets_push, octets_append, List.append_assoc]

/-- **Looking early changes nothing**: what some calls take, and what is then still to be taken, is
what there is to take when all chunks are pushed at once. -/
theorem drainFrames_callAll (r : Reassembly) (calls : List Call) :
    (r.push (pushed calls)).drainFrames =
      ((r.callAll calls).1 ++ (r.callAll calls).2.drainFrames.1,
        (r.callAll calls).2.drainFrames.2) := by
  induction calls generalizing r with
  | nil => rw [pushed, push_empty, callAll, List.nil_append]
  | cons call calls ih =>
    cases call with
    | push chunk => rw [pushed, ← push_push, ih, callAll]
    | next =>
      cases hnext : r.nextFrame? with
      | none => simp only [pushed, callAll, hnext, ih]
      | some taken =>
        obtain ⟨payload, rest⟩ := taken
        rw [pushed, drainFrames_of_some (nextFrame?_push hnext (pushed calls)), ih]
        simp only [callAll, hnext, List.cons_append]

/-- What is drained and what is left are the bytes of the stream. -/
theorem framesOf_drainFrames (r : Reassembly) :
    framesOf r.drainFrames.1 ++ octets r.drainFrames.2.pending = octets r.pending := by
  induction h : r.buffered using Nat.strongRecOn generalizing r with
  | ind n ih =>
    cases hnext : r.nextFrame? with
    | none =>
      rw [drainFrames_of_none hnext]
      rfl
    | some taken =>
      obtain ⟨payload, rest⟩ := taken
      have hless : rest.buffered < n := h ▸ buffered_nextFrame?_lt hnext
      rw [drainFrames_of_some hnext, framesOf_cons, List.append_assoc, ih _ hless rest rfl,
        (nextFrame?_eq_some_iff.1 hnext).2]

/-- Draining goes on until no frame is complete. -/
theorem nextFrame?_drainFrames (r : Reassembly) : r.drainFrames.2.nextFrame? = none := by
  induction h : r.buffered using Nat.strongRecOn generalizing r with
  | ind n ih =>
    cases hnext : r.nextFrame? with
    | none =>
      rw [drainFrames_of_none hnext]
      exact hnext
    | some taken =>
      obtain ⟨payload, rest⟩ := taken
      rw [drainFrames_of_some hnext]
      exact ih _ (h ▸ buffered_nextFrame?_lt hnext) rest rfl

/-! ## How long draining takes -/

/-- A stream has no more frames than length fields fit into it. -/
theorem nextFrame?_of_buffered_lt (h : r.buffered / lengthFieldSize = 0) : r.nextFrame? = none := by
  apply nextFrame?_eq_none_iff.2
  left
  unfold lengthFieldSize at h ⊢
  omega

/-- Every frame uses up one of the length fields that fit into a stream. -/
theorem div_lt_of_nextFrame? (h : r.nextFrame? = some (payload, r')) :
    r'.buffered / lengthFieldSize < r.buffered / lengthFieldSize := by
  have hless := buffered_of_nextFrame? h
  unfold lengthFieldSize at hless ⊢
  omega

theorem callAll_replicate_of_none (h : r.nextFrame? = none) (n : Nat) :
    r.callAll (List.replicate n .next) = ([], r) := by
  induction n with
  | zero => rfl
  | succ n ih =>
    rw [List.replicate_succ, callAll, h]
    exact ih

/-- Taking frames one by one drains the stream in a quarter as many calls as there are bytes. -/
theorem callAll_replicate_next {n : Nat} (h : r.buffered / lengthFieldSize ≤ n) :
    r.callAll (List.replicate n .next) = r.drainFrames := by
  induction n generalizing r with
  | zero =>
    rw [drainFrames_of_none (nextFrame?_of_buffered_lt (Nat.le_zero.1 h))]
    rfl
  | succ n ih =>
    cases hnext : r.nextFrame? with
    | none => rw [callAll_replicate_of_none hnext, drainFrames_of_none hnext]
    | some taken =>
      obtain ⟨payload, rest⟩ := taken
      have hless := div_lt_of_nextFrame? hnext
      have hrest := ih (r := rest) (by omega)
      rw [drainFrames_of_some hnext, ← hrest, List.replicate_succ, callAll]
      simp only [hnext]

theorem nextFrame?_of_nextRecord {s : Schema} {record : s.Value}
    (h : r.nextRecord s = (.ok (some record), r')) :
    ∃ payload, r.nextFrame? = some (payload, r') := by
  unfold nextRecord at h
  cases hnext : r.nextFrame? with
  | none =>
    rw [hnext] at h
    exact nomatch Except.ok.inj (Prod.mk.inj h).1
  | some taken =>
    obtain ⟨payload, rest⟩ := taken
    rw [hnext] at h
    dsimp only at h
    cases hdecode : decodeRecord s (octets payload) with
    | error e =>
      rw [hdecode] at h
      exact nomatch (Prod.mk.inj h).1
    | ok record' =>
      rw [hdecode] at h
      obtain rfl := (Prod.mk.inj h).2
      exact ⟨payload, rfl⟩

/-- So does taking records, with one round more to find that there is none, or earlier at a record
that cannot be decoded. -/
theorem drainRecordsWithin_eq (s : Schema) {rounds : Nat}
    (h : r.buffered / lengthFieldSize < rounds) :
    drainRecordsWithin s rounds r = some (r.drainRecords s) := by
  induction rounds generalizing r with
  | zero => exact absurd h (Nat.not_lt_zero _)
  | succ rounds ih =>
    rw [drainRecordsWithin, drainRecords_eq]
    rcases hnext : r.nextRecord s with ⟨_ | _ | record, rest⟩
    · rfl
    · rfl
    · obtain ⟨payload, hframe⟩ := nextFrame?_of_nextRecord hnext
      have hless := div_lt_of_nextFrame? hframe
      have hrest := ih (r := rest) (by omega)
      dsimp only
      rw [hrest]
      rfl

/-! ## Any calls -/

/-- **The frames of a stream do not depend on its chunks.** Whatever chunks a stream arrives in and
whenever the consumer looks for a frame, what it takes and could still take are the frames that it
would take from the stream as a whole, and when it finds no more, the same bytes are left. The
frames with their length fields and the bytes that are left are the stream; what is left is shorter
than a length field or than the frame that it announces, and if the stream consists of frames, then
these are taken and nothing is left. Draining ends, by frames and by records of any type: there are
no more of them than length fields fit into the stream. -/
theorem frames_of_calls (calls : List Call) :
    let whole := pushed calls
    let once := (start.push whole).drainFrames
    let out := start.callAll calls
    (out.1 ++ out.2.drainFrames.1, out.2.drainFrames.2) = once ∧
    (out.2.nextFrame? = none → out = once) ∧
    framesOf once.1 ++ octets once.2.pending = octets whole ∧
    (once.2.buffered < lengthFieldSize ∨
      once.2.buffered < lengthFieldSize + once.2.announced) ∧
    (∀ payloads, Fit payloads → octets whole = framesOf payloads → once = (payloads, start)) ∧
    (∀ n, out.2.buffered / lengthFieldSize ≤ n →
      out.2.callAll (List.replicate n .next) = out.2.drainFrames) ∧
    (∀ s rounds, out.2.buffered / lengthFieldSize < rounds →
      drainRecordsWithin s rounds out.2 = some (out.2.drainRecords s)) := by
  intro whole once out
  have hstart : octets start.pending = [] := rfl
  have hdrain : once = (out.1 ++ out.2.drainFrames.1, out.2.drainFrames.2) :=
    drainFrames_callAll start calls
  refine ⟨hdrain.symm, ?_, ?_, ?_, ?_, ?_, ?_⟩
  · intro hnone
    rw [hdrain, drainFrames_of_none hnone, List.append_nil]
  · have hbytes := framesOf_drainFrames (start.push whole)
    rwa [octets_push, hstart, List.nil_append] at hbytes
  · exact nextFrame?_eq_none_iff.1 (nextFrame?_drainFrames _)
  · intro payloads hfit hwhole
    have hstream : start.push whole = ⟨pack (framesOf payloads)⟩ := by
      apply ext_octets
      rw [octets_push, hstart, List.nil_append, hwhole, octets_pack]
    show (start.push whole).drainFrames = (payloads, start)
    rw [hstream]
    exact drainFrames_framesOf hfit
  · intro n hn
    exact callAll_replicate_next hn
  · intro s rounds hrounds
    exact drainRecordsWithin_eq s hrounds

/-- A length field in two chunks with an empty one between them, a frame without a payload, and two
bytes of another frame. -/
theorem frames_of_calls_small :
    let calls : List Call := [.push (pack [0, 0]), .next, .push (pack []), .next,
      .push (pack [0, 1, 7, 0, 0]), .next, .push (pack [0, 0, 0, 0]), .next, .next]
    (start.callAll calls).2.nextFrame? = none ∧
    (start.push (pack [0, 0, 0, 1, 7, 0, 0, 0, 0, 0, 0])).drainFrames =
      ([pack [7], pack []], ⟨pack [0, 0]⟩) := by
  intro calls
  have hnone : (start.callAll calls).2.nextFrame? = none := by decide +kernel
  refine ⟨hnone, ?_⟩
  exact ((frames_of_calls calls).2.1 hnone).symm

end Reassembly

end Fanout
