import Fanout.Proofs.Stream.Chunks

/-!
# Reading a segment frame by frame

A segment reader pulls frames from a file; a consumer is pushed the bytes and takes frames from what
it holds. Both find the same frames in the same bytes. Where the consumer is left with bytes that
are no frame, the reader finds damage, and then it is at the end of the file.

* `attempts_eq` — what a reader gives, one attempt after the other, against what a consumer takes.
* `reading_agrees` — a reader of a file against a consumer of its contents.
-/

namespace Fanout

/-- What is wrong with bytes that are left over and are no frame: their length field is cut short,
or the payload that it announces. -/
def Reassembly.damage (left : Reassembly) : FrameDamage :=
  if left.buffered < lengthFieldSize then .lengthField left.buffered
  else .payload left.announced (left.buffered - lengthFieldSize)

namespace SegmentReader

/-- The next item of the frames of a segment: a payload or an error; `none` at the end. -/
def nextItem? (r : SegmentReader) : Option (Except RecoveryError ByteArray) × SegmentReader :=
  match r.readFrame with
  | (.error e, r) => (some (.error e), r)
  | (.ok none, r) => (none, r)
  | (.ok (some payload), r) => (some (.ok payload), r)

/-- What the next `n` attempts at an item give, whether there are still items or not. -/
def attempts (r : SegmentReader) : (n : Nat) → List (Option (Except RecoveryError ByteArray))
  | 0 => []
  | n + 1 => r.nextItem?.1 :: r.nextItem?.2.attempts n

/-- The items of a segment from which a consumer takes some payloads and is left with some bytes:
the payloads, and the damage if there are such bytes. -/
def itemsOf (path : String) (payloads : List ByteArray) (left : Reassembly) :
    List (Except RecoveryError ByteArray) :=
  payloads.map Except.ok ++
    if left.hasPartial then [.error (.corruptFrame path left.damage)] else []

variable {r r' : SegmentReader} {a a' : Reassembly} {data payload : ByteArray}

/-! ## One frame -/

theorem path_readBytes (r : SegmentReader) (data : ByteArray) :
    (r.readBytes data).2.path = r.path := by
  unfold readBytes
  dsimp only
  split
  · rfl
  · split
    · rfl
    · split <;> rfl

theorem readFrame_eq (hs : r.source = .bytes data) : r.readFrame = r.readBytes data := by
  unfold readFrame
  rw [hs]

/-- A frame that the consumer takes is read. -/
theorem readBytes_of_some (hat : r.At data (octets a.pending))
    (hnext : a.nextFrame? = some (payload, a')) :
    ∃ r', r.readBytes data = (.ok (some payload), r') ∧ r'.At data (octets a'.pending) ∧
      r'.path = r.path := by
  obtain ⟨hfit, hbytes⟩ := Reassembly.nextFrame?_eq_some_iff.1 hnext
  rw [hbytes] at hat
  obtain ⟨r', hread, hat'⟩ := readBytes_frame hat hfit
  have hpath := path_readBytes r data
  rw [hread] at hpath
  rw [pack_octets] at hread
  exact ⟨r', hread, hat', hpath⟩

/-- Where the consumer has nothing left, the segment is at its end. -/
theorem readBytes_of_whole (hat : r.At data (octets a.pending)) (hleft : a.hasPartial = false) :
    r.readBytes data = (.ok none, r) := by
  have hempty : a.buffered = 0 := by simpa [Reassembly.hasPartial] using hleft
  have hbytes : octets a.pending = [] :=
    List.length_eq_zero_iff.1 ((Reassembly.length_pending a).trans hempty)
  rw [hbytes] at hat
  exact readBytes_at_end hat

/-- How many bytes are in front of the reader. -/
theorem At.size_eq (hat : r.At data (octets a.pending)) :
    data.size - r.position = a.buffered := by
  have hlength := congrArg List.length hat.rest_eq
  rwa [List.length_drop, length_octets, Reassembly.length_pending] at hlength

/-- The length field in front of the reader announces what the consumer finds announced. -/
theorem At.frameLength_eq (hat : r.At data (octets a.pending)) :
    frameLength (octets (data.extract r.position (r.position + lengthFieldSize))) =
      a.announced := by
  rw [octets_extract, hat.rest_eq, Nat.add_sub_cancel_left, Reassembly.announced_eq, frameLength]

/-- Where the consumer is left with bytes that are no frame, the reader finds damage, and then it is
at the end of the file. -/
theorem readBytes_of_partial (hat : r.At data (octets a.pending)) (hnext : a.nextFrame? = none)
    (hleft : a.hasPartial = true) :
    ∃ r', r.readBytes data = (.error (.corruptFrame r.path a.damage), r') ∧ r'.At data [] := by
  have hsome : a.buffered ≠ 0 := by simpa [Reassembly.hasPartial] using hleft
  refine ⟨{ r with position := data.size }, ?_, ?_⟩
  · unfold readBytes
    simp only [hat.size_eq, hat.frameLength_eq]
    rw [if_neg hsome, Reassembly.damage]
    by_cases hheader : a.buffered < lengthFieldSize
    · rw [if_pos hheader, if_pos hheader]
    · have hpayload := (Reassembly.nextFrame?_eq_none_iff.1 hnext).resolve_left hheader
      rw [if_neg hheader, if_neg hheader, if_pos (by omega)]
  · refine ⟨hat.source_eq, Nat.le_refl _, ?_⟩
    show (octets data).drop data.size = []
    rw [← length_octets, List.drop_length]

/-! ## All of them -/

section Items

variable {path : String}

theorem itemsOf_drainFrames_of_some (hnext : a.nextFrame? = some (payload, a')) :
    itemsOf path a.drainFrames.1 a.drainFrames.2 =
      .ok payload :: itemsOf path a'.drainFrames.1 a'.drainFrames.2 := by
  rw [Reassembly.drainFrames_of_some hnext]
  rfl

theorem itemsOf_drainFrames_of_none (hnext : a.nextFrame? = none) :
    itemsOf path a.drainFrames.1 a.drainFrames.2 =
      if a.hasPartial then [.error (.corruptFrame path a.damage)] else [] := by
  rw [Reassembly.drainFrames_of_none hnext]
  rfl

end Items

theorem nextItem?_of_payload (hs : r.source = .bytes data)
    (hread : r.readBytes data = (.ok (some payload), r')) :
    r.nextItem? = (some (.ok payload), r') := by
  rw [nextItem?, readFrame_eq hs, hread]

theorem nextItem?_of_error {e : RecoveryError} (hs : r.source = .bytes data)
    (hread : r.readBytes data = (.error e, r')) : r.nextItem? = (some (.error e), r') := by
  rw [nextItem?, readFrame_eq hs, hread]

/-- A segment that is at its end stays there. -/
theorem attempts_at_end (hs : r.source = .bytes data) (hread : r.readBytes data = (.ok none, r))
    (n : Nat) : r.attempts n = List.replicate n none := by
  have hitem : r.nextItem? = (none, r) := by
    rw [nextItem?, readFrame_eq hs, hread]
  induction n with
  | zero => rfl
  | succ n ih => rw [attempts, hitem, ih, List.replicate_succ]

/-- **Attempts at the frames of a segment** give what the consumer takes from the same bytes, then
the damage if bytes are left, and then nothing any more. -/
theorem attempts_eq (hat : r.At data (octets a.pending)) {n more : Nat} (hmore : n ≤ more) :
    r.attempts n =
      ((itemsOf r.path a.drainFrames.1 a.drainFrames.2).map some ++
        List.replicate more none).take n := by
  -- along the frames that the consumer takes, each of which uses up one attempt
  induction n generalizing r a with
  | zero => rfl
  | succ n ih =>
    have hless : n ≤ more := Nat.le_of_succ_le hmore
    cases hnext : a.nextFrame? with
    | some taken =>
      obtain ⟨payload, a'⟩ := taken
      obtain ⟨r', hread, hat', hpath⟩ := readBytes_of_some hat hnext
      rw [attempts, nextItem?_of_payload hat.source_eq hread, ih hat' hless, hpath,
        itemsOf_drainFrames_of_some hnext]
      rfl
    | none =>
      rw [itemsOf_drainFrames_of_none hnext]
      cases hleft : a.hasPartial with
      | false =>
        rw [attempts_at_end hat.source_eq (readBytes_of_whole hat hleft)]
        show _ = (List.replicate more none).take (n + 1)
        rw [List.take_replicate, Nat.min_eq_left hmore]
      | true =>
        obtain ⟨r', hread, hend⟩ := readBytes_of_partial hat hnext hleft
        rw [attempts, nextItem?_of_error hat.source_eq hread,
          attempts_at_end hend.source_eq (readBytes_at_end hend)]
        show _ = _ :: (List.replicate more none).take n
        rw [List.take_replicate, Nat.min_eq_left hless]

/-- The first items of a segment are those that the first attempts give. -/
theorem items_eq (hat : r.At data (octets a.pending)) (limit : Nat) :
    r.items limit = (itemsOf r.path a.drainFrames.1 a.drainFrames.2).take limit := by
  induction limit generalizing r a with
  | zero => rfl
  | succ limit ih =>
    rw [items, readFrame_eq hat.source_eq]
    cases hnext : a.nextFrame? with
    | some taken =>
      obtain ⟨payload, a'⟩ := taken
      obtain ⟨r', hread, hat', hpath⟩ := readBytes_of_some hat hnext
      rw [hread, itemsOf_drainFrames_of_some hnext, List.take_succ_cons, ← hpath]
      simp only [ih hat']
    | none =>
      rw [itemsOf_drainFrames_of_none hnext]
      cases hleft : a.hasPartial with
      | false => rw [readBytes_of_whole hat hleft]; rfl
      | true =>
        obtain ⟨r', hread, hend⟩ := readBytes_of_partial hat hnext hleft
        have hnone : r'.items limit = [] := by
          cases limit with
          | zero => rfl
          | succ limit => rw [items, readFrame_eq hend.source_eq, readBytes_at_end hend]
        rw [hread]
        simp only [hnone, if_true, List.take_succ_cons, List.take_nil]

/-- **Reading a whole segment** gives the payloads that the consumer takes from the same bytes, or
the damage if bytes are left. -/
theorem readAll_eq_drainFrames (hat : r.At data (octets a.pending)) :
    r.readAll.1 = if a.drainFrames.2.hasPartial
      then .error (.corruptFrame r.path a.drainFrames.2.damage) else .ok a.drainFrames.1 := by
  induction h : a.buffered using Nat.strongRecOn generalizing r a with
  | ind n ih =>
    rw [readAll_eq hat.source_eq]
    cases hnext : a.nextFrame? with
    | some taken =>
      obtain ⟨payload, a'⟩ := taken
      obtain ⟨r', hread, hat', hpath⟩ := readBytes_of_some hat hnext
      have hrest := ih _ (h ▸ Reassembly.buffered_nextFrame?_lt hnext) hat' rfl
      rw [hread, Reassembly.drainFrames_of_some hnext]
      simp only [hrest, hpath]
      split <;> rfl
    | none =>
      rw [Reassembly.drainFrames_of_none hnext]
      cases hleft : a.hasPartial with
      | false => rw [readBytes_of_whole hat hleft]; rfl
      | true =>
        obtain ⟨r', hread, _⟩ := readBytes_of_partial hat hnext hleft
        rw [hread]
        rfl

/-- **The segment reader and the consumer of a stream agree on all bytes.** Take a file and a
consumer that is pushed its contents at once, takes all frames and is left with some bytes. The file
can be opened, and attempts at its frames give the payloads that the consumer took; then, if bytes
are left, a single error, which is the damage of these bytes; and then nothing, however many
attempts are made. The items end with the last of these. Reading all frames fails with that damage
exactly if bytes are left: a length field cut short if there are fewer than a length field has, else
a payload, with the length that it announces and as many bytes of it as are there. -/
theorem reading_agrees {path : String} {d : Disk}
    (h : d.dataAt (Name.ofText path) = .ok data) :
    ∃ reader, openAt path d = .ok reader ∧
      let payloads := (Reassembly.start.push data).drainFrames.1
      let left := (Reassembly.start.push data).drainFrames.2
      let damage := if left.buffered < lengthFieldSize then .lengthField left.buffered
        else .payload left.announced (left.buffered - lengthFieldSize)
      let items := payloads.map Except.ok ++
        if left.buffered = 0 then [] else [.error (.corruptFrame path damage)]
      (∀ n, reader.attempts n = (items.map some ++ List.replicate n none).take n) ∧
      (∀ limit, reader.items limit = items.take limit) ∧
      (left.buffered = 0 → reader.readAll.1 = .ok payloads) ∧
      (left.buffered ≠ 0 → reader.readAll.1 = .error (.corruptFrame path damage)) := by
  obtain ⟨reader, hopen, rfl, hat⟩ := openAt_of_dataAt h
  have hbytes : octets data = octets (Reassembly.start.push data).pending := by
    rw [Reassembly.octets_push]
    rfl
  rw [hbytes] at hat
  refine ⟨reader, hopen, ?_⟩
  intro payloads left damage items
  have hitems : itemsOf reader.path payloads left = items := by
    by_cases hempty : left.buffered = 0
    · simp [itemsOf, items, Reassembly.hasPartial, hempty]
    · simp [itemsOf, items, Reassembly.hasPartial, hempty, damage, Reassembly.damage]
  refine ⟨?_, ?_, ?_, ?_⟩
  · intro n
    rw [attempts_eq hat (Nat.le_refl n), ← hitems]
  · intro limit
    rw [items_eq hat, ← hitems]
  · intro hempty
    rw [readAll_eq_drainFrames hat, if_neg]
    simpa [Reassembly.hasPartial] using hempty
  · intro hleft
    rw [readAll_eq_drainFrames hat, if_pos]
    · rfl
    · simpa [Reassembly.hasPartial] using hleft

/-- A frame without a payload, and three bytes of a payload of eight. -/
theorem reading_agrees_small :
    let d := Disk.empty.layFile (Name.ofText "cut") (pack [0, 0, 0, 0, 0, 0, 0, 8, 1, 2, 3])
    d.dataAt (Name.ofText "cut") = .ok (pack [0, 0, 0, 0, 0, 0, 0, 8, 1, 2, 3]) ∧
    ∃ reader, openAt "cut" d = .ok reader ∧
      (∀ n, reader.attempts n = ([some (Except.ok (pack [])),
        some (Except.error (RecoveryError.corruptFrame "cut" (.payload 8 3)))] ++
          List.replicate n none).take n) ∧
      reader.readAll.1 = .error (.corruptFrame "cut" (.payload 8 3)) := by
  intro d
  have hdata : d.dataAt (Name.ofText "cut") = .ok (pack [0, 0, 0, 0, 0, 0, 0, 8, 1, 2, 3]) := by
    decide +kernel
  obtain ⟨reader, hopen, hattempts, _, _, hdamage⟩ := reading_agrees hdata
  have hdrained : (Reassembly.start.push (pack [0, 0, 0, 0, 0, 0, 0, 8, 1, 2, 3])).drainFrames =
      ([pack []], ⟨pack [0, 0, 0, 8, 1, 2, 3]⟩) := by
    have htaken : (Reassembly.start.push (pack [0, 0, 0, 0, 0, 0, 0, 8, 1, 2, 3])).nextFrame? =
        some (pack [], ⟨pack [0, 0, 0, 8, 1, 2, 3]⟩) := rfl
    rw [Reassembly.drainFrames_of_some htaken, Reassembly.drainFrames_of_none rfl]
  rw [hdrained] at hattempts hdamage
  exact ⟨hdata, reader, hopen, hattempts, hdamage (by decide)⟩

end SegmentReader

end Fanout
