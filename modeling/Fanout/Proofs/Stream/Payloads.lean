import Fanout.Proofs.Disk.Files
import Fanout.Proofs.Stream.Frames
import Fanout.Segment.Reader

/-!
# Payloads

Frames that were written one after the other are found again by their lengths, in a segment and in a
stream alike: a reader of either gets the payloads, each once, in their order, and then the end.

* `exists_payloads` — any frames are those of some payloads.
* `SegmentReader.readAll_framesOf` — reading a segment that holds some frames.
* `Reassembly.drainFrames_framesOf` — draining a stream of the same frames.
-/

namespace Fanout

/-- The payload of a record; empty if the record has none. -/
def payloadOf (s : Schema) (record : s.Value) : ByteArray :=
  pack ((s.encode record).toOption.getD [])

/-- A record that has a frame has a payload, which the length field can announce. -/
theorem payloadOf_of_encodeRecord {s : Schema} {record : s.Value} {frame : List UInt8}
    (h : encodeRecord s record = .ok frame) :
    s.encode record = .ok (octets (payloadOf s record)) ∧
    (octets (payloadOf s record)).length ≤ maxPayload ∧
    frame = frameOf (octets (payloadOf s record)) := by
  unfold encodeRecord at h
  unfold payloadOf
  rw [octets_pack]
  cases hencode : s.encode record with
  | error e =>
    rw [hencode] at h
    exact nomatch h
  | ok payload =>
    rw [hencode] at h
    dsimp only at h
    by_cases hfit : payload.length ≤ maxPayload
    · rw [if_pos hfit] at h
      exact ⟨rfl, hfit, (Except.ok.inj h).symm⟩
    · rw [if_neg hfit] at h
      exact nomatch h

/-- The frames of some payloads, one after the other. -/
def framesOf (payloads : List ByteArray) : List UInt8 :=
  (payloads.map fun payload => frameOf (octets payload)).flatten

theorem framesOf_cons (payload : ByteArray) (payloads : List ByteArray) :
    framesOf (payload :: payloads) = frameOf (octets payload) ++ framesOf payloads := rfl

theorem framesOf_append (payloads more : List ByteArray) :
    framesOf (payloads ++ more) = framesOf payloads ++ framesOf more := by
  rw [framesOf, List.map_append, List.flatten_append, framesOf, framesOf]

/-- Every payload is one that the length field can announce. -/
def Fit (payloads : List ByteArray) : Prop :=
  ∀ payload ∈ payloads, (octets payload).length ≤ maxPayload

theorem Frames.fit {s : Schema} {records : List s.Value} {frames : List (List UInt8)}
    (h : Frames s records frames) : Fit (records.map (payloadOf s)) := by
  induction h with
  | nil =>
    intro payload hpayload
    exact nomatch hpayload
  | cons hhead _ ih =>
    intro payload hpayload
    rcases List.mem_cons.1 hpayload with rfl | hpayload
    · exact (payloadOf_of_encodeRecord hhead).2.1
    · exact ih payload hpayload

/-- Frames one after the other are the frames of as many payloads. -/
theorem exists_payloads {frames : List (List UInt8)} (h : ∀ frame ∈ frames, IsFrame frame) :
    ∃ payloads, Fit payloads ∧ payloads.length = frames.length ∧
      frames.flatten = framesOf payloads := by
  induction frames with
  | nil => exact ⟨[], fun _ hpayload => (nomatch hpayload), rfl, rfl⟩
  | cons frame frames ih =>
    obtain ⟨⟨payload, hfits, rfl⟩, hlater⟩ := List.forall_mem_cons.1 h
    obtain ⟨payloads, hfit, hlength, hflatten⟩ := ih hlater
    refine ⟨pack payload :: payloads, List.forall_mem_cons.2 ⟨?_, hfit⟩, ?_, ?_⟩
    · rwa [octets_pack]
    · rw [List.length_cons, List.length_cons, hlength]
    · rw [List.flatten_cons, framesOf_cons, octets_pack, hflatten]

namespace SegmentReader

variable {r r' : SegmentReader} {data payload : ByteArray} {payloads : List ByteArray}

/-- The reader stands in front of the rest of what it reads. -/
structure At (r : SegmentReader) (data : ByteArray) (rest : List UInt8) : Prop where
  source_eq : r.source = .bytes data
  position_le : r.position ≤ data.size
  rest_eq : (octets data).drop r.position = rest

/-- A file that can be read is opened, and the reader stands in front of all of it. -/
theorem openAt_of_dataAt {d : Disk} {path : String}
    (h : d.dataAt (Name.ofText path) = .ok data) :
    ∃ reader, openAt path d = .ok reader ∧ reader.path = path ∧ reader.At data (octets data) := by
  unfold Disk.dataAt at h
  unfold openAt
  split at h
  · contradiction
  · rename_i found hopen
    obtain rfl := Except.ok.inj h
    rw [hopen]
    exact ⟨_, rfl, rfl, rfl, Nat.zero_le _, List.drop_zero⟩
  · contradiction
  · contradiction

/-- A segment that is complete on the disk is read from its beginning. -/
theorem openAt_of_leads {d : Disk} {path : String} {id : Nat}
    (h : d.Leads (Name.ofText path) id) : ∃ reader : SegmentReader,
      openAt path d = .ok reader ∧ reader.At (d.content id) (octets (d.content id)) := by
  obtain ⟨reader, hopen, _, hat⟩ := openAt_of_dataAt (Disk.dataAt_eq_ok_iff.2 h.file?_eq)
  exact ⟨reader, hopen, hat⟩

/-- Reading everything is reading frame after frame up to the first error. -/
theorem readAll_eq (hs : r.source = .bytes data) :
    r.readAll.1 = match r.readBytes data with
      | (.error e, _) => .error e
      | (.ok none, _) => .ok []
      | (.ok (some payload), r') => r'.readAll.1.map (payload :: ·) := by
  rw [readAll]
  split
  · rename_i hdirectory
    cases hs.symm.trans hdirectory
  · rename_i hzeros
    cases hs.symm.trans hzeros
  · rename_i data' hbytes
    obtain rfl := Source.bytes.inj (hs.symm.trans hbytes)
    split
    · rename_i hread
      simp only [hread]
    · rename_i hread
      simp only [hread]
    · rename_i rest hread
      simp only [hread]
      rcases rest.readAll with ⟨_ | _, last⟩ <;> rfl

theorem readBytes_at_end (h : r.At data []) : r.readBytes data = (.ok none, r) := by
  have hlength := congrArg List.length h.rest_eq
  rw [List.length_drop, length_octets, List.length_nil] at hlength
  unfold readBytes
  dsimp only
  rw [if_pos hlength]

/-- A frame in front of the reader is read, and the reader stands behind it. -/
theorem readBytes_frame {payload : List UInt8} {rest : List UInt8}
    (h : r.At data (frameOf payload ++ rest)) (hfit : payload.length ≤ maxPayload) :
    ∃ r', r.readBytes data = (.ok (some (pack payload)), r') ∧ r'.At data rest := by
  have hlength := congrArg List.length h.rest_eq
  rw [List.length_drop, length_octets, List.length_append, length_frameOf] at hlength
  have hheader : octets (data.extract r.position (r.position + lengthFieldSize)) =
      Bytes.bigEndian lengthFieldSize payload.length := by
    rw [octets_extract, h.rest_eq, Nat.add_sub_cancel_left, frameOf, List.append_assoc]
    exact List.take_left' (Bytes.length_bigEndian _ _)
  have hbody : (octets data).drop (r.position + lengthFieldSize) = payload ++ rest := by
    rw [← List.drop_drop, h.rest_eq, frameOf, List.append_assoc]
    exact List.drop_left' (Bytes.length_bigEndian _ _)
  have hpayload : data.extract (r.position + lengthFieldSize)
      (r.position + lengthFieldSize + payload.length) = pack payload := by
    rw [← pack_octets (data.extract _ _), octets_extract, hbody, Nat.add_sub_cancel_left,
      List.take_left]
  refine ⟨{ r with position := r.position + lengthFieldSize + payload.length }, ?_, ?_⟩
  · unfold readBytes
    simp only [hheader, frameLength_header hfit, hpayload]
    rw [if_neg (by unfold lengthFieldSize at hlength; omega), if_neg (by omega),
      if_neg (by omega)]
  · refine ⟨h.source_eq, ?_, ?_⟩
    · have hposition := h.position_le
      show r.position + lengthFieldSize + payload.length ≤ data.size
      omega
    · show (octets data).drop (r.position + lengthFieldSize + payload.length) = rest
      rw [← List.drop_drop, hbody, List.drop_left]

/-- **Reading a segment** that holds the frames of some payloads gives these payloads. -/
theorem readAll_framesOf (hfit : Fit payloads) (h : r.At data (framesOf payloads)) :
    r.readAll.1 = .ok payloads := by
  induction payloads generalizing r with
  | nil => rw [readAll_eq h.source_eq, readBytes_at_end h]
  | cons payload payloads ih =>
    rw [framesOf_cons] at h
    obtain ⟨r', hread, hat⟩ := readBytes_frame h (hfit payload List.mem_cons_self)
    rw [pack_octets] at hread
    have hrest : Fit payloads := fun other hother => hfit other (List.mem_cons_of_mem _ hother)
    rw [readAll_eq h.source_eq, hread]
    simp only [ih hrest hat]
    rfl

end SegmentReader

namespace Reassembly

/-- What a consumer has received are the bytes of the buffers. -/
theorem receive_start (ds : List Delivery) : start.receive ds.toArray = ⟨pack (bytesOf ds)⟩ := by
  have hbytes (r : Reassembly) :
      octets (r.receive ds.toArray).pending = octets r.pending ++ bytesOf ds := by
    have hreceive : r.receive ds.toArray = ds.foldl accept r := by
      rw [receive, List.foldl_toArray]
      rfl
    rw [hreceive]
    clear hreceive
    induction ds generalizing r with
    | nil => exact (List.append_nil _).symm
    | cons d ds ih =>
      rw [List.foldl_cons, ih, octets_accept, List.append_assoc, ← bytesOf_append]
      rfl
  have hstart : octets (start.receive ds.toArray).pending = bytesOf ds := hbytes start
  rw [← hstart, pack_octets]

theorem drainFrames_of_none {r : Reassembly} (h : r.nextFrame? = none) :
    r.drainFrames = ([], r) := by
  rw [drainFrames]
  split
  · rfl
  · rename_i hsome
    cases h.symm.trans hsome

theorem drainFrames_of_some {r r' : Reassembly} {payload : ByteArray}
    (h : r.nextFrame? = some (payload, r')) :
    r.drainFrames = (payload :: r'.drainFrames.1, r'.drainFrames.2) := by
  rw [drainFrames]
  split
  · rename_i hnone
    cases h.symm.trans hnone
  · rename_i hsome
    obtain ⟨rfl, rfl⟩ := Prod.mk.inj (Option.some.inj (h.symm.trans hsome))
    rfl

/-- **Draining a stream** of the frames of some payloads gives these payloads and leaves nothing. -/
theorem drainFrames_framesOf {payloads : List ByteArray} (hfit : Fit payloads) :
    drainFrames ⟨pack (framesOf payloads)⟩ = (payloads, start) := by
  induction payloads with
  | nil => exact drainFrames_of_none rfl
  | cons payload payloads ih =>
    have hnext := nextFrame?_frameOf (hfit payload List.mem_cons_self) (framesOf payloads)
    rw [pack_octets] at hnext
    rw [framesOf_cons, drainFrames_of_some hnext,
      ih fun other hother => hfit other (List.mem_cons_of_mem _ hother)]

end Reassembly

end Fanout
