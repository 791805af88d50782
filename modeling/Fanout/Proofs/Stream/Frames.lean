import Fanout.Proofs.Record.RoundTrip
import Fanout.Reassembly
import Mathlib.Data.List.Forall2

/-!
# Frames in a stream

Frames are a prefix code: the length in front of a payload decides where the frame ends, so bytes
that are a whole number of frames can be cut into frames in one way only. What a reader takes from
the front of a stream is therefore what the writer of the stream put there.

* `frames_of_prefix` — whole frames in front of a stream of frames are the first frames of it.
* `Reading.readUpTo` — a reader that takes records at any time takes the records of the stream, from
  the first one on.
* `drainRecords_flatten` — draining whole frames gives all their records and leaves nothing.
-/

namespace Fanout

/-- A payload that the length field can announce, behind its length. -/
def IsFrame (frame : List UInt8) : Prop :=
  ∃ payload, payload.length ≤ maxPayload ∧ frame = frameOf payload

/-- The bytes are frames from the first byte to the last. -/
def WholeFrames (bytes : List UInt8) : Prop :=
  ∃ frames : List (List UInt8), (∀ f ∈ frames, IsFrame f) ∧ bytes = frames.flatten

/-! ## A prefix code -/

theorem IsFrame.of_encodeRecord {s : Schema} {v : s.Value} {frame : List UInt8}
    (h : encodeRecord s v = .ok frame) : IsFrame frame := by
  obtain ⟨payload, hframe, hfit, _⟩ := decodeRecord_of_encodeRecord h
  exact ⟨payload, hfit, hframe⟩

theorem frameLength_header {payload : List UInt8} (hfit : payload.length ≤ maxPayload) :
    frameLength (Bytes.bigEndian lengthFieldSize payload.length) = payload.length := by
  refine Bytes.ofBigEndian_bigEndian _ _ ?_
  exact Nat.lt_of_le_of_lt hfit (by decide)

/-- The length field in front tells two frames apart before they end. -/
theorem frameOf_append_inj {p q a b : List UInt8} (hp : p.length ≤ maxPayload)
    (hq : q.length ≤ maxPayload) (h : frameOf p ++ a = frameOf q ++ b) : p = q ∧ a = b := by
  simp only [frameOf, List.append_assoc] at h
  obtain ⟨hheader, hrest⟩ := List.append_inj h (by simp)
  have hlength : p.length = q.length := by
    rw [← frameLength_header hp, hheader, frameLength_header hq]
  exact List.append_inj hrest hlength

/-- **Whole frames in front of a stream of frames are the first frames of it**, and what follows
them is the other frames. -/
theorem frames_of_prefix {fs : List (List UInt8)} (hfs : ∀ f ∈ fs, IsFrame f) {a b : List UInt8}
    (ha : WholeFrames a) (h : fs.flatten = a ++ b) :
    ∃ front back, fs = front ++ back ∧ a = front.flatten ∧ b = back.flatten := by
  obtain ⟨gs, hgs, rfl⟩ := ha
  induction gs generalizing fs with
  | nil => exact ⟨[], fs, rfl, rfl, h.symm⟩
  | cons g gs ih =>
    obtain ⟨q, hq, rfl⟩ := hgs g List.mem_cons_self
    rw [List.flatten_cons, List.append_assoc] at h
    cases fs with
    | nil =>
      -- there is no frame without bytes
      have hlength := congrArg List.length h
      rw [List.length_append, length_frameOf] at hlength
      exact absurd hlength (by simp [lengthFieldSize]; omega)
    | cons f fs =>
      obtain ⟨p, hp, rfl⟩ := hfs f List.mem_cons_self
      rw [List.flatten_cons] at h
      obtain ⟨rfl, hrest⟩ := frameOf_append_inj hp hq h
      obtain ⟨front, back, rfl, hfront, hback⟩ :=
        ih (fun f hf => hfs f (List.mem_cons_of_mem _ hf))
          (fun f hf => hgs f (List.mem_cons_of_mem _ hf)) hrest
      refine ⟨frameOf p :: front, back, rfl, ?_, hback⟩
      rw [List.flatten_cons, List.flatten_cons, hfront]

namespace WholeFrames

theorem nil : WholeFrames [] := ⟨[], List.forall_mem_nil _, rfl⟩

theorem of_flatten {frames : List (List UInt8)} (h : ∀ f ∈ frames, IsFrame f) :
    WholeFrames frames.flatten := ⟨frames, h, rfl⟩

theorem cons {f bytes : List UInt8} (hf : IsFrame f) (h : WholeFrames bytes) :
    WholeFrames (f ++ bytes) := by
  obtain ⟨fs, hfs, rfl⟩ := h
  exact ⟨f :: fs, List.forall_mem_cons.2 ⟨hf, hfs⟩, rfl⟩

theorem append {a b : List UInt8} (ha : WholeFrames a) (hb : WholeFrames b) :
    WholeFrames (a ++ b) := by
  obtain ⟨fs, hfs, rfl⟩ := ha
  obtain ⟨gs, hgs, rfl⟩ := hb
  exact ⟨fs ++ gs, List.forall_mem_append.2 ⟨hfs, hgs⟩, List.flatten_append.symm⟩

/-- What follows whole frames within whole frames is whole frames. -/
theorem of_append_left {a b : List UInt8} (ha : WholeFrames a) (h : WholeFrames (a ++ b)) :
    WholeFrames b := by
  obtain ⟨fs, hfs, hflatten⟩ := h
  obtain ⟨front, back, rfl, _, rfl⟩ := frames_of_prefix hfs ha hflatten.symm
  exact of_flatten fun f hf => hfs f (List.mem_append_right _ hf)

/-- The frame in front is complete. -/
theorem announced_le {bytes : List UInt8} (h : WholeFrames bytes) (hne : bytes ≠ []) :
    lengthFieldSize + frameLength (bytes.take lengthFieldSize) ≤ bytes.length := by
  obtain ⟨fs, hfs, rfl⟩ := h
  cases fs with
  | nil => exact absurd rfl hne
  | cons f fs =>
    obtain ⟨payload, hfit, rfl⟩ := hfs f List.mem_cons_self
    rw [List.flatten_cons, frameOf, List.append_assoc,
      List.take_left' (Bytes.length_bigEndian _ _), frameLength_header hfit]
    simp only [List.length_append, Bytes.length_bigEndian]
    omega

end WholeFrames

/-! ## Taking frames -/

namespace Reassembly

/-- The first frame is taken as soon as it is there, whatever follows it. -/
theorem nextFrame?_frameOf {payload : List UInt8} (hfit : payload.length ≤ maxPayload)
    (rest : List UInt8) :
    nextFrame? ⟨pack (frameOf payload ++ rest)⟩ = some (pack payload, ⟨pack rest⟩) := by
  have hsize : buffered ⟨pack (frameOf payload ++ rest)⟩ =
      lengthFieldSize + payload.length + rest.length := by
    rw [buffered, ← length_octets, octets_pack, List.length_append, length_frameOf]
  have hannounced : announced ⟨pack (frameOf payload ++ rest)⟩ = payload.length := by
    rw [announced, octets_extract, octets_pack, frameOf, List.append_assoc, List.drop_zero,
      Nat.sub_zero, List.take_left' (Bytes.length_bigEndian _ _), frameLength_header hfit]
  have hpayload : (pack (frameOf payload ++ rest)).extract lengthFieldSize
      (lengthFieldSize + payload.length) = pack payload := by
    rw [← pack_octets (ByteArray.extract _ _ _), octets_extract, octets_pack, frameOf,
      List.append_assoc, List.drop_left' (Bytes.length_bigEndian _ _), Nat.add_sub_cancel_left,
      List.take_left]
  have hrest : (pack (frameOf payload ++ rest)).extract (lengthFieldSize + payload.length)
      (lengthFieldSize + payload.length + rest.length) = pack rest := by
    rw [← pack_octets (ByteArray.extract _ _ _), octets_extract, octets_pack,
      List.drop_left' (length_frameOf payload), Nat.add_sub_cancel_left, List.take_length]
  unfold nextFrame?
  rw [hannounced, hsize, if_neg (by omega), if_neg (by omega)]
  simp only [hpayload, hrest]

/-- While the end of the first frame is missing, nothing is taken. -/
theorem nextFrame?_cut {payload bytes missing : List UInt8} (hfit : payload.length ≤ maxPayload)
    (h : frameOf payload = bytes ++ missing) (hmissing : missing ≠ []) :
    nextFrame? ⟨pack bytes⟩ = none := by
  have hpos : 0 < missing.length := List.length_pos_iff.2 hmissing
  have hlength : lengthFieldSize + payload.length = bytes.length + missing.length := by
    rw [← length_frameOf, h, List.length_append]
  have hsize : buffered ⟨pack bytes⟩ = bytes.length := by
    rw [buffered, ← length_octets, octets_pack]
  unfold nextFrame?
  rw [hsize]
  by_cases hheader : bytes.length < lengthFieldSize
  · rw [if_pos hheader]
  -- the length field is there, and what it announces is not
  · have hfirst : bytes.take lengthFieldSize = (frameOf payload).take lengthFieldSize := by
      rw [h, List.take_append_of_le_length (Nat.le_of_not_lt hheader)]
    have hannounced : announced ⟨pack bytes⟩ = payload.length := by
      rw [announced, octets_extract, octets_pack, List.drop_zero, Nat.sub_zero, hfirst, frameOf,
        List.take_left' (Bytes.length_bigEndian _ _), frameLength_header hfit]
    rw [if_neg hheader, hannounced, if_pos (by omega)]

theorem nextRecord_of_encodeRecord {s : Schema} {v : s.Value} {frame : List UInt8}
    (h : encodeRecord s v = .ok frame) (rest : List UInt8) :
    nextRecord s ⟨pack (frame ++ rest)⟩ = (.ok (some v), ⟨pack rest⟩) := by
  obtain ⟨payload, rfl, hfit, hdecode⟩ := decodeRecord_of_encodeRecord h
  simp only [nextRecord, nextFrame?_frameOf hfit rest, octets_pack, hdecode]

end Reassembly

/-! ## Reading a stream -/

/-- The frames are those of the records, one by one. -/
abbrev Frames (s : Schema) (records : List s.Value) (frames : List (List UInt8)) : Prop :=
  List.Forall₂ (fun v f => encodeRecord s v = .ok f) records frames

theorem Frames.isFrame {s : Schema} {records : List s.Value} {frames : List (List UInt8)}
    (h : Frames s records frames) : ∀ f ∈ frames, IsFrame f := by
  induction h with
  | nil => exact fun _ hf => nomatch hf
  | cons hhead _ ih =>
    intro f hf
    rcases List.mem_cons.1 hf with rfl | hf
    · exact IsFrame.of_encodeRecord hhead
    · exact ih f hf

/-- Some of the frames are those of some of the records. -/
theorem Frames.of_sublist {s : Schema} {records : List s.Value} {frames kept : List (List UInt8)}
    (h : Frames s records frames) (hkept : kept.Sublist frames) :
    ∃ rest : List s.Value, rest.Sublist records ∧ Frames s rest kept := by
  induction h generalizing kept with
  | nil =>
    obtain rfl := List.sublist_nil.1 hkept
    exact ⟨[], List.Sublist.refl [], .nil⟩
  | @cons v frame records frames hhead _ ih =>
    rcases List.sublist_cons_iff.1 hkept with hkept | ⟨tail, rfl, htail⟩
    · obtain ⟨rest, hrest, hframes⟩ := ih hkept
      exact ⟨rest, hrest.cons v, hframes⟩
    · obtain ⟨rest, hrest, hframes⟩ := ih htail
      exact ⟨v :: rest, hrest.cons_cons v, .cons hhead hframes⟩

/-- The bytes of the buffers among some deliveries. -/
def bytesOf (ds : List Delivery) : List UInt8 :=
  ds.flatMap fun d => match d with
    | .buffer b => b.contents
    | _ => []

theorem bytesOf_append (ds es : List Delivery) : bytesOf (ds ++ es) = bytesOf ds ++ bytesOf es :=
  List.flatMap_append

namespace Reassembly

@[simp] theorem octets_push (r : Reassembly) (chunk : ByteArray) :
    octets (r.push chunk).pending = octets r.pending ++ octets chunk := octets_append _ _

/-- Receives one delivery: buffers are pushed, everything else is for somebody else. -/
def accept (r : Reassembly) : Delivery → Reassembly
  | .buffer b => r.push b.bytes
  | _ => r

theorem octets_accept (r : Reassembly) (d : Delivery) :
    octets (r.accept d).pending = octets r.pending ++ bytesOf [d] := by
  cases d with
  | buffer b => simp [accept, push, bytesOf, Buffer.contents]
  | event _ | endOfSuperstep => simp [accept, bytesOf]

end Reassembly

/-- A reader at work: it has received some deliveries and taken some records meanwhile, at any time
and as often as it liked. A record that cannot be decoded is skipped. -/
inductive Reading (s : Schema) : List Delivery → List s.Value → Reassembly → Prop where
  | start : Reading s [] [] Reassembly.start
  | receive {ds : List Delivery} {taken : List s.Value} {r : Reassembly} (d : Delivery) :
    Reading s ds taken r → Reading s (ds ++ [d]) taken (r.accept d)
  | take {ds : List Delivery} {taken : List s.Value} {r r' : Reassembly} {v : s.Value} :
    Reading s ds taken r → r.nextRecord s = (.ok (some v), r') → Reading s ds (taken ++ [v]) r'
  | skip {ds : List Delivery} {taken : List s.Value} {r r' : Reassembly} {e : RecordError} :
    Reading s ds taken r → r.nextRecord s = (.error e, r') → Reading s ds taken r'

namespace Reassembly

/-- In front of some frames a reader finds the first record, or its frame is not complete yet. -/
theorem nextRecord_of_isPrefix {s : Schema} {records : List s.Value} {frames : List (List UInt8)}
    (hframes : Frames s records frames) {r : Reassembly}
    (hr : octets r.pending <+: frames.flatten) :
    r.nextRecord s = (.ok none, r) ∨
      ∃ v later frame back r', records = v :: later ∧ frames = frame :: back ∧
        Frames s later back ∧ octets r.pending = frame ++ octets r'.pending ∧
        r.nextRecord s = (.ok (some v), r') := by
  obtain ⟨bytes⟩ := r
  obtain ⟨more, hmore⟩ := hr
  cases hframes with
  | nil =>
    have hnone : nextFrame? ⟨bytes⟩ = none := by
      have hsize : bytes.size = 0 := by
        rw [← length_octets, (List.append_eq_nil_iff.1 hmore).1, List.length_nil]
      exact if_pos (by rw [buffered, hsize]; decide)
    left
    simp only [nextRecord, hnone]
  | @cons v frame later back hhead hback =>
    rw [List.flatten_cons] at hmore
    -- the received bytes and the first frame: one of the two is in front of the other
    have hwhole (rest : List UInt8) (hrest : octets bytes = frame ++ rest) :
        nextRecord s ⟨bytes⟩ = (.ok (some v), ⟨pack rest⟩) := by
      rw [← pack_octets bytes, hrest]
      exact nextRecord_of_encodeRecord hhead rest
    rcases List.append_eq_append_iff.1 hmore with ⟨missing, hcut, _⟩ | ⟨rest, hrest, _⟩
    · by_cases hmissing : missing = []
      · rw [hmissing] at hcut
        right
        refine ⟨v, later, frame, back, ⟨pack []⟩, rfl, rfl, hback, ?_, hwhole [] ?_⟩
        · rw [octets_pack, hcut, List.append_nil, List.append_nil]
        · rw [hcut, List.append_nil, List.append_nil]
      · obtain ⟨payload, hfit, rfl⟩ := IsFrame.of_encodeRecord hhead
        have hnone := nextFrame?_cut hfit hcut hmissing
        rw [pack_octets] at hnone
        left
        simp only [nextRecord, hnone]
    · right
      refine ⟨v, later, frame, back, ⟨pack rest⟩, rfl, rfl, hback, ?_, hwhole rest hrest⟩
      rw [octets_pack]
      exact hrest

end Reassembly

/-- Where a reader of a stream is: the frames in front are taken and their records with them, and
the bytes that it holds belong to the frames behind. -/
structure ReadUpTo (s : Schema) (records : List s.Value) (frames : List (List UInt8))
    (received : List UInt8) (taken : List s.Value) (r : Reassembly) (later : List s.Value)
    (front back : List (List UInt8)) : Prop where
  records_eq : records = taken ++ later
  frames_eq : frames = front ++ back
  later_frames : Frames s later back
  received_eq : received = front.flatten ++ octets r.pending

/-- **A reader of a stream of frames takes the records of these frames**, from the first one on and
each once, whenever it looks; what it holds are the bytes behind the frames that it took. -/
theorem Reading.readUpTo {s : Schema} {ds : List Delivery} {taken : List s.Value} {r : Reassembly}
    (h : Reading s ds taken r) {records : List s.Value} {frames : List (List UInt8)}
    (hframes : Frames s records frames) (hstream : bytesOf ds <+: frames.flatten) :
    ∃ later front back, ReadUpTo s records frames (bytesOf ds) taken r later front back := by
  -- what a record is taken from is a beginning of the frames that were not taken
  have hbehind {ds taken r later front back}
      (hat : ReadUpTo s records frames (bytesOf ds) taken r later front back)
      (hstream : bytesOf ds <+: frames.flatten) : octets r.pending <+: back.flatten := by
    rw [hat.received_eq, hat.frames_eq, List.flatten_append] at hstream
    exact (List.prefix_append_right_inj _).1 hstream
  induction h with
  | start => exact ⟨records, [], frames, rfl, rfl, hframes, rfl⟩
  | receive d _ ih =>
    rw [bytesOf_append] at hstream
    obtain ⟨later, front, back, hat⟩ := ih ((List.prefix_append _ _).trans hstream)
    refine ⟨later, front, back, hat.records_eq, hat.frames_eq, hat.later_frames, ?_⟩
    rw [Reassembly.octets_accept, bytesOf_append, hat.received_eq, List.append_assoc]
  | take _ hnext ih =>
    obtain ⟨later, front, back, hat⟩ := ih hstream
    rcases Reassembly.nextRecord_of_isPrefix hat.later_frames (hbehind hat hstream) with
      hnone | ⟨v, later', frame, back', r', rfl, rfl, hback', hpending, hsome⟩
    · rw [hnone] at hnext
      exact nomatch hnext
    · rw [hsome] at hnext
      obtain ⟨hv, rfl⟩ := Prod.mk.inj hnext
      obtain rfl := Option.some.inj (Except.ok.inj hv)
      refine ⟨later', front ++ [frame], back', ?_, ?_, hback', ?_⟩
      · rw [hat.records_eq, List.append_assoc, List.singleton_append]
      · rw [hat.frames_eq, List.append_assoc, List.singleton_append]
      · rw [hat.received_eq, hpending, List.flatten_append, List.flatten_singleton,
          List.append_assoc]
  | skip _ hnext ih =>
    obtain ⟨later, front, back, hat⟩ := ih hstream
    rcases Reassembly.nextRecord_of_isPrefix hat.later_frames (hbehind hat hstream) with
      hnone | ⟨v, later', frame, back', r', rfl, rfl, hback', hpending, hsome⟩
    · rw [hnone] at hnext
      exact nomatch hnext
    · rw [hsome] at hnext
      exact nomatch hnext

namespace Reassembly

/-- Draining is taking records until none is complete or one cannot be decoded. -/
theorem drainRecords_eq (s : Schema) (r : Reassembly) :
    r.drainRecords s = match r.nextRecord s with
      | (.error e, r) => (.error e, r)
      | (.ok none, r) => (.ok [], r)
      | (.ok (some record), r) =>
        ((r.drainRecords s).1.map (record :: ·), (r.drainRecords s).2) := by
  rw [drainRecords]
  split
  · rename_i hnone
    simp only [nextRecord, hnone]
  · rename_i payload rest hsome
    cases hdecode : decodeRecord s (octets payload) with
    | error e => simp only [nextRecord, hsome, hdecode]
    | ok record =>
      simp only [nextRecord, hsome, hdecode]
      rcases rest.drainRecords s with ⟨_ | _, last⟩ <;> rfl

theorem drainRecords_of_none {s : Schema} {r : Reassembly} (h : r.nextFrame? = none) :
    r.drainRecords s = (.ok [], r) := by
  rw [drainRecords_eq]
  simp only [nextRecord, h]

theorem drainRecords_of_some {s : Schema} {v : s.Value} {later : List s.Value}
    {r r' last : Reassembly} {payload : ByteArray} (h : r.nextFrame? = some (payload, r'))
    (hv : decodeRecord s (octets payload) = .ok v)
    (hlater : r'.drainRecords s = (.ok later, last)) :
    r.drainRecords s = (.ok (v :: later), last) := by
  rw [drainRecords_eq]
  simp only [nextRecord, h, hv, hlater]
  rfl

/-- **Draining whole frames** gives all their records and leaves nothing over. -/
theorem drainRecords_flatten {s : Schema} {records : List s.Value} {frames : List (List UInt8)}
    (h : Frames s records frames) :
    drainRecords s ⟨pack frames.flatten⟩ = (.ok records, start) := by
  induction h with
  | nil => exact drainRecords_of_none rfl
  | cons hhead _ ih =>
    obtain ⟨payload, rfl, hfit, hdecode⟩ := decodeRecord_of_encodeRecord hhead
    rw [List.flatten_cons]
    refine drainRecords_of_some (nextFrame?_frameOf hfit _) ?_ ih
    rw [octets_pack]
    exact hdecode

end Reassembly

end Fanout
