import Fanout.Proofs.Segment.Reading

/-!
# Records that cannot be decoded

A consumer that asks for records, and a reader of a segment that does, take a frame first and decode
its payload then. So a payload that is no record costs its own frame and nothing else: there is one
answer to each frame, in order, wherever the errors are.

* `answers_eq_callAll` — asking for records takes the frames that asking for frames takes.
* `readings_eq` — the answers of a segment, one after the other.
* `drainRecords_append` — draining passes over records and stops behind the first error.
* `records_in_step` — all of it, for frames with any payloads.
-/

namespace Fanout

/-- The answer to a request for a record that takes a payload: the record, or why it is none. -/
def answer (s : Schema) (payload : ByteArray) : Except RecordError (Option s.Value) :=
  (decodeRecord s (octets payload)).map some

/-- An answer was given at all. A string that claims to be longer than memory can be ends the
program instead. -/
def Returns {α : Type} (result : Except RecordError α) : Prop :=
  result ≠ .error (.decode .beyondMemory)

/-- Whether a request took a frame. -/
def tookFrame {α : Type} : Except RecordError (Option α) → Bool
  | .ok none => false
  | _ => true

variable {s : Schema} {payload : ByteArray} {payloads left : List ByteArray} {rest : List UInt8}

@[simp] theorem tookFrame_answer (s : Schema) (payload : ByteArray) :
    tookFrame (answer s payload) = true := by
  unfold answer
  cases decodeRecord s (octets payload) <;> rfl

theorem returns_answer (h : Returns (decodeRecord s (octets payload))) :
    Returns (answer s payload) := by
  unfold answer Returns at *
  cases hdecode : decodeRecord s (octets payload) with
  | error e =>
    rw [hdecode] at h
    exact fun heq => h (congrArg Except.error (Except.error.inj heq))
  | ok record => exact nofun

theorem Fit.tail (h : Fit (payload :: payloads)) : Fit payloads :=
  fun other hother => h other (List.mem_cons_of_mem _ hother)

theorem fit_append {more : List ByteArray} : Fit (payloads ++ more) ↔ Fit payloads ∧ Fit more :=
  List.forall_mem_append

namespace Reassembly

variable {r r' : Reassembly}

/-- Makes some calls that ask for records: all answers, in order, and the stream afterwards. -/
def answers (s : Schema) (r : Reassembly) :
    List Call → List (Except RecordError (Option s.Value)) × Reassembly
  | [] => ([], r)
  | .push chunk :: calls => (r.push chunk).answers s calls
  | .next :: calls =>
    let (result, r) := r.nextRecord s
    let (results, last) := r.answers s calls
    (result :: results, last)

/-! ## One call -/

theorem nextRecord_of_none (h : r.nextFrame? = none) : r.nextRecord s = (.ok none, r) := by
  simp only [nextRecord, h]

theorem nextRecord_of_some (h : r.nextFrame? = some (payload, r')) :
    r.nextRecord s = (answer s payload, r') := by
  simp only [nextRecord, h, answer]
  cases decodeRecord s (octets payload) <;> rfl

/-- The next frame is taken once all of it was pushed. -/
theorem nextFrame?_of_whole (hfit : Fit (payload :: left))
    (hbytes : octets r.pending ++ rest = framesOf (payload :: left))
    (hwhole : lengthFieldSize + payload.size ≤ r.buffered) :
    ∃ r', r.nextFrame? = some (payload, r') ∧ octets r'.pending ++ rest = framesOf left := by
  rw [framesOf_cons] at hbytes
  have hprefix : frameOf (octets payload) <+: octets r.pending := by
    refine List.prefix_of_prefix_length_le (hbytes ▸ List.prefix_append _ _)
      (List.prefix_append _ rest) ?_
    rwa [length_frameOf, length_octets, length_pending]
  obtain ⟨tail, htail⟩ := hprefix
  rw [← htail, List.append_assoc] at hbytes
  refine ⟨⟨pack tail⟩, nextFrame?_eq_some_iff.2 ⟨hfit payload List.mem_cons_self, ?_⟩, ?_⟩
  · rw [octets_pack, htail]
  · rw [octets_pack, List.append_cancel_left hbytes]

/-- Before that, no frame is taken. -/
theorem nextFrame?_of_cut (hfit : Fit left) (hbytes : octets r.pending ++ rest = framesOf left)
    (hcut : ∀ payload more, left = payload :: more →
      r.buffered < lengthFieldSize + payload.size) : r.nextFrame? = none := by
  cases left with
  | nil =>
    have hempty : octets r.pending = [] := (List.append_eq_nil_iff.1 hbytes).1
    have hbuffered : r.buffered = 0 := by rw [← length_pending, hempty, List.length_nil]
    exact nextFrame?_eq_none_iff.2 (.inl (hbuffered ▸ by decide))
  | cons payload more =>
    have hless := hcut payload more rfl
    rw [framesOf_cons] at hbytes
    have hprefix : octets r.pending <+: frameOf (octets payload) := by
      refine List.prefix_of_prefix_length_le (List.prefix_append _ rest)
        (hbytes ▸ List.prefix_append _ _) ?_
      rw [length_frameOf, length_octets, length_pending]
      exact Nat.le_of_lt hless
    obtain ⟨missing, hmissing⟩ := hprefix
    have hsome : missing ≠ [] := by
      rintro rfl
      have hlength := congrArg List.length hmissing
      rw [List.append_nil, length_pending, length_frameOf, length_octets] at hlength
      omega
    have hnone := nextFrame?_cut (hfit payload List.mem_cons_self) hmissing.symm hsome
    rwa [pack_octets] at hnone

/-! ## Some calls -/

/-- **Asking for records takes frames** as asking for frames does, and every frame that is taken is
answered. -/
theorem answers_eq_callAll (s : Schema) (r : Reassembly) (calls : List Call) :
    (r.answers s calls).1.filter tookFrame = (r.callAll calls).1.map (answer s) ∧
      (r.answers s calls).2 = (r.callAll calls).2 := by
  induction calls generalizing r with
  | nil => exact ⟨rfl, rfl⟩
  | cons call calls ih =>
    cases call with
    | push chunk => exact ih (r.push chunk)
    | next =>
      cases hnext : r.nextFrame? with
      | none =>
        obtain ⟨hanswers, hlast⟩ := ih r
        simp only [answers, callAll, nextRecord_of_none hnext, hnext]
        exact ⟨hanswers, hlast⟩
      | some taken =>
        obtain ⟨payload, r'⟩ := taken
        obtain ⟨hanswers, hlast⟩ := ih r'
        simp only [answers, callAll, nextRecord_of_some hnext, hnext]
        rw [List.filter_cons_of_pos (tookFrame_answer s payload), hanswers]
        exact ⟨rfl, hlast⟩

/-- Calls on a stream of frames take the first of them, and the others are still to be taken. -/
theorem framesOf_callAll (hfit : Fit payloads) (calls : List Call)
    (hbytes : octets r.pending ++ octets (pushed calls) ++ rest = framesOf payloads) :
    ∃ left, payloads = (r.callAll calls).1 ++ left ∧
      octets (r.callAll calls).2.pending ++ rest = framesOf left := by
  induction calls generalizing r payloads with
  | nil =>
    rw [pushed, octets_empty, List.append_nil] at hbytes
    exact ⟨payloads, rfl, hbytes⟩
  | cons call calls ih =>
    cases call with
    | push chunk =>
      refine ih hfit ?_
      rwa [octets_push, List.append_assoc (octets r.pending), ← octets_append]
    | next =>
      cases hnext : r.nextFrame? with
      | none =>
        simp only [callAll, hnext]
        exact ih hfit hbytes
      | some taken =>
        obtain ⟨payload, r'⟩ := taken
        obtain ⟨hpayload, hpending⟩ := nextFrame?_eq_some_iff.1 hnext
        simp only [callAll, hnext]
        rw [hpending, List.append_assoc, List.append_assoc] at hbytes
        -- the frame that is taken is the first of those that are to come
        cases payloads with
        | nil =>
          have hlength := congrArg List.length hbytes
          rw [List.length_append, length_frameOf] at hlength
          exact absurd hlength (by simp [lengthFieldSize, framesOf])
        | cons first payloads =>
          rw [framesOf_cons] at hbytes
          obtain ⟨hsame, hlater⟩ :=
            frameOf_append_inj hpayload (hfit first List.mem_cons_self) hbytes
          obtain rfl : payload = first := by
            rw [← pack_octets payload, hsame, pack_octets]
          obtain ⟨left, hleft, hrest⟩ := ih (r := r') hfit.tail
            (by rw [List.append_assoc]; exact hlater)
          exact ⟨left, congrArg (List.cons payload) hleft, hrest⟩

/-- When all frames have been pushed, each request answers one of them, and then there is none. -/
theorem answers_replicate_next (hfit : Fit left) (hbytes : octets r.pending = framesOf left)
    {n more : Nat} (hmore : n ≤ more) : (r.answers s (List.replicate n .next)).1 =
      (left.map (answer s) ++ List.replicate more (Except.ok none)).take n := by
  induction n generalizing r left with
  | zero => rfl
  | succ n ih =>
    rw [← List.append_nil (octets r.pending)] at hbytes
    cases left with
    | nil =>
      have hnone := nextFrame?_of_cut hfit hbytes (by simp)
      rw [List.append_nil] at hbytes
      have hlater := ih hfit hbytes (Nat.le_of_succ_le hmore)
      rw [List.map_nil, List.nil_append, List.take_replicate] at hlater ⊢
      rw [Nat.min_eq_left hmore, List.replicate_succ, List.replicate_succ, answers]
      simp only [nextRecord_of_none hnone, hlater, Nat.min_eq_left (Nat.le_of_succ_le hmore)]
    | cons payload left =>
      have hlength := congrArg List.length hbytes
      rw [List.append_nil, framesOf_cons, List.length_append, length_pending, length_frameOf,
        length_octets] at hlength
      obtain ⟨r', hnext, hrest⟩ := nextFrame?_of_whole hfit hbytes (by omega)
      rw [List.append_nil] at hrest
      rw [List.replicate_succ, answers, List.map_cons, List.cons_append, List.take_succ_cons]
      simp only [nextRecord_of_some hnext, ih hfit.tail hrest (Nat.le_of_succ_le hmore)]

/-! ## Draining -/

/-- **Draining passes over the records in front** and goes on behind them. -/
theorem drainRecords_append {records : List s.Value} (hfit : Fit payloads)
    (hbytes : octets r.pending = framesOf payloads ++ rest)
    (hrecords : payloads.map (fun payload => decodeRecord s (octets payload)) =
      records.map Except.ok) :
    r.drainRecords s = ((drainRecords s ⟨pack rest⟩).1.map (records ++ ·),
      (drainRecords s ⟨pack rest⟩).2) := by
  induction payloads generalizing r records with
  | nil =>
    obtain rfl := List.map_eq_nil_iff.1 hrecords.symm
    obtain rfl : r = ⟨pack rest⟩ := ext_octets (by rw [hbytes, octets_pack]; rfl)
    rcases drainRecords s ⟨pack rest⟩ with ⟨_ | _, last⟩ <;> rfl
  | cons payload payloads ih =>
    cases records with
    | nil => exact nomatch hrecords
    | cons record records =>
      rw [List.map_cons, List.map_cons, List.cons.injEq] at hrecords
      have hnext : r.nextFrame? = some (payload, ⟨pack (framesOf payloads ++ rest)⟩) := by
        refine nextFrame?_eq_some_iff.2 ⟨hfit payload List.mem_cons_self, ?_⟩
        rw [hbytes, framesOf_cons, octets_pack, List.append_assoc]
      have hlater := ih (r := ⟨pack (framesOf payloads ++ rest)⟩) hfit.tail (octets_pack _)
        hrecords.2
      rw [drainRecords_eq, nextRecord_of_some hnext, answer, hrecords.1]
      dsimp only [Except.map]
      rw [hlater]
      rcases drainRecords s ⟨pack rest⟩ with ⟨_ | _, last⟩ <;> rfl

/-- **Draining ends with the first payload that is no record**, and behind its frame. -/
theorem drainRecords_of_error {good more : List ByteArray} {bad : ByteArray}
    {records : List s.Value} {e : RecordError} (hfit : Fit (good ++ bad :: more))
    (hbytes : octets r.pending = framesOf (good ++ bad :: more) ++ rest)
    (hgood : good.map (fun payload => decodeRecord s (octets payload)) = records.map Except.ok)
    (hbad : decodeRecord s (octets bad) = .error e) :
    r.drainRecords s = (.error e, ⟨pack (framesOf more ++ rest)⟩) := by
  obtain ⟨hfitGood, hfitBad⟩ := fit_append.1 hfit
  rw [framesOf_append, framesOf_cons, List.append_assoc, List.append_assoc] at hbytes
  have hnext : nextFrame? ⟨pack (frameOf (octets bad) ++ (framesOf more ++ rest))⟩ =
      some (bad, ⟨pack (framesOf more ++ rest)⟩) := by
    refine nextFrame?_eq_some_iff.2 ⟨hfitBad bad List.mem_cons_self, ?_⟩
    rw [octets_pack, octets_pack]
  rw [drainRecords_append hfitGood hbytes hgood, drainRecords_eq, nextRecord_of_some hnext, answer,
    hbad]
  rfl

/-! ## Any calls -/

/-- Requests that only take frames whose payloads are answered return. -/
theorem returns_of_mem_answers {calls : List Call} {result : Except RecordError (Option s.Value)}
    (hreturns : ∀ payload ∈ (r.callAll calls).1, Returns (decodeRecord s (octets payload)))
    (hmem : result ∈ (r.answers s calls).1) : Returns result := by
  cases htook : tookFrame result with
  | false =>
    match result, htook with
    | .ok none, _ => exact nofun
  | true =>
    have hmem : result ∈ (r.callAll calls).1.map (answer s) := by
      rw [← (answers_eq_callAll s r calls).1]
      exact List.mem_filter.2 ⟨hmem, htook⟩
    obtain ⟨payload, hpayload, rfl⟩ := List.mem_map.1 hmem
    exact returns_answer (hreturns payload hpayload)

end Reassembly

namespace SegmentReader

variable {r : SegmentReader} {data : ByteArray}

/-- What the next `n` requests for a record of a segment are answered, and the reader afterwards. -/
def readings (s : Schema) (r : SegmentReader) :
    (n : Nat) → List (Except RecoveryError (Option s.Value)) × SegmentReader
  | 0 => ([], r)
  | n + 1 =>
    let (result, r) := r.readRecord s
    let (results, last) := r.readings s n
    (result :: results, last)

/-- A frame in front of the reader is answered and read, whatever its payload. -/
theorem readRecord_frame (hat : r.At data (frameOf (octets payload) ++ rest))
    (hfit : (octets payload).length ≤ maxPayload) :
    ∃ r', r.readRecord s = ((answer s payload).mapError .decode, r') ∧ r'.At data rest := by
  obtain ⟨r', hread, hat'⟩ := readBytes_frame hat hfit
  rw [pack_octets] at hread
  refine ⟨r', ?_, hat'⟩
  simp only [readRecord, readFrame_eq hat.source_eq, hread, answer]
  cases decodeRecord s (octets payload) <;> rfl

/-- A reader passes the errors of records on. -/
theorem mapError_ne {α : Type} {result : Except RecordError α} (h : Returns result) :
    result.mapError RecoveryError.decode ≠ .error (.decode (.decode .beyondMemory)) := by
  cases result with
  | error e =>
    exact fun heq => h (congrArg Except.error (RecoveryError.decode.inj (Except.error.inj heq)))
  | ok value => exact nofun

theorem readRecord_at_end (hat : r.At data []) : r.readRecord s = (.ok none, r) := by
  simp only [readRecord, readFrame_eq hat.source_eq, readBytes_at_end hat]

/-- **The answers of a segment**: one to each frame, in order, and then none any more. After each of
them the reader stands behind the frames that were answered. -/
theorem readings_eq (hfit : Fit payloads) (hat : r.At data (framesOf payloads)) {n more : Nat}
    (hmore : n ≤ more) :
    (r.readings s n).1 =
      (payloads.map (fun payload => (answer s payload).mapError RecoveryError.decode) ++
        List.replicate more (Except.ok none)).take n ∧
    (r.readings s n).2.At data (framesOf (payloads.drop n)) := by
  induction n generalizing r payloads with
  | zero => exact ⟨rfl, hat⟩
  | succ n ih =>
    cases payloads with
    | nil =>
      obtain ⟨hlater, hlast⟩ := ih hfit hat (Nat.le_of_succ_le hmore)
      rw [List.map_nil, List.nil_append, List.take_replicate] at hlater ⊢
      rw [Nat.min_eq_left (Nat.le_of_succ_le hmore)] at hlater
      rw [Nat.min_eq_left hmore, List.replicate_succ, readings]
      simp only [readRecord_at_end hat, hlater, true_and]
      rwa [List.drop_nil] at hlast ⊢
    | cons payload payloads =>
      rw [framesOf_cons] at hat
      obtain ⟨r', hread, hat'⟩ := readRecord_frame (s := s) hat (hfit payload List.mem_cons_self)
      obtain ⟨hlater, hlast⟩ := ih hfit.tail hat' (Nat.le_of_succ_le hmore)
      rw [readings, List.map_cons, List.cons_append, List.take_succ_cons, List.drop_succ_cons]
      simp only [hread, hlater, true_and]
      exact hlast

end SegmentReader

open Reassembly

/-- **Readers of records stay in step with the frames**, whatever the payloads are, as long as none
of them claims a string longer than memory can be.

* A consumer that is pushed the frames in any chunks and asks for records at any time: its requests
  answer the first frames, one each and in order, and the others are still to be taken. The next
  request answers the next frame if all of it was pushed, and takes exactly this frame; if not, it
  takes nothing. When everything was pushed, further requests answer all other frames, and then there
  are none.
* A reader of a file with the same bytes: its requests answer the frames one by one, and after `n` of
  them it stands behind the first `n` frames.
* Draining a consumer: it is to ask for records until there is none or until the first error. If the
  consumer holds frames of records, and one that is none, then the error is that of the latter, and
  what follows its frame is still held. If it holds frames of records and an incomplete frame, then
  these records are drained and the incomplete frame is still held. -/
theorem records_in_step (hfit : Fit payloads)
    (hreturns : ∀ payload ∈ payloads, Returns (decodeRecord s (octets payload))) :
    (∀ calls rest, octets (pushed calls) ++ rest = framesOf payloads →
      let out := start.answers s calls
      (∀ result ∈ out.1, Returns result) ∧
      ∃ taken left, payloads = taken ++ left ∧
        out.1.filter tookFrame = taken.map (answer s) ∧
        octets out.2.pending ++ rest = framesOf left ∧
        (∀ payload more, left = payload :: more →
          lengthFieldSize + payload.size ≤ out.2.buffered →
          ∃ last, out.2.nextRecord s = (answer s payload, last) ∧
            octets last.pending ++ rest = framesOf more) ∧
        ((∀ payload more, left = payload :: more →
          out.2.buffered < lengthFieldSize + payload.size) →
          out.2.nextRecord s = (.ok none, out.2)) ∧
        (rest = [] → ∀ n, (out.2.answers s (List.replicate n .next)).1 =
          (left.map (answer s) ++ List.replicate n (Except.ok none)).take n)) ∧
    (∀ d path data, Disk.dataAt d (Name.ofText path) = .ok data →
      octets data = framesOf payloads →
      ∃ reader, SegmentReader.openAt path d = .ok reader ∧ ∀ n,
        let out := reader.readings s n
        out.1 = (payloads.map (fun payload => (answer s payload).mapError RecoveryError.decode) ++
          List.replicate n (Except.ok none)).take n ∧
        (∀ result ∈ out.1, result ≠ .error (.decode (.decode .beyondMemory))) ∧
        (octets data).drop out.2.position = framesOf (payloads.drop n)) ∧
    (∀ (r : Reassembly) rest, octets r.pending = framesOf payloads ++ rest →
      (∀ rounds, r.buffered / lengthFieldSize < rounds →
        drainRecordsWithin s rounds r = some (r.drainRecords s)) ∧
      (∀ good (records : List s.Value) bad more e, payloads = good ++ bad :: more →
        good.map (fun payload => decodeRecord s (octets payload)) = records.map Except.ok →
        decodeRecord s (octets bad) = .error e →
        ∃ last, r.drainRecords s = (.error e, last) ∧
          octets last.pending = framesOf more ++ rest) ∧
      (∀ records, payloads.map (fun payload => decodeRecord s (octets payload)) =
          records.map Except.ok →
        nextFrame? ⟨pack rest⟩ = none → r.drainRecords s = (.ok records, ⟨pack rest⟩))) := by
  refine ⟨fun calls rest hbytes => ?_, fun d path data hdata hbytes => ?_, fun r rest hbytes => ?_⟩
  · have hstart : octets start.pending ++ octets (pushed calls) ++ rest = framesOf payloads := hbytes
    obtain ⟨left, hpayloads, hleft⟩ := framesOf_callAll hfit calls hstart
    obtain ⟨hanswers, hlast⟩ := answers_eq_callAll s start calls
    have hfitLeft : Fit left := (fit_append.1 (hpayloads ▸ hfit)).2
    rw [← hlast] at hleft
    refine ⟨fun result hmem => returns_of_mem_answers (fun payload hmem => ?_) hmem,
      _, left, hpayloads, hanswers, hleft, fun payload more heq hwhole => ?_, fun hcut => ?_,
      fun hrest n => ?_⟩
    · exact hreturns payload (hpayloads ▸ List.mem_append_left _ hmem)
    · subst heq
      obtain ⟨last, hnext, hlater⟩ := nextFrame?_of_whole hfitLeft hleft hwhole
      exact ⟨last, nextRecord_of_some hnext, hlater⟩
    · exact nextRecord_of_none (nextFrame?_of_cut hfitLeft hleft hcut)
    · rw [hrest, List.append_nil] at hleft
      exact answers_replicate_next hfitLeft hleft (Nat.le_refl n)
  · obtain ⟨reader, hopen, -, hat⟩ := SegmentReader.openAt_of_dataAt hdata
    rw [hbytes] at hat
    refine ⟨reader, hopen, fun n => ?_⟩
    obtain ⟨hanswers, hlast⟩ := SegmentReader.readings_eq (s := s) hfit hat (Nat.le_refl n)
    refine ⟨hanswers, fun result hmem => ?_, hlast.rest_eq⟩
    rw [hanswers] at hmem
    rcases List.mem_append.1 (List.mem_of_mem_take hmem) with hmem | hmem
    · obtain ⟨payload, hpayload, rfl⟩ := List.mem_map.1 hmem
      exact SegmentReader.mapError_ne (returns_answer (hreturns payload hpayload))
    · rw [List.eq_of_mem_replicate hmem]
      exact nofun
  · refine ⟨fun rounds hrounds => drainRecordsWithin_eq s hrounds,
      fun good records bad more e hpayloads hgood hbad => ?_, fun records hrecords hnone => ?_⟩
    · subst hpayloads
      exact ⟨_, drainRecords_of_error hfit hbytes hgood hbad, octets_pack _⟩
    · rw [drainRecords_append hfit hbytes hrecords, drainRecords_of_none hnone]
      simp only [Except.map, List.append_nil]

/-! A small case: the frames of four Booleans, of which the second is none and the third has a byte
too many. -/

def flagPayloads : List ByteArray := [pack [1], pack [2], pack [0, 0], pack [0]]

theorem records_in_step_small :
    Fit flagPayloads ∧
    (∀ payload ∈ flagPayloads, Returns (decodeRecord .bool (octets payload))) ∧
    ((start.push (pack (framesOf flagPayloads))).answers .bool (List.replicate 5 .next)).1 =
      [.ok (some true), .error (.decode .notBoolean), .error (.trailingBytes 1 2),
        .ok (some false), .ok none] ∧
    ∃ last, drainRecords .bool ⟨pack (framesOf flagPayloads)⟩ = (.error (.decode .notBoolean), last) ∧
      octets last.pending = framesOf [pack [0, 0], pack [0]] := by
  have hfit : Fit flagPayloads := by unfold Fit; decide
  have hreturns : ∀ payload ∈ flagPayloads, Returns (decodeRecord .bool (octets payload)) := by
    intro payload hmem
    simp only [flagPayloads, List.mem_cons, List.not_mem_nil, or_false] at hmem
    rcases hmem with rfl | rfl | rfl | rfl <;> exact nofun
  obtain ⟨hcalls, -, hdrain⟩ := records_in_step hfit hreturns
  refine ⟨hfit, hreturns, ?_, ?_⟩
  · obtain ⟨-, taken, left, hpayloads, hanswers, -, -, -, hlater⟩ :=
      hcalls [.push (pack (framesOf flagPayloads))] [] (by decide +kernel)
    obtain rfl : taken = [] := List.map_eq_nil_iff.1 hanswers.symm
    obtain rfl : flagPayloads = left := hpayloads
    exact hlater rfl 5
  · obtain ⟨-, herror, -⟩ := hdrain ⟨pack (framesOf flagPayloads)⟩ [] (by decide +kernel)
    exact herror [pack [1]] [true] (pack [2]) [pack [0, 0], pack [0]] _ rfl rfl rfl

def beyondMemoryPayload : ByteArray :=
  pack [0xfd, 0xff, 0xff, 0xff, 0xff, 0xff, 0xff, 0xff, 0xff]

/-- **A payload that ends the program**: it claims a string longer than memory can be, and the
request that takes its frame does not return, although the next frame holds a string. -/
theorem string_beyond_memory :
    let payloads := [beyondMemoryPayload, pack [1, 0x61]]
    Fit payloads ∧
    ¬∀ result ∈ (start.answers .string [.push (pack (framesOf payloads)), .next, .next]).1,
      Returns result := by
  intro payloads
  refine ⟨by unfold Fit; decide, fun hreturns => ?_⟩
  have htaken : (start.callAll [.push (pack (framesOf payloads)), .next, .next]).1 = payloads := by
    decide +kernel
  have hfatal : answer .string beyondMemoryPayload = .error (.decode .beyondMemory) := rfl
  have hanswers :=
    (answers_eq_callAll .string start [.push (pack (framesOf payloads)), .next, .next]).1
  rw [htaken] at hanswers
  have hmem : answer .string beyondMemoryPayload ∈ payloads.map (answer .string) :=
    List.mem_map_of_mem List.mem_cons_self
  rw [← hanswers] at hmem
  exact hreturns _ (List.mem_filter.1 hmem).1 hfatal

end Fanout
