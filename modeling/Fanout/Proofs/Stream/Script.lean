import Fanout.Proofs.Stream.Frames

/-!
# Scripts

The script of a channel is what the channel is to carry: records and marks (control events and ends
of supersteps), in the order in which the producer gave them. `Carries` says that some deliveries
and some bytes that are still to come carry a script between them: every byte of every record is
there, in order, and a mark stands where all records before it are complete.

* `Carries.bytes_eq` — no byte is lost, doubled or moved.
* `Carries.whole_before_mark` — what was delivered before a mark are whole frames.
* `Carries.giveUp` — bytes that are still to come may be given up between two frames; what is left
  of the script is then carried by the deliveries alone.
* `Carries.play` — a reader that looks whenever a mark arrives reads the script.
-/

namespace Fanout

/-- What separates the records of a channel. -/
inductive Mark where
  | event (e : Event)
  | endOfSuperstep
  deriving DecidableEq

/-- The delivery of a mark. -/
def Mark.delivery : Mark → Delivery
  | event e => .event e
  | endOfSuperstep => .endOfSuperstep

/-- One entry of a script. -/
inductive Entry (α : Type) where
  | record (a : α)
  | mark (m : Mark)
  deriving DecidableEq

/-- The records of a script, in order. -/
def recordsOf {α : Type} (script : List (Entry α)) : List α :=
  script.filterMap fun entry => match entry with
    | .record a => some a
    | .mark _ => none

@[simp] theorem recordsOf_append {α : Type} (a b : List (Entry α)) :
    recordsOf (a ++ b) = recordsOf a ++ recordsOf b := List.filterMap_append

@[simp] theorem recordsOf_record {α : Type} (a : α) : recordsOf [.record a] = [a] := rfl

@[simp] theorem recordsOf_mark {α : Type} (m : Mark) : recordsOf [(.mark m : Entry α)] = [] := rfl

@[simp] theorem recordsOf_map_record {α : Type} (records : List α) :
    recordsOf (records.map .record) = records := by
  simp [recordsOf, List.filterMap_map]

/-- The marks of a script, in order. -/
def marksOf {α : Type} (script : List (Entry α)) : List Mark :=
  script.filterMap fun entry => match entry with
    | .record _ => none
    | .mark m => some m

@[simp] theorem marksOf_append {α : Type} (a b : List (Entry α)) :
    marksOf (a ++ b) = marksOf a ++ marksOf b := List.filterMap_append

@[simp] theorem marksOf_mark {α : Type} (m : Mark) : marksOf [(.mark m : Entry α)] = [m] := rfl

@[simp] theorem marksOf_map_record {α : Type} (records : List α) :
    marksOf (records.map .record) = [] := by
  simp [marksOf, List.filterMap_map]

theorem bytesOf_buffer (b : Buffer) : bytesOf [.buffer b] = b.contents := by
  simp [bytesOf]

theorem bytesOf_mark (m : Mark) : bytesOf [m.delivery] = [] := by
  cases m <;> rfl

/-- The deliveries and the bytes that are still to come carry the script. A frame is to come as a
whole; what is to come is delivered from the front, in any pieces; and a mark is delivered when
nothing is to come. -/
inductive Carries : List (Entry (List UInt8)) → List Delivery → List UInt8 → Prop where
  | nil : Carries [] [] []
  | record {script : List (Entry (List UInt8))} {ds : List Delivery} {toCome : List UInt8}
    (frame : List UInt8) : Carries script ds toCome →
    Carries (script ++ [.record frame]) ds (toCome ++ frame)
  | buffer {script : List (Entry (List UInt8))} {ds : List Delivery} {toCome : List UInt8}
    (b : Buffer) : Carries script ds (b.contents ++ toCome) →
    Carries script (ds ++ [.buffer b]) toCome
  | mark {script : List (Entry (List UInt8))} {ds : List Delivery} (m : Mark) :
    Carries script ds [] → Carries (script ++ [.mark m]) (ds ++ [m.delivery]) []

namespace Carries

variable {script : List (Entry (List UInt8))} {ds : List Delivery} {toCome : List UInt8}

/-- **The bytes delivered and the bytes to come are the frames of the script**, in order. -/
theorem bytes_eq (h : Carries script ds toCome) :
    bytesOf ds ++ toCome = (recordsOf script).flatten := by
  induction h with
  | nil => rfl
  | record frame _ ih =>
    rw [recordsOf_append, recordsOf_record, List.flatten_append, List.flatten_singleton, ← ih,
      List.append_assoc]
  | buffer b _ ih => rw [bytesOf_append, bytesOf_buffer, List.append_assoc, ih]
  | mark m _ ih =>
    rw [bytesOf_append, bytesOf_mark, recordsOf_append, recordsOf_mark, List.append_nil, ih,
      List.append_nil]

/-- **What was delivered before a mark are whole frames.** -/
theorem whole_before_mark (h : Carries script ds toCome)
    (hframes : ∀ f ∈ recordsOf script, IsFrame f) {before : List Delivery} {m : Mark}
    (hbefore : before ++ [m.delivery] <+: ds) : WholeFrames (bytesOf before) := by
  induction h with
  | nil => exact absurd (List.prefix_nil.1 hbefore) (by simp)
  | record frame _ ih =>
    refine ih (fun f hf => hframes f ?_) hbefore
    rw [recordsOf_append]
    exact List.mem_append_left _ hf
  | buffer b _ ih =>
    rcases List.prefix_concat_iff.1 hbefore with hlast | hbefore
    · -- the last delivery is a buffer and no mark
      have hmark := List.singleton_inj.1 (List.append_inj' hlast rfl).2
      cases m <;> exact nomatch hmark
    · exact ih hframes hbefore
  | mark _ h ih =>
    rw [recordsOf_append, recordsOf_mark, List.append_nil] at hframes
    rcases List.prefix_concat_iff.1 hbefore with hlast | hbefore
    · have hbytes := h.bytes_eq
      rw [List.append_nil] at hbytes
      rw [(List.append_inj' hlast rfl).1, hbytes]
      exact WholeFrames.of_flatten hframes
    · exact ih hframes hbefore

/-- Some frames more are to come. -/
theorem recordAll (h : Carries script ds toCome) (frames : List (List UInt8)) :
    Carries (script ++ frames.map .record) ds (toCome ++ frames.flatten) := by
  induction frames generalizing script toCome with
  | nil => simpa using h
  | cons frame frames ih =>
    have hall := ih (h.record frame)
    rwa [List.append_assoc, List.append_assoc, List.singleton_append] at hall

/-- Some buffers more are delivered. -/
theorem bufferAll {bs : List Buffer} (h : Carries script ds (bytesOf (bs.map .buffer) ++ toCome)) :
    Carries script (ds ++ bs.map .buffer) toCome := by
  induction bs generalizing ds with
  | nil => simpa [bytesOf] using h
  | cons b bs ih =>
    rw [List.map_cons, ← List.singleton_append, bytesOf_append, bytesOf_buffer,
      List.append_assoc] at h
    have hall := ih (h.buffer b)
    rwa [List.append_assoc, List.singleton_append] at hall

/-- Behind the last mark there are frames in the script and buffers among the deliveries. -/
theorem lastPart (h : Carries script ds toCome) :
    ∃ (sealed : List (Entry (List UInt8))) (frames : List (List UInt8)) (marked : List Delivery)
      (bs : List Buffer), script = sealed ++ frames.map .record ∧
      ds = marked ++ bs.map .buffer ∧ Carries sealed marked [] ∧
      bytesOf (bs.map .buffer) ++ toCome = frames.flatten := by
  induction h with
  | nil => exact ⟨[], [], [], [], rfl, rfl, .nil, rfl⟩
  | record frame _ ih =>
    obtain ⟨sealed, frames, marked, bs, rfl, rfl, hsealed, hbytes⟩ := ih
    refine ⟨sealed, frames ++ [frame], marked, bs, ?_, rfl, hsealed, ?_⟩
    · rw [List.map_append, List.append_assoc, List.map_singleton]
    · rw [List.flatten_append, List.flatten_singleton, ← hbytes, List.append_assoc]
  | buffer b _ ih =>
    obtain ⟨sealed, frames, marked, bs, rfl, rfl, hsealed, hbytes⟩ := ih
    refine ⟨sealed, frames, marked, bs ++ [b], rfl, ?_, hsealed, ?_⟩
    · rw [List.map_append, List.append_assoc, List.map_singleton]
    · rw [List.map_append, bytesOf_append, List.map_singleton, bytesOf_buffer, List.append_assoc,
        hbytes]
  -- a mark comes with nothing to come: it seals all that is before it
  | @mark script ds m h _ =>
    exact ⟨script ++ [.mark m], [], ds ++ [m.delivery], [], (List.append_nil _).symm,
      (List.append_nil _).symm, h.mark m, rfl⟩

/-- **What is to come may be given up between two frames.** The deliveries alone then carry the
script without the frames that were given up. -/
theorem giveUp (h : Carries script ds toCome) (hframes : ∀ f ∈ recordsOf script, IsFrame f)
    (hwhole : WholeFrames (bytesOf ds)) : ∃ rest, rest.Sublist script ∧ Carries rest ds [] := by
  -- only frames behind the last mark can be incomplete, so the marks stay where they are
  obtain ⟨sealed, frames, marked, bs, rfl, rfl, hsealed, hbytes⟩ := h.lastPart
  rw [recordsOf_append, recordsOf_map_record] at hframes
  have hmarked : WholeFrames (bytesOf marked) := by
    have hmarked := hsealed.bytes_eq
    rw [List.append_nil] at hmarked
    rw [hmarked]
    exact WholeFrames.of_flatten fun f hf => hframes f (List.mem_append_left _ hf)
  rw [bytesOf_append] at hwhole
  obtain ⟨front, back, rfl, hfront, _⟩ :=
    frames_of_prefix (fun f hf => hframes f (List.mem_append_right _ hf))
      (hmarked.of_append_left hwhole) hbytes.symm
  refine ⟨sealed ++ front.map .record, ?_, bufferAll ?_⟩
  · rw [List.map_append, ← List.append_assoc]
    exact List.sublist_append_left _ _
  · have hall := hsealed.recordAll front
    rwa [List.nil_append, ← hfront, ← List.append_nil (bytesOf (bs.map _))] at hall

end Carries

/-! ## Reading a script -/

/-- An entry against the same entry with a frame in the place of the record. -/
inductive Entry.Framed (s : Schema) : Entry s.Value → Entry (List UInt8) → Prop where
  | record {v : s.Value} {frame : List UInt8} (h : encodeRecord s v = .ok frame) :
    Framed s (.record v) (.record frame)
  | mark (m : Mark) : Framed s (.mark m) (.mark m)

/-- Two scripts agree: one of records and one of their frames. -/
abbrev Framed (s : Schema) (script : List (Entry s.Value)) (frames : List (Entry (List UInt8))) :
    Prop := List.Forall₂ (Entry.Framed s) script frames

/-- The last entries of scripts that agree. -/
theorem Framed.last {s : Schema} {script : List (Entry s.Value)}
    {frames : List (Entry (List UInt8))} {last : Entry (List UInt8)}
    (h : Framed s script (frames ++ [last])) :
    ∃ earlier entry, script = earlier ++ [entry] ∧ Framed s earlier frames ∧
      Entry.Framed s entry last := by
  have hlast := List.forall₂_drop_append _ _ _ h
  obtain ⟨entry, nothing, hentry, hnothing, hdrop⟩ := List.forall₂_cons_right_iff.1 hlast
  rw [List.forall₂_nil_right_iff.1 hnothing] at hdrop
  refine ⟨script.take frames.length, entry, ?_, List.forall₂_take_append _ _ _ h, hentry⟩
  rw [← hdrop, List.take_append_drop]

/-- Where the frames of a script are those of some records, it is the script of these. -/
theorem Framed.of_frames {s : Schema} {records : List s.Value}
    {frames : List (Entry (List UInt8))} (h : Frames s records (recordsOf frames)) :
    ∃ script, Framed s script frames := by
  induction frames generalizing records with
  | nil => exact ⟨[], .nil⟩
  | cons entry frames ih =>
    cases entry with
    | record frame =>
      obtain ⟨v, later, hv, hlater, rfl⟩ := List.forall₂_cons_right_iff.1 h
      obtain ⟨script, hscript⟩ := ih hlater
      exact ⟨.record v :: script, .cons (.record hv) hscript⟩
    | mark m =>
      obtain ⟨script, hscript⟩ := ih h
      exact ⟨.mark m :: script, .cons (.mark m) hscript⟩

/-- A reader that looks whenever a mark arrives: what it has read, and its stream. -/
structure Playback (s : Schema) where
  read : List (Entry s.Value)
  stream : Reassembly

namespace Playback

variable {s : Schema}

/-- Nothing received. -/
def start : Playback s := ⟨[], Reassembly.start⟩

/-- Reads all records. It fails if one of them cannot be decoded or if part of a record is left. -/
def drain (p : Playback s) : Option (Playback s) :=
  match p.stream.drainRecords s with
  | (.error _, _) => none
  | (.ok records, stream) =>
    if stream.hasPartial then none else some ⟨p.read ++ records.map .record, stream⟩

/-- Reads all records and then the mark. -/
def mark (p : Playback s) (m : Mark) : Option (Playback s) :=
  p.drain.map fun p => { p with read := p.read ++ [.mark m] }

/-- Receives one delivery. -/
def receive (p : Playback s) : Delivery → Option (Playback s)
  | .buffer b => some { p with stream := p.stream.push b.bytes }
  | .event e => p.mark (.event e)
  | .endOfSuperstep => p.mark .endOfSuperstep

theorem receive_mark (p : Playback s) (m : Mark) : p.receive m.delivery = p.mark m := by
  cases m <;> rfl

/-- Where the received bytes are whole frames, all their records are read and nothing is left. -/
theorem drain_of_frames {p : Playback s} {records : List s.Value} {frames : List (List UInt8)}
    (h : Frames s records frames) (hstream : octets p.stream.pending = frames.flatten) :
    p.drain = some ⟨p.read ++ records.map .record, Reassembly.start⟩ := by
  have hdrain := Reassembly.drainRecords_flatten h
  rw [← hstream, pack_octets] at hdrain
  unfold drain
  rw [show p.stream.drainRecords s = _ from hdrain]
  rfl

end Playback

/-- Receives some deliveries from the first on. -/
def play (s : Schema) (ds : List Delivery) : Option (Playback s) :=
  ds.foldlM Playback.receive Playback.start

theorem play_concat {s : Schema} {ds : List Delivery} {p : Playback s} (h : play s ds = some p)
    (d : Delivery) : play s (ds ++ [d]) = p.receive d := by
  unfold play at h ⊢
  rw [List.foldlM_append, h]
  show (p.receive d).bind some = p.receive d
  exact bind_pure (p.receive d)

/-- **A reader that looks whenever a mark arrives reads the script.** What it has not read yet are
records behind the last mark; their frames are in its stream or still to come. -/
theorem Carries.play {s : Schema} {script : List (Entry s.Value)}
    {frames : List (Entry (List UInt8))} {ds : List Delivery} {toCome : List UInt8}
    (h : Carries frames ds toCome) (hscript : Framed s script frames) :
    ∃ (p : Playback s) (later : List s.Value) (back : List (List UInt8)),
      Fanout.play s ds = some p ∧ script = p.read ++ later.map .record ∧ Frames s later back ∧
        octets p.stream.pending ++ toCome = back.flatten := by
  induction h generalizing script with
  | nil =>
    obtain rfl := List.forall₂_nil_right_iff.1 hscript
    exact ⟨Playback.start, [], [], rfl, rfl, .nil, rfl⟩
  | record frame _ ih =>
    obtain ⟨earlier, entry, rfl, hearlier, hentry⟩ := hscript.last
    obtain ⟨p, later, back, hplay, rfl, hlater, hbytes⟩ := ih hearlier
    cases hentry with
    | @record v _ hv =>
      refine ⟨p, later ++ [v], back ++ [frame], hplay, ?_, ?_, ?_⟩
      · rw [List.map_append, List.append_assoc, List.map_singleton]
      · exact List.rel_append hlater (.cons hv .nil)
      · rw [← List.append_assoc, hbytes, List.flatten_append, List.flatten_singleton]
  | buffer b _ ih =>
    obtain ⟨p, later, back, hplay, hread, hlater, hbytes⟩ := ih hscript
    refine ⟨⟨p.read, p.stream.push b.bytes⟩, later, back, play_concat hplay _, hread, hlater, ?_⟩
    rw [← hbytes, Reassembly.octets_push, List.append_assoc]
    rfl
  | mark m _ ih =>
    obtain ⟨earlier, entry, rfl, hearlier, hentry⟩ := hscript.last
    obtain ⟨p, later, back, hplay, rfl, hlater, hbytes⟩ := ih hearlier
    -- nothing is to come at a mark, so the stream holds whole frames and is drained
    rw [List.append_nil] at hbytes
    cases hentry with
    | mark m =>
      refine ⟨⟨p.read ++ later.map .record ++ [.mark m], .start⟩, [], [], ?_, ?_, .nil, rfl⟩
      · rw [play_concat hplay, Playback.receive_mark, Playback.mark,
          Playback.drain_of_frames hlater hbytes]
        rfl
      · exact (List.append_nil _).symm

end Fanout
