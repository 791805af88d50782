import Fanout.Proofs.Segment.Writing
import Fanout.Proofs.Stream.Payloads
import Mathlib.Algebra.BigOperators.Group.List.Lemmas
import Mathlib.Algebra.GroupWithZero.Nat
import Mathlib.Data.List.Induction

/-!
# Segments while they are written

A segment file lags behind what was written to it, by frames that are collected. It never lags by a
part of a frame: whatever frames are written, and whenever the file is brought up to date, the file
holds the frames that were written first, and the others are collected (`Lags`). So a segment can be
read at any time, also when its writer is gone.

* `BufferedFile.Lags.flush`, `BufferedFile.Lags.write` — what one call does to the two parts.
* `SegmentWriter.Lags.callAll` — what a sequence of calls does to them.
* `SegmentWriter.readable_run` — segments are readable at every moment.
-/

namespace Fanout

/-- The bytes of some frames, one after the other. -/
def joined (frames : List ByteArray) : List UInt8 := (frames.map octets).flatten

theorem joined_append (frames more : List ByteArray) :
    joined (frames ++ more) = joined frames ++ joined more := by
  rw [joined, List.map_append, List.flatten_append, joined, joined]

theorem joined_singleton (frame : ByteArray) : joined [frame] = octets frame :=
  List.flatten_singleton

namespace BufferedFile

variable {f f' : BufferedFile} {d d' : Disk} {path initial : List UInt8} {id : Nat}
  {kept later : List ByteArray}

/-- Behind what it held at first the file has some frames; the later ones are collected. -/
structure Lags (f : BufferedFile) (d : Disk) (path : List UInt8) (id : Nat)
    (initial : List UInt8) (kept later : List ByteArray) : Prop where
  lodged : f.Lodged d path id
  id_lt : id < d.contents.size
  content_eq : octets (d.content id) = initial ++ joined kept
  pending_eq : octets f.pending = joined later

namespace Lags

variable (h : f.Lags d path id initial kept later)

include h

/-- Bytes that go to the end of the file. -/
theorem written {handle : Handle} {data : ByteArray} {frames : List ByteArray}
    (hwrite : d.write f.handle data = (.ok handle, d')) (hdata : octets data = joined frames)
    {left : ByteArray} (hleft : octets left = []) :
    Lags ⟨handle, left⟩ d' path id initial (kept ++ frames) [] := by
  obtain ⟨hend, hwrites, hcontent⟩ := Disk.write_eq_ok h.id_lt h.lodged.atEnd hwrite
  refine ⟨⟨h.lodged.leads.grows hwrites.grows, hend⟩, hwrites.size_eq.symm ▸ h.id_lt, ?_, hleft⟩
  rw [hcontent, octets_append, h.content_eq, hdata, joined_append, List.append_assoc]

theorem collected (data : ByteArray) :
    Lags { f with pending := f.pending ++ data } d path id initial kept (later ++ [data]) := by
  refine ⟨⟨h.lodged.leads, h.lodged.atEnd⟩, h.id_lt, h.content_eq, ?_⟩
  rw [octets_append, h.pending_eq, joined_append, joined_singleton]

/-- Nothing is collected, so there is nothing by which the file lags. -/
theorem caughtUp (hempty : f.pending.isEmpty = true) :
    f.Lags d path id initial (kept ++ later) [] := by
  have hnone : joined later = [] := h.pending_eq.symm.trans (octets_of_isEmpty hempty)
  refine ⟨h.lodged, h.id_lt, ?_, octets_of_isEmpty hempty⟩
  rw [h.content_eq, joined_append, hnone, List.append_nil]

/-- **Bringing the file up to date** leaves nothing collected. -/
theorem flush (hflush : f.flush d = (.ok (), f', d')) :
    f'.Lags d' path id initial (kept ++ later) [] ∧ f'.pending.isEmpty = true := by
  unfold BufferedFile.flush at hflush
  by_cases hempty : f.pending.isEmpty = true
  · rw [if_pos hempty] at hflush
    obtain ⟨-, hsame⟩ := Prod.mk.inj hflush
    obtain ⟨rfl, rfl⟩ := Prod.mk.inj hsame
    exact ⟨h.caughtUp hempty, hempty⟩
  · rw [if_neg hempty] at hflush
    rcases hwrite : d.write f.handle f.pending with ⟨_ | handle, last⟩
    · rw [hwrite] at hflush
      exact nomatch (Prod.mk.inj hflush).1
    · rw [hwrite] at hflush
      obtain ⟨-, hsame⟩ := Prod.mk.inj hflush
      obtain ⟨rfl, rfl⟩ := Prod.mk.inj hsame
      exact ⟨h.written hwrite h.pending_eq rfl, rfl⟩

/-- A frame that is longer than the buffer is written only when nothing is collected. -/
theorem accept {data : ByteArray} (haccept : f.accept data d = (.ok (), f', d'))
    (hroom : data.size < writeBufferSize ∨ f.pending.isEmpty = true) :
    ∃ kept' later', kept' ++ later' = kept ++ later ++ [data] ∧
      f'.Lags d' path id initial kept' later' := by
  unfold BufferedFile.accept at haccept
  by_cases hlong : writeBufferSize ≤ data.size
  · rw [if_pos hlong] at haccept
    have hempty := hroom.resolve_left (Nat.not_lt.2 hlong)
    rcases hwrite : d.write f.handle data with ⟨_ | handle, last⟩
    · rw [hwrite] at haccept
      exact nomatch (Prod.mk.inj haccept).1
    · rw [hwrite] at haccept
      obtain ⟨-, hsame⟩ := Prod.mk.inj haccept
      obtain ⟨rfl, rfl⟩ := Prod.mk.inj hsame
      exact ⟨_, _, List.append_nil _, (h.caughtUp hempty).written hwrite
        (joined_singleton data).symm (octets_of_isEmpty hempty)⟩
  · rw [if_neg hlong] at haccept
    obtain ⟨-, hsame⟩ := Prod.mk.inj haccept
    obtain ⟨rfl, rfl⟩ := Prod.mk.inj hsame
    exact ⟨_, _, (List.append_assoc ..).symm, h.collected data⟩

/-- **A frame** is collected as a whole or written as a whole, behind those before it. -/
theorem write {data : ByteArray} (hwrite : f.write data d = (.ok (), f', d')) :
    ∃ kept' later', kept' ++ later' = kept ++ later ++ [data] ∧
      f'.Lags d' path id initial kept' later' := by
  unfold BufferedFile.write at hwrite
  by_cases hroom : data.size < f.room
  · rw [if_pos hroom] at hwrite
    obtain ⟨-, hsame⟩ := Prod.mk.inj hwrite
    obtain ⟨rfl, rfl⟩ := Prod.mk.inj hsame
    exact ⟨_, _, (List.append_assoc ..).symm, h.collected data⟩
  · rw [if_neg hroom] at hwrite
    by_cases hfits : data.size ≤ f.room
    · rw [if_pos hfits] at hwrite
      exact h.accept hwrite (lt_or_isEmpty_of_fits hfits)
    · rw [if_neg hfits] at hwrite
      rcases hflush : f.flush d with ⟨_ | _, flushed, last⟩
      · rw [hflush] at hwrite
        exact nomatch (Prod.mk.inj hwrite).1
      · rw [hflush] at hwrite
        obtain ⟨hlags, hempty⟩ := h.flush hflush
        have haccepted := hlags.accept hwrite (.inr hempty)
        rwa [List.append_nil] at haccepted

end Lags

end BufferedFile

/-- A call of a segment writer. -/
inductive SegmentCall where
  | frame (bytes : ByteArray)
  | flush

/-- The frame that a call hands over. -/
def SegmentCall.frame? : SegmentCall → Option ByteArray
  | .frame bytes => some bytes
  | .flush => none

/-- The frames that some calls hand over. -/
def SegmentCall.frames (calls : List SegmentCall) : List ByteArray :=
  calls.filterMap SegmentCall.frame?

namespace SegmentWriter

/-- What one call comes to. -/
def call (state : SegmentWriter × Disk) :
    SegmentCall → Except RecoveryError Unit × SegmentWriter × Disk
  | .frame bytes => state.1.write bytes state.2
  | .flush => state.1.flush state.2

/-- Calls one after the other, up to the first that fails. -/
def callAll (state : SegmentWriter × Disk) :
    List SegmentCall → Except RecoveryError Unit × SegmentWriter × Disk
  | [] => (.ok (), state)
  | use :: uses =>
    match call state use with
    | (.error e, later) => (.error e, later)
    | (.ok (), later) => callAll later uses

variable {w w' : SegmentWriter} {d d' d₀ : Disk} {path : String} {initial : List UInt8} {id : Nat}
  {frames : List ByteArray} {state : SegmentWriter × Disk}

theorem callAll_concat {uses : List SegmentCall} {use : SegmentCall} {last : SegmentWriter × Disk}
    (h : callAll state (uses ++ [use]) = (.ok (), last)) :
    ∃ before, callAll state uses = (.ok (), before) ∧ call before use = (.ok (), last) := by
  induction uses generalizing state with
  | nil =>
    refine ⟨state, rfl, ?_⟩
    rw [List.nil_append, callAll] at h
    rcases hcall : call state use with ⟨_ | _, later⟩
    · rw [hcall] at h
      exact nomatch (Prod.mk.inj h).1
    · rw [hcall] at h
      exact h
  | cons first uses ih =>
    rw [List.cons_append, callAll] at h
    rw [callAll]
    rcases hcall : call state first with ⟨_ | _, later⟩
    · rw [hcall] at h
      exact nomatch (Prod.mk.inj h).1
    · rw [hcall] at h
      exact ih h

/-- The segment goes back to some frames, of which its file holds the first ones. -/
structure Lags (w : SegmentWriter) (d : Disk) (path : String) (id : Nat) (initial : List UInt8)
    (frames : List ByteArray) : Prop where
  records_eq : w.records = frames.length
  bytes_eq : w.bytes = (frames.map ByteArray.size).sum
  split : ∃ kept later, kept ++ later = frames ∧
    w.file.Lags d (Name.ofText path) id initial kept later

namespace Lags

theorem flush (h : w.Lags d path id initial frames) (hflush : w.flush d = (.ok (), w', d')) :
    w'.Lags d' path id initial frames ∧
      w'.file.Lags d' (Name.ofText path) id initial frames [] ∧
      w'.file.pending.isEmpty = true := by
  obtain ⟨kept, later, rfl, hlags⟩ := h.split
  unfold SegmentWriter.flush at hflush
  rcases hfile : w.file.flush d with ⟨_ | _, file, last⟩
  · rw [hfile] at hflush
    exact nomatch (Prod.mk.inj hflush).1
  · rw [hfile] at hflush
    obtain ⟨-, hsame⟩ := Prod.mk.inj hflush
    obtain ⟨rfl, rfl⟩ := Prod.mk.inj hsame
    obtain ⟨hflushed, hempty⟩ := hlags.flush hfile
    exact ⟨⟨h.records_eq, h.bytes_eq, _, _, List.append_nil _, hflushed⟩, hflushed, hempty⟩

theorem write (h : w.Lags d path id initial frames) {frame : ByteArray}
    (hwrite : w.write frame d = (.ok (), w', d')) :
    w'.Lags d' path id initial (frames ++ [frame]) := by
  obtain ⟨kept, later, rfl, hlags⟩ := h.split
  unfold SegmentWriter.write at hwrite
  rcases hfile : w.file.write frame d with ⟨_ | _, file, last⟩
  · rw [hfile] at hwrite
    exact nomatch (Prod.mk.inj hwrite).1
  · rw [hfile] at hwrite
    obtain ⟨-, hsame⟩ := Prod.mk.inj hwrite
    obtain ⟨rfl, rfl⟩ := Prod.mk.inj hsame
    refine ⟨?_, ?_, hlags.write hfile⟩
    · rw [List.length_append, ← h.records_eq, List.length_singleton]
    · rw [List.map_append, List.sum_append, ← h.bytes_eq, List.map_singleton, List.sum_singleton]

theorem call (h : w.Lags d path id initial frames) {use : SegmentCall}
    (hcall : call (w, d) use = (.ok (), w', d')) :
    w'.Lags d' path id initial (frames ++ SegmentCall.frames [use]) := by
  cases use with
  | frame bytes => exact h.write hcall
  | flush =>
    rw [show SegmentCall.frames [.flush] = [] from rfl, List.append_nil]
    exact (h.flush hcall).1

/-- **However frames and flushes follow each other**, the segment goes back to the frames. -/
theorem callAll (h : w.Lags d path id initial []) {calls : List SegmentCall}
    (hcalls : callAll (w, d) calls = (.ok (), w', d')) :
    w'.Lags d' path id initial (SegmentCall.frames calls) := by
  induction calls using List.reverseRecOn generalizing w' d' with
  | nil =>
    obtain ⟨-, hsame⟩ := Prod.mk.inj hcalls
    obtain ⟨rfl, rfl⟩ := Prod.mk.inj hsame
    exact h
  | append_singleton uses use ih =>
    obtain ⟨⟨before, disk⟩, huses, huse⟩ := callAll_concat hcalls
    rw [SegmentCall.frames, List.filterMap_append]
    exact (ih huses).call huse

/-- After a flush nothing is collected. -/
theorem kept_of_flush (h : w.Lags d path id initial []) {calls : List SegmentCall}
    (hcalls : SegmentWriter.callAll (w, d) calls = (.ok (), w', d'))
    (hlast : calls.getLast? = some .flush) :
    w'.file.Lags d' (Name.ofText path) id initial (SegmentCall.frames calls) [] := by
  obtain ⟨uses, rfl⟩ := List.getLast?_eq_some_iff.1 hlast
  obtain ⟨⟨before, disk⟩, huses, huse⟩ := callAll_concat hcalls
  rw [SegmentCall.frames, List.filterMap_append, List.filterMap_cons_none rfl, List.filterMap_nil,
    List.append_nil]
  exact ((h.callAll huses).flush huse).2.1

/-- **A segment that was finished** holds all of its frames. -/
theorem finish (h : w.Lags d path id initial frames) {n : Nat}
    (hfinish : w.finish d = (.ok n, d')) :
    n = frames.length ∧ d'.Leads (Name.ofText path) id ∧
      octets (d'.content id) = initial ++ joined frames := by
  unfold SegmentWriter.finish at hfinish
  rcases hflush : w.flush d with ⟨_ | _, flushed, last⟩
  · rw [hflush] at hfinish
    exact nomatch (Prod.mk.inj hfinish).1
  · rw [hflush] at hfinish
    obtain ⟨hlags, hkept, hempty⟩ := h.flush hflush
    have hagain : flushed.file.flush last = (.ok (), flushed.file, last) := if_pos hempty
    have hdrop : flushed.drop last = last := congrArg (fun out => out.2.2) hagain
    obtain ⟨hn, rfl⟩ := Prod.mk.inj hfinish
    rw [hdrop]
    exact ⟨(Except.ok.inj hn).symm.trans hlags.records_eq, hkept.lodged.leads, hkept.content_eq⟩

end Lags

/-! ## Opening -/

theorem openAt_eq_ok {step : Superstep} {mode : WriteMode}
    (hopen : openAt path step mode d = (.ok w, d')) : ∃ h,
      (makeParent path d).2.openForWriting (Name.ofText path) mode = (.ok h, d') ∧
        w = ⟨path, step, .ofHandle h, 0, 0⟩ := by
  unfold openAt at hopen
  rcases hmake : makeParent path d with ⟨_ | _, made⟩
  · rw [hmake] at hopen
    exact nomatch (Prod.mk.inj hopen).1
  · rw [hmake] at hopen
    dsimp only at hopen ⊢
    rcases hfile : made.openForWriting (Name.ofText path) mode with ⟨_ | h, last⟩
    · rw [hfile] at hopen
      exact nomatch (Prod.mk.inj hopen).1
    · rw [hfile] at hopen
      obtain ⟨hw, rfl⟩ := Prod.mk.inj hopen
      exact ⟨h, rfl, (Except.ok.inj hw).symm⟩

/-- A segment that was opened goes back to no frame yet. -/
theorem openAt_lags (hd : d.Stored) {step : Superstep} {mode : WriteMode}
    (hopen : openAt path step mode d = (.ok w, d₀)) (hfile : w.file.handle.target ≠ .device) :
    ∃ id, (makeParent path d).2.Reached (Name.ofText path) mode d₀ id ∧
      w.Lags d₀ path id (octets (d₀.content id)) [] := by
  obtain ⟨h, hhandle, rfl⟩ := openAt_eq_ok hopen
  have hmade := (makeParent_lays path d).stored hd
  obtain ⟨id, rfl, hreached⟩ := Disk.openForWriting_reached hmade hhandle hfile
  have hend : d₀.AtEnd ⟨.file id, mode, 0⟩ id := by
    refine ⟨rfl, fun hmode => ?_⟩
    obtain rfl : mode = .truncate := hmode
    rw [hreached.content_eq]
    rfl
  exact ⟨id, hreached, rfl, rfl, [], [], rfl, ⟨hreached.leads, hend⟩, hreached.id_lt,
    (List.append_nil _).symm, rfl⟩

/-! ## Calls that do not fail -/

theorem call_works (hd : d.Healthy) (h : w.Lodged d id) (use : SegmentCall) :
    ∃ w' d', call (w, d) use = (.ok (), w', d') ∧ d'.Healthy ∧ w'.Lodged d' id := by
  cases use with
  | frame bytes =>
    obtain ⟨w', d', hwrite, hpath, -, htakes⟩ := write_works hd h bytes
    refine ⟨w', d', hwrite, htakes.healthy, ?_⟩
    rw [Lodged, hpath]
    exact htakes.lodged
  | flush =>
    obtain ⟨file, d', hflush, htakes, -⟩ := BufferedFile.flush_works hd h
    refine ⟨{ w with file := file }, d', ?_, htakes.healthy, htakes.lodged⟩
    show w.flush d = _
    unfold SegmentWriter.flush
    rw [hflush]

theorem callAll_works (hd : d.Healthy) (h : w.Lodged d id) (calls : List SegmentCall) :
    ∃ w' d', callAll (w, d) calls = (.ok (), w', d') ∧ d'.Healthy ∧ w'.Lodged d' id := by
  induction calls generalizing w d with
  | nil => exact ⟨w, d, rfl, hd, h⟩
  | cons use uses ih =>
    obtain ⟨w', d', hcall, hd', h'⟩ := call_works hd h use
    rw [callAll, hcall]
    exact ih hd' h'

/-! ## Reading what was written -/

/-- A file that holds the frames of some payloads is read to its end. -/
theorem readAll_of_leads {payloads : List ByteArray} (hleads : d.Leads (Name.ofText path) id)
    (hfit : Fit payloads) (hcontent : octets (d.content id) = framesOf payloads) :
    ∃ reader, SegmentReader.openAt path d = .ok reader ∧ reader.readAll.1 = .ok payloads := by
  obtain ⟨reader, hopen, hat⟩ := SegmentReader.openAt_of_leads hleads
  rw [hcontent] at hat
  exact ⟨reader, hopen, SegmentReader.readAll_framesOf hfit hat⟩

/-- **Segments are readable at every moment.** Let a segment be opened, at the end of what its file
holds or on an empty file, and let frames be written to it and the file be brought up to date in any
order, so that no call fails. The writer has counted the frames and their bytes. The file holds what
it held at first and then the first of the frames, all of them after a flush and when the segment is
finished. So if there were whole frames at first, a reader finds these, then the first ones that
were written, and then the end. On a healthy disk no call fails. -/
theorem readable_run {step : Superstep} {mode : WriteMode} (hd : d.Stored)
    (hopen : openAt path step mode d = (.ok w, d₀)) (hfile : w.file.handle.target ≠ .device) :
    ∃ initial, d₀.dataAt (Name.ofText path) = .ok initial ∧
      (mode = .truncate → initial = ByteArray.empty) ∧
      (mode = .append → initial =
        ((makeParent path d).2.dataAt (Name.ofText path)).toOption.getD ByteArray.empty) ∧
      (∀ calls w' d', callAll (w, d₀) calls = (.ok (), w', d') →
        let frames := SegmentCall.frames calls
        w'.records = frames.length ∧ w'.bytes = (frames.map ByteArray.size).sum ∧
        (∃ kept later data, kept ++ later = frames ∧ (calls.getLast? = some .flush → later = []) ∧
          d'.dataAt (Name.ofText path) = .ok data ∧
          octets data = octets initial ++ joined kept ∧
          ∀ before payloads, Fit (before ++ payloads) → octets initial = framesOf before →
            frames.map octets = payloads.map (fun payload => frameOf (octets payload)) →
            ∃ reader, SegmentReader.openAt path d' = .ok reader ∧
              reader.readAll.1 = .ok (before ++ payloads.take kept.length)) ∧
        ∀ n d'', w'.finish d' = (.ok n, d'') → n = frames.length ∧
          ∃ data, d''.dataAt (Name.ofText path) = .ok data ∧
            octets data = octets initial ++ joined frames ∧
          ∀ before payloads, Fit (before ++ payloads) → octets initial = framesOf before →
            frames.map octets = payloads.map (fun payload => frameOf (octets payload)) →
            ∃ reader, SegmentReader.openAt path d'' = .ok reader ∧
              reader.readAll.1 = .ok (before ++ payloads)) ∧
      (d.Healthy → ∀ calls, ∃ w' d', callAll (w, d₀) calls = (.ok (), w', d') ∧
        (w'.finish d').1.isOk = true) := by
  obtain ⟨id, hreached, hlags⟩ := openAt_lags hd hopen hfile
  have hdata {d : Disk} (hleads : d.Leads (Name.ofText path) id) :
      d.dataAt (Name.ofText path) = .ok (d.content id) := Disk.dataAt_eq_ok_iff.2 hleads.file?_eq
  refine ⟨d₀.content id, hdata hreached.leads, fun hmode => ?truncated, fun hmode => ?appended,
    fun calls w' d' hcalls => ?written, fun hhealthy calls => ?works⟩
  case truncated =>
    subst hmode
    exact hreached.content_eq
  case appended =>
    subst hmode
    rw [Disk.toOption_dataAt]
    exact hreached.content_eq
  case written =>
    have hlags' := hlags.callAll hcalls
    refine ⟨hlags'.records_eq, hlags'.bytes_eq, ?_, fun n d'' hfinish => ?_⟩
    · -- after a flush it is all of the frames that are kept
      obtain ⟨kept, later, hsplit, hlast, hkept⟩ : ∃ kept later,
          kept ++ later = SegmentCall.frames calls ∧ (calls.getLast? = some .flush → later = []) ∧
          w'.file.Lags d' (Name.ofText path) id (octets (d₀.content id)) kept later := by
        by_cases hflush : calls.getLast? = some .flush
        · exact ⟨_, [], List.append_nil _, fun _ => rfl, hlags.kept_of_flush hcalls hflush⟩
        · obtain ⟨kept, later, hsplit, hkept⟩ := hlags'.split
          exact ⟨kept, later, hsplit, fun h => absurd h hflush, hkept⟩
      have hleads := hkept.lodged.leads
      refine ⟨kept, later, _, hsplit, hlast, hdata hleads, hkept.content_eq, ?_⟩
      intro before payloads hfit hbefore hframes
      have htake : joined kept = framesOf (payloads.take kept.length) := by
        have hkept : kept = (SegmentCall.frames calls).take kept.length := by
          rw [← hsplit, List.take_left]
        rw [framesOf, List.map_take, ← hframes, ← List.map_take, ← hkept, joined]
      refine readAll_of_leads hleads (fun payload hpayload => hfit payload ?_) ?_
      · rcases List.mem_append.1 hpayload with h | h
        · exact List.mem_append_left _ h
        · exact List.mem_append_right _ (List.mem_of_mem_take h)
      · rw [hkept.content_eq, hbefore, htake, framesOf_append]
    · obtain ⟨hn, hleads, hcontent⟩ := hlags'.finish hfinish
      refine ⟨hn, _, hdata hleads, hcontent, fun before payloads hfit hbefore hframes => ?_⟩
      refine readAll_of_leads hleads hfit ?_
      rw [hcontent, hbefore, joined, hframes, framesOf_append]
      rfl
  case works =>
    obtain ⟨h, hhandle, rfl⟩ := openAt_eq_ok hopen
    obtain ⟨front, name, hpath⟩ := Disk.endsIn_of_openForWriting hhandle
    obtain ⟨id', hstarted⟩ := openAt_works hhealthy hpath hopen
    obtain ⟨w', d', hcalls, hd', hlodged⟩ := callAll_works hstarted.healthy hstarted.lodged calls
    obtain ⟨n, d'', hfinish, -⟩ := finish_works hd' hlodged
    refine ⟨w', d', hcalls, ?_⟩
    rw [hfinish]
    rfl

/-- Two frames in a new segment, read after a flush. -/
theorem readable_run_small :
    let frame (payload : ByteArray) := pack (frameOf (octets payload))
    let calls : List SegmentCall := [.frame (frame (pack [7])), .frame (frame (pack [8, 9])), .flush]
    ∃ w d₀ w' d' reader, openAt "log/seg" ⟨4⟩ .truncate Disk.empty = (.ok w, d₀) ∧
      callAll (w, d₀) calls = (.ok (), w', d') ∧
      SegmentReader.openAt "log/seg" d' = .ok reader ∧
      reader.readAll.1 = .ok [pack [7], pack [8, 9]] := by
  intro frame calls
  have hopens : ((openAt "log/seg" ⟨4⟩ .truncate Disk.empty).1.toOption.map
      fun w => w.file.handle.target) = some (.file 0) := by decide +kernel
  rcases hopen : openAt "log/seg" ⟨4⟩ .truncate Disk.empty with ⟨_ | w, d₀⟩
  · rw [hopen] at hopens
    exact nomatch hopens
  · rw [hopen] at hopens
    have htarget : w.file.handle.target = .file 0 := Option.some.inj hopens
    have hfile : w.file.handle.target ≠ .device := fun hdevice =>
      nomatch htarget.symm.trans hdevice
    have hstored : Disk.empty.Stored := fun _ _ => Disk.healthy_empty.id_lt
    obtain ⟨initial, -, hempty, -, hrun, hworks⟩ := readable_run hstored hopen hfile
    obtain ⟨w', d', hcalls, -⟩ := hworks Disk.healthy_empty calls
    obtain ⟨-, -, ⟨kept, later, data, hsplit, hlast, -, -, hread⟩, -⟩ := hrun calls w' d' hcalls
    obtain rfl := hlast rfl
    rw [List.append_nil] at hsplit
    have hfit : Fit ([] ++ [pack [7], pack [8, 9]]) := by
      intro payload hpayload
      rcases List.mem_pair.1 hpayload with rfl | rfl <;> decide
    obtain ⟨reader, hreader, hall⟩ := hread [] [pack [7], pack [8, 9]] hfit
      (by rw [hempty rfl]; rfl) (by decide +kernel)
    rw [hsplit] at hall
    exact ⟨w, d₀, w', d', reader, rfl, hcalls, hreader, hall⟩

end SegmentWriter

end Fanout
