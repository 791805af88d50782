import Fanout.Proofs.Recovery.Shutting
import Fanout.Proofs.Recovery.Visits
import Fanout.Proofs.Segment.Opening

/-!
# What a recovery log keeps

On a healthy disk that nobody else writes to, the segments of a recovery log hold the frames that it
logged: each segment those of the last visit that its channel paid to its superstep, all other files
are as they were (`Keeps`).

* `Keeps.logFrame` — a frame keeps this up, whether or not it is logged.
* `Keeps.finishAll` — so does the end of the segments, after which no segment is open.
-/

namespace Fanout

open Disk (EndsIn)
open BufferedFile (Takes)

/-- The path of a segment as the disk sees it. -/
def LogScope.file (scope : LogScope) (c : ChannelId) (s : Superstep) : List UInt8 :=
  Name.ofText (scope.path c s)

/-- A frame that was logged. -/
structure Copy where
  channel : ChannelId
  superstep : Superstep
  bytes : List UInt8
  deriving DecidableEq

/-- The copies of a channel, by their superstep. -/
def copiesOn (c : ChannelId) (copies : List Copy) : List (Superstep × List UInt8) :=
  (copies.filter fun copy => copy.channel = c).map fun copy => (copy.superstep, copy.bytes)

/-- What a segment is to hold: the frames of the last visit, one after the other. -/
def segmentOf (c : ChannelId) (s : Superstep) (copies : List Copy) : List UInt8 :=
  (lastVisit s (copiesOn c copies)).flatten

/-! ## Copies -/

variable {copies : List Copy} {c c' : ChannelId} {s s' : Superstep} {bytes : List UInt8}

theorem copiesOn_concat_self (copies : List Copy) (c : ChannelId) (s : Superstep)
    (bytes : List UInt8) :
    copiesOn c (copies ++ [⟨c, s, bytes⟩]) = copiesOn c copies ++ [(s, bytes)] := by
  simp [copiesOn]

theorem copiesOn_concat_of_ne (h : c ≠ c') (copies : List Copy) (s : Superstep)
    (bytes : List UInt8) : copiesOn c' (copies ++ [⟨c, s, bytes⟩]) = copiesOn c' copies := by
  simp [copiesOn, h]

theorem segmentOf_concat_of_ne (h : ¬(c = c' ∧ s = s')) (copies : List Copy)
    (bytes : List UInt8) :
    segmentOf c' s' (copies ++ [⟨c, s, bytes⟩]) = segmentOf c' s' copies := by
  unfold segmentOf
  by_cases hc : c = c'
  · subst hc
    rw [copiesOn_concat_self, lastVisit_concat_of_ne fun hs => h ⟨rfl, hs⟩]
  · rw [copiesOn_concat_of_ne hc]

theorem segmentOf_concat_of_lastStep_eq (h : lastStep (copiesOn c copies) = some s)
    (bytes : List UInt8) :
    segmentOf c s (copies ++ [⟨c, s, bytes⟩]) = segmentOf c s copies ++ bytes := by
  rw [segmentOf, copiesOn_concat_self, lastVisit_concat_of_lastStep_eq h, List.flatten_append,
    segmentOf]
  simp

theorem segmentOf_concat_of_lastStep_ne (h : lastStep (copiesOn c copies) ≠ some s)
    (bytes : List UInt8) : segmentOf c s (copies ++ [⟨c, s, bytes⟩]) = bytes := by
  rw [segmentOf, copiesOn_concat_self, lastVisit_concat_of_lastStep_ne h]
  simp

/-- The segment of a superstep that its channel does not return to holds all its copies. -/
theorem segmentOf_of_notRevisited (h : NotRevisited s (copiesOn c copies)) :
    segmentOf c s copies = ((copies.filter fun copy =>
      copy.channel = c ∧ copy.superstep = s).map Copy.bytes).flatten := by
  rw [segmentOf, lastVisit_eq_filter h, copiesOn, List.filter_map, List.filter_filter, List.map_map]
  simp only [Function.comp_def, Bool.decide_and, Bool.and_comm]

/-- The last superstep of a channel is one of its copies. -/
theorem exists_copy_of_lastStep (h : lastStep (copiesOn c copies) = some s) :
    ∃ copy ∈ copies, copy.channel = c ∧ copy.superstep = s := by
  obtain ⟨entry, hentry, rfl⟩ := Option.map_eq_some_iff.1 h
  obtain ⟨copy, hcopy, rfl⟩ := List.mem_map.1 (List.mem_of_getLast? hentry)
  obtain ⟨hmem, hchannel⟩ := List.mem_filter.1 hcopy
  exact ⟨copy, hmem, of_decide_eq_true hchannel, rfl⟩

/-! ## Segments side by side -/

namespace LogScope

variable {scope : LogScope} {d d' : Disk} {id : Nat}

/-- Writing one segment does not touch the file of another. -/
theorem content_eq (halters : d.Alters (scope.file c s) d') (hne : ¬(c = c' ∧ s = s'))
    (hleads : d.Leads (scope.file c' s') id) : d'.content id = d.content id := by
  obtain ⟨front, last, hends⟩ := scope.endsIn_path
  exact halters.content_eq (hends c s) (hends c' s') (SegmentName.name_ne hne) hleads

theorem frame {w : SegmentWriter} (halters : d.Alters (scope.file c s) d')
    (hne : ¬(c = c' ∧ s = s')) (hpath : w.path = scope.path c' s') (h : w.Lodged d id) :
    w.Lodged d' id ∧ w.written d' id = w.written d id := by
  obtain ⟨front, last, hends⟩ := scope.endsIn_path
  have hends' : EndsIn (Name.ofText w.path) front
      (last ++ Name.ofText (String.ofList (SegmentName.tail c' s'))) := by
    rw [hpath]
    exact hends c' s'
  exact BufferedFile.Lodged.frame h halters hends' (hends c s) (SegmentName.name_ne hne)

end LogScope

namespace RecoveryLog

variable {scope : LogScope} {l l' : RecoveryLog} {d d' d₀ : Disk}

/-- The open segment of a channel is the one of its latest superstep, and what was logged there is
written or collected. -/
structure Open (scope : LogScope) (copies : List Copy) (c : ChannelId) (w : SegmentWriter)
    (d : Disk) : Prop where
  path_eq : w.path = scope.path c w.superstep
  latest : lastStep (copiesOn c copies) = some w.superstep
  lodged : ∃ id, w.Lodged d id ∧ w.written d id = segmentOf c w.superstep copies

/-- The segment of a channel and a superstep is complete on the disk. -/
def Closed (scope : LogScope) (copies : List Copy) (c : ChannelId) (s : Superstep) (d : Disk) :
    Prop :=
  ∃ id, d.Leads (scope.file c s) id ∧ octets (d.content id) = segmentOf c s copies

/-- **The log keeps what it logged**, on a disk that started as `d₀`: each segment of which a frame
was logged is open or complete, and no other file has changed. -/
structure Keeps (scope : LogScope) (d₀ : Disk) (copies : List Copy) (l : RecoveryLog) (d : Disk) :
    Prop where
  isFor : l.IsFor scope
  healthy : d.Healthy
  latest_eq (c : ChannelId) : (l.channel c).latest = lastStep (copiesOn c copies)
  opened {c : ChannelId} {w : SegmentWriter} : (l.channel c).segment = some w →
    Open scope copies c w d
  closed {copy : Copy} : copy ∈ copies →
    (∀ w, (l.channel copy.channel).segment = some w → w.superstep ≠ copy.superstep) →
    Closed scope copies copy.channel copy.superstep d
  untouched {place : Location} :
    (∀ copy ∈ copies, d.find (scope.file copy.channel copy.superstep) ≠ .ok place) →
    d.fileAt place = d₀.fileAt place

theorem Open.frame {w : SegmentWriter} (h : Open scope copies c' w d)
    (halters : d.Alters (scope.file c s) d') (hne : ¬(c = c' ∧ s = w.superstep)) :
    Open scope copies c' w d' := by
  obtain ⟨id, hlodged, hwritten⟩ := h.lodged
  obtain ⟨hlodged', hsame⟩ := LogScope.frame halters hne h.path_eq hlodged
  exact ⟨h.path_eq, h.latest, id, hlodged', hsame.trans hwritten⟩

theorem Closed.frame (h : Closed scope copies c' s' d) (halters : d.Alters (scope.file c s) d')
    (hne : ¬(c = c' ∧ s = s')) : Closed scope copies c' s' d' := by
  obtain ⟨id, hleads, hcontent⟩ := h
  refine ⟨id, hleads.grows halters.grows, ?_⟩
  rw [LogScope.content_eq halters hne hleads, hcontent]

theorem Open.lays {w : SegmentWriter} (h : Open scope copies c w d) (hlays : d.Lays d') :
    Open scope copies c w d' := by
  obtain ⟨id, hlodged, hwritten⟩ := h.lodged
  refine ⟨h.path_eq, h.latest, id, ⟨hlodged.leads.grows hlays.grows, hlodged.atEnd.target_eq,
    fun hmode => ?_⟩, ?_⟩
  · rw [hlays.content_eq]
    exact hlodged.atEnd.position_eq hmode
  · rw [← hwritten, SegmentWriter.written, BufferedFile.written, hlays.content_eq]
    rfl

theorem Closed.lays (h : Closed scope copies c s d) (hlays : d.Lays d') :
    Closed scope copies c s d' := by
  obtain ⟨id, hleads, hcontent⟩ := h
  exact ⟨id, hleads.grows hlays.grows, hlays.content_eq id ▸ hcontent⟩

theorem Open.concat {w : SegmentWriter} (h : Open scope copies c' w d) (hne : c ≠ c')
    (bytes : List UInt8) : Open scope (copies ++ [⟨c, s, bytes⟩]) c' w d := by
  obtain ⟨id, hlodged, hwritten⟩ := h.lodged
  refine ⟨h.path_eq, ?_, id, hlodged, ?_⟩
  · rw [copiesOn_concat_of_ne hne, h.latest]
  · rw [segmentOf_concat_of_ne fun heq => hne heq.1, hwritten]

theorem Closed.concat (h : Closed scope copies c' s' d) (hne : ¬(c = c' ∧ s = s'))
    (bytes : List UInt8) : Closed scope (copies ++ [⟨c, s, bytes⟩]) c' s' d := by
  obtain ⟨id, hleads, hcontent⟩ := h
  exact ⟨id, hleads, hcontent.trans (segmentOf_concat_of_ne hne copies bytes).symm⟩

namespace Keeps

/-- A new log has logged nothing. -/
theorem start (scope : LogScope) (hd : d.Healthy) : Keeps scope d [] (make scope) d := by
  have hchannel (c : ChannelId) : (make scope).channel c = ChannelLog.start := by
    rw [channel, make, List.getElem?_replicate]
    split <;> rfl
  refine ⟨isFor_make scope, hd, fun c => ?_, fun {c w} hw => ?_, fun hcopy => ?_, fun _ => rfl⟩
  · rw [hchannel]
    rfl
  · rw [hchannel] at hw
    cases hw
  · exact absurd hcopy List.not_mem_nil

/-- Counters, and marks of segments that failed, are no part of what is kept. -/
theorem congr (h : Keeps scope d₀ copies l d) (hfor : l'.IsFor scope)
    (hsegment : ∀ c, (l'.channel c).segment = (l.channel c).segment)
    (hlatest : ∀ c, (l'.channel c).latest = (l.channel c).latest) :
    Keeps scope d₀ copies l' d :=
  ⟨hfor, h.healthy, fun c => (hlatest c).trans (h.latest_eq c),
    fun hw => h.opened ((hsegment _).symm.trans hw),
    fun hcopy hother => h.closed hcopy fun w hw => hother w ((hsegment _).trans hw), h.untouched⟩

/-- Directories that were made are no part of what is kept. -/
theorem lays (h : Keeps scope d₀ copies l d) (hlays : d.Lays d') : Keeps scope d₀ copies l d' := by
  refine ⟨h.isFor, hlays.healthy h.healthy, h.latest_eq, fun hw => (h.opened hw).lays hlays,
    fun hcopy hother => (h.closed hcopy hother).lays hlays, fun {place} hplace => ?_⟩
  rw [hlays.fileAt_eq, h.untouched fun copy hcopy hfind => hplace copy hcopy (hlays.grows.find hfind)]

/-- One more frame was logged, to a segment that is open now. -/
theorem concat {w : SegmentWriter} {id : Nat} (h : Keeps scope d₀ copies l d)
    (hfor : l'.IsFor scope) (hd' : d'.Healthy) (halters : d.Alters (scope.file c s) d')
    (hother : ∀ c', c ≠ c' → l'.channel c' = l.channel c')
    (hsegment : (l'.channel c).segment = some w) (hlatest : (l'.channel c).latest = some s)
    (hbefore : ∀ w', (l.channel c).segment = some w' → w'.superstep = s)
    (hpath : w.path = scope.path c s) (hstep : w.superstep = s) (hlodged : w.Lodged d' id)
    (hwritten : w.written d' id = segmentOf c s (copies ++ [⟨c, s, bytes⟩])) :
    Keeps scope d₀ (copies ++ [⟨c, s, bytes⟩]) l' d' := by
  have hlast : lastStep (copiesOn c (copies ++ [⟨c, s, bytes⟩])) = some s := by
    rw [copiesOn_concat_self, lastStep_concat]
  refine ⟨hfor, hd', fun c' => ?_, fun {c' w'} hw' => ?_, fun {copy} hcopy hclosed => ?_,
    fun {place} hplace => ?_⟩
  · by_cases hne : c = c'
    · rw [← hne, hlatest, hlast]
    · rw [hother c' hne, copiesOn_concat_of_ne hne, h.latest_eq]
  · by_cases hne : c = c'
    · subst hne
      rw [hsegment] at hw'
      obtain rfl := Option.some.inj hw'
      subst hstep
      exact ⟨hpath, hlast, id, hlodged, hwritten⟩
    · rw [hother c' hne] at hw'
      exact ((h.opened hw').frame halters fun heq => hne heq.1).concat hne bytes
  · -- the segment of the new frame is open, so this one is another
    have hsame : ¬(c = copy.channel ∧ s = copy.superstep) := by
      rintro ⟨rfl, rfl⟩
      exact hclosed w hsegment hstep
    have hmem : copy ∈ copies := by
      rcases List.mem_append.1 hcopy with hmem | hmem
      · exact hmem
      · obtain rfl := List.mem_singleton.1 hmem
        exact absurd ⟨rfl, rfl⟩ hsame
    refine ((h.closed hmem fun w' hw' => ?_).frame halters hsame).concat hsame bytes
    by_cases hne : c = copy.channel
    · rw [← hne] at hw'
      rw [hbefore w' hw']
      exact fun hs => hsame ⟨hne, hs⟩
    · refine hclosed w' ?_
      rw [hother _ hne]
      exact hw'
  · have hnew := hplace ⟨c, s, bytes⟩ (List.mem_append_right _ List.mem_cons_self)
    rw [halters.fileAt_eq hnew, h.untouched fun copy hcopy hfound =>
      hplace copy (List.mem_append_left _ hcopy) (halters.grows.find hfound)]

/-- The end of an open segment. -/
theorem close {w : SegmentWriter} (h : Keeps scope d₀ copies l d)
    (hw : (l.channel c).segment = some w) (now : Duration) :
    Keeps scope d₀ copies
      ((l.setChannel c { l.channel c with segment := none }).finishSegment now w d).1
      ((l.setChannel c { l.channel c with segment := none }).finishSegment now w d).2 ∧
    ((l.setChannel c { l.channel c with segment := none }).finishSegment now w d).1 =
      l.setChannel c { l.channel c with segment := none } := by
  have hopen := h.opened hw
  obtain ⟨id, hlodged, hwritten⟩ := hopen.lodged
  obtain ⟨n, d', hfinish, hhealthy, halters, hleads, hcontent⟩ :=
    SegmentWriter.finish_works h.healthy hlodged
  have hin := lt_of_segment hw
  have hself := channel_setChannel_self hin { l.channel c with segment := none }
  have hother {c' : ChannelId} (hne : c ≠ c') :=
    channel_setChannel_of_ne (l := l) hne { l.channel c with segment := none }
  rw [hopen.path_eq] at halters hleads
  simp only [finishSegment, hfinish, and_true]
  refine ⟨(IsFor.lasting c).setChannel _ h.isFor, hhealthy, fun c' => ?_, fun {c' w'} hw' => ?_,
    fun {copy} hcopy hclosed => ?_, fun {place} hplace => ?_⟩
  · by_cases hne : c = c'
    · subst hne
      rw [hself]
      exact h.latest_eq c
    · rw [hother hne]
      exact h.latest_eq c'
  · by_cases hne : c = c'
    · subst hne
      rw [hself] at hw'
      exact nomatch hw'
    · rw [hother hne] at hw'
      exact (h.opened hw').frame halters fun heq => hne heq.1
  · by_cases hsame : c = copy.channel ∧ w.superstep = copy.superstep
    · -- the segment that was closed
      rw [← hsame.1, ← hsame.2]
      exact ⟨id, hleads, hcontent.trans hwritten⟩
    · refine (h.closed hcopy fun w' hw' => ?_).frame halters hsame
      by_cases hne : c = copy.channel
      · rw [← hne, hw] at hw'
        obtain rfl := Option.some.inj hw'
        exact fun hstep => hsame ⟨hne, hstep⟩
      · refine hclosed w' ?_
        rw [hother hne]
        exact hw'
  · obtain ⟨copy, hcopy, hchannel, hstep⟩ := exists_copy_of_lastStep hopen.latest
    have hfind := hplace copy hcopy
    rw [hchannel, hstep] at hfind
    rw [halters.fileAt_eq hfind, h.untouched fun copy hcopy hfound =>
      hplace copy hcopy (halters.grows.find hfound)]

/-- Before a frame of a superstep is logged, the segment of another one is closed. -/
theorem leaveSegment (h : Keeps scope d₀ copies l d) (now : Duration) (c : ChannelId)
    (s : Superstep) :
    Keeps scope d₀ copies (l.leaveSegment now c s d).1 (l.leaveSegment now c s d).2 ∧
    ∀ w, ((l.leaveSegment now c s d).1.channel c).segment = some w → w.superstep = s := by
  unfold RecoveryLog.leaveSegment
  cases hw : (l.channel c).segment with
  | none => exact ⟨h, fun w hw' => nomatch hw.symm.trans hw'⟩
  | some w =>
    dsimp only
    by_cases hsame : w.superstep = s
    · rw [if_pos hsame]
      exact ⟨h, fun w' hw' => Option.some.inj (hw.symm.trans hw') ▸ hsame⟩
    · rw [if_neg hsame]
      obtain ⟨hclosed, hlog⟩ := h.close hw now
      refine ⟨hclosed, fun w' hw' => ?_⟩
      rw [hlog, channel_setChannel_self (lt_of_segment hw)] at hw'
      exact nomatch hw'

/-- A frame is written to a segment that has what was logged there before. -/
theorem writeFrame_lodged {w : SegmentWriter} {id : Nat} (h : Keeps scope d₀ copies l d)
    (hfor : l'.IsFor scope) (hd' : d'.Healthy) (halters : d.Alters (scope.file c s) d')
    (hin : c.toNat < l'.channels.length) (hother : ∀ c', c ≠ c' → l'.channel c' = l.channel c')
    (hlatest : (l'.channel c).latest = some s)
    (hbefore : ∀ w', (l.channel c).segment = some w' → w'.superstep = s)
    (hpath : w.path = scope.path c s) (hstep : w.superstep = s) (hlodged : w.Lodged d' id)
    (now : Duration) {frame : ByteArray}
    (hwritten : w.written d' id ++ octets frame =
      segmentOf c s (copies ++ [⟨c, s, octets frame⟩])) :
    (l'.writeFrame now c s w frame d').1 = .logged ∧
    Keeps scope d₀ (copies ++ [⟨c, s, octets frame⟩]) (l'.writeFrame now c s w frame d').2.1
      (l'.writeFrame now c s w frame d').2.2 := by
  obtain ⟨w', d'', hwrite, hpath', hstep', htakes⟩ := SegmentWriter.write_works hd' hlodged frame
  have hfor' := (IsFor.lasting c).writeFrame now d' hfor s w frame
  have hself := channel_setChannel_self hin { l'.channel c with segment := some w' }
  have hlodged' : w'.Lodged d'' id := by
    rw [SegmentWriter.Lodged, hpath']
    exact htakes.lodged
  have halters' := htakes.alters
  rw [hpath] at halters'
  unfold RecoveryLog.writeFrame at hfor' ⊢
  rw [hwrite] at hfor' ⊢
  refine ⟨rfl, h.concat hfor' htakes.healthy (halters.trans halters') (fun c' hne => ?_) ?_ ?_
    hbefore (hpath'.trans hpath) (hstep'.trans hstep) hlodged' (htakes.written_eq.trans hwritten)⟩
  · exact (channel_setChannel_of_ne hne _).trans (hother c' hne)
  · exact congrArg ChannelLog.segment hself
  · exact (congrArg ChannelLog.latest hself).trans hlatest

/-- A frame is written to the segment of its superstep, which is open. -/
theorem writeFrame {w : SegmentWriter} (h : Keeps scope d₀ copies l d)
    (hw : (l.channel c).segment = some w) (hstep : w.superstep = s) (now : Duration)
    (frame : ByteArray) :
    (l.writeFrame now c s w frame d).1 = .logged ∧
    Keeps scope d₀ (copies ++ [⟨c, s, octets frame⟩]) (l.writeFrame now c s w frame d).2.1
      (l.writeFrame now c s w frame d).2.2 := by
  subst hstep
  have hopen := h.opened hw
  obtain ⟨id, hlodged, hwritten⟩ := hopen.lodged
  refine h.writeFrame_lodged h.isFor h.healthy ((Disk.Lays.refl d).alters _) (lt_of_segment hw)
    (fun _ _ => rfl) ((h.latest_eq c).trans hopen.latest) (fun w' hw' => ?_) hopen.path_eq rfl
    hlodged now ?_
  · exact Option.some.inj (hw.symm.trans hw') ▸ rfl
  · rw [segmentOf_concat_of_lastStep_eq hopen.latest, hwritten]

theorem segmentPath_eq (h : Keeps scope d₀ copies l d) (c : ChannelId) (s : Superstep) :
    l.segmentPath c s = scope.path c s := by
  rw [segmentPath, h.isFor.scope_eq, LogScope.path]

/-- A segment that cannot be opened. -/
theorem openSegment_failed (h : Keeps scope d₀ copies l d) {now : Duration}
    (hin : c.toNat < l.channels.length)
    (hopen : l.openSegment now c s d = (none, l', d')) : Keeps scope d₀ copies l' d' := by
  have hfor := (IsFor.lasting c).openSegment now d h.isFor s
  rw [hopen] at hfor
  unfold RecoveryLog.openSegment at hopen
  dsimp only at hopen
  split at hopen
  · exact nomatch (Prod.mk.inj hopen).1
  · rename_i hfailed
    obtain ⟨_, hrest⟩ := Prod.mk.inj hopen
    obtain ⟨rfl, rfl⟩ := Prod.mk.inj hrest
    have hself := channel_setChannel_self hin { l.channel c with broken := some s }
    have hother {c' : ChannelId} (hne : c ≠ c') :=
      channel_setChannel_of_ne (l := l) hne { l.channel c with broken := some s }
    refine (h.lays (SegmentWriter.openAt_lays h.healthy hfailed)).congr hfor (fun c' => ?_)
      fun c' => ?_
    · by_cases hne : c = c'
      · subst hne
        exact (congrArg ChannelLog.segment hself :)
      · exact congrArg ChannelLog.segment (hother hne)
    · by_cases hne : c = c'
      · subst hne
        exact (congrArg ChannelLog.latest hself :)
      · exact congrArg ChannelLog.latest (hother hne)

/-- A new segment starts with what its visit has so far: with nothing, unless the channel goes on
with its latest superstep. -/
theorem started_written {w : SegmentWriter} {id : Nat} (h : Keeps scope d₀ copies l d)
    (hnone : (l.channel c).segment = none)
    (hstarted : SegmentWriter.Started d (scope.path c s) s
      (if (l.channel c).latest = some s then .append else .truncate) w d' id)
    (bytes : List UInt8) :
    w.written d' id ++ bytes = segmentOf c s (copies ++ [⟨c, s, bytes⟩]) := by
  have hlatest := h.latest_eq c
  by_cases hsame : lastStep (copiesOn c copies) = some s
  · -- the segment was closed and is complete on the disk
    obtain ⟨copy, hcopy, rfl, rfl⟩ := exists_copy_of_lastStep hsame
    obtain ⟨before, hleads, hcontent⟩ :=
      h.closed hcopy fun w' hw' => nomatch hnone.symm.trans hw'
    have hmode : (if (l.channel copy.channel).latest = some copy.superstep then
        WriteMode.append else WriteMode.truncate) = .append := if_pos (hlatest.trans hsame)
    rw [(hstarted.appended hmode hleads).2, segmentOf_concat_of_lastStep_eq hsame, hcontent]
  · have hmode : (if (l.channel c).latest = some s then WriteMode.append else
        WriteMode.truncate) = .truncate := if_neg (hlatest ▸ hsame)
    rw [hstarted.truncated hmode, segmentOf_concat_of_lastStep_ne hsame]
    rfl

/-- **The first frame in a new segment.** -/
theorem openSegment_writeFrame {w : SegmentWriter} (h : Keeps scope d₀ copies l d)
    {now : Duration} (hin : c.toNat < l.channels.length) (hnone : (l.channel c).segment = none)
    (hopen : l.openSegment now c s d = (some w, l', d')) (frame : ByteArray) :
    (l'.writeFrame now c s w frame d').1 = .logged ∧
    Keeps scope d₀ (copies ++ [⟨c, s, octets frame⟩]) (l'.writeFrame now c s w frame d').2.1
      (l'.writeFrame now c s w frame d').2.2 := by
  have hfor := (IsFor.lasting c).openSegment now d h.isFor s
  rw [hopen] at hfor
  unfold RecoveryLog.openSegment at hopen
  dsimp only at hopen
  split at hopen
  · rename_i hopened
    obtain ⟨hw, hrest⟩ := Prod.mk.inj hopen
    obtain ⟨hl', rfl⟩ := Prod.mk.inj hrest
    obtain rfl := Option.some.inj hw
    rw [h.segmentPath_eq] at hopened
    obtain ⟨front, last, hends⟩ := scope.endsIn_path
    obtain ⟨id, hstarted⟩ := SegmentWriter.openAt_works h.healthy (hends c s) hopened
    have hin' : c.toNat < l'.channels.length := by
      rw [hfor.length_eq, ← h.isFor.length_eq]
      exact hin
    refine h.writeFrame_lodged hfor hstarted.healthy hstarted.alters hin' (fun c' hne => ?_) ?_
      (fun w' hw' => nomatch hnone.symm.trans hw') hstarted.path_eq hstarted.superstep_eq
      hstarted.lodged now (h.started_written hnone hstarted (octets frame))
    · rw [← hl']
      exact channel_setChannel_of_ne hne _
    · rw [← hl']
      exact (congrArg ChannelLog.latest (channel_setChannel_self hin _) :)
  · exact nomatch (Prod.mk.inj hopen).1

/-- **A frame** that is logged is kept, and one that is not changes no segment. -/
theorem logFrame (h : Keeps scope d₀ copies l d) (now : Duration) (c : ChannelId)
    (superstep : Option Superstep) (frame : ByteArray) :
    Keeps scope d₀
      (copies ++ match superstep, (l.logFrame now c superstep frame d).1 with
        | some s, .logged => [⟨c, s, octets frame⟩]
        | _, _ => [])
      (l.logFrame now c superstep frame d).2.1 (l.logFrame now c superstep frame d).2.2 := by
  cases superstep with
  | none => exact (List.append_nil copies).symm ▸ h
  | some s =>
    unfold RecoveryLog.logFrame
    dsimp only
    cases hengaged : l.isEngaged c (some s) with
    | false =>
      rw [if_pos (by rfl)]
      exact (List.append_nil copies).symm ▸ h
    | true =>
      rw [if_neg (by simp)]
      obtain ⟨hleft, hsame⟩ := h.leaveSegment now c s
      rcases hleave : l.leaveSegment now c s d with ⟨l₁, d₁⟩
      rw [hleave] at hleft hsame
      dsimp only at hleft hsame ⊢
      have hin : c.toNat < l₁.channels.length := by
        simp only [isEngaged, Bool.and_eq_true] at hengaged
        rw [hleft.isFor.length_eq, ← h.isFor.length_eq]
        exact of_decide_eq_true hengaged.1.2
      cases hw : (l₁.channel c).segment with
      | some w =>
        obtain ⟨hlogged, hkeeps⟩ := hleft.writeFrame hw (hsame w hw) now frame
        dsimp only
        rw [hlogged]
        exact hkeeps
      | none =>
        dsimp only
        by_cases hbroken : (l₁.channel c).broken = some s
        · rw [if_pos hbroken]
          exact (List.append_nil copies).symm ▸ hleft
        · rw [if_neg hbroken]
          rcases hopen : l₁.openSegment now c s d₁ with ⟨_ | w, l₂, d₂⟩
          · exact (List.append_nil copies).symm ▸ hleft.openSegment_failed hin hopen
          · obtain ⟨hlogged, hkeeps⟩ := hleft.openSegment_writeFrame hin hw hopen frame
            dsimp only
            rw [hlogged]
            exact hkeeps

/-- The end of the segments of some channels: what was logged there is complete. -/
theorem finishFrom (h : Keeps scope d₀ copies l d) (now : Duration) (i n : Nat) :
    Keeps scope d₀ copies (l.finishFrom now i d n).2.1 (l.finishFrom now i d n).2.2 := by
  induction n generalizing l d i with
  | zero => exact h
  | succ n ih =>
    unfold RecoveryLog.finishFrom
    dsimp only
    cases hw : (l.channel (ChannelId.ofNat i)).segment with
    | none => exact ih h (i + 1)
    | some w => exact ih (h.close hw now).1 (i + 1)

/-- **The end of all segments**: none is open. -/
theorem finishAll (h : Keeps scope d₀ copies l d) (now : Duration) :
    Keeps scope d₀ copies (l.finishAll now d).2.1 (l.finishAll now d).2.2 ∧
    ∀ c, ((l.finishAll now d).2.1.channel c).segment = none :=
  ⟨h.finishFrom now 0 _, l.segment_finishAll now d⟩

end Keeps

end RecoveryLog

end Fanout
