import Fanout.Proofs.Writer.Sweeps

/-!
# Operations and runs

An operation is one use of a writer, by its caller or by those around it, and a run is some
operations in a row; no result keeps the next operation from being made. For each operation and each
channel we say what the caller asked for (`entries`), which frames the channel's lane accepted
(`acceptedFrames`), and that the channel takes a course which plays just that (`plays_perform`).
-/

namespace Fanout

/-- One use of a writer: by its caller, or a turn of somebody else. -/
inductive Operation (α : Type) where
  | emit (record : α) (superstep : Option Superstep)
  | broadcast (e : Event)
  | endSuperstep
  | flush
  | close
  | clear
  | drop
  | turn (t : Turn)

namespace Operation

/-- The operations of a producer at work, and turns: those that give up no bytes. -/
def AtWork {α : Type} : Operation α → Prop
  | emit _ _ | broadcast _ | endSuperstep | flush | turn _ => True
  | close | clear | drop => False

/-- The operations of a producer that aborts, and turns: those that add nothing. -/
def Teardown {α : Type} : Operation α → Prop
  | flush | close | clear | drop | turn _ => True
  | emit _ _ | broadcast _ | endSuperstep => False

instance {α : Type} : DecidablePred (AtWork (α := α))
  | emit _ _ | broadcast _ | endSuperstep | flush | turn _ => .isTrue trivial
  | close | clear | drop => .isFalse id

instance {α : Type} : DecidablePred (Teardown (α := α))
  | flush | close | clear | drop | turn _ => .isTrue trivial
  | emit _ _ | broadcast _ | endSuperstep => .isFalse id

end Operation

/-- The channels of a routing, in order and with repetitions. -/
def Routing.targets : Routing → List ChannelId
  | .to targets => targets
  | .filtered | .unrouted => []

namespace Writer

variable {σ : Type} (s : Schema) [ChannelSelector σ s.Value] (w : Writer σ) (c : ChannelId)

/-- Performs an operation: its result, and the writer afterwards. -/
def perform : Operation s.Value → Except WriterError Unit × Writer σ
  | .emit record superstep => w.emit s record superstep
  | .broadcast e => w.broadcast e
  | .endSuperstep => w.endSuperstep
  | .flush => w.flush
  | .close => w.close
  | .clear => (.ok (), w.clear.2)
  | .drop => (.ok (), w.drop)
  | .turn t => (.ok (), w.turn t)

/-- The writer after some operations. -/
def run (ops : List (Operation s.Value)) : Writer σ :=
  ops.foldl (fun w op => (w.perform s op).2) w

/-- What the operations of a run contribute, one after the other. -/
def along {β : Type} (f : Writer σ → Operation s.Value → List β) :
    Writer σ → List (Operation s.Value) → List β
  | _, [] => []
  | w, op :: ops => f w op ++ along f (w.perform s op).2 ops

/-- The property holds of every operation of a run, at the writer that performs it. -/
def Throughout (P : Writer σ → Operation s.Value → Prop) (ops : List (Operation s.Value)) : Prop :=
  ∀ before op, before ++ [op] <+: ops → P (w.run s before) op

/-- Every operation of the run returns without an error. -/
def Succeeds (ops : List (Operation s.Value)) : Prop :=
  w.Throughout s (fun w op => (w.perform s op).1 = .ok ()) ops

/-! ## Seen from a channel -/

/-- What was offered on a channel. -/
def offersTo : List Offer := w.outlet.partition.offersTo c

/-- What was delivered on a channel. -/
def delivered : List Delivery := w.outlet.partition.delivered c

/-- The lane of a channel. -/
def lane : Serializer := laneOf w.lanes c

/-- A channel's side of the writer. -/
def side : Side := ⟨w.offersTo c, (w.lane c).unsent⟩

/-- The channels that a record is routed to, in order and with repetitions. -/
def targets (record : s.Value) (superstep : Option Superstep) : List ChannelId :=
  (w.route record superstep).1.targets

/-- The channels whose lanes accept the frame of a record, in order and with repetitions. -/
def accepting (record : s.Value) (superstep : Option Superstep) : List ChannelId :=
  if w.closed then []
  else match checkSelection (w.targets s record superstep) w.width with
    | .error _ => []
    | .ok () =>
      (serve ((encodeRecord s record).map pack) (w.targets s record superstep) w.lanes w.outlet).1

/-- The frames that the lane of a channel accepts during an operation. -/
def acceptedFrames : Operation s.Value → List (List UInt8)
  | .emit record superstep =>
    match encodeRecord s record with
    | .ok frame =>
      ((w.accepting s record superstep).filter fun channel => channel = c).map fun _ => frame
    | .error _ => []
  | _ => []

/-- The records that an operation routes to a channel, once for each time that it is selected. -/
def routed : Operation s.Value → List s.Value
  | .emit record superstep =>
    ((w.targets s record superstep).filter fun channel => channel = c).map fun _ => record
  | _ => []

/-- What an operation asks for on a channel: the records that it routes there, or a mark. -/
def entries : Operation s.Value → List (Entry s.Value)
  | .emit record superstep => (w.routed s c (.emit record superstep)).map .record
  | .broadcast e => [.mark (.event e)]
  | .endSuperstep => [.mark .endOfSuperstep]
  | _ => []

/-! ## What each operation comes to -/

/-- The script of an operation on a channel: a course that plays it, which holds the accepted frames
and, if the operation succeeds, is all that was asked for. -/
structure Plays (op : Operation s.Value) (script : List (Entry (List UInt8))) : Prop where
  course : Course c script (w.side c) (w.perform s op).1 ((w.perform s op).2.offersTo c)
    ((w.perform s op).2.lane c)
  frames_eq : recordsOf script = w.acceptedFrames s c op
  framed {width : Nat} : (w.perform s op).1 = .ok () → w.outlet.partition.Faithful width →
    c.toNat < width → Framed s (w.entries s c op) script

variable {s w c}

/-- Nothing happens on the channel. -/
theorem Plays.nothing {op : Operation s.Value} (hside : (w.perform s op).2.side c = w.side c)
    (hframes : w.acceptedFrames s c op = [])
    (hentries : (w.perform s op).1 = .ok () → w.entries s c op = []) : w.Plays s c op [] := by
  refine ⟨.smooth _ ?_, hframes.symm, fun hok _ _ => ?_⟩
  · show Smooth c (w.side c) [] ((w.perform s op).2.side c)
    rw [hside]
    exact .refl
  · rw [hentries hok]
    exact .nil

theorem recordsOf_acceptedScript (record : s.Value) (accepted : List ChannelId) :
    recordsOf (acceptedScript c ((encodeRecord s record).map pack) accepted) =
      match encodeRecord s record with
      | .ok frame => (accepted.filter fun channel => channel = c).map fun _ => frame
      | .error _ => [] := by
  cases encodeRecord s record with
  | error cause => rfl
  | ok frame =>
    show recordsOf (List.map (fun _ => Entry.record (octets (pack frame))) _) = _
    rw [octets_pack]
    simp [recordsOf]

theorem framed_acceptedScript {record : s.Value} {frame : List UInt8}
    (h : encodeRecord s record = .ok frame) (accepted : List ChannelId) :
    Framed s (((accepted.filter fun channel => channel = c).map fun _ => record).map .record)
      (acceptedScript c ((encodeRecord s record).map pack) accepted) := by
  rw [h]
  show Framed s _ (List.map (fun _ => Entry.record (octets (pack frame))) _)
  rw [octets_pack, Framed, List.forall₂_map_left_iff, List.forall₂_map_left_iff,
    List.forall₂_map_right_iff, List.forall₂_same]
  exact fun _ _ => .record h

theorem accepting_isPrefix (w : Writer σ) (record : s.Value) (superstep : Option Superstep) :
    w.accepting s record superstep <+: w.targets s record superstep := by
  unfold accepting
  split
  · exact List.nil_prefix
  · split
    · exact List.nil_prefix
    · exact serve_isPrefix _ _ _ _

/-- The frames that a lane accepts are those of records that were routed to its channel. -/
theorem frames_acceptedFrames (w : Writer σ) (c : ChannelId) (op : Operation s.Value) :
    ∃ records, Frames s records (w.acceptedFrames s c op) ∧ records.Sublist (w.routed s c op) := by
  cases op with
  | emit record superstep =>
    cases hencode : encodeRecord s record with
    | error cause =>
      refine ⟨[], ?_, List.nil_sublist _⟩
      simp only [acceptedFrames, hencode]
      exact .nil
    | ok frame =>
      refine ⟨((w.accepting s record superstep).filter fun channel => channel = c).map
        fun _ => record, ?_, ?_⟩
      · simp only [acceptedFrames, hencode]
        rw [Frames, List.forall₂_map_left_iff, List.forall₂_map_right_iff, List.forall₂_same]
        exact fun _ _ => hencode
      · exact ((accepting_isPrefix w record superstep).sublist.filter _).map _
  | broadcast _ | endSuperstep | flush | close | clear | drop | turn _ =>
    exact ⟨[], .nil, List.nil_sublist _⟩

/-- What an emitted record comes to: nothing happens to the lanes, or its frame is served to its
targets and the lanes and the partition are as that leaves them. -/
inductive Emitted (s : Schema) [ChannelSelector σ s.Value] (w : Writer σ) (record : s.Value)
    (superstep : Option Superstep) (out : Except WriterError Unit × Writer σ) : Prop where
  | nowhere : out.2.lanes = w.lanes → out.2.outlet.partition = w.outlet.partition →
    w.accepting s record superstep = [] → (out.1 = .ok () → w.targets s record superstep = []) →
    Emitted s w record superstep out
  | served {o : Outlet} :
    serve ((encodeRecord s record).map pack) (w.targets s record superstep) w.lanes w.outlet =
      (w.accepting s record superstep, out.1, out.2.lanes, o) →
    out.2.outlet.partition = o.partition → Emitted s w record superstep out

theorem emitTo_emitted {record : s.Value} {superstep : Option Superstep} (hopen : w.closed = false)
    {selected : List ChannelId} (htargets : w.targets s record superstep = selected)
    {w' : Writer σ} (hlanes : w'.lanes = w.lanes) (houtlet : w'.outlet = w.outlet) :
    Emitted s w record superstep
      (w'.emitTo ((encodeRecord s record).map pack) superstep selected) := by
  have haccepting : w.accepting s record superstep =
      match checkSelection selected w.width with
      | .error _ => []
      | .ok () => (serve ((encodeRecord s record).map pack) selected w.lanes w.outlet).1 := by
    rw [accepting, hopen, htargets]
    rfl
  have hwidth : w'.width = w.width := congrArg List.length hlanes
  unfold emitTo
  rw [hwidth, hlanes, houtlet]
  cases hcheck : checkSelection selected w.width with
  | error e =>
    rw [hcheck] at haccepting
    exact .nowhere hlanes (congrArg Outlet.partition houtlet) haccepting fun h => nomatch h
  | ok _ =>
    rw [hcheck] at haccepting
    rcases hserve : serve ((encodeRecord s record).map pack) selected w.lanes w.outlet with
      ⟨accepted, r, lanes, o⟩
    rw [hserve] at haccepting
    have hserved : serve ((encodeRecord s record).map pack) (w.targets s record superstep) w.lanes
        w.outlet = (w.accepting s record superstep, r, lanes, o) := by
      rw [htargets, haccepting, hserve]
    cases r with
    | error e => exact .served hserved rfl
    | ok _ => exact .served hserved rfl

/-- **Every emission** goes nowhere or is served. -/
theorem emit_emitted (s : Schema) [ChannelSelector σ s.Value] (w : Writer σ) (record : s.Value)
    (superstep : Option Superstep) :
    Emitted s w record superstep (w.perform s (.emit record superstep)) := by
  show Emitted s w record superstep (w.emit s record superstep)
  unfold emit
  by_cases hclosed : w.closed = true
  · rw [if_pos hclosed]
    exact .nowhere rfl rfl (if_pos hclosed) fun h => nomatch h
  · rw [if_neg hclosed]
    have hopen := Bool.eq_false_iff.2 hclosed
    rcases hroute : w.route record superstep with ⟨routing, selector⟩
    have htargets : w.targets s record superstep = routing.targets := by
      rw [targets, hroute]
    have hnone (h : w.targets s record superstep = []) :
        w.accepting s record superstep = [] := by
      rw [accepting, hopen, h]
      rfl
    rcases routing with _ | _ | selected
    · exact .nowhere rfl rfl (hnone htargets) fun _ => htargets
    · exact .nowhere rfl rfl (hnone htargets) fun _ => htargets
    · exact emitTo_emitted hopen htargets rfl rfl

theorem plays_emit (hc : c.toNat < w.lanes.length) (record : s.Value)
    (superstep : Option Superstep) : ∃ script, w.Plays s c (.emit record superstep) script := by
  have hframes := recordsOf_acceptedScript (c := c) record (w.accepting s record superstep)
  refine ⟨acceptedScript c ((encodeRecord s record).map pack) (w.accepting s record superstep), ?_⟩
  cases emit_emitted s w record superstep with
  | nowhere hlanes hpartition haccepting htargets =>
    refine ⟨?_, hframes, fun hok _ _ => ?_⟩
    · rw [haccepting, acceptedScript_nil, lane, offersTo, hlanes, hpartition]
      exact .smooth _ .refl
    · rw [haccepting, acceptedScript_nil, entries, routed, htargets hok]
      exact .nil
  | served hserve hpartition =>
    have hcourse := serve_course ((encodeRecord s record).map pack) c
      (w.targets s record superstep) w.lanes w.outlet hc
    have haccepts := serve_accepts ((encodeRecord s record).map pack)
      (w.targets s record superstep) w.lanes w.outlet
    rw [hserve] at hcourse haccepts
    refine ⟨?_, hframes, fun hok _ _ => ?_⟩
    · rw [lane, offersTo, hpartition]
      exact hcourse
    -- without an error every target accepted the frame, so there was one unless there was no target
    · obtain ⟨hall, hnone | ⟨bytes, hbytes⟩⟩ := haccepts hok
      · rw [show w.accepting s record superstep = [] from hall.trans hnone, acceptedScript_nil,
          entries, routed, hnone]
        exact .nil
      · rw [show w.accepting s record superstep = _ from hall]
        cases hencode : encodeRecord s record with
        | error cause =>
          rw [hencode] at hbytes
          exact nomatch hbytes
        | ok frame =>
          have hframed := framed_acceptedScript (c := c) hencode (w.targets s record superstep)
          rw [hencode] at hframed
          exact hframed

theorem getElem?_lane (hc : c.toNat < w.lanes.length) :
    w.lanes[c.toNat]? = some (w.lane c) := by
  rw [lane, laneOf, List.getElem?_eq_getElem hc]
  rfl

theorem lane_of_getElem? (w' : Writer σ) {lane : Serializer} (h : w'.lanes[c.toNat]? = some lane) :
    w'.lane c = lane := by
  rw [Writer.lane, laneOf, h, Option.getD_some]

/-- A sweep of the writer's lanes, seen from a channel. -/
theorem swept (hw : w.lanes.length ≤ maxChannels) (hc : c.toNat < w.lanes.length)
    {step : ChannelId → Serializer → Outlet → LaneResult Unit} (hlocal : Lane.Local step) :
    Lane.Swept step c (w.lane c) w.outlet (Lane.sweep step 0 w.lanes w.outlet).1
      (Lane.sweep step 0 w.lanes w.outlet).2.1[c.toNat]?
      (Lane.sweep step 0 w.lanes w.outlet).2.2 := by
  have hswept := Lane.sweep_swept hlocal 0 w.lanes (by omega) w.outlet (getElem?_lane hc)
  rwa [Nat.zero_add, ChannelId.ofNat_toNat] at hswept

theorem sweptAll (hw : w.lanes.length ≤ maxChannels) (hc : c.toNat < w.lanes.length)
    {step : ChannelId → Serializer → Outlet → LaneResult Unit} (hlocal : Lane.Local step) :
    Lane.Swept step c (w.lane c) w.outlet (Lane.sweepAll step 0 w.lanes w.outlet).1
      (Lane.sweepAll step 0 w.lanes w.outlet).2.1[c.toNat]?
      (Lane.sweepAll step 0 w.lanes w.outlet).2.2 := by
  have hswept := Lane.sweepAll_swept hlocal 0 w.lanes (by omega) w.outlet (getElem?_lane hc)
  rwa [Nat.zero_add, ChannelId.ofNat_toNat] at hswept

theorem plays_broadcast (hw : w.lanes.length ≤ maxChannels) (hc : c.toNat < w.lanes.length)
    (e : Event) : ∃ script, w.Plays s c (.broadcast e) script := by
  by_cases hclosed : w.closed = true
  · have hperform : w.perform s (.broadcast e) = (.error (.illegalState .closed), w) :=
      if_pos hclosed
    refine ⟨[], .nothing (by rw [hperform]) rfl fun hok => ?_⟩
    rw [hperform] at hok
    exact nomatch hok
  · have hperform : w.perform s (.broadcast e) = _ := if_neg hclosed
    obtain ⟨lane', script, hlane, hcourse, hscript, hfull⟩ :=
      (swept hw hc (Lane.local_sendEvent e)).course [.mark (.event e)]
        (Lane.sendEvent_works c (w.lane c) · e)
    refine ⟨script, ?_, ?_, fun hok _ _ => ?_⟩
    · rw [hperform, lane_of_getElem? _ hlane]
      exact hcourse
    · -- a mark is no frame, whether it was sent or not
      rcases hscript with rfl | rfl <;> rfl
    · rw [hperform] at hok
      rw [hfull hok]
      exact .cons (.mark _) .nil

theorem plays_flush (hw : w.lanes.length ≤ maxChannels) (hc : c.toNat < w.lanes.length) :
    w.Plays s c .flush [] := by
  obtain ⟨lane', script, hlane, hcourse, hscript, _⟩ :=
    (sweptAll hw hc Lane.local_retire).course [] (Lane.plays_retire c (w.lane c))
  obtain rfl : script = [] := by rcases hscript with h | h <;> exact h
  refine ⟨?_, rfl, fun _ _ _ => .nil⟩
  show Course c [] _ _ _ (Writer.lane w.flush.2 c)
  rw [lane_of_getElem? w.flush.2 hlane]
  exact hcourse

theorem plays_turn (t : Turn) : w.Plays s c (.turn t) [] := by
  refine .nothing ?_ rfl fun _ => rfl
  show Side.mk ((w.outlet.turn t).partition.offersTo c) _ = _
  rw [Partition.offersTo_congr (w.outlet.offers_turn t)]
  rfl

/-- The marker of a superstep, behind everything that a channel has sent. -/
theorem smooth_endSuperstep {start : Side} {o : Outlet}
    (h : Smooth c start [] ⟨o.partition.offersTo c, []⟩) :
    ∃ script, Smooth c start script ⟨o.endSuperstep.2.partition.offersTo c, []⟩ ∧
      (script = [] ∨ script = [.mark .endOfSuperstep]) ∧
      (o.endSuperstep.1 = .ok () → c.toNat < o.partition.subpartitions.length →
        script = [.mark .endOfSuperstep]) := by
  obtain ⟨marks, hmarks, hatMost, hall⟩ := o.offersTo_endSuperstep c
  rw [hmarks]
  rcases hatMost with rfl | ⟨taken, rfl⟩
  · rw [List.append_nil]
    exact ⟨[], h, .inl rfl, fun hok hc => nomatch hall hok hc⟩
  · cases taken with
    | true => exact ⟨_, h.mark .endOfSuperstep, .inr rfl, fun _ _ => rfl⟩
    | false =>
      refine ⟨[], h.decline .endOfSuperstep, .inl rfl, fun hok hc => ?_⟩
      exact nomatch hall hok hc

/-- What ending a superstep comes to: nothing on a closed writer, else the lanes are as the sweep
leaves them, and the markers are sent if it succeeds. -/
inductive Ended (w : Writer σ) (out : Except WriterError Unit × Writer σ) : Prop where
  | closed (e : WriterError) : out = (.error e, w) → Ended w out
  | stopped (e : WriterError) :
    Lane.sweep Lane.endSuperstep 0 w.lanes w.outlet = (.error e, out.2.lanes, out.2.outlet) →
    out.1 = .error e → Ended w out
  | marked {o : Outlet} :
    Lane.sweep Lane.endSuperstep 0 w.lanes w.outlet = (.ok (), out.2.lanes, o) →
    out.1 = o.endSuperstep.1 → out.2.outlet = o.endSuperstep.2 → Ended w out

theorem endSuperstep_ended (w : Writer σ) : Ended w w.endSuperstep := by
  unfold endSuperstep
  by_cases hclosed : w.closed = true
  · rw [if_pos hclosed]
    exact .closed _ rfl
  · rw [if_neg hclosed]
    rcases hsweep : Lane.sweep Lane.endSuperstep 0 w.lanes w.outlet with ⟨r, lanes, o⟩
    cases r with
    | error e => exact .stopped e hsweep rfl
    | ok _ => exact .marked hsweep rfl rfl

theorem plays_endSuperstep (hw : w.lanes.length ≤ maxChannels) (hc : c.toNat < w.lanes.length) :
    ∃ script, w.Plays s c .endSuperstep script := by
  have hswept := swept hw hc Lane.local_endSuperstep
  obtain ⟨lane', script, hlane, hcourse, hscript, _⟩ :=
    hswept.course [] (Lane.plays_endSuperstep c (w.lane c))
  obtain rfl : script = [] := by rcases hscript with h | h <;> exact h
  -- the markers are sent when all lanes were flushed, and then nothing is unsent
  have hunsent := hswept.lane_of_ok (P := fun lane => lane.unsent = [])
    (Lane.unsent_endSuperstep c (w.lane c))
  have hfaithful {width : Nat} (h : w.outlet.partition.Faithful width) :=
    Lane.sweep_keeps (P := fun o => o.partition.Faithful width)
      (fun c s o => (Lane.local_endSuperstep c s o).faithful) 0 w.lanes h
  have hended : Ended w (w.perform s .endSuperstep) := endSuperstep_ended w
  cases hended with
  | closed e h =>
    refine ⟨[], .nothing (by rw [h]) rfl fun hok => ?_⟩
    rw [h] at hok
    exact nomatch hok
  | stopped e hsweep hresult =>
    rw [hsweep] at hlane hcourse
    refine ⟨[], ?_, rfl, fun hok _ _ => ?_⟩
    · rw [hresult, lane_of_getElem? _ hlane]
      exact hcourse
    · rw [hresult] at hok
      exact nomatch hok
  | @marked o hsweep hresult houtlet =>
    rw [hsweep] at hlane hcourse hunsent hfaithful
    have hsmooth := hcourse.smooth_of_ok
    rw [hunsent rfl lane' hlane] at hsmooth
    obtain ⟨script, hscript, hcases, hfull⟩ := smooth_endSuperstep hsmooth
    rw [← hunsent rfl lane' hlane] at hscript
    refine ⟨script, ?_, ?_, fun hok hwidth hc => ?_⟩
    · rw [lane_of_getElem? _ hlane, offersTo, houtlet]
      exact .smooth _ hscript
    · rcases hcases with rfl | rfl <;> rfl
    · rw [hresult] at hok
      rw [hfull hok ((hfaithful hwidth).length_eq.symm ▸ hc)]
      exact .cons (.mark _) .nil

/-- **An operation of a producer at work**, seen from a channel. -/
theorem plays_perform (hw : w.lanes.length ≤ maxChannels) (hc : c.toNat < w.lanes.length)
    {op : Operation s.Value} (hop : op.AtWork) : ∃ script, w.Plays s c op script := by
  cases op with
  | emit record superstep => exact plays_emit hc record superstep
  | broadcast e => exact plays_broadcast hw hc e
  | endSuperstep => exact plays_endSuperstep hw hc
  | flush => exact ⟨[], plays_flush hw hc⟩
  | turn t => exact ⟨[], plays_turn t⟩
  | close | clear | drop => exact nomatch hop

end Writer

end Fanout
