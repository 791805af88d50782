import Fanout.Proofs.Shuffle.Starvation
import Fanout.Proofs.Writer.Ledgers
import Fanout.Proofs.Writer.Ranges

/-!
# Causes

What a shuffle reports when its producer was denied a buffer. Up to the denial the producer was at
work and no buffer was refused, so every consumer got a beginning of the frames for its channel, and
all that it can complain of is that its stream is cut. The consumers are heard before the producer,
from the lowest channel on. So the denial is reported if every channel was left between two records;
otherwise the lowest channel that was left inside one hides it.

* `reports_denial_iff` — when a denial is reported, and which error is reported instead.
* `denial_hidden` — valid settings with which a denial is hidden.
-/

namespace Fanout

/-! ## Denials -/

namespace Writer

variable {σ : Type} {s : Schema} [ChannelSelector σ s.Value] {w : Writer σ} {p : Partition}
  {c : ChannelId} {ops : List (Operation s.Value)} {e : WriterError}

/-- Closing asks for no buffer. -/
theorem isDenial_close (h : w.close.1 = .error e) : e.isDenial = false := by
  unfold close at h
  split_ifs at h
  refine Lane.sweepAll_complaint (P := fun e => e.isDenial = false) (fun c s o e he => ?_) h
  exact isDenial_of_denials (he ▸ Lane.denials_retire c s o)

/-! ## Consumers -/

/-- The frames that a lane accepts along a run are those of some records. -/
theorem frames_accepted_run (w : Writer σ) (c : ChannelId) (ops : List (Operation s.Value)) :
    ∃ records, Frames s records (along s (fun w op => w.acceptedFrames s c op) w ops) := by
  induction ops using List.reverseRecOn with
  | nil => exact ⟨[], .nil⟩
  | append_singleton ops op ih =>
    obtain ⟨records, hrecords⟩ := ih
    obtain ⟨more, hmore, _⟩ := frames_acceptedFrames (w.run s ops) c op
    rw [along_concat]
    exact ⟨records ++ more, List.rel_append hrecords hmore⟩

/-- What was delivered on a channel ends inside a record. -/
def CutShort (w : Writer σ) (i : Nat) : Prop :=
  ¬WholeFrames (bytesOf (w.delivered (ChannelId.ofNat i)))

/-- **The consumer of a channel on which no buffer was refused** comes to the end of its stream, and
has nothing to complain of but that the stream is cut. -/
theorem consume_run_of_taken (hstart : w.Start p) (hp : p.offers = #[]) (hc : c.toNat < p.width)
    (hops : ∀ op ∈ ops, op.AtWork)
    (htaken : ∀ b, ⟨c, .buffer b, false⟩ ∉ (w.run s ops).offersTo c) :
    let ds := (w.run s ops).delivered c
    WholeFrames (bytesOf ds) ∧ (∃ report, Consumer.consume s c ds = .ok report) ∨
      ¬WholeFrames (bytesOf ds) ∧ Consumer.consume s c ds = .error (.streamCut c) := by
  intro ds
  obtain ⟨frames, hcarries, hframes⟩ := carries_run_of_taken hstart hp hc hops htaken
  obtain ⟨records, hrecords⟩ := frames_accepted_run w c ops
  rw [← hframes] at hrecords
  obtain ⟨script, hscript⟩ := Framed.of_frames hrecords
  obtain ⟨k, _, _, _, hk⟩ := Consumer.keepsUp_of_carries hcarries hscript c
  rcases hk.consume_eq with ⟨hwhole, hok⟩ | hcut
  · exact .inl ⟨hwhole, k.report, hok⟩
  · exact .inr hcut

end Writer

/-! ## Shuffles -/

/-- The first of some calls that fails decides. -/
theorem mapM_eq_error {α β ε : Type} {f : α → Except ε β} {l : List α} {i : Nat} {a : α} {e : ε}
    (hi : l[i]? = some a) (hearlier : ∀ j < i, ∀ a, l[j]? = some a → ∃ b, f a = .ok b)
    (ha : f a = .error e) : l.mapM f = .error e := by
  induction l generalizing i with
  | nil => exact nomatch hi
  | cons first l ih =>
    rw [List.mapM_cons]
    cases i with
    | zero =>
      obtain rfl := Option.some.inj hi
      rw [ha]
      rfl
    | succ i =>
      obtain ⟨b, hb⟩ := hearlier 0 (Nat.succ_pos i) first rfl
      rw [hb, ih hi fun j hj => hearlier (j + 1) (Nat.succ_lt_succ hj)]
      rfl

/-- Calls all of which succeed. -/
theorem mapM_isOk {α β ε : Type} {f : α → Except ε β} {l : List α}
    (h : ∀ a ∈ l, ∃ b, f a = .ok b) : ∃ bs, l.mapM f = .ok bs := by
  induction l with
  | nil => exact ⟨[], rfl⟩
  | cons first l ih =>
    obtain ⟨⟨b, hb⟩, hlater⟩ := List.forall_mem_cons.1 h
    obtain ⟨bs, hbs⟩ := ih hlater
    rw [List.mapM_cons, hb, hbs]
    exact ⟨b :: bs, rfl⟩

namespace Shuffle

variable {c : Config} {args : RunArgs} {surroundings : Surroundings} {d : Disk} {w : Producer}
  {e : WriterError}

/-- Of the consumers that failed the one of the lowest channel is heard. -/
theorem consumeAll_eq_error {p : Partition} {i : Nat} {sub : Subpartition} {cause : ConsumerError}
    (hsub : p.subpartitions[i]? = some sub)
    (hearlier : ∀ j < i, ∀ sub, p.subpartitions[j]? = some sub →
      ∃ report, Consumer.consume record (ChannelId.ofNat j) sub.sent.toList = .ok report)
    (hcause : Consumer.consume record (ChannelId.ofNat i) sub.sent.toList = .error cause) :
    consumeAll p = .error cause := by
  have hposition (j : Nat) : p.subpartitions.zipIdx[j]? =
      p.subpartitions[j]?.map fun sub => (sub, j) := by
    rw [List.getElem?_zipIdx, Nat.zero_add]
  refine mapM_eq_error (i := i) (a := (sub, i)) ?_ (fun j hj a ha => ?_) hcause
  · rw [hposition, hsub]
    rfl
  · rw [hposition] at ha
    obtain ⟨earlier, hearlier', rfl⟩ := Option.map_eq_some_iff.1 ha
    exact hearlier j hj earlier hearlier'

theorem consumeAll_isOk {p : Partition} (h : ∀ i sub, p.subpartitions[i]? = some sub →
    ∃ report, Consumer.consume record (ChannelId.ofNat i) sub.sent.toList = .ok report) :
    ∃ reports, consumeAll p = .ok reports :=
  mapM_isOk fun a ha => h a.2 a.1 (List.mem_zipIdx_iff_getElem?.1 ha)

/-- The consumers are heard before a producer that failed. -/
theorem runAmong_of_failed (hsetup : setup c args surroundings d = .ok w)
    (hfailed : (produce w args args.supersteps).1 = .error e) (he : e ≠ .deadlineOverflow) :
    (runAmong surroundings c args d).1 =
      match consumeAll (produce w args args.supersteps).2.outlet.partition with
      | .error cause => .error (.consumer cause)
      | .ok _ => .error (.producer e) := by
  unfold runAmong
  rw [hsetup]
  dsimp only
  generalize produce w args args.supersteps = produced at hfailed ⊢
  obtain ⟨r, last⟩ := produced
  obtain rfl : r = .error e := hfailed
  cases e with
  | deadlineOverflow => exact absurd rfl he
  | serialization _ | transport _ _ | poolDestroyed | bufferTimeout _ | channelOutOfRange _ _
  | illegalState _ | edgesAlreadyUsed | starved =>
    cases consumeAll last.outlet.partition <;> rfl

/-- A producer that was denied a buffer was at work until then. -/
theorem produce_of_denied {n : Nat} (hfailed : (produce w args n).1 = .error e)
    (hdenial : e.isDenial = true) :
    ∃ ops : List (Operation record.Value),
      (∀ op ∈ ops, op.AtWork) ∧ (produce w args n).2 = w.run record ops := by
  rw [produce_eq] at hfailed ⊢
  obtain ⟨before, op, hbefore, -, hop, hrun⟩ := Writer.performAll_of_error hfailed
  refine ⟨before ++ [op], ?_, hrun⟩
  rcases List.prefix_concat_iff.1 hbefore with hall | hjob
  · -- the close at the end asks for no buffer
    obtain ⟨-, hlast⟩ := List.append_inj' hall rfl
    obtain rfl := List.singleton_inj.1 hlast
    rw [Writer.isDenial_close hop] at hdenial
    exact nomatch hdenial
  · exact fun op hop => (sends_job args n op (hjob.subset hop)).atWork

/-- **The consumers of a producer that was denied a buffer**: each of them comes to the end of its
stream, and complains exactly if the stream is cut. -/
theorem consume_of_denied (hsetup : setup c args surroundings d = .ok w)
    (hstay : surroundings.Stay) (hfailed : (produce w args args.supersteps).1 = .error e)
    (hdenial : e.isDenial = true) {i : Nat} {sub : Subpartition}
    (hsub : (produce w args args.supersteps).2.outlet.partition.subpartitions[i]? = some sub) :
    let last := (produce w args args.supersteps).2
    let consumed := Consumer.consume record (ChannelId.ofNat i) sub.sent.toList
    ¬last.CutShort i ∧ (∃ report, consumed = .ok report) ∨
      last.CutShort i ∧ consumed = .error (.streamCut (ChannelId.ofNat i)) := by
  intro last consumed
  have hmade := (madeWith_setup hsetup).madeFor
  have hserved := served_setup hsetup hstay
  obtain ⟨asks, smooth, hdeals, _⟩ := produce_deals hsetup
  have hopen : last.outlet.partition.Open (width c args) :=
    (hserved.of_deals hdeals).partition_open
  have hi : i < width c args := by
    rw [← hopen.length_eq]
    exact (List.getElem?_eq_some_iff.1 hsub).1
  have hposition : (ChannelId.ofNat i).toNat = i :=
    ChannelId.toNat_ofNat_of_lt (Nat.lt_of_lt_of_le hi hopen.width_le)
  have hoffers : w.outlet.partition.offersTo (ChannelId.ofNat i) = [] :=
    hmade.start.offersTo_eq rfl _
  have htaken : ∀ b, ⟨ChannelId.ofNat i, .buffer b, false⟩ ∉ last.offersTo (ChannelId.ofNat i) :=
    hserved.taken_of_deals hdeals fun b => hoffers ▸ List.not_mem_nil
  obtain ⟨ops, hops, hrun⟩ := produce_of_denied hfailed hdenial
  have hsent : sub.sent.toList = last.delivered (ChannelId.ofNat i) := by
    have hfaithful : w.outlet.partition.Faithful (width c args) := by
      rw [hmade.start.partition_eq]
      exact .start rfl rfl
    have hlast : last.outlet.partition.Faithful (width c args) := by
      rw [show last = _ from hrun]
      exact Writer.faithful_run hfaithful ops
    refine hlast.sent_eq ?_ (hopen.connected sub (List.mem_of_getElem? hsub))
    rwa [hposition]
  have hconsumed : consumed = Consumer.consume record (ChannelId.ofNat i)
      (last.delivered (ChannelId.ofNat i)) := by rw [← hsent]
  rw [show last = _ from hrun] at htaken hconsumed ⊢
  rw [hconsumed, Writer.CutShort, not_not]
  exact Writer.consume_run_of_taken hmade.start rfl (hposition.symm ▸ hi) hops htaken

/-- Of the consumers of such a producer the one of the lowest channel whose stream is cut is heard,
if there is one. -/
theorem consumeAll_of_denied (hsetup : setup c args surroundings d = .ok w)
    (hstay : surroundings.Stay) (hfailed : (produce w args args.supersteps).1 = .error e)
    (hdenial : e.isDenial = true) :
    let last := (produce w args args.supersteps).2
    ((∀ i < width c args, ¬last.CutShort i) →
      ∃ reports, consumeAll last.outlet.partition = .ok reports) ∧
    ∀ i < width c args, last.CutShort i → (∀ j < i, ¬last.CutShort j) →
      consumeAll last.outlet.partition = .error (.streamCut (ChannelId.ofNat i)) := by
  intro last
  have hconsumer {i : Nat} {sub : Subpartition}
      (hsub : last.outlet.partition.subpartitions[i]? = some sub) :=
    consume_of_denied hsetup hstay hfailed hdenial hsub
  have hlength : last.outlet.partition.subpartitions.length = width c args := by
    obtain ⟨asks, smooth, hdeals, _⟩ := produce_deals hsetup
    exact ((served_setup hsetup hstay).of_deals hdeals).partition_open.length_eq
  constructor
  · intro hwhole
    refine consumeAll_isOk fun i sub hsub => ?_
    have hi : i < width c args := hlength ▸ (List.getElem?_eq_some_iff.1 hsub).1
    rcases hconsumer hsub with ⟨-, hok⟩ | ⟨hcut, -⟩
    · exact hok
    · exact absurd hcut (hwhole i hi)
  · intro i hi hcut hwhole
    have hsub := List.getElem?_eq_getElem (hlength.symm ▸ hi)
    refine consumeAll_eq_error hsub (fun j hj sub hearlier => ?_) ?_
    · rcases hconsumer hearlier with ⟨-, hok⟩ | ⟨hcut, -⟩
      · exact hok
      · exact absurd hcut (hwhole j hj)
    · rcases hconsumer hsub with ⟨hwhole, -⟩ | ⟨-, herror⟩
      · exact absurd hcut hwhole
      · exact herror

/-- **When a shuffle reports that its producer was denied a buffer.** Take a shuffle among consumers
that stay, whoever else takes buffers or tears the pool down, and let its producer fail because the
pool was destroyed or no buffer came in time. This is the error of the shuffle exactly if no channel
was left inside a record. Otherwise the error is that the stream of the lowest such channel is
cut. -/
theorem reports_denial_iff (hsetup : setup c args surroundings d = .ok w)
    (hstay : surroundings.Stay) (hfailed : (produce w args args.supersteps).1 = .error e)
    (hdenied : e = .poolDestroyed ∨ ∃ timeout, e = .bufferTimeout timeout) :
    let last := (produce w args args.supersteps).2
    ((runAmong surroundings c args d).1 = .error (.producer e) ↔
      ∀ i < width c args, ¬last.CutShort i) ∧
    ∀ i < width c args, last.CutShort i → (∀ j < i, ¬last.CutShort j) →
      (runAmong surroundings c args d).1 = .error (.consumer (.streamCut (ChannelId.ofNat i))) := by
  intro last
  have hdenial : e.isDenial = true := by rcases hdenied with rfl | ⟨_, rfl⟩ <;> rfl
  have hreported := runAmong_of_failed hsetup hfailed
    (by rcases hdenied with rfl | ⟨_, rfl⟩ <;> exact fun h => nomatch h)
  obtain ⟨hok, herror⟩ := consumeAll_of_denied hsetup hstay hfailed hdenial
  have hcut (i : Nat) (hi : i < width c args) (hcut : last.CutShort i)
      (hwhole : ∀ j < i, ¬last.CutShort j) : (runAmong surroundings c args d).1 =
        .error (.consumer (.streamCut (ChannelId.ofNat i))) := by
    rw [hreported, herror i hi hcut hwhole]
  refine ⟨⟨fun hproducer i => ?_, fun hwhole => ?_⟩, hcut⟩
  · -- the lowest channel that was left inside a record would have been heard first
    induction i using Nat.strong_induction_on with
    | _ i ih =>
      intro hi hcutShort
      rw [hcut i hi hcutShort fun j hj => ih j hj (hj.trans hi)] at hproducer
      exact nomatch hproducer
  · obtain ⟨reports, hconsumed⟩ := hok hwhole
    rw [hreported, hconsumed]

/-! A small case: two vertices message each other over two channels with one buffer. -/

/-- The producer waits this long for a buffer. -/
def shortPatience : Duration := .ofMilliseconds 50

def hurriedConfig (bufferSize : Nat) : Config where
  writer := { channels := 2 }
  buffer := { bufferSize := bufferSize, poolSize := 1, requestTimeout := some shortPatience }

/-- A buffer that has room for a message stays with the lane of the first one, so nothing was
delivered when the second one is denied a buffer. A smaller one was delivered in the middle of the
first message. -/
theorem reports_denial_small :
    (run (hurriedConfig 256) shortArgs Disk.empty).1 =
      .error (.producer (.bufferTimeout shortPatience)) ∧
    (run (hurriedConfig 4) shortArgs Disk.empty).1 = .error (.consumer (.streamCut ⟨0⟩)) := by
  have hstay := Surroundings.receive_attentive.stay
  constructor
  · obtain ⟨w, hsetup⟩ : ∃ w, setup (hurriedConfig 256) shortArgs .attentive Disk.empty = .ok w :=
      ⟨_, rfl⟩
    have hfailed : (produce w shortArgs 1).1 = .error (.bufferTimeout shortPatience) := by
      obtain rfl := Except.ok.inj hsetup
      decide +kernel
    refine (reports_denial_iff hsetup hstay hfailed (.inr ⟨_, rfl⟩)).1.2 fun i hi => ?_
    have hnothing : ∀ i < 2, bytesOf ((produce w shortArgs 1).2.delivered (ChannelId.ofNat i)) =
        [] := by
      obtain rfl := Except.ok.inj hsetup
      decide +kernel
    rw [Writer.CutShort, not_not]
    exact hnothing i hi ▸ .nil
  · obtain ⟨w, hsetup⟩ : ∃ w, setup (hurriedConfig 4) shortArgs .attentive Disk.empty = .ok w :=
      ⟨_, rfl⟩
    have hfailed : (produce w shortArgs 1).1 = .error (.bufferTimeout shortPatience) := by
      obtain rfl := Except.ok.inj hsetup
      decide +kernel
    have hbytes : bytesOf ((produce w shortArgs 1).2.delivered (ChannelId.ofNat 0)) =
        [0, 0, 0, 2] := by
      obtain rfl := Except.ok.inj hsetup
      decide +kernel
    refine (reports_denial_iff hsetup hstay hfailed (.inr ⟨_, rfl⟩)).2 0 (by decide)
      (fun hwhole => ?_) fun j hj => absurd hj (Nat.not_lt_zero j)
    -- two bytes are announced, and none of them has come
    change WholeFrames (bytesOf ((produce w shortArgs 1).2.delivered _)) at hwhole
    rw [hbytes] at hwhole
    exact absurd (hwhole.announced_le (List.cons_ne_nil _ _)) (by decide)

/-- **Valid settings with which a denial is hidden**: the producer fails since no buffer comes in
time, and the shuffle reports that the stream of the first channel is cut. -/
theorem denial_hidden :
    (hurriedConfig 4).validate = .ok () ∧
    ∃ w, setup (hurriedConfig 4) shortArgs .attentive Disk.empty = .ok w ∧
      (produce w shortArgs 1).1 = .error (.bufferTimeout shortPatience) ∧
      (run (hurriedConfig 4) shortArgs Disk.empty).1 = .error (.consumer (.streamCut ⟨0⟩)) := by
  obtain ⟨w, hsetup⟩ : ∃ w, setup (hurriedConfig 4) shortArgs .attentive Disk.empty = .ok w :=
    ⟨_, rfl⟩
  have hfailed : (produce w shortArgs 1).1 = .error (.bufferTimeout shortPatience) := by
    obtain rfl := Except.ok.inj hsetup
    decide +kernel
  have hconsumed : consumeAll (produce w shortArgs shortArgs.supersteps).2.outlet.partition =
      .error (.streamCut ⟨0⟩) := by
    obtain rfl := Except.ok.inj hsetup
    decide +kernel
  refine ⟨by decide, w, hsetup, hfailed, ?_⟩
  have hreported := runAmong_of_failed hsetup hfailed fun h => nomatch h
  rwa [hconsumed] at hreported

end Shuffle

end Fanout
