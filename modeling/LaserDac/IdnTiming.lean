import LaserDac.IdnConfig

/-!
The timestamps of what is sent. In wave mode every chunk begins where the one before it ends, and no rounding
accumulates. Timestamps never go back as long as the clock is not behind when an idle gap moves the anchor to it, and
a frame in several datagrams lasts long enough to count them.
-/

namespace LaserDac.Idn

open LaserDac.Attempts LaserDac.Attempts.Attempt LaserDac.Runs

def Datagram.durationUs (datagram : Datagram) : Nat := datagram.chunk.elim 0 fun chunk => chunk.durationUs.toNat

def lastData : List Event → Option Datagram
  | [] => none
  | .sent _ datagram :: _ => some datagram
  | .anchored _ .idleGap _ :: _ => none
  | _ :: earlier => lastData earlier

/-- The anchor, the rate at it and the points that were sent since. -/
def sinceAnchor : List Event → Option (Nat × Nat × Nat)
  | [] => none
  | .anchored found _ anchorUs :: _ => some (anchorUs, max found.scanSpeed 1, 0)
  | .sent _ datagram :: earlier => (sinceAnchor earlier).map fun (anchorUs, pps, points) =>
      (anchorUs, pps, points + datagram.samples.length)
  | _ :: earlier => sinceAnchor earlier

/-- A datagram lasts less than a chunk header can say. -/
@[reducible] def Short : Event → List Event → Prop
  | .sent found datagram, _ =>
      found.timestampAt (found.pointsSinceAnchor + datagram.samples.length) - found.currentTimestampUs < 2 ^ 24
  | _, _ => True

instance : ∀ event earlier, Decidable (Short event earlier) := Event.decidableLaw

/-- A datagram begins where the last one ended, and as many points after the anchor as were sent since. -/
def Tiles : Event → List Event → Prop
  | .sent _ datagram, earlier =>
      (∀ last ∈ lastData earlier, last.timestampUs + last.durationUs = datagram.timestampUs) ∧
      ∃ since ∈ sinceAnchor earlier, datagram.timestampUs = since.1 + since.2.2 * 1000000 / since.2.1
  | _, _ => True

/-! ### Tiling -/

variable (stream : Stream) {sender : Sender}

theorem timestampAt_mono {first second : Nat} (le : first ≤ second) :
    stream.timestampAt first ≤ stream.timestampAt second :=
  Nat.add_le_add_left (Nat.div_le_div_right (Nat.mul_le_mul_right _ le)) _

theorem timestamp_add_duration {stream : Stream} {points : Nat}
    (short : stream.timestampAt (stream.pointsSinceAnchor + points) - stream.currentTimestampUs < 2 ^ 24) :
    stream.currentTimestampUs + stream.durationUs points = stream.timestampAt (stream.pointsSinceAnchor + points) := by
  have later : stream.currentTimestampUs ≤ stream.timestampAt (stream.pointsSinceAnchor + points) :=
    timestampAt_mono stream (Nat.le_add_right _ _)
  unfold Stream.durationUs
  omega

namespace Sender

variable {network : Network} {P : Type} [Point P]

/-- The timestamps are where the history says. -/
structure Paced (sender : Sender) : Prop where
  tile : ∀ last ∈ lastData sender.log, last.timestampUs + last.durationUs = sender.stream.currentTimestampUs
  count : sinceAnchor sender.log =
    some (sender.stream.timestampAnchorUs, max sender.stream.anchorPps 1, sender.stream.pointsSinceAnchor)

theorem anchor_currentTimestampUs (reason : AnchorReason) (anchorUs : Nat) (sender : Sender) :
    (sender.anchor reason anchorUs).stream.currentTimestampUs = anchorUs := by
  change anchorUs + 0 * 1000000 / _ = anchorUs
  rw [Nat.zero_mul, Nat.zero_div, Nat.add_zero]

theorem Paced.anchor {reason : AnchorReason} {anchorUs : Nat}
    (tile : reason ≠ .idleGap → ∀ last ∈ lastData sender.log, last.timestampUs + last.durationUs = anchorUs) :
    Paced (sender.anchor reason anchorUs) := by
  refine ⟨fun last member => ?_, ?_⟩
  · rw [anchor_currentTimestampUs]
    cases reason with
    | idleGap => cases member
    | startup | rateChange => exact tile (by decide) last member
  · change some (anchorUs, max sender.stream.scanSpeed 1, 0) = some (anchorUs, max (max sender.stream.scanSpeed 1) 1, 0)
    rw [Nat.max_assoc, Nat.max_self]

theorem Paced.anchorOnRate (paced : Paced sender) : Paced sender.anchorOnRate := by
  unfold Sender.anchorOnRate
  split
  · exact Paced.anchor fun _ => paced.tile
  · exact paced

theorem Paced.anchorAfterGap (paced : Paced sender) (elapsedUs : Nat) :
    Paced (sender.anchorAfterGap network elapsedUs) := by
  unfold Sender.anchorAfterGap
  split
  · dsimp only
    split
    · exact Paced.anchor fun noGap => absurd rfl noGap
    · exact ⟨paced.tile, paced.count⟩
  · exact paced

/-- Once a frame has been sent the timestamps are where the history says; before that they are set anew. -/
structure Timed (sender : Sender) : Prop where
  fresh : sender.stream.frameCount = 0 → lastData sender.log = none
  paced : sender.stream.frameCount ≠ 0 → Paced sender
  tiles : Always Tiles sender.log

theorem Timed.prepared (timed : Timed sender) : Paced (sender.prepared network) := by
  obtain ⟨_, matched⟩ := updateMatch_eq sender.stream
  unfold Sender.prepared withStream
  rw [matched]
  dsimp only
  split
  · next uncounted =>
    refine Paced.anchor fun _ last member => ?_
    rw [timed.fresh uncounted] at member
    cases member
  · next counted =>
    have paced := timed.paced counted
    refine (Paced.anchorAfterGap ?_ _).anchorOnRate
    exact ⟨paced.tile, paced.count⟩

/-- A chunk of the next points goes out. -/
theorem Paced.sent (paced : Paced sender) {datagram : Datagram} {points : Nat}
    (timestamp : datagram.timestampUs = sender.stream.currentTimestampUs)
    (duration : datagram.durationUs = sender.stream.durationUs points) (count : datagram.samples.length = points)
    (short : Short (.sent sender.stream datagram) sender.log) (now : Nat) :
    Paced ((sender.sent datagram).withStream (Stream.advance now points)) ∧
      Tiles (.sent sender.stream datagram) sender.log := by
  rw [Short, count] at short
  refine ⟨⟨fun last member => ?_, ?_⟩, fun last member => ?_, _, paced.count, timestamp⟩
  · obtain rfl := Option.some.inj member
    rw [timestamp, duration]
    exact timestamp_add_duration short
  · change (sinceAnchor sender.log).map _ = _
    rw [paced.count, Option.map_some, count]
    rfl
  · rw [paced.tile last member, timestamp]

theorem Timed.setPointFormat (timed : Timed sender) (format : PointFormat) : Timed (sender.setPointFormat format) :=
  ⟨timed.fresh, fun counted => ⟨(timed.paced counted).tile, (timed.paced counted).count⟩, timed.tiles⟩

theorem Timed.setScanSpeed (timed : Timed sender) (pps : Nat) : Timed (sender.setScanSpeed pps) :=
  ⟨timed.fresh, fun counted => ⟨(timed.paced counted).tile, (timed.paced counted).count⟩, timed.tiles⟩

theorem Timed.setFrameMode (timed : Timed sender) (mode : FrameMode) : Timed (sender.setFrameMode mode) :=
  ⟨timed.fresh, fun counted => ⟨(timed.paced counted).tile, (timed.paced counted).count⟩, trivial, timed.tiles⟩

theorem Timed.connect (serviceId clientGroup : UInt8) (connectTime : Nat) :
    Timed (Sender.new (Stream.connect serviceId clientGroup connectTime)) :=
  ⟨fun _ => rfl, fun counted => absurd rfl counted, trivial⟩

end Sender

def datagrams (log : List Event) : List Datagram := (outgoing log).map Prod.snd

/-- No datagram before this one has a later timestamp. -/
@[reducible] def InOrder : Event → List Event → Prop
  | .sent _ datagram, earlier => ∀ before ∈ datagrams earlier, before.timestampUs ≤ datagram.timestampUs
  | _, _ => True

instance : ∀ event earlier, Decidable (InOrder event earlier) := Event.decidableLaw

/-- After a gap the clock has caught up with the timestamps, and a frame lasts long enough to number its fragments. -/
@[reducible] def InTime : Event → List Event → Prop
  | .anchored found reason anchorUs, _ => reason = .idleGap → found.currentTimestampUs ≤ anchorUs
  | .framed found tsEnd numFragments, _ => found.currentTimestampUs + (numFragments - 1) ≤ tsEnd
  | _, _ => True

instance : ∀ event earlier, Decidable (InTime event earlier) := Event.decidableLaw

namespace Sender

variable {network : Network} {P : Type} [Point P]

/-- No datagram is stamped later than the next one will be. -/
structure Ordered (sender : Sender) : Prop where
  fresh : sender.stream.frameCount = 0 → datagrams sender.log = []
  reached : ∀ datagram ∈ datagrams sender.log, datagram.timestampUs ≤ sender.stream.currentTimestampUs
  ordered : Always InOrder sender.log

section

variable (ordered : Ordered sender)

include ordered

theorem Ordered.anchor {reason : AnchorReason} {anchorUs : Nat}
    (later : sender.stream.frameCount ≠ 0 → sender.stream.currentTimestampUs ≤ anchorUs) :
    Ordered (sender.anchor reason anchorUs) := by
  refine ⟨ordered.fresh, fun datagram member => ?_, trivial, ordered.ordered⟩
  rw [anchor_currentTimestampUs]
  refine (ordered.reached datagram member).trans (later fun uncounted => ?_)
  have none : datagrams (sender.anchor reason anchorUs).log = [] := ordered.fresh uncounted
  rw [none] at member
  cases member

theorem Ordered.anchorOnRate : Ordered sender.anchorOnRate := by
  unfold Sender.anchorOnRate
  split
  · exact ordered.anchor fun _ => le_rfl
  · exact ordered

theorem Ordered.anchorAfterGap {elapsedUs : Nat} (inTime : Always InTime (sender.anchorAfterGap network elapsedUs).log)
    :
    Ordered (sender.anchorAfterGap network elapsedUs) := by
  unfold Sender.anchorAfterGap at inTime ⊢
  split at inTime
  · dsimp only at inTime ⊢
    split at inTime
    · next gap =>
      rw [if_pos gap]
      have read : Ordered { sender with reads := sender.reads + 1 } := ⟨ordered.fresh, ordered.reached, ordered.ordered⟩
      exact read.anchor fun _ => inTime.1 rfl
    · next noGap =>
      rw [if_neg noGap]
      exact ⟨ordered.fresh, ordered.reached, ordered.ordered⟩
  · exact ordered

theorem Ordered.prepared (inTime : Always InTime (sender.prepared network).log) :
    Ordered (sender.prepared network) := by
  obtain ⟨_, matched⟩ := updateMatch_eq sender.stream
  unfold Sender.prepared withStream at inTime ⊢
  rw [matched] at inTime ⊢
  dsimp only at inTime ⊢
  split at inTime
  · next uncounted =>
    rw [if_pos uncounted]
    refine Ordered.anchor ?_ fun counted => absurd uncounted counted
    exact ⟨ordered.fresh, ordered.reached, ordered.ordered⟩
  · next counted =>
    rw [if_neg counted]
    refine (Ordered.anchorAfterGap ?_ ?_).anchorOnRate
    · exact ⟨ordered.fresh, ordered.reached, ordered.ordered⟩
    · obtain ⟨anchors, -, log⟩ := (anchorOnRate_reanchored _).log
      rw [log] at inTime
      exact inTime.of_suffix (List.suffix_append _ _)

theorem Ordered.sent {datagram : Datagram} (timestamp : datagram.timestampUs = sender.stream.currentTimestampUs)
    (now points : Nat) : let after := (sender.sent datagram).withStream (Stream.advance now points)
    (∀ sent ∈ datagrams after.log, sent.timestampUs ≤ after.stream.currentTimestampUs) ∧ Always InOrder after.log := by
  have later : sender.stream.currentTimestampUs ≤ sender.stream.timestampAt (sender.stream.pointsSinceAnchor + points) :=
    timestampAt_mono sender.stream (Nat.le_add_right _ _)
  refine ⟨fun sent member => ?_, fun before member => ?_, ordered.ordered⟩
  · rcases List.mem_cons.mp member with rfl | member
    · exact timestamp.trans_le later
    · exact (ordered.reached sent member).trans later
  · rw [timestamp]
    exact ordered.reached before member

theorem Ordered.opened (points : List P) (command : UInt8) : Ordered (sender.opened network points command) := by
  have opening : Ordered (sender.opening network) := ⟨ordered.fresh, ordered.reached, ordered.ordered⟩
  have stamped : (sender.openingPacket network points command).timestampUs =
    (sender.opening network).stream.currentTimestampUs := rfl
  obtain ⟨reached, inOrder⟩ := opening.sent stamped (network.clock sender.reads) _
  exact ⟨fun uncounted => absurd uncounted (Nat.succ_ne_zero _), reached, inOrder⟩

theorem Ordered.followed (primed : Primed sender) (points : List P) : Ordered (sender.followed network points) := by
  have following : Ordered sender.following := ⟨ordered.fresh, ordered.reached, ordered.ordered⟩
  have stamped : (sender.stream.continuationPacket points).timestampUs = sender.following.stream.currentTimestampUs := rfl
  obtain ⟨reached, inOrder⟩ := following.sent stamped (network.clock sender.reads) _
  exact ⟨fun uncounted => absurd uncounted primed.counted, reached, inOrder⟩

end

/-- The fragments before this index have gone out. -/
structure Numbered (first : Sender) (index : Nat) (sender : Sender) : Prop where
  anchored : sender.stream.timestampAt = first.stream.timestampAt
  points : sender.stream.pointsSinceAnchor = first.stream.pointsSinceAnchor
  reached : ∀ datagram ∈ datagrams sender.log,
    datagram.timestampUs ≤ first.stream.currentTimestampUs + (index - 1)
  ordered : Always InOrder sender.log

theorem Numbered.sent {first : Sender} {index : Nat} (numbered : Numbered first index sender) (own : List P)
    (needsConfig : Bool) (now numFragments frameDurationUs : Nat) (command : UInt8) :
    Numbered first (index + 1) ((sender.fragmenting index needsConfig now).sent
      (sender.stream.fragment own index numFragments needsConfig first.stream.currentTimestampUs frameDurationUs
        command)) := by
  have before : ∀ datagram ∈ datagrams sender.log, datagram.timestampUs ≤ first.stream.currentTimestampUs + index :=
    fun datagram member => (numbered.reached datagram member).trans (Nat.add_le_add_left (Nat.sub_le _ _) _)
  refine ⟨numbered.anchored, numbered.points, fun datagram member => ?_, before, numbered.ordered⟩
  rcases List.mem_cons.mp member with rfl | member
  · exact le_rfl
  · exact before datagram member

theorem Numbered.framed {first : Sender} {numFragments : Nat} (numbered : Numbered first numFragments sender)
    (now points : Nat)
    (inTime : InTime (.framed first.stream (first.stream.timestampAt (first.stream.pointsSinceAnchor + points))
      numFragments) sender.log) : Ordered (Sender.framed now points numFragments first sender) := by
  refine ⟨fun uncounted => absurd uncounted (Nat.succ_ne_zero _), fun datagram member => ?_, trivial, numbered.ordered⟩
  have reached := (numbered.reached datagram member).trans inTime
  rw [← numbered.anchored, ← numbered.points] at reached
  exact reached

theorem ordered_keeps {network : Network} (delivers : ∀ sends, network.delivers sends = true) :
    Keeps network fun sender => Always InTime sender.log → Ordered sender where
  opens points command sender kept _ _ := by
    rw [if_pos (delivers _)]
    intro inTime
    have before := kept (inTime.2.of_suffix (prepared_suffix network sender))
    exact (before.prepared inTime.2).opened points command
  follows points sender kept primed := by
    rw [if_pos (delivers _)]
    exact fun inTime => (kept inTime.2).followed primed points
  frames points command sender kept _ _ := by
    refine writeFrameFragmented_keeps network points command
      (fun index after => Always InTime after.log → Numbered (sender.prepared network) index after)
      (fun after => Always InTime after.log → Ordered after) ?_ ?_ ?_
    · intro inTime
      have ordered := (kept (inTime.of_suffix (prepared_suffix network sender))).prepared inTime
      exact ⟨rfl, rfl, fun datagram member => (ordered.reached datagram member).trans (Nat.le_add_right _ _),
        ordered.ordered⟩
    · intro index own after numbered
      dsimp only
      rw [if_pos (delivers _)]
      exact fun inTime => (numbered inTime.2).sent own _ _ _ _ command
    · intro last _ _ numbered inTime
      exact (numbered inTime.2).framed _ _ inTime.1
  awaits left sender kept := by
    have after : ∀ received, Always InTime (sender.awaited left received).log → Ordered (sender.awaited left received) := by
      intro received inTime
      have ordered := kept inTime.2
      exact ⟨ordered.fresh, ordered.reached, trivial, ordered.ordered⟩
    rw [recvAcknowledge_eq]
    split
    · exact after true
    · exact after false

end Sender

/-- In every run without send errors, as long as after every idle gap the clock has caught up with the timestamps and
every frame lasts long enough to number its fragments, timestamps never go back. -/
theorem timestamps_in_order (network : Network) (delivers : ∀ sends, network.delivers sends = true)
    (serviceId clientGroup : UInt8) (connectTime : Nat) (calls : List Call)
    (inTime : Always InTime
      (Sender.run network calls (Sender.new (Stream.connect serviceId clientGroup connectTime))).log) :
    Always InOrder (Sender.run network calls (Sender.new (Stream.connect serviceId clientGroup connectTime))).log := by
  refine ((Sender.ordered_keeps delivers).run calls ?_ ?_ ?_ ?_ inTime).ordered
  · exact fun format _ sender kept inTime => ⟨(kept inTime).fresh, (kept inTime).reached, (kept inTime).ordered⟩
  · exact fun mode _ sender kept inTime =>
      ⟨(kept inTime.2).fresh, (kept inTime.2).reached, trivial, (kept inTime.2).ordered⟩
  · exact fun pps _ sender kept inTime => ⟨(kept inTime).fresh, (kept inTime).reached, (kept inTime).ordered⟩
  · exact fun _ => ⟨fun _ => rfl, List.forall_mem_nil _, trivial⟩

/-- A clock that stands still for this many readings and is then ahead. -/
def pausingNetwork (reads pauseNs : Nat) : Network where
  clock read := if read < reads then 0 else pauseNs
  delivers _ := true
  acknowledges _ := true

/-- A pause of half a second between two short frames, and then a frame of two fragments. -/
def wavesThenFrame : List Call :=
  [.setPointFormat .extended, .writeFrame (.extended [⟨0, 0, 0, 0, 0, 0, 0, 0, 0, 0⟩]),
    .writeFrame (.extended [⟨0, 0, 0, 0, 0, 0, 0, 0, 0, 0⟩]), .setFrameMode .frame, .setScanSpeed 1000,
    .writeFrame (.extended (List.replicate 80 ⟨0, 0, 0, 0, 0, 0, 0, 0, 0, 0⟩))]

theorem timestamps_in_order_pause :
    let log := (Sender.run (pausingNetwork 2 500000000) wavesThenFrame (Sender.new (Stream.connect 1 0 0))).log
    Always InTime log ∧ Always InOrder log :=
  have inTime : Always InTime
      (Sender.run (pausingNetwork 2 500000000) wavesThenFrame (Sender.new (Stream.connect 1 0 0))).log := by
    decide +kernel
  ⟨inTime, timestamps_in_order _ (fun _ => rfl) 1 0 0 _ inTime⟩

/-- A frame of a quarter of a second is stamped at once; 200 milliseconds later, which is a gap after its last
datagram, timestamps are set back to the clock. And at a rate at which a frame lasts one microsecond, the last of its
six fragments is stamped later than the next frame. -/
theorem timestamps_go_back :
    ¬ Always InOrder (Sender.run (pausingNetwork 16 200000000)
      [.setScanSpeed 10000, .writeFrame (.xyrgbi (List.replicate 2500 ⟨0, 0, 0, 0, 0, 0⟩)),
        .writeFrame (.xyrgbi [⟨0, 0, 0, 0, 0, 0⟩])]
      (Sender.new (Stream.connect 1 0 0))).log ∧
    ¬ Always InOrder (Sender.run (pausingNetwork 0 0)
      [.setFrameMode .frame, .setScanSpeed 1000000000,
        .writeFrame (.xyrgbi (List.replicate 1000 ⟨0, 0, 0, 0, 0, 0⟩)), .writeFrame (.xyrgbi [⟨0, 0, 0, 0, 0, 0⟩])]
      (Sender.new (Stream.connect 1 0 0))).log := by
  decide +kernel

end LaserDac.Idn
