import LaserDac.IdnPackets

/-!
What the receiver has been told. The sender keeps track of that only by the format it last wrote a config for, and
before the send, so that a config that is lost on the way out is not repeated.
-/

namespace LaserDac.Idn

open LaserDac.Attempts LaserDac.Attempts.Attempt LaserDac.Runs

def announced : List Event → Option Config
  | [] => none
  | .sent _ datagram :: earlier => datagram.config.or (announced earlier)
  | _ :: earlier => announced earlier

/-- The config announces the descriptors of this stream's format, the service mode of its frame mode, and the match
bits of the datagram's sample chunk header, if it has one. -/
def Config.Matches (config : Config) (found : Stream) (datagram : Datagram) : Prop :=
  config.descriptors = found.pointFormat.descriptors ∧ config.header.serviceMode = found.frameMode.serviceMode ∧
    ∀ chunk ∈ datagram.chunk, config.header.flags &&& 0x30 = chunk.flags &&& 0x30

instance (config : Config) (found : Stream) (datagram : Datagram) : Decidable (config.Matches found datagram) := by
  unfold Config.Matches
  infer_instance

/-- Data that goes out is covered by a config, its own or the last one before it. -/
@[reducible] def Covered : Event → List Event → Prop
  | .sent found datagram, earlier => ∃ config ∈ datagram.config.or (announced earlier), config.Matches found datagram
  | _, _ => True

instance : ∀ event earlier, Decidable (Covered event earlier) := Event.decidableLaw

/-- The frame mode is changed only before the first frame, and a config that is lost after it says nothing new. -/
@[reducible] def Repeated : Event → List Event → Prop
  | .frameModeSet found mode, _ => found.frameCount = 0 ∨ mode = found.frameMode
  | .failed found datagram, earlier => datagram.config = none ∨ found.frameCount = 0 ∨
      datagram.config = announced earlier
  | _, _ => True

instance : ∀ event earlier, Decidable (Repeated event earlier) := Event.decidableLaw

theorem SampleChunkHeader.flags_new (flags : UInt8) (durationUs : UInt32) :
    (SampleChunkHeader.new flags durationUs).flags = flags := by
  unfold SampleChunkHeader.flags SampleChunkHeader.new
  apply UInt8.toBitVec_inj.mp
  apply BitVec.eq_of_getLsbD_eq
  intro i small
  simp only [UInt32.toBitVec_toUInt8, UInt32.toBitVec_shiftRight]
  interval_cases i
  all_goals simp

theorem config_flags (stream : Stream) : stream.config.header.flags &&& 0x30 = stream.sdmFlags &&& 0x30 := by
  change (idnflgChncfgRouting ||| stream.sdmFlags) &&& 0x30 = _
  unfold idnflgChncfgRouting
  apply UInt8.toBitVec_inj.mp
  apply BitVec.eq_of_getLsbD_eq
  intro i small
  interval_cases i
  all_goals simp

theorem config_matches {stream found : Stream} {datagram : Datagram} (format : found.pointFormat = stream.pointFormat)
    (mode : found.frameMode = stream.frameMode)
    (chunk : datagram.chunk = none ∨ ∃ durationUs, datagram.chunk = some (.new stream.sdmFlags durationUs)) :
    stream.config.Matches found datagram := by
  refine ⟨?_, ?_, fun header some_ => ?_⟩
  · rw [format]
    rfl
  · rw [mode]
    rfl
  · rcases chunk with none_ | ⟨durationUs, new⟩
    · rw [none_] at some_
      cases some_
    · rw [new] at some_
      obtain rfl := Option.some.inj some_
      rw [config_flags, SampleChunkHeader.flags_new]

/-- Once a frame has been sent, what was last announced is the config of the format on record. -/
structure Bookkept (sender : Sender) : Prop where
  told : sender.stream.frameCount ≠ 0 → ∀ format, sender.stream.previousFormat = some format →
    announced sender.log = some { sender.stream with pointFormat := format }.config
  covered : Always Covered sender.log

theorem announced_anchors {anchors : List Event} (isAnchors : ∀ event ∈ anchors, event.isAnchor = true)
    (log : List Event) : announced (anchors ++ log) = announced log := by
  induction anchors with
  | nil => rfl
  | cons event anchors ih =>
    obtain ⟨isAnchor, others⟩ := List.forall_mem_cons.mp isAnchors
    cases event with
    | anchored => exact ih others
    | _ => cases isAnchor

namespace Sender

variable {network : Network} {P : Type} [Point P]

/-- A sender about to write: what was sent is covered, and without a config in the next datagram the last one that went
out is still right. -/
structure Ready (network : Network) (sender : Sender) : Prop where
  told : sender.stream.needsConfig (network.clock sender.reads) = false →
    announced sender.log = some sender.stream.config
  covered : Always Covered sender.log

theorem prepared_suffix (network : Network) (sender : Sender) : sender.log <:+ (sender.prepared network).log := by
  obtain ⟨anchors, -, log⟩ := (prepared_reanchored network sender).log
  exact ⟨anchors, log.symm⟩

variable {sender : Sender}

theorem ready_of_bookkept (bookkept : Bookkept sender) : Ready network (sender.prepared network) := by
  obtain ⟨⟨anchorUs, points, pps, stream⟩, -, anchors, isAnchors, log⟩ := prepared_reanchored network sender
  rw [withStream] at stream
  refine ⟨fun needless => ?_, ?_⟩
  · obtain ⟨counted, previous⟩ := needsConfig_false needless
    have same : sender.stream.updateMatch = sender.stream := by
      obtain ⟨serviceDataMatch, matched⟩ := updateMatch_eq sender.stream
      rw [stream, matched] at previous
      exact if_neg (not_not.mpr previous)
    rw [same] at stream
    rw [stream] at counted previous
    rw [log, announced_anchors isAnchors, stream]
    exact bookkept.told counted _ previous
  · rw [log]
    exact always_anchors (fun _ _ _ _ => trivial) isAnchors bookkept.covered

theorem Ready.opening (ready : Ready network sender) (points : List P) (command : UInt8) :
    (sender.openingPacket network points command).config.or (announced sender.log) = some sender.stream.config := by
  cases needs : sender.stream.needsConfig (network.clock sender.reads) with
  | true =>
    have own : (sender.openingPacket network points command).config = some sender.stream.config := if_pos needs
    rw [own]
    rfl
  | false =>
    have none_ : (sender.openingPacket network points command).config = none :=
      if_neg (Bool.eq_false_iff.mp needs)
    rw [none_]
    exact ready.told needs

theorem Ready.opened (ready : Ready network sender) (points : List P) (command : UInt8) :
    Bookkept (sender.opened network points command) := by
  have config := ready.opening points command
  refine ⟨fun _ format previous => ?_, ⟨⟨_, config, config_matches rfl rfl (.inr ⟨_, rfl⟩)⟩, ready.covered⟩⟩
  obtain rfl : sender.stream.pointFormat = format :=
    Option.some.inj ((announcing_previousFormat sender.stream _).symm.trans previous)
  exact config

theorem Ready.unopened (ready : Ready network sender) (points : List P) (command : UInt8)
    (repeated : Repeated (.failed (sender.opening network).stream (sender.openingPacket network points command))
      sender.log) : Bookkept ((sender.opening network).unsent (sender.openingPacket network points command)) := by
  refine ⟨fun counted format previous => ?_, ⟨trivial, ready.covered⟩⟩
  obtain rfl : sender.stream.pointFormat = format :=
    Option.some.inj ((announcing_previousFormat sender.stream _).symm.trans previous)
  have config := ready.opening points command
  rcases repeated with none_ | first | same
  · rw [none_] at config
    exact config
  · exact absurd first counted
  · rw [same, Option.or_self] at config
    exact config

theorem follow_bookkept (bookkept : Bookkept sender) (primed : Primed sender) (points : List P) :
    Bookkept (sender.followed network points) := by
  have told := bookkept.told primed.counted _ primed.announced
  refine ⟨fun _ format previous => bookkept.told primed.counted format previous, ⟨⟨_, told, ?_⟩, bookkept.covered⟩⟩
  exact config_matches rfl rfl (.inr ⟨_, rfl⟩)

/-! ### Frames -/

/-- The sender between two fragments of a frame that was begun by `first`. -/
structure Fragmenting (network : Network) (first : Sender) (index : Nat) (sender : Sender) : Prop where
  config : sender.stream.config = first.stream.config
  format : sender.stream.pointFormat = first.stream.pointFormat
  mode : sender.stream.frameMode = first.stream.frameMode
  told : index ≠ 0 ∨ first.stream.needsConfig (network.clock first.reads) = false →
    announced sender.log = some first.stream.config ∧ sender.stream.previousFormat = some first.stream.pointFormat
  covered : Always Covered sender.log

namespace Fragmenting

variable {first sender : Sender} {index : Nat}

theorem start (ready : Ready network first) : Fragmenting network first 0 { first with reads := first.reads + 1 } :=
  ⟨rfl, rfl, rfl, fun needless => by
    have needless := needless.resolve_left (not_not.mpr rfl)
    exact ⟨ready.told needless, (needsConfig_false needless).2⟩, ready.covered⟩

section

variable (fragmenting : Fragmenting network first index sender)

include fragmenting

theorem handed (own : List P) (numFragments tsStart frameDurationUs : Nat) (command : UInt8) :
    let needsConfig := first.stream.needsConfig (network.clock first.reads)
    let datagram := sender.stream.fragment own index numFragments needsConfig tsStart frameDurationUs command
    datagram.config.or (announced sender.log) = some first.stream.config ∧
      (sender.fragmenting index needsConfig (network.clock first.reads)).stream.previousFormat =
        some first.stream.pointFormat := by
  dsimp only
  by_cases brings : (first.stream.needsConfig (network.clock first.reads) && decide (index = 0)) = true
  · have own : (sender.stream.fragment own index numFragments (first.stream.needsConfig (network.clock first.reads))
        tsStart frameDurationUs command).config = some sender.stream.config := if_pos brings
    rw [own, fragmenting.config]
    refine ⟨rfl, ?_⟩
    rw [← fragmenting.format]
    exact if_pos brings
  · have none_ : (sender.stream.fragment own index numFragments (first.stream.needsConfig (network.clock first.reads))
        tsStart frameDurationUs command).config = none := if_neg brings
    have told := fragmenting.told (by
      by_cases zero : index = 0
      · refine .inr (Bool.eq_false_iff.mpr fun needs => brings ?_)
        rw [needs, zero]
        rfl
      · exact .inl zero)
    rw [none_]
    exact ⟨told.1, (if_neg brings).trans told.2⟩

theorem sent (own : List P) (numFragments tsStart frameDurationUs : Nat) (command : UInt8) :
    let needsConfig := first.stream.needsConfig (network.clock first.reads)
    Fragmenting network first (index + 1) ((sender.fragmenting index needsConfig (network.clock first.reads)).sent
      (sender.stream.fragment own index numFragments needsConfig tsStart frameDurationUs command)) := by
  have handed := fragmenting.handed own numFragments tsStart frameDurationUs command
  dsimp only at handed ⊢
  refine ⟨fragmenting.config, fragmenting.format, fragmenting.mode, fun _ => handed, ⟨⟨_, handed.1, ?_⟩,
    fragmenting.covered⟩⟩
  rw [← fragmenting.config]
  refine config_matches rfl rfl ?_
  by_cases zero : index = 0
  · exact .inr ⟨_, if_pos (decide_eq_true zero)⟩
  · exact .inl (if_neg (by simpa using zero))

theorem unsent (own : List P) (numFragments tsStart frameDurationUs : Nat) (command : UInt8) :
    let needsConfig := first.stream.needsConfig (network.clock first.reads)
    let datagram := sender.stream.fragment own index numFragments needsConfig tsStart frameDurationUs command
    let handed := sender.fragmenting index needsConfig (network.clock first.reads)
    Repeated (.failed handed.stream datagram) handed.log → Bookkept (handed.unsent datagram) := by
  have handed := fragmenting.handed own numFragments tsStart frameDurationUs command
  dsimp only at handed ⊢
  intro repeated
  refine ⟨fun counted format previous => ?_, ⟨trivial, fragmenting.covered⟩⟩
  obtain rfl : first.stream.pointFormat = format := Option.some.inj (handed.2.symm.trans previous)
  have config := handed.1
  rw [← fragmenting.config] at config
  rw [← fragmenting.format]
  rcases repeated with none_ | zero | same
  · rw [none_] at config
    exact config
  · exact absurd zero counted
  · rw [same] at config
    exact Option.or_self.symm.trans config

theorem framed (begun : index ≠ 0) (now points numFragments : Nat) :
    Bookkept (Sender.framed now points numFragments first sender) := by
  obtain ⟨told, previous⟩ := fragmenting.told (.inl begun)
  refine ⟨fun _ format same => ?_, ⟨trivial, fragmenting.covered⟩⟩
  obtain rfl : first.stream.pointFormat = format := Option.some.inj (previous.symm.trans same)
  rw [← fragmenting.format]
  exact told.trans (congrArg some fragmenting.config.symm)

end

end Fragmenting

theorem bookkept_keeps (network : Network) :
    Keeps network fun sender => Always Repeated sender.log → Bookkept sender where
  opens points command sender bookkept _ _ := by
    split
    · intro repeated
      have ready : Ready network (sender.prepared network) :=
        ready_of_bookkept (bookkept (repeated.2.of_suffix (prepared_suffix network sender)))
      exact ready.opened points command
    · intro repeated
      have ready : Ready network (sender.prepared network) :=
        ready_of_bookkept (bookkept (repeated.2.of_suffix (prepared_suffix network sender)))
      exact ready.unopened points command repeated.1
  follows points sender bookkept primed := by
    split
    · exact fun repeated => follow_bookkept (bookkept repeated.2) primed points
    · intro repeated
      exact ⟨(bookkept repeated.2).told, ⟨trivial, (bookkept repeated.2).covered⟩⟩
  frames points command sender bookkept _ _ := by
    refine writeFrameFragmented_keeps network points command
      (fun index after => Always Repeated after.log → Fragmenting network (sender.prepared network) index after)
      (fun after => Always Repeated after.log → Bookkept after) ?_ ?_ ?_
    · intro repeated
      exact .start (ready_of_bookkept (bookkept (repeated.of_suffix (prepared_suffix network sender))))
    · intro index own after fragmenting
      dsimp only
      split
      · exact fun repeated => (fragmenting repeated.2).sent own _ _ _ command
      · exact fun repeated => (fragmenting repeated.2).unsent own _ _ _ command repeated.1
    · intro last _ _ fragmenting repeated
      exact (fragmenting repeated.2).framed (numFragments_ne_zero _ _ points) _ _ _
  awaits left sender bookkept := by
    rw [recvAcknowledge_eq]
    split
    all_goals
      intro repeated
      exact ⟨(bookkept repeated.2).told, ⟨trivial, (bookkept repeated.2).covered⟩⟩

theorem run_covered (network : Network) (calls : List Call) (sender : Sender) (bookkept : Bookkept sender)
    (repeated : Always Repeated (run network calls sender).log) : Always Covered (run network calls sender).log := by
  refine ((bookkept_keeps network).run calls ?_ ?_ ?_ (fun _ => bookkept) repeated).covered
  · exact fun format _ sender bookkept repeated => ⟨(bookkept repeated).told, (bookkept repeated).covered⟩
  · rintro mode - sender bookkept ⟨same, repeated⟩
    refine ⟨fun counted format previous => ?_, ⟨trivial, (bookkept repeated).covered⟩⟩
    have same := same.resolve_left counted
    rw [same]
    exact (bookkept repeated).told counted format previous
  · exact fun pps _ sender bookkept repeated => ⟨(bookkept repeated).told, (bookkept repeated).covered⟩

end Sender

/-- In every run in which the frame mode is changed only before the first frame, and no config that is lost after it
says something new, data that goes out is covered by the last config that went out. -/
theorem data_is_covered (network : Network) (serviceId clientGroup : UInt8) (connectTime : Nat) (calls : List Call)
    (repeated : Always Repeated
      (Sender.run network calls (Sender.new (Stream.connect serviceId clientGroup connectTime))).log) :
    Always Covered (Sender.run network calls (Sender.new (Stream.connect serviceId clientGroup connectTime))).log :=
  Sender.run_covered network calls _ ⟨fun counted => absurd rfl counted, trivial⟩ repeated

/-- A network whose clock is read every ten milliseconds. -/
def steadyNetwork (delivers : Nat → Bool) : Network where
  clock reads := 10000000 * reads
  delivers := delivers
  acknowledges _ := true

/-- A format change between two frames, and a frame mode set before the first. -/
def newFormat : List Call :=
  [.setFrameMode .frame, .writeFrame (.xyrgbi [⟨0, 0, 0, 0, 0, 0⟩]), .setPointFormat .xyrgbHighRes,
    .writeFrameWithAck (.highRes [⟨0, 0, 0, 0, 0⟩])]

theorem data_is_covered_new_format :
    let log := (Sender.run (steadyNetwork fun _ => true) newFormat (Sender.new (Stream.connect 1 0 0))).log
    Always Repeated log ∧ Always Covered log :=
  have repeated : Always Repeated
      (Sender.run (steadyNetwork fun _ => true) newFormat (Sender.new (Stream.connect 1 0 0))).log := by decide +kernel
  ⟨repeated, data_is_covered _ 1 0 0 _ repeated⟩

/-- A frame mode that is set between two frames is not announced with the second; and a config for a new format that
is lost is not repeated when the caller tries again. -/
theorem data_is_not_covered :
    ¬ Always Covered (Sender.run (steadyNetwork fun _ => true)
      [.writeFrame (.xyrgbi [⟨0, 0, 0, 0, 0, 0⟩]), .setFrameMode .frame, .writeFrame (.xyrgbi [⟨0, 0, 0, 0, 0, 0⟩])]
      (Sender.new (Stream.connect 1 0 0))).log ∧
    ¬ Always Covered (Sender.run (steadyNetwork fun sends => sends ≠ 1)
      [.writeFrame (.xyrgbi [⟨0, 0, 0, 0, 0, 0⟩]), .setPointFormat .xyrgbHighRes,
        .writeFrame (.highRes [⟨0, 0, 0, 0, 0⟩]), .writeFrame (.highRes [⟨0, 0, 0, 0, 0⟩])]
      (Sender.new (Stream.connect 1 0 0))).log := by
  decide +kernel

end LaserDac.Idn
