import LaserDac.IdnEmission

/-!
Sender and receiver together. In one frame mode, with points of the type that the stream is set to, and no datagram
lost, the receiver's chunks hold the sent points, one for one and in order.
-/

namespace LaserDac.Idn

open LaserDac.Cursors LaserDac.Attempts LaserDac.Attempts.Attempt LaserDac.Runs

namespace ChunkPoints

def format : ChunkPoints → PointFormat
  | xyrgbi _ => .xyrgbi
  | highRes _ => .xyrgbHighRes
  | extended _ => .extended

/-- The points that are to arrive: all of them, under the receiver's conversion, with a short frame padded. -/
def arriving : ChunkPoints → List ReceivedPoint
  | xyrgbi points => (framePoints points).map PointXyrgbi.received
  | highRes points => (framePoints points).map PointXyrgbHighRes.received
  | extended points => (framePoints points).map PointExtended.received

end ChunkPoints

/-- Frames of the type that the stream is set to, in one frame mode, and format and rate changes. An acknowledgement is
asked for in frame mode only: in wave mode the rest of a frame is not sent without one. -/
def Matching (mode : FrameMode) : PointFormat → List Call → Prop
  | _, [] => True
  | _, .setPointFormat format :: calls => Matching mode format calls
  | format, .setScanSpeed _ :: calls => Matching mode format calls
  | format, .setFrameMode other :: calls => other = mode ∧ Matching mode format calls
  | format, .writeFrame points :: calls => points.format = format ∧ Matching mode format calls
  | format, .writeFrameWithAck points :: calls => mode = .frame ∧ points.format = format ∧ Matching mode format calls

/-- The frames that are to arrive. Without a rate nothing is sent, and an empty frame is nothing. -/
def written : Nat → List Call → List (List ReceivedPoint)
  | _, [] => []
  | _, .setScanSpeed pps :: calls => written pps calls
  | pps, .writeFrame points :: calls | pps, .writeFrameWithAck points :: calls =>
    if pps = 0 ∨ points.arriving = [] then written pps calls else points.arriving :: written pps calls
  | pps, _ :: calls => written pps calls

variable {serviceId : UInt8} {chunks : List ParsedChunk} {mode : FrameMode} {calls : List Call}

/-- Between these states these frames have gone out, in this order and each in its chunks, and nothing else. -/
inductive EmitsAll (serviceId : UInt8) (mode : FrameMode) :
    Sender → Sender → List (List (ChunkKind × List ReceivedPoint)) → Prop where
  | none {before after : Sender} (log : outgoing after.log = outgoing before.log) :
    EmitsAll serviceId mode before after []
  | frame {before start between after : Sender} {chunks : List (ChunkKind × List ReceivedPoint)}
    {frames : List (List (ChunkKind × List ReceivedPoint))} (log : outgoing start.log = outgoing before.log)
    (emits : Emits serviceId start between chunks) (shapes : mode.Shapes (chunks.map Prod.fst))
    (rest : EmitsAll serviceId mode between after frames) : EmitsAll serviceId mode before after (chunks :: frames)

namespace EmitsAll

variable {before after : Sender} {frames : List (List (ChunkKind × List ReceivedPoint))}

theorem of_log {start : Sender} (all : EmitsAll serviceId mode start after frames)
    (log : outgoing start.log = outgoing before.log) : EmitsAll serviceId mode before after frames := by
  cases all with
  | none same => exact .none (same.trans log)
  | frame same emits shapes rest => exact .frame (same.trans log) emits shapes rest

section

variable (all : EmitsAll serviceId mode before after frames)

include all

theorem sent : ∃ sent, outgoing after.log = sent ++ outgoing before.log ∧
    List.Forall₂ (Chunk serviceId) sent frames.flatten.reverse := by
  induction all with
  | none log => exact ⟨[], log, .nil⟩
  | frame log emits _ _ ih =>
    obtain ⟨sent, rest, carried⟩ := ih
    obtain ⟨first, firstLog, firstCarried, -⟩ := emits.sent
    refine ⟨sent ++ first, ?_, ?_⟩
    · rw [rest, firstLog, log, List.append_assoc]
    · rw [List.flatten_cons, List.reverse_append]
      exact List.rel_append carried firstCarried

theorem shapes : ∀ frame ∈ frames, mode.Shapes (frame.map Prod.fst) := by
  induction all with
  | none => simp
  | frame _ _ shapes _ ih => exact List.forall_mem_cons.mpr ⟨shapes, ih⟩

end

end EmitsAll

namespace Sender

variable {network : Network}

section

variable (delivers : ∀ sends, network.delivers sends = true)

include delivers

theorem perform_writeFrame {sender : Sender} (service : sender.stream.serviceId = serviceId)
    (frameMode : sender.stream.frameMode = mode) {points : ChunkPoints}
    (format : points.format = sender.stream.pointFormat) :
    Writes serviceId mode sender (points.writeFrame network sender).2 points.arriving := by
  cases points with
  | xyrgbi points => exact writeFrame_writes delivers ⟨format.symm, service, frameMode⟩ points
  | highRes points => exact writeFrame_writes delivers ⟨format.symm, service, frameMode⟩ points
  | extended points => exact writeFrame_writes delivers ⟨format.symm, service, frameMode⟩ points

theorem perform_writeFrameWithAck {sender : Sender} (service : sender.stream.serviceId = serviceId)
    (frameMode : sender.stream.frameMode = .frame) {points : ChunkPoints}
    (format : points.format = sender.stream.pointFormat) :
    Writes serviceId .frame sender (points.writeFrameWithAck network sender).2 points.arriving := by
  cases points with
  | xyrgbi points => exact writeFrameWithAck_writes delivers ⟨format.symm, service, frameMode⟩ points
  | highRes points => exact writeFrameWithAck_writes delivers ⟨format.symm, service, frameMode⟩ points
  | extended points => exact writeFrameWithAck_writes delivers ⟨format.symm, service, frameMode⟩ points

/-- All frames of a run go out, in order. -/
theorem run_emits (sender : Sender) (service : sender.stream.serviceId = serviceId)
    (frameMode : sender.stream.frameMode = mode) (matching : Matching mode sender.stream.pointFormat calls) :
    ∃ frames, EmitsAll serviceId mode sender (run network calls sender) frames ∧
      frames.map (fun frame => frame.flatMap Prod.snd) = written sender.stream.scanSpeed calls := by
  induction calls generalizing sender with
  | nil => exact ⟨[], .none rfl, rfl⟩
  | cons call calls ih =>
    have write : ∀ {points : ChunkPoints} {between : Sender}, Matching mode sender.stream.pointFormat calls →
        Writes serviceId mode sender between points.arriving →
        ∃ frames, EmitsAll serviceId mode sender (run network calls between) frames ∧
          frames.map (fun frame => frame.flatMap Prod.snd) =
            written sender.stream.scanSpeed (.writeFrame points :: calls) := by
      intro points between matching step
      rw [Writes] at step
      rw [written]
      split at step
      · next idle =>
        rw [step, if_pos idle]
        exact ih sender service frameMode matching
      · next busy =>
        obtain ⟨chunks, emits, shapes, all⟩ := step
        have same := emits.settings
        simp only [Stream.settings, Prod.mk.injEq] at same
        obtain ⟨sameFormat, sameService, sameMode, sameSpeed⟩ := same
        rw [← sameFormat] at matching
        obtain ⟨frames, rest, points⟩ := ih between (sameService.trans service) (sameMode.trans frameMode) matching
        refine ⟨chunks :: frames, .frame rfl emits shapes rest, ?_⟩
        rw [if_neg busy, List.map_cons, all, points, sameSpeed]
    cases call with
    | setPointFormat format =>
      obtain ⟨frames, all, points⟩ := ih (sender.setPointFormat format) service frameMode matching
      exact ⟨frames, all.of_log rfl, points⟩
    | setScanSpeed pps =>
      obtain ⟨frames, all, points⟩ := ih (sender.setScanSpeed pps) service frameMode matching
      exact ⟨frames, all.of_log rfl, points⟩
    | setFrameMode other =>
      obtain ⟨frames, all, points⟩ := ih (sender.setFrameMode other) service matching.1 matching.2
      exact ⟨frames, all.of_log rfl, points⟩
    | writeFrame points =>
      exact write matching.2 (perform_writeFrame delivers service frameMode matching.1)
    | writeFrameWithAck points =>
      obtain ⟨rfl, format, matching⟩ := matching
      exact write matching (perform_writeFrameWithAck delivers service frameMode format)

end

end Sender

theorem Matching.mode_eq {format : PointFormat} (matching : Matching mode format calls) {other : FrameMode}
    (member : .setFrameMode other ∈ calls) : other = mode := by
  induction calls generalizing format with
  | nil => cases member
  | cons call calls ih =>
    cases call with
    | setFrameMode =>
      rcases List.mem_cons.mp member with own | member
      · exact (Call.setFrameMode.inj own).trans matching.1
      · exact ih matching.2 member
    | setPointFormat | setScanSpeed => exact ih matching ((List.mem_cons.mp member).resolve_left (by simp))
    | writeFrame => exact ih matching.2 ((List.mem_cons.mp member).resolve_left (by simp))
    | writeFrameWithAck => exact ih matching.2.2 ((List.mem_cons.mp member).resolve_left (by simp))

namespace Sender

variable {network : Network}

theorem prepared_repeated (network : Network) {sender : Sender}
    (kept : sender.stream.frameMode = mode ∧ Always Repeated sender.log) :
    (sender.prepared network).stream.frameMode = mode ∧ Always Repeated (sender.prepared network).log := by
  have settings := (prepared_emits network 0 sender).settings
  obtain ⟨anchors, isAnchors, log⟩ := (prepared_reanchored network sender).log
  refine ⟨(congrArg (fun settings => settings.2.2.1) settings).trans kept.1, ?_⟩
  rw [log]
  exact always_anchors (fun _ _ _ _ => trivial) isAnchors kept.2

/-- Without send errors no config is lost. -/
theorem repeated_keeps (delivers : ∀ sends, network.delivers sends = true) (mode : FrameMode) :
    Keeps network fun sender => sender.stream.frameMode = mode ∧ Always Repeated sender.log where
  opens points command sender kept _ _ := by
    rw [if_pos (delivers _)]
    exact ⟨(prepared_repeated network kept).1, trivial, (prepared_repeated network kept).2⟩
  follows points sender kept _ := by
    rw [if_pos (delivers _)]
    exact ⟨kept.1, trivial, kept.2⟩
  frames points command sender kept _ _ := by
    refine writeFrameFragmented_keeps network points command
      (fun _ after => after.stream.frameMode = mode ∧ Always Repeated after.log)
      (fun after => after.stream.frameMode = mode ∧ Always Repeated after.log) (prepared_repeated network kept) ?_ ?_
    · intro index own after kept
      dsimp only
      rw [if_pos (delivers _)]
      exact ⟨kept.1, trivial, kept.2⟩
    · exact fun last kept => ⟨kept.1, trivial, kept.2⟩
  awaits left sender kept := by
    rw [recvAcknowledge_eq]
    split
    all_goals exact ⟨kept.1, trivial, kept.2⟩

theorem run_repeated (delivers : ∀ sends, network.delivers sends = true) {format : PointFormat}
    (matching : Matching mode format calls) (sender : Sender)
    (kept : sender.stream.frameMode = mode ∧ Always Repeated sender.log) : Always Repeated (run network calls sender).log :=
  ((repeated_keeps delivers mode).run calls (fun _ _ _ kept => kept)
    (fun _ member _ kept => ⟨matching.mode_eq member, .inr ((matching.mode_eq member).trans kept.1.symm), kept.2⟩)
    (fun _ _ _ kept => kept) kept).2

end Sender

variable {Address : Type} [DecidableEq Address]

theorem FrameParser.results_append (parser : FrameParser Address) (first second : List (Address × List UInt8)) :
    parser.results (first ++ second) = parser.results first ++ (parser.after first).results second := by
  induction first generalizing parser with
  | nil => rfl
  | cons packet first ih => exact congrArg (_ :: ·) (ih _)

theorem FrameParser.after_append (parser : FrameParser Address) (first second : List (Address × List UInt8)) :
    parser.after (first ++ second) = (parser.after first).after second := List.foldl_append

/-- The packets that went out, as this source sends them, the oldest first. -/
def packets (source : Address) (log : List Event) : List (Address × List UInt8) :=
  (outgoing log).reverse.map fun out => (source, out.2.write)

def channelOf (serviceId : UInt8) : UInt8 := (((UInt16.ofNat (serviceId.toNat - 1) &&& 0x3F) <<< 8) >>> 8).toUInt8

def Arrives (chunk : ChunkKind × List ReceivedPoint) (parsed : ParsedChunk) : Prop :=
  parsed.chunkType = chunk.1.chunkType ∧ parsed.isLastFragment = chunk.1.isLast ∧ parsed.points = chunk.2

/-- Whatever has gone out, and is covered, has been parsed to its points, and the table has the last config. -/
theorem heard {log : List Event} (covered : Always Covered log) {chunks : List (ChunkKind × List ReceivedPoint)}
    (carried : List.Forall₂ (Chunk serviceId) (outgoing log) chunks) (source : Address) :
    ∃ parsed : List ParsedChunk,
      (FrameParser.new.results (packets source log)).map Prod.snd = parsed.reverse.map (fun chunk => .ok (some chunk)) ∧
      (FrameParser.new.after (packets source log)).channels ⟨source, channelOf serviceId⟩ =
        (announced log).bind Config.state ∧
      List.Forall₂ Arrives chunks parsed := by
  induction log generalizing chunks with
  | nil =>
    cases carried
    exact ⟨[], rfl, rfl, .nil⟩
  | cons event log ih =>
    obtain ⟨here, covered⟩ := covered
    cases event with
    | sent found datagram =>
      cases carried with
      | @cons _ chunk _ chunks head carried =>
      obtain ⟨parsed, results, entry, arrives⟩ := ih covered carried
      obtain ⟨carries, service⟩ := head
      obtain ⟨config, known, covers⟩ := here
      have channel : found.channel = channelOf serviceId := by
        rw [← service]
        rfl
      rw [← channel] at entry ⊢
      obtain ⟨own, after, parses, kept, arrived⟩ := carries.parseFrameData known covers entry
      have appended : packets source (.sent found datagram :: log) = packets source log ++ [(source, datagram.write)] := by
        rw [packets, outgoing, List.reverse_cons, List.map_append]
        rfl
      refine ⟨own :: parsed, ?_, ?_, .cons arrived arrives⟩
      · rw [appended, FrameParser.results_append, List.map_append, results, List.reverse_cons, List.map_append,
          FrameParser.results, parses]
        rfl
      · rw [appended, FrameParser.after_append]
        change ((FrameParser.new.after (packets source log)).parseFrameData source datagram.write).2.channels _ = _
        rw [parses]
        exact kept.trans (congrArg (Option.bind · Config.state) known).symm
    | _ => exact ih covered carried

/-- A frame in one chunk, or a first fragment and sequels of which the last one, and no other, is marked as the last. -/
def WholeFrame (chunks : List ParsedChunk) : Prop :=
  let parts := chunks.map fun chunk => (chunk.chunkType, chunk.isLastFragment)
  parts = [(.frame, true)] ∨ ∃ between, parts =
    (.frameFirst, false) :: (List.replicate between (.frameSequel, false) ++ [(.frameSequel, true)])

theorem fragmentKinds (between : Nat) :
    (List.range' 0 (between + 2)).map (Sender.fragmentKind (between + 2)) =
      .frameFirst :: (List.replicate between (.frameSequel false) ++ [.frameSequel true]) := by
  have first : Sender.fragmentKind (between + 2) 0 = .frameFirst := by simp [Sender.fragmentKind]
  have last : Sender.fragmentKind (between + 2) (between + 1) = .frameSequel true := by simp [Sender.fragmentKind]
  have others : (List.range' 1 between).map (Sender.fragmentKind (between + 2)) =
      List.replicate between (.frameSequel false) := by
    refine List.eq_replicate_iff.mpr ⟨by simp, fun kind member => ?_⟩
    obtain ⟨index, range, rfl⟩ := List.mem_map.mp member
    rw [List.mem_range'_1] at range
    have started : index ≠ 0 := by omega
    have before : index ≠ between + 1 := by omega
    simp [Sender.fragmentKind, started, before]
  rw [List.range'_succ, List.map_cons, first, List.range'_1_concat, List.map_append, others, Nat.add_comm 1 between,
    List.map_singleton, last]

variable {frame : List (ChunkKind × List ReceivedPoint)}

section

variable (arrives : List.Forall₂ Arrives frame chunks)

include arrives

theorem parts_of_arrives :
    chunks.map (fun chunk => (chunk.chunkType, chunk.isLastFragment)) =
      (frame.map Prod.fst).map fun kind => (kind.chunkType, kind.isLast) := by
  induction arrives with
  | nil => rfl
  | cons head _ ih => rw [List.map_cons, ih, head.1, head.2.1]; rfl

theorem wholeFrame_of_arrives (shapes : FrameMode.Shapes (frame.map Prod.fst) .frame) : WholeFrame chunks := by
  obtain ⟨numFragments, some, kinds⟩ := shapes
  have parts := parts_of_arrives arrives
  rw [kinds] at parts
  unfold WholeFrame
  dsimp only
  rw [parts]
  rcases Nat.lt_or_ge 1 numFragments with several | single
  · obtain ⟨between, rfl⟩ := Nat.exists_eq_add_of_le' several
    refine .inr ⟨between, ?_⟩
    rw [fragmentKinds, List.map_cons, List.map_append, List.map_replicate]
    rfl
  · obtain rfl : numFragments = 1 := by omega
    exact .inl rfl

theorem points_of_arrives : chunks.flatMap ParsedChunk.points = frame.flatMap Prod.snd := by
  induction arrives with
  | nil => rfl
  | cons head _ ih => rw [List.flatMap_cons, List.flatMap_cons, ih, head.2.2]

end

theorem arrives_flatten {frames : List (List (ChunkKind × List ReceivedPoint))} {all : List ParsedChunk}
    (arrives : List.Forall₂ Arrives frames.flatten all) :
    ∃ parts : List (List ParsedChunk), all = parts.flatten ∧ List.Forall₂ (List.Forall₂ Arrives) frames parts := by
  induction frames generalizing all with
  | nil =>
    cases arrives
    exact ⟨[], rfl, .nil⟩
  | cons frame frames ih =>
    rw [List.flatten_cons] at arrives
    have first := (List.forall₂_take_append _ _ _ arrives.flip).flip
    have others := (List.forall₂_drop_append _ _ _ arrives.flip).flip
    obtain ⟨parts, rest, each⟩ := ih others
    refine ⟨all.take frame.length :: parts, ?_, .cons first each⟩
    rw [List.flatten_cons, ← rest, List.take_append_drop]

theorem carries_of_mem {outs : List (Stream × Datagram)} {chunks : List (ChunkKind × List ReceivedPoint)}
    (carried : List.Forall₂ (Chunk serviceId) outs chunks) {out : Stream × Datagram} (member : out ∈ outs) :
    ∃ kind points, Carries out.1 out.2 kind points := by
  induction carried with
  | nil => cases member
  | cons head _ ih =>
    rcases List.mem_cons.mp member with rfl | member
    · exact ⟨_, _, head.1⟩
    · exact ih member

theorem frames_of_arrives {frames : List (List (ChunkKind × List ReceivedPoint))} {parts : List (List ParsedChunk)}
    (each : List.Forall₂ (List.Forall₂ Arrives) frames parts)
    (shapes : ∀ frame ∈ frames, mode.Shapes (frame.map Prod.fst)) :
    parts.map (fun part => part.flatMap ParsedChunk.points) = frames.map (fun frame => frame.flatMap Prod.snd) ∧
      (mode = .frame → ∀ part ∈ parts, WholeFrame part) := by
  induction each with
  | nil => exact ⟨rfl, fun _ _ member => by cases member⟩
  | cons head _ ih =>
    obtain ⟨shape, shapes⟩ := List.forall_mem_cons.mp shapes
    obtain ⟨points, wholes⟩ := ih shapes
    refine ⟨?_, ?_⟩
    · rw [List.map_cons, List.map_cons, points, points_of_arrives head]
    · rintro rfl
      exact List.forall_mem_cons.mpr ⟨wholeFrame_of_arrives head shape, wholes rfl⟩

/-- Without send errors, in one frame mode and with points of the type that the stream is set to, every datagram fits
into a packet and says its own length, and the parser returns a chunk for each. The chunks form the frames that were
written: the points of each, in order, are those that were sent. In frame mode the chunks of a frame are a whole
frame. -/
theorem round_trip (network : Network) (delivers : ∀ sends, network.delivers sends = true)
    (serviceId clientGroup : UInt8) (connectTime : Nat) (mode : FrameMode) (calls : List Call)
    (matching : Matching mode .xyrgbi calls) (source : Address) :
    let log := (Sender.run network (.setFrameMode mode :: calls)
      (Sender.new (Stream.connect serviceId clientGroup connectTime))).log
    (∀ out ∈ outgoing log, out.2.write.length ≤ maxUdpPayload ∧
      out.2.msgSize + PacketHeader.sizeBytes = out.2.write.length ∧ messageEnd out.2.write = out.2.write.length) ∧
    ∃ frames : List (List ParsedChunk),
      (FrameParser.new.results (packets source log)).map Prod.snd = frames.flatten.map (fun chunk => .ok (some chunk)) ∧
      frames.map (fun frame => frame.flatMap ParsedChunk.points) = written 30000 calls ∧
      (mode = .frame → ∀ frame ∈ frames, WholeFrame frame) := by
  intro log
  let start := (Sender.new (Stream.connect serviceId clientGroup connectTime)).setFrameMode mode
  obtain ⟨frames, all, frameWise⟩ := Sender.run_emits delivers start rfl rfl matching
  obtain ⟨sent, outs, carried⟩ := all.sent
  have fresh : outgoing start.log = [] := rfl
  rw [fresh, List.append_nil] at outs
  rw [← outs] at carried
  have covered : Always Covered log := Sender.run_covered network calls start
    ⟨fun counted => absurd rfl counted, trivial, trivial⟩
    (Sender.run_repeated delivers matching start ⟨rfl, .inl rfl, trivial⟩)
  obtain ⟨parsed, results, -, arrives⟩ := heard covered carried source
  have inOrder := List.rel_reverse arrives
  rw [List.reverse_reverse] at inOrder
  obtain ⟨parts, whole, each⟩ := arrives_flatten inOrder
  obtain ⟨points, wholes⟩ := frames_of_arrives each all.shapes
  refine ⟨fun out member => ?_, parts, ?_, points.trans frameWise, wholes⟩
  · obtain ⟨kind, points, carries⟩ := carries_of_mem carried member
    exact ⟨carries.fits, carries.size, carries.messageEnd_write⟩
  · rw [results, whole]

/-- Frames of two types, one of them in two fragments. -/
def twoFormats : List Call :=
  [.writeFrame (.xyrgbi [⟨0, 0, 255, 0, 0, 255⟩]), .setPointFormat .extended, .setScanSpeed 1000,
    .writeFrame (.extended (List.replicate 80 ⟨0, 0, 0, 0, 0, 0, 0, 0, 0, 0⟩))]

theorem round_trip_two_formats :
    Matching .frame .xyrgbi twoFormats ∧ ∃ frames : List (List ParsedChunk),
      frames.map (fun frame => frame.flatMap ParsedChunk.points) = written 30000 twoFormats ∧
      ∀ frame ∈ frames, WholeFrame frame :=
  have matching : Matching .frame .xyrgbi twoFormats := ⟨rfl, rfl, trivial⟩
  have trip := round_trip (steadyNetwork fun _ => true) (fun _ => rfl) 1 0 0 .frame twoFormats matching ()
  ⟨matching, trip.2.imp fun _ frames => ⟨frames.2.1, frames.2.2 rfl⟩⟩

end LaserDac.Idn
