import LaserDac.IdnRoundTrip

/-!
Frames on a network that loses datagrams. The frames of a run are fragments, numbered by their frame and within it. Of
the datagrams that arrive the receiver decodes those whose config it has, and perhaps others.
-/

namespace LaserDac.Idn

open LaserDac.Cursors LaserDac.Attempts LaserDac.Attempts.Attempt LaserDac.Runs

/-! ### Frames -/

/-- A datagram of a frame, by the number of the frame and its own number within it, with the stream as it was then. -/
structure Fragment where
  frame : Nat
  index : Nat
  kind : ChunkKind
  points : List ReceivedPoint
  found : Stream
  datagram : Datagram

variable {fragment : Fragment}

namespace Fragment

/-- The datagram, with the stream it was sent from. -/
def out (fragment : Fragment) : Stream × Datagram := (fragment.found, fragment.datagram)

def packet {Address : Type} (source : Address) (fragment : Fragment) : Address × List UInt8 :=
  (source, fragment.datagram.write)

def Sent (serviceId : UInt8) (fragment : Fragment) : Prop :=
  Carries fragment.found fragment.datagram fragment.kind fragment.points ∧ fragment.found.serviceId = serviceId

theorem Sent.channel {serviceId : UInt8} (sent : fragment.Sent serviceId) :
    fragment.found.channel = channelOf serviceId := by
  rw [← sent.2]
  rfl

def Before (one other : Fragment) : Prop := one.frame < other.frame ∨ one.frame = other.frame ∧ one.index < other.index

end Fragment

/-- All fragments of the frame with this number, in order. -/
structure IsFrame (serviceId : UInt8) (number : Nat) (frame : List Fragment) : Prop where
  begun : frame ≠ []
  labels : ∀ index (inside : index < frame.length), frame[index].frame = number ∧ frame[index].index = index ∧
    frame[index].kind = Sender.fragmentKind frame.length index
  chunks : ∀ fragment ∈ frame, fragment.Sent serviceId
  formats : ∃ format, ∀ fragment ∈ frame, fragment.found.pointFormat = format

/-- Frames with the numbers from this one on. -/
def Numbered (serviceId : UInt8) : Nat → List (List Fragment) → Prop
  | _, [] => True
  | number, frame :: frames => IsFrame serviceId number frame ∧ Numbered serviceId (number + 1) frames

theorem Sender.fragmentKind_isLast {index numFragments : Nat} (inside : index < numFragments) :
    (fragmentKind numFragments index).isLast = decide (index = numFragments - 1) := by
  unfold fragmentKind
  split_ifs with single first
  · obtain rfl : index = 0 := by omega
    rw [single]
    rfl
  · rw [first]
    exact (decide_eq_false (by omega)).symm
  · rfl

namespace IsFrame

variable {serviceId : UInt8} {number : Nat} {frame : List Fragment}

section

variable (isFrame : IsFrame serviceId number frame)

include isFrame

/-- The labels of a member. -/
theorem label (member : fragment ∈ frame) :
    fragment.frame = number ∧ fragment.index < frame.length ∧
      fragment.kind = Sender.fragmentKind frame.length fragment.index := by
  obtain ⟨index, inside, rfl⟩ := List.mem_iff_getElem.mp member
  obtain ⟨ofFrame, own, kind⟩ := isFrame.labels index inside
  rw [own]
  exact ⟨ofFrame, inside, kind⟩

theorem isSequel (member : fragment ∈ frame) : fragment.kind.isSequel = decide (fragment.index ≠ 0) := by
  obtain ⟨-, inside, kind⟩ := isFrame.label member
  rw [kind]
  exact Sender.fragmentKind_isSequel inside

theorem isLast (member : fragment ∈ frame) : fragment.kind.isLast = decide (fragment.index = frame.length - 1) := by
  obtain ⟨-, inside, kind⟩ := isFrame.label member
  rw [kind]
  exact Sender.fragmentKind_isLast inside

theorem index_head : ∀ fragment ∈ frame.head?, fragment.index = 0 := by
  intro fragment first
  obtain ⟨rest, rfl⟩ := List.head?_eq_some_iff.mp first
  exact (isFrame.labels 0 (Nat.succ_pos _)).2.1

theorem index_tail : ∀ fragment ∈ frame.tail, fragment.index ≠ 0 := by
  intro fragment member
  obtain ⟨index, inside, rfl⟩ := List.mem_iff_getElem.mp member
  rw [List.getElem_tail, (isFrame.labels (index + 1) _).2.1]
  exact Nat.succ_ne_zero index

theorem isLast_dropLast : ∀ fragment ∈ frame.dropLast, fragment.kind.isLast = false := by
  intro fragment member
  rw [isFrame.isLast (List.mem_of_mem_dropLast member)]
  obtain ⟨index, inside, rfl⟩ := List.mem_iff_getElem.mp member
  rw [List.length_dropLast] at inside
  rw [List.getElem_dropLast, (isFrame.labels index (by omega)).2.1]
  exact decide_eq_false (Nat.ne_of_lt inside)

theorem isLast_getLast : ∀ fragment ∈ frame.getLast?, fragment.kind.isLast = true := by
  intro fragment last
  rw [isFrame.isLast (List.mem_of_getLast? last)]
  rw [Option.mem_def, List.getLast?_eq_some_getLast isFrame.begun, List.getLast_eq_getElem] at last
  obtain rfl := Option.some.inj last
  have some := List.length_pos_of_ne_nil isFrame.begun
  exact decide_eq_true (isFrame.labels _ (by omega)).2.1

theorem sorted : frame.Pairwise Fragment.Before := by
  rw [List.pairwise_iff_getElem]
  intro one other inside inside' earlier
  obtain ⟨ofFrame, own, -⟩ := isFrame.labels one inside
  obtain ⟨ofFrame', own', -⟩ := isFrame.labels other inside'
  exact .inr ⟨ofFrame.trans ofFrame'.symm, by rw [own, own']; exact earlier⟩

end

end IsFrame

namespace Numbered

variable {serviceId : UInt8} {number : Nat} {frames : List (List Fragment)}

variable {frame : List Fragment}

section

variable (numbered : Numbered serviceId number frames)

include numbered

theorem isFrame {index : Nat} (found : frames[index]? = some frame) : IsFrame serviceId (number + index) frame := by
  induction frames generalizing number index with
  | nil => cases found
  | cons head frames ih =>
    cases index with
    | zero =>
      obtain rfl := Option.some.inj found
      exact numbered.1
    | succ index =>
      have own := ih numbered.2 found
      rwa [Nat.add_assoc, Nat.add_comm 1 index] at own

theorem of_mem (member : fragment ∈ frames.flatten) :
    ∃ frame, fragment ∈ frame ∧ IsFrame serviceId fragment.frame frame ∧ number ≤ fragment.frame ∧
      fragment.frame < number + frames.length := by
  obtain ⟨frame, inside, own⟩ := List.mem_flatten.mp member
  obtain ⟨index, found⟩ := List.mem_iff_getElem?.mp inside
  have isFrame := numbered.isFrame found
  obtain ⟨bound, -⟩ := List.getElem?_eq_some_iff.mp found
  have ofFrame := (isFrame.label own).1
  rw [ofFrame]
  exact ⟨frame, own, isFrame, Nat.le_add_right _ _, by omega⟩

theorem sorted : frames.flatten.Pairwise Fragment.Before := by
  induction frames generalizing number with
  | nil => exact .nil
  | cons frame frames ih =>
    rw [List.flatten_cons, List.pairwise_append]
    refine ⟨numbered.1.sorted, ih numbered.2, fun one own other later => .inl ?_⟩
    obtain ⟨_, -, -, least, -⟩ := numbered.2.of_mem later
    rw [(numbered.1.label own).1]
    exact least

end

theorem frame_ne (numbered : Numbered serviceId 0 frames) {other : Nat} (found : frames[other]? = some frame)
    (member : fragment ∈ frame) {number : Nat} (differ : other ≠ number) : fragment.frame ≠ number := by
  rw [((numbered.isFrame found).label member).1, Nat.zero_add]
  exact differ

theorem arrived_split (numbered : Numbered serviceId 0 frames) {arrived : List Fragment}
    (lossy : arrived.Sublist frames.flatten) {number : Nat} (found : frames[number]? = some frame)
    (arrives : ∀ fragment ∈ frame, fragment ∈ arrived) :
    ∃ earlier later, arrived = earlier ++ frame ++ later ∧ (∀ fragment ∈ earlier, fragment.frame ≠ number) ∧
      ∀ fragment ∈ later, fragment.frame ≠ number := by
  obtain ⟨inside, rfl⟩ := List.getElem?_eq_some_iff.mp found
  have whole : frames.flatten =
      (frames.take number).flatten ++ (frames[number] ++ (frames.drop (number + 1)).flatten) := by
    rw [← List.flatten_cons, ← List.flatten_append, ← List.drop_eq_getElem_cons inside, List.take_append_drop]
  rw [whole] at lossy
  obtain ⟨earlier, rest, rfl, first, second⟩ := List.sublist_append_iff.mp lossy
  obtain ⟨own, later, rfl, within, last⟩ := List.sublist_append_iff.mp second
  have before : ∀ fragment ∈ earlier, fragment.frame ≠ number := by
    intro fragment member
    obtain ⟨frame, listed, own⟩ := List.mem_flatten.mp (first.subset member)
    obtain ⟨index, place⟩ := List.mem_iff_getElem?.mp listed
    rw [List.getElem?_take] at place
    split_ifs at place with small
    exact numbered.frame_ne place own (Nat.ne_of_lt small)
  have after : ∀ fragment ∈ later, fragment.frame ≠ number := by
    intro fragment member
    obtain ⟨frame, listed, own⟩ := List.mem_flatten.mp (last.subset member)
    obtain ⟨index, place⟩ := List.mem_iff_getElem?.mp listed
    rw [List.getElem?_drop] at place
    exact numbered.frame_ne place own (by omega)
  have isFrame := numbered.isFrame found
  have all : own = frames[number] := by
    refine within.eq_of_length_le (List.Subperm.length_le ?_)
    refine List.subperm_of_subset (isFrame.sorted.imp fun {one other} earlier same => ?_) fun fragment member => ?_
    · rw [same] at earlier
      unfold Fragment.Before at earlier
      omega
    · have ofFrame := (isFrame.label member).1
      rw [Nat.zero_add] at ofFrame
      have arrived := arrives fragment member
      rw [List.mem_append, List.mem_append] at arrived
      rcases arrived with earlier | own | later
      · exact absurd ofFrame (before fragment earlier)
      · exact own
      · exact absurd ofFrame (after fragment later)
  rw [all]
  exact ⟨earlier, later, (List.append_assoc _ _ _).symm, before, after⟩

end Numbered

/-! ### Sending -/

theorem exists_fragments {serviceId : UInt8} {outs : List (Stream × Datagram)}
    {chunks : List (ChunkKind × List ReceivedPoint)} (carried : List.Forall₂ (Chunk serviceId) outs chunks)
    (number start : Nat) :
    ∃ frame : List Fragment, frame.map Fragment.out = outs ∧
      frame.map (fun fragment => (fragment.kind, fragment.points)) = chunks ∧
      frame.map (fun fragment => (fragment.frame, fragment.index)) =
        (List.range' start chunks.length).map (fun index => (number, index)) ∧
      ∀ fragment ∈ frame, fragment.Sent serviceId := by
  induction carried generalizing start with
  | nil => exact ⟨[], rfl, rfl, rfl, by simp⟩
  | @cons out chunk outs chunks head _ ih =>
    obtain ⟨frame, out_eq, chunk_eq, labels, carried⟩ := ih (start + 1)
    refine ⟨⟨number, start, chunk.1, chunk.2, out.1, out.2⟩ :: frame, ?_, ?_, ?_,
      List.forall_mem_cons.mpr ⟨head, carried⟩⟩
    · rw [List.map_cons, out_eq]
      rfl
    · rw [List.map_cons, chunk_eq]
    · rw [List.map_cons, labels]
      rfl

/-- A frame has gone out, and nothing else. -/
structure Sends (serviceId : UInt8) (number : Nat) (before after : Sender) (frame : List Fragment) : Prop where
  isFrame : IsFrame serviceId number frame
  log : outgoing after.log = (frame.map Fragment.out).reverse ++ outgoing before.log

theorem Sends.of_emits {serviceId : UInt8} {before after : Sender} {chunks : List (ChunkKind × List ReceivedPoint)}
    (emits : Emits serviceId before after chunks) (shapes : FrameMode.Shapes (chunks.map Prod.fst) .frame)
    (number : Nat) :
    ∃ frame, Sends serviceId number before after frame ∧
      frame.flatMap Fragment.points = chunks.flatMap Prod.snd := by
  obtain ⟨sent, log, carried, ofFormat⟩ := emits.sent
  have inOrder := List.rel_reverse carried
  rw [List.reverse_reverse] at inOrder
  obtain ⟨frame, outs, parts, labels, chunkOf⟩ := exists_fragments inOrder number 0
  obtain ⟨numFragments, some, kinds⟩ := shapes
  have count : frame.length = chunks.length := by simpa using congrArg List.length parts
  have length : chunks.length = numFragments := by simpa using congrArg List.length kinds
  have ofKind : frame.map Fragment.kind = (List.range' 0 frame.length).map (Sender.fragmentKind frame.length) := by
    rw [count, length, ← kinds, ← parts, List.map_map]
    rfl
  refine ⟨frame, ⟨⟨?_, ?_, chunkOf, before.stream.pointFormat, ?_⟩, ?_⟩, ?_⟩
  · exact List.ne_nil_of_length_pos (by omega)
  · intro index inside
    have label := congrArg (fun list => list[index]?) labels
    have kind := congrArg (fun list => list[index]?) ofKind
    simp [inside, ← count] at label kind
    exact ⟨label.1, label.2, kind⟩
  · intro fragment member
    refine ofFormat fragment.out (List.mem_reverse.mp ?_)
    rw [← outs]
    exact List.mem_map_of_mem member
  · rw [log, outs, List.reverse_reverse]
  · rw [← parts, List.flatMap_map]

theorem EmitsAll.numbered {serviceId : UInt8} {before after : Sender}
    {chunks : List (List (ChunkKind × List ReceivedPoint))} (all : EmitsAll serviceId .frame before after chunks)
    (number : Nat) :
    ∃ frames, Numbered serviceId number frames ∧
      frames.map (fun frame => frame.flatMap Fragment.points) = chunks.map (fun frame => frame.flatMap Prod.snd) ∧
      outgoing after.log = (frames.flatten.map Fragment.out).reverse ++ outgoing before.log := by
  induction all generalizing number with
  | none log => exact ⟨[], trivial, rfl, log⟩
  | frame log emits shapes _ ih =>
    obtain ⟨frame, sends, own⟩ := Sends.of_emits emits shapes number
    obtain ⟨frames, numbered, points, rest⟩ := ih (number + 1)
    refine ⟨frame :: frames, ⟨sends.isFrame, numbered⟩, ?_, ?_⟩
    · rw [List.map_cons, own, points, List.map_cons]
    · rw [rest, sends.log, log, List.flatten_cons, List.map_append, List.reverse_append, List.append_assoc]

/-! ### Reception -/

/-- What became of a fragment that arrived: the entry of its channel as it was then, and the chunk if there is one. -/
structure Reception where
  fragment : Fragment
  entry : Option ChannelState
  chunk : Option ParsedChunk

/-- The fragment brings the config of its stream or finds it in the table. -/
def Reception.Understood (reception : Reception) : Prop :=
  Idn.Understood reception.entry reception.fragment.found reception.fragment.datagram

def decoded : Except Halt (Option ParsedChunk) → Option ParsedChunk
  | .ok chunk => chunk
  | .error _ => none

def pieces (receptions : List Reception) : List (Fragment × ParsedChunk) :=
  receptions.filterMap fun reception => reception.chunk.map fun chunk => (reception.fragment, chunk)

variable {Address : Type} [DecidableEq Address] (source : Address)

def receive : FrameParser Address → List Fragment → List Reception
  | _, [] => []
  | parser, fragment :: arrived =>
    let parsed := parser.parseFrameData source fragment.datagram.write
    ⟨fragment, parser.channels ⟨source, fragment.found.channel⟩, decoded parsed.1⟩ :: receive parsed.2 arrived

variable (parser : FrameParser Address)

theorem receive_append (first second : List Fragment) :
    receive source parser (first ++ second) =
      receive source parser first ++ receive source (parser.after (first.map (Fragment.packet source))) second := by
  induction first generalizing parser with
  | nil => rfl
  | cons fragment first ih => exact congrArg (_ :: ·) (ih _)

theorem receive_fragments (arrived : List Fragment) :
    (receive source parser arrived).map Reception.fragment = arrived := by
  induction arrived generalizing parser with
  | nil => rfl
  | cons fragment arrived ih => exact congrArg (_ :: ·) (ih _)

theorem pieces_receive (arrived : List Fragment) :
    (pieces (receive source parser arrived)).map Prod.snd =
      (parser.results (arrived.map (Fragment.packet source))).filterMap fun result => decoded result.2 := by
  induction arrived generalizing parser with
  | nil => rfl
  | cons fragment arrived ih =>
    rw [receive, List.map_cons, FrameParser.results, pieces, List.filterMap_cons, List.filterMap_cons]
    dsimp only [Fragment.packet]
    cases decoded (parser.parseFrameData source fragment.datagram.write).1 with
    | none => exact ih _
    | some => exact congrArg (_ :: ·) (ih _)

theorem pieces_sublist (arrived : List Fragment) :
    ((pieces (receive source parser arrived)).map Prod.fst).Sublist arrived := by
  induction arrived generalizing parser with
  | nil => exact .slnil
  | cons fragment arrived ih =>
    rw [receive, pieces, List.filterMap_cons]
    dsimp only
    cases decoded (parser.parseFrameData source fragment.datagram.write).1 with
    | none => exact (ih _).cons _
    | some => exact (ih _).cons_cons _

theorem pieces_mem {arrived : List Fragment} {piece : Fragment × ParsedChunk}
    (member : piece ∈ pieces (receive source parser arrived)) : piece.1 ∈ arrived :=
  (pieces_sublist source parser arrived).subset (List.mem_map_of_mem member)

section

variable {serviceId : UInt8} {arrived : List Fragment}

theorem pieces_kind (chunks : ∀ fragment ∈ arrived, fragment.Sent serviceId)
    (parser : FrameParser Address) {piece : Fragment × ParsedChunk}
    (member : piece ∈ pieces (receive source parser arrived)) :
    piece.2.chunkType = piece.1.kind.chunkType ∧ piece.2.isLastFragment = piece.1.kind.isLast := by
  induction arrived generalizing parser with
  | nil => cases member
  | cons fragment arrived ih =>
    obtain ⟨carries, chunks⟩ := List.forall_mem_cons.mp chunks
    rw [receive, pieces, List.filterMap_cons] at member
    dsimp only at member
    cases result : (parser.parseFrameData source fragment.datagram.write).1 with
    | error =>
      rw [result] at member
      exact ih chunks _ member
    | ok chunk =>
      rw [result] at member
      cases chunk with
      | none => exact ih chunks _ member
      | some =>
        rcases List.mem_cons.mp member with rfl | member
        · exact carries.1.kind_of_parsed result
        · exact ih chunks _ member

theorem receive_understood
    (chunks : ∀ fragment ∈ arrived, fragment.Sent serviceId)
    (parser : FrameParser Address) {reception : Reception} (member : reception ∈ receive source parser arrived)
    (understood : reception.Understood) :
    ∃ chunk, reception.chunk = some chunk ∧ chunk.points = reception.fragment.points := by
  induction arrived generalizing parser with
  | nil => cases member
  | cons fragment arrived ih =>
    obtain ⟨carries, chunks⟩ := List.forall_mem_cons.mp chunks
    rcases List.mem_cons.mp member with rfl | member
    · obtain ⟨chunk, after, parsed, -, -, -, points⟩ := carries.1.parseFrameData_understood understood
      exact ⟨chunk, congrArg (fun result => decoded result.1) parsed, points⟩
    · exact ih chunks _ member

theorem pieces_sequels {parser : FrameParser Address} {state : ChannelState} {format : PointFormat}
    (entry : parser.channels ⟨source, channelOf serviceId⟩ = some state) (sampled : state.format = format.sampleFormat)
    (mode : state.serviceMode = FrameMode.frame.serviceMode)
    (chunks : ∀ fragment ∈ arrived, fragment.Sent serviceId)
    (sequels : ∀ fragment ∈ arrived, fragment.kind.isSequel = true)
    (formats : ∀ fragment ∈ arrived, fragment.found.pointFormat = format) :
    (pieces (receive source parser arrived)).map (fun piece => (piece.1, piece.2.points)) =
      arrived.map fun fragment => (fragment, fragment.points) := by
  induction arrived generalizing parser with
  | nil => rfl
  | cons fragment arrived ih =>
    obtain ⟨sent, chunks⟩ := List.forall_mem_cons.mp chunks
    have channel := sent.channel
    have carries := sent.1
    obtain ⟨sequel, sequels⟩ := List.forall_mem_cons.mp sequels
    obtain ⟨ofFormat, formats⟩ := List.forall_mem_cons.mp formats
    have without : fragment.datagram.config = none := carries.config.resolve_right fun brings => by
      rw [sequel] at brings
      cases brings.1
    have headless : fragment.datagram.chunk = none := by
      have header := carries.header
      rwa [if_pos sequel] at header
    have framed : fragment.found.frameMode = .frame := by
      rw [carries.mode]
      cases kind : fragment.kind with
      | wave =>
        rw [kind] at sequel
        cases sequel
      | _ => rfl
    have understood :
        Understood (parser.channels ⟨source, fragment.found.channel⟩) fragment.found fragment.datagram := by
      refine .inr ⟨state, channel ▸ entry, ?_, ?_, ?_⟩
      · rw [ofFormat]
        exact sampled
      · rw [framed]
        exact mode
      · intro chunk member
        rw [headless] at member
        cases member
    obtain ⟨chunk, after, parsed, kept, -, -, points⟩ := carries.parseFrameData_understood understood
    rw [without, channel, entry] at kept
    have rest := ih kept chunks sequels formats
    rw [receive, parsed]
    change (fragment, chunk.points) :: (pieces (receive source after arrived)).map _ = _
    rw [rest, points]
    rfl

theorem pieces_frame {number : Nat} {frame : List Fragment} (isFrame : IsFrame serviceId number frame)
    {parser : FrameParser Address}
    (understood : ∀ reception ∈ receive source parser frame, reception.fragment.index = 0 → reception.Understood) :
    (pieces (receive source parser frame)).map (fun piece => (piece.1, piece.2.points)) =
      frame.map fun fragment => (fragment, fragment.points) := by
  obtain ⟨begun, -, chunks, format, formats⟩ := id isFrame
  cases frame with
  | nil => exact absurd rfl begun
  | cons first rest =>
    have start : first.index = 0 := isFrame.index_head first rfl
    obtain ⟨sent, chunks⟩ := List.forall_mem_cons.mp chunks
    have channel := sent.channel
    have carries := sent.1
    obtain ⟨ofFormat, formats⟩ := List.forall_mem_cons.mp formats
    have sequels : ∀ fragment ∈ rest, fragment.kind.isSequel = true := by
      intro fragment member
      rw [isFrame.isSequel (List.mem_cons_of_mem _ member)]
      exact decide_eq_true (isFrame.index_tail fragment member)
    have framed : first.found.frameMode = .frame := by
      rw [carries.mode, (isFrame.label List.mem_cons_self).2.2]
      exact Sender.fragmentKind_frameMode _ _
    have heard := understood _ List.mem_cons_self start
    obtain ⟨chunk, after, parsed, kept, -, -, points⟩ := carries.parseFrameData_understood heard
    obtain ⟨state, entry, sampled, mode⟩ : ∃ state, after.channels ⟨source, channelOf serviceId⟩ = some state ∧
        state.format = format.sampleFormat ∧ state.serviceMode = FrameMode.frame.serviceMode := by
      rw [← channel, kept]
      rcases carries.config with without | ⟨-, own⟩
      · rw [Reception.Understood, Idn.Understood, without] at heard
        obtain ⟨state, entry, sampled, mode, -⟩ := heard.resolve_left (by simp)
        rw [ofFormat] at sampled
        rw [framed] at mode
        rw [without]
        exact ⟨state, entry, sampled, mode⟩
      · refine ⟨first.found.channelState, ?_, ?_, ?_⟩
        · rw [own]
          exact config_state first.found
        · rw [← ofFormat]
          rfl
        · rw [← framed]
          rfl
    have others := pieces_sequels source entry sampled mode chunks sequels formats
    rw [receive, parsed]
    change (first, chunk.points) :: (pieces (receive source after rest)).map _ = _
    rw [others, points]
    rfl

end

end LaserDac.Idn
