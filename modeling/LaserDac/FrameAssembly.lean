import LaserDac.IdnFragments
import LaserDac.Reassembly

/-!
The simulator's frame assembler behind the receiver. Each released chunk is a stretch of decoded fragments, in order,
from the first fragment of a frame on, and has fragments of another frame only if what is between them is missing.
-/

namespace LaserDac.IdnSimulator

open LaserDac.Idn LaserDac.Reassembly

/-- A point for the renderer. The receiver has multiplied the intensity into the colours. -/
structure RenderPoint where
  x : ℚ
  y : ℚ
  r : ℚ
  g : ℚ
  b : ℚ
  intensity : ℚ
  deriving DecidableEq, Repr

def RenderPoint.ofReceived (p : ReceivedPoint) : RenderPoint where
  x := p.x
  y := p.y
  r := p.r
  g := p.g
  b := p.b
  intensity := 1

structure ParsedChunk where
  chunkType : ChunkType
  isLastFragment : Bool
  timestampUsU32 : UInt32
  durationUs : UInt32
  points : List RenderPoint
  deriving DecidableEq, Repr

def parsedChunkFromReceived (chunk : Idn.ParsedChunk) : ParsedChunk where
  chunkType := chunk.chunkType
  isLastFragment := chunk.isLastFragment
  timestampUsU32 := chunk.timestampUsU32
  durationUs := chunk.durationUs
  points := chunk.points.map RenderPoint.ofReceived

structure FrameAssembler where
  pending : Option ParsedChunk
  deriving DecidableEq, Repr

namespace FrameAssembler

def maxPendingPoints : Nat := 2 ^ 20

def new : FrameAssembler := ⟨none⟩

/-- The chunks that are ready to play, in order, and the assembler after this one. -/
def push (assembler : FrameAssembler) (chunk : ParsedChunk) : List ParsedChunk × FrameAssembler :=
  match chunk.chunkType with
  | .frameSequel =>
    match assembler.pending with
    -- a sequel without a first fragment is dropped
    | none => ([], assembler)
    | some frame =>
      let frame := { frame with points := frame.points ++ chunk.points }
      if chunk.isLastFragment || maxPendingPoints ≤ frame.points.length then ([frame], ⟨none⟩) else ([], ⟨some frame⟩)
  | .frameFirst => (assembler.pending.toList, ⟨some chunk⟩)
  | _ => (assembler.pending.toList ++ [chunk], ⟨none⟩)

def feed : FrameAssembler → List ParsedChunk → List ParsedChunk × FrameAssembler
  | assembler, [] => ([], assembler)
  | assembler, chunk :: chunks =>
    let after := feed (assembler.push chunk).2 chunks
    ((assembler.push chunk).1 ++ after.1, after.2)

end FrameAssembler

/-- Fragments as one chunk: the first one with the points of all. -/
def join (chunks : List ParsedChunk) : Option ParsedChunk :=
  chunks.head?.map fun first => { first with points := chunks.flatMap ParsedChunk.points }

theorem join_points {chunks : List ParsedChunk} {frame : ParsedChunk} (joined : join chunks = some frame) :
    chunks.flatMap ParsedChunk.points = frame.points := by
  obtain ⟨first, -, rfl⟩ := Option.map_eq_some_iff.mp joined
  rfl

section

variable {Part : Type} (chunkOf : Part → ParsedChunk)

def starts (part : Part) : Bool := (chunkOf part).chunkType ≠ .frameSequel

/-- A first fragment does not end a frame, and a sequel does if it is marked as the last one. -/
def ends (part : Part) : Bool :=
  match (chunkOf part).chunkType with
  | .frameSequel => (chunkOf part).isLastFragment
  | .frameFirst => false
  | _ => true

def full (parts : List Part) : Bool :=
  FrameAssembler.maxPendingPoints ≤ ((parts.map chunkOf).flatMap ParsedChunk.points).length

theorem map_some_flush (pending : List Part) :
    (join (pending.map chunkOf)).toList.map some = (flush pending).map fun parts => join (parts.map chunkOf) := by
  cases pending with
  | nil | cons => rfl

theorem join_concat {pending : List Part} {frame : ParsedChunk} (joined : join (pending.map chunkOf) = some frame)
    (part : Part) : join ((pending ++ [part]).map chunkOf) =
      some { frame with points := frame.points ++ (chunkOf part).points } := by
  cases pending with
  | nil => cases joined
  | cons =>
    obtain rfl := Option.some.inj joined
    simp [join]

theorem push_refines (pending : List Part) (part : Part) :
    let pushed := Reassembly.push (starts chunkOf) (ends chunkOf) (full chunkOf) pending part
    let result := FrameAssembler.push ⟨join (pending.map chunkOf)⟩ (chunkOf part)
    result.1.map some = pushed.1.map (fun parts => join (parts.map chunkOf)) ∧
      result.2 = ⟨join (pushed.2.map chunkOf)⟩ := by
  dsimp only
  have flushed := map_some_flush chunkOf pending
  unfold FrameAssembler.push
  cases type : (chunkOf part).chunkType with
  | frameSequel =>
    have later : starts chunkOf part = false := by
      rw [starts, type]
      rfl
    have last : ends chunkOf part = (chunkOf part).isLastFragment := by rw [ends, type]
    cases joined : join (pending.map chunkOf) with
    | none =>
      obtain rfl : pending = [] := by simpa [join] using joined
      rw [push_stray later]
      exact ⟨rfl, rfl⟩
    | some frame =>
      have begun : pending ≠ [] := by
        rintro rfl
        cases joined
      have grown := join_concat chunkOf joined part
      have filled : full chunkOf (pending ++ [part]) =
          decide (FrameAssembler.maxPendingPoints ≤ (frame.points ++ (chunkOf part).points).length) := by
        rw [full, join_points grown]
      rw [push_later later begun, last, filled]
      dsimp only
      split_ifs with done
      · exact ⟨congrArg ([·]) grown.symm, rfl⟩
      · exact ⟨rfl, congrArg FrameAssembler.mk grown.symm⟩
  | frameFirst =>
    have start : starts chunkOf part = true := by
      rw [starts, type]
      rfl
    have more : ends chunkOf part = false := by rw [ends, type]
    rw [push_first start more]
    exact ⟨flushed, by simp [join]⟩
  | _ =>
    have start : starts chunkOf part = true := by
      rw [starts, type]
      rfl
    have last : ends chunkOf part = true := by rw [ends, type]
    rw [push_whole start last]
    refine ⟨?_, rfl⟩
    rw [List.map_append, List.map_append, flushed]
    simp [join]

theorem feed_refines (pending parts : List Part) :
    (FrameAssembler.feed ⟨join (pending.map chunkOf)⟩ (parts.map chunkOf)).1.map some =
      (run (starts chunkOf) (ends chunkOf) (full chunkOf) pending parts).1.map fun parts =>
        join (parts.map chunkOf) := by
  induction parts generalizing pending with
  | nil => rfl
  | cons part parts ih =>
    obtain ⟨ready, after⟩ := push_refines chunkOf pending part
    rw [List.map_cons, FrameAssembler.feed, run, List.map_append, List.map_append, ready, after, ih]

end

/-- A fragment with the chunk that was decoded from it. -/
abbrev Piece := Fragment × Idn.ParsedChunk

def rendered (piece : Piece) : ParsedChunk := parsedChunkFromReceived piece.2

def Earlier (one other : Piece) : Prop := one.1.Before other.1

instance : IsStrictOrder Piece Earlier where
  irrefl piece earlier := by
    unfold Earlier Fragment.Before at earlier
    omega
  trans one other third first second := by
    unfold Earlier Fragment.Before at *
    omega

variable {piece : Piece}

section

variable {Address : Type} [DecidableEq Address] {source : Address} {parser : FrameParser Address} {serviceId : UInt8}
  {frames : List (List Fragment)} {arrived : List Fragment}

section

variable (numbered : Numbered serviceId 0 frames)

include numbered

section

variable (lossy : arrived.Sublist frames.flatten)

include lossy

theorem pieces_sorted : (pieces (receive source parser arrived)).Pairwise Earlier := by
  have inside := pieces_sublist source parser arrived
  have sorted : ((pieces (receive source parser arrived)).map Prod.fst).Pairwise Fragment.Before :=
    numbered.sorted.sublist (inside.trans lossy)
  rw [List.pairwise_map] at sorted
  exact sorted

theorem frame_of_piece (member : piece ∈ pieces (receive source parser arrived)) :
    ∃ frame, piece.1 ∈ frame ∧ IsFrame serviceId piece.1.frame frame := by
  obtain ⟨frame, own, isFrame, -, -⟩ := numbered.of_mem (lossy.subset (pieces_mem source parser member))
  exact ⟨frame, own, isFrame⟩

theorem arrived_sent : ∀ fragment ∈ arrived, fragment.Sent serviceId := by
  intro fragment member
  obtain ⟨frame, own, isFrame, -, -⟩ := numbered.of_mem (lossy.subset member)
  exact isFrame.chunks fragment own

theorem starts_piece (member : piece ∈ pieces (receive source parser arrived)) :
    starts rendered piece = decide (piece.1.index = 0) := by
  obtain ⟨frame, own, isFrame⟩ := frame_of_piece numbered lossy member
  have type := (pieces_kind source (arrived_sent numbered lossy) parser member).1
  have sequel := isFrame.isSequel own
  have same : starts rendered piece = !piece.1.kind.isSequel := by
    change decide (piece.2.chunkType ≠ .frameSequel) = _
    rw [type]
    cases piece.1.kind
    all_goals rfl
  rw [same, sequel]
  simp

theorem ends_piece (member : piece ∈ pieces (receive source parser arrived)) :
    ends rendered piece = piece.1.kind.isLast := by
  obtain ⟨frame, own, isFrame⟩ := frame_of_piece numbered lossy member
  obtain ⟨type, last⟩ := pieces_kind source (arrived_sent numbered lossy) parser member
  have mode : piece.1.kind.frameMode = .frame := by
    rw [(isFrame.label own).2.2]
    exact Sender.fragmentKind_frameMode _ _
  change (match piece.2.chunkType with
    | .frameSequel => piece.2.isLastFragment
    | .frameFirst => false
    | _ => true) = _
  rw [type, last]
  cases kind : piece.1.kind with
  | wave =>
    rw [kind] at mode
    cases mode
  | _ => rfl

end

end

/-! ### Releases -/

def releases (source : Address) (arrived : List Fragment) : List (List Piece) :=
  (run (starts rendered) (ends rendered) (full rendered) [] (pieces (receive source .new arrived))).1

/-- The chunks that are released for what the receiver decodes of these packets. -/
def released (packets : List (Address × List UInt8)) : List ParsedChunk :=
  let received := (FrameParser.new.results packets).filterMap fun result => decoded result.2
  (FrameAssembler.new.feed (received.map parsedChunkFromReceived)).1

theorem released_eq (source : Address) (arrived : List Fragment) :
    (released (arrived.map (Fragment.packet source))).map some =
      (releases source arrived).map fun release => join (release.map rendered) := by
  have fed : (pieces (receive source .new arrived)).map rendered =
      ((FrameParser.new.results (arrived.map (Fragment.packet source))).filterMap fun result => decoded result.2).map
        parsedChunkFromReceived := by
    rw [← pieces_receive, List.map_map]
    rfl
  unfold released
  dsimp only
  rw [← fed]
  exact feed_refines rendered [] _

def LastMissing (heard : List Piece) (number : Nat) : Prop :=
  ∀ piece ∈ heard, piece.1.frame = number → piece.1.kind.isLast = false

def FirstMissing (heard : List Piece) (number : Nat) : Prop :=
  ∀ piece ∈ heard, piece.1.frame = number → piece.1.index ≠ 0

/-- A release goes from the first fragment of a frame on, and has another frame's only if both are missing what is
between them. -/
def FromOneFrame (heard release : List Piece) : Prop :=
  ∃ first rest, release = first :: rest ∧ first.1.index = 0 ∧ ∀ piece ∈ rest, piece.1.frame = first.1.frame ∨
    LastMissing heard first.1.frame ∧ FirstMissing heard piece.1.frame

theorem eq_of_labels {heard : List Piece} (sorted : heard.Pairwise Earlier) {one other : Piece} (member : one ∈ heard)
    (member' : other ∈ heard) (frame : one.1.frame = other.1.frame) (index : one.1.index = other.1.index) :
    one = other := by
  by_contra differ
  have compared : heard.Pairwise fun one other => Earlier one other ∨ Earlier other one := sorted.imp .inl
  have : Std.Symm fun one other => Earlier one other ∨ Earlier other one := ⟨fun _ _ => Or.symm⟩
  have either := compared.forall member member' differ
  unfold Earlier Fragment.Before at either
  omega

theorem fromOneFrame (numbered : Numbered serviceId 0 frames) (lossy : arrived.Sublist frames.flatten)
    {release : List Piece} (member : release ∈ releases source arrived) :
    FromOneFrame (pieces (receive source .new arrived)) release := by
  have sorted : (pieces (receive source .new arrived)).Pairwise Earlier := pieces_sorted numbered lossy
  have stretch := run_stretches (starts rendered) (ends rendered) (full rendered) (.inl rfl) _ release member
  have inside := run_infix (starts rendered) (ends rendered) (full rendered) [] _ release member
  rw [List.nil_append] at inside
  obtain ⟨first, rest, rfl, start, -, more⟩ := id stretch
  have heardFirst := inside.subset List.mem_cons_self
  have zero : first.1.index = 0 := by
    rw [starts_piece numbered lossy heardFirst] at start
    exact of_decide_eq_true start
  refine ⟨first, rest, rfl, zero, fun piece later => ?_⟩
  have heardPiece := inside.subset (List.mem_cons_of_mem first later)
  have earlier : Earlier first piece := (List.pairwise_cons.mp (sorted.sublist inside.sublist)).1 piece later
  by_cases same : piece.1.frame = first.1.frame
  · exact .inl same
  have ahead : first.1.frame < piece.1.frame := by
    unfold Earlier Fragment.Before at earlier
    omega
  refine .inr ⟨fun last heard ofFirst => ?_, fun start heard ofPiece zero' => ?_⟩
  · rw [← ends_piece numbered lossy heard]
    rcases Nat.eq_zero_or_pos last.1.index with none | some
    · obtain rfl := eq_of_labels sorted heard heardFirst ofFirst (none.trans zero.symm)
      apply more
      rw [List.dropLast_cons_of_ne_nil (List.ne_nil_of_mem later)]
      exact List.mem_cons_self
    · refine stretch.not_ends sorted inside List.mem_cons_self (List.mem_cons_of_mem _ later) heard
        (.inr ⟨ofFirst.symm, by omega⟩) (.inl ?_)
      rw [ofFirst]
      exact ahead
  · have begins := starts_piece numbered lossy heard
    have before : Earlier start piece ∨ start = piece := by
      rcases Nat.eq_zero_or_pos piece.1.index with none | some
      · exact .inr (eq_of_labels sorted heard heardPiece ofPiece (zero'.trans none.symm))
      · exact .inl (.inr ⟨ofPiece, by omega⟩)
    have after : Earlier first start := .inl (by rw [ofPiece]; exact ahead)
    rw [stretch.not_starts sorted inside later heard after before] at begins
    exact of_decide_eq_false begins.symm zero'

theorem releases_inOrder (numbered : Numbered serviceId 0 frames) (lossy : arrived.Sublist frames.flatten) :
    (releases source arrived).Pairwise fun one other =>
      ∀ first ∈ one.head?, ∀ second ∈ other.head?, first.1.frame < second.1.frame := by
  have once := run_sublist (starts rendered) (ends rendered) (full rendered) []
    (pieces (receive source .new arrived))
  have flat : (releases source arrived).flatten.Pairwise Earlier :=
    (pieces_sorted numbered lossy).sublist ((List.sublist_append_left _ _).trans once)
  have across := (List.pairwise_flatten.mp flat).2
  refine across.imp_of_mem fun {one other} member member' earlier first isFirst second isSecond => ?_
  obtain ⟨_, _, rfl, zero, -⟩ := fromOneFrame numbered lossy member
  obtain ⟨_, _, rfl, zero', -⟩ := fromOneFrame numbered lossy member'
  obtain rfl := Option.some.inj isFirst
  obtain rfl := Option.some.inj isSecond
  have apart := earlier _ List.mem_cons_self _ List.mem_cons_self
  unfold Earlier Fragment.Before at apart
  omega

theorem points_rendered (parts : List Piece) : (parts.map rendered).flatMap ParsedChunk.points =
    (parts.flatMap fun piece => piece.2.points).map RenderPoint.ofReceived := by
  rw [List.flatMap_map, List.map_flatMap]
  rfl

theorem message_of_frame (numbered : Numbered serviceId 0 frames) (lossy : arrived.Sublist frames.flatten)
    {number : Nat} {frame : List Fragment} (isFrame : IsFrame serviceId number frame) {message : List Piece}
    (heard : ∀ piece ∈ message, piece ∈ pieces (receive source parser arrived))
    (own : message.map (fun piece => (piece.1, piece.2.points)) = frame.map fun fragment => (fragment, fragment.points))
    (few : (frame.dropLast.flatMap Fragment.points).length < FrameAssembler.maxPendingPoints) :
    Message (starts rendered) (ends rendered) message ∧
      ∀ some, some <+: message.dropLast → full rendered some = false := by
  have fragments : message.map Prod.fst = frame := by
    simpa [Function.comp_def] using congrArg (List.map Prod.fst) own
  have front : message.dropLast.map Prod.fst = frame.dropLast := by rw [List.map_dropLast, fragments]
  refine ⟨⟨?_, ?_⟩, ?_⟩
  · cases message with
    | nil => exact absurd fragments.symm isFrame.begun
    | cons first rest =>
      refine ⟨first, rest, rfl, ?_, ?_, ?_⟩
      · rw [starts_piece numbered lossy (heard first List.mem_cons_self)]
        exact decide_eq_true (isFrame.index_head first.1 (by rw [← fragments]; rfl))
      · intro piece member
        rw [starts_piece numbered lossy (heard piece (List.mem_cons_of_mem _ member))]
        refine decide_eq_false (isFrame.index_tail piece.1 ?_)
        rw [← fragments]
        exact List.mem_map_of_mem member
      · intro piece member
        rw [ends_piece numbered lossy (heard piece (List.mem_of_mem_dropLast member))]
        refine isFrame.isLast_dropLast piece.1 ?_
        rw [← front]
        exact List.mem_map_of_mem member
  · intro last isLast
    rw [ends_piece numbered lossy (heard last (List.mem_of_getLast? isLast))]
    refine isFrame.isLast_getLast last.1 ?_
    rw [← fragments, List.getLast?_map]
    exact congrArg (Option.map Prod.fst) isLast
  · rintro some ⟨rest, joined⟩
    have points : (message.dropLast.flatMap fun piece => piece.2.points) = frame.dropLast.flatMap Fragment.points := by
      have both := congrArg (fun list => list.dropLast.flatMap Prod.snd) own
      simpa only [← List.map_dropLast, List.flatMap_map] using both
    rw [full, points_rendered, List.length_map]
    refine decide_eq_false (not_le.mpr (lt_of_le_of_lt ?_ few))
    rw [← points, ← joined, List.flatMap_append, List.length_append]
    exact Nat.le_add_right _ _

/-- A frame that arrives whole is released once, as it was sent. -/
def ReleasedOnce (releases : List (List Piece)) (number : Nat) (frame : List Fragment) : Prop :=
  ∃ earlier release later chunk, releases = earlier ++ release :: later ∧ release.map Prod.fst = frame ∧
    join (release.map rendered) = some chunk ∧
    chunk.points = (frame.flatMap Fragment.points).map RenderPoint.ofReceived ∧
    ∀ other ∈ earlier ++ later, ∀ piece ∈ other, piece.1.frame ≠ number

theorem released_whole (numbered : Numbered serviceId 0 frames) (lossy : arrived.Sublist frames.flatten)
    {number : Nat} {frame : List Fragment} (found : frames[number]? = some frame)
    (arrives : ∀ fragment ∈ frame, fragment ∈ arrived)
    (understood : ∀ reception ∈ receive source .new arrived, reception.fragment.frame = number →
      reception.fragment.index = 0 → reception.Understood)
    (few : (frame.dropLast.flatMap Fragment.points).length < FrameAssembler.maxPendingPoints) :
    ReleasedOnce (releases source arrived) number frame := by
  obtain ⟨earlier, later, rfl, before, after⟩ := numbered.arrived_split lossy found arrives
  have isFrame := numbered.isFrame found
  rw [Nat.zero_add] at isFrame
  obtain ⟨parser, last, parts⟩ : ∃ parser last, receive source .new (earlier ++ frame ++ later) =
      receive source .new earlier ++ receive source parser frame ++ receive source last later :=
    ⟨_, _, by rw [receive_append, receive_append]⟩
  have heard : pieces (receive source .new (earlier ++ frame ++ later)) = pieces (receive source .new earlier) ++
      pieces (receive source parser frame) ++ pieces (receive source last later) := by
    rw [parts, pieces, List.filterMap_append, List.filterMap_append]
    rfl
  have own : (pieces (receive source parser frame)).map (fun piece => (piece.1, piece.2.points)) =
      frame.map fun fragment => (fragment, fragment.points) := pieces_frame source isFrame fun reception member zero => by
    refine understood reception ?_ ?_ zero
    · rw [parts]
      exact List.mem_append_left _ (List.mem_append_right _ member)
    · have listed := List.mem_map_of_mem (f := Reception.fragment) member
      rw [receive_fragments] at listed
      exact (isFrame.label listed).1
  have here : ∀ piece ∈ pieces (receive source parser frame),
      piece ∈ pieces (receive source .new (earlier ++ frame ++ later)) := by
    intro piece member
    rw [heard]
    exact List.mem_append_left _ (List.mem_append_right _ member)
  obtain ⟨message, room⟩ := message_of_frame numbered lossy isFrame here own few
  obtain ⟨front, back, all, ahead, behind⟩ := run_around (starts rendered) (ends rendered) (full rendered) message room
    (pieces (receive source .new earlier)) (pieces (receive source last later))
  rw [← heard] at all
  obtain ⟨chunk, joined⟩ : ∃ chunk, join ((pieces (receive source parser frame)).map rendered) = some chunk := by
    obtain ⟨first, rest, shape, -⟩ := message.1
    rw [shape]
    exact ⟨_, rfl⟩
  refine ⟨front, _, back, chunk, all, ?_, joined, ?_, ?_⟩
  · simpa [Function.comp_def] using congrArg (List.map Prod.fst) own
  · have points := congrArg (List.flatMap Prod.snd) own
    rw [List.flatMap_map, List.flatMap_map] at points
    rw [← join_points joined, points_rendered, points]
  · rintro other member piece inside differ
    rcases List.mem_append.mp member with member | member
    · exact before piece.1 (pieces_mem source _ (ahead.subset (List.mem_flatten_of_mem member inside))) differ
    · exact after piece.1 (pieces_mem source _ (behind.subset (List.mem_flatten_of_mem member inside))) differ

/-- What is released of the frames of which these fragments arrive. -/
structure Reassembled (source : Address) (frames : List (List Fragment)) (arrived : List Fragment) : Prop where
  /-- A released chunk is the first of its pieces with the points of all. -/
  joined : (released (arrived.map (Fragment.packet source))).map some =
    (releases source arrived).map fun release => join (release.map rendered)
  /-- Its pieces were decoded, and are released at most once, in their order. -/
  once : (releases source arrived).flatten.Sublist (pieces (receive source .new arrived))
  single : ∀ release ∈ releases source arrived, FromOneFrame (pieces (receive source .new arrived)) release
  inOrder : (releases source arrived).Pairwise fun one other =>
    ∀ first ∈ one.head?, ∀ second ∈ other.head?, first.1.frame < second.1.frame
  /-- What is understood is decoded to the points that were sent. -/
  understood : ∀ reception ∈ receive source .new arrived, reception.Understood →
    ∃ chunk, reception.chunk = some chunk ∧ chunk.points = reception.fragment.points
  whole : ∀ number frame, frames[number]? = some frame → (∀ fragment ∈ frame, fragment ∈ arrived) →
    (∀ reception ∈ receive source .new arrived, reception.fragment.frame = number → reception.fragment.index = 0 →
      reception.Understood) →
    (frame.dropLast.flatMap Fragment.points).length < FrameAssembler.maxPendingPoints →
      ReleasedOnce (releases source arrived) number frame

/-- In frame mode, whatever datagrams are lost, the released chunks are stretches of fragments from the first one of a
frame on, in order, and have fragments of another frame only if what is between them is missing. Frames that arrive
whole, the first datagram of each being understood, are released whole, once and in order. -/
theorem frames_reassembled (network : Network) (delivers : ∀ sends, network.delivers sends = true)
    (serviceId clientGroup : UInt8) (connectTime : Nat) (calls : List Call) (matching : Matching .frame .xyrgbi calls)
    (source : Address) :
    let log := (Sender.run network (.setFrameMode .frame :: calls)
      (Sender.new (Stream.connect serviceId clientGroup connectTime))).log
    ∃ frames : List (List Fragment), frames.flatten.map Fragment.out = (outgoing log).reverse ∧
      Numbered serviceId 0 frames ∧
      frames.map (fun frame => frame.flatMap Fragment.points) = written 30000 calls ∧
      ∀ arrived, arrived.Sublist frames.flatten → Reassembled source frames arrived := by
  intro log
  obtain ⟨chunks, all, frameWise⟩ := Sender.run_emits delivers
    ((Sender.new (Stream.connect serviceId clientGroup connectTime)).setFrameMode .frame) rfl rfl matching
  obtain ⟨frames, numbered, points, sent⟩ := all.numbered 0
  refine ⟨frames, ?_, numbered, points.trans frameWise, fun arrived lossy => ?_⟩
  · have out : outgoing log = (frames.flatten.map Fragment.out).reverse ++ [] := sent
    rw [out, List.append_nil, List.reverse_reverse]
  · have once := run_sublist (starts rendered) (ends rendered) (full rendered) []
      (pieces (receive source .new arrived))
    exact {
      joined := released_eq source arrived
      once := (List.sublist_append_left _ _).trans once
      single := fun release member => fromOneFrame numbered lossy member
      inOrder := releases_inOrder numbered lossy
      understood := fun reception member => receive_understood source (arrived_sent numbered lossy) .new member
      whole := fun number frame found arrives understood few =>
        released_whole numbered lossy found arrives understood few }

end

/-- A frame of red points and a dark one, each in two datagrams. -/
def redAndDark : List Call :=
  [.setPointFormat .extended, .writeFrame (.extended (List.replicate 80 ⟨0, 0, 65535, 0, 0, 65535, 0, 0, 0, 0⟩)),
    .writeFrameWithAck (.extended (List.replicate 80 ⟨0, 0, 0, 0, 0, 0, 0, 0, 0, 0⟩))]

theorem frames_reassembled_two :
    Matching .frame .xyrgbi redAndDark ∧ ∃ frames : List (List Fragment),
      frames.map (fun frame => frame.flatMap Fragment.points) = written 30000 redAndDark ∧
      ∀ arrived, arrived.Sublist frames.flatten → Reassembled () frames arrived :=
  have matching : Matching .frame .xyrgbi redAndDark := ⟨rfl, rfl, rfl, trivial⟩
  have reassembled := frames_reassembled (steadyNetwork fun _ => true) (fun _ => rfl) 1 0 0 redAndDark matching ()
  ⟨matching, reassembled.imp fun _ frames => ⟨frames.2.2.1, frames.2.2.2⟩⟩

/-- The packets of both frames. -/
def redAndDarkPackets : List (Unit × List UInt8) :=
  packets () (Sender.run (steadyNetwork fun _ => true) (.setFrameMode .frame :: redAndDark)
    (Sender.new (Stream.connect 1 0 0))).log

/-- If all of the first frame is lost, and its config with it, the second one is not released although all of it
arrives. If the last datagram of the first frame and the first one of the second are lost, a chunk of both is
released. -/
theorem released_mixed : redAndDarkPackets.length = 4 ∧ released (redAndDarkPackets.drop 2) = [] ∧
    (released (redAndDarkPackets.take 1 ++ redAndDarkPackets.drop 3)).map
      (fun chunk => chunk.points.map RenderPoint.r) = [List.replicate 40 1 ++ List.replicate 40 0] := by
  decide +kernel

end LaserDac.IdnSimulator
