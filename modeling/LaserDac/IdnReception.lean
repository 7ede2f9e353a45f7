import LaserDac.IdnConfig
import LaserDac.IdnFormats
import LaserDac.IdnIsolation

/-!
What the parser makes of a datagram of the sender. Every point type has its conversion; the parser returns the points
of a datagram that brings its config or whose last config before it is in the table.
-/

namespace LaserDac.Idn

open LaserDac.Cursors LaserDac.Runs

/-- A point type with the format that announces it and the point that is received for each. -/
class Received (P : Type) [Point P] where
  format : PointFormat
  received : P → ReceivedPoint
  sizeBytes_eq : Point.sizeBytes P = format.sampleFormat.sampleSize
  takes : ∀ point : P, Takes (readPoint format.sampleFormat) (Point.write point) (received point)

def PointXyrgbi.received (p : PointXyrgbi) : ReceivedPoint where
  x := normalizeI16Coordinate p.x
  y := normalizeI16Coordinate p.y
  r := scaleU8 p.r * scaleU8 p.i
  g := scaleU8 p.g * scaleU8 p.i
  b := scaleU8 p.b * scaleU8 p.i

def PointXyrgbHighRes.received (p : PointXyrgbHighRes) : ReceivedPoint where
  x := normalizeI16Coordinate p.x
  y := normalizeI16Coordinate p.y
  r := scaleU16 p.r
  g := scaleU16 p.g
  b := scaleU16 p.b

def PointExtended.received (p : PointExtended) : ReceivedPoint where
  x := normalizeI16Coordinate p.x
  y := normalizeI16Coordinate p.y
  r := scaleU16 p.r * scaleU16 p.i
  g := scaleU16 p.g * scaleU16 p.i
  b := scaleU16 p.b * scaleU16 p.i

theorem readPoint_takes {format : SampleFormat} {bytes : List UInt8} {r g b : ℚ}
    (colors : Takes (readColors format) bytes (r, g, b)) (x y : Int16) :
    Takes (readPoint format) (writeI16 x ++ (writeI16 y ++ bytes))
      { x := normalizeI16Coordinate x, y := normalizeI16Coordinate y, r, g, b } := by
  unfold readPoint
  exact (Takes.i16 x).bind ((Takes.i16 y).bind (colors.map _))

theorem PointXyrgbi.takes (p : PointXyrgbi) : Takes (readPoint .xyrgbi) p.write p.received := by
  have colors : Takes (readColors .xyrgbi) (writeU8 p.r ++ (writeU8 p.g ++ (writeU8 p.b ++ writeU8 p.i)))
      (p.received.r, p.received.g, p.received.b) :=
    (Takes.u8 p.r).bind ((Takes.u8 p.g).bind ((Takes.u8 p.b).bind ((Takes.u8 p.i).map _)))
  have point := readPoint_takes colors p.x p.y
  simp only [← List.append_assoc] at point
  exact point

theorem PointXyrgbHighRes.takes (p : PointXyrgbHighRes) : Takes (readPoint .xyrgbHighRes) p.write p.received := by
  have colors : Takes (readColors .xyrgbHighRes) (writeU16 p.r ++ (writeU16 p.g ++ writeU16 p.b))
      (p.received.r, p.received.g, p.received.b) :=
    (Takes.u16 p.r).bind ((Takes.u16 p.g).bind ((Takes.u16 p.b).map _))
  have point := readPoint_takes colors p.x p.y
  simp only [← List.append_assoc] at point
  exact point

theorem PointExtended.takes (p : PointExtended) : Takes (readPoint .extended) p.write p.received := by
  have users : Takes (readMany readU16 4) (writeU16 p.u1 ++ (writeU16 p.u2 ++ (writeU16 p.u3 ++ writeU16 p.u4)))
      [p.u1, p.u2, p.u3, p.u4] := Takes.many Takes.u16 [p.u1, p.u2, p.u3, p.u4]
  have colors : Takes (readColors .extended) (writeU16 p.r ++ (writeU16 p.g ++ (writeU16 p.b ++ (writeU16 p.i ++
      (writeU16 p.u1 ++ (writeU16 p.u2 ++ (writeU16 p.u3 ++ writeU16 p.u4)))))))
      (p.received.r, p.received.g, p.received.b) :=
    (Takes.u16 p.r).bind ((Takes.u16 p.g).bind ((Takes.u16 p.b).bind ((Takes.u16 p.i).bind (users.map _))))
  have point := readPoint_takes colors p.x p.y
  simp only [← List.append_assoc] at point
  exact point

instance : Received PointXyrgbi := ⟨.xyrgbi, PointXyrgbi.received, rfl, PointXyrgbi.takes⟩

instance : Received PointXyrgbHighRes := ⟨.xyrgbHighRes, PointXyrgbHighRes.received, rfl, PointXyrgbHighRes.takes⟩

instance : Received PointExtended := ⟨.extended, PointExtended.received, rfl, PointExtended.takes⟩

def Stream.channel (stream : Stream) : UInt8 := (stream.channelId >>> 8).toUInt8

section

variable (stream : Stream) (flag : Bool) (cnkType : UInt8)

theorem contentId_channelmsg : stream.contentId flag cnkType &&& idnflgContentidChannelmsg ≠ 0 := by
  intro zero
  have bit := congrArg (fun value : UInt16 => value.toBitVec.getLsbD 15) zero
  simp [Stream.contentId, idnflgContentidChannelmsg] at bit

theorem contentId_flag : decide (stream.contentId flag cnkType &&& idnflgContentidConfigLstfrg ≠ 0) = flag := by
  have masked : stream.contentId flag cnkType &&& idnflgContentidConfigLstfrg = if flag then 0x4000 else 0 := by
    unfold Stream.contentId Stream.channelId idnflgContentidChannelmsg idnflgContentidConfigLstfrg
    apply UInt16.toBitVec_inj.mp
    apply BitVec.eq_of_getLsbD_eq
    intro i small
    cases flag
    all_goals
      interval_cases i
      all_goals simp
  rw [masked]
  cases flag
  all_goals rfl

theorem contentId_type : (stream.contentId flag cnkType &&& 0x00FF).toUInt8 = cnkType := by
  unfold Stream.contentId Stream.channelId idnflgContentidChannelmsg idnflgContentidConfigLstfrg
  apply UInt8.toBitVec_inj.mp
  apply BitVec.eq_of_getLsbD_eq
  intro i small
  simp only [UInt16.toBitVec_toUInt8]
  cases flag
  all_goals
    interval_cases i
    all_goals simp

theorem contentId_channel :
    ((stream.contentId flag cnkType &&& 0x3F00) >>> 8).toUInt8 = stream.channel := by
  unfold Stream.channel Stream.contentId Stream.channelId idnflgContentidChannelmsg idnflgContentidConfigLstfrg
  apply UInt8.toBitVec_inj.mp
  apply BitVec.eq_of_getLsbD_eq
  intro i small
  simp only [UInt16.toBitVec_toUInt8]
  cases flag
  all_goals
    interval_cases i
    all_goals simp

end

def Datagram.body (datagram : Datagram) : List UInt8 :=
  datagram.config.elim [] Config.write ++ (datagram.chunk.elim [] SampleChunkHeader.write ++ datagram.samples.flatten)

def Datagram.metadata (datagram : Datagram) : ChunkMetadata :=
  metadataOf datagram.msgSize datagram.header.sequence datagram.contentId (UInt32.ofNat datagram.timestampUs)

theorem Datagram.write_eq (datagram : Datagram) :
    datagram.write = datagram.header.write ++ (writeU16 (UInt16.ofNat datagram.msgSize) ++
      (writeU16 datagram.contentId ++ (writeU32 (UInt32.ofNat datagram.timestampUs) ++ datagram.body))) := by
  simp only [Datagram.write, ChannelMessageHeader.write, Datagram.body, List.append_assoc]

theorem Datagram.write_drop (datagram : Datagram) : datagram.write.drop 12 = datagram.body := by
  rw [Datagram.write_eq]
  rfl

theorem beAt_write_msgSize {datagram : Datagram} (small : datagram.msgSize < 65536) :
    beAt datagram.write 4 2 = datagram.msgSize := by
  rw [Datagram.write_eq]
  refine (beAt_writeU16 datagram.header.write _ (UInt16.ofNat datagram.msgSize)).trans ?_
  rw [UInt16.toNat_ofNat', Nat.mod_eq_of_lt small]

theorem headerOf_write {datagram : Datagram} (small : datagram.msgSize < 65536) :
    headerOf datagram.write = datagram.metadata := by
  have sequence : beAt datagram.write 2 2 = datagram.header.sequence.toNat := by
    rw [Datagram.write_eq, PacketHeader.write, List.append_assoc]
    exact beAt_writeU16 (writeU8 datagram.header.command ++ writeU8 datagram.header.flags) _ _
  have contentId : beAt datagram.write 6 2 = datagram.contentId.toNat := by
    rw [Datagram.write_eq, ← List.append_assoc]
    exact beAt_writeU16 (datagram.header.write ++ writeU16 (UInt16.ofNat datagram.msgSize)) _ _
  have timestamp : beAt datagram.write 8 4 = (UInt32.ofNat datagram.timestampUs).toNat := by
    rw [Datagram.write_eq, ← List.append_assoc, ← List.append_assoc]
    exact beAt_writeU32 (datagram.header.write ++ writeU16 (UInt16.ofNat datagram.msgSize) ++
      writeU16 datagram.contentId) _ _
  rw [headerOf, beAt_write_msgSize small, sequence, contentId, timestamp, UInt16.ofNat_toNat, UInt16.ofNat_toNat,
    UInt32.ofNat_toNat]
  rfl

/-! ### Chunks -/

/-- What a datagram of points is: a chunk of a wave, a whole frame, the first fragment of one or a later one. -/
inductive ChunkKind where
  | wave
  | frame
  | frameFirst
  | frameSequel (last : Bool)
  deriving DecidableEq, Repr

namespace ChunkKind

def byte : ChunkKind → UInt8
  | wave => idnvalCnktypeLpgrfWave
  | frame => idnvalCnktypeLpgrfFrame
  | frameFirst => idnvalCnktypeLpgrfFrameFirst
  | frameSequel _ => idnvalCnktypeLpgrfFrameSequel

def chunkType : ChunkKind → ChunkType
  | wave => .wave
  | frame => .frame
  | frameFirst => .frameFirst
  | frameSequel _ => .frameSequel

def frameMode : ChunkKind → FrameMode
  | wave => .wave
  | _ => .frame

def isSequel : ChunkKind → Bool
  | frameSequel _ => true
  | _ => false

def isLast : ChunkKind → Bool
  | frame => true
  | frameSequel last => last
  | _ => false

/-- One flag says that a config follows or, for a sequel, that it is the last fragment. -/
def flag (kind : ChunkKind) (hasConfig : Bool) : Bool := if kind.isSequel then kind.isLast else hasConfig

end ChunkKind

/-- A datagram of this stream with these points in it. -/
structure Carries (found : Stream) (datagram : Datagram) (kind : ChunkKind) (points : List ReceivedPoint) : Prop where
  content : datagram.contentId = found.contentId (kind.flag datagram.config.isSome) kind.byte
  mode : found.frameMode = kind.frameMode
  config : datagram.config = none ∨ kind.isSequel = false ∧ datagram.config = some found.config
  header : if kind.isSequel then datagram.chunk = none
    else ∃ durationUs, datagram.chunk = some (.new found.sdmFlags durationUs)
  samples : Takes (readMany (readPoint found.pointFormat.sampleFormat) points.length) datagram.samples.flatten points
  length : datagram.samples.flatten.length = points.length * found.pointFormat.sampleFormat.sampleSize
  size : datagram.msgSize + PacketHeader.sizeBytes = datagram.write.length
  fits : datagram.write.length ≤ maxUdpPayload

def Config.state (config : Config) : Option ChannelState :=
  (classifyFormat config.descriptors).map fun format =>
    ⟨format, config.header.flags &&& 0x30, config.header.serviceMode⟩

variable (stream : Stream)

theorem parseChannelConfig_takes :
    Takes parseChannelConfig stream.config.write
      (configOf stream.config.header.flags stream.config.header.serviceMode stream.config.descriptors) := by
  have count : stream.config.header.wordCount.toNat * 2 = stream.config.descriptors.length := by
    change stream.pointFormat.wordCount.toNat * 2 = stream.pointFormat.descriptors.length
    cases stream.pointFormat
    all_goals rfl
  have descriptors := Takes.many Takes.u16 stream.config.descriptors
  rw [← count, List.map_id'] at descriptors
  have config : Takes parseChannelConfig (writeU8 stream.config.header.wordCount ++ (writeU8 stream.config.header.flags ++
      (writeU8 stream.config.header.serviceId ++ (writeU8 stream.config.header.serviceMode ++
        stream.config.descriptors.flatMap writeU16)))) _ :=
    (Takes.u8 _).bind ((Takes.u8 _).bind ((Takes.u8 _).bind ((Takes.u8 _).bind (descriptors.map _))))
  simp only [← List.append_assoc] at config
  exact config

theorem config_routing : stream.config.header.flags &&& idnflgChncfgRouting ≠ 0 := by
  intro zero
  have bit := congrArg (fun value : UInt8 => value.toBitVec.getLsbD 0) zero
  simp [Stream.config, idnflgChncfgRouting] at bit

theorem config_close : stream.config.header.flags &&& idnflgChncfgClose = 0 := by
  change (idnflgChncfgRouting ||| stream.sdmFlags) &&& idnflgChncfgClose = 0
  unfold idnflgChncfgRouting idnflgChncfgClose Stream.sdmFlags
  apply UInt8.toBitVec_inj.mp
  apply BitVec.eq_of_getLsbD_eq
  intro i small
  interval_cases i
  all_goals simp

def Stream.readConfig (stream : Stream) : ChannelConfig :=
  configOf stream.config.header.flags stream.config.header.serviceMode stream.config.descriptors

def Stream.channelState (stream : Stream) : ChannelState where
  format := stream.pointFormat.sampleFormat
  serviceDataMatch := stream.config.header.flags &&& 0x30
  serviceMode := stream.frameMode.serviceMode

theorem config_state : stream.config.state = some stream.channelState := by
  change (classifyFormat stream.pointFormat.descriptors).map _ = _
  rw [classifyFormat_descriptors]
  rfl

theorem serviceMode_ne_void (mode : FrameMode) : mode.serviceMode ≠ idnvalSmodVoid := by
  cases mode
  all_goals decide

theorem channelState_readConfig (cached : Option ChannelState) :
    channelState (some stream.readConfig) cached = some (some stream.channelState) := by
  have routes : stream.readConfig.hasRouting = true := decide_eq_true (config_routing stream)
  have format : stream.readConfig.format = some stream.pointFormat.sampleFormat := by
    refine (if_pos ⟨config_routing stream, serviceMode_ne_void _⟩).trans ?_
    exact classifyFormat_descriptors stream.pointFormat
  unfold channelState
  dsimp only
  rw [if_pos routes, format]
  exact if_pos (serviceMode_ne_void stream.frameMode)

theorem stateUpdate_readConfig :
    stateUpdateForConfig (some stream.readConfig) (some stream.channelState)
      ((some stream.readConfig).any ChannelConfig.closesChannel) = .store stream.channelState := by
  have routes : (some stream.readConfig).any ChannelConfig.hasRouting = true := decide_eq_true (config_routing stream)
  have open_ : ¬ (some stream.readConfig).any ChannelConfig.closesChannel = true := by
    rw [Option.any_some, ChannelConfig.closesChannel, decide_eq_true_eq]
    exact not_not.mpr (config_close stream)
  rw [stateUpdateForConfig, if_neg open_, if_pos routes]
  rfl

/-- A datagram brings its config, or its format, its mode and its match are in the table. -/
def Understood (cached : Option ChannelState) (found : Stream) (datagram : Datagram) : Prop :=
  datagram.config.isSome = true ∨ ∃ state ∈ cached, state.format = found.pointFormat.sampleFormat ∧
    state.serviceMode = found.frameMode.serviceMode ∧
    ∀ chunk ∈ datagram.chunk, state.serviceDataMatch = chunk.flags &&& 0x30

theorem Config.Matches.state {config : Config} {found : Stream} {datagram : Datagram}
    (covers : config.Matches found datagram) :
    ∃ state, config.state = some state ∧ state.format = found.pointFormat.sampleFormat ∧
      state.serviceMode = found.frameMode.serviceMode ∧
      ∀ chunk ∈ datagram.chunk, state.serviceDataMatch = chunk.flags &&& 0x30 := by
  obtain ⟨descriptors, mode, same⟩ := covers
  rw [Config.state, descriptors, classifyFormat_descriptors]
  exact ⟨_, rfl, rfl, mode, same⟩

variable {state : ChannelState} {cursor : Cursor}

namespace Carries

variable {found : Stream} {datagram : Datagram} {kind : ChunkKind} {points : List ReceivedPoint}

section

variable (carries : Carries found datagram kind points)

include carries

theorem small : datagram.msgSize < 65536 := by
  have size := carries.size
  have fits := carries.fits
  rw [PacketHeader.sizeBytes] at size
  rw [maxUdpPayload] at fits
  omega

theorem chunkType : datagram.metadata.chunkType = kind.chunkType := by
  change ChunkType.fromByte (datagram.contentId &&& 0x00FF).toUInt8 = _
  rw [carries.content, contentId_type]
  cases kind
  all_goals rfl

theorem channelId : datagram.metadata.channelId = found.channel := by
  change ((datagram.contentId &&& 0x3F00) >>> 8).toUInt8 = _
  rw [carries.content, contentId_channel]

theorem configOrLastFragment : datagram.metadata.configOrLastFragment = kind.flag datagram.config.isSome := by
  change decide (datagram.contentId &&& idnflgContentidConfigLstfrg ≠ 0) = _
  rw [carries.content, contentId_flag]

theorem hasConfig : datagram.metadata.hasConfig = datagram.config.isSome := by
  change (datagram.metadata.configOrLastFragment && decide ((datagram.contentId &&& 0x00FF).toUInt8 < 0xC0)) = _
  rw [carries.configOrLastFragment, carries.content, contentId_type]
  cases kind with
  | frameSequel =>
    have none : datagram.config = none := carries.config.resolve_right fun config => by cases config.1
    rw [none]
    exact Bool.and_false _
  | _ => exact Bool.and_true _

theorem isLastFragment : datagram.metadata.isLastFragment = kind.isLast := by
  have type := carries.chunkType
  have flag := carries.configOrLastFragment
  unfold Datagram.metadata metadataOf at type flag ⊢
  dsimp only at type flag ⊢
  rw [type]
  cases kind with
  | frameSequel => exact flag
  | _ => rfl

theorem messageEnd_write : messageEnd datagram.write = datagram.write.length := by
  rw [messageEnd, beAt_write_msgSize carries.small, ← carries.size, Nat.add_comm]
  rfl

theorem framed : Framed datagram.write := by
  have content : UInt16.ofNat (beAt datagram.write 6 2) = datagram.contentId :=
    congrArg ChunkMetadata.contentId (headerOf_write carries.small)
  have fits := carries.fits
  rw [maxUdpPayload] at fits
  refine ⟨?_, ?_, ?_, ?_⟩
  · rw [carries.messageEnd_write, Datagram.write_eq]
    simp only [List.length_append, writeU16_length, writeU32_length]
    change 12 ≤ 4 + _
    omega
  · rw [carries.messageEnd_write]
    omega
  · exact le_of_eq carries.messageEnd_write
  · rw [content, carries.content]
    exact contentId_channelmsg _ _ _

theorem messageOf_write : messageOf datagram.write = datagram.write := by
  rw [messageOf, carries.messageEnd_write, List.take_length]

theorem decodeSamples (left : cursor.Left datagram.samples.flatten) (metadata : ChunkMetadata)
    (format : state.format = found.pointFormat.sampleFormat) (update : StateUpdate) (durationUs : UInt32) :
    Idn.decodeSamples metadata state update durationUs cursor =
      .ok ⟨some (chunkOf metadata durationUs state.format points), update⟩ := by
  have remaining : cursor.data.length - cursor.position = points.length * state.format.sampleSize := by
    rw [← left.length, carries.length, format]
    omega
  have inside : cursor.position ≤ cursor.data.length := by
    rw [← left.length]
    exact Nat.le_add_right _ _
  have whole : cursor.Left (datagram.samples.flatten ++ []) := by rwa [List.append_nil]
  have read := (carries.samples.left whole).1
  unfold Idn.decodeSamples
  rw [if_pos inside, remaining]
  dsimp only [orCrash, bind, Except.bind]
  rw [if_neg (not_not.mpr (Nat.mul_mod_left _ _)), Nat.mul_div_cancel _ (sampleSize_pos _), format, read]
  rfl

section

variable (left : cursor.Left (datagram.chunk.elim [] SampleChunkHeader.write ++ datagram.samples.flatten))

include left

theorem decodeChunk (format : state.format = found.pointFormat.sampleFormat)
    (same : ∀ chunk ∈ datagram.chunk, state.serviceDataMatch = chunk.flags &&& 0x30) (update : StateUpdate) :
    ∃ durationUs, Idn.decodeChunk datagram.metadata state update cursor =
      .ok ⟨some (chunkOf datagram.metadata durationUs state.format points), update⟩ := by
  have header := carries.header
  unfold Idn.decodeChunk
  rw [carries.chunkType]
  cases kind with
  | frameSequel =>
    have none : datagram.chunk = none := header
    rw [none] at left
    exact ⟨0, carries.decodeSamples left _ format update 0⟩
  | _ =>
    obtain ⟨durationUs, new⟩ := header
    rw [new] at left same
    obtain ⟨read, left⟩ := (Takes.u32 _).left left
    have flags := same _ rfl
    refine ⟨(SampleChunkHeader.new found.sdmFlags durationUs).durationUs, ?_⟩
    rw [if_neg (by decide), read]
    dsimp only [orFail, bind, Except.bind]
    refine (if_neg (not_not.mpr flags.symm)).trans ?_
    exact carries.decodeSamples left _ format update _

theorem parseWithState {config : Option ChannelConfig} {cached : Option ChannelState}
    (chosen : channelState config cached = some (some state)) (format : state.format = found.pointFormat.sampleFormat)
    (mode : state.serviceMode = found.frameMode.serviceMode)
    (same : ∀ chunk ∈ datagram.chunk, state.serviceDataMatch = chunk.flags &&& 0x30) :
    ∃ durationUs, Idn.parseWithState datagram.metadata cached config cursor =
      .ok ⟨some (chunkOf datagram.metadata durationUs state.format points),
        stateUpdateForConfig config (some state) (config.any ChannelConfig.closesChannel)⟩ := by
  have solid : datagram.metadata.chunkType ≠ .void := by
    rw [carries.chunkType]
    intro void
    cases kind
    all_goals cases void
  have accepts : serviceModeAcceptsChunk state.serviceMode datagram.metadata.chunkType = true := by
    rw [mode, carries.mode, carries.chunkType]
    cases kind
    all_goals rfl
  obtain ⟨durationUs, decoded⟩ := carries.decodeChunk left format same
    (stateUpdateForConfig config (some state) (config.any ChannelConfig.closesChannel))
  refine ⟨durationUs, ?_⟩
  unfold Idn.parseWithState
  rw [chosen]
  dsimp only
  rw [if_neg solid, if_pos accepts]
  exact decoded

end

end

theorem left_body (datagram : Datagram) : (Cursor.mk datagram.write 12).Left datagram.body := by
  refine ⟨datagram.write_drop, ?_⟩
  rw [Datagram.write_eq]
  simp only [List.length_append, writeU16_length, writeU32_length]
  change 12 + _ = 4 + _
  omega

section

variable (carries : Carries found datagram kind points)

include carries

/-- A config of its own covers a datagram. -/
theorem config_covers : found.config.Matches found datagram := by
  have header := carries.header
  refine config_matches rfl rfl ?_
  split at header
  · exact .inl header
  · exact .inr header

theorem parseMessage_understood {cached : Option ChannelState} (understood : Understood cached found datagram) :
    ∃ durationUs update, Idn.parseMessage datagram.write datagram.metadata cached =
        .ok ⟨some (chunkOf datagram.metadata durationUs found.pointFormat.sampleFormat points), update⟩ ∧
      update.entry cached = datagram.config.elim cached Config.state := by
  unfold Idn.parseMessage
  rw [carries.hasConfig]
  rcases carries.config with without | ⟨-, own⟩
  · rw [Understood, without] at understood
    obtain ⟨state, rfl, format, mode, same⟩ := understood.resolve_left (by simp)
    have left := left_body datagram
    rw [Datagram.body, without] at left
    obtain ⟨durationUs, parsed⟩ := carries.parseWithState left
      (rfl : channelState none (some state) = some (some state)) format mode same
    rw [format] at parsed
    rw [without]
    exact ⟨durationUs, _, parsed, rfl⟩
  · have left := left_body datagram
    rw [Datagram.body, own] at left
    obtain ⟨read, left⟩ := (parseChannelConfig_takes found).left left
    obtain ⟨durationUs, parsed⟩ := carries.parseWithState left (channelState_readConfig found cached) rfl rfl
      carries.config_covers.2.2
    rw [own]
    rw [stateUpdate_readConfig] at parsed
    refine ⟨durationUs, .store found.channelState, ?_, (config_state found).symm⟩
    dsimp only [Option.isSome_some]
    rw [if_pos rfl, read]
    exact parsed

theorem parseFrameData_understood {Address : Type} [DecidableEq Address] {parser : FrameParser Address}
    {source : Address} (understood : Understood (parser.channels ⟨source, found.channel⟩) found datagram) :
    ∃ chunk after, parser.parseFrameData source datagram.write = (.ok (some chunk), after) ∧
      after.channels ⟨source, found.channel⟩ =
        datagram.config.elim (parser.channels ⟨source, found.channel⟩) Config.state ∧
      chunk.chunkType = kind.chunkType ∧ chunk.isLastFragment = kind.isLast ∧ chunk.points = points := by
  obtain ⟨durationUs, update, parsed, entry⟩ := carries.parseMessage_understood understood
  rw [parser.parseFrameData_framed source carries.framed, carries.messageOf_write, headerOf_write carries.small,
    carries.channelId, parsed]
  refine ⟨_, _, rfl, ?_, carries.chunkType, carries.isLastFragment, rfl⟩
  rw [FrameParser.apply_self]
  exact entry

/-- A datagram that brings its config, or whose channel is in the state of the last one, is parsed to its points. -/
theorem parseFrameData {Address : Type} [DecidableEq Address] {parser : FrameParser Address} {source : Address}
    {last : Option Config} {config : Config} (known : datagram.config.or last = some config)
    (covers : config.Matches found datagram) (cached : parser.channels ⟨source, found.channel⟩ = last.bind Config.state)
    :
    ∃ chunk after, parser.parseFrameData source datagram.write = (.ok (some chunk), after) ∧
      after.channels ⟨source, found.channel⟩ = config.state ∧ chunk.chunkType = kind.chunkType ∧
      chunk.isLastFragment = kind.isLast ∧ chunk.points = points := by
  obtain ⟨state, stated, told⟩ := covers.state
  have heard : Understood (parser.channels ⟨source, found.channel⟩) found datagram ∧
      datagram.config.elim (parser.channels ⟨source, found.channel⟩) Config.state = config.state := by
    rw [cached]
    cases own : datagram.config with
    | none =>
      rw [own, Option.none_or] at known
      rw [known]
      exact ⟨.inr ⟨state, stated, told⟩, rfl⟩
    | some =>
      rw [own, Option.some_or] at known
      obtain rfl := Option.some.inj known
      exact ⟨.inl (by rw [own]; rfl), rfl⟩
  rw [← heard.2]
  exact carries.parseFrameData_understood heard.1

theorem kind_of_parsed {Address : Type} [DecidableEq Address] {parser : FrameParser Address} {source : Address}
    {chunk : ParsedChunk} (parsed : (parser.parseFrameData source datagram.write).1 = .ok (some chunk)) :
    chunk.chunkType = kind.chunkType ∧ chunk.isLastFragment = kind.isLast := by
  rw [parser.parseFrameData_framed source carries.framed] at parsed
  obtain ⟨durationUs, format, origin⟩ : ∃ durationUs format,
      chunk = chunkOf (headerOf datagram.write) durationUs format chunk.points := by
    rcases parseMessage_eq carries.framed with failed | ⟨long, onward⟩
    · rw [failed] at parsed
      cases parsed
    · have within : (Cursor.mk (messageOf datagram.write) (configEnd datagram.write)).position ≤
          (messageOf datagram.write).length := by
        rw [carries.framed.length]
        exact long
      rw [onward] at parsed
      rcases parseWithState_cases (headerOf datagram.write) _ (configIn datagram.write) within with
        failed | ⟨_, -, without⟩ | ⟨state, own, -, decoded, whole⟩
      · rw [failed] at parsed
        cases parsed
      · rw [without] at parsed
        cases parsed
      · rw [whole] at parsed
        cases parsed
        obtain ⟨durationUs, origin⟩ := decoded.origin
        exact ⟨durationUs, _, origin⟩
  rw [origin, headerOf_write carries.small]
  exact ⟨carries.chunkType, carries.isLastFragment⟩

end

end Carries

end LaserDac.Idn
