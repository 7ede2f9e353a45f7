import LaserDac.IdnProtocol

/-!
The receiver's parser for channel messages. It keeps the last accepted config of every source and channel for the
messages that carry none. The parser returns without a result (`Halt.fail`), or the code would leave a buffer or
subtract below zero (`Halt.crash`).
-/

namespace LaserDac.Idn

open LaserDac.Cursors

def descX : UInt16 := 0x4200
def descY : UInt16 := 0x4210
def descRed638 : UInt16 := 0x527E
def descGreen532 : UInt16 := 0x5214
def descBlue460 : UInt16 := 0x51CC
def descIntensity : UInt16 := 0x5C10
def descUser1 : UInt16 := 0x51BD
def descUser2 : UInt16 := 0x5241
def descUser3 : UInt16 := 0x51E8
def descXPrime : UInt16 := 0x4201
def descPrecision16bit : UInt16 := 0x4010

/-- The sample layouts the parser can decode. -/
inductive SampleFormat where
  | xy
  | xyrgb
  | xyrgbi
  | xyrgbHighRes
  | extended
  deriving DecidableEq, Repr

def SampleFormat.sampleSize : SampleFormat → Nat
  | xy => 4
  | xyrgb => 7
  | xyrgbi => 8
  | xyrgbHighRes => 10
  | extended => 20

/-- A channel of a sample, as the descriptors declare it. -/
structure Channel where
  id : UInt16
  bytes : Nat
  deriving DecidableEq, Repr

/-- The walk over the descriptors; the first number is how many of the next words it steps over. -/
def gatherChannels : Nat → List UInt16 → Option (List Channel)
  | _, [] => some []
  | skip + 1, _ :: rest => gatherChannels skip rest
  | 0, desc :: rest =>
    -- a void tag describes no octet and steps over its suffix words
    if desc &&& 0xF000 = 0x0000 then gatherChannels (desc &&& 0x000F).toNat rest
    -- a break ends the first group
    else if desc &&& 0xFF00 = 0x1000 then some []
    else if desc &&& 0xF000 = 0x1000 then gatherChannels 0 rest
    else if desc = descPrecision16bit then none
    else if rest.head? = some descPrecision16bit then (gatherChannels 1 rest).map (⟨desc, 2⟩ :: ·)
    else (gatherChannels 0 rest).map (⟨desc, 1⟩ :: ·)

def matchFormat (ids : List UInt16) (totalBytes : Nat) : Option SampleFormat :=
  if ids = [descX, descY] ∧ totalBytes = 4 then some .xy
  else if ids = [descX, descY, descRed638, descGreen532, descBlue460] ∧ totalBytes = 7 then some .xyrgb
  else if ids = [descX, descY, descRed638, descGreen532, descBlue460] ∧ totalBytes = 10 then some .xyrgbHighRes
  else if ids = [descX, descY, descRed638, descGreen532, descBlue460, descIntensity] ∧ totalBytes = 8 then some .xyrgbi
  else if ids = [descX, descY, descRed638, descGreen532, descBlue460, descIntensity, descUser1, descUser2, descUser3,
      descXPrime] ∧ totalBytes = 20 then some .extended
  else none

/-- Only the channels and the size of a sample decide. -/
def classifyFormat (descriptors : List UInt16) : Option SampleFormat := do
  let channels ← gatherChannels 0 descriptors
  matchFormat (channels.map Channel.id) (channels.map Channel.bytes).sum

/-- A parsed point, with intensity multiplied into the colours. -/
structure ReceivedPoint where
  x : ℚ
  y : ℚ
  r : ℚ
  g : ℚ
  b : ℚ
  deriving DecidableEq, Repr

def normalizeI16Coordinate (value : Int16) : ℚ := if value = Int16.minValue then -1 else value.toInt / 32767

def scaleU8 (value : UInt8) : ℚ := value.toNat / 255

def scaleU16 (value : UInt16) : ℚ := value.toNat / 65535

/-- The colours of a sample, which follow its coordinates. -/
def readColors : SampleFormat → Reader (ℚ × ℚ × ℚ)
  | .xy => return (0, 0, 0)
  | .xyrgb => do
    let r ← readU8
    let g ← readU8
    let b ← readU8
    return (scaleU8 r, scaleU8 g, scaleU8 b)
  | .xyrgbi => do
    let r ← readU8
    let g ← readU8
    let b ← readU8
    let intensity ← readU8
    return (scaleU8 r * scaleU8 intensity, scaleU8 g * scaleU8 intensity, scaleU8 b * scaleU8 intensity)
  | .xyrgbHighRes => do
    let r ← readU16
    let g ← readU16
    let b ← readU16
    return (scaleU16 r, scaleU16 g, scaleU16 b)
  | .extended => do
    let r ← readU16
    let g ← readU16
    let b ← readU16
    let intensity ← readU16
    let _ ← readMany readU16 4
    return (scaleU16 r * scaleU16 intensity, scaleU16 g * scaleU16 intensity, scaleU16 b * scaleU16 intensity)

/-- Coordinates are two bytes each, whatever the format. -/
def readPoint (format : SampleFormat) : Reader ReceivedPoint := do
  let rawX ← readI16
  let rawY ← readI16
  let (r, g, b) ← readColors format
  return { x := normalizeI16Coordinate rawX, y := normalizeI16Coordinate rawY, r, g, b }

/-! ### Messages -/

inductive ChunkType where
  | void
  | wave
  | frame
  | frameFirst
  | frameSequel
  | other (value : UInt8)
  deriving DecidableEq, Repr

def ChunkType.fromByte (value : UInt8) : ChunkType :=
  if value = idnvalCnktypeVoid then .void
  else if value = idnvalCnktypeLpgrfWave then .wave
  else if value = idnvalCnktypeLpgrfFrame then .frame
  else if value = idnvalCnktypeLpgrfFrameFirst then .frameFirst
  else if value = idnvalCnktypeLpgrfFrameSequel then .frameSequel
  else .other value

/-- What the last accepted config of a channel says. -/
structure ChannelState where
  format : SampleFormat
  serviceDataMatch : UInt8
  serviceMode : UInt8
  deriving DecidableEq, Repr

inductive StateUpdate where
  | none
  | store (state : ChannelState)
  | remove
  deriving DecidableEq, Repr

structure ChunkMetadata where
  sequence : UInt16
  contentId : UInt16
  channelId : UInt8
  chunkType : ChunkType
  configOrLastFragment : Bool
  hasConfig : Bool
  isLastFragment : Bool
  timestampUsU32 : UInt32
  totalSize : Nat
  deriving DecidableEq, Repr

structure ChannelConfig where
  flags : UInt8
  serviceMode : UInt8
  format : Option SampleFormat
  deriving DecidableEq, Repr

namespace ChannelConfig

def hasRouting (config : ChannelConfig) : Bool := config.flags &&& idnflgChncfgRouting ≠ 0

def closesChannel (config : ChannelConfig) : Bool := config.flags &&& idnflgChncfgClose ≠ 0

def serviceDataMatch (config : ChannelConfig) : UInt8 := config.flags &&& 0x30

end ChannelConfig

/-- A chunk as the receiver hands it on. -/
structure ParsedChunk where
  sequence : UInt16
  contentId : UInt16
  channelId : UInt8
  chunkType : ChunkType
  configOrLastFragment : Bool
  hasConfig : Bool
  isLastFragment : Bool
  timestampUsU32 : UInt32
  durationUs : UInt32
  format : SampleFormat
  points : List ReceivedPoint
  deriving DecidableEq, Repr

structure ParsedPacket where
  chunk : Option ParsedChunk
  stateUpdate : StateUpdate
  deriving DecidableEq, Repr

/-- Why a message has no result. -/
inductive Halt where
  /-- The parser returns nothing. -/
  | fail
  /-- The code leaves a buffer, or a length goes below zero. -/
  | crash
  deriving DecidableEq, Repr

/-- An index or a slice that the code takes without a check of its own. -/
def orCrash {α : Type} : Option α → Except Halt α
  | some a => .ok a
  | none => .error .crash

def orFail {α : Type} : Option α → Except Halt α
  | some a => .ok a
  | none => .error .fail

def fieldAt (data : List UInt8) (start count : Nat) : Except Halt Nat :=
  orCrash (if start + count ≤ data.length then some (beAt data start count) else none)

def metadataOf (totalSize : Nat) (sequence contentId : UInt16) (timestampUsU32 : UInt32) : ChunkMetadata :=
  let configOrLastFragment : Bool := contentId &&& idnflgContentidConfigLstfrg ≠ 0
  let chunkTypeByte := (contentId &&& 0x00FF).toUInt8
  let chunkType := ChunkType.fromByte chunkTypeByte
  { sequence, contentId, channelId := ((contentId &&& 0x3F00) >>> 8).toUInt8, chunkType, configOrLastFragment,
    hasConfig := configOrLastFragment && chunkTypeByte < 0xC0,
    isLastFragment := match chunkType with
      | .frame => true
      | .frameSequel => configOrLastFragment
      | _ => false
    timestampUsU32, totalSize }

def parseMetadata (data : List UInt8) : Except Halt ChunkMetadata :=
  if data.length < 12 then .error .fail
  else do
    let totalSize ← fieldAt data 4 2
    if totalSize < 8 ∨ 0xFF00 < totalSize then .error .fail
    else if data.length < 4 + totalSize then .error .fail
    else do
      let sequence ← fieldAt data 2 2
      let contentId ← fieldAt data 6 2
      if UInt16.ofNat contentId &&& idnflgContentidChannelmsg = 0 then .error .fail
      else do
        let timestampUsU32 ← fieldAt data 8 4
        return metadataOf totalSize (UInt16.ofNat sequence) (UInt16.ofNat contentId) (UInt32.ofNat timestampUsU32)

/-- The descriptors are classified only for a channel that is routed to a service. -/
def configOf (flags serviceMode : UInt8) (descriptors : List UInt16) : ChannelConfig where
  flags := flags
  serviceMode := serviceMode
  format :=
    if flags &&& idnflgChncfgRouting ≠ 0 ∧ serviceMode ≠ idnvalSmodVoid then classifyFormat descriptors else none

def parseChannelConfig : Reader ChannelConfig := do
  let wordCount ← readU8
  let flags ← readU8
  let _serviceId ← readU8
  let serviceMode ← readU8
  let descriptors ← readMany readU16 (wordCount.toNat * 2)
  return configOf flags serviceMode descriptors

def stateUpdateForConfig (config : Option ChannelConfig) (state : Option ChannelState) (closeAfterMessage : Bool) :
    StateUpdate :=
  if closeAfterMessage then .remove
  else if config.any ChannelConfig.hasRouting then state.elim .remove .store
  else .none

def serviceModeAcceptsChunk (serviceMode : UInt8) : ChunkType → Bool
  | .wave => serviceMode = idnvalSmodLpgrfContinuous
  | .frame | .frameFirst | .frameSequel => serviceMode = idnvalSmodLpgrfDiscrete
  | _ => false

/-- The state a message is decoded with: its own routed config, or what was cached. A routed config that cannot be
decoded has none, and the channel is removed. -/
def channelState (config : Option ChannelConfig) (cached : Option ChannelState) : Option (Option ChannelState) :=
  match config with
  | some config =>
    if config.hasRouting then
      match config.format with
      | some format =>
        if config.serviceMode ≠ idnvalSmodVoid then
          some (some { format, serviceDataMatch := config.serviceDataMatch, serviceMode := config.serviceMode })
        else none
      | none => none
    else some cached
  | none => some cached

def chunkOf (metadata : ChunkMetadata) (durationUs : UInt32) (format : SampleFormat) (points : List ReceivedPoint) :
    ParsedChunk where
  sequence := metadata.sequence
  contentId := metadata.contentId
  channelId := metadata.channelId
  chunkType := metadata.chunkType
  configOrLastFragment := metadata.configOrLastFragment
  hasConfig := metadata.hasConfig
  isLastFragment := metadata.isLastFragment
  timestampUsU32 := metadata.timestampUsU32
  durationUs := durationUs
  format := format
  points := points

def decodeSamples (metadata : ChunkMetadata) (state : ChannelState) (update : StateUpdate) (durationUs : UInt32)
    (cursor : Cursor) : Except Halt ParsedPacket := do
  let remaining ← orCrash (if cursor.position ≤ cursor.data.length then some (cursor.data.length - cursor.position)
    else none)
  if remaining % state.format.sampleSize ≠ 0 then .error .fail
  else do
    let (points, _) ← orFail ((readMany (readPoint state.format) (remaining / state.format.sampleSize)).run cursor)
    return { chunk := some (chunkOf metadata durationUs state.format points), stateUpdate := update }

/-- The sample chunk header, which sequels do not have, and the samples. -/
def decodeChunk (metadata : ChunkMetadata) (state : ChannelState) (update : StateUpdate) (cursor : Cursor) :
    Except Halt ParsedPacket :=
  if metadata.chunkType = .frameSequel then decodeSamples metadata state update 0 cursor
  else do
    let (flagsDuration, cursor) ← orFail (readU32.run cursor)
    if (flagsDuration >>> 24).toUInt8 &&& 0x30 ≠ state.serviceDataMatch then
      return { chunk := none, stateUpdate := .remove }
    else decodeSamples metadata state update (flagsDuration &&& 0x00FFFFFF) cursor

def parseWithState (metadata : ChunkMetadata) (cached : Option ChannelState) (config : Option ChannelConfig)
    (cursor : Cursor) : Except Halt ParsedPacket :=
  let closeAfterMessage := config.any ChannelConfig.closesChannel
  match channelState config cached with
  | none => return { chunk := none, stateUpdate := .remove }
  | some state =>
    if metadata.chunkType = .void then
      return { chunk := none, stateUpdate := stateUpdateForConfig config state closeAfterMessage }
    else
      match state with
      | none => .error .fail
      | some state =>
        let update := stateUpdateForConfig config (some state) closeAfterMessage
        if serviceModeAcceptsChunk state.serviceMode metadata.chunkType then decodeChunk metadata state update cursor
        else return { chunk := none, stateUpdate := update }

/-- The message after its header, which the metadata is taken from. -/
def parseMessage (data : List UInt8) (metadata : ChunkMetadata) (cached : Option ChannelState) :
    Except Halt ParsedPacket :=
  let cursor : Cursor := ⟨data, 12⟩
  if metadata.hasConfig then do
    let (config, cursor) ← orFail (parseChannelConfig.run cursor)
    parseWithState metadata cached (some config) cursor
  else parseWithState metadata cached none cursor

def parseFrameDataWithMetadata (data : List UInt8) (metadata : ChunkMetadata) (cached : Option ChannelState) :
    Except Halt ParsedPacket := do
  let packetLen := 4 + metadata.totalSize
  let data ← orCrash (if packetLen ≤ data.length then some (data.take packetLen) else none)
  parseMessage data metadata cached

variable {Address : Type} [DecidableEq Address]

/-- Configs are kept by source and channel. -/
structure ParserChannelKey (Address : Type) where
  sourceAddr : Address
  channelId : UInt8
  deriving DecidableEq, Repr

/-- The cached configs, one for each source and channel that has one. -/
structure FrameParser (Address : Type) where
  channels : ParserChannelKey Address → Option ChannelState

namespace FrameParser

/-- A parser that knows no channel. -/
def new : FrameParser Address := ⟨fun _ => none⟩

def reset (_ : FrameParser Address) : FrameParser Address := new

def apply (parser : FrameParser Address) (key : ParserChannelKey Address) : StateUpdate → FrameParser Address
  | .none => parser
  | .store state => ⟨Function.update parser.channels key (some state)⟩
  | .remove => ⟨Function.update parser.channels key none⟩

/-- The parsed message, and the parser after it. -/
def parseFrameData (parser : FrameParser Address) (sourceAddr : Address) (data : List UInt8) :
    Except Halt (Option ParsedChunk) × FrameParser Address :=
  match parseMetadata data with
  | .error halt => (.error halt, parser)
  | .ok metadata =>
    let key := ⟨sourceAddr, metadata.channelId⟩
    match parseFrameDataWithMetadata data metadata (parser.channels key) with
    | .error halt => (.error halt, parser)
    | .ok parsed => (.ok parsed.chunk, parser.apply key parsed.stateUpdate)

end FrameParser

end LaserDac.Idn
