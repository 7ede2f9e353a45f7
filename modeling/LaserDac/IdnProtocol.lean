import LaserDac.Cursors

/-!
The IDN wire format as sender and receiver share it: commands, flags, the four headers of a channel message, the
three point types and the descriptor arrays that announce them. Everything is big-endian.
-/

namespace LaserDac.Idn

open LaserDac.Cursors

/-- The most bytes of a datagram. -/
def maxUdpPayload : Nat := 1454

def idncmdPingRequest : UInt8 := 0x08
def idncmdRtCnlmsg : UInt8 := 0x40
def idncmdRtCnlmsgAckreq : UInt8 := 0x41
def idncmdRtCnlmsgClose : UInt8 := 0x44
def idncmdRtCnlmsgCloseAckreq : UInt8 := 0x45

def idnflgContentidChannelmsg : UInt16 := 0x8000
def idnflgContentidConfigLstfrg : UInt16 := 0x4000

def idnvalCnktypeVoid : UInt8 := 0x00
def idnvalCnktypeLpgrfWave : UInt8 := 0x01
def idnvalCnktypeLpgrfFrame : UInt8 := 0x02
def idnvalCnktypeLpgrfFrameFirst : UInt8 := 0x03
def idnvalCnktypeLpgrfFrameSequel : UInt8 := 0xC0

def idnflgChncfgRouting : UInt8 := 0x01
def idnflgChncfgClose : UInt8 := 0x02

def idnvalSmodVoid : UInt8 := 0x00
def idnvalSmodLpgrfContinuous : UInt8 := 0x01
def idnvalSmodLpgrfDiscrete : UInt8 := 0x02

structure PacketHeader where
  command : UInt8
  flags : UInt8
  sequence : UInt16
  deriving DecidableEq, Repr

def PacketHeader.sizeBytes : Nat := 4

def PacketHeader.write (header : PacketHeader) : List UInt8 :=
  writeU8 header.command ++ writeU8 header.flags ++ writeU16 header.sequence

structure ChannelMessageHeader where
  totalSize : UInt16
  contentId : UInt16
  timestamp : UInt32
  deriving DecidableEq, Repr

def ChannelMessageHeader.sizeBytes : Nat := 8

def ChannelMessageHeader.write (header : ChannelMessageHeader) : List UInt8 :=
  writeU16 header.totalSize ++ writeU16 header.contentId ++ writeU32 header.timestamp

structure ChannelConfigHeader where
  wordCount : UInt8
  flags : UInt8
  serviceId : UInt8
  serviceMode : UInt8
  deriving DecidableEq, Repr

def ChannelConfigHeader.sizeBytes : Nat := 4

def ChannelConfigHeader.write (header : ChannelConfigHeader) : List UInt8 :=
  writeU8 header.wordCount ++ writeU8 header.flags ++ writeU8 header.serviceId ++ writeU8 header.serviceMode

/-- The upper eight bits are flags, the lower 24 the duration in microseconds. -/
structure SampleChunkHeader where
  flagsDuration : UInt32
  deriving DecidableEq, Repr

namespace SampleChunkHeader

def sizeBytes : Nat := 4

def new (flags : UInt8) (durationUs : UInt32) : SampleChunkHeader :=
  ⟨(flags.toUInt32 <<< 24) ||| (durationUs &&& 0x00FFFFFF)⟩

variable (header : SampleChunkHeader)

def flags : UInt8 := (header.flagsDuration >>> 24).toUInt8

def durationUs : UInt32 := header.flagsDuration &&& 0x00FFFFFF

def write : List UInt8 := writeU32 header.flagsDuration

end SampleChunkHeader

structure PointXyrgbi where
  x : Int16
  y : Int16
  r : UInt8
  g : UInt8
  b : UInt8
  i : UInt8
  deriving DecidableEq, Repr

structure PointXyrgbHighRes where
  x : Int16
  y : Int16
  r : UInt16
  g : UInt16
  b : UInt16
  deriving DecidableEq, Repr

structure PointExtended where
  x : Int16
  y : Int16
  r : UInt16
  g : UInt16
  b : UInt16
  i : UInt16
  u1 : UInt16
  u2 : UInt16
  u3 : UInt16
  u4 : UInt16
  deriving DecidableEq, Repr

def xyrgbiSampleSize : Nat := 8
def xyrgbHighresSampleSize : Nat := 10
def extendedSampleSize : Nat := 20

def PointXyrgbi.write (p : PointXyrgbi) : List UInt8 :=
  writeI16 p.x ++ writeI16 p.y ++ writeU8 p.r ++ writeU8 p.g ++ writeU8 p.b ++ writeU8 p.i

def PointXyrgbHighRes.write (p : PointXyrgbHighRes) : List UInt8 :=
  writeI16 p.x ++ writeI16 p.y ++ writeU16 p.r ++ writeU16 p.g ++ writeU16 p.b

def PointExtended.write (p : PointExtended) : List UInt8 :=
  writeI16 p.x ++ writeI16 p.y ++ writeU16 p.r ++ writeU16 p.g ++ writeU16 p.b ++ writeU16 p.i ++
    writeU16 p.u1 ++ writeU16 p.u2 ++ writeU16 p.u3 ++ writeU16 p.u4

/-- A point type that can be sent: every point takes the same number of bytes. -/
class Point (P : Type) where
  sizeBytes : Nat
  write : P → List UInt8
  write_length : ∀ point, (write point).length = sizeBytes

instance : Point PointXyrgbi := ⟨xyrgbiSampleSize, PointXyrgbi.write, fun _ => rfl⟩

instance : Point PointXyrgbHighRes := ⟨xyrgbHighresSampleSize, PointXyrgbHighRes.write, fun _ => rfl⟩

instance : Point PointExtended := ⟨extendedSampleSize, PointExtended.write, fun _ => rfl⟩

/-- The point formats a stream can be set to. -/
inductive PointFormat where
  | xyrgbi
  | xyrgbHighRes
  | extended
  deriving DecidableEq, Repr

namespace PointFormat

def sizeBytes : PointFormat → Nat
  | xyrgbi => xyrgbiSampleSize
  | xyrgbHighRes => xyrgbHighresSampleSize
  | extended => extendedSampleSize

/-- The descriptor words of a config. -/
def descriptors : PointFormat → List UInt16
  | xyrgbi => [0x4200, 0x4010, 0x4210, 0x4010, 0x527E, 0x5214, 0x51CC, 0x5C10]
  | xyrgbHighRes => [0x4200, 0x4010, 0x4210, 0x4010, 0x527E, 0x4010, 0x5214, 0x4010, 0x51CC, 0x4010]
  | extended =>
    [0x4200, 0x4010, 0x4210, 0x4010, 0x527E, 0x4010, 0x5214, 0x4010, 0x51CC, 0x4010, 0x5C10, 0x4010, 0x51BD, 0x4010,
      0x5241, 0x4010, 0x51E8, 0x4010, 0x4201, 0x4010]

def wordCount (format : PointFormat) : UInt8 := UInt8.ofNat (format.descriptors.length / 2)

end PointFormat

end LaserDac.Idn
