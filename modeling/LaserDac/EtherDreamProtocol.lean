import LaserDac.Bytes
import LaserDac.Points

/-!
The wire format of the Ether Dream: status frames, points, responses and commands, little-endian. What is written
is read back, whatever follows it. A status frame stands for a status only if its three states are known ones.
-/

namespace LaserDac.EtherDream

open Bytes

structure DacStatus where
  protocol : UInt8
  lightEngineState : UInt8
  playbackState : UInt8
  source : UInt8
  lightEngineFlags : UInt16
  playbackFlags : UInt16
  sourceFlags : UInt16
  bufferFullness : UInt16
  pointRate : UInt32
  pointCount : UInt32
  deriving DecidableEq, Repr

namespace DacStatus

def write (s : DacStatus) : List UInt8 :=
  s.protocol :: s.lightEngineState :: s.playbackState :: s.source ::
    (writeU16 s.lightEngineFlags ++ writeU16 s.playbackFlags ++ writeU16 s.sourceFlags ++ writeU16 s.bufferFullness ++
      writeU32 s.pointRate ++ writeU32 s.pointCount)

def read : Reader DacStatus := do
  let protocol ← readU8
  let lightEngineState ← readU8
  let playbackState ← readU8
  let source ← readU8
  let lightEngineFlags ← readU16
  let playbackFlags ← readU16
  let sourceFlags ← readU16
  let bufferFullness ← readU16
  let pointRate ← readU32
  let pointCount ← readU32
  return {
    protocol, lightEngineState, playbackState, source, lightEngineFlags, playbackFlags, sourceFlags,
    bufferFullness, pointRate, pointCount }

theorem reads (s : DacStatus) : Reads read s.write s := by
  intro rest
  simp only [read, write, List.cons_append, List.append_assoc, run_readU8_bind, run_readU16_bind, run_readU32_bind]
  rfl

@[simp] theorem write_length (s : DacStatus) : s.write.length = 20 := by simp [write]

end DacStatus

structure DacPoint where
  control : UInt16
  x : Int16
  y : Int16
  r : UInt16
  g : UInt16
  b : UInt16
  i : UInt16
  u1 : UInt16
  u2 : UInt16
  deriving DecidableEq, Repr

namespace DacPoint

/-- `DacPoint::SIZE_BYTES` -/
def sizeBytes : Nat := 18

def write (p : DacPoint) : List UInt8 :=
  writeU16 p.control ++ writeI16 p.x ++ writeI16 p.y ++ writeU16 p.r ++ writeU16 p.g ++ writeU16 p.b ++
    writeU16 p.i ++ writeU16 p.u1 ++ writeU16 p.u2

def read : Reader DacPoint := do
  let control ← readU16
  let x ← readI16
  let y ← readI16
  let r ← readU16
  let g ← readU16
  let b ← readU16
  let i ← readU16
  let u1 ← readU16
  let u2 ← readU16
  return { control, x, y, r, g, b, i, u1, u2 }

/-- The point for a laser point. How a coordinate is converted is left to `coordinate`, which stands for
`coord_to_i16_inverted`. -/
def ofLaserPoint (coordinate : UInt32 → Int16) (p : LaserPoint) : DacPoint where
  control := 0
  x := coordinate p.x
  y := coordinate p.y
  r := p.r
  g := p.g
  b := p.b
  i := p.intensity
  u1 := 0
  u2 := 0

theorem reads (p : DacPoint) : Reads read p.write p := by
  intro rest
  simp only [read, write, List.append_assoc, run_readU16_bind, run_readI16_bind]
  rfl

@[simp] theorem write_length (p : DacPoint) : p.write.length = sizeBytes := by simp [write, sizeBytes]

theorem sized : Sized read sizeBytes :=
  Sized.u16.bind fun _ => Sized.i16.bind fun _ => Sized.i16.bind fun _ => Sized.u16.bind fun _ =>
    Sized.u16.bind fun _ => Sized.u16.bind fun _ => Sized.u16.bind fun _ => Sized.u16.bind fun _ =>
    Sized.u16.bind fun _ => Sized.pure _

end DacPoint

structure DacResponse where
  response : UInt8
  command : UInt8
  dacStatus : DacStatus
  deriving DecidableEq, Repr

namespace DacResponse

/-- `DacResponse::SIZE_BYTES` -/
def sizeBytes : Nat := 22

def ack : UInt8 := 0x61
def nakFull : UInt8 := 0x46
def nakInvalid : UInt8 := 0x49
def nakStopCondition : UInt8 := 0x21

def write (r : DacResponse) : List UInt8 := r.response :: r.command :: r.dacStatus.write

def read : Reader DacResponse := do
  let response ← readU8
  let command ← readU8
  let dacStatus ← DacStatus.read
  return { response, command, dacStatus }

theorem reads (r : DacResponse) : Reads read r.write r := by
  intro rest
  simp only [read, write, List.cons_append, run_readU8_bind, (DacStatus.reads _).run_bind]
  rfl

@[simp] theorem write_length (r : DacResponse) : r.write.length = sizeBytes := by simp [write, sizeBytes]

end DacResponse

inductive LightEngine
  | ready
  | warmup
  | cooldown
  | emergencyStop
  deriving DecidableEq, Repr

namespace LightEngine

def fromProtocol (state : UInt8) : Option LightEngine :=
  if state = 0 then some ready
  else if state = 1 then some warmup
  else if state = 2 then some cooldown
  else if state = 3 then some emergencyStop
  else none

def toProtocol : LightEngine → UInt8
  | ready => 0
  | warmup => 1
  | cooldown => 2
  | emergencyStop => 3

@[simp] theorem fromProtocol_toProtocol (state : LightEngine) : fromProtocol state.toProtocol = some state := by
  cases state <;> rfl

end LightEngine

inductive Playback
  | idle
  | prepared
  | playing
  deriving DecidableEq, Repr

namespace Playback

def fromProtocol (state : UInt8) : Option Playback :=
  if state = 0 then some idle
  else if state = 1 then some prepared
  else if state = 2 then some playing
  else none

def toProtocol : Playback → UInt8
  | idle => 0
  | prepared => 1
  | playing => 2

@[simp] theorem fromProtocol_toProtocol (state : Playback) : fromProtocol state.toProtocol = some state := by
  cases state <;> rfl

end Playback

inductive DataSource
  | networkStreaming
  | ildaPlayback (flags : UInt16)
  | internalAbstractGenerator (flags : UInt16)
  deriving DecidableEq, Repr

def DataSource.fromProtocol (source : UInt8) (flags : UInt16) : Option DataSource :=
  if source = 0 then some networkStreaming
  else if source = 1 then some (ildaPlayback (flags &&& 0x1))
  else if source = 2 then some (internalAbstractGenerator (flags &&& 0x0))
  else none

inductive ProtocolError
  | unknownLightEngineState
  | unknownPlaybackState
  | unknownDataSource
  deriving DecidableEq, Repr

/-- A status as the client keeps it. -/
structure Status where
  protocol : UInt8
  lightEngine : LightEngine
  playback : Playback
  dataSource : DataSource
  lightEngineFlags : UInt16
  playbackFlags : UInt16
  bufferFullness : UInt16
  pointRate : UInt32
  pointCount : UInt32
  deriving DecidableEq, Repr

/-- What a status frame stands for; undefined flag bits are dropped. -/
def Status.fromProtocol (status : DacStatus) : Except ProtocolError Status :=
  match LightEngine.fromProtocol status.lightEngineState with
  | none => .error .unknownLightEngineState
  | some lightEngine =>
    match Playback.fromProtocol status.playbackState with
    | none => .error .unknownPlaybackState
    | some playback =>
      match DataSource.fromProtocol status.source status.sourceFlags with
      | none => .error .unknownDataSource
      | some dataSource => .ok {
          protocol := status.protocol, lightEngine, playback, dataSource
          lightEngineFlags := status.lightEngineFlags &&& 0x3F, playbackFlags := status.playbackFlags &&& 0x7
          bufferFullness := status.bufferFullness, pointRate := status.pointRate, pointCount := status.pointCount }

inductive Nak
  | full
  | invalid
  | stopCondition
  deriving DecidableEq, Repr

def Nak.fromProtocol (nak : UInt8) : Option Nak :=
  if nak = DacResponse.nakFull then some full
  else if nak = DacResponse.nakInvalid then some invalid
  else if nak = DacResponse.nakStopCondition then some stopCondition
  else none

/-- The commands a client can queue. -/
inductive Command
  | prepareStream
  | begin (lowWaterMark : UInt16) (pointRate : UInt32)
  | update (lowWaterMark : UInt16) (pointRate : UInt32)
  | pointRate (rate : UInt32)
  | data (points : List DacPoint)
  | stop
  | emergencyStop
  | clearEmergencyStop
  | ping
  deriving DecidableEq, Repr

namespace Command

def startByte : Command → UInt8
  | prepareStream => 0x70
  | begin _ _ => 0x62
  | update _ _ => 0x75
  | pointRate _ => 0x71
  | data _ => 0x64
  | stop => 0x73
  | emergencyStop => 0x00
  | clearEmergencyStop => 0x63
  | ping => 0x3F

/-- The rate a command carries. -/
def rate : Command → Option UInt32
  | begin _ rate => some rate
  | update _ rate => some rate
  | pointRate rate => some rate
  | _ => none

/-- The bytes of a command; a data command with more points than a `u16` counts has none. -/
def write (command : Command) : Option (List UInt8) :=
  match command with
  | begin lowWaterMark rate => some (command.startByte :: (writeU16 lowWaterMark ++ writeU32 rate))
  | update lowWaterMark rate => some (command.startByte :: (writeU16 lowWaterMark ++ writeU32 rate))
  | pointRate rate => some (command.startByte :: writeU32 rate)
  | data points =>
    if points.length > 65535 then none
    else some (command.startByte :: (writeU16 (UInt16.ofNat points.length) ++ points.flatMap DacPoint.write))
  | _ => some [command.startByte]

end Command

end LaserDac.EtherDream
