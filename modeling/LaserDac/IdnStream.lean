import LaserDac.IdnProtocol
import LaserDac.Attempts

/-!
The sender's stream: frames of points become datagrams, in wave mode independent chunks and in frame mode the
fragments of one frame. Timestamps come from an anchor and the number of points since; the anchor moves at the first
frame, after an idle gap and when the rate changes.
-/

namespace LaserDac.Idn

open LaserDac.Cursors LaserDac.Attempts LaserDac.Attempts.Attempt

/-- A channel config with its descriptor array. -/
structure Config where
  header : ChannelConfigHeader
  descriptors : List UInt16
  deriving DecidableEq, Repr

def Config.write (config : Config) : List UInt8 := config.header.write ++ config.descriptors.flatMap writeU16

/-- A channel message in its packet. The size and the timestamp are cut to 16 and 32 bits when it is written. -/
structure Datagram where
  header : PacketHeader
  msgSize : Nat
  contentId : UInt16
  timestampUs : Nat
  config : Option Config
  chunk : Option SampleChunkHeader
  samples : List (List UInt8)
  deriving DecidableEq, Repr

/-- Sizes and timestamps are cut to their width here. -/
def Datagram.write (datagram : Datagram) : List UInt8 :=
  datagram.header.write ++
    ChannelMessageHeader.write ⟨UInt16.ofNat datagram.msgSize, datagram.contentId, UInt32.ofNat datagram.timestampUs⟩ ++
    datagram.config.elim [] Config.write ++ datagram.chunk.elim [] SampleChunkHeader.write ++ datagram.samples.flatten

/-- In wave mode the receiver splices chunks end to end, in frame mode it repeats a frame until the next one. -/
inductive FrameMode where
  | wave
  | frame
  deriving DecidableEq, Repr

def FrameMode.serviceMode : FrameMode → UInt8
  | .wave => idnvalSmodLpgrfContinuous
  | .frame => idnvalSmodLpgrfDiscrete

def minSamplesPerFrame : Nat := 20
def configRefreshInterval : Nat := 200000000
def keepaliveInterval : Nat := 500000000
def startupLeadUs : Nat := 30000
def reanchorMinGapUs : Nat := 50000

/-- Times are in nanoseconds. -/
structure Stream where
  clientGroup : UInt8
  serviceId : UInt8
  sequence : UInt16
  timestampAnchorUs : Nat
  pointsSinceAnchor : Nat
  anchorPps : Nat
  lastChunkDurationUs : Nat
  scanSpeed : Nat
  pointFormat : PointFormat
  serviceDataMatch : UInt8
  lastConfigTime : Option Nat
  previousFormat : Option PointFormat
  frameCount : Nat
  lastSendTime : Option Nat
  lastDataSendTime : Option Nat
  connectTime : Nat
  frameMode : FrameMode
  closed : Bool
  deriving DecidableEq, Repr

namespace Stream

/-- A stream before its first frame. -/
def connect (serviceId clientGroup : UInt8) (connectTime : Nat) : Stream where
  clientGroup := clientGroup &&& 0x0F
  serviceId := serviceId
  sequence := 0
  timestampAnchorUs := 0
  pointsSinceAnchor := 0
  anchorPps := 30000
  lastChunkDurationUs := 0
  scanSpeed := 30000
  pointFormat := .xyrgbi
  serviceDataMatch := 0
  lastConfigTime := none
  previousFormat := none
  frameCount := 0
  lastSendTime := none
  lastDataSendTime := none
  connectTime := connectTime
  frameMode := .wave
  closed := false

variable (stream : Stream)

/-- The first frame has a config, and every one of a new format, and one every so often. -/
def needsConfig (now : Nat) : Bool :=
  stream.frameCount = 0 ∨ stream.previousFormat ≠ some stream.pointFormat ∨
    stream.lastConfigTime.all fun time => configRefreshInterval ≤ now - time

/-- The timestamp after this many points since the anchor. -/
def timestampAt (points : Nat) : Nat :=
  stream.timestampAnchorUs + points * 1000000 / max stream.anchorPps 1

def currentTimestampUs : Nat := stream.timestampAt stream.pointsSinceAnchor

/-- The duration of the next points, as far as a chunk header can say it. -/
def durationUs (points : Nat) : Nat :=
  min (stream.timestampAt (stream.pointsSinceAnchor + points) - stream.currentTimestampUs) 0x00FFFFFF

def channelId : UInt16 :=
  (UInt16.ofNat (stream.serviceId.toNat - 1) &&& 0x3F) <<< 8

def sdmFlags : UInt8 := ((stream.serviceDataMatch &&& 1) ||| 2) <<< 4

def chunkType (isFirst isOnly : Bool) : UInt8 :=
  match stream.frameMode with
  | .wave => idnvalCnktypeLpgrfWave
  | .frame =>
    if isOnly then idnvalCnktypeLpgrfFrame
    else if isFirst then idnvalCnktypeLpgrfFrameFirst
    else idnvalCnktypeLpgrfFrameSequel

def config : Config where
  header := {
    wordCount := stream.pointFormat.wordCount
    flags := idnflgChncfgRouting ||| stream.sdmFlags
    serviceId := stream.serviceId
    serviceMode := stream.frameMode.serviceMode }
  descriptors := stream.pointFormat.descriptors

def configSize (needsConfig : Bool) : Nat :=
  if needsConfig then ChannelConfigHeader.sizeBytes + stream.pointFormat.descriptors.length * 2 else 0

def nextSequence : Stream := { stream with sequence := stream.sequence + 1 }

def writeConfig (now : Nat) (stream : Stream) : Stream :=
  { stream with lastConfigTime := some now, previousFormat := some stream.pointFormat }

def updateMatch : Stream :=
  if stream.previousFormat ≠ some stream.pointFormat then
    { stream with serviceDataMatch := stream.serviceDataMatch + 1 }
  else stream

def anchor (anchorUs : Nat) (stream : Stream) : Stream :=
  { stream with timestampAnchorUs := anchorUs, pointsSinceAnchor := 0, anchorPps := max stream.scanSpeed 1 }

def advance (now points : Nat) (stream : Stream) : Stream :=
  { stream with lastSendTime := some now, lastDataSendTime := some now,
                pointsSinceAnchor := stream.pointsSinceAnchor + points,
                lastChunkDurationUs := stream.durationUs points }

def needsKeepalive (now : Nat) : Bool :=
  match stream.lastSendTime with
  | some last => keepaliveInterval ≤ now - last
  | none => 0 < stream.frameCount

def countFrame : Stream := { stream with frameCount := stream.frameCount + 1 }

end Stream

section

variable {P : Type} [Point P]

def divCeil (a b : Nat) : Nat := (a + b - 1) / b

def padPoints (points : List P) : List P :=
  match points.getLast? with
  | some last => points ++ List.replicate (minSamplesPerFrame - points.length) last
  | none => []

/-- How many points of this type fit into a datagram beside its headers and a config of this size. -/
def maxPointsPerPacket (P : Type) [Point P] (configSize : Nat) : Nat :=
  let headerSize := PacketHeader.sizeBytes + ChannelMessageHeader.sizeBytes + configSize + SampleChunkHeader.sizeBytes
  (maxUdpPayload - headerSize) / Point.sizeBytes P

/-- How many points the next datagram takes if they are spread evenly. -/
def evenShare (points maxPointsPerPacket : Nat) : Nat := points / divCeil points maxPointsPerPacket

namespace Stream

variable (stream : Stream)

def contentId (flag : Bool) (cnkType : UInt8) : UInt16 :=
  idnflgContentidChannelmsg ||| stream.channelId ||| (if flag then idnflgContentidConfigLstfrg else 0) |||
    cnkType.toUInt16

def firstShare (needsConfig : Bool) (points : List P) : Nat :=
  evenShare points.length (maxPointsPerPacket P (stream.configSize needsConfig))

def firstPacket (needsConfig : Bool) (command : UInt8) (points : List P) : Datagram :=
  let isOnly : Bool := divCeil points.length (maxPointsPerPacket P (stream.configSize needsConfig)) = 1
  let pointsToSend := stream.firstShare needsConfig points
  { header := ⟨command, stream.clientGroup, stream.sequence⟩
    msgSize := ChannelMessageHeader.sizeBytes + stream.configSize needsConfig + SampleChunkHeader.sizeBytes +
      pointsToSend * Point.sizeBytes P
    contentId := stream.contentId needsConfig (stream.chunkType true isOnly)
    timestampUs := stream.currentTimestampUs
    config := if needsConfig then some stream.config else none
    chunk := some (.new stream.sdmFlags (UInt32.ofNat (stream.durationUs pointsToSend)))
    samples := (points.take pointsToSend).map Point.write }

def continuationShare (points : List P) : Nat := evenShare points.length (maxPointsPerPacket P 0)

def continuationPacket (points : List P) : Datagram :=
  let pointsToSend := continuationShare points
  { header := ⟨idncmdRtCnlmsg, stream.clientGroup, stream.sequence⟩
    msgSize := ChannelMessageHeader.sizeBytes + SampleChunkHeader.sizeBytes + pointsToSend * Point.sizeBytes P
    contentId := stream.contentId false (stream.chunkType false false)
    timestampUs := stream.currentTimestampUs
    config := none
    chunk := some (.new stream.sdmFlags (UInt32.ofNat (stream.durationUs pointsToSend)))
    samples := (points.take pointsToSend).map Point.write }

def numFragments (needsConfig : Bool) (points : List P) : Nat :=
  let maxFirst := max (maxPointsPerPacket P (stream.configSize needsConfig)) 1
  max (divCeil points.length maxFirst) 1

/-- Fragment `index` of a frame in `numFragments` datagrams; `points` are its own points. -/
def fragment (points : List P) (index numFragments : Nat) (needsConfig : Bool)
    (tsStart frameDurationUs : Nat) (firstCommand : UInt8) : Datagram :=
  let isFirst : Bool := index = 0
  let isLast : Bool := index = numFragments - 1
  let isSingle : Bool := numFragments = 1
  let writeCfg := needsConfig && isFirst
  let cnkType :=
    if isSingle then idnvalCnktypeLpgrfFrame
    else if isFirst then idnvalCnktypeLpgrfFrameFirst
    else idnvalCnktypeLpgrfFrameSequel
  { header := ⟨if isFirst then firstCommand else idncmdRtCnlmsg, stream.clientGroup, stream.sequence⟩
    msgSize := ChannelMessageHeader.sizeBytes + stream.configSize writeCfg +
      (if isFirst then SampleChunkHeader.sizeBytes else 0) + points.length * Point.sizeBytes P
    contentId := stream.contentId (writeCfg || (isLast && !isSingle)) cnkType
    timestampUs := tsStart + index
    config := if writeCfg then some stream.config else none
    chunk := if isFirst then some (.new stream.sdmFlags (UInt32.ofNat frameDurationUs)) else none
    samples := points.map Point.write }

end Stream

end

inductive ProtocolError where
  | bufferTooSmall
  | invalidScanSpeed
  deriving DecidableEq, Repr

/-- The errors of a call. What the response was, if it was not an acknowledgement in time, is left out. -/
inductive CommunicationError where
  | io
  | protocol (error : ProtocolError)
  | response
  deriving DecidableEq, Repr

/-- Why the anchor of the timestamps moved. -/
inductive AnchorReason where
  | startup
  | idleGap
  | rateChange
  deriving DecidableEq, Repr

/-- What happened, each with the stream as it was then. -/
inductive Event where
  | anchored (found : Stream) (reason : AnchorReason) (anchorUs : Nat)
  | sent (found : Stream) (datagram : Datagram)
  | failed (found : Stream) (datagram : Datagram)
  | framed (found : Stream) (tsEnd : Nat) (numFragments : Nat)
  | ackAwaited (left : Nat) (received : Bool)
  | frameModeSet (found : Stream) (mode : FrameMode)
  /-- A packet that is a header and nothing else. -/
  | requested (command : UInt8) (delivered : Bool)
  deriving DecidableEq, Repr

/-- A law of events is decided constructor by constructor. -/
@[reducible] def Event.decidableLaw {P : Event → List Event → Prop}
    (law : ∀ event earlier, Decidable (P event earlier) := by
      intro event earlier
      apply @Event.casesOn _ event <;> intros <;> infer_instance) :
    ∀ event earlier, Decidable (P event earlier) := law

/-- What the clock reads, which sends succeed and which acknowledgements arrive, by their number. -/
structure Network where
  clock : Nat → Nat
  delivers : Nat → Bool
  acknowledges : Nat → Bool

/-- The stream, how often the clock, the socket and the acknowledgements were asked, and what happened, the newest
first. -/
structure Sender where
  stream : Stream
  reads : Nat
  sends : Nat
  waits : Nat
  log : List Event
  deriving DecidableEq, Repr

abbrev Sending := Attempt CommunicationError Sender

namespace Sender

variable (network : Network)

def new (stream : Stream) : Sender where
  stream := stream
  reads := 0
  sends := 0
  waits := 0
  log := []

def withStream (f : Stream → Stream) (sender : Sender) : Sender := { sender with stream := f sender.stream }

def now : Sending Nat := fun sender => (.ok (network.clock sender.reads), { sender with reads := sender.reads + 1 })

def send (datagram : Datagram) : Sending Unit := fun sender =>
  if network.delivers sender.sends then
    (.ok (), { sender with sends := sender.sends + 1, log := .sent sender.stream datagram :: sender.log })
  else
    (.error .io, { sender with sends := sender.sends + 1, log := .failed sender.stream datagram :: sender.log })

def anchor (reason : AnchorReason) (anchorUs : Nat) (sender : Sender) : Sender :=
  { sender with stream := sender.stream.anchor anchorUs,
                log := .anchored sender.stream reason anchorUs :: sender.log }

def anchorAfterGap (elapsedUs : Nat) (sender : Sender) : Sender :=
  match sender.stream.lastDataSendTime with
  | some last =>
    let gapUs := (network.clock sender.reads - last) / 1000
    let sender := { sender with reads := sender.reads + 1 }
    if max (2 * sender.stream.lastChunkDurationUs) reanchorMinGapUs < gapUs then sender.anchor .idleGap elapsedUs
    else sender
  | none => sender

/-- A new rate counts from the timestamp that was reached. -/
def anchorOnRate (sender : Sender) : Sender :=
  if sender.stream.anchorPps ≠ max sender.stream.scanSpeed 1 then
    sender.anchor .rateChange sender.stream.currentTimestampUs
  else sender

def prepared (sender : Sender) : Sender :=
  let sender := sender.withStream Stream.updateMatch
  let elapsedUs := (network.clock sender.reads - sender.stream.connectTime) / 1000
  let sender := { sender with reads := sender.reads + 1 }
  if sender.stream.frameCount = 0 then sender.anchor .startup (elapsedUs - startupLeadUs)
  else (sender.anchorAfterGap network elapsedUs).anchorOnRate

section

variable {P : Type} [Point P]

def preparePoints (points : List P) : Sending (List P) := do
  let points := if points.length < minSamplesPerFrame then padPoints points else points
  let sender ← state
  if sender.stream.scanSpeed = 0 then fail (.protocol .invalidScanSpeed)
  else do
    update (prepared network)
    return points

/-- The sequence number and the number of points that were sent. -/
def buildAndSendFirstPacket (points : List P) (command : UInt8) : Sending (UInt16 × Nat) := do
  let now ← now network
  let sender ← state
  let needsConfig := sender.stream.needsConfig now
  let pointsToSend := sender.stream.firstShare needsConfig points
  update (withStream Stream.nextSequence)
  update (withStream fun stream => if needsConfig then stream.writeConfig now else stream)
  send network (sender.stream.firstPacket needsConfig command points)
  update (withStream fun stream => (stream.advance now pointsToSend).countFrame)
  return (sender.stream.sequence, pointsToSend)

/-- One datagram of the rest of a wave, and the number of its points. -/
def sendContinuation (points : List P) : Sending Nat := do
  let sender ← state
  let pointsToSend := Stream.continuationShare points
  update (withStream Stream.nextSequence)
  let now ← now network
  send network (sender.stream.continuationPacket points)
  update (withStream (Stream.advance now pointsToSend))
  return pointsToSend

/-- The recursion ends when no points are left; a datagram takes at least one, so their number is fuel enough. -/
def continuationLoop : Nat → List P → Sending Unit
  | 0, _ => return ()
  | fuel + 1, points => do
    if points.isEmpty then return ()
    else do
      let pointsToSend ← sendContinuation network points
      if pointsToSend < points.length then continuationLoop fuel (points.drop pointsToSend) else return ()

def writeFrameContinuation (points : List P) : Sending Unit := continuationLoop network points.length points

def sendFrameFragment (points : List P) (index numFragments : Nat) (needsConfig : Bool)
    (tsStart frameDurationUs now : Nat) (firstCommand : UInt8) : Sending Unit := do
  let sender ← state
  update (withStream Stream.nextSequence)
  update (withStream fun stream => if needsConfig && index = 0 then stream.writeConfig now else stream)
  send network (sender.stream.fragment points index numFragments needsConfig tsStart frameDurationUs firstCommand)

/-- The fragments that are left, the first of them with this index. The first ones take one point more if the points
do not divide evenly. -/
def fragmentLoop (numFragments base rem : Nat) (needsConfig : Bool) (tsStart frameDurationUs now : Nat)
    (firstCommand : UInt8) : Nat → Nat → List P → Sending Unit
  | 0, _, _ => return ()
  | left + 1, index, points => do
    let count := base + if index < rem then 1 else 0
    sendFrameFragment network (points.take count) index numFragments needsConfig tsStart frameDurationUs now firstCommand
    fragmentLoop numFragments base rem needsConfig tsStart frameDurationUs now firstCommand left (index + 1)
      (points.drop count)

def writeFrameFragmented (points : List P) (firstCommand : UInt8) : Sending UInt16 := do
  let now ← now network
  let sender ← state
  let needsConfig := sender.stream.needsConfig now
  let tsStart := sender.stream.currentTimestampUs
  let frameDurationUs := sender.stream.durationUs points.length
  let numPackets := sender.stream.numFragments needsConfig points
  fragmentLoop network numPackets (points.length / numPackets) (points.length % numPackets) needsConfig tsStart
    frameDurationUs now firstCommand numPackets 0 points
  update fun after => { after with
    stream := (after.stream.advance now points.length).countFrame
    log := .framed sender.stream (sender.stream.timestampAt (sender.stream.pointsSinceAnchor + points.length)) numPackets
      :: after.log }
  return sender.stream.sequence

def writeFrame (points : List P) : Sending Unit := do
  if points.isEmpty then return ()
  else do
    let points ← preparePoints network points
    let sender ← state
    match sender.stream.frameMode with
    | .wave => do
      let (_, pointsToSend) ← buildAndSendFirstPacket network points idncmdRtCnlmsg
      if pointsToSend < points.length then writeFrameContinuation network (points.drop pointsToSend) else return ()
    | .frame => do
      let _ ← writeFrameFragmented network points idncmdRtCnlmsg
      return ()

/-- Wait for an acknowledgement, while this many points are left to be sent. -/
def recvAcknowledge (left : Nat) : Sending Unit := fun sender =>
  let received := network.acknowledges sender.waits
  let after := { sender with waits := sender.waits + 1, log := .ackAwaited left received :: sender.log }
  if received then (.ok (), after) else (.error .response, after)

def writeFrameWithAck (points : List P) : Sending Unit := do
  if points.isEmpty then fail (.protocol .bufferTooSmall)
  else do
    let points ← preparePoints network points
    let sender ← state
    match sender.stream.frameMode with
    | .frame => do
      let _ ← writeFrameFragmented network points idncmdRtCnlmsgAckreq
      recvAcknowledge network 0
    | .wave => do
      let (_, pointsToSend) ← buildAndSendFirstPacket network points idncmdRtCnlmsgAckreq
      recvAcknowledge network (points.length - pointsToSend)
      if pointsToSend < points.length then writeFrameContinuation network (points.drop pointsToSend) else return ()

end

def sendKeepalive : Sending Unit := do
  let sender ← state
  update (withStream Stream.nextSequence)
  send network { header := ⟨idncmdRtCnlmsg, sender.stream.clientGroup, sender.stream.sequence⟩
                 msgSize := ChannelMessageHeader.sizeBytes
                 contentId := sender.stream.contentId false idnvalCnktypeVoid
                 timestampUs := sender.stream.currentTimestampUs
                 config := none
                 chunk := none
                 samples := [] }
  let now ← now network
  update (withStream fun stream => { stream with lastSendTime := some now })

def sendRequest (command : UInt8) : Sending Unit := fun sender =>
  let delivered := network.delivers sender.sends
  let after := { sender with stream := sender.stream.nextSequence, sends := sender.sends + 1,
                             log := .requested command delivered :: sender.log }
  if delivered then (.ok (), after) else (.error .io, after)

def ping : Sending Unit := do
  sendRequest network idncmdPingRequest
  let now ← now network
  update (withStream fun stream => { stream with lastSendTime := some now })
  recvAcknowledge network 0

def sendChannelClose : Sending Unit := do
  let sender ← state
  update (withStream Stream.nextSequence)
  send network { header := ⟨idncmdRtCnlmsg, sender.stream.clientGroup, sender.stream.sequence⟩
                 msgSize := ChannelMessageHeader.sizeBytes + ChannelConfigHeader.sizeBytes
                 contentId := sender.stream.contentId true idnvalCnktypeVoid
                 timestampUs := sender.stream.currentTimestampUs
                 config := some ⟨⟨0, idnflgChncfgClose, sender.stream.serviceId, 0⟩, []⟩
                 chunk := none
                 samples := [] }

def close : Sending Unit := do
  let sender ← state
  if sender.stream.closed then return ()
  else do
    update (withStream fun stream => { stream with closed := true })
    sendChannelClose network
    sendRequest network idncmdRtCnlmsgClose

def setFrameMode (mode : FrameMode) (sender : Sender) : Sender :=
  { sender with stream := { sender.stream with frameMode := mode },
                log := .frameModeSet sender.stream mode :: sender.log }

def setPointFormat (format : PointFormat) : Sender → Sender :=
  withStream fun stream => { stream with pointFormat := format }

def setScanSpeed (pps : Nat) : Sender → Sender := withStream fun stream => { stream with scanSpeed := pps }

end Sender

/-- A chunk of points in one of the wire formats. -/
inductive ChunkPoints where
  | xyrgbi (points : List PointXyrgbi)
  | highRes (points : List PointXyrgbHighRes)
  | extended (points : List PointExtended)
  deriving DecidableEq, Repr

namespace ChunkPoints

def writeFrame (network : Network) : ChunkPoints → Sending Unit
  | xyrgbi points => Sender.writeFrame network points
  | highRes points => Sender.writeFrame network points
  | extended points => Sender.writeFrame network points

def writeFrameWithAck (network : Network) : ChunkPoints → Sending Unit
  | xyrgbi points => Sender.writeFrameWithAck network points
  | highRes points => Sender.writeFrameWithAck network points
  | extended points => Sender.writeFrameWithAck network points

end ChunkPoints

/-- What a user of a stream can do. -/
inductive Call where
  | setPointFormat (format : PointFormat)
  | setFrameMode (mode : FrameMode)
  | setScanSpeed (pps : Nat)
  | writeFrame (points : ChunkPoints)
  | writeFrameWithAck (points : ChunkPoints)
  deriving DecidableEq, Repr

namespace Sender

def perform (network : Network) (sender : Sender) : Call → Sender
  | .setPointFormat format => sender.setPointFormat format
  | .setFrameMode mode => sender.setFrameMode mode
  | .setScanSpeed pps => sender.setScanSpeed pps
  | .writeFrame points => (points.writeFrame network sender).2
  | .writeFrameWithAck points => (points.writeFrameWithAck network sender).2

/-- The sender after these calls. -/
def run (network : Network) (calls : List Call) (sender : Sender) : Sender := calls.foldl (perform network) sender

end Sender

end LaserDac.Idn
