import LaserDac.Engine
import LaserDac.ColorDelay

/-!
The two content sources: the slice pipeline over the presentation engine, and the chunk producer over an application
callback. Durations are nanoseconds. Callbacks are parameters of the call that invokes them.
-/

namespace LaserDac

/-- What a callback stream shows when it has nothing new. -/
inductive IdlePolicy
  | repeatLast
  | blank
  | park (x y : UInt32)
  | stop
  deriving DecidableEq, Repr

inductive PresentedSliceKind
  | fifoChunk
  | frameSwapFrame
  deriving DecidableEq, Repr

structure OutputFilterContext where
  pps : Nat
  kind : PresentedSliceKind
  isCyclic : Bool
  deriving DecidableEq, Repr

/-- What an installed filter makes of a slice at one call. -/
def FilterResponse := OutputFilterContext → List LaserPoint → List LaserPoint

def usizeMax : Nat := 2 ^ 64 - 1

/-- `StreamInstant::add_points`, which saturates. -/
def StreamInstant.addPoints (instant points : Nat) : Nat := min (instant + points) (2 ^ 64 - 1)

/-- `ceil(duration * pps)`, exact and saturating. -/
def durationToPoints (nanos pps : Nat) : Nat :=
  if nanos = 0 ∨ pps = 0 then 0 else min ((nanos * pps + 999999999) / 1000000000) usizeMax

def parkPoint : IdlePolicy → LaserPoint
  | .park x y => LaserPoint.blanked x y
  | _ => LaserPoint.blanked 0 0

def blankPrefix (points : List LaserPoint) : List LaserPoint := points.map fun p => p.withColor black

/-- `buffer[..points.len()]` overwritten by `points`. -/
def overwrite (buffer points : List LaserPoint) : List LaserPoint := points ++ buffer.drop points.length

/-- A buffer of at least `n` points, grown with default points. -/
def grown (n : Nat) (buffer : List LaserPoint) : List LaserPoint :=
  buffer ++ List.replicate (n - buffer.length) (LaserPoint.blanked 0 0)

/-- Disarm blanking parks every point; startup blanking darkens the next `remaining` ones. -/
def applyBlanking (isArmed : Bool) (remaining : Nat) (points : List LaserPoint) (idlePolicy : IdlePolicy) :
    List LaserPoint × Nat :=
  if !isArmed then (List.replicate points.length (parkPoint idlePolicy), remaining)
  else if remaining > 0 then
    let blankCount := min points.length remaining
    (blankPrefix (points.take blankCount) ++ points.drop blankCount, remaining - blankCount)
  else (points, remaining)

structure SlicePipeline where
  engine : PresentationEngine
  colorDelay : ColorDelayLine
  colorDelayDuration : Nat
  hasOutputFilter : Bool
  idlePolicy : IdlePolicy
  buf : List LaserPoint
  cachedLen : Nat
  cached : Bool
  startupBlankRemaining : Nat
  startupBlank : Nat
  lastPendingFrame : Option Frame

namespace SlicePipeline

def withStartupBlank (engine : PresentationEngine) (colorDelay : Nat) (hasOutputFilter : Bool)
    (idlePolicy : IdlePolicy) (initialBufCapacity startupBlank : Nat) : SlicePipeline where
  engine := match idlePolicy with
    | .park x y => engine.setIdleBlankPoint (LaserPoint.blanked x y)
    | _ => engine
  colorDelay := ColorDelayLine.new 0
  colorDelayDuration := colorDelay
  hasOutputFilter
  idlePolicy
  buf := List.replicate initialBufCapacity (LaserPoint.blanked 0 0)
  cachedLen := 0
  cached := false
  startupBlankRemaining := 0
  startupBlank
  lastPendingFrame := none

def setPending (frame : Frame) (p : SlicePipeline) : SlicePipeline :=
  { p with lastPendingFrame := some frame, engine := p.engine.setPending frame }

variable (p : SlicePipeline)

def invalidate : SlicePipeline := { p with cached := false, cachedLen := 0 }

def resetEngine : SlicePipeline := invalidate { p with engine := p.engine.reset }

def resetColorDelay : SlicePipeline := { p with colorDelay := p.colorDelay.reset }

def armStartupBlank (points : Nat) (p : SlicePipeline) : SlicePipeline :=
  { p with startupBlankRemaining := points }

def reserveBuf (n : Nat) (p : SlicePipeline) : SlicePipeline := { p with buf := grown n p.buf }

def cachedSlice : Option (List LaserPoint) :=
  if p.cached then some (p.buf.take p.cachedLen) else none

/-- Blank, delay and filter the first `n` points of the buffer, and cache them. -/
def present (n pps : Nat) (isArmed filters : Bool) (kind : PresentedSliceKind) (isCyclic : Bool)
    (filter : FilterResponse) (p : SlicePipeline) : SlicePipeline :=
  let (blanked, remaining) := applyBlanking isArmed p.startupBlankRemaining (p.buf.take n) p.idlePolicy
  let line := p.colorDelay.resize (durationToPoints p.colorDelayDuration pps)
  let (delayed, line) := line.apply blanked
  let slice := if filters && p.hasOutputFilter then
      overwrite delayed ((filter { pps, kind, isCyclic } delayed).take n) else delayed
  { p with
    buf := overwrite p.buf slice
    colorDelay := line
    startupBlankRemaining := remaining
    cachedLen := n
    cached := true }

def produceFifoChunk (targetPoints pps : Nat) (isArmed : Bool) (filter : FilterResponse) (p : SlicePipeline) :
    Option SlicePipeline := do
  let p := p.reserveBuf targetPoints
  let (n, buf, engine) ← p.engine.fillChunk p.buf targetPoints pps
  let p := { p with buf, engine }
  if n = 0 then some p.invalidate
  else some (p.present n pps isArmed p.engine.hasLogicalFrame .fifoChunk false filter)

def produceFrameSwap (pps : Nat) (isArmed : Bool) (filter : FilterResponse) (p : SlicePipeline) : SlicePipeline :=
  let (composed, engine) := p.engine.composeHardwareFrame pps
  let p := { p with engine }
  if composed.isEmpty then p.invalidate
  else
    let n := composed.length
    let p := { p with buf := overwrite (grown n p.buf) composed }
    p.present n pps isArmed true .frameSwapFrame true filter

/-- Reset engine, delay and cache, and show the last submitted frame again. -/
def replayAfterReconnect : SlicePipeline :=
  let p := p.resetEngine.resetColorDelay
  match p.lastPendingFrame with
  | some frame => { p with engine := p.engine.setPending frame }
  | none => p

end SlicePipeline

/-- What the callback is asked for, from which instant on. -/
structure ChunkRequest where
  start : Nat
  pps : Nat
  targetPoints : Nat
  deriving DecidableEq, Repr

/-- The callback's answer, with the points it wrote. -/
inductive ChunkResult
  | filled (n : Nat)
  | starved
  | ended
  deriving DecidableEq, Repr

/-- What the fill callback answers at one call, and the buffer it leaves. -/
def FillResponse := ChunkRequest → List LaserPoint → ChunkResult × List LaserPoint

/-- The source over an application callback. -/
structure ChunkProducer where
  idlePolicy : IdlePolicy
  startupBlank : Nat
  buf : List LaserPoint
  cachedLen : Nat
  cached : Bool
  /-- The raw points of the last committed chunk, for `IdlePolicy.repeatLast`. -/
  lastChunk : List LaserPoint
  /-- The raw points of the chunk that is produced and not committed. -/
  pendingRaw : List LaserPoint
  colorDelayLine : ColorDelayLine
  startupBlankRemaining : Nat
  currentInstant : Nat
  ended : Bool
  /-- The end came from `IdlePolicy.stop`. -/
  stopError : Bool

namespace ChunkProducer

def new (idlePolicy : IdlePolicy) (startupBlank initialCapacity : Nat) : ChunkProducer where
  idlePolicy
  startupBlank
  buf := List.replicate initialCapacity (LaserPoint.blanked 0 0)
  cachedLen := 0
  cached := false
  lastChunk := []
  pendingRaw := []
  colorDelayLine := ColorDelayLine.new 0
  startupBlankRemaining := 0
  currentInstant := 0
  ended := false
  stopError := false

def armStartupBlank (pps : Nat) (p : ChunkProducer) : ChunkProducer :=
  { p with startupBlankRemaining := durationToPoints p.startupBlank pps }

def onDisarm (p : ChunkProducer) : ChunkProducer := { p with colorDelayLine := p.colorDelayLine.reset }

def invalidate (p : ChunkProducer) : ChunkProducer := { p with cached := false, cachedLen := 0 }

def ensureBuf (n : Nat) (p : ChunkProducer) : ChunkProducer := { p with buf := grown n p.buf }

/-- The chunk that is still to be written. -/
def cachedSlice (p : ChunkProducer) : Option (List LaserPoint) :=
  if p.cached then some (p.buf.take p.cachedLen) else none

/-- The points the idle policy puts into `count` places; nothing if it stops the stream. -/
def idlePoints (count : Nat) (isArmed : Bool) (p : ChunkProducer) : Option (List LaserPoint) :=
  if isArmed then
    match p.idlePolicy with
    | .stop => none
    | .repeatLast =>
      if p.lastChunk.length > 0 then
        some ((List.range count).map fun offset =>
          p.lastChunk.getD (offset % p.lastChunk.length) (LaserPoint.blanked 0 0))
      else some (List.replicate count (LaserPoint.blanked 0 0))
    | .park x y => some (List.replicate count (LaserPoint.blanked x y))
    | .blank => some (List.replicate count (LaserPoint.blanked 0 0))
  else some (List.replicate count (parkPoint p.idlePolicy))

/-- Fill `buf[start..stop]` by the idle policy; `false` if it stops the stream. -/
def fillIdleRange (start stop : Nat) (isArmed : Bool) (p : ChunkProducer) : Bool × ChunkProducer :=
  match p.idlePoints (stop - start) isArmed with
  | none => (false, { p with ended := true, stopError := true })
  | some points => (true, { p with buf := p.buf.take start ++ points ++ p.buf.drop stop })

def applyBlankingAndColorDelay (n pps : Nat) (isArmed : Bool) (colorDelay : Nat) (p : ChunkProducer) :
    ChunkProducer :=
  let (blanked, remaining) := applyBlanking isArmed p.startupBlankRemaining (p.buf.take n) p.idlePolicy
  let (delayed, line) := (p.colorDelayLine.resize (durationToPoints colorDelay pps)).apply blanked
  { p with buf := overwrite p.buf delayed, colorDelayLine := line, startupBlankRemaining := remaining }

/-- The number of points the callback and the idle policy put into the buffer; `none` if there are none. -/
def fill (targetPoints : Nat) (isArmed : Bool) (result : ChunkResult) (p : ChunkProducer) :
    Option Nat × ChunkProducer :=
  let starve : Option Nat × ChunkProducer :=
    match p.fillIdleRange 0 targetPoints isArmed with
    | (true, p) => (some targetPoints, p)
    | (false, p) => (none, p.invalidate)
  match result with
  | .filled 0 => starve
  | .filled n =>
    let filled := min n targetPoints
    if filled = targetPoints then (some filled, p)
    else match p.fillIdleRange filled targetPoints isArmed with
      | (true, p) => (some targetPoints, p)
      | (false, p) => if filled = 0 then (none, p.invalidate) else (some filled, p)
  | .starved => starve
  | .ended => (none, invalidate { p with ended := true })

/-- A fresh chunk: its length, and the producer that caches it. -/
def produceChunk (targetPoints pps : Nat) (isArmed : Bool) (colorDelay : Nat) (respond : FillResponse)
    (p : ChunkProducer) : Nat × ChunkProducer :=
  if p.ended then (0, p)
  else if targetPoints = 0 then (0, p.invalidate)
  else
    let p := p.ensureBuf targetPoints
    let request : ChunkRequest := { start := p.currentInstant, pps, targetPoints }
    let (result, written) := respond request (p.buf.take targetPoints)
    let p := { p with buf := overwrite p.buf (written.take targetPoints) }
    match p.fill targetPoints isArmed result with
    | (none, p) => (0, p)
    | (some n, p) =>
      let p := { p with pendingRaw := p.buf.take n }
      let p := p.applyBlankingAndColorDelay n pps isArmed colorDelay
      (n, { p with cachedLen := n, cached := true })

def commitWritten (n : Nat) (isArmed : Bool) (p : ChunkProducer) : ChunkProducer :=
  let p := if isArmed && n > 0 then { p with lastChunk := p.pendingRaw.take n } else p
  invalidate { p with currentInstant := StreamInstant.addPoints p.currentInstant n }

def onReconnect (maxPointsPerChunk : Nat) (p : ChunkProducer) : ChunkProducer :=
  let p := p.ensureBuf maxPointsPerChunk
  invalidate { p with
    lastChunk := [], pendingRaw := [], colorDelayLine := p.colorDelayLine.reset, startupBlankRemaining := 0 }

end ChunkProducer

/-- The content source a session runs: a pipeline for a queue or for frame swap, or a chunk producer. -/
inductive Source
  | fifo (pipeline : SlicePipeline)
  | frame (pipeline : SlicePipeline)
  | chunks (producer : ChunkProducer)

namespace Source

def isFrame : Source → Bool
  | .frame _ => true
  | _ => false

def map (pipeline : SlicePipeline → SlicePipeline) (producer : ChunkProducer → ChunkProducer) : Source → Source
  | .fifo p => .fifo (pipeline p)
  | .frame p => .frame (pipeline p)
  | .chunks p => .chunks (producer p)

def read {α : Type} (pipeline : SlicePipeline → α) (producer : ChunkProducer → α) : Source → α
  | .fifo p => pipeline p
  | .frame p => pipeline p
  | .chunks p => producer p

def cachedSlice : Source → Option (List LaserPoint) := read SlicePipeline.cachedSlice ChunkProducer.cachedSlice

def commitWritten (n : Nat) (isArmed : Bool) : Source → Source :=
  map SlicePipeline.invalidate (ChunkProducer.commitWritten n isArmed)

def discardCached : Source → Source := map SlicePipeline.invalidate ChunkProducer.invalidate

def reserveBuf (n : Nat) : Source → Source := map (SlicePipeline.reserveBuf n) (ChunkProducer.ensureBuf n)

def onReconnect (maxPointsPerChunk : Nat) : Source → Source :=
  map SlicePipeline.replayAfterReconnect (ChunkProducer.onReconnect maxPointsPerChunk)

def isEnded : Source → Bool := read (fun _ => false) ChunkProducer.ended

def submitFrame (frame : Frame) : Source → Source := map (SlicePipeline.setPending frame) id

def armStartupBlank (pps : Nat) : Source → Source :=
  map (fun p => p.armStartupBlank (durationToPoints p.startupBlank pps)) (ChunkProducer.armStartupBlank pps)

def onDisarm : Source → Source := map SlicePipeline.resetColorDelay ChunkProducer.onDisarm

def setColorDelay (nanos : Nat) : Source → Source := map ({ · with colorDelayDuration := nanos }) id

/-- Take the error of a stream that its idle policy stopped. -/
def takeStopError : Source → Bool × Source
  | .chunks p => (p.stopError, .chunks { p with stopError := false })
  | source => (false, source)

def setFrameCapacity (cap : Option Nat) : Source → Source
  | .frame p => .frame { p with engine := p.engine.setFrameCapacity cap }
  | source => source

/-- Fresh output for a queue device: its length, and the source that caches it. -/
def produceChunk (targetPoints pps : Nat) (isArmed : Bool) (colorDelay : Nat) (filter : FilterResponse)
    (respond : FillResponse) : Source → Option (Nat × Source)
  | .fifo p => (p.produceFifoChunk targetPoints pps isArmed filter).map fun p =>
      ((p.cachedSlice.map List.length).getD 0, .fifo p)
  | .frame _ => none
  | .chunks p =>
    let (n, p) := p.produceChunk targetPoints pps isArmed colorDelay respond
    some (n, .chunks p)

/-- A fresh hardware frame: its length, and the source that caches it. -/
def produceFrame (pps : Nat) (isArmed : Bool) (filter : FilterResponse) : Source → Option (Nat × Source)
  | .frame p =>
    let p := p.produceFrameSwap pps isArmed filter
    some ((p.cachedSlice.map List.length).getD 0, .frame p)
  | _ => none

def delayLine : Source → ColorDelayLine := read SlicePipeline.colorDelay ChunkProducer.colorDelayLine

/-- The colour delay in force: a pipeline is told it, a chunk producer reads the shared one. -/
def colorDelayFor (shared : Nat) : Source → Nat := read SlicePipeline.colorDelayDuration fun _ => shared

def lineFor (colorDelay pps : Nat) (source : Source) : ColorDelayLine :=
  source.delayLine.resize (durationToPoints (source.colorDelayFor colorDelay) pps)

def startupBlankRemaining : Source → Nat :=
  read SlicePipeline.startupBlankRemaining ChunkProducer.startupBlankRemaining

def startupBlank : Source → Nat := read SlicePipeline.startupBlank ChunkProducer.startupBlank

def idlePolicy : Source → IdlePolicy := read SlicePipeline.idlePolicy ChunkProducer.idlePolicy

def hasOutputFilter : Source → Bool := read SlicePipeline.hasOutputFilter (fun _ => false)

end Source

end LaserDac
