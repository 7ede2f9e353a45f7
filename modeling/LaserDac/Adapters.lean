import LaserDac.Metronome
import LaserDac.World

/-!
The four output adapters. Each paces, produces and writes in its own way; all of them leave opening the shutter to the
driver. Pacing is computed exactly, in nanoseconds and in points scaled by a thousand million where the code uses
floating point.
-/

namespace LaserDac

open Runs Runs.Run

def nanosPerSecond : Nat := 1000000000

/-- What a step is told by the driver. -/
structure LoopCtx where
  pps : Nat
  isArmed : Bool

section

variable (env : Env)

def processControlMessages : Run World ControlAction :=
  iterate env.fuel (fun action => do
    match ← tryRecv env with
    | some .arm => return .inl .stateChanged
    | some .disarm => return .inl .stateChanged
    | some .stop => return .inr .stop
    | none => return .inr action) ControlAction.none

/-- The only way an adapter touches the shutter before the end of the stream. -/
def closeIfDisarmed : Run World Unit := do
  let armed ← isArmed env
  let w ← state
  whenever (armed = false ∧ w.shutterState ≠ .closed) (closeHeld env)

/-- What a wait does after each slice of sleep: go on waiting, or end with an outcome. -/
def checkControl : Run World (Unit ⊕ Option StepOutcome) := do
  let stop ← isStopRequested env
  if stop then return .inr (some .stopped)
  else
    closeIfDisarmed env
    match ← processControlMessages env with
    | .stop => return .inr (some .stopped)
    | .stateChanged => return .inr (some .stateChanged)
    | .none => return .inl ()

def sleepWithControlCheck (duration : Nat) : Run World (Option StepOutcome) := do
  let start ← clockNow env
  iterate env.fuel (fun _ => do
    let now ← clockNow env
    let remaining := start + duration - now
    if remaining = 0 then return .inr none
    else
      clockSleep env (min remaining 2000000)
      checkControl env) ()

/-- Sleep until a deadline, busy for the last half millisecond. -/
def sleepUntilPrecise (deadline : Nat) : Run World (Option StepOutcome) :=
  iterate env.fuel (fun _ => do
    let now ← clockNow env
    if now ≥ deadline then return .inr none
    else
      let remaining := deadline - now
      whenever (remaining > 500000) (clockSleep env (min (remaining - 500000) 1000000))
      checkControl env) ()

def waitStep (duration : Nat) : Run World StepOutcome := do
  let ended ← sleepWithControlCheck env duration
  return ended.getD .continue

def blankAndCloseShutter (pps : Nat) : Run World Unit := do
  closeHeld env
  command env (fun _ => ()) fun w _ => .blanks w.backend.id pps

/-- Wait until the estimator shows an empty queue, the timeout, a stop or a notification. -/
def drainViaEstimator (pps timeout : Nat) : Run World Unit := do
  if timeout = 0 then return ()
  else
    let w ← state
    let drainPps := min pps w.backend.caps.ppsMax
    let start ← clockNow env
    iterate env.fuel (fun now => do
      if now < start + timeout then
        let buffered ← estimatorFullness env drainPps
        if buffered = 0 then return .inr ()
        else
          let stop ← isStopRequested env
          if stop then return .inr ()
          else
            closeIfDisarmed env
            match ← processControlMessages env with
            | .none =>
              clockSleep env 5000000
              let now ← clockNow env
              return .inl now
            | _ => return .inr ()
      else return .inr ()) start

def sourceMismatch (adapter : String) : Run World StepOutcome := do
  report (.invalidConfig (adapter ++ " requires a content source matching its output model " ++
    "(pairing violated; this is a driver wiring bug)"))
  return .stopped

/-- A failed write of a queue adapter. Only an error that is not itself a disconnection disconnects. -/
def writeFailed (error : Error) : Run World StepOutcome := do
  match error with
  | .stopped => return .stopped
  | .disconnected msg =>
    report (.disconnected msg)
    return .disconnected
  | error =>
    let w ← state
    disconnect env w.backend.id
    report error
    return .disconnected

namespace NetworkFifoAdapter

def new (backend : Backend) : NetworkFifoAdapter := { maxPoints := backend.caps.maxPointsPerChunk, writtenPps := none }

/-- One round of the wait for the device to take the cached slice. -/
def spin (adapter : NetworkFifoAdapter) (ctx : LoopCtx) (n spinStart : Nat) (desiredAtStart : Word) :
    Run World (Unit ⊕ StepOutcome) := do
  let w ← state
  match w.source.cachedSlice with
  | none => return .inr .continue
  | some slice =>
    match ← tryWrite env ctx.pps slice with
    | .ok .written =>
      setAdapter (.networkFifo { adapter with writtenPps := some ctx.pps })
      commitWritten n ctx.isArmed
      return .inr .continue
    | .ok .wouldBlock =>
      let stop ← isStopRequested env
      if stop then return .inr .stopped
      else
        let action ← processControlMessages env
        closeIfDisarmed env
        match action with
        | .stop => return .inr .stopped
        | .stateChanged => wake
        | .none =>
          let armed ← isArmed env
          if armed ≠ ctx.isArmed then wake
          else
            let desired ← desiredState env
            if desired ≠ desiredAtStart then wake
            else
              let now ← clockNow env
              if now - spinStart ≥ 2 * nanosPerSecond then
                let w ← state
                disconnect env w.backend.id
                report (.disconnected "write stalled: continuous WouldBlock")
                return .inr .disconnected
              else
                clockSleep env 100000
                return .inl ()
    | .error error =>
      let outcome ← writeFailed env error
      return .inr outcome
where
  /-- Hand control back to the driver. -/
  wake : Run World (Unit ⊕ StepOutcome) := do
    update fun w => w.record (.woken w.desired w.handledState)
    return .inr .stateChanged

def step (adapter : NetworkFifoAdapter) (ctx : LoopCtx) : Run World StepOutcome := do
  let pps := ctx.pps
  let ceiling ← targetBufferCeiling env
  let requested := env.targetBuffer * pps
  let target := match ceiling with
    | some ceiling => min requested (max ceiling 1 * nanosPerSecond)
    | none => requested
  let targetBufferPoints := target / nanosPerSecond
  let quantum := min (min (max ((5 * pps + 999) / 1000) 16) adapter.maxPoints) targetBufferPoints
  let drainPps := adapter.writtenPps.getD pps
  let ratePending := drainPps != pps
  let buffered ← estimatorFullness env drainPps
  if buffered > targetBufferPoints ∧ ratePending = false then
    waitStep env (Metronome.nearest ((buffered - targetBufferPoints) * nanosPerSecond) (max pps 1))
  else
    let deficit := target - buffered * nanosPerSecond
    let wanted := min ((deficit + nanosPerSecond - 1) / nanosPerSecond) adapter.maxPoints
    let targetPoints := if ratePending then max (max wanted quantum) 1 else wanted
    if targetPoints = 0 then
      clockSleep env 1000000
      return .continue
    else if targetPoints < quantum then
      waitStep env (Metronome.nearest ((quantum - targetPoints) * nanosPerSecond) (max pps 1))
    else
      let w ← state
      if w.source.isFrame then sourceMismatch "NetworkFifoAdapter"
      else
        let n ← produceChunk env targetPoints pps ctx.isArmed
        if n = 0 then
          clockSleep env 1000000
          return .continue
        else
          let spinStart ← clockNow env
          let desiredAtStart ← desiredState env
          iterate env.fuel (fun _ => spin env adapter ctx n spinStart desiredAtStart) ()

end NetworkFifoAdapter

/-- Write the cached slice. `released` is the adapter without a retained slice, `blocked` what a step does
when the device is full. -/
def deliverRetained (ctx : LoopCtx) (pps : Nat) (released : Adapter) (blocked : Run World StepOutcome) :
    Run World StepOutcome := do
  let w ← state
  match w.source.cachedSlice with
  | none =>
    setAdapter released
    return .continue
  | some slice =>
    match ← tryWrite env pps slice with
    | .ok .written =>
      commitWritten slice.length ctx.isArmed
      setAdapter released
      return .continue
    | .ok .wouldBlock => blocked
    | .error error => writeFailed env error

namespace UdpTimedAdapter

def new (backend : Backend) (now : Nat) : UdpTimedAdapter where
  nextSend := now
  chunkPoints := 0
  chunkPps := 0
  chunkDuration := 10000000
  hasRetain := false
  maxPointsPerChunk := backend.caps.maxPointsPerChunk

def recomputeChunk (pps : Nat) (adapter : UdpTimedAdapter) : UdpTimedAdapter :=
  let newChunk := min ((pps + 99) / 100) adapter.maxPointsPerChunk
  if newChunk ≠ adapter.chunkPoints ∨ pps ≠ adapter.chunkPps then
    { adapter with
      chunkPoints := newChunk, chunkPps := pps
      chunkDuration := Metronome.nearest (newChunk * nanosPerSecond) (max pps 1) }
  else adapter

/-- The next deadline: a chunk later, but at most three chunks behind. -/
def advance (now : Nat) (adapter : UdpTimedAdapter) : UdpTimedAdapter :=
  let maxLag := adapter.chunkDuration * 3
  let minNext := if maxLag ≤ now then now - maxLag else now
  { adapter with nextSend := max (adapter.nextSend + adapter.chunkDuration) minNext }

def step (adapter : UdpTimedAdapter) (ctx : LoopCtx) : Run World StepOutcome := do
  match ← sleepUntilPrecise env adapter.nextSend with
  | some outcome => return outcome
  | none =>
    let now ← clockNow env
    setAdapter (.udpTimed (adapter.advance now))
    let pps ← currentPps env
    let adapter := (adapter.advance now).recomputeChunk pps
    setAdapter (.udpTimed adapter)
    let w ← state
    if w.source.isFrame then sourceMismatch "UdpTimedAdapter"
    else
      changeSource (Source.reserveBuf adapter.chunkPoints)
      let released := Adapter.udpTimed { adapter with hasRetain := false }
      if adapter.hasRetain then deliverRetained env ctx pps released (return .continue)
      else
        let n ← produceChunk env adapter.chunkPoints pps ctx.isArmed
        if n = 0 then return .continue
        else
          setAdapter (.udpTimed { adapter with hasRetain := true })
          deliverRetained env ctx pps released (return .continue)

end UdpTimedAdapter

namespace BlockingFifoAdapter

def new (backend : Backend) : BlockingFifoAdapter where
  chunkPoints := min 512 backend.caps.maxPointsPerChunk
  hasRetain := false

def blocked : Run World StepOutcome := do
  let stop ← isStopRequested env
  if stop then return .stopped
  else
    closeIfDisarmed env
    let armed ← isArmed env
    if armed then
      clockSleep env 100000
      return .continue
    else return .stateChanged

def step (adapter : BlockingFifoAdapter) (ctx : LoopCtx) : Run World StepOutcome := do
  if ctx.isArmed then
    let w ← state
    if w.source.isFrame then sourceMismatch "BlockingFifoAdapter"
    else
      changeSource (Source.reserveBuf adapter.chunkPoints)
      let released := Adapter.blockingFifo { adapter with hasRetain := false }
      if adapter.hasRetain then deliverRetained env ctx ctx.pps released (blocked env)
      else
        let n ← produceChunk env adapter.chunkPoints ctx.pps ctx.isArmed
        if n = 0 then
          clockSleep env 1000000
          return .continue
        else
          setAdapter (.blockingFifo { adapter with hasRetain := true })
          deliverRetained env ctx ctx.pps released (blocked env)
  else waitStep env 2000000

end BlockingFifoAdapter

namespace UsbFrameSwapAdapter

def new : UsbFrameSwapAdapter := { writePending := false, transientRetries := 0 }

def maxTransientWriteRetries : Nat := 3

variable (adapter : UsbFrameSwapAdapter)

/-- A failed frame write: other errors are retried before they disconnect. -/
def frameFailed (error : Error) : Run World StepOutcome := do
  match error with
  | .stopped => return .stopped
  | .disconnected msg =>
    report (.disconnected msg)
    return .disconnected
  | error =>
    let retries := adapter.transientRetries + 1
    if retries ≤ maxTransientWriteRetries then
      setAdapter (.usbFrameSwap { adapter with transientRetries := retries })
      clockSleep env 1000000
      return .continue
    else
      setAdapter (.usbFrameSwap new)
      let w ← state
      disconnect env w.backend.id
      report error
      return .disconnected

/-- Upload the cached frame, and wait out half of it when the device took it. -/
def deliver (ctx : LoopCtx) : Run World StepOutcome := do
  let w ← state
  match w.source.cachedSlice with
  | none =>
    setAdapter (.usbFrameSwap { adapter with writePending := false })
    return .continue
  | some slice =>
    match ← writeFrameAfterReady env ctx.pps slice with
    | .ok .written =>
      commitWritten slice.length ctx.isArmed
      setAdapter (.usbFrameSwap new)
      if ctx.pps > 0 ∧ slice.length > 0 then 
        waitStep env (Metronome.nearest (slice.length * nanosPerSecond) (2 * ctx.pps))
      else return .continue
    | .ok .wouldBlock =>
      clockSleep env 1000000
      return .continue
    | .error error => frameFailed env adapter error

def step (ctx : LoopCtx) : Run World StepOutcome := do
  match ← isReadyForFrame env with
  | .error error =>
    report error
    return .stopped
  | .ok false => waitStep env 1000000
  | .ok true =>
    let w ← state
    if w.source.isFrame then
      if adapter.writePending then deliver env adapter ctx
      else
        let n ← produceFrame env ctx.pps ctx.isArmed
        if n = 0 then
          clockSleep env 1000000
          return .continue
        else
          setAdapter (.usbFrameSwap { adapter with writePending := true })
          deliver env { adapter with writePending := true } ctx
    else sourceMismatch "UsbFrameSwapAdapter"

end UsbFrameSwapAdapter

namespace Adapter

def hasRetain : Adapter → Bool
  | .networkFifo _ => false
  | .udpTimed adapter => adapter.hasRetain
  | .blockingFifo adapter => adapter.hasRetain
  | .usbFrameSwap adapter => adapter.writePending

def step (adapter : Adapter) (ctx : LoopCtx) : Run World StepOutcome :=
  match adapter with
  | .networkFifo adapter => adapter.step env ctx
  | .udpTimed adapter => adapter.step env ctx
  | .blockingFifo adapter => adapter.step env ctx
  | .usbFrameSwap adapter => adapter.step env ctx

def onReconnect (caps : DacCapabilities) (now : Nat) : Adapter → Adapter
  | .networkFifo _ => .networkFifo { maxPoints := caps.maxPointsPerChunk, writtenPps := none }
  | .udpTimed adapter => .udpTimed { adapter with
      nextSend := now, hasRetain := false, maxPointsPerChunk := caps.maxPointsPerChunk, chunkPoints := 0 }
  | .blockingFifo _ => .blockingFifo { chunkPoints := min 512 caps.maxPointsPerChunk, hasRetain := false }
  | .usbFrameSwap _ => .usbFrameSwap UsbFrameSwapAdapter.new

/-- Clear what is retained on an arm or disarm edge; the direction does not matter. -/
def onStateChange : Adapter → Adapter
  | .networkFifo adapter => .networkFifo adapter
  | .udpTimed adapter => .udpTimed { adapter with hasRetain := false }
  | .blockingFifo adapter => .blockingFifo { adapter with hasRetain := false }
  | .usbFrameSwap _ => .usbFrameSwap UsbFrameSwapAdapter.new

def drainAndBlank (pps : Nat) : Adapter → Run World Unit
  | .usbFrameSwap _ => blankAndCloseShutter env pps
  | .blockingFifo _ => do
    drainViaEstimator env pps env.drainTimeout
    let _ ← resetDeviceBuffer env
    blankAndCloseShutter env pps
  | _ => do
    drainViaEstimator env pps env.drainTimeout
    blankAndCloseShutter env pps

end Adapter

end

end LaserDac
