import LaserDac.Adapters
import LaserDac.Reconnect

/-!
The driver loop: every pass drains the control messages, brings the shutter to the desired state and lets the
adapter take one step. A lost device is replaced; every way out of the loop ends the session.
-/

namespace LaserDac

open Runs Runs.Run

inductive TransitionOutcome
  | continue
  | disconnected
  deriving DecidableEq, Repr

section

variable (env : Env)

def commandClose (force : Bool) : Run World Unit := do
  let w ← state
  whenever (force ∨ w.shutterState ≠ .closed) (closeHeld env)

/-- The read a transition works from, with the handled state. -/
def firstRead : Run World (Word × Word) := do
  command env (fun w => (w.desired, w.handledState)) fun _ words => .firstRead words.1 words.2

/-- Whether the word is no longer the one a transition works for. -/
def hasMoved (desired : Word) : Run World Bool := do
  let current ← desiredState env
  if current ≠ desired then
    note (.changed current)
    return true
  else return false

def setHandled (generation : Word) : Run World Unit :=
  update fun w => { w.record (.handled generation) with handledState := generation }

def changeSourceAt (event : Event) (f : Source → Source) : Run World Unit :=
  update fun w => { w.record event with source := f w.source }

def changeAdapterAt (event : Event) : Run World Unit :=
  update fun w => { w.record event with adapter := w.adapter.onStateChange }

def fallingCleanup (desired : Word) : Run World Unit := do
  commandClose env false
  changeSourceAt (.falling .discardCached desired) Source.discardCached
  changeAdapterAt (.falling .onStateChange desired)
  changeSourceAt (.falling .onDisarm desired) Source.onDisarm
  note (.falling .resetOutputFilter desired)
  setHandled desired

def risingPreparation (desired : Word) (pps : Nat) : Run World TransitionOutcome := do
  changeSourceAt (.rising .discardCached desired) Source.discardCached
  changeAdapterAt (.rising .onStateChange desired)
  changeSourceAt (.rising (.armStartupBlank pps) desired) (Source.armStartupBlank pps)
  note (.rising .resetOutputFilter desired)
  let reset ← resetDeviceBuffer env
  if reset then
    note (.rising .resetDeviceBuffer desired)
    setHandled desired
    return .continue
  else
    let w ← state
    commandClose env true
    disconnect env w.backend.id
    return .disconnected

/-- Open for the generation whose preparation is complete, or close. -/
def settleShutter (desired : Word) : Run World Unit := do
  if isArmedWord desired then
    let current ← desiredState env
    if current = desired then
      let w ← state
      whenever (w.shutterState ≠ .open) (openHeld env desired)
      let current ← desiredState env
      whenever (current ≠ desired) (commandClose env true)
    else return ()
  else commandClose env false

/-- The second half of a transition, for a word that is not handled yet. -/
def prepareAndSettle (desired : Word) (pps : Nat) : Run World TransitionOutcome := do
  if isArmedWord desired then
    match ← risingPreparation env desired pps with
    | .disconnected => return .disconnected
    | .continue =>
      settleShutter env desired
      return .continue
  else
    settleShutter env desired
    return .continue

def handleShutterTransition (pps : Nat) : Run World TransitionOutcome := do
  let (desired, handled) ← firstRead env
  if desired = handled then
    settleShutter env desired
    return .continue
  else if isArmedWord handled ∨ ¬ isArmedWord desired then
    fallingCleanup env desired
    let moved ← hasMoved env desired
    if moved then return .continue else prepareAndSettle env desired pps
  else prepareAndSettle env desired pps

/-- The state with a replacement in place of the held backend. -/
def World.install (info : DacCapabilities) (backend : Backend) (shared : Shared) (w : World) : World :=
  let source := w.source.onReconnect info.maxPointsPerChunk
  { w.record (.installed backend.id shared.rate.pps backend.caps) with
    shared
    backend
    shutterState := .closed
    handledState := 0
    lastReconnectAt := some (env.now w.tick)
    source := source.setFrameCapacity (if backend.isFrameSwap then some (env.frameCapacity w.tick) else none)
    adapter := w.adapter.onReconnect info (env.now w.tick) }

/-- Replace the held backend; an exit is one that ended the attempt to. -/
def reconnect : Run World (Option SessionExit) := do
  match env.reconnectPolicy with
  | none => return some .disconnected
  | some policy =>
    let w ← state
    match ← reconnectBackendWithRetry env policy w.source.isFrame with
    | .error exit => return some exit
    | .ok (info, backend) =>
      access env
      let w ← state
      let (accepted, shared) := w.shared.updatePpsBounds backend.caps.ppsMin backend.caps.ppsMax
      if accepted then
        update (World.install env info backend shared)
        return none
      else
        closeAndDisconnect env backend.id
        return some .incompatibleDevice

/-- Where a pass leaves the loop: in it, or out of it with a result. -/
abbrev Passed := Unit ⊕ Except Error SessionExit

def stopAndCloseShutter : Run World Passed := do
  commandClose env true
  return .inr (.ok .stopped)

def recover : Run World Passed := do
  match ← reconnect env with
  | none => return .inl ()
  | some exit => return .inr (.ok exit)

def intake : Run World Unit := do
  let delay ← query env (·.shared.colorDelay)
  changeSource (Source.setColorDelay delay)
  whenever env.hasFrameSlot do
    access env
    update fun w =>
      match w.shared.frameSlot with
      | some frame => { w with shared := { w.shared with frameSlot := none }, source := w.source.submitFrame frame }
      | none => w

def finish (pps : Nat) : Run World Passed := do
  let w ← state
  if w.source.isEnded then
    changeSource fun source => source.takeStopError.2
    if w.source.takeStopError.1 then
      commandClose env true
      return .inr (.error .stopped)
    else
      w.adapter.drainAndBlank env pps
      return .inr (.ok .producerEnded)
  else return .inl ()

def armedRead : Run World Bool := do
  let word ← command env World.desired fun _ word => .armedRead word
  return isArmedWord word

def pass : Run World Passed := do
  note .pass
  let stop ← isStopRequested env
  if stop then stopAndCloseShutter env
  else
    let pps ← currentPps env
    intake env
    let w ← state
    let connected ← isConnected env w.backend.id
    if connected then
      match ← processControlMessages env with
      | .stop => stopAndCloseShutter env
      | _ =>
        match ← handleShutterTransition env pps with
        | .disconnected => recover env
        | .continue =>
          let isArmed ← armedRead env
          let w ← state
          match ← w.adapter.step env { pps, isArmed } with
          | .stopped => stopAndCloseShutter env
          | .disconnected => recover env
          | _ => finish env pps
    else recover env

def forBackend (backend : Backend) (sourceIsFrame : Bool) (now : Nat) : Except Error Adapter :=
  match backend.validateOutputModel with
  | some error => .error error
  | none =>
    let model := backend.caps.outputModel
    let modelIsFrame := model == .usbFrameSwap
    let kind := fun isFrame => if isFrame then "frame" else "FIFO"
    if modelIsFrame ≠ sourceIsFrame then
      .error (.invalidConfig ("output model " ++ model.name ++ " requires a " ++ kind modelIsFrame ++
        " content source, got " ++ kind sourceIsFrame))
    else .ok (match model with
      | .usbFrameSwap => .usbFrameSwap UsbFrameSwapAdapter.new
      | .networkFifo => .networkFifo (NetworkFifoAdapter.new backend)
      | .udpTimed => .udpTimed (UdpTimedAdapter.new backend now)
      | .blockingFifo => .blockingFifo (BlockingFifoAdapter.new backend))

def runLoop : Run World (Except Error SessionExit) := do
  let w ← state
  match forBackend w.backend w.source.isFrame (env.now w.tick) with
  | .error error =>
    -- `close_and_disconnect`; the loop's own shutter state does not exist yet and is not read again
    closeHeld env
    disconnect env w.backend.id
    return .error error
  | .ok adapter =>
    setAdapter adapter
    iterate env.fuel (fun _ => pass env) ()

def endSession : Run World Unit := do
  let w ← state
  let connected ← isConnected env w.backend.id
  whenever connected do
    command env (fun _ => ()) fun w _ => .stopped w.backend.id
    disconnect env w.backend.id

def run : Run World (Except Error SessionExit) := do
  let result ← runLoop env
  note (.exited result)
  endSession env
  return result

end

end LaserDac
