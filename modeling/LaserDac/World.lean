import LaserDac.Control
import LaserDac.Runs
import LaserDac.Sources

/-!
The state a session runs in. The environment decides what other threads do before each action of the driver, what the
device answers, what the clock shows and how callbacks respond, and it may cut the run off anywhere. What a property
is about is recorded in the log, the newest first.
-/

namespace LaserDac

open Runs Runs.Run

inductive OutputModel
  | usbFrameSwap
  | networkFifo
  | udpTimed
  | blockingFifo
  deriving DecidableEq, Repr

/-- What a device says of itself. -/
structure DacCapabilities where
  ppsMin : Nat
  ppsMax : Nat
  maxPointsPerChunk : Nat
  outputModel : OutputModel
  deriving DecidableEq, Repr

/-- The rate lies in the range of the device. -/
def DacCapabilities.Supports (caps : DacCapabilities) (pps : Nat) : Prop := caps.ppsMin ≤ pps ∧ pps ≤ caps.ppsMax

instance (caps : DacCapabilities) (pps : Nat) : Decidable (caps.Supports pps) := inferInstanceAs (Decidable (_ ∧ _))

inductive Error
  | wouldBlock
  | stopped
  | disconnected (msg : String)
  | permissionDenied (msg : String)
  | invalidConfig (msg : String)
  | backend (msg : String)
  deriving DecidableEq, Repr

def Error.isDisconnected : Error → Bool
  | .disconnected _ => true
  | _ => false

inductive WriteOutcome
  | written
  | wouldBlock
  deriving DecidableEq, Repr

/-- Why a session ended. -/
inductive SessionExit
  | stopped
  | producerEnded
  | disconnected
  | incompatibleDevice
  deriving DecidableEq, Repr

/-- What the driver knows of the shutter after its last command. -/
inductive ShutterState
  | open
  | closed
  | unknown
  deriving DecidableEq, Repr

/-- How a step hands control back. -/
inductive StepOutcome
  | continue
  | stateChanged
  | stopped
  | disconnected
  deriving DecidableEq, Repr

inductive ControlAction
  | none
  | stateChanged
  | stop
  deriving DecidableEq, Repr

/-- A device of the session; the one it starts with has number zero. -/
structure Backend where
  id : Nat
  isFrameSwap : Bool
  /-- What it reports of itself; connecting may change it. -/
  caps : DacCapabilities
  deriving DecidableEq, Repr

structure NetworkFifoAdapter where
  maxPoints : Nat
  /-- Rate of the last accepted write. -/
  writtenPps : Option Nat
  deriving DecidableEq, Repr

structure UdpTimedAdapter where
  nextSend : Nat
  chunkPoints : Nat
  chunkPps : Nat
  chunkDuration : Nat
  hasRetain : Bool
  maxPointsPerChunk : Nat
  deriving DecidableEq, Repr

structure BlockingFifoAdapter where
  chunkPoints : Nat
  hasRetain : Bool
  deriving DecidableEq, Repr

structure UsbFrameSwapAdapter where
  writePending : Bool
  transientRetries : Nat
  deriving DecidableEq, Repr

/-- The adapter of a session, one for each output model. -/
inductive Adapter
  | networkFifo (adapter : NetworkFifoAdapter)
  | udpTimed (adapter : UdpTimedAdapter)
  | blockingFifo (adapter : BlockingFifoAdapter)
  | usbFrameSwap (adapter : UsbFrameSwapAdapter)
  deriving DecidableEq, Repr

/-- The falling cleanup after the shutter command, step by step. -/
inductive FallingStep
  | discardCached
  | onStateChange
  | onDisarm
  | resetOutputFilter
  deriving DecidableEq, Repr

/-- The rising preparation, step by step; the last one says that the device buffer was reset. -/
inductive RisingStep
  | discardCached
  | onStateChange
  | armStartupBlank (pps : Nat)
  | resetOutputFilter
  | resetDeviceBuffer
  deriving DecidableEq, Repr

/-- What a property of a session can be about. -/
inductive Event
  /-- The desired-state word moved. -/
  | edge (before after : Word)
  /-- A pass of the loop starts. -/
  | pass
  | rate (pps : Nat)
  /-- The shutter transition of a pass starts from this word, with this one handled. -/
  | firstRead (desired handled : Word)
  /-- After the falling cleanup the word was no longer the one the transition works for. -/
  | changed (desired : Word)
  | opened (backend : Nat) (generation : Word) (ok : Bool)
  | closed (backend : Nat) (ok : Bool)
  | falling (step : FallingStep) (generation : Word)
  | rising (step : RisingStep) (generation : Word)
  | handled (generation : Word)
  /-- The read that decides whether the step of a pass is an armed one. -/
  | armedRead (word : Word)
  /-- Fresh output, with the colours the delay line brought along. -/
  | produced (slice : List LaserPoint) (isArmed : Bool) (handled : Word) (carry : List Color)
  /-- The source had no output. -/
  | starved
  | wrote (backend pps : Nat) (slice : List LaserPoint) (result : Except Error WriteOutcome) (desired handled : Word)
  | committed
  /-- A step gave up waiting for the device because of a control notification. -/
  | woken (desired handled : Word)
  /-- The blank points at the end of a drained stream. -/
  | blanks (backend pps : Nat)
  | resetBuffer (backend : Nat) (ok : Bool)
  | connected (backend : Nat) (answer : Bool)
  | disconnected (backend : Nat)
  | stopped (backend : Nat)
  | reported (error : Error)
  /-- A replacement is being opened; the backend still held would say so of its connection. -/
  | opening (held : Nat) (connected : Bool)
  | obtained (backend : Nat)
  | validated (backend : Nat) (caps : DacCapabilities) (passed : Bool)
  | connect (backend : Nat) (ok : Bool)
  | installed (backend : Nat) (pps : Nat) (caps : DacCapabilities)
  /-- The loop has returned. -/
  | exited (result : Except Error SessionExit)
  deriving DecidableEq

/-- A law of events is decided constructor by constructor. -/
@[reducible] def Event.decidableLaw {P : Event → List Event → Prop}
    (law : ∀ event earlier, Decidable (P event earlier) := by
      intro event earlier
      apply @Event.casesOn _ event <;> intros <;>
        first
          | infer_instance
          | rename FallingStep => step; apply @FallingStep.casesOn _ step <;> infer_instance
          | rename RisingStep => step; apply @RisingStep.casesOn _ step <;> intros <;> infer_instance
          | rename Except Error WriteOutcome => result
            apply @Except.casesOn _ _ _ result <;> intros <;>
              first
                | infer_instance
                | rename WriteOutcome => outcome; apply @WriteOutcome.casesOn _ outcome <;> infer_instance) :
    ∀ event earlier, Decidable (P event earlier) := law

/-- The driver's state, with what it shares and what happened. -/
structure World where
  shared : Shared
  backend : Backend
  source : Source
  adapter : Adapter
  shutterState : ShutterState
  handledState : Word
  lastReconnectAt : Option Nat
  /-- The number of actions so far, which the environment's answers are indexed by. -/
  tick : Nat
  nextBackend : Nat
  log : List Event

/-- What opening a device gives: an error, a device without a backend, or one with a backend. -/
inductive OpenResult
  | failed (error : Error)
  | noBackend
  | device (scanned : DacCapabilities) (isFrameSwap : Bool) (caps : DacCapabilities)

/-- How often and in what intervals to try. -/
structure ReconnectPolicy where
  maxRetries : Option UInt32
  backoff : Nat

/-- The environment and the configuration of a session. Times are nanoseconds. -/
structure Env where
  schedule : Nat → List Action
  isConnected : Nat → Bool
  setShutter : Nat → Bool
  write : Nat → Except Error WriteOutcome
  resetDeviceBuffer : Nat → Bool
  isReadyForFrame : Nat → Bool
  estimatedFullness : Nat → Nat → Nat
  targetBufferCeiling : Nat → Option Nat
  frameCapacity : Nat → Nat
  openDevice : Nat → OpenResult
  /-- The result of connecting, and the capabilities the backend then reports. -/
  connect : Nat → Option Error × DacCapabilities
  now : Nat → Nat
  filter : Nat → FilterResponse
  fill : Nat → FillResponse
  /-- What the session's validator says of a device at a rate. -/
  validator : Nat → DacCapabilities → Backend → Nat → Option SessionExit
  reconnectPolicy : Option ReconnectPolicy
  targetBuffer : Nat
  drainTimeout : Nat
  hasFrameSlot : Bool
  /-- The number of actions after which the run is cut off. -/
  fuel : Nat

namespace World

/-- The state a session starts in. The adapter is chosen when the loop starts. -/
def start (shared : Shared) (isFrameSwap : Bool) (caps : DacCapabilities) (source : Source) : World where
  shared
  backend := { id := 0, isFrameSwap, caps }
  source
  adapter := .networkFifo { maxPoints := 0, writtenPps := none }
  shutterState := .closed
  handledState := 0
  lastReconnectAt := none
  tick := 0
  nextBackend := 1
  log := []

def desired (w : World) : Word := w.shared.desired

def record (event : Event) (w : World) : World := { w with log := event :: w.log }

def act (w : World) (action : Action) : World :=
  let shared := w.shared.act action
  if shared.desired = w.desired then { w with shared }
  else record (.edge w.desired shared.desired) { w with shared }

/-- What the other threads do before the next action of the driver. -/
def interleave (env : Env) (w : World) : World :=
  { (env.schedule w.tick).foldl act w with tick := w.tick + 1 }

end World

section

variable (env : Env)

def access : Run World Unit := do
  let w ← state
  if w.tick < env.fuel then update (World.interleave env) else cut

def note (event : Event) : Run World Unit := update (World.record event)

/-- Look at the state after the other threads had their turn. -/
def query {α : Type} (answer : World → α) : Run World α := do
  access env
  return answer (← state)

def command {α : Type} (answer : World → α) (event : World → α → Event) : Run World α := do
  access env
  let w ← state
  note (event w (answer w))
  return answer w

def isStopRequested : Run World Bool := query env (·.shared.stopRequested)

def isArmed : Run World Bool := query env (isArmedWord ·.desired)

def desiredState : Run World Word := query env World.desired

def currentPps : Run World Nat := command env (·.shared.rate.pps) fun _ pps => .rate pps

def clockNow : Run World Nat := query env fun w => env.now w.tick

def clockSleep (_duration : Nat) : Run World Unit := access env

def tryRecv : Run World (Option ControlMsg) := do
  access env
  let w ← state
  match w.shared.messages with
  | [] => return none
  | msg :: messages =>
    update fun w => { w with shared := { w.shared with messages } }
    return some msg

def isConnected (backend : Nat) : Run World Bool :=
  command env (fun w => env.isConnected w.tick) fun _ answer => .connected backend answer

/-- Close the shutter of a backend the session does not hold. -/
def closeShutter (backend : Nat) : Run World Bool :=
  command env (fun w => env.setShutter w.tick) fun _ ok => .closed backend ok

def disconnect (backend : Nat) : Run World Unit := command env (fun _ => ()) fun _ _ => .disconnected backend

def closeAndDisconnect (backend : Nat) : Run World Unit := do
  let _ ← closeShutter env backend
  disconnect env backend

def report (error : Error) : Run World Unit := note (.reported error)

/-- `*shutter_state = match backend.set_shutter(false) ..` -/
def closeHeld : Run World Unit := do
  access env
  update fun w =>
    let ok := env.setShutter w.tick
    { w.record (.closed w.backend.id ok) with shutterState := if ok then .closed else .unknown }

/-- `*shutter_state = match backend.set_shutter(true) ..`, for a generation of the desired state. -/
def openHeld (generation : Word) : Run World Unit := do
  access env
  update fun w =>
    let ok := env.setShutter w.tick
    { w.record (.opened w.backend.id generation ok) with shutterState := if ok then .open else .unknown }

def resetDeviceBuffer : Run World Bool :=
  command env (fun w => w.backend.isFrameSwap || env.resetDeviceBuffer w.tick) fun w ok => .resetBuffer w.backend.id ok

def write (answer : World → Except Error WriteOutcome) (pps : Nat) (slice : List LaserPoint) :
    Run World (Except Error WriteOutcome) :=
  command env answer fun w result => .wrote w.backend.id pps slice result w.desired w.handledState

def tryWrite : Nat → List LaserPoint → Run World (Except Error WriteOutcome) :=
  write env fun w => env.write w.tick

def writeFrameAfterReady : Nat → List LaserPoint → Run World (Except Error WriteOutcome) :=
  write env fun w =>
    if w.backend.isFrameSwap then env.write w.tick
    else .error (.invalidConfig "write_frame_after_ready called on a FIFO backend")

def isReadyForFrame : Run World (Except Error Bool) :=
  query env fun w =>
    if w.backend.isFrameSwap then .ok (env.isReadyForFrame w.tick)
    else .error (.invalidConfig "frame readiness queried on a FIFO backend")

/-- Queued points; frame-swap backends have no estimator. -/
def estimatorFullness (pps : Nat) : Run World Nat :=
  query env fun w => if w.backend.isFrameSwap then 0 else env.estimatedFullness w.tick pps

/-- Frame-swap backends have no limit of their own. -/
def targetBufferCeiling : Run World (Option Nat) :=
  query env fun w => if w.backend.isFrameSwap then none else env.targetBufferCeiling w.tick

def changeSource (f : Source → Source) : Run World Unit := update fun w => { w with source := f w.source }

def setAdapter (adapter : Adapter) : Run World Unit := update fun w => { w with adapter }

/-- The colours the delay line holds when a chunk enters it. -/
def World.carried (pps : Nat) (w : World) : List Color :=
  (w.source.lineFor w.shared.colorDelay pps).carry

/-- What a production leaves: its length, the source, and the record of it. -/
def produce (isArmed : Bool) (pps : Nat) (result : World → Option (Nat × Source)) : Run World Nat := do
  access env
  let w ← state
  let (n, source) ← ofOption (result w)
  if n = 0 then
    update fun w => { w.record .starved with source }
    return n
  else
    let slice := source.cachedSlice.getD []
    update fun w => { w.record (.produced slice isArmed w.handledState (w.carried pps)) with source }
    return n

def produceChunk (targetPoints pps : Nat) (isArmed : Bool) : Run World Nat :=
  produce env isArmed pps fun w =>
    w.source.produceChunk targetPoints pps isArmed w.shared.colorDelay (env.filter w.tick) (env.fill w.tick)

def produceFrame (pps : Nat) (isArmed : Bool) : Run World Nat :=
  produce env isArmed pps fun w => w.source.produceFrame pps isArmed (env.filter w.tick)

def commitWritten (n : Nat) (isArmed : Bool) : Run World Unit :=
  update fun w => { w.record .committed with source := w.source.commitWritten n isArmed }

end

end LaserDac
