import LaserDac.World

/-!
The reconnect loop: open a device, validate it, connect it, close its shutter and validate it again with what
it then reports. Everything that can go wrong on the way closes and disconnects the backend and either counts
as an attempt or ends the loop.
-/

namespace LaserDac

open Runs Runs.Run

def OutputModel.name : OutputModel → String
  | .usbFrameSwap => "UsbFrameSwap"
  | .networkFifo => "NetworkFifo"
  | .udpTimed => "UdpTimed"
  | .blockingFifo => "BlockingFifo"

/-- Capability metadata must agree with the kind of the backend. -/
def Backend.validateOutputModel (backend : Backend) : Option Error :=
  if (backend.caps.outputModel == .usbFrameSwap) = backend.isFrameSwap then none
  else some (.invalidConfig ("backend kind " ++ (if backend.isFrameSwap then "FrameSwap" else "Fifo") ++
    " disagrees with output model " ++ backend.caps.outputModel.name))

def isRetriable : Error → Bool
  | .invalidConfig _ => false
  | .stopped => false
  | _ => true

section

variable (env : Env)

/-- Connect, and validate again the metadata that connecting may have changed. -/
def Backend.connect (backend : Backend) : Run World (Option Error × Backend) := do
  match backend.validateOutputModel with
  | some error => return (some error, backend)
  | none =>
    let (error, caps) ← command env (fun w => env.connect w.tick) fun _ result => .connect backend.id result.1.isNone
    let connected := { backend with caps }
    match error, connected.validateOutputModel with
    | some error, _ => return (some error, connected)
    | none, none => return (none, connected)
    | none, some invariant =>
      disconnect env backend.id
      return (some invariant, connected)

def sleepWithStop (duration : Nat) : Run World Bool := do
  let start ← clockNow env
  iterate env.fuel (fun _ => do
    let stop ← isStopRequested env
    if stop then return .inr true
    else
      let now ← clockNow env
      let remaining := start + duration - now
      if remaining = 0 then
        let stop ← isStopRequested env
        return .inr stop
      else
        clockSleep env (min remaining 50000000)
        return .inl ()) ()

def isFlapping (backoff : Nat) : Run World Bool :=
  query env fun w =>
    match w.lastReconnectAt with
    | some time => env.now w.tick - time < backoff
    | none => false

/-- The driver's check of a replacement: its kind, then the session's validator at the current rate. -/
def validate (expectedFrameSwap : Bool) (info : DacCapabilities) (backend : Backend) : Run World (Option SessionExit) := do
  if backend.isFrameSwap ≠ expectedFrameSwap then
    note (.validated backend.id info false)
    return some .incompatibleDevice
  else
    let pps ← currentPps env
    let w ← state
    let rejected := env.validator w.tick info backend pps
    note (.validated backend.id info rejected.isNone)
    return rejected

def openDevice : Run World OpenResult :=
  command env (fun w => env.openDevice w.tick) fun w _ => .opening w.backend.id (env.isConnected w.tick)

def obtainBackend (isFrameSwap : Bool) (caps : DacCapabilities) : Run World Backend := do
  let w ← state
  let backend : Backend := { id := w.nextBackend, isFrameSwap, caps }
  update fun w => { w.record (.obtained backend.id) with nextBackend := w.nextBackend + 1 }
  return backend

/-- A backend that reports it is connected is not connected again. -/
def establish (backend : Backend) : Run World (Option Error × Backend) := do
  let connected ← isConnected env backend.id
  if connected then return (none, backend) else backend.connect env

/-- One attempt: the loop's result, or nothing if it counts and the loop goes on. -/
def attempt (expectedFrameSwap : Bool) : Run World (Option (Except SessionExit (DacCapabilities × Backend))) := do
  match ← openDevice env with
  | .failed error => return if isRetriable error then none else some (.error .disconnected)
  | .noBackend => return none
  | .device scanned isFrameSwap caps =>
    let backend ← obtainBackend isFrameSwap caps
    match ← validate env expectedFrameSwap scanned backend with
    | some exit =>
      closeAndDisconnect env backend.id
      return some (.error exit)
    | none =>
      match ← establish env backend with
      | (some error, backend) =>
        closeAndDisconnect env backend.id
        return if backend.validateOutputModel.isSome then some (.error .incompatibleDevice)
          else if isRetriable error then none else some (.error .disconnected)
      | (none, backend) =>
        let closed ← closeShutter env backend.id
        if closed then
          match ← validate env expectedFrameSwap backend.caps backend with
          | some exit =>
            closeAndDisconnect env backend.id
            return some (.error exit)
          | none => return some (.ok (backend.caps, backend))
        else
          closeAndDisconnect env backend.id
          return none

/-- Wait between attempts, and before the first one of a flapping device; whether a stop was requested. -/
def backOff (needed : Bool) (duration : Nat) : Run World Bool :=
  if needed then sleepWithStop env duration else return false

def limitReached (maxRetries : Option UInt32) (retries : Nat) : Bool :=
  match maxRetries with
  | some limit => retries ≥ limit.toNat
  | none => false

/-- Tries until a replacement is established or none can be. -/
def reconnectBackendWithRetry (policy : ReconnectPolicy) (expectedFrameSwap : Bool) :
    Run World (Except SessionExit (DacCapabilities × Backend)) := do
  let flapping ← isFlapping env policy.backoff
  iterate env.fuel (fun retries => do
    let stop ← isStopRequested env
    if stop then return .inr (.error .stopped)
    else if limitReached policy.maxRetries retries then return .inr (.error .disconnected)
    else
      let interrupted ← backOff env (retries > 0 || flapping) policy.backoff
      if interrupted then return .inr (.error .stopped)
      else
        match ← attempt env expectedFrameSwap with
        | some result => return .inr result
        | none => return .inl (min (retries + 1) (2 ^ 32 - 1))) 0

end

end LaserDac
