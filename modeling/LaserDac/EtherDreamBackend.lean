import LaserDac.EtherDreamStream
import LaserDac.World

/-!
The Ether Dream backend. It decides from the status that the last reply carried: whether to clear an emergency stop or
to wait for the light engine, to prepare a stream, to switch the rate and to begin. Fractions of points are exact;
times are nanoseconds.
-/

namespace LaserDac.EtherDream

open Runs Runs.Run Wire

structure StatusDecayEstimator where
  fullnessAtAnchor : Nat
  anchorTime : Option Nat
  playing : Bool
  deriving DecidableEq, Repr

namespace StatusDecayEstimator

def new : StatusDecayEstimator := { fullnessAtAnchor := 0, anchorTime := none, playing := false }

def setPlaying (playing : Bool) (e : StatusDecayEstimator) : StatusDecayEstimator := { e with playing }

def recordStatus (now fullness : Nat) (e : StatusDecayEstimator) : StatusDecayEstimator :=
  { e with fullnessAtAnchor := fullness, anchorTime := some now }

def estimatedFullness (now : Nat) (pps : UInt32) (e : StatusDecayEstimator) : Nat :=
  match e.anchorTime with
  | some anchor =>
    if !e.playing then e.fullnessAtAnchor else e.fullnessAtAnchor - (now - anchor) * pps.toNat / 1000000000
  | none => 0

end StatusDecayEstimator

structure DacRateEstimator where
  inner : StatusDecayEstimator
  playingRate : UInt32
  deriving DecidableEq, Repr

namespace DacRateEstimator

def new : DacRateEstimator := { inner := .new, playingRate := 0 }

/-- Rebase on a status. What an idle DAC reports counts as empty, and a prepared stream as draining. -/
def recordStatus (now : Nat) (status : Status) (e : DacRateEstimator) : DacRateEstimator :=
  let idle : Bool := status.playback = .idle
  { playingRate := if status.playback = .playing then status.pointRate else 0
    inner := (e.inner.setPlaying !idle).recordStatus now (if idle then 0 else status.bufferFullness.toNat) }

/-- The rate in force counts, not the one that is asked for. -/
def estimatedFullness (now : Nat) (pps : UInt32) (e : DacRateEstimator) : Nat :=
  e.inner.estimatedFullness now (if e.playingRate > 0 then e.playingRate else pps)

end DacRateEstimator

/-- `SYNTHETIC_BUFFER_CAPACITY` -/
def syntheticBufferCapacity : UInt16 := 1799

/-- `SYNTHETIC_MAX_POINT_RATE` -/
def syntheticMaxPointRate : UInt32 := 100000

def effectiveMaxRate (advertised : UInt32) : UInt32 := if advertised = 0 then syntheticMaxPointRate else advertised

def effectiveCapacity (advertised : UInt16) : UInt16 := if advertised = 0 then syntheticBufferCapacity else advertised

/-- The rate to send: neither 0 nor above the maximum; 0 asks for a sixteenth of it. -/
def clampRate (pps maxRate : UInt32) : UInt32 :=
  let rate := if pps = 0 then maxRate / 16 else pps
  let high := if maxRate < 1 then 1 else maxRate
  if rate < 1 then 1 else if rate > high then high else rate

/-- `MIN_BEGIN_THRESHOLD` -/
def minBeginThreshold : Nat := 16

def beginThreshold (pointRate : UInt32) (capacity : UInt16) : Nat :=
  let tenMs := pointRate.toNat / 100
  let ceiling := min (max (capacity.toNat / 2) 1) 1700
  min (max tenMs (min minBeginThreshold ceiling)) ceiling

/-- `WARMUP_PING_INTERVAL` -/
def warmupPingInterval : Nat := 100000000

/-- `ESTOP_RETRY_INTERVAL` -/
def estopRetryInterval : Nat := 1000000000

def nakOf : CommunicationError → Option Nak
  | .response _ (.nak nak) => some nak
  | _ => none

def nakCommand : CommunicationError → Option UInt8
  | .response response (.nak _) => some response.command
  | _ => none

def estopped (status : Status) : Bool := status.lightEngine ≠ .ready

structure EtherDreamBackend where
  lastStatusReceived : Option Nat
  lastPointRate : UInt32
  lastPingTime : Option Nat
  lastEstopAttempt : Option Nat
  estimator : DacRateEstimator
  deriving DecidableEq, Repr

/-- What a call can fail with. -/
inductive Failure
  | disconnected
  | backend (error : CommunicationError)
  deriving DecidableEq, Repr

/-- The backend with its open connection. -/
structure Client (σ : Type) where
  backend : EtherDreamBackend
  wire : Wire σ
  deriving DecidableEq

variable {σ : Type}

namespace Client

def status (client : Client σ) : Status := client.wire.stream.dac.status

def onWire {α : Type} (m : Run (Wire σ) α) : Run (Client σ) α :=
  zoom Client.wire (fun wire client => { client with wire }) m

def now (env : Env σ) : Run (Client σ) Nat := onWire (onSocket (instant env))

def request (env : Env σ) (queue : Stream → Stream) : Run (Client σ) (Except CommunicationError Unit) := onWire do
  update fun wire => { wire with stream := queue wire.stream.queueCommands }
  submit env

def modify (f : EtherDreamBackend → EtherDreamBackend) : Run (Client σ) Unit :=
  update fun client => { client with backend := f client.backend }

def received (client : Client σ) : Client σ :=
  { client with backend := { client.backend with lastStatusReceived := some client.wire.stream.statusReceivedAt } }

def resync (client : Client σ) : Client σ :=
  { client with
    backend := { client.backend with
      lastStatusReceived := some client.wire.stream.statusReceivedAt
      estimator := client.backend.estimator.recordStatus client.wire.stream.statusSentAt client.status } }

/-- Take over the last status, after a write at this rate. -/
def settle (pointRate : UInt32) (client : Client σ) : Client σ :=
  { client.resync with backend := { client.resync.backend with lastPointRate := pointRate } }

def check (fullness : Nat) (client : Client σ) : Client σ :=
  { client with wire := { client.wire with
      socket := { client.wire.socket with log := .checked fullness :: client.wire.socket.log } } }

def isDue (last : Option Nat) (now interval : Nat) : Bool := last.all fun last => now - last ≥ interval

/-- After the clear: a ping shows the light engine. Nothing is returned if the write goes on. -/
def confirmClear (env : Env σ) : Run (Client σ) (Except Failure (Option WriteOutcome)) := do
  match ← request env Stream.ping with
  | .error error => return .error (.backend error)
  | .ok () =>
    let client ← state
    if client.status.lightEngine = .emergencyStop then return .ok (some .wouldBlock)
    else
      update resync
      if client.status.lightEngine ≠ .ready then return .ok (some .wouldBlock) else return .ok none

def clearStop (env : Env σ) : Run (Client σ) (Except Failure (Option WriteOutcome)) := do
  let now ← now env
  let client ← state
  if isDue client.backend.lastEstopAttempt now estopRetryInterval then
    modify fun backend => { backend with lastEstopAttempt := some now }
    match ← request env Stream.clearEmergencyStop with
    | .ok () => confirmClear env
    | .error error =>
      let client ← state
      if nakOf error = some .stopCondition then
        if client.status.lightEngine = .emergencyStop then return .ok (some .wouldBlock) else confirmClear env
      else return .error (.backend error)
  else return .ok (some .wouldBlock)

/-- The light engine warms up or cools down: refresh the status, but not too often. -/
def awaitReady (env : Env σ) : Run (Client σ) (Except Failure WriteOutcome) := do
  let now ← now env
  let client ← state
  if isDue client.backend.lastPingTime now warmupPingInterval then
    modify fun backend => { backend with lastPingTime := some now }
    match ← request env Stream.ping with
    | .error error => return .error (.backend error)
    | .ok () =>
      update received
      return .ok .wouldBlock
  else return .ok .wouldBlock

/-- How a pass over the loop of `write_points` ends: with another pass, with a result, or with the chunk written. -/
inductive Turn
  | again
  | done (result : Except Failure WriteOutcome)
  | landed
  deriving DecidableEq

/-- Decay a reported fullness since it was received; only a playing DAC drains its ring. -/
def decayFullness (env : Env σ) (raw capacity : UInt16) (anchor : Option Nat) (pointRate : UInt32) (playing : Bool) :
    Run (Client σ) Nat :=
  let raw := min raw.toNat capacity.toNat
  if !playing then return raw
  else
    match anchor with
    | some last => do
      let now ← now env
      return raw - min ((now - last) * pointRate.toNat / 1000000000) 65535
    | none => return raw

/-- An upper bound on the ring. A stream is prepared first if the DAC is idle. -/
def fullness (env : Env σ) (capacity : UInt16) : Run (Client σ) (Except (Except Failure WriteOutcome) Nat) := do
  let client ← state
  let status := client.status
  if status.playback = .idle then
    match ← request env Stream.prepareStream with
    | .ok () =>
      update received
      return .ok 0
    | .error error =>
      if (nakOf error).isSome then
        update resync
        return .error (.ok .wouldBlock)
      else return .error (.error (.backend error))
  else
    let rate := if status.pointRate > 0 then status.pointRate else client.backend.lastPointRate
    let fullness ← decayFullness env status.bufferFullness capacity client.backend.lastStatusReceived rate
      (status.playback = .playing)
    return .ok fullness

/-- No room. A prepared stream never drains, so it is begun with what it holds. -/
def beginForRoom (env : Env σ) (pointRate : UInt32) : Run (Client σ) Turn := do
  let client ← state
  if client.status.playback = .prepared ∧ client.status.bufferFullness > 0 then
    match ← request env (Stream.begin 0 pointRate) with
    | .ok () =>
      update (settle pointRate)
      return .done (.ok .wouldBlock)
    | .error error =>
      if (nakOf error).isSome then
        update (settle pointRate)
        return .done (.ok .wouldBlock)
      else return .done (.error (.backend error))
  else return .done (.ok .wouldBlock)

/-- The DAC may have gone idle; then the chunk needs another pass. -/
def landed (retried : Bool) : Run (Client σ) Turn := do
  let client ← state
  if client.status.playback = .idle ∧ !retried then return .again else return .landed

/-- The data was taken, or dropped by an idle DAC: begin once enough is buffered. -/
def beginIfReached (env : Env σ) (pointRate : UInt32) (threshold : Nat) (retried : Bool) : Run (Client σ) Turn := do
  let client ← state
  if client.status.playback = .idle ∧ !retried then return .again
  else if client.status.playback = .prepared ∧ client.status.bufferFullness.toNat ≥ threshold then
    match ← request env (Stream.begin 0 pointRate) with
    | .ok () => landed retried
    | .error error =>
      let client ← state
      if nakOf error = some .invalid ∨ (nakOf error = some .stopCondition ∧ estopped client.status) then landed retried
      else return .done (.error (.backend error))
  else return .landed

/-- Send the points, and the rate after them if it is not the one in force. -/
def sendPoints (env : Env σ) (pointRate : UInt32) (threshold : Nat) (points : List DacPoint) (retried : Bool) :
    Run (Client σ) Turn := do
  let client ← state
  let switches := client.status.playback = .playing ∧ client.status.pointRate ≠ pointRate
  match ← request env fun stream => if switches then (stream.data points).update 0 pointRate else stream.data points with
  | .ok () => beginIfReached env pointRate threshold retried
  | .error error =>
    if nakCommand error = some (Command.update 0 pointRate).startByte then
      beginIfReached env pointRate threshold retried
    else
      match nakOf error with
      | some .stopCondition =>
        let client ← state
        if estopped client.status then
          update resync
          return .done (.ok .wouldBlock)
        else return .done (.error (.backend error))
      | some _ =>
        update received
        let client ← state
        if client.status.playback = .idle ∧ !retried then return .again
        else
          update resync
          return .done (.ok .wouldBlock)
      | none => return .done (.error (.backend error))

def turn (env : Env σ) (pointRate : UInt32) (capacity : UInt16) (threshold : Nat) (points : List DacPoint)
    (retried : Bool) : Run (Client σ) Turn := do
  match ← fullness env capacity with
  | .error result => return .done result
  | .ok fullness =>
    update (check fullness)
    if capacity.toNat - fullness < points.length then beginForRoom env pointRate
    else sendPoints env pointRate threshold points retried

/-- The loop of `write_points`, which makes at most two passes, and what follows it. -/
def deliver (env : Env σ) (pps : UInt32) (points : List DacPoint) : Run (Client σ) (Except Failure WriteOutcome) := do
  let client ← state
  let pointRate := clampRate pps (effectiveMaxRate client.wire.stream.dac.maxPointRate)
  let capacity := effectiveCapacity client.wire.stream.dac.bufferCapacity
  let threshold := beginThreshold pointRate capacity
  let result ← iterate 2 (fun retried => do
    match ← turn env pointRate capacity threshold points retried with
    | .again => return .inl true
    | .done result => return .inr (some result)
    | .landed => return .inr none) false
  match result with
  | some result => return result
  | none =>
    update (settle pointRate)
    return .ok .written

def writePoints (env : Env σ) (pps : UInt32) (points : List LaserPoint) : Run (Client σ) (Except Failure WriteOutcome) := do
  let client ← state
  if points = [] then return .ok .wouldBlock
  else
    let points := points.map (DacPoint.ofLaserPoint env.coordinate)
    match client.status.lightEngine with
    | .emergencyStop =>
      match ← clearStop env with
      | .error error => return .error error
      | .ok (some outcome) => return .ok outcome
      | .ok none => deliver env pps points
    | .warmup => awaitReady env
    | .cooldown => awaitReady env
    | .ready => deliver env pps points

end Client

/-- The backend, connected or not. -/
structure Line (σ : Type) where
  backend : EtherDreamBackend
  stream : Option Stream
  socket : Socket σ
  deriving DecidableEq

namespace Line

def client (stream : Stream) (line : Line σ) : Client σ := { backend := line.backend, wire := { stream, socket := line.socket } }

/-- What a call leaves of the connection: nothing after an error that ends it. -/
def after (client : Client σ) (failed : Bool) : Line σ :=
  { backend := client.backend, stream := if failed then none else some client.wire.stream, socket := client.wire.socket }

/-- A write that fails closes the connection. -/
def tryWritePoints (env : Env σ) (pps : UInt32) (points : List LaserPoint) : Run (Line σ) (Except Failure WriteOutcome) :=
  fun line =>
    match line.stream with
    | none => (some (.error .disconnected), line)
    | some stream =>
      let result := Client.writePoints env pps points (line.client stream)
      (result.1, after result.2 (result.1.any fun result => !result.isOk))

/-- Stop; that the DAC was idle already is no error. -/
def stop (env : Env σ) : Run (Line σ) (Except Failure Unit) := fun line =>
  match line.stream with
  | none => (some (.ok ()), line)
  | some stream =>
    match Client.request env Stream.stop (line.client stream) with
    | (none, client) => (none, after client false)
    | (some (.ok ()), client) => (some (.ok ()), after client.resync false)
    | (some (.error error), client) =>
      if nakOf error = some .invalid then (some (.ok ()), after client.resync false)
      else (some (.error (.backend error)), after client true)

def disconnect (env : Env σ) : Run (Line σ) Unit := fun line =>
  match line.stream with
  | none => (some (), line)
  | some stream =>
    if stream.dac.status.playback ≠ .idle then
      let result := Client.request env Stream.stop (line.client stream)
      (result.1.map fun _ => (), after result.2 true)
    else (some (), { line with stream := none })

end Line

/-- What the owner of the backend does. -/
inductive Call
  | write (pps : UInt32) (points : List LaserPoint)
  | stop
  | disconnect
  | wait (time : Nat)
  deriving DecidableEq, Repr

namespace Line

/-- One call, with whatever result. -/
def perform (env : Env σ) (call : Call) (line : Line σ) : Line σ :=
  match call with
  | .write pps points => (tryWritePoints env pps points line).2
  | .stop => (stop env line).2
  | .disconnect => (disconnect env line).2
  | .wait time => { line with socket := { line.socket with clock := line.socket.clock + time } }

/-- A sequence of calls. -/
def run (env : Env σ) (calls : List Call) (line : Line σ) : Line σ := calls.foldl (fun line call => line.perform env call) line

end Line

end LaserDac.EtherDream
