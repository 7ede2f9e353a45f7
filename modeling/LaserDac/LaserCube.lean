import LaserDac.Metronome
import LaserDac.Runs

/-!
The LaserCube network transport. A handle puts chunks of points into a bounded channel and switches the output over a
second one; a worker thread sends the points in packets as the device drains. Callers and the worker take one atomic
action at a time.
-/

namespace LaserDac.LaserCube

open Runs Runs.Run

structure Point where
  x : UInt16
  y : UInt16
  r : UInt16
  g : UInt16
  b : UInt16
  deriving DecidableEq, Repr

def littleEndian (value : UInt16) : List UInt8 := [value.toUInt8, (value >>> 8).toUInt8]

def Point.write (p : Point) : List UInt8 :=
  littleEndian p.x ++ littleEndian p.y ++ littleEndian p.r ++ littleEndian p.g ++ littleEndian p.b

/-- `MAX_UDP_SAMPLES_PER_PACKET` -/
def maxUdpSamples : Nat := 140

/-- A sample packet, unless it has more points than one may have. -/
def encodeSamplePacket (packetSequence transferSequence : UInt8) (points : List Point) : Option (List UInt8) :=
  if points.length > maxUdpSamples then none
  else some ([0xA9, 0x00, packetSequence, transferSequence] ++ points.flatMap Point.write)

inductive ConnectionType
  | ethernetServer
  | wifiServer
  | ethernetClient
  | wifiClient
  | unknown (raw : UInt8)
  deriving DecidableEq, Repr

/-- Times are nanoseconds. -/
structure ConnectionProfile where
  remoteBufferCutoff : Nat
  waitBufferSleep : Nat
  maxUdpSamplesPerPacket : Nat
  deriving DecidableEq, Repr

namespace ConnectionProfile

def desktop (remoteBufferCutoff waitBufferSleepMs maxUdpSamplesPerPacket bufferTotal : Nat) : ConnectionProfile where
  remoteBufferCutoff := min remoteBufferCutoff bufferTotal
  waitBufferSleep := waitBufferSleepMs * 1000000
  maxUdpSamplesPerPacket

def unknownConservative (bufferTotal : Nat) : ConnectionProfile where
  remoteBufferCutoff := min 1800 bufferTotal
  waitBufferSleep := 6000000
  maxUdpSamplesPerPacket := 80

/-- Cutoff, waiting time and packet size go by the connection. -/
def forConnection (connectionType : ConnectionType) (bufferTotal : Nat) : ConnectionProfile :=
  match connectionType with
  | .wifiServer => desktop 2000 4 140 bufferTotal
  | .ethernetServer => desktop 1800 6 80 bufferTotal
  | .ethernetClient => desktop 1800 6 80 bufferTotal
  | .wifiClient => desktop 1800 6 80 bufferTotal
  | .unknown _ => unknownConservative bufferTotal

end ConnectionProfile

structure PacerInputs where
  queueLen : Nat
  freeEstimate : Nat
  bufferTotal : Nat
  remoteBufferCutoff : Nat
  perTickPacketBudget : Nat

def sendBudget (inputs : PacerInputs) : Nat :=
  let deviceTarget := min inputs.remoteBufferCutoff inputs.bufferTotal
  let deviceBuffered := inputs.bufferTotal - inputs.freeEstimate
  let remoteBudget := deviceTarget - deviceBuffered
  min (min inputs.queueLen remoteBudget) inputs.perTickPacketBudget

def packetInterval (packetSamples pointRate : Nat) : Nat :=
  if packetSamples = 0 ∨ pointRate = 0 then 0 else Metronome.nearest (packetSamples * 1000000000) pointRate

def shouldContinueTopup (freeEstimateBeforeSend bufferTotal remoteBufferCutoff sent : Nat) : Bool :=
  let bufferedBeforeSend := bufferTotal - freeEstimateBeforeSend
  bufferedBeforeSend + sent < remoteBufferCutoff

/-- The capacity from what the device reports, where 0 means unknown. -/
def bufferTotalFromMax (bufferMax : UInt16) : Nat := if bufferMax > 0 then bufferMax.toNat else 6000

/-- The part of the full-info status that the transport acts on. -/
structure Status where
  outputEnabled : Bool
  interlockEnabled : Bool
  pointRate : Nat
  pointRateMax : Nat
  bufferFree : UInt16
  bufferMax : UInt16
  deriving DecidableEq, Repr

/-- `DEFAULT_POINT_RATE` -/
def defaultPointRate : Nat := 30000

def resolvedPointRateMax (pointRateMax : Nat) : Nat := if pointRateMax > 0 then pointRateMax else defaultPointRate

def clampPointRate (pointRateMax pointRate : Nat) : Nat := min (max pointRate 1) (resolvedPointRateMax pointRateMax)

/-! ### The state -/

/-- What callers and the worker share under the lock. -/
structure TransportState where
  profile : ConnectionProfile
  hostQueueLen : Nat
  hostQueueCapacity : Nat
  freeEstimate : Nat
  bufferTotal : Nat
  pointRate : Nat
  pointRateMax : Nat
  lastEstimate : Nat
  lastDataAckSequence : Option UInt8
  deriving DecidableEq

namespace TransportState

def new (status : Status) (profile : ConnectionProfile) (now : Nat) : TransportState where
  profile
  hostQueueLen := 0
  hostQueueCapacity := max (bufferTotalFromMax status.bufferMax * 2) (profile.maxUdpSamplesPerPacket * 8)
  freeEstimate := min status.bufferFree.toNat status.bufferMax.toNat
  bufferTotal := bufferTotalFromMax status.bufferMax
  pointRate := clampPointRate status.pointRateMax
    (if status.pointRate > 0 then status.pointRate else defaultPointRate)
  pointRateMax := status.pointRateMax
  lastEstimate := now
  lastDataAckSequence := none

def releaseHostPoints (points : Nat) (state : TransportState) : TransportState :=
  { state with hostQueueLen := state.hostQueueLen - points }

def clearHostQueue (state : TransportState) : TransportState := { state with hostQueueLen := 0 }

def recordSend (now sent : Nat) (state : TransportState) : TransportState :=
  { state with
    freeEstimate := state.freeEstimate - sent
    lastEstimate := now
    hostQueueLen := state.hostQueueLen - sent }

def decayFreeEstimate (now : Nat) (state : TransportState) : TransportState :=
  let elapsed := now - state.lastEstimate
  let drained := elapsed * state.pointRate / 1000000000
  if drained > 0 then
    { state with freeEstimate := min (state.freeEstimate + drained) state.bufferTotal, lastEstimate := now }
  else state

def applyStatus (status : Status) (now : Nat) (state : TransportState) : TransportState :=
  { state with
    bufferTotal := bufferTotalFromMax status.bufferMax
    freeEstimate := min status.bufferFree.toNat (bufferTotalFromMax status.bufferMax)
    pointRate := if status.pointRate > 0 then clampPointRate status.pointRateMax status.pointRate else state.pointRate
    pointRateMax := status.pointRateMax
    lastEstimate := now }

end TransportState

/-- A chunk in the channel, which holds a reservation of as many points. -/
structure Enqueue where
  generation : Nat
  pointRate : Nat
  points : List Point
  deriving DecidableEq

inductive PriorityCommand
  | setOutput (enabled : Bool) (generation : Nat)
  | stopOutput (generation : Nat)
  | shutdown (generation : Nat)
  deriving DecidableEq, Repr

namespace PriorityCommand

def generation : PriorityCommand → Nat
  | setOutput _ generation => generation
  | stopOutput generation => generation
  | shutdown generation => generation

def enables : PriorityCommand → Bool
  | setOutput enabled _ => enabled
  | _ => false

end PriorityCommand

/-- A point in the worker's queue, with the generation of the chunk it came in. The worker keeps the point only;
the generation says where it is from. -/
structure Sample where
  generation : Nat
  point : Point
  deriving DecidableEq

def Enqueue.samples (chunk : Enqueue) : List Sample := chunk.points.map fun point => { generation := chunk.generation, point }

structure Worker where
  queue : List Sample
  /-- A chunk received from the channel and not yet looked at. -/
  received : Option Enqueue
  activeGeneration : Nat
  packetSequence : UInt8
  transferSequence : UInt8
  /-- Samples of each packet sent and not acknowledged yet. -/
  packetSampleCounts : UInt8 → Nat
  currentRate : Nat
  outputEnabled : Bool
  nextSendDue : Nat
  nextFullInfoDue : Nat
  running : Bool

/-- A thread inside a call of the handle, at its next atomic action. -/
inductive Caller
  | enqueue (pointRate : Nat) (points : List Point)
  /-- Has reserved room for its points. -/
  | reserved (pointRate : Nat) (points : List Point)
  /-- Has read the generation as well. -/
  | loaded (generation : Nat) (pointRate : Nat) (points : List Point)
  /-- The channel did not take the chunk; its reservation is about to be dropped. -/
  | refused (points : Nat)
  | setOutput (enabled : Bool)
  | stopOutput
  | shutdown
  | send (command : PriorityCommand)
  | join

/-- A datagram on the command socket. -/
inductive Command
  | setOutput (enabled : Bool)
  | setRate (pointRate : Nat)
  | getFullInfo
  deriving DecidableEq, Repr

inductive Event
  /-- A call starts, while others are under way or not. -/
  | called (busy : Bool)
  /-- The generation was raised to this one, with so many points reserved outside the worker's queue. -/
  | raised (generation reserved : Nat)
  /-- An `enqueue` returned `Ok`. -/
  | accepted (chunk : Enqueue)
  /-- The worker processed a priority command, with so many points reserved outside its queue. -/
  | processed (command : PriorityCommand) (reserved : Nat)
  /-- The worker found a channel without senders. -/
  | hungUp
  /-- The worker received a chunk, in this generation. -/
  | received (chunk : Enqueue) (generation active : Nat)
  /-- A pass of `try_send_due_packet` starts, in this generation. -/
  | pass (generation : Nat)
  /-- A packet was handed to the data socket, which sent it or failed. -/
  | packet (packetSequence transferSequence : UInt8) (samples : List Sample) (ok : Bool)
  | command (command : Command)
  /-- The worker's thread has ended. -/
  | ended
  deriving DecidableEq

/-- A law of events is decided constructor by constructor. -/
@[reducible] def Event.decidableLaw {P : Event → List Event → Prop}
    (law : ∀ event earlier, Decidable (P event earlier) := by
      intro event earlier
      apply @Event.casesOn _ event <;> intros <;> infer_instance) :
    ∀ event earlier, Decidable (P event earlier) := law

/-- The handle, the channels and the worker. -/
structure Transport where
  /-- A `u64` of the source, which would wrap after so many disables; the number here goes on. -/
  generation : Nat
  state : TransportState
  channel : List Enqueue
  priority : List PriorityCommand
  callers : List Caller
  worker : Worker
  /-- The worker's thread has ended and its ends of the channels are gone. -/
  done : Bool
  /-- The handle, and with it the senders, are gone. -/
  dropped : Bool
  /-- The number of turns so far, which the environment's answers are indexed by. -/
  tick : Nat
  log : List Event

/-- `POINT_QUEUE_CAPACITY` -/
def pointQueueCapacity : Nat := 128

/-- `MAX_CONTROL_DRAIN_PER_LOOP` and `MAX_ACK_DRAIN_PER_LOOP` -/
def maxDrainPerLoop : Nat := 32

def Caller.points : Caller → Nat
  | reserved _ points => points.length
  | loaded _ _ points => points.length
  | refused points => points
  | _ => 0

namespace Transport

def record (event : Event) (t : Transport) : Transport := { t with log := event :: t.log }

/-- The points under a reservation that is neither committed nor dropped. -/
def reserved (t : Transport) : Nat :=
  (t.callers.map Caller.points).sum + (t.channel.map (·.points.length)).sum +
    (t.worker.received.map (·.points.length)).getD 0

def raise (t : Transport) : Transport :=
  record (.raised (t.generation + 1) t.reserved) { t with generation := t.generation + 1 }

end Transport

/-- One atomic action of a caller: where the call goes on, and the state after it. -/
def Caller.step (t : Transport) : Caller → Option Caller × Transport
  | .enqueue pointRate points =>
    if t.state.hostQueueLen + points.length > t.state.hostQueueCapacity then (none, t)
    else (some (.reserved pointRate points),
      { t with state := { t.state with hostQueueLen := t.state.hostQueueLen + points.length } })
  | .reserved pointRate points => (some (.loaded t.generation pointRate points), t)
  | .loaded generation pointRate points =>
    if t.done ∨ t.channel.length ≥ pointQueueCapacity then (some (.refused points.length), t)
    else (none, Transport.record (.accepted { generation, pointRate, points })
      { t with channel := t.channel ++ [{ generation, pointRate, points }] })
  | .refused points => (none, { t with state := t.state.releaseHostPoints points })
  | .setOutput enabled =>
    if enabled then (some (.send (.setOutput true t.generation)), t)
    else (some (.send (.setOutput false (t.generation + 1))), t.raise)
  | .stopOutput => (some (.send (.stopOutput (t.generation + 1))), t.raise)
  | .shutdown => (some (.send (.shutdown (t.generation + 1))), t.raise)
  | .send command =>
    let next := match command with
      | .shutdown _ => some .join
      | _ => none
    if t.done then (next, t) else (next, { t with priority := t.priority ++ [command] })
  | .join => if t.done then (none, { t with dropped := true }) else (some .join, t)

/-- What another thread may do between two actions of the worker. -/
inductive Action
  | enqueue (pointRate : Nat) (points : List Point)
  | setOutput (enabled : Bool)
  | stopOutput
  | shutdown
  | resume (caller : Nat)

namespace Transport

def call (caller : Caller) (t : Transport) : Transport :=
  record (.called !t.callers.isEmpty) { t with callers := caller :: t.callers }

/-- Let a caller take its next action; it then stands first. -/
def resume (index : Nat) (t : Transport) : Transport :=
  match t.callers[index]? with
  | none => t
  | some caller =>
    match caller.step { t with callers := t.callers.eraseIdx index } with
    | (some next, t) => { t with callers := next :: t.callers }
    | (none, t) => t

def act (t : Transport) : Action → Transport
  | .enqueue pointRate points => t.call (.enqueue pointRate points)
  | .setOutput enabled => t.call (.setOutput enabled)
  | .stopOutput => t.call .stopOutput
  | .shutdown => t.call .shutdown
  | .resume index => t.resume index

end Transport

/-- What the command socket may bring. -/
inductive Message
  | fullInfo (status : Status)
  | ack (freeSpace : UInt16)
  | response

/-- What the other threads, the clock and the sockets do. -/
structure Env where
  schedule : Nat → List Action
  now : Nat → Nat
  sendData : Nat → Bool
  sendCommand : Nat → Bool
  receiveCommand : Nat → Option Message
  /-- A datagram of the data socket: the sequence and the free space of an acknowledgement, or something else. -/
  receiveData : Nat → Option (Option (UInt8 × UInt16))
  /-- The number of turns after which the run is cut off. -/
  fuel : Nat

namespace Transport

variable (env : Env)

def mapWorker (f : Worker → Worker) (t : Transport) : Transport := { t with worker := f t.worker }

def mapState (f : TransportState → TransportState) (t : Transport) : Transport := { t with state := f t.state }

def sendRepeated (command : Command) (t : Transport) : Transport :=
  if env.sendCommand t.tick then (t.record (.command command)).record (.command command)
  else t.record (.command command)

variable (t : Transport)

def clearPendingPoints : Transport :=
  (t.mapWorker fun w => { w with queue := [] }).mapState TransportState.clearHostQueue

def fullInfoPollPeriod (outputEnabled : Bool) : Nat := if outputEnabled then 2500000000 else 250000000

def processPriority (command : PriorityCommand) (t : Transport) : Transport :=
  let t := (t.record (.processed command t.reserved)).mapWorker fun w =>
    { w with activeGeneration := command.generation }
  let t := if command.enables then t else t.clearPendingPoints
  let t := t.mapWorker fun w => { w with outputEnabled := command.enables }
  let t := match command with
    | .setOutput enabled _ => t.mapWorker fun w =>
      { w with nextFullInfoDue := env.now t.tick + fullInfoPollPeriod enabled }
    | .stopOutput _ => t
    | .shutdown _ => t.mapWorker fun w => { w with running := false }
  t.sendRepeated env (.setOutput command.enables)

def hangUp : Transport :=
  let t := (t.record .hungUp).mapWorker fun w => { w with activeGeneration := t.generation }
  let t := t.clearPendingPoints.mapWorker fun w => { w with outputEnabled := false, running := false }
  t.sendRepeated env (.setOutput false)

def receive (chunk : Enqueue) (rest : List Enqueue) (t : Transport) : Transport :=
  { t with channel := rest, worker := { t.worker with received := some chunk } }.record
    (.received chunk t.generation t.worker.activeGeneration)

def setRate (pointRate : Nat) (t : Transport) : Transport :=
  let pointRate := clampPointRate t.state.pointRateMax pointRate
  let sent := t.sendRepeated env (.setRate pointRate)
  if env.sendCommand t.tick then
    (sent.mapWorker fun w => { w with currentRate := pointRate }).mapState fun s => { s with pointRate }
  else sent

/-- Move the points of a received chunk into the queue, or drop it if it is of another generation. -/
def settle (chunk : Enqueue) (t : Transport) : Transport :=
  let t := t.mapWorker fun w => { w with received := none }
  if chunk.generation ≠ t.worker.activeGeneration ∨ chunk.generation ≠ t.generation then
    t.mapState (TransportState.releaseHostPoints chunk.points.length)
  else
    let t := if chunk.pointRate ≠ t.worker.currentRate then t.setRate env chunk.pointRate else t
    t.mapWorker fun w => { w with queue := w.queue ++ chunk.samples }

def abandon : Transport :=
  (t.record .hungUp).clearPendingPoints.mapWorker fun w => { w with running := false }

/-- Put off the next packet. -/
def putOff (due : Nat) (t : Transport) : Transport := t.mapWorker fun w => { w with nextSendDue := due }

/-- What a sent packet leaves; whether to go on topping up the device. -/
def packetSent (now : Nat) (packet rest : List Sample) (t : Transport) : Bool × Transport :=
  let sent := packet.length
  let more := shouldContinueTopup t.state.freeEstimate t.state.bufferTotal t.state.profile.remoteBufferCutoff sent
  let after := (t.mapState (TransportState.recordSend now sent)).mapWorker fun w => { w with
    queue := rest
    packetSampleCounts := Function.update w.packetSampleCounts w.packetSequence sent
    packetSequence := w.packetSequence + 1
    transferSequence := w.transferSequence + 1 }
  (more, after.putOff (if more then now else now + packetInterval sent t.worker.currentRate))

/-- Attempt to send a single packet; whether to go on. A packet that was not sent is put back. -/
def sendOnePacket (ok : Bool) (now : Nat) (t : Transport) : Bool × Transport :=
  let profile := t.state.profile
  let budget := sendBudget {
    queueLen := t.worker.queue.length
    freeEstimate := t.state.freeEstimate
    bufferTotal := t.state.bufferTotal
    remoteBufferCutoff := profile.remoteBufferCutoff
    perTickPacketBudget := profile.maxUdpSamplesPerPacket }
  let intended := min profile.maxUdpSamplesPerPacket t.worker.queue.length
  if intended = 0 then (false, t)
  else if budget < intended then (false, t.putOff (now + profile.waitBufferSleep))
  else
    let packet := t.worker.queue.take intended
    let rest := t.worker.queue.drop intended
    let putBack := (t.mapWorker fun w => { w with queue := packet ++ rest }).putOff (now + profile.waitBufferSleep)
    match encodeSamplePacket t.worker.packetSequence t.worker.transferSequence (packet.map Sample.point) with
    | none => (false, putBack)
    | some _ =>
      let event := .packet t.worker.packetSequence t.worker.transferSequence packet ok
      if ok then (t.record event).packetSent now packet rest else (false, putBack.record event)

/-! ### Acknowledgements -/

def inFlightSamples : Nat :=
  ((List.range 256).map fun n => t.worker.packetSampleCounts (UInt8.ofNat n)).sum

def freeSlots (first : UInt8) : Nat → (UInt8 → Nat) → UInt8 → Nat
  | 0, counts => counts
  | count + 1, counts => freeSlots (first + 1) count (Function.update counts first 0)

/-- Whether the candidate is strictly newer under wraparound. -/
def seqNewer (last candidate : UInt8) : Bool := 0 < (candidate - last).toNat && (candidate - last).toNat < 128

def applyCommandAck (now : Nat) (freeSpace : UInt16) (t : Transport) : Transport :=
  let inFlight := t.inFlightSamples
  t.mapState fun s => { s with freeEstimate := min (freeSpace.toNat - inFlight) s.bufferTotal, lastEstimate := now }

/-- An acknowledgement that is not newer only frees its own slot. -/
def applyDataAck (now : Nat) (sequence : UInt8) (freeSpace : UInt16) (t : Transport) : Transport :=
  let t' := t.mapWorker fun w => { w with packetSampleCounts := Function.update w.packetSampleCounts sequence 0 }
  let apply (first : UInt8) : Transport :=
    let freed := t'.mapWorker fun w => { w with
      packetSampleCounts := freeSlots first (sequence - first).toNat w.packetSampleCounts }
    (freed.applyCommandAck now freeSpace).mapState fun s => { s with lastDataAckSequence := some sequence }
  match t.state.lastDataAckSequence with
  | some last => if seqNewer last sequence then apply (last + 1) else t'
  | none => apply 0

/-- Send the intended output state again when the device reports another one. -/
def reconcileOutputEnable (reportedEnabled : Bool) (t : Transport) : Transport :=
  if reportedEnabled = t.worker.outputEnabled then t else t.sendRepeated env (.setOutput t.worker.outputEnabled)

def applyMessage (now : Nat) (message : Message) (t : Transport) : Transport :=
  match message with
  | .fullInfo status =>
    (t.mapState (TransportState.applyStatus status now)).reconcileOutputEnable env status.outputEnabled
  | .ack freeSpace => t.applyCommandAck now freeSpace
  | .response => t

def pollFullInfoIfDue (now : Nat) (t : Transport) : Transport :=
  if now < t.worker.nextFullInfoDue then t
  else (t.mapWorker fun w => { w with nextFullInfoDue := now + fullInfoPollPeriod w.outputEnabled }).record
    (.command .getFullInfo)

def nextWake (now : Nat) (t : Transport) : Nat :=
  if t.worker.queue.isEmpty then now + t.state.profile.waitBufferSleep else max t.worker.nextSendDue now

/-- The thread ends: what is left in the channel is dropped with its reservations. -/
def finish : Transport :=
  let t := t.sendRepeated env (.setOutput false)
  record .ended { t with
    state := t.state.releaseHostPoints (t.channel.map (·.points.length)).sum
    channel := []
    priority := []
    done := true }

/-- The other threads have their turn. -/
def interleave : Transport := { (env.schedule t.tick).foldl act t with tick := t.tick + 1 }

end Transport

section

variable (env : Env)

def turn : Run Transport Transport := do
  let t ← state
  if t.tick < env.fuel then
    update (Transport.interleave env)
    state
  else cut

def processPriorityCommands : Nat → Run Transport Unit
  | 0 => return
  | drain + 1 => do
    let t ← turn env
    match t.priority with
    | command :: rest =>
      update fun t => { t with priority := rest }.processPriority env command
      match command with
      | .shutdown _ => return
      | _ => processPriorityCommands drain
    | [] => whenever t.dropped (update (Transport.hangUp env))

def processCommands : Nat → Run Transport Unit
  | 0 => return
  | drain + 1 => do
    let t ← turn env
    match t.channel with
    | chunk :: rest =>
      update (Transport.receive chunk rest)
      let _ ← turn env
      update (Transport.settle env chunk)
      processCommands drain
    | [] => whenever t.dropped (update Transport.abandon)

def drainCommandAcks (now : Nat) : Nat → Run Transport Unit
  | 0 => return
  | drain + 1 => do
    let t ← turn env
    match env.receiveCommand t.tick with
    | some message =>
      update (Transport.applyMessage env now message)
      drainCommandAcks now drain
    | none => return

def drainDataAcks (now : Nat) : Nat → Run Transport Unit
  | 0 => return
  | drain + 1 => do
    let t ← turn env
    match env.receiveData t.tick with
    | some (some (sequence, freeSpace)) =>
      update (Transport.applyDataAck now sequence freeSpace)
      drainDataAcks now drain
    | some none => drainDataAcks now drain
    | none => return

def topUp (now : Nat) : Run Transport (Unit ⊕ Unit) := do
  let t ← state
  if now ≥ t.worker.nextSendDue ∧ t.worker.queue ≠ [] then
    let t ← turn env
    let (more, after) := t.sendOnePacket (env.sendData t.tick) now
    update fun _ => after
    return if more then .inl () else .inr ()
  else return .inr ()

/-- Send as many due packets as the device will accept. Every round but the last takes points from the queue, so
there is always one to spare. -/
def trySendDuePacket (now : Nat) : Run Transport Unit := do
  let t ← turn env
  update (Transport.record (.pass t.generation))
  if t.worker.activeGeneration ≠ t.generation then return
  else iterate (t.worker.queue.length + 1) (fun _ => topUp env now) ()

/-- Sleep until the deadline, processing priority commands between the slices. -/
def sleepUntilPrecise (deadline : Nat) : Run Transport Unit :=
  iterate env.fuel (fun _ => do
    let t ← turn env
    if env.now t.tick ≥ deadline ∨ ¬ t.worker.running then return .inr ()
    else
      processPriorityCommands env maxDrainPerLoop
      let t ← turn env
      if ¬ t.worker.running ∨ env.now t.tick ≥ deadline then return .inr () else return .inl ()) ()

def round : Run Transport Bool := do
  let t ← turn env
  let now := env.now t.tick
  processPriorityCommands env maxDrainPerLoop
  let t ← state
  if ¬ t.worker.running then return false
  else
    processCommands env maxDrainPerLoop
    processPriorityCommands env maxDrainPerLoop
    let t ← state
    if ¬ t.worker.running then return false
    else
      drainCommandAcks env now maxDrainPerLoop
      drainDataAcks env now maxDrainPerLoop
      update (Transport.mapState (TransportState.decayFreeEstimate now))
      update (Transport.pollFullInfoIfDue now)
      trySendDuePacket env now
      let t ← state
      sleepUntilPrecise env (t.nextWake now)
      let t ← state
      return t.worker.running

/-- The worker's thread. -/
def run : Run Transport Unit := do
  iterate env.fuel (fun _ => do
    let more ← round env
    return if more then .inl () else .inr ()) ()
  let _ ← turn env
  update (Transport.finish env)

end

/-- A worker that has just been started for a device. -/
def Transport.start (status : Status) (profile : ConnectionProfile) (now : Nat) : Transport where
  generation := 0
  state := .new status profile now
  channel := []
  priority := []
  callers := []
  worker :=
    { queue := []
      received := none
      activeGeneration := 0
      packetSequence := 0
      transferSequence := 0
      packetSampleCounts := fun _ => 0
      currentRate := clampPointRate status.pointRateMax defaultPointRate
      outputEnabled := false
      nextSendDue := now
      nextFullInfoDue := now + Transport.fullInfoPollPeriod false
      running := true }
  done := false
  dropped := false
  tick := 0
  log := []

end LaserDac.LaserCube
