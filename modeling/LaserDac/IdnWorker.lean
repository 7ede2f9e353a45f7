import LaserDac.IdnEmission

/-!
The thread that sends for the backend. It takes commands until none is left, sends one chunk from its queue, and
begins again. Some writes ask for an acknowledgement; after four misses in a row the device counts as dead.
-/

namespace LaserDac.Idn

open LaserDac.Attempts LaserDac.Attempts.Attempt

def defaultClientGroup : UInt8 := 0
def connectPingRetries : Nat := 2
def ackCheckInterval : Nat := 500000000
def maxConsecutiveAckMisses : Nat := 4
def ppsMin : Nat := 1
def ppsMax : Nat := 100000

/-- The points that fit into one datagram without a config. -/
def maxPointsPerChunkFor (format : PointFormat) : Nat :=
  (maxUdpPayload - (PacketHeader.sizeBytes + ChannelMessageHeader.sizeBytes + SampleChunkHeader.sizeBytes)) /
    format.sizeBytes

/-- A chunk in the worker's queue, at its own rate. -/
structure QueuedChunk where
  pps : ℕ+
  points : ChunkPoints
  deriving DecidableEq

/-- A chunk of converted points; the rate is kept within the device's. -/
def buildChunk (pps : Nat) (points : ChunkPoints) : QueuedChunk where
  pps := ⟨min (max pps (max ppsMin 1)) ppsMax, by
    rw [ppsMin, ppsMax]
    omega⟩
  points := points

def blankPoints : PointFormat → ChunkPoints
  | .xyrgbi => .xyrgbi (List.replicate 10 ⟨0, 0, 0, 0, 0, 0⟩)
  | .xyrgbHighRes => .highRes (List.replicate 10 ⟨0, 0, 0, 0, 0⟩)
  | .extended => .extended (List.replicate 10 ⟨0, 0, 0, 0, 0, 0, 0, 0, 0, 0⟩)

def blankChunk (pps : ℕ+) (format : PointFormat) : QueuedChunk := ⟨pps, blankPoints format⟩

def reachable (network : Network) : Nat → Sender → Option Sender
  | 0, _ => none
  | attempts + 1, sender =>
    match Sender.ping network sender with
    | (.ok _, after) => some after
    | (.error _, after) => reachable network attempts after

/-- The stream that a worker is started with. -/
def connect (network : Network) (serviceId : UInt8) (format : PointFormat) (connectTime : Nat) : Option Sender :=
  reachable network (connectPingRetries + 1) (((Sender.new
    (Stream.connect serviceId defaultClientGroup connectTime)).setFrameMode .wave).setPointFormat format)

inductive WorkerCommand where
  | chunk (chunk : QueuedChunk)
  | stop
  | shutdown
  deriving DecidableEq

/-- What the channel answers: a command, that there is none now, or none in time, or that its other end is gone. -/
inductive Poll where
  | command (command : WorkerCommand)
  | empty
  | disconnected
  deriving DecidableEq

/-- What happened to the worker: the command of this number was handled; the chunk that it queued was written, and these
datagrams went out. -/
inductive WorkerEvent where
  | handled (index : Nat) (command : WorkerCommand)
  | disconnected
  | wrote (index : Nat) (chunk : QueuedChunk) (sent : List Datagram)
  | closed
  deriving DecidableEq

inductive Phase where
  /-- Taking commands without waiting. -/
  | draining
  /-- Waiting for a command. -/
  | waiting
  | closed
  deriving DecidableEq, Repr

/-- Every chunk in the queue has the number of the command that put it there. -/
structure Worker where
  sender : Sender
  format : PointFormat
  queue : List (Nat × QueuedChunk)
  lastPps : ℕ+
  lastAckCheck : Option Nat
  misses : Nat
  phase : Phase
  handled : Nat
  log : List WorkerEvent

def livenessCheckDue (lastAckCheck : Option Nat) (misses now : Nat) : Bool :=
  0 < misses ∨ lastAckCheck.all fun last => ackCheckInterval ≤ now - last

/-- The datagrams that went out between two states, the oldest first. -/
def sentSince (before after : Sender) : List Datagram :=
  (((outgoing after.log).take ((outgoing after.log).length - (outgoing before.log).length)).reverse).map Prod.snd

namespace Worker

variable (network : Network)

/-- A worker with an empty queue. -/
def start (sender : Sender) (format : PointFormat) (running : sender.stream.scanSpeed ≠ 0) : Worker where
  sender := sender
  format := format
  queue := []
  lastPps := ⟨sender.stream.scanSpeed, Nat.pos_of_ne_zero running⟩
  lastAckCheck := none
  misses := 0
  phase := .draining
  handled := 0
  log := []

def leave (worker : Worker) : Worker :=
  { worker with sender := (Sender.close network worker.sender).2, phase := .closed, log := .closed :: worker.log }

def handleWorkerCommand (worker : Worker) : WorkerCommand → Option (List (Nat × QueuedChunk))
  | .chunk chunk => some (worker.queue ++ [(worker.handled, chunk)])
  | .stop => some [(worker.handled, blankChunk worker.lastPps worker.format)]
  | .shutdown => none

def handle (command : WorkerCommand) (worker : Worker) : Worker :=
  let after := { worker with phase := .draining, handled := worker.handled + 1,
                             log := .handled worker.handled command :: worker.log }
  match worker.handleWorkerCommand command with
  | some queue => { after with queue := queue }
  | none => after.leave network

def acknowledged (received : Bool) (now : Nat) (worker : Worker) : Worker :=
  if received then { worker with misses := 0, lastAckCheck := some now }
  else
    let worker := { worker with misses := worker.misses + 1, lastAckCheck := some now }
    if maxConsecutiveAckMisses ≤ worker.misses then worker.leave network else worker

def wrote (index : Nat) (chunk : QueuedChunk) (rest : List (Nat × QueuedChunk)) (worker : Worker) (after : Sender) :
    Worker :=
  { worker with sender := after, queue := rest, lastPps := chunk.pps,
                log := .wrote index chunk (sentSince worker.sender after) :: worker.log }

def write (index : Nat) (chunk : QueuedChunk) (rest : List (Nat × QueuedChunk)) (worker : Worker) : Worker :=
  let sender := worker.sender.setScanSpeed chunk.pps
  let now := network.clock sender.reads
  let sender := { sender with reads := sender.reads + 1 }
  if livenessCheckDue worker.lastAckCheck worker.misses now then
    let (result, after) := chunk.points.writeFrameWithAck network sender
    (worker.wrote index chunk rest after).acknowledged network result.isOk now
  else
    let (result, after) := chunk.points.writeFrame network sender
    if result.isOk then worker.wrote index chunk rest after else (worker.wrote index chunk rest after).leave network

/-- No command in time: the connection is kept alive and checked. -/
def idle (worker : Worker) : Worker :=
  let now := network.clock worker.sender.reads
  let sender := { worker.sender with reads := worker.sender.reads + 1 }
  let (kept, sender) :=
    if sender.stream.needsKeepalive now then Sender.sendKeepalive network sender else (.ok (), sender)
  if kept.isOk then
    let now := network.clock sender.reads
    let sender := { sender with reads := sender.reads + 1 }
    if livenessCheckDue worker.lastAckCheck worker.misses now then
      let (answered, sender) := Sender.ping network sender
      { worker with sender := sender, phase := .draining }.acknowledged network answered.isOk now
    else { worker with sender := sender, phase := .draining }
  else { worker with sender := sender }.leave network

/-- One answer of the channel. -/
def step (worker : Worker) (poll : Poll) : Worker :=
  match worker.phase, poll with
  | .closed, _ => worker
  | _, .command command => worker.handle network command
  | _, .disconnected => { worker with log := .disconnected :: worker.log }.leave network
  | .draining, .empty =>
    match worker.queue with
    | (index, chunk) :: rest => worker.write network index chunk rest
    | [] => { worker with phase := .waiting }
  | .waiting, .empty => worker.idle network

/-- The worker after these answers of the channel. -/
def run (polls : List Poll) (worker : Worker) : Worker := polls.foldl (step network) worker

end Worker

end LaserDac.Idn
