import LaserDac.Runs
import LaserDac.EtherDreamProtocol

/-!
The Ether Dream connection. Commands are queued and submitted as a batch: all of them are sent, then one reply is read
for each. The other end is told of every write and may answer with any bytes at any later time.
-/

namespace LaserDac.EtherDream

open Bytes Runs Runs.Run

/-- What a `read` comes to: some bytes, an interrupt, a timeout so long after the first attempt, or another error.
A read without any byte to give is the end of the stream. -/
inductive ReadOutcome
  | data (n : Nat)
  | interrupted
  | timedOut (elapsed : Nat)
  | failed
  deriving DecidableEq, Repr

inductive IoError
  | writeFailed
  | readFailed
  | unexpectedEof
  | timedOut
  | tooManyUnsolicited
  | tooManyPoints
  | rateOutOfRange (rate maxRate : UInt32)
  deriving DecidableEq, Repr

/-- What the log records: the fullness an admission check went by, a write as the other end handled it, and the
arrival of a reply. -/
inductive Event (σ : Type)
  | checked (fullness : Nat)
  | handled (time : Nat) (bytes : List UInt8) (found after : σ)
  | replied (time : Nat)
  deriving DecidableEq

/-- A connection. The bytes that are under way carry the time at which they were sent. -/
structure Socket (σ : Type) where
  peer : σ
  peerTime : Nat
  incoming : List (UInt8 × Nat)
  sent : List UInt8
  clock : Nat
  tick : Nat
  log : List (Event σ)
  deriving DecidableEq

/-- What the surroundings do at each tick: how long it takes until the client reads its clock, how long a command
travels, what befalls the other end before it handles a write, how it answers, after how many bytes a write fails,
and what the reads for one frame come to; and how coordinates are converted. -/
structure Env (σ : Type) where
  pause : Nat → Nat
  lag : Nat → Nat
  disturb : Nat → Nat → σ → σ
  react : Nat → List UInt8 → σ → List UInt8 × σ
  writes : Nat → Option Nat
  reads : Nat → List ReadOutcome
  coordinate : UInt32 → Int16

variable {σ : Type}

/-- `Instant::now` -/
def instant (env : Env σ) : Run (Socket σ) Nat := fun s =>
  (some (s.clock + env.pause s.tick), { s with clock := s.clock + env.pause s.tick, tick := s.tick + 1 })

def Socket.delivered (env : Env σ) (bytes : List UInt8) (s : Socket σ) : Socket σ :=
  let time := max s.peerTime s.clock + env.lag s.tick
  let found := env.disturb s.tick time s.peer
  let answer := env.react time bytes found
  { s with
    peer := answer.2, peerTime := time, incoming := s.incoming ++ answer.1.map fun byte => (byte, time)
    sent := s.sent ++ bytes, tick := s.tick + 1, log := .handled time bytes found answer.2 :: s.log }

/-- Write the bytes, or as many as get through; whether all did. -/
def writeAll (env : Env σ) (bytes : List UInt8) : Run (Socket σ) Bool := fun s =>
  (some (env.writes s.tick).isNone, s.delivered env ((env.writes s.tick).elim bytes bytes.take))

/-- The loop of `read_exact_with_budget`: `need` bytes are missing and these have been read. It is cut off where the
outcomes end. -/
def readLoop (budget start : Nat) : List ReadOutcome → Nat → List UInt8 → Run (Socket σ) (Except IoError (List UInt8))
  | _, 0, read => pure (.ok read)
  | [], _ + 1, _ => cut
  | outcome :: outcomes, need + 1, read => fun s =>
    match outcome with
    | .data n =>
      let taken := s.incoming.take (min n (need + 1))
      if taken = [] then (some (.error .unexpectedEof), s)
      else
        readLoop budget start outcomes (need + 1 - taken.length) (read ++ taken.map Prod.fst)
          { s with
            incoming := s.incoming.drop taken.length
            clock := taken.foldl (fun clock byte => max clock byte.2) s.clock }
    | .interrupted => readLoop budget start outcomes (need + 1) read s
    | .timedOut elapsed =>
      let s := { s with clock := max s.clock (start + elapsed) }
      if elapsed ≥ budget then (some (.error .timedOut), s) else readLoop budget start outcomes (need + 1) read s
    | .failed => (some (.error .readFailed), s)

/-- `read_exact_with_budget` -/
def readExactWithBudget (env : Env σ) (budget need : Nat) : Run (Socket σ) (Except IoError (List UInt8)) := do
  let start ← instant env
  let s ← state
  update fun s => { s with tick := s.tick + 1 }
  readLoop budget start (env.reads s.tick) need []

structure Dac where
  bufferCapacity : UInt16
  maxPointRate : UInt32
  status : Status
  deriving DecidableEq, Repr

/-- A queued command; the points of a data command lie in the stream's buffer. -/
inductive QueuedCommand
  | prepareStream
  | begin (lowWaterMark : UInt16) (pointRate : UInt32)
  | update (lowWaterMark : UInt16) (pointRate : UInt32)
  | pointRate (rate : UInt32)
  | data (start finish : Nat)
  | stop
  | emergencyStop
  | clearEmergencyStop
  | ping
  deriving DecidableEq, Repr

namespace QueuedCommand

def rate : QueuedCommand → Option UInt32
  | begin _ rate => some rate
  | update _ rate => some rate
  | pointRate rate => some rate
  | _ => none

def command (points : List DacPoint) : QueuedCommand → Command
  | prepareStream => .prepareStream
  | begin lowWaterMark rate => .begin lowWaterMark rate
  | update lowWaterMark rate => .update lowWaterMark rate
  | pointRate rate => .pointRate rate
  | data start finish => .data ((points.take finish).drop start)
  | stop => .stop
  | emergencyStop => .emergencyStop
  | clearEmergencyStop => .clearEmergencyStop
  | ping => .ping

end QueuedCommand

/-- A connection with its queue of commands and the last status. -/
structure Stream where
  dac : Dac
  commandBuffer : List QueuedCommand
  pointBuffer : List DacPoint
  statusSentAt : Nat
  statusReceivedAt : Nat
  deriving DecidableEq, Repr

namespace Stream

variable (stream : Stream)

def queueCommands : Stream := { stream with commandBuffer := [], pointBuffer := [] }

def push (command : QueuedCommand) (stream : Stream) : Stream :=
  { stream with commandBuffer := stream.commandBuffer ++ [command] }

def prepareStream : Stream := stream.push .prepareStream

def begin (lowWaterMark : UInt16) (pointRate : UInt32) (stream : Stream) : Stream :=
  stream.push (.begin lowWaterMark pointRate)

def update (lowWaterMark : UInt16) (pointRate : UInt32) (stream : Stream) : Stream :=
  stream.push (.update lowWaterMark pointRate)

def pointRate (rate : UInt32) (stream : Stream) : Stream := stream.push (.pointRate rate)

def data (points : List DacPoint) (stream : Stream) : Stream :=
  let start := stream.pointBuffer.length
  let points := points.take 65535
  { stream with pointBuffer := stream.pointBuffer ++ points }.push (.data start (start + points.length))

def stop : Stream := stream.push .stop

def emergencyStop : Stream := stream.push .emergencyStop

def clearEmergencyStop : Stream := stream.push .clearEmergencyStop

def ping : Stream := stream.push .ping

def enqueue (command : Command) : Stream :=
  match command with
  | .prepareStream => stream.prepareStream
  | .begin lowWaterMark rate => stream.begin lowWaterMark rate
  | .update lowWaterMark rate => stream.update lowWaterMark rate
  | .pointRate rate => stream.pointRate rate
  | .data points => stream.data points
  | .stop => stream.stop
  | .emergencyStop => stream.emergencyStop
  | .clearEmergencyStop => stream.clearEmergencyStop
  | .ping => stream.ping

def commands : List Command := stream.commandBuffer.map (·.command stream.pointBuffer)

end Stream

inductive ResponseErrorKind
  | unexpectedCommand (command : UInt8)
  | nak (nak : Nak)
  deriving DecidableEq, Repr

inductive CommunicationError
  | io (error : IoError)
  | protocol (error : ProtocolError)
  | response (response : DacResponse) (kind : ResponseErrorKind)
  deriving DecidableEq, Repr

def DacResponse.checkErrors (response : DacResponse) (expectedCommand : UInt8) : Except CommunicationError Unit :=
  if response.command ≠ expectedCommand then .error (.response response (.unexpectedCommand response.command))
  else
    match Nak.fromProtocol response.response with
    | some nak => .error (.response response (.nak nak))
    | none => .ok ()

/-- The stream and its socket. -/
structure Wire (σ : Type) where
  stream : Stream
  socket : Socket σ
  deriving DecidableEq

namespace Wire

def onSocket {α : Type} (m : Run (Socket σ) α) : Run (Wire σ) α :=
  zoom Wire.socket (fun socket wire => { wire with socket }) m

def setStatus (status : Status) (wire : Wire σ) : Wire σ :=
  { wire with stream := { wire.stream with dac := { wire.stream.dac with status } } }

/-- `READ_BUDGET` -/
def readBudget : Nat := 2000000000

/-- `recv_response_buffered`, with so many attempts left. -/
def recvResponse (env : Env σ) (expectedCommand : UInt8) : Nat → Run (Wire σ) (Except CommunicationError Unit)
  | 0 => return .error (.io .tooManyUnsolicited)
  | attempts + 1 => do
    match ← onSocket (readExactWithBudget env readBudget DacResponse.sizeBytes) with
    | .error error => return .error (.io error)
    | .ok bytes =>
      match DacResponse.read.run bytes with
      | none => return .error (.io .unexpectedEof)
      | some (response, _) =>
        match Status.fromProtocol response.dacStatus with
        | .error error => return .error (.protocol error)
        | .ok status =>
          update (setStatus status)
          if response.command = expectedCommand then return response.checkErrors expectedCommand
          else if response.response = DacResponse.ack ∨ response.response = DacResponse.nakInvalid then
            recvResponse env expectedCommand attempts
          else return .error (.response response (.unexpectedCommand response.command))

/-- `MAX_RETRIES` -/
def maxRetries : Nat := 5

/-- Send the commands: the start byte of each and when it was sent. -/
def sendAll (env : Env σ) : List Command → Run (Wire σ) (Except IoError (List (UInt8 × Nat)))
  | [] => return .ok []
  | command :: commands => do
    let sentAt ← onSocket (instant env)
    match command.write with
    | none => return .error .tooManyPoints
    | some bytes =>
      if ← onSocket (writeAll env bytes) then
        match ← sendAll env commands with
        | .error error => return .error error
        | .ok sent => return .ok ((command.startByte, sentAt) :: sent)
      else return .error .writeFailed

/-- The status is that of the reply to a command sent then. -/
def stamp (sentAt receivedAt : Nat) (wire : Wire σ) : Wire σ :=
  { stream := { wire.stream with statusSentAt := sentAt, statusReceivedAt := receivedAt }
    socket := { wire.socket with log := .replied receivedAt :: wire.socket.log } }

/-- The result that the first refusal stands for. -/
def verdict : Option CommunicationError → Except CommunicationError Unit
  | some error => .error error
  | none => .ok ()

/-- Read the replies to the commands; a refusal is kept until all have been read. -/
def recvAll (env : Env σ) : List (UInt8 × Nat) → Option CommunicationError → Run (Wire σ) (Except CommunicationError Unit)
  | [], firstNak => return verdict firstNak
  | (commandByte, sentAt) :: sent, firstNak => do
    let result ← recvResponse env commandByte (maxRetries + 1)
    let receivedAt ← onSocket (instant env)
    match result with
    | .ok () =>
      update (stamp sentAt receivedAt)
      recvAll env sent firstNak
    | .error (.response response (.nak nak)) =>
      update (stamp sentAt receivedAt)
      recvAll env sent (firstNak.or (some (.response response (.nak nak))))
    | .error error => return .error error

def unsafeRate (maxRate rate : UInt32) : Bool := rate = 0 || (maxRate > 0 && rate > maxRate)

/-- Send every queued command, then read one reply per command. -/
def submit (env : Env σ) : Run (Wire σ) (Except CommunicationError Unit) := do
  let wire ← state
  let maxRate := wire.stream.dac.maxPointRate
  match (wire.stream.commandBuffer.filterMap QueuedCommand.rate).find? (unsafeRate maxRate) with
  | some rate =>
    update fun wire => { wire with stream := { wire.stream with commandBuffer := [], pointBuffer := [] } }
    return .error (.io (.rateOutOfRange rate maxRate))
  | none =>
    update fun wire => { wire with stream := { wire.stream with commandBuffer := [] } }
    match ← sendAll env wire.stream.commands with
    | .error error => return .error (.io error)
    | .ok sent => recvAll env sent none

end Wire

end LaserDac.EtherDream
