import LaserDac.EtherDreamBackend
import LaserDac.EtherDreamReplies

/-!
Batches of Ether Dream commands. Whatever the queue holds and however its replies arrive, a batch reads one reply per
command and leaves the stream where the next one begins.
-/

namespace LaserDac.EtherDream

open Runs Runs.Run Wire

variable {σ : Type}

/-! ### The queue -/

/-- What a command queued as this one sends: at most as many points as a `u16` counts. -/
def Command.cut : Command → Command
  | .data points => .data (points.take 65535)
  | command => command

@[simp] theorem Command.cut_startByte (command : Command) : command.cut.startByte = command.startByte := by
  cases command <;> rfl

theorem Command.cut_write (command : Command) : ∃ bytes, command.cut.write = some bytes := by
  cases command with
  | data points =>
    rw [cut, write, if_neg (by rw [List.length_take]; omega)]
    exact ⟨_, rfl⟩
  | _ => exact ⟨_, rfl⟩

variable {stream : Stream}

namespace Stream

/-- The points of every queued data command lie in the buffer. -/
def Within (stream : Stream) : Prop :=
  ∀ start finish, QueuedCommand.data start finish ∈ stream.commandBuffer → finish ≤ stream.pointBuffer.length

theorem command_append {command : QueuedCommand} {points more : List DacPoint}
    (within : ∀ start finish, command = .data start finish → finish ≤ points.length) :
    command.command (points ++ more) = command.command points := by
  cases command with
  | data start finish =>
    simp only [QueuedCommand.command]
    rw [List.take_append_of_le_length (within start finish rfl)]
  | _ => rfl

def SameButQueue (stream after : Stream) : Prop :=
  after.queueCommands = stream.queueCommands

theorem SameButQueue.dac {after : Stream} (kept : SameButQueue stream after) : after.dac = stream.dac := by
  have same : after.queueCommands.dac = stream.queueCommands.dac := congrArg Stream.dac kept
  exact same

/-- What queueing a command comes to: it is sent after the others. -/
def Adds (command : Command) (stream after : Stream) : Prop :=
  after.Within ∧ after.commands = stream.commands ++ [command.cut] ∧
    after.commandBuffer.filterMap QueuedCommand.rate =
      stream.commandBuffer.filterMap QueuedCommand.rate ++ command.rate.toList ∧
    SameButQueue stream after

theorem push_adds (within : stream.Within) {queued : QueuedCommand} {command : Command}
    (other : ∀ start finish, queued ≠ .data start finish) (sends : queued.command stream.pointBuffer = command.cut)
    (rate : queued.rate = command.rate) : Adds command stream (stream.push queued) := by
  refine ⟨fun start finish mem => ?_, ?_, ?_, rfl⟩
  · rcases List.mem_append.mp mem with mem | mem
    · exact within start finish mem
    · exact absurd (List.mem_singleton.mp mem).symm (other start finish)
  · simp [commands, push, sends]
  · rw [push, List.filterMap_append, ← rate]
    cases eq : queued.rate <;> simp [eq]

theorem data_adds (within : stream.Within) (points : List DacPoint) :
    Adds (.data points) stream (stream.data points) := by
  have few : (stream.pointBuffer ++ points.take 65535).length = stream.pointBuffer.length + (points.take 65535).length :=
    List.length_append
  refine ⟨fun start finish mem => ?_, ?_, ?_, rfl⟩
  · rcases List.mem_append.mp mem with mem | mem
    · exact Nat.le_trans (within start finish mem) (by simp [data, push])
    · obtain ⟨-, rfl⟩ := QueuedCommand.data.inj (List.mem_singleton.mp mem)
      exact Nat.le_of_eq few.symm
  · simp only [data, push, commands, List.map_append, List.map_cons, List.map_nil, Command.cut]
    congr 1
    · refine List.map_congr_left fun queued mem => command_append fun start finish eq => ?_
      exact within start finish (eq ▸ mem)
    · rw [QueuedCommand.command, ← few, List.take_length, List.drop_left]
  · rw [data, push, List.filterMap_append]
    rfl

theorem enqueue_adds (within : stream.Within) (command : Command) : Adds command stream (stream.enqueue command) := by
  cases command with
  | data points => exact data_adds within points
  | _ => exact push_adds within (by simp) rfl rfl

theorem queued_spec (stream : Stream) (commands : List Command) :
    (commands.foldl enqueue stream.queueCommands).commands = commands.map Command.cut ∧
      (commands.foldl enqueue stream.queueCommands).commandBuffer.filterMap QueuedCommand.rate =
        commands.filterMap Command.rate ∧
      SameButQueue stream (commands.foldl enqueue stream.queueCommands) := by
  suffices general : ∀ queue : Stream, queue.Within →
      (commands.foldl enqueue queue).commands = queue.commands ++ commands.map Command.cut ∧
        (commands.foldl enqueue queue).commandBuffer.filterMap QueuedCommand.rate =
          queue.commandBuffer.filterMap QueuedCommand.rate ++ commands.filterMap Command.rate ∧
        SameButQueue queue (commands.foldl enqueue queue) by
    exact general stream.queueCommands (by simp [Within, queueCommands])
  induction commands with
  | nil => simp [SameButQueue]
  | cons command commands ih =>
    intro queue within
    obtain ⟨still, sends, rates, kept⟩ := enqueue_adds within command
    obtain ⟨allSends, allRates, allKept⟩ := ih _ still
    refine ⟨?_, ?_, allKept.trans kept⟩
    · rw [List.foldl_cons, allSends, sends, List.append_assoc, List.map_cons, List.singleton_append]
    · rw [List.foldl_cons, allRates, rates, List.append_assoc]
      cases eq : command.rate <;> simp [eq]

end Stream

variable (env : Env σ)

namespace Wire

/-- Queue these commands and no others. -/
def queue (commands : List Command) (wire : Wire σ) : Wire σ :=
  { wire with stream := commands.foldl Stream.enqueue wire.stream.queueCommands }

/-- Send what is queued: the first half of `submit`. -/
def sendQueued (env : Env σ) : Run (Wire σ) (Except IoError (List (UInt8 × Nat))) := fun wire =>
  sendAll env wire.stream.commands { wire with stream := { wire.stream with commandBuffer := [] } }

/-- A rate that must not be sent to a DAC with this maximum, where 0 stands for none. -/
def OutOfRange (maxRate rate : UInt32) : Prop := rate = 0 ∨ 0 < maxRate ∧ maxRate < rate

theorem unsafeRate_iff (maxRate rate : UInt32) : unsafeRate maxRate rate = true ↔ OutOfRange maxRate rate := by
  simp [unsafeRate, OutOfRange]

theorem submit_safe {wire : Wire σ}
    (safe : ∀ rate ∈ wire.stream.commandBuffer.filterMap QueuedCommand.rate,
      ¬ OutOfRange wire.stream.dac.maxPointRate rate) {sent : List (UInt8 × Nat)} {sending : Wire σ}
    (sends : sendQueued env wire = (some (.ok sent), sending)) : submit env wire = recvAll env sent none sending := by
  have none_ : (wire.stream.commandBuffer.filterMap QueuedCommand.rate).find?
      (unsafeRate wire.stream.dac.maxPointRate) = none := by
    rw [List.find?_eq_none]
    intro rate mem bad
    exact safe rate mem ((unsafeRate_iff _ _).mp bad)
  unfold sendQueued at sends
  rw [submit, bind_state]
  simp only [none_]
  rw [bind_update, bind_of_result sends]

theorem writeAll_whole {env : Env σ} (writes : ∀ tick, env.writes tick = none) (bytes : List UInt8) (s : Socket σ) :
    writeAll env bytes s = (some true, s.delivered env bytes) := by
  rw [writeAll, writes]
  rfl

theorem sendAll_sends (writes : ∀ tick, env.writes tick = none) (commands : List Command)
    (encodable : ∀ command ∈ commands, ∃ bytes, command.write = some bytes) (wire : Wire σ) :
    ∃ sent sending, sendAll env commands wire = (some (.ok sent), sending) ∧
      sent.map Prod.fst = commands.map Command.startByte := by
  induction commands generalizing wire with
  | nil => exact ⟨[], wire, rfl, rfl⟩
  | cons command commands ih =>
    obtain ⟨bytes, written⟩ := encodable command (List.mem_cons_self ..)
    obtain ⟨sentAt, timed, first⟩ : ∃ sentAt timed, onSocket (instant env) wire = (some sentAt, timed) := ⟨_, _, rfl⟩
    have second : onSocket (writeAll env bytes) timed =
        (some true, { timed with socket := timed.socket.delivered env bytes }) := by
      rw [onSocket, zoom, writeAll_whole writes]
    obtain ⟨sent, sending, rest, starts⟩ :=
      ih (fun command mem => encodable command (List.mem_cons_of_mem _ mem)) _
    refine ⟨(command.startByte, sentAt) :: sent, sending, ?_, by simp [starts]⟩
    rw [sendAll, bind_of_result first]
    simp only [written]
    rw [bind_of_result second]
    simp only [if_true]
    rw [bind_of_result rest]
    rfl

theorem sendQueued_sends (writes : ∀ tick, env.writes tick = none) (commands : List Command) (wire : Wire σ) :
    ∃ sent sending, sendQueued env (wire.queue commands) = (some (.ok sent), sending) ∧
      sent.map Prod.fst = commands.map Command.startByte := by
  obtain ⟨sends, -, -⟩ := wire.stream.queued_spec commands
  obtain ⟨sent, sending, result, starts⟩ := sendAll_sends env writes (commands.map Command.cut)
    (by simpa using fun command _ => command.cut_write)
    { wire.queue commands with stream := { (wire.queue commands).stream with commandBuffer := [] } }
  refine ⟨sent, sending, ?_, ?_⟩
  · rw [sendQueued, queue, sends]
    exact result
  · rw [starts, List.map_map]
    exact List.map_congr_left fun command _ => command.cut_startByte

theorem queue_inRange (wire : Wire σ) {commands : List Command}
    (safe : ∀ command ∈ commands, ∀ rate, command.rate = some rate → ¬ OutOfRange wire.stream.dac.maxPointRate rate) :
    ∀ rate ∈ (wire.queue commands).stream.commandBuffer.filterMap QueuedCommand.rate,
      ¬ OutOfRange (wire.queue commands).stream.dac.maxPointRate rate := by
  obtain ⟨-, rates, kept⟩ := wire.stream.queued_spec commands
  intro rate mem
  rw [queue, rates, List.mem_filterMap] at mem
  obtain ⟨command, mem, carries⟩ := mem
  rw [queue, kept.dac]
  exact safe command mem rate carries

/-- The batch reads one reply per command: exactly those bytes are taken, the result is the first refusal, and the
status is that of the last reply. -/
theorem submit_answers (prompt : env.Prompt) (writes : ∀ tick, env.writes tick = none) (wire : Wire σ)
    (commands : List Command) (answers : List Answer) (rest : List UInt8)
    (safe : ∀ command ∈ commands, ∀ rate, command.rate = some rate → ¬ OutOfRange wire.stream.dac.maxPointRate rate)
    (good : List.Forall₂ (fun command answer => Answer.For command.startByte answer) commands answers)
    (front : (sendQueued env (wire.queue commands)).2.socket.incoming.map Prod.fst =
      answers.flatMap Answer.bytes ++ rest) :
    ∃ sent after, (sendQueued env (wire.queue commands)).1 = some (.ok sent) ∧
      submit env (wire.queue commands) =
        (some (verdict (answers.findSome? Answer.refusal)), after) ∧
      after.socket.incoming.map Prod.fst = rest ∧
      (∀ answer, answers.getLast? = some answer → after.stream.dac.status = answer.status) ∧
      ∀ byte, sent.getLast? = some byte → after.stream.statusSentAt = byte.2 := by
  obtain ⟨sent, sending, result, starts⟩ := sendQueued_sends env writes commands wire
  rw [result] at front ⊢
  have own : List.Forall₂ (fun byte answer => Answer.For byte.1 answer) sent answers := by
    have paired : List.Forall₂ (fun start answer => Answer.For start answer) (commands.map Command.startByte) answers :=
      List.forall₂_map_left_iff.mpr good
    rw [← starts] at paired
    exact List.forall₂_map_left_iff.mp paired
  obtain ⟨after, answered, facts⟩ := recvAll_answers prompt sent answers own none sending rest front
  rw [Option.none_or] at answered
  refine ⟨sent, after, rfl, (submit_safe env (queue_inRange wire safe) result).trans answered, ?_, facts.status,
    facts.sentAt⟩
  rw [facts.consumed.incoming, List.map_drop, front, ← Answer.bytes_size, List.drop_left]

theorem submit_unsafe (wire : Wire σ) {commands : List Command} {command : Command} (mem : command ∈ commands)
    {rate : UInt32} (carries : command.rate = some rate) (bad : OutOfRange wire.stream.dac.maxPointRate rate) :
    ∃ refused, OutOfRange wire.stream.dac.maxPointRate refused ∧
      submit env (wire.queue commands) =
        (some (.error (.io (.rateOutOfRange refused wire.stream.dac.maxPointRate))),
          { wire with stream := { wire.stream with commandBuffer := [], pointBuffer := [] } }) := by
  obtain ⟨-, rates, kept⟩ := wire.stream.queued_spec commands
  obtain ⟨refused, found⟩ : ∃ refused, (commands.filterMap Command.rate).find?
      (unsafeRate wire.stream.dac.maxPointRate) = some refused := by
    rw [← Option.isSome_iff_exists, List.find?_isSome]
    exact ⟨rate, List.mem_filterMap.mpr ⟨command, mem, carries⟩, (unsafeRate_iff _ _).mpr bad⟩
  refine ⟨refused, (unsafeRate_iff _ _).mp (List.find?_some found), ?_⟩
  rw [submit, bind_state]
  simp only [queue, rates, kept.dac, found]
  rw [bind_update]
  exact congrArg (fun stream => (some _, ({ stream, socket := wire.socket } : Wire σ))) kept

end Wire

namespace Line

/-- Without a connection nothing is sent. -/
theorem run_closed (calls : List Call) (line : Line σ) (closed : line.stream = none) :
    (line.run env calls).socket.sent = line.socket.sent := by
  induction calls generalizing line with
  | nil => rfl
  | cons call calls ih =>
    have step : (line.perform env call).stream = none ∧ (line.perform env call).socket.sent = line.socket.sent := by
      cases call with
      | write => simp [perform, tryWritePoints, closed]
      | stop => simp [perform, stop, closed]
      | disconnect => simp [perform, disconnect, closed]
      | wait => exact ⟨closed, rfl⟩
    exact (ih _ step.1).trans step.2

/-- A write that fails closes the connection. -/
theorem tryWritePoints_failed {env : Env σ} {pps : UInt32} {points : List LaserPoint} {line : Line σ} {error : Failure}
    (failed : (tryWritePoints env pps points line).1 = some (.error error)) :
    (tryWritePoints env pps points line).2.stream = none := by
  unfold tryWritePoints at failed ⊢
  split at failed
  · rename_i closed
    simpa using closed
  · rename_i stream eq
    dsimp only at failed ⊢
    simp [failed, after, Except.isOk, Except.toBool]

theorem stop_failed {env : Env σ} {line : Line σ} {error : Failure} (failed : (stop env line).1 = some (.error error)) :
    (stop env line).2.stream = none := by
  unfold stop at failed ⊢
  split at failed
  · simp at failed
  · split at failed
    · simp at failed
    · simp at failed
    · split at failed
      · simp at failed
      · rename_i other
        rw [if_neg other]
        rfl

end Line

/-- Batches stay in sync. Whatever is queued and however the replies arrive, `submit` takes one reply per command,
returns the first refusal and keeps the status of the last reply; a rate out of range keeps the whole batch from
being sent; and after an error from `try_write_points` or `stop` nothing is ever sent again. -/
theorem batches_in_sync (env : Env σ) :
    (env.Prompt → (∀ tick, env.writes tick = none) →
      ∀ (wire : Wire σ) (commands : List Command) (answers : List Answer) (rest : List UInt8),
        (∀ command ∈ commands, ∀ rate, command.rate = some rate → ¬ OutOfRange wire.stream.dac.maxPointRate rate) →
        List.Forall₂ (fun command answer => Answer.For command.startByte answer) commands answers →
        (sendQueued env (wire.queue commands)).2.socket.incoming.map Prod.fst =
          answers.flatMap Answer.bytes ++ rest →
        ∃ sent after, (sendQueued env (wire.queue commands)).1 = some (.ok sent) ∧
          submit env (wire.queue commands) =
            (some (verdict (answers.findSome? Answer.refusal)), after) ∧
          after.socket.incoming.map Prod.fst = rest ∧
          (∀ answer, answers.getLast? = some answer → after.stream.dac.status = answer.status) ∧
          ∀ byte, sent.getLast? = some byte → after.stream.statusSentAt = byte.2) ∧
    (∀ (wire : Wire σ) (commands : List Command), ∀ command ∈ commands, ∀ rate, command.rate = some rate →
      OutOfRange wire.stream.dac.maxPointRate rate →
      ∃ refused, OutOfRange wire.stream.dac.maxPointRate refused ∧
        submit env (wire.queue commands) =
          (some (.error (.io (.rateOutOfRange refused wire.stream.dac.maxPointRate))),
            { wire with stream := { wire.stream with commandBuffer := [], pointBuffer := [] } })) ∧
    (∀ (line : Line σ) (pps : UInt32) (points : List LaserPoint) (error : Failure) (calls : List Call),
      (Line.tryWritePoints env pps points line).1 = some (.error error) →
      ((Line.tryWritePoints env pps points line).2.run env calls).socket.sent =
        (Line.tryWritePoints env pps points line).2.socket.sent) ∧
    ∀ (line : Line σ) (error : Failure) (calls : List Call), (Line.stop env line).1 = some (.error error) →
      ((Line.stop env line).2.run env calls).socket.sent = (Line.stop env line).2.socket.sent := by
  refine ⟨fun prompt writes wire commands answers rest safe good front =>
      submit_answers env prompt writes wire commands answers rest safe good front,
    fun wire commands command mem rate carries bad => submit_unsafe env wire mem carries bad,
    fun line pps points error calls failed => Line.run_closed env calls _ (Line.tryWritePoints_failed failed),
    fun line error calls failed => Line.run_closed env calls _ (Line.stop_failed failed)⟩

def restingStatus : DacStatus where
  protocol := 0
  lightEngineState := 0
  playbackState := 0
  source := 0
  lightEngineFlags := 0
  playbackFlags := 0
  sourceFlags := 0
  bufferFullness := 0
  pointRate := 0
  pointCount := 0

/-- A DAC that acknowledges everything but a stop, which it refuses after a frame nobody asked for. -/
def restingAnswer (start : UInt8) : Answer where
  unsolicited := if start = 0x73 then [⟨DacResponse.ack, 0x76, restingStatus⟩] else []
  reply := ⟨if start = 0x73 then DacResponse.nakInvalid else DacResponse.ack, start, restingStatus⟩
  status := ⟨0, .ready, .idle, .networkStreaming, 0, 0, 0, 0, 0⟩

/-- Its frames arrive in two pieces, with an interrupt and a timeout between them. -/
def restingEnv : Env Unit where
  pause := fun _ => 1
  lag := fun _ => 5
  disturb := fun _ _ _ => ()
  react := fun _ bytes _ => ((restingAnswer (bytes.headD 0)).bytes, ())
  writes := fun _ => none
  reads := fun _ => [.data 4, .interrupted, .timedOut 1000, .data 18]
  coordinate := fun _ => 0

/-- The connection before anything was sent. -/
def restingWire : Wire Unit where
  stream :=
    { dac := { bufferCapacity := 1799, maxPointRate := 100000, status := (restingAnswer 0).status }
      commandBuffer := [], pointBuffer := [], statusSentAt := 0, statusReceivedAt := 0 }
  socket := { peer := (), peerTime := 0, incoming := [], sent := [], clock := 0, tick := 0, log := [] }

theorem batches_in_sync_refused_stop :
    ∃ sent after, (sendQueued restingEnv (restingWire.queue [.ping, .stop])).1 = some (.ok sent) ∧
      submit restingEnv (restingWire.queue [.ping, .stop]) =
        (some (.error (.response (restingAnswer 0x73).reply (.nak .invalid))), after) ∧
      after.socket.incoming.map Prod.fst = [] ∧
      (∀ answer, [restingAnswer 0x3F, restingAnswer 0x73].getLast? = some answer →
        after.stream.dac.status = answer.status) ∧
      ∀ byte, sent.getLast? = some byte → after.stream.statusSentAt = byte.2 := by
  have prompt : restingEnv.Prompt := by
    intro tick
    simp [restingEnv, Covers, DacResponse.sizeBytes, Wire.readBudget]
  have good : List.Forall₂ (fun command answer => Answer.For command.startByte answer)
      [Command.ping, Command.stop] [restingAnswer 0x3F, restingAnswer 0x73] := by
    refine .cons ⟨by decide, by decide, by decide, by simp [restingAnswer], rfl, by decide, rfl⟩ (.cons ?_ .nil)
    refine ⟨by decide, by decide, by decide, ?_, rfl, by decide, rfl⟩
    simp only [restingAnswer, if_true, List.mem_singleton]
    rintro frame rfl
    exact ⟨_, rfl⟩
  exact (batches_in_sync restingEnv).1 prompt (fun _ => rfl) restingWire [.ping, .stop]
    [restingAnswer 0x3F, restingAnswer 0x73] [] (by simp [Command.rate]) good (by decide +kernel)

end LaserDac.EtherDream
