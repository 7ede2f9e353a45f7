import LaserDac.IdnTransmission

/-!
What a stop does. It clears the queue and leaves a blank chunk at its front. But commands are taken one after another
before anything is sent: a shutdown that follows a stop at once ends the loop with the blank chunk still in the queue.
-/

namespace LaserDac.Idn

open LaserDac.Runs

/-- A stop has been handled and nothing has been written since. -/
def stopPending : List WorkerEvent → Bool
  | [] => false
  | .handled _ .stop :: _ => true
  | .wrote _ _ _ :: _ => false
  | _ :: earlier => stopPending earlier

/-- The commands that were handled, with their numbers, the newest first. -/
def commands : List WorkerEvent → List (Nat × WorkerCommand)
  | [] => []
  | .handled index command :: earlier => (index, command) :: commands earlier
  | _ :: earlier => commands earlier

/-- The command of this number queued this chunk, which it brought, or it was a stop and the chunk is blank; and no stop
came after it. -/
def Queued (format : PointFormat) (log : List WorkerEvent) (index : Nat) (chunk : QueuedChunk) : Prop :=
  ((index, .chunk chunk) ∈ commands log ∨ (index, .stop) ∈ commands log ∧ chunk.points = blankPoints format) ∧
    ∀ stop, (stop, .stop) ∈ commands log → stop ≤ index

/-- A chunk that is written was not queued before a stop; after a stop a blank chunk is written first, and all of it is
sent; and the stream is not closed before that. -/
def StopBlanks (format : PointFormat) : WorkerEvent → List WorkerEvent → Prop
  | .wrote index chunk sent, earlier => Queued format earlier index chunk ∧
      (stopPending earlier = true →
        chunk.points = blankPoints format ∧ sent.flatMap Datagram.samples = (blankPoints format).wire)
  | .closed, earlier => stopPending earlier = false
  | _, _ => True

/-- The loop is not told to end while a stop is pending. -/
def Unhurried : WorkerEvent → List WorkerEvent → Prop
  | .handled _ .shutdown, earlier => stopPending earlier = false
  | .disconnected, earlier => stopPending earlier = false
  | _, _ => True

instance : ∀ event earlier, Decidable (Unhurried event earlier)
  | .handled _ .shutdown, earlier | .disconnected, earlier => inferInstanceAs (Decidable (stopPending earlier = false))
  | .handled _ .stop, _ | .handled _ (.chunk _), _ | .wrote _ _ _, _ | .closed, _ => inferInstanceAs (Decidable True)

theorem sentSince_samples {before after : Sender} {sent : List (Stream × Datagram)}
    (outs : outgoing after.log = sent ++ outgoing before.log) :
    (sentSince before after).flatMap Datagram.samples = wireOf sent := by
  have count : (outgoing after.log).length - (outgoing before.log).length = sent.length := by
    rw [outs, List.length_append, Nat.add_sub_cancel]
  rw [sentSince, count, outs, List.take_left, List.flatMap_map]
  rfl

theorem blankPoints_wire_length (format : PointFormat) : (blankPoints format).wire.length = 20 := by
  cases format
  all_goals rfl

namespace Worker

variable {network : Network} {format : PointFormat} {worker : Worker}

/-- What the commands so far have made of the queue. -/
structure Obedient (format : PointFormat) (worker : Worker) : Prop where
  same : worker.format = format
  mode : worker.sender.stream.frameMode = .wave
  fresh : ∀ numbered ∈ commands worker.log, numbered.1 < worker.handled
  queued : ∀ entry ∈ worker.queue, Queued format worker.log entry.1 entry.2
  waiting : worker.phase = .waiting → worker.queue = []
  pending : Always Unhurried worker.log → stopPending worker.log = true →
    worker.phase = .draining ∧
      ∃ index chunk rest, worker.queue = (index, chunk) :: rest ∧ chunk.points = blankPoints format
  blanks : Always Unhurried worker.log → Always (StopBlanks format) worker.log

namespace Obedient

theorem leave (obedient : Obedient format worker)
    (settled : Always Unhurried worker.log → stopPending worker.log = false) :
    Obedient format (worker.leave network) where
  same := obedient.same
  mode := (Sender.close_transmits network worker.sender).mode.trans obedient.mode
  fresh := obedient.fresh
  queued := obedient.queued
  waiting waits := by cases waits
  pending unhurried pending := absurd ((settled unhurried.2).symm.trans pending) (by decide)
  blanks unhurried := ⟨settled unhurried.2, obedient.blanks unhurried.2⟩

theorem acknowledged (obedient : Obedient format worker)
    (settled : Always Unhurried worker.log → stopPending worker.log = false) (received : Bool) (now : Nat) :
    Obedient format (worker.acknowledged network received now) := by
  have counted : ∀ misses, Obedient format { worker with misses := misses, lastAckCheck := some now } := fun _ =>
    { obedient with }
  unfold Worker.acknowledged
  split
  · exact counted 0
  · dsimp only
    split
    · exact (counted _).leave settled
    · exact counted _

theorem queued_cons {log : List WorkerEvent} {index number : Nat} {chunk : QueuedChunk} {command : WorkerCommand}
    (queued : Queued format log index chunk) (go : command ≠ .stop) :
    Queued format (.handled number command :: log) index chunk := by
  refine ⟨queued.1.imp (List.mem_cons_of_mem _) (.imp_left (List.mem_cons_of_mem _)), fun stop member => ?_⟩
  rcases List.mem_cons.mp member with same | member
  · exact absurd (Prod.mk.inj same).2.symm go
  · exact queued.2 stop member

section

variable (obedient : Obedient format worker)

include obedient

theorem handle (command : WorkerCommand) : Obedient format (worker.handle network command) := by
  have fresh : ∀ numbered ∈ commands (.handled worker.handled command :: worker.log),
      numbered.1 < worker.handled + 1 :=
    List.forall_mem_cons.mpr ⟨Nat.lt_succ_self _, fun numbered member => (obedient.fresh numbered member).trans
      (Nat.lt_succ_self _)⟩
  have latest : ∀ stop, (stop, .stop) ∈ commands worker.log → stop ≤ worker.handled := fun stop member =>
    (obedient.fresh (stop, .stop) member).le
  cases command with
  | chunk chunk =>
    refine ⟨obedient.same, obedient.mode, fresh, ?_, (fun waits => by cases waits), fun unhurried pending => ⟨rfl, ?_⟩,
      fun unhurried => ⟨trivial, obedient.blanks unhurried.2⟩⟩
    · refine List.forall_mem_append.mpr ⟨fun entry member => ?_,
        List.forall_mem_singleton.mpr ⟨.inl List.mem_cons_self, fun stop member => ?_⟩⟩
      · exact queued_cons (obedient.queued entry member) (by simp)
      · rcases List.mem_cons.mp member with same | member
        · cases same
        · exact latest stop member
    · obtain ⟨-, index, blank, rest, queue, points⟩ := obedient.pending unhurried.2 pending
      exact ⟨index, blank, rest ++ [(worker.handled, chunk)], congrArg (· ++ [(worker.handled, chunk)]) queue, points⟩
  | stop =>
    have blank : (blankChunk worker.lastPps worker.format).points = blankPoints format :=
      congrArg blankPoints obedient.same
    refine ⟨obedient.same, obedient.mode, fresh,
      List.forall_mem_singleton.mpr ⟨.inr ⟨List.mem_cons_self, blank⟩, fun stop member => ?_⟩,
      (fun waits => by cases waits), fun _ _ => ⟨rfl, _, _, _, rfl, blank⟩,
      fun unhurried => ⟨trivial, obedient.blanks unhurried.2⟩⟩
    rcases List.mem_cons.mp member with same | member
    · exact (Prod.mk.inj same).1.le
    · exact latest stop member
  | shutdown =>
    refine leave ⟨obedient.same, obedient.mode, fresh, fun entry member =>
      queued_cons (obedient.queued entry member) (by simp), ?_, ?_, ?_⟩ fun unhurried => unhurried.1
    · exact fun waits => by cases waits
    · exact fun unhurried pending => ⟨rfl, (obedient.pending unhurried.2 pending).2⟩
    · exact fun unhurried => ⟨trivial, obedient.blanks unhurried.2⟩

theorem write (delivers : ∀ sends, network.delivers sends = true) (draining : worker.phase = .draining) {index : Nat}
    {chunk : QueuedChunk} {rest : List (Nat × QueuedChunk)} (queue : worker.queue = (index, chunk) :: rest) :
    Obedient format (worker.write network index chunk rest) ∧
      stopPending (worker.write network index chunk rest).log = false := by
  obtain ⟨own, others⟩ : Queued format worker.log index chunk ∧
      ∀ entry ∈ rest, Queued format worker.log entry.1 entry.2 := by
    have queued := obedient.queued
    rw [queue] at queued
    exact List.forall_mem_cons.mp queued
  have front : Always Unhurried worker.log → stopPending worker.log = true → chunk.points = blankPoints format := by
    intro unhurried pending
    obtain ⟨-, _, blank, _, found, points⟩ := obedient.pending unhurried pending
    obtain rfl : chunk = blank := (Prod.mk.inj (List.cons.inj (queue.symm.trans found)).1).2
    exact points
  obtain ⟨sender, samples, transmits, complete, written⟩ := write_cases delivers obedient.mode index chunk rest
  have wrote : Obedient format (worker.wrote index chunk rest sender) := by
    refine ⟨obedient.same, transmits.mode.trans obedient.mode, obedient.fresh, others,
      fun waits => absurd (draining.symm.trans waits) (by decide), (fun _ pending => by cases pending), fun unhurried =>
      ⟨⟨own, fun pending => ⟨front unhurried.2 pending, ?_⟩⟩, obedient.blanks unhurried.2⟩⟩
    -- A blank chunk is too short to be split, so that it cannot be cut.
    obtain ⟨sent, outs, wired⟩ := transmits.sent
    have short := blankPoints_wire_length format
    rw [front unhurried.2 pending] at complete
    rw [sentSince_samples outs, wired]
    exact complete.resolve_right fun cut => by omega
  rcases written with same | ⟨received, now, same⟩
  · rw [same]
    exact ⟨wrote, rfl⟩
  · rw [same]
    refine ⟨wrote.acknowledged (fun _ => rfl) received now, ?_⟩
    unfold Worker.acknowledged
    split
    · rfl
    · dsimp only
      split <;> rfl

theorem idle (waiting : worker.phase = .waiting) : Obedient format (worker.idle network) := by
  have settled : Always Unhurried worker.log → stopPending worker.log = false := by
    intro unhurried
    by_contra pending
    have draining := (obedient.pending unhurried (Bool.eq_true_of_not_eq_false pending)).1
    exact absurd (waiting.symm.trans draining) (by decide)
  obtain ⟨sender, transmits, cases⟩ := idle_cases network worker
  have silent : ∀ phase, Obedient format { worker with sender := sender, phase := phase } := fun phase =>
    { obedient with
      mode := transmits.mode.trans obedient.mode
      waiting := fun _ => obedient.waiting waiting
      pending := fun unhurried pending => absurd ((settled unhurried).symm.trans pending) (by decide) }
  rcases cases with same | same | ⟨received, now, same⟩
  · rw [same]
    exact silent _
  · rw [same]
    exact (silent worker.phase).leave settled
  · rw [same]
    exact (silent _).acknowledged settled received now

theorem disconnected : Obedient format ({ worker with log := .disconnected :: worker.log }.leave network) :=
  leave
    { obedient with
      pending := fun unhurried pending => obedient.pending unhurried.2 pending
      blanks := fun unhurried => ⟨trivial, obedient.blanks unhurried.2⟩ }
    fun unhurried => unhurried.1

section

variable (delivers : ∀ sends, network.delivers sends = true)

include delivers

theorem step (poll : Poll) : Obedient format (worker.step network poll) := by
  unfold Worker.step
  split
  · exact obedient
  · exact obedient.handle _
  · exact obedient.disconnected
  · next draining =>
    split
    · next queue => exact (obedient.write delivers draining queue).1
    · next queue =>
      refine { obedient with waiting := fun _ => queue, pending := fun unhurried pending => ?_ }
      obtain ⟨-, _, _, _, found, -⟩ := obedient.pending unhurried pending
      cases queue.symm.trans found
  · next waiting => exact obedient.idle waiting

theorem settles (unhurried : Always Unhurried worker.log) (pending : stopPending worker.log = true) :
    stopPending (worker.step network .empty).log = false := by
  obtain ⟨draining, index, chunk, rest, queue, -⟩ := obedient.pending unhurried pending
  have written := (obedient.write delivers draining queue).2
  unfold Worker.step
  rw [draining]
  dsimp only
  rw [queue]
  exact written

theorem run (polls : List Poll) : Obedient format (Worker.run network polls worker) := by
  induction polls generalizing worker with
  | nil => exact obedient
  | cons poll polls ih => exact ih (obedient.step delivers poll)

end

end

end Obedient

end Worker

/-- In every run of the worker without send errors in which the loop is not told to end while a stop is pending: a chunk
that was queued before a stop is not sent after it; after a stop a blank chunk is sent before any that is queued later
and before the stream is closed; and it is sent as soon as the channel has no more commands. -/
theorem stop_blanks (network : Network) (delivers : ∀ sends, network.delivers sends = true) (serviceId : UInt8)
    (format : PointFormat) (connectTime : Nat) (sender : Sender)
    (connected : connect network serviceId format connectTime = some sender) (polls : List Poll)
    (unhurried : Always Unhurried (Worker.run network polls (.start sender format (connect_running connected))).log) :
    let worker := Worker.run network polls (.start sender format (connect_running connected))
    Always (StopBlanks format) worker.log ∧
      (stopPending worker.log = true → stopPending (worker.step network .empty).log = false) := by
  have start : Worker.Obedient format (.start sender format (connect_running connected)) :=
    ⟨rfl, connect_wave connected, List.forall_mem_nil _, List.forall_mem_nil _, fun _ => rfl,
      (fun _ pending => by cases pending), fun _ => trivial⟩
  have obedient := start.run delivers polls
  exact ⟨obedient.blanks unhurried, obedient.settles delivers unhurried⟩

/-- A chunk is queued and dropped by a stop, the blank chunk goes out, and then the loop is told to end. -/
theorem stop_blanks_shutdown :
    ∃ sender, ∃ connected : connect (steadyNetwork fun _ => true) 1 .xyrgbi 0 = some sender,
      let worker := Worker.run (steadyNetwork fun _ => true)
        [.command (.chunk (buildChunk 30000 (.xyrgbi [⟨0, 0, 0, 0, 0, 0⟩]))), .command .stop, .empty,
          .command .shutdown] (.start sender .xyrgbi (connect_running connected))
      Always (StopBlanks .xyrgbi) worker.log ∧
        (stopPending worker.log = true →
          stopPending (worker.step (steadyNetwork fun _ => true) .empty).log = false) := by
  refine ⟨(connect (steadyNetwork fun _ => true) 1 .xyrgbi 0).get (by decide +kernel), (Option.some_get _).symm, ?_⟩
  exact stop_blanks _ (fun _ => rfl) 1 .xyrgbi 0 _ (Option.some_get _).symm _ (by decide +kernel)

/-- A shutdown that follows a stop at once, as when the session ends: the stream is closed, the stop is still pending,
and no point has been sent. -/
theorem stop_is_overtaken :
    ∃ sender, ∃ connected : connect (steadyNetwork fun _ => true) 1 .xyrgbi 0 = some sender,
      let worker := Worker.run (steadyNetwork fun _ => true) [.command .stop, .command .shutdown]
        (.start sender .xyrgbi (connect_running connected))
      worker.log = [.closed, .handled 1 .shutdown, .handled 0 .stop] ∧ ¬ Always (StopBlanks .xyrgbi) worker.log ∧
        wireOf (outgoing worker.sender.log) = [] := by
  refine ⟨(connect (steadyNetwork fun _ => true) 1 .xyrgbi 0).get (by decide +kernel), (Option.some_get _).symm, ?_⟩
  have log : (Worker.run (steadyNetwork fun _ => true) [.command .stop, .command .shutdown]
      (.start ((connect (steadyNetwork fun _ => true) 1 .xyrgbi 0).get (by decide +kernel)) .xyrgbi
        (connect_running (Option.some_get _).symm))).log = [.closed, .handled 1 .shutdown, .handled 0 .stop] := by
    decide +kernel
  refine ⟨log, ?_, by decide +kernel⟩
  rw [log]
  exact fun blanks => Bool.noConfusion blanks.1

end LaserDac.Idn
