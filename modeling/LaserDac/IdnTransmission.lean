import LaserDac.IdnWorker

/-!
Chunks that go out whole. A write whose acknowledgement is missed ends after its first datagram, and what was left of
the frame is lost. So every chunk that the worker takes from its queue is transmitted whole, and before the next one,
if no acknowledgement is missed while points are left.
-/

namespace LaserDac.Idn

open LaserDac.Attempts LaserDac.Attempts.Attempt LaserDac.Runs

/-- The samples of datagrams, the newest of which is the first, in the order in which they went out. -/
def wireOf (outs : List (Stream × Datagram)) : List (List UInt8) := outs.reverse.flatMap fun out => out.2.samples

theorem wireOf_append (newer older : List (Stream × Datagram)) :
    wireOf (newer ++ older) = wireOf older ++ wireOf newer := by
  rw [wireOf, List.reverse_append, List.flatMap_append]
  rfl

/-- Between these states these samples have gone out, in this order. -/
structure Transmits (before after : Sender) (samples : List (List UInt8)) : Prop where
  mode : after.stream.frameMode = before.stream.frameMode
  log : before.log <:+ after.log
  sent : ∃ sent, outgoing after.log = sent ++ outgoing before.log ∧ wireOf sent = samples

namespace Transmits

variable {before between after : Sender} {first second : List (List UInt8)}

theorem nothing (mode : after.stream.frameMode = before.stream.frameMode) (log : before.log <:+ after.log)
    (none : outgoing after.log = outgoing before.log) : Transmits before after [] := ⟨mode, log, [], none, rfl⟩

theorem one (found : Stream) (datagram : Datagram) (mode : after.stream.frameMode = before.stream.frameMode)
    (log : after.log = .sent found datagram :: before.log) : Transmits before after datagram.samples := by
  refine ⟨mode, ?_, [(found, datagram)], ?_, List.flatMap_singleton _ _⟩
  · rw [log]
    exact List.suffix_cons _ _
  · rw [log]
    rfl

theorem trans (head : Transmits before between first) (tail : Transmits between after second) :
    Transmits before after (first ++ second) := by
  obtain ⟨mode, log, sent, outs, samples⟩ := head
  obtain ⟨mode', log', sent', outs', samples'⟩ := tail
  refine ⟨mode'.trans mode, log.trans log', sent' ++ sent, ?_, ?_⟩
  · rw [outs', outs, List.append_assoc]
  · rw [wireOf_append, samples, samples']

end Transmits

/-! ### Writes -/

namespace Sender

variable {network : Network} {P : Type} [Point P] [Received P] {sender : Sender}

theorem prepared_transmits (network : Network) (sender : Sender) : Transmits sender (sender.prepared network) [] := by
  obtain ⟨-, -, anchors, isAnchors, log⟩ := prepared_reanchored network sender
  refine .nothing (prepared_frameMode network sender) (prepared_suffix network sender) ?_
  rw [log, outgoing_anchors isAnchors]
  rfl

/-- The rest of a wave goes out. -/
theorem continuation_transmits (delivers : ∀ sends, network.delivers sends = true) (points : List P) (sender : Sender) :
    ∃ after, writeFrameContinuation network points sender = (.ok (), after) ∧
      Transmits sender after (points.map Point.write) := by
  have start : ∃ done, Transmits sender sender (done.map Point.write) ∧ done ++ points = points :=
    ⟨[], .nothing rfl (List.suffix_refl _) rfl, rfl⟩
  obtain ⟨after, loop, done, transmits, all⟩ := continuationLoop_delivered delivers (J := fun rest between =>
    ∃ done, Transmits sender between (done.map Point.write) ∧ done ++ rest = points) (by
    rintro rest between ⟨done, transmits, all⟩
    have out : Transmits between (between.followed network rest)
        ((rest.take (Stream.continuationShare rest)).map Point.write) :=
      .one between.following.stream (between.stream.continuationPacket rest) rfl rfl
    refine ⟨done ++ rest.take (Stream.continuationShare rest), ?_, ?_⟩
    · rw [List.map_append]
      exact transmits.trans out
    · rw [List.append_assoc, List.take_append_drop, all]) _ le_rfl start
  rw [List.append_nil] at all
  obtain rfl := all
  exact ⟨after, loop, transmits⟩

/-- The first datagram of a wave. -/
theorem opened_transmits {Q : Type} [Point Q] (network : Network) (points : List Q) (command : UInt8) (sender : Sender) :
    Transmits sender (sender.opened network points command)
      ((points.take (sender.stream.firstShare (sender.stream.needsConfig (network.clock sender.reads)) points)).map
        Point.write) :=
  .one (sender.opening network).stream (sender.openingPacket network points command) rfl rfl

theorem rest_transmits (delivers : ∀ sends, network.delivers sends = true) (points : List P) (count : Nat)
    {before between : Sender} (first : Transmits before between ((points.take count).map Point.write)) :
    ∃ after, (if count < points.length then writeFrameContinuation network (points.drop count)
        else return () : Sending Unit) between = (.ok (), after) ∧
      Transmits before after (points.map Point.write) := by
  split
  · obtain ⟨after, loop, rest⟩ := continuation_transmits delivers (points.drop count) between
    refine ⟨after, loop, ?_⟩
    have both := first.trans rest
    rwa [← List.map_append, List.take_append_drop] at both
  · next done =>
    rw [List.take_of_length_le (Nat.le_of_not_lt done)] at first
    exact ⟨between, rfl, first⟩

/-- A write sends all points of its frame. -/
theorem writeFrame_transmits (delivers : ∀ sends, network.delivers sends = true)
    (wave : sender.stream.frameMode = .wave) (running : sender.stream.scanSpeed ≠ 0) (points : List P) :
    ∃ after, writeFrame network points sender = (.ok (), after) ∧
      Transmits sender after ((framePoints points).map Point.write) := by
  unfold writeFrame
  split
  · next empty =>
    obtain rfl := List.isEmpty_iff.mp empty
    exact ⟨sender, rfl, .nothing rfl (List.suffix_refl _) rfl⟩
  have prepared := prepared_transmits network sender
  have sends := buildAndSendFirstPacket_eq network (framePoints points) idncmdRtCnlmsg (sender.prepared network)
  rw [if_pos (delivers _)] at sends
  rw [bind_ok (preparePoints_eq network points running), bind_state, prepared.mode, wave]
  obtain ⟨after, rest, transmits⟩ := rest_transmits delivers (framePoints points) _
    (prepared.trans (opened_transmits network (framePoints points) idncmdRtCnlmsg (sender.prepared network)))
  exact ⟨after, (bind_ok sends).trans rest, transmits⟩

theorem firstShare_of_le (stream : Stream) (needsConfig : Bool) {points : List P} (few : points.length ≤ 69) :
    stream.firstShare needsConfig points = points.length := by
  refine evenShare_of_le (few.trans ?_)
  obtain ⟨positive, most⟩ := sizeBytes_bounds (P := P)
  have small := configSize_le stream needsConfig
  refine (Nat.le_div_iff_mul_le positive).mpr ((Nat.mul_le_mul_left 69 most).trans ?_)
  change 69 * 20 ≤ 1454 - (4 + 8 + stream.configSize needsConfig + 4)
  omega

/-- A write with an acknowledgement sends all points of its frame, or the acknowledgement is missed. A frame that fits
into one datagram is sent whole in any case. -/
theorem writeFrameWithAck_transmits (delivers : ∀ sends, network.delivers sends = true)
    (wave : sender.stream.frameMode = .wave) (running : sender.stream.scanSpeed ≠ 0) (points : List P) :
    ∃ count, Transmits sender (writeFrameWithAck network points sender).2
        (((framePoints points).take count).map Point.write) ∧
      ((framePoints points).length ≤ count ∨ 69 < (framePoints points).length ∧
        ∃ earlier, (writeFrameWithAck network points sender).2.log =
          .ackAwaited ((framePoints points).length - count) false :: earlier) := by
  unfold writeFrameWithAck
  split
  · next empty =>
    obtain rfl := List.isEmpty_iff.mp empty
    exact ⟨0, .nothing rfl (List.suffix_refl _) rfl, .inl le_rfl⟩
  have prepared := prepared_transmits network sender
  have ready : preparePoints network points sender = (.ok (framePoints points), sender.prepared network) :=
    preparePoints_eq network points running
  have sends := buildAndSendFirstPacket_eq network (framePoints points) idncmdRtCnlmsgAckreq (sender.prepared network)
  rw [if_pos (delivers _)] at sends
  have first := prepared.trans (opened_transmits network (framePoints points) idncmdRtCnlmsgAckreq
    (sender.prepared network))
  have few := fun few : (framePoints points).length ≤ 69 => firstShare_of_le (sender.prepared network).stream
    ((sender.prepared network).stream.needsConfig (network.clock (sender.prepared network).reads)) few
  rw [bind_ok ready, bind_state, prepared.mode, wave]
  dsimp only
  rw [bind_ok sends]
  generalize (sender.prepared network).stream.firstShare ((sender.prepared network).stream.needsConfig
    (network.clock (sender.prepared network).reads)) (framePoints points) = count at first few ⊢
  generalize (sender.prepared network).opened network (framePoints points) idncmdRtCnlmsgAckreq = opened at first ⊢
  have awaits := recvAcknowledge_eq network ((framePoints points).length - count) opened
  have waited : ∀ received, Transmits sender (opened.awaited ((framePoints points).length - count) received)
      (((framePoints points).take count).map Point.write) := fun _ =>
    ⟨first.mode, first.log.trans (List.suffix_cons _ _), first.sent⟩
  split at awaits
  · obtain ⟨after, rest, transmits⟩ := rest_transmits delivers (framePoints points) count (waited true)
    refine ⟨(framePoints points).length, ?_, .inl le_rfl⟩
    rw [List.take_length, bind_ok awaits, rest]
    exact transmits
  · refine ⟨count, ?_, ?_⟩
    · rw [bind_error awaits]
      exact waited false
    · rw [bind_error awaits]
      rcases Nat.lt_or_ge 69 (framePoints points).length with many | small
      · exact .inr ⟨many, _, rfl⟩
      · exact .inl (few small).ge

theorem send_transmits (network : Network) {datagram : Datagram} (empty : datagram.samples = []) (sender : Sender) :
    Transmits sender (send network datagram sender).2 [] := by
  unfold send
  split
  · rw [← empty]
    exact .one sender.stream datagram rfl rfl
  · exact .nothing rfl (List.suffix_cons _ _) rfl

theorem recvAcknowledge_transmits (network : Network) (left : Nat) (sender : Sender) :
    Transmits sender (recvAcknowledge network left sender).2 [] := by
  rw [recvAcknowledge_eq]
  split
  all_goals exact .nothing rfl (List.suffix_cons _ _) rfl

theorem bind_transmits {α β : Type} {first : Sending α} {next : α → Sending β} {sender : Sender}
    (head : Transmits sender (first sender).2 []) (tail : ∀ a after, Transmits after (next a after).2 []) :
    Transmits sender ((first >>= next) sender).2 [] := by
  cases result : first sender with
  | mk answer after =>
    rw [result] at head
    cases answer with
    | ok a =>
      rw [bind_ok result]
      exact head.trans (tail a after)
    | error =>
      rw [bind_error result]
      exact head

theorem now_transmits (network : Network) (sender : Sender) : Transmits sender (now network sender).2 [] :=
  .nothing rfl (List.suffix_refl _) rfl

theorem sendKeepalive_transmits (network : Network) (sender : Sender) :
    Transmits sender (sendKeepalive network sender).2 [] := by
  unfold sendKeepalive
  rw [bind_state]
  refine bind_transmits (.nothing rfl (List.suffix_refl _) rfl) fun _ numbered => ?_
  refine bind_transmits (send_transmits network rfl numbered) fun _ sent => ?_
  exact bind_transmits (now_transmits network sent) fun _ _ => .nothing rfl (List.suffix_refl _) rfl

theorem sendRequest_transmits (network : Network) (command : UInt8) (sender : Sender) :
    Transmits sender (sendRequest network command sender).2 [] := by
  unfold sendRequest
  dsimp only
  split
  all_goals exact .nothing rfl (List.suffix_cons _ _) rfl

theorem ping_transmits (network : Network) (sender : Sender) : Transmits sender (ping network sender).2 [] := by
  unfold ping
  refine bind_transmits (sendRequest_transmits network _ sender) fun _ requested => ?_
  refine bind_transmits (now_transmits network requested) fun _ timed => ?_
  exact bind_transmits (.nothing rfl (List.suffix_refl _) rfl) fun _ stamped => recvAcknowledge_transmits network 0 stamped

theorem close_transmits (network : Network) (sender : Sender) : Transmits sender (close network sender).2 [] := by
  unfold close
  rw [bind_state]
  split
  · exact .nothing rfl (List.suffix_refl _) rfl
  refine bind_transmits (.nothing rfl (List.suffix_refl _) rfl) fun _ closed => ?_
  refine bind_transmits ?_ fun _ told => sendRequest_transmits network _ told
  unfold sendChannelClose
  rw [bind_state]
  exact bind_transmits (.nothing rfl (List.suffix_refl _) rfl) fun _ numbered => send_transmits network rfl numbered

end Sender

namespace ChunkPoints

/-- The samples of a frame. -/
def wire : ChunkPoints → List (List UInt8)
  | xyrgbi points => (framePoints points).map Point.write
  | highRes points => (framePoints points).map Point.write
  | extended points => (framePoints points).map Point.write

variable {network : Network} {sender : Sender}

theorem writeFrame_transmits (delivers : ∀ sends, network.delivers sends = true)
    (wave : sender.stream.frameMode = .wave) (running : sender.stream.scanSpeed ≠ 0) (points : ChunkPoints) :
    ∃ after, points.writeFrame network sender = (.ok (), after) ∧ Transmits sender after points.wire := by
  cases points
  all_goals exact Sender.writeFrame_transmits delivers wave running _

theorem writeFrameWithAck_transmits (delivers : ∀ sends, network.delivers sends = true)
    (wave : sender.stream.frameMode = .wave) (running : sender.stream.scanSpeed ≠ 0) (points : ChunkPoints) :
    ∃ count, Transmits sender (points.writeFrameWithAck network sender).2 (points.wire.take count) ∧
      (points.wire.length ≤ count ∨ 69 < points.wire.length ∧
        ∃ earlier, (points.writeFrameWithAck network sender).2.log =
          .ackAwaited (points.wire.length - count) false :: earlier) := by
  cases points
  all_goals
    simp only [wire, List.length_map, ← List.map_take]
    exact Sender.writeFrameWithAck_transmits delivers wave running _

end ChunkPoints

/-! ### Whole chunks -/

/-- An acknowledgement is missed only when nothing is left to be sent. -/
@[reducible] def NothingLeft : Event → List Event → Prop
  | .ackAwaited left received, _ => received = true ∨ left = 0
  | _, _ => True

instance : ∀ event earlier, Decidable (NothingLeft event earlier) := Event.decidableLaw

/-- The chunks that were written, the oldest first. -/
def writtenChunks : List WorkerEvent → List QueuedChunk
  | [] => []
  | .wrote _ chunk _ :: earlier => writtenChunks earlier ++ [chunk]
  | _ :: earlier => writtenChunks earlier

namespace Worker

variable {network : Network} {worker : Worker}

/-- The worker writes waves, and what has gone out is what it has written. -/
structure Whole (worker : Worker) : Prop where
  mode : worker.sender.stream.frameMode = .wave
  whole : Always NothingLeft worker.sender.log →
    wireOf (outgoing worker.sender.log) = (writtenChunks worker.log).flatMap fun chunk => chunk.points.wire

theorem Whole.transmits (whole : Whole worker) {after : Worker} {samples : List (List UInt8)}
    (transmits : Transmits worker.sender after.sender samples)
    (log : Always NothingLeft after.sender.log →
      (writtenChunks after.log).flatMap (fun chunk => chunk.points.wire) =
        (writtenChunks worker.log).flatMap (fun chunk => chunk.points.wire) ++ samples) : Whole after := by
  refine ⟨transmits.mode.trans whole.mode, fun nothing => ?_⟩
  obtain ⟨sent, outs, wired⟩ := transmits.sent
  rw [outs, wireOf_append, wired, whole.whole (nothing.of_suffix transmits.log), log nothing]

theorem Whole.leave (whole : Whole worker) : Whole (worker.leave network) :=
  whole.transmits (Sender.close_transmits network worker.sender) fun _ => (List.append_nil _).symm

theorem Whole.acknowledged (whole : Whole worker) (received : Bool) (now : Nat) :
    Whole (worker.acknowledged network received now) := by
  have counted : ∀ misses, Whole { worker with misses := misses, lastAckCheck := some now } := fun _ =>
    ⟨whole.mode, whole.whole⟩
  unfold Worker.acknowledged
  split
  · exact counted 0
  · dsimp only
    split
    · exact (counted _).leave
    · exact counted _

theorem Whole.handle (whole : Whole worker) (command : WorkerCommand) : Whole (worker.handle network command) := by
  unfold Worker.handle
  dsimp only
  split
  · exact ⟨whole.mode, whole.whole⟩
  · exact Whole.leave ⟨whole.mode, whole.whole⟩

/-- Without send errors a write sends the chunk whole, or an acknowledgement is missed while points are left. -/
theorem write_cases (delivers : ∀ sends, network.delivers sends = true)
    (wave : worker.sender.stream.frameMode = .wave) (index : Nat) (chunk : QueuedChunk)
    (rest : List (Nat × QueuedChunk)) :
    ∃ sender samples, Transmits worker.sender sender samples ∧
      (samples = chunk.points.wire ∨ 69 < chunk.points.wire.length ∧ ¬ Always NothingLeft sender.log) ∧
      (worker.write network index chunk rest = worker.wrote index chunk rest sender ∨
        ∃ received now, worker.write network index chunk rest =
          (worker.wrote index chunk rest sender).acknowledged network received now) := by
  unfold Worker.write
  dsimp only
  generalize same : ({ worker.sender.setScanSpeed chunk.pps with
    reads := (worker.sender.setScanSpeed chunk.pps).reads + 1 } : Sender) = before
  have rated : Transmits worker.sender before [] := by
    rw [← same]
    exact .nothing rfl (List.suffix_refl _) rfl
  have running : before.stream.scanSpeed ≠ 0 := by
    rw [← same]
    exact chunk.pps.ne_zero
  split
  · obtain ⟨count, transmits, cut⟩ :=
      chunk.points.writeFrameWithAck_transmits delivers (rated.mode.trans wave) running
    refine ⟨_, _, rated.trans transmits, ?_, .inr ⟨_, _, rfl⟩⟩
    rw [List.nil_append]
    rcases cut with all | ⟨many, earlier, log⟩
    · exact .inl (List.take_of_length_le all)
    · by_cases all : chunk.points.wire.length ≤ count
      · exact .inl (List.take_of_length_le all)
      · refine .inr ⟨many, fun nothing => ?_⟩
        rw [log] at nothing
        rcases nothing.1 with received | none
        · cases received
        · omega
  · obtain ⟨after, result, transmits⟩ := chunk.points.writeFrame_transmits delivers (rated.mode.trans wave) running
    refine ⟨after, _, rated.trans transmits, .inl (List.nil_append _), .inl ?_⟩
    rw [result]
    rfl

theorem Whole.write (whole : Whole worker) (delivers : ∀ sends, network.delivers sends = true) (index : Nat)
    (chunk : QueuedChunk) (rest : List (Nat × QueuedChunk)) : Whole (worker.write network index chunk rest) := by
  obtain ⟨sender, samples, transmits, complete, written⟩ := write_cases delivers whole.mode index chunk rest
  have wrote : Whole (worker.wrote index chunk rest sender) := by
    refine whole.transmits transmits fun nothing => ?_
    have all : samples = chunk.points.wire := complete.resolve_right fun cut => cut.2 nothing
    rw [all]
    exact List.flatMap_append.trans (congrArg _ (List.flatMap_singleton _ _))
  rcases written with same | ⟨received, now, same⟩
  · rw [same]
    exact wrote
  · rw [same]
    exact wrote.acknowledged received now

/-- An idle worker sends no points. -/
theorem idle_cases (network : Network) (worker : Worker) :
    ∃ sender, Transmits worker.sender sender [] ∧
      (worker.idle network = { worker with sender := sender, phase := .draining } ∨
        worker.idle network = { worker with sender := sender }.leave network ∨
        ∃ received now, worker.idle network =
          { worker with sender := sender, phase := .draining }.acknowledged network received now) := by
  have read : ∀ sender : Sender, Transmits sender { sender with reads := sender.reads + 1 } [] := fun _ =>
    .nothing rfl (List.suffix_refl _) rfl
  have kept : ∀ now (sender : Sender), Transmits sender (if sender.stream.needsKeepalive now then
      Sender.sendKeepalive network sender else (.ok (), sender)).2 [] := by
    intro now sender
    split
    · exact Sender.sendKeepalive_transmits network sender
    · exact .nothing rfl (List.suffix_refl _) rfl
  have first := (read worker.sender).trans (kept (network.clock worker.sender.reads) _)
  unfold Worker.idle
  dsimp only
  generalize (if ({ worker.sender with reads := worker.sender.reads + 1 } : Sender).stream.needsKeepalive
    (network.clock worker.sender.reads) then Sender.sendKeepalive network { worker.sender with
      reads := worker.sender.reads + 1 } else (.ok (), { worker.sender with reads := worker.sender.reads + 1 })) = alive
    at first ⊢
  obtain ⟨answer, sender⟩ := alive
  dsimp only at first ⊢
  split
  · have second := first.trans (read sender)
    split
    · exact ⟨_, second.trans (Sender.ping_transmits network _), .inr (.inr ⟨_, _, rfl⟩)⟩
    · exact ⟨_, second, .inl rfl⟩
  · exact ⟨_, first, .inr (.inl rfl)⟩

theorem Whole.idle (whole : Whole worker) : Whole (worker.idle network) := by
  obtain ⟨sender, transmits, cases⟩ := idle_cases network worker
  have silent : ∀ phase, Whole { worker with sender := sender, phase := phase } := fun _ =>
    whole.transmits transmits fun _ => (List.append_nil _).symm
  rcases cases with same | same | ⟨received, now, same⟩
  · rw [same]
    exact silent _
  · rw [same]
    exact (silent worker.phase).leave
  · rw [same]
    exact (silent _).acknowledged received now

theorem Whole.step (whole : Whole worker) (delivers : ∀ sends, network.delivers sends = true) (poll : Poll) :
    Whole (worker.step network poll) := by
  unfold Worker.step
  split
  · exact whole
  · exact whole.handle _
  · exact Whole.leave ⟨whole.mode, whole.whole⟩
  · split
    · exact whole.write delivers _ _ _
    · exact ⟨whole.mode, whole.whole⟩
  · exact whole.idle

theorem Whole.run (whole : Whole worker) (delivers : ∀ sends, network.delivers sends = true) (polls : List Poll) :
    Whole (Worker.run network polls worker) := by
  induction polls generalizing worker with
  | nil => exact whole
  | cons poll polls ih => exact ih (whole.step delivers poll)

end Worker

theorem Sender.ping_settings (network : Network) (sender : Sender) :
    (ping network sender).2.stream.settings = sender.stream.settings := by
  have request : (sendRequest network idncmdPingRequest sender).2.stream.settings = sender.stream.settings := by
    unfold sendRequest
    dsimp only
    split
    all_goals rfl
  unfold ping
  cases result : sendRequest network idncmdPingRequest sender with
  | mk answer requested =>
    rw [result] at request
    cases answer with
    | ok _ =>
      rw [bind_ok result, bind_ok (rfl : now network requested = _), bind_update, recvAcknowledge_eq]
      split
      all_goals exact request
    | error =>
      rw [bind_error result]
      exact request

theorem reachable_settings {network : Network} {attempts : Nat} {sender after : Sender}
    (found : reachable network attempts sender = some after) :
    after.stream.settings = sender.stream.settings ∧ Transmits sender after [] := by
  induction attempts generalizing sender with
  | zero => cases found
  | succ attempts ih =>
    have settings := Sender.ping_settings network sender
    have silent := Sender.ping_transmits network sender
    rw [reachable] at found
    cases result : Sender.ping network sender with
    | mk answer =>
      rw [result] at found settings silent
      cases answer with
      | ok =>
        obtain rfl := Option.some.inj found
        exact ⟨settings, silent⟩
      | error =>
        obtain ⟨rest, silence⟩ := ih found
        exact ⟨rest.trans settings, silent.trans silence⟩

section

variable {network : Network} {serviceId : UInt8} {format : PointFormat} {connectTime : Nat} {sender : Sender}

section

variable (connected : connect network serviceId format connectTime = some sender)

include connected

theorem connect_settings :
    sender.stream.settings = (format, serviceId, .wave, 30000) := (reachable_settings connected).1

theorem connect_running : sender.stream.scanSpeed ≠ 0 := by
  have settings := connect_settings connected
  simp only [Stream.settings, Prod.mk.injEq] at settings
  omega

theorem connect_wave : sender.stream.frameMode = .wave := by
  have settings := connect_settings connected
  simp only [Stream.settings, Prod.mk.injEq] at settings
  exact settings.2.2.1

theorem connect_outgoing : wireOf (outgoing sender.log) = [] := by
  obtain ⟨sent, outs, wired⟩ := (reachable_settings connected).2.sent
  rw [outs, wireOf_append, wired]
  rfl

end

end

/-- In every run of the worker without send errors in which no acknowledgement is missed while points of a chunk are
left to be sent, what goes out is the chunks it takes from its queue, each whole and one after the other. -/
theorem chunks_go_out_whole (network : Network) (delivers : ∀ sends, network.delivers sends = true)
    (serviceId : UInt8) (format : PointFormat) (connectTime : Nat) (sender : Sender)
    (connected : connect network serviceId format connectTime = some sender) (polls : List Poll)
    (nothingLeft : Always NothingLeft
      (Worker.run network polls (.start sender format (connect_running connected))).sender.log) :
    let worker := Worker.run network polls (.start sender format (connect_running connected))
    wireOf (outgoing worker.sender.log) = (writtenChunks worker.log).flatMap fun chunk => chunk.points.wire := by
  have start : Worker.Whole (.start sender format (connect_running connected)) :=
    ⟨connect_wave connected, fun _ => connect_outgoing connected⟩
  exact (start.run delivers polls).whole nothingLeft

/-- Two chunks, the first of them in two datagrams because the config is due. -/
theorem chunks_go_out_whole_two_chunks :
    ∃ sender, ∃ connected : connect (steadyNetwork fun _ => true) 1 .xyrgbi 0 = some sender,
      let worker := Worker.run (steadyNetwork fun _ => true)
        [.command (.chunk (buildChunk 30000 (.xyrgbi (List.replicate 179 ⟨0, 0, 0, 0, 0, 0⟩)))), .empty,
          .command (.chunk (buildChunk 30000 (.xyrgbi [⟨0, 0, 0, 0, 0, 0⟩]))), .empty]
        (.start sender .xyrgbi (connect_running connected))
      wireOf (outgoing worker.sender.log) = (writtenChunks worker.log).flatMap fun chunk => chunk.points.wire := by
  refine ⟨(connect (steadyNetwork fun _ => true) 1 .xyrgbi 0).get (by decide +kernel), (Option.some_get _).symm, ?_⟩
  exact chunks_go_out_whole _ (fun _ => rfl) 1 .xyrgbi 0 _ (Option.some_get _).symm _ (by decide +kernel)

/-- A network on which only the first answer arrives. -/
def deafNetwork : Network where
  clock reads := 10000000 * reads
  delivers _ := true
  acknowledges waits := waits = 0

/-- The first chunk, of the size that the backend allows, is split because the config is due. Its acknowledgement is
missed once, the second half of it is not sent, and the worker goes on with the next chunk. -/
theorem chunk_is_cut :
    maxPointsPerChunkFor .xyrgbi = 179 ∧
    ∃ sender, ∃ connected : connect deafNetwork 1 .xyrgbi 0 = some sender,
      let worker := Worker.run deafNetwork
        [.command (.chunk (buildChunk 30000 (.xyrgbi (List.replicate 179 ⟨0, 0, 0, 0, 0, 0⟩)))), .empty,
          .command (.chunk (buildChunk 30000 (.xyrgbi [⟨0, 0, 0, 0, 0, 0⟩]))), .empty]
        (.start sender .xyrgbi (connect_running connected))
      worker.misses < maxConsecutiveAckMisses ∧ worker.phase = .draining ∧
      (wireOf (outgoing worker.sender.log)).length = 89 + 20 ∧
      wireOf (outgoing worker.sender.log) ≠ (writtenChunks worker.log).flatMap fun chunk => chunk.points.wire := by
  refine ⟨by decide +kernel, (connect deafNetwork 1 .xyrgbi 0).get (by decide +kernel), (Option.some_get _).symm, ?_⟩
  decide +kernel

end LaserDac.Idn
