import LaserDac.EtherDreamStream

/-!
Reading replies. However the bytes of the replies are cut into reads, and whatever interrupts and timeouts come
between, one reply is read for each command that was sent, its bytes and no others are taken, and the first refusal
is reported after all replies have been read.
-/

namespace LaserDac.EtherDream

open Bytes Runs Runs.Run

variable {σ : Type}

/-! ### One frame -/

/-- These reads deliver the bytes that are missing: short reads, interrupts, and timeouts within the budget. -/
def Covers : Nat → List ReadOutcome → Prop
  | 0, _ => True
  | _ + 1, [] => False
  | need + 1, .data n :: outcomes => 0 < n ∧ Covers (need + 1 - n) outcomes
  | need + 1, .interrupted :: outcomes => Covers (need + 1) outcomes
  | need + 1, .timedOut elapsed :: outcomes => elapsed < Wire.readBudget ∧ Covers (need + 1) outcomes
  | _ + 1, .failed :: _ => False

/-- Every frame is delivered, in whatever pieces. -/
def Env.Prompt (env : Env σ) : Prop := ∀ tick, Covers DacResponse.sizeBytes (env.reads tick)

theorem le_foldl_max (bytes : List (UInt8 × Nat)) (clock : Nat) :
    clock ≤ bytes.foldl (fun clock byte => max clock byte.2) clock ∧
      ∀ byte ∈ bytes, byte.2 ≤ bytes.foldl (fun clock byte => max clock byte.2) clock := by
  induction bytes generalizing clock with
  | nil => exact ⟨le_rfl, by simp⟩
  | cons first bytes ih =>
    obtain ⟨later, each⟩ := ih (max clock first.2)
    refine ⟨Nat.le_trans (Nat.le_max_left _ _) later, fun byte mem => ?_⟩
    rcases List.mem_cons.mp mem with rfl | mem
    · exact Nat.le_trans (Nat.le_max_right _ _) later
    · exact each byte mem

/-- The loop takes exactly the missing bytes off the connection, and is not over before the last of them was sent. -/
theorem readLoop_covers (start : Nat) (outcomes : List ReadOutcome) (need : Nat) (read : List UInt8) (s : Socket σ)
    (covers : Covers need outcomes) (enough : need ≤ s.incoming.length) :
    ∃ clock, s.clock ≤ clock ∧ (∀ byte ∈ s.incoming.take need, byte.2 ≤ clock) ∧
      readLoop Wire.readBudget start outcomes need read s =
        (some (.ok (read ++ (s.incoming.take need).map Prod.fst)),
          { s with incoming := s.incoming.drop need, clock }) := by
  induction outcomes generalizing need read s with
  | nil =>
    cases need with
    | zero => exact ⟨s.clock, le_rfl, by simp, by simp [readLoop]; rfl⟩
    | succ => exact covers.elim
  | cons outcome outcomes ih =>
    cases need with
    | zero => exact ⟨s.clock, le_rfl, by simp, by simp [readLoop]; rfl⟩
    | succ need =>
      cases outcome with
      | data n =>
        obtain ⟨positive, onward⟩ := covers
        obtain ⟨k, kEq⟩ : ∃ k, k = min n (need + 1) := ⟨_, rfl⟩
        have size : (s.incoming.take k).length = k := by
          rw [List.length_take]
          omega
        have some_ : s.incoming.take k ≠ [] := by
          intro empty
          rw [empty] at size
          simp only [List.length_nil] at size
          omega
        have rest : need + 1 - n = need + 1 - k := by omega
        obtain ⟨now, each⟩ := le_foldl_max (s.incoming.take k) s.clock
        rw [rest] at onward
        obtain ⟨clock, later, times, result⟩ := ih (need + 1 - k) (read ++ (s.incoming.take k).map Prod.fst)
          { s with
            incoming := s.incoming.drop k
            clock := (s.incoming.take k).foldl (fun clock byte => max clock byte.2) s.clock }
          onward (by rw [List.length_drop]; omega)
        have parts : s.incoming.take (need + 1) = s.incoming.take k ++ (s.incoming.drop k).take (need + 1 - k) := by
          rw [← List.take_add]
          congr 1
          omega
        refine ⟨clock, Nat.le_trans now later, fun byte mem => ?_, ?_⟩
        · rw [parts] at mem
          rcases List.mem_append.mp mem with mem | mem
          · exact Nat.le_trans (each byte mem) later
          · exact times byte mem
        · rw [readLoop]
          simp only [← kEq, if_neg some_, size, result, parts, List.map_append, List.append_assoc, List.drop_drop]
          have whole : k + (need + 1 - k) = need + 1 := by omega
          rw [whole]
      | interrupted => exact ih (need + 1) read s covers enough
      | timedOut elapsed =>
        obtain ⟨inTime, onward⟩ := covers
        obtain ⟨clock, later, times, result⟩ :=
          ih (need + 1) read { s with clock := max s.clock (start + elapsed) } onward enough
        refine ⟨clock, Nat.le_trans (Nat.le_max_left _ _) later, times, ?_⟩
        rw [readLoop]
        simp only [if_neg (Nat.not_le.mpr inTime)]
        exact result
      | failed => exact covers.elim

/-- What reading leaves of a socket that had these bytes to give: they are gone, and time has passed. -/
structure Consumed (count : Nat) (s after : Socket σ) : Prop where
  incoming : after.incoming = s.incoming.drop count
  clock : s.clock ≤ after.clock
  arrived : ∀ byte ∈ s.incoming.take count, byte.2 ≤ after.clock
  peer : after.peer = s.peer
  peerTime : after.peerTime = s.peerTime
  sent : after.sent = s.sent

theorem Consumed.trans {first second : Nat} {s middle after : Socket σ} (one : Consumed first s middle)
    (two : Consumed second middle after) : Consumed (first + second) s after where
  incoming := by rw [two.incoming, one.incoming, List.drop_drop]
  clock := Nat.le_trans one.clock two.clock
  arrived := fun byte mem => by
    rw [List.take_add, List.mem_append, ← one.incoming] at mem
    rcases mem with mem | mem
    · exact Nat.le_trans (one.arrived byte mem) two.clock
    · exact two.arrived byte mem
  peer := two.peer.trans one.peer
  peerTime := two.peerTime.trans one.peerTime
  sent := two.sent.trans one.sent

variable {env : Env σ}

theorem readExactWithBudget_prompt (prompt : env.Prompt) {s : Socket σ}
    (enough : DacResponse.sizeBytes ≤ s.incoming.length) :
    ∃ after, readExactWithBudget env Wire.readBudget DacResponse.sizeBytes s =
        (some (.ok ((s.incoming.take DacResponse.sizeBytes).map Prod.fst)), after) ∧
      Consumed DacResponse.sizeBytes s after ∧ after.log = s.log := by
  obtain ⟨clock, later, times, result⟩ := readLoop_covers (s.clock + env.pause s.tick) (env.reads (s.tick + 1))
    DacResponse.sizeBytes [] { s with clock := s.clock + env.pause s.tick, tick := s.tick + 2 } (prompt _) enough
  refine ⟨_, result, ⟨rfl, ?_, times, rfl, rfl, rfl⟩, rfl⟩
  exact Nat.le_trans (Nat.le_add_right _ _) later

namespace Wire

/-- What reading replies leaves of a stream: it has another status. -/
def Refreshed (status : Status) (stream after : Stream) : Prop :=
  after = { stream with dac := { stream.dac with status } }

theorem recvResponse_frame (prompt : env.Prompt) (expected : UInt8) (attempts : Nat) {wire : Wire σ}
    {frame : DacResponse} {status : Status} (rest : List UInt8)
    (front : wire.socket.incoming.map Prod.fst = frame.write ++ rest)
    (valid : Status.fromProtocol frame.dacStatus = .ok status) :
    ∃ after : Wire σ, Refreshed status wire.stream after.stream ∧
      Consumed DacResponse.sizeBytes wire.socket after.socket ∧ after.socket.log = wire.socket.log ∧
      recvResponse env expected (attempts + 1) wire =
        (if frame.command = expected then (some (frame.checkErrors expected), after)
        else if frame.response = DacResponse.ack ∨ frame.response = DacResponse.nakInvalid then
          recvResponse env expected attempts after
        else (some (.error (.response frame (.unexpectedCommand frame.command))), after)) := by
  have size : frame.write.length = DacResponse.sizeBytes := frame.write_length
  have enough : DacResponse.sizeBytes ≤ wire.socket.incoming.length := by
    have := congrArg List.length front
    rw [List.length_map, List.length_append] at this
    omega
  have taken : (wire.socket.incoming.take DacResponse.sizeBytes).map Prod.fst = frame.write := by
    rw [List.map_take, front, ← size, List.take_left]
  obtain ⟨socket, read, consumed, log⟩ := readExactWithBudget_prompt prompt enough
  rw [taken] at read
  have parsed : DacResponse.read.run frame.write = some (frame, []) := by
    simpa using DacResponse.reads frame []
  refine ⟨setStatus status { wire with socket }, rfl, consumed, log, ?_⟩
  have first : onSocket (readExactWithBudget env readBudget DacResponse.sizeBytes) wire =
      (some (.ok frame.write), { wire with socket }) := by
    simp only [onSocket, zoom, read]
  rw [recvResponse, bind_of_result first]
  simp only [parsed, valid]
  rw [bind_update]
  split
  · rfl
  · split <;> rfl

end Wire

/-! ### Answers -/

/-- What arrives for one command: frames nobody asked for, and the reply. -/
structure Answer where
  unsolicited : List DacResponse
  reply : DacResponse
  status : Status

namespace Answer

/-- The reply comes after the frames nobody asked for. -/
def bytes (answer : Answer) : List UInt8 := answer.unsolicited.flatMap DacResponse.write ++ answer.reply.write

def size (answer : Answer) : Nat := DacResponse.sizeBytes * (answer.unsolicited.length + 1)

theorem bytes_length (answer : Answer) : answer.bytes.length = answer.size := by
  simp only [bytes, size, List.length_append, List.length_flatMap, DacResponse.write_length, List.map_const',
    List.sum_replicate, smul_eq_mul]
  ring

theorem bytes_size (answers : List Answer) : (answers.flatMap bytes).length = (answers.map size).sum := by
  rw [List.length_flatMap]
  exact congrArg List.sum (List.map_congr_left fun answer _ => answer.bytes_length)

/-- The reply is for this command and is an acknowledgement or a refusal. At most five other frames come first,
acknowledgements or refusals of other commands. All of them have a status. -/
structure For (command : UInt8) (answer : Answer) : Prop where
  few : answer.unsolicited.length ≤ Wire.maxRetries
  other : ∀ frame ∈ answer.unsolicited, frame.command ≠ command
  skipped : ∀ frame ∈ answer.unsolicited, frame.response = DacResponse.ack ∨ frame.response = DacResponse.nakInvalid
  valid : ∀ frame ∈ answer.unsolicited, ∃ status, Status.fromProtocol frame.dacStatus = .ok status
  command : answer.reply.command = command
  code : answer.reply.response = DacResponse.ack ∨ (Nak.fromProtocol answer.reply.response).isSome
  status : Status.fromProtocol answer.reply.dacStatus = .ok answer.status

/-- The refusal that the reply is. -/
def refusal (answer : Answer) : Option CommunicationError :=
  (Nak.fromProtocol answer.reply.response).map fun nak => .response answer.reply (.nak nak)

end Answer

namespace Wire

theorem recvResponse_answer (prompt : env.Prompt) {expected : UInt8} {reply : DacResponse} {status : Status}
    (own : reply.command = expected) (valid : Status.fromProtocol reply.dacStatus = .ok status)
    (unsolicited : List DacResponse) (attempts : Nat) (wire : Wire σ) (rest : List UInt8)
    (few : unsolicited.length ≤ attempts) (other : ∀ frame ∈ unsolicited, frame.command ≠ expected)
    (skipped : ∀ frame ∈ unsolicited, frame.response = DacResponse.ack ∨ frame.response = DacResponse.nakInvalid)
    (known : ∀ frame ∈ unsolicited, ∃ status, Status.fromProtocol frame.dacStatus = .ok status)
    (front : wire.socket.incoming.map Prod.fst = unsolicited.flatMap DacResponse.write ++ reply.write ++ rest) :
    ∃ after : Wire σ, recvResponse env expected (attempts + 1) wire = (some (reply.checkErrors expected), after) ∧
      Refreshed status wire.stream after.stream ∧
      Consumed (DacResponse.sizeBytes * (unsolicited.length + 1)) wire.socket after.socket ∧
      after.socket.log = wire.socket.log := by
  induction unsolicited generalizing wire attempts with
  | nil =>
    obtain ⟨after, refreshed, consumed, log, result⟩ :=
      recvResponse_frame prompt expected attempts rest (by simpa using front) valid
    rw [if_pos own] at result
    exact ⟨after, result, refreshed, consumed, log⟩
  | cons frame unsolicited ih =>
    obtain ⟨attempts, rfl⟩ : ∃ fewer, attempts = fewer + 1 := ⟨attempts - 1, by simp at few; omega⟩
    obtain ⟨stale, validFrame⟩ := known frame (List.mem_cons_self ..)
    obtain ⟨middle, first, one, log, result⟩ :=
      recvResponse_frame prompt expected (attempts + 1) (unsolicited.flatMap DacResponse.write ++ reply.write ++ rest)
        (by simpa using front) validFrame
    rw [if_neg (other frame (List.mem_cons_self ..)), if_pos (skipped frame (List.mem_cons_self ..))] at result
    have onward : middle.socket.incoming.map Prod.fst =
        unsolicited.flatMap DacResponse.write ++ reply.write ++ rest := by
      rw [one.incoming, List.map_drop, front, List.flatMap_cons, List.append_assoc, List.append_assoc,
        ← frame.write_length, List.drop_left, List.append_assoc]
    obtain ⟨after, answer, second, two, sameLog⟩ := ih attempts middle (by simpa using few)
      (fun frame mem => other frame (List.mem_cons_of_mem _ mem))
      (fun frame mem => skipped frame (List.mem_cons_of_mem _ mem))
      (fun frame mem => known frame (List.mem_cons_of_mem _ mem)) onward
    refine ⟨after, result.trans answer, ?_, ?_, sameLog.trans log⟩
    · rw [Refreshed] at first second ⊢
      rw [second, first]
    · have both := one.trans two
      have total : DacResponse.sizeBytes + DacResponse.sizeBytes * (unsolicited.length + 1) =
          DacResponse.sizeBytes * ((frame :: unsolicited).length + 1) := by
        rw [List.length_cons]
        ring
      rwa [total] at both

theorem checkErrors_answer {command : UInt8} {answer : Answer} (good : answer.For command) :
    answer.reply.checkErrors command = verdict answer.refusal := by
  rw [DacResponse.checkErrors, if_neg (not_not.mpr good.command), Answer.refusal]
  cases Nak.fromProtocol answer.reply.response <;> rfl

/-- What is left once the replies have been read: the status, and when it was asked for and received, are those of
the last reply. -/
structure Answered (sent : List (UInt8 × Nat)) (answers : List Answer) (wire after : Wire σ) : Prop where
  consumed : Consumed (answers.map Answer.size).sum wire.socket after.socket
  log : ∃ times : List Nat, after.socket.log = times.map Event.replied ++ wire.socket.log
  queue : after.stream.commandBuffer = wire.stream.commandBuffer ∧ after.stream.pointBuffer = wire.stream.pointBuffer
  dac : after.stream.dac = { wire.stream.dac with status := after.stream.dac.status }
  empty : sent = [] → after = wire
  status : ∀ answer, answers.getLast? = some answer → after.stream.dac.status = answer.status
  sentAt : ∀ byte, sent.getLast? = some byte → after.stream.statusSentAt = byte.2
  receivedAt : sent ≠ [] → after.stream.statusReceivedAt ≤ after.socket.clock ∧
    wire.socket.clock ≤ after.stream.statusReceivedAt ∧
    ∀ byte ∈ wire.socket.incoming.take (answers.map Answer.size).sum, byte.2 ≤ after.stream.statusReceivedAt

theorem Answered.nil (wire : Wire σ) : Answered [] [] wire wire where
  consumed := ⟨(List.drop_zero ..).symm, le_rfl, by simp, rfl, rfl, rfl⟩
  log := ⟨[], rfl⟩
  queue := ⟨rfl, rfl⟩
  dac := rfl
  empty := fun _ => rfl
  status := by simp
  sentAt := by simp
  receivedAt := by simp

theorem Answered.cons {byte : UInt8 × Nat} {answer : Answer} {sent : List (UInt8 × Nat)} {answers : List Answer}
    {wire read after : Wire σ} {receivedAt : Nat} (good : answers.length = sent.length)
    (refreshed : Refreshed answer.status wire.stream read.stream)
    (consumed : Consumed answer.size wire.socket read.socket) (log : read.socket.log = wire.socket.log)
    (time : read.socket.clock = receivedAt) (answered : Answered sent answers (stamp byte.2 receivedAt read) after) :
    Answered (byte :: sent) (answer :: answers) wire after := by
  have step : Consumed answer.size wire.socket (stamp byte.2 receivedAt read).socket :=
    ⟨consumed.incoming, consumed.clock, consumed.arrived, consumed.peer, consumed.peerTime, consumed.sent⟩
  have whole := step.trans answered.consumed
  obtain ⟨times, logged⟩ := answered.log
  rw [Refreshed] at refreshed
  exact {
    consumed := by
      rw [List.map_cons, List.sum_cons]
      exact whole
    log := ⟨times ++ [receivedAt], by
      rw [logged]
      simp [stamp, log]⟩
    queue := by
      rw [answered.queue.1, answered.queue.2]
      simp [stamp, refreshed]
    dac := by
      rw [answered.dac]
      simp [stamp, refreshed]
    empty := by simp
    status := fun last eq => by
      cases answers with
      | nil =>
        obtain rfl : answer = last := by simpa using eq
        rw [answered.empty (List.length_eq_zero_iff.mp good.symm)]
        simp [stamp, refreshed]
      | cons => exact answered.status last (by simpa using eq)
    sentAt := fun last eq => by
      cases sent with
      | nil =>
        obtain rfl : byte = last := by simpa using eq
        rw [answered.empty rfl]
        rfl
      | cons => exact answered.sentAt last (by simpa using eq)
    receivedAt := fun _ => by
      have clock : wire.socket.clock ≤ receivedAt := time ▸ consumed.clock
      have arrived : ∀ byte ∈ wire.socket.incoming.take answer.size, byte.2 ≤ receivedAt := time ▸ consumed.arrived
      cases sent with
      | nil =>
        obtain rfl : answers = [] := List.length_eq_zero_iff.mp good
        rw [answered.empty rfl]
        have only : ([answer].map Answer.size).sum = answer.size := by simp
        rw [only]
        exact ⟨Nat.le_of_eq time.symm, clock, arrived⟩
      | cons =>
        obtain ⟨past, later, others⟩ := answered.receivedAt (by simp)
        have later : receivedAt ≤ after.stream.statusReceivedAt := Nat.le_trans (Nat.le_of_eq time.symm) later
        refine ⟨past, Nat.le_trans clock later, fun byte mem => ?_⟩
        rw [List.map_cons, List.sum_cons, List.take_add, List.mem_append] at mem
        rcases mem with mem | mem
        · exact Nat.le_trans (arrived byte mem) later
        · refine others byte ?_
          rw [← consumed.incoming] at mem
          exact mem }

theorem recvAll_answers (prompt : env.Prompt) (sent : List (UInt8 × Nat)) (answers : List Answer)
    (good : List.Forall₂ (fun byte answer => Answer.For byte.1 answer) sent answers)
    (firstNak : Option CommunicationError) (wire : Wire σ) (rest : List UInt8)
    (front : wire.socket.incoming.map Prod.fst = answers.flatMap Answer.bytes ++ rest) :
    ∃ after, recvAll env sent firstNak wire =
        (some (verdict (firstNak.or (answers.findSome? Answer.refusal))), after) ∧
      Answered sent answers wire after := by
  induction good generalizing firstNak wire with
  | nil =>
    refine ⟨wire, ?_, .nil wire⟩
    rw [List.findSome?_nil, Option.or_none]
    rfl
  | @cons byte answer sent answers own good ih =>
    obtain ⟨commandByte, sentAt⟩ := byte
    obtain ⟨read, result, refreshed, consumed, log⟩ := recvResponse_answer prompt own.command own.status
      answer.unsolicited maxRetries wire (answers.flatMap Answer.bytes ++ rest) own.few own.other own.skipped own.valid
      (by rw [front, List.flatMap_cons, List.append_assoc]; rfl)
    obtain ⟨clock, clockEq⟩ : ∃ clock, clock = read.socket.clock + env.pause read.socket.tick := ⟨_, rfl⟩
    obtain ⟨timed, timedEq⟩ : ∃ timed : Wire σ, timed =
        { read with socket := { read.socket with clock, tick := read.socket.tick + 1 } } := ⟨_, rfl⟩
    have tick : onSocket (instant env) read = (some clock, timed) := by
      rw [timedEq, clockEq]
      rfl
    have passed : read.socket.clock ≤ timed.socket.clock := by
      rw [timedEq, clockEq]
      exact Nat.le_add_right _ _
    have consumed : Consumed answer.size wire.socket timed.socket := by
      rw [timedEq] at passed ⊢
      exact ⟨consumed.incoming, Nat.le_trans consumed.clock passed,
        fun byte mem => Nat.le_trans (consumed.arrived byte mem) passed, consumed.peer, consumed.peerTime, consumed.sent⟩
    have size : answer.bytes.length = answer.size := answer.bytes_length
    have onward : (stamp sentAt clock timed).socket.incoming.map Prod.fst = answers.flatMap Answer.bytes ++ rest := by
      change timed.socket.incoming.map Prod.fst = _
      rw [consumed.incoming, List.map_drop, front, List.flatMap_cons, List.append_assoc, ← size, List.drop_left]
    obtain ⟨after, rest, answered⟩ := ih (firstNak.or answer.refusal) (stamp sentAt clock timed) onward
    refine ⟨after, ?_, .cons good.length_eq.symm (by rw [timedEq]; exact refreshed) consumed
      (by rw [timedEq]; exact log) (by rw [timedEq]) answered⟩
    rw [recvAll, bind_of_result result, bind_of_result tick, checkErrors_answer own]
    cases code : Nak.fromProtocol answer.reply.response with
    | none =>
      have accepted : answer.refusal = none := by rw [Answer.refusal, code]; rfl
      rw [accepted, Option.or_none] at rest
      simp only [accepted, List.findSome?_cons]
      exact rest
    | some nak =>
      have refused : answer.refusal = some (.response answer.reply (.nak nak)) := by rw [Answer.refusal, code]; rfl
      rw [refused] at rest
      simp only [refused, List.findSome?_cons]
      rw [Option.or_assoc, Option.some_or] at rest
      exact rest

end Wire

end LaserDac.EtherDream
