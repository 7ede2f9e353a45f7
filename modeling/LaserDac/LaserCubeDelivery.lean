import LaserDac.LaserCubeAccounting
import LaserDac.LaserCubeGenerations

/-!
Exactly-once delivery in the LaserCube transport, for a single calling thread: what was emitted, queued and handed
over in the current generation is what was accepted since the last disable.
-/

namespace LaserDac.LaserCube

open Runs

/-- A chunk of the current generation is received only after the disable that opened it was processed. -/
@[reducible] def ReceivedInTurn : Event → List Event → Prop
  | .received chunk generation active, _ => chunk.generation = generation → active = generation
  | _, _ => True

instance : ∀ event earlier, Decidable (ReceivedInTurn event earlier) := Event.decidableLaw

/-- The points of the packets that were sent, the oldest first. -/
def emitted : List Event → List Sample
  | [] => []
  | .packet _ _ samples true :: earlier => emitted earlier ++ samples
  | _ :: earlier => emitted earlier

/-- The points accepted since the newest disable, the oldest first. -/
def acceptedSince : List Event → List Sample
  | [] => []
  | .raised _ _ :: _ => []
  | .accepted chunk :: earlier => acceptedSince earlier ++ chunk.samples
  | _ :: earlier => acceptedSince earlier

def sentPackets : List Event → Nat
  | [] => 0
  | .packet _ _ _ true :: earlier => sentPackets earlier + 1
  | _ :: earlier => sentPackets earlier

/-- Packets are numbered in the order they are sent, and have at most 140 points. -/
def Numbered : Event → List Event → Prop
  | .packet packetSequence _ samples _, earlier =>
    packetSequence = UInt8.ofNat (sentPackets earlier) ∧ samples.length ≤ maxUdpSamples
  | _, _ => True

namespace Transport

/-- The emitted points of the current generation. -/
def delivered (t : Transport) : List Sample := (emitted t.log).filter (·.generation = t.generation)

/-- Everything that was emitted or is on its way, in order. -/
def everything (t : Transport) : List Sample :=
  emitted t.log ++ t.worker.queue ++ t.handedOver.flatMap Enqueue.samples

def Closing (t : Transport) : Prop :=
  t.done = false ∧ (t.worker.running = false ∨ ∃ generation, .shutdown generation ∈ t.priority)

end Transport

structure Conserved (t : Transport) : Prop where
  tags : ∀ sample ∈ emitted t.log ++ t.worker.queue, sample.generation ≤ t.generation
  chunks : ∀ chunk ∈ t.handedOver, chunk.generation ≤ t.generation
  kept : t.everything.filter (·.generation = t.generation) = acceptedSince t.log
  held : ∀ chunk, t.worker.received = some chunk → chunk.generation = t.generation →
    t.worker.activeGeneration = t.generation
  sending : ∀ command, .send command ∈ t.callers → command.enables = false → acceptedSince t.log = []
  closing : t.Closing → t.callers = [.join] ∧ acceptedSince t.log = []

theorem filter_samples (chunk : Enqueue) (generation : Nat) :
    chunk.samples.filter (·.generation = generation) = if chunk.generation = generation then chunk.samples else [] := by
  unfold Enqueue.samples
  split <;> rename_i same <;> simp [List.filter_map, Function.comp_def, same]

variable {chunk : Enqueue} {t' : Transport}

theorem mem_samples_generation {sample : Sample} (member : sample ∈ chunk.samples) :
    sample.generation = chunk.generation := by
  obtain ⟨point, -, rfl⟩ := List.mem_map.mp member
  rfl

variable {t : Transport}

/-- Nothing is of a later generation. -/
theorem Conserved.everything_le (conserved : Conserved t) :
    ∀ sample ∈ t.everything, sample.generation ≤ t.generation := by
  intro sample member
  rcases List.mem_append.mp member with here | coming
  · exact conserved.tags sample here
  · obtain ⟨chunk, handed, among⟩ := List.mem_flatMap.mp coming
    rw [mem_samples_generation among]
    exact conserved.chunks chunk handed

theorem everything_accept (t : Transport) (chunk : Enqueue) :
    (Transport.record (.accepted chunk) { t with channel := t.channel ++ [chunk] }).everything =
      t.everything ++ chunk.samples := by
  simp [Transport.everything, Transport.handedOver, Transport.record, emitted]

theorem Caller.Moves.conserved {caller : Caller} {next : Option Caller}
    (moves : caller.Moves { t with callers := [] } next t') (loads : caller.Loads t.generation)
    (conserved : Conserved { t with callers := [caller] }) :
    Conserved { t' with callers := next.toList ++ t'.callers } := by
  have all := conserved.everything_le
  obtain ⟨tags, chunks, kept, held, sending, closing⟩ := conserved
  have open_ (busy : caller ≠ .join) : ¬ t.Closing := by
    intro closes
    have waits := (closing closes).1
    exact busy (by simpa using waits)
  cases moves with
  | full => exact ⟨tags, chunks, kept, held, by simp, fun closes => absurd closes (open_ (by simp))⟩
  | reserve => exact ⟨tags, chunks, kept, held, by simp, fun closes => absurd closes (open_ (by simp))⟩
  | load | overflow => exact ⟨tags, chunks, kept, held, by simp, fun closes => absurd closes (open_ (by simp))⟩
  | @accept generation pointRate points =>
    have loads : generation = t.generation := loads
    refine ⟨tags, ?_, ?_, held, by simp [Transport.record], fun closes => absurd closes (open_ (by simp))⟩
    · intro chunk member
      rcases List.mem_append.mp member with received | sent
      · exact chunks chunk (List.mem_append_left _ received)
      · rcases List.mem_append.mp sent with earlier | last
        · exact chunks chunk (List.mem_append_right _ earlier)
        · rw [List.mem_singleton.mp last]
          exact Nat.le_of_eq loads
    · refine (congrArg (List.filter _) (everything_accept t { generation, pointRate, points })).trans ?_
      rw [List.filter_append, filter_samples]
      exact congr_arg₂ (· ++ ·) kept (if_pos loads)
  | release => exact ⟨tags, chunks, kept, held, by simp, fun closes => absurd closes (open_ (by simp))⟩
  | enable =>
    refine ⟨tags, chunks, kept, held, ?_, fun closes => absurd closes (open_ (by simp))⟩
    simp [PriorityCommand.enables]
  | disable starts =>
    refine ⟨fun sample member => Nat.le_succ_of_le (tags sample member),
      fun chunk member => Nat.le_succ_of_le (chunks chunk member), ?_, ?_, fun _ _ _ => rfl,
      fun closes => absurd closes (open_ ?_)⟩
    · refine List.filter_eq_nil_iff.mpr fun sample member => ?_
      have earlier := all sample member
      simp only [decide_eq_true_eq]
      exact Nat.ne_of_lt (Nat.lt_succ_of_le earlier)
    · intro chunk received later
      have earlier := chunks chunk (List.mem_append_left _ (Option.mem_toList.mpr received))
      exact absurd later (Nat.ne_of_lt (Nat.lt_succ_of_le earlier))
    · rintro rfl
      exact starts
  | @send command =>
    have dark : command.enables = false → acceptedSince t.log = [] := sending command (by simp)
    refine ⟨tags, chunks, kept, held, ?_, ?_⟩
    · cases command <;> simp [PriorityCommand.sender]
    · rintro ⟨working, stopped | ⟨generation, member⟩⟩
      · exact absurd ⟨working, .inl stopped⟩ (open_ (by simp))
      · rcases List.mem_append.mp member with earlier | last
        · exact absurd ⟨working, .inr ⟨generation, earlier⟩⟩ (open_ (by simp))
        · obtain rfl := List.mem_singleton.mp last
          exact ⟨rfl, dark rfl⟩
  | @lost command ended =>
    refine ⟨tags, chunks, kept, held, ?_, fun closes => absurd (closes.1.symm.trans ended) (by simp)⟩
    cases command <;> simp [PriorityCommand.sender]
  | joined ended =>
    exact ⟨tags, chunks, kept, held, by simp, fun closes => absurd (closes.1.symm.trans ended) (by simp)⟩
  | wait => exact ⟨tags, chunks, kept, held, by simp, closing⟩

theorem Orderly.filter_queue (orderly : Orderly t) (behind : t.worker.activeGeneration < t.generation) :
    t.worker.queue.filter (·.generation = t.generation) = [] := by
  refine List.filter_eq_nil_iff.mpr fun sample member => ?_
  have same := orderly.queue sample member
  simp only [decide_eq_true_eq]
  omega

theorem handedOver_of_received (received : t.worker.received = some chunk) : t.handedOver = chunk :: t.channel := by
  rw [Transport.handedOver, received]
  rfl

theorem conserved_priority {env : Env} {command : PriorityCommand} {rest : List PriorityCommand} (due : Nat)
    (orderly : Orderly t) (conserved : Conserved t) (working : t.done = false) (free : t.worker.received = none)
    (first : t.priority = command :: rest) :
    Conserved { t with
      priority := rest
      state := if command.enables then t.state else t.state.clearHostQueue
      worker := { t.worker with
        queue := if command.enables then t.worker.queue else []
        activeGeneration := command.generation
        outputEnabled := command.enables
        nextFullInfoDue := due
        running := t.worker.running && command.sender.isNone }
      log := t.attempts env (.setOutput command.enables) ++ .processed command t.reserved :: t.log } := by
  obtain ⟨tags, chunks, kept, held, sending, closing⟩ := conserved
  have sent := attempts_ignored (f := emitted) (fun _ _ => rfl) env (.setOutput command.enables) t
    (.processed command t.reserved :: t.log)
  have taken := attempts_ignored (f := acceptedSince) (fun _ _ => rfl) env (.setOutput command.enables) t
    (.processed command t.reserved :: t.log)
  have cleared : (if command.enables then t.worker.queue else []).filter (·.generation = t.generation) =
      t.worker.queue.filter (·.generation = t.generation) := by
    cases lit : command.enables with
    | true => rfl
    | false =>
      have chained := orderly.chain working
      rw [Transport.pending, first] at chained
      obtain ⟨next, later⟩ := chained
      have bound := later.le
      rw [next, lit] at bound
      exact (orderly.filter_queue bound).symm
  refine ⟨?_, chunks, ?_, ?_, ?_, ?_⟩
  · intro sample member
    refine tags sample ?_
    rw [sent] at member
    rcases List.mem_append.mp member with before | queued
    · exact List.mem_append_left _ before
    · refine List.mem_append_right _ ?_
      split at queued
      · exact queued
      · simp at queued
  · rw [Transport.everything, sent, taken, List.filter_append, List.filter_append, cleared, ← List.filter_append,
      ← List.filter_append]
    exact kept
  · simp [free]
  · rw [taken]
    exact sending
  · rw [taken]
    rintro ⟨-, stopped | ⟨generation, member⟩⟩
    · rcases Bool.and_eq_false_iff.mp stopped with stopped | asked
      · exact closing ⟨working, .inl stopped⟩
      · cases command with
        | shutdown generation => exact closing ⟨working, .inr ⟨generation, first ▸ List.mem_cons_self⟩⟩
        | _ => simp [PriorityCommand.sender] at asked
    · exact closing ⟨working, .inr ⟨generation, first ▸ List.mem_cons_of_mem _ member⟩⟩

theorem conserved_stale (conserved : Conserved t) (received : t.worker.received = some chunk)
    (differs : chunk.generation ≠ t.worker.activeGeneration ∨ chunk.generation ≠ t.generation) :
    Conserved { t with
      state := t.state.releaseHostPoints chunk.points.length
      worker := { t.worker with received := none } } := by
  obtain ⟨tags, chunks, kept, held, sending, closing⟩ := conserved
  have older : chunk.generation ≠ t.generation := by
    intro same
    rcases differs with differs | differs
    · exact differs (same.trans (held chunk received same).symm)
    · exact differs same
  have handed := handedOver_of_received received
  refine ⟨tags, fun other member => ?_, ?_, by simp, sending, closing⟩
  · exact chunks other (handed ▸ List.mem_cons_of_mem _ member)
  · rw [Transport.everything, handed, List.flatMap_cons, List.filter_append, List.filter_append chunk.samples,
      filter_samples, if_neg older, List.nil_append, ← List.filter_append] at kept
    exact kept

theorem conserved_fresh (conserved : Conserved t) (received : t.worker.received = some chunk)
    (current : chunk.generation = t.generation) (pointRate currentRate : Nat) (rates : List Nat) :
    Conserved { t with
      state := { t.state with pointRate }
      worker := { t.worker with received := none, currentRate, queue := t.worker.queue ++ chunk.samples }
      log := rates.map (fun rate => .command (.setRate rate)) ++ t.log } := by
  obtain ⟨tags, chunks, kept, -, sending, closing⟩ := conserved
  have sent := rates_ignored (f := emitted) (fun _ _ => rfl) rates t.log
  have taken := rates_ignored (f := acceptedSince) (fun _ _ => rfl) rates t.log
  have handed := handedOver_of_received received
  refine ⟨?_, fun other member => ?_, ?_, by simp, ?_, ?_⟩
  · rw [sent, ← List.append_assoc]
    intro sample member
    rcases List.mem_append.mp member with before | new
    · exact tags sample before
    · rw [mem_samples_generation new]
      exact Nat.le_of_eq current
  · exact chunks other (handed ▸ List.mem_cons_of_mem _ member)
  · have moved : emitted t.log ++ t.worker.queue ++ t.handedOver.flatMap Enqueue.samples =
        emitted t.log ++ (t.worker.queue ++ chunk.samples) ++ t.channel.flatMap Enqueue.samples := by
      rw [handed, List.flatMap_cons, List.append_assoc, List.append_assoc, List.append_assoc]
    rw [Transport.everything, moved] at kept
    rw [Transport.everything, sent, taken]
    exact kept
  · rw [taken]
    exact sending
  · rw [taken]
    exact closing

theorem conserved_tuned (conserved : Conserved t) (tuned : Tuned t t')
    (announced : Announced t.worker.outputEnabled t.log t'.log) : Conserved t' := by
  obtain ⟨tags, chunks, kept, held, sending, closing⟩ := conserved
  have sent := announced.ignored (f := emitted) fun _ _ => rfl
  have taken := announced.ignored (f := acceptedSince) fun _ _ => rfl
  have handed : t'.handedOver = t.handedOver := by
    rw [Transport.handedOver, tuned.received, tuned.channel, Transport.handedOver]
  refine ⟨?_, ?_, ?_, ?_, ?_, ?_⟩
  · rw [sent, tuned.queue, tuned.generation]
    exact tags
  · rw [handed, tuned.generation]
    exact chunks
  · rw [Transport.everything, sent, taken, handed, tuned.queue, tuned.generation]
    exact kept
  · rw [tuned.received, tuned.generation, tuned.activeGeneration]
    exact held
  · rw [tuned.callers, taken]
    exact sending
  · rw [Transport.Closing, tuned.done, tuned.running, tuned.priority, tuned.callers, taken]
    exact closing

/-- What is left in the channel when the worker ends is of an earlier generation. -/
theorem conserved_finish (env : Env) (conserved : Conserved t) (working : t.done = false)
    (free : t.worker.received = none) (stopped : t.worker.running = false) :
    Conserved { t with
      state := t.state.releaseHostPoints (t.channel.map (·.points.length)).sum
      channel := []
      priority := []
      done := true
      log := .ended :: (t.attempts env (.setOutput false) ++ t.log) } := by
  obtain ⟨tags, -, kept, held, sending, closing⟩ := conserved
  have sent := attempts_ignored (f := emitted) (fun _ _ => rfl) env (.setOutput false) t t.log
  have taken := attempts_ignored (f := acceptedSince) (fun _ _ => rfl) env (.setOutput false) t t.log
  have none := (closing ⟨working, .inl stopped⟩).2
  rw [none, Transport.everything, List.filter_append, List.append_eq_nil_iff] at kept
  refine ⟨?_, ?_, ?_, held, ?_, ?_⟩
  · change ∀ sample ∈ emitted (t.attempts env (.setOutput false) ++ t.log) ++ _, _
    rw [sent]
    exact tags
  · simp [Transport.handedOver, free]
  · change (emitted (t.attempts env (.setOutput false) ++ t.log) ++ _ ++ _).filter _ =
      acceptedSince (t.attempts env (.setOutput false) ++ t.log)
    rw [sent, taken, none, List.filter_append, kept.1]
    simp [Transport.handedOver, free]
  · change ∀ command, _ → _ → acceptedSince (t.attempts env (.setOutput false) ++ t.log) = []
    rw [taken]
    exact sending
  · rintro ⟨working, -⟩
    simp at working

theorem Step.conserved {env : Env} (step : Step env t t') (orderly : Orderly t) (conserved : Conserved t)
    (inTurn : Always ReceivedInTurn t'.log) (single : Always SingleThread t'.log) : Conserved t' := by
  have busy := orderly.dropped
  have whole := conserved
  obtain ⟨tags, chunks, kept, held, sending, closing⟩ := conserved
  cases step with
  | tick => exact ⟨tags, chunks, kept, held, sending, closing⟩
  | call caller starts =>
    have none : t.callers = [] := by simpa [SingleThread] using single.1
    refine ⟨tags, chunks, kept, held, ?_, fun closes => ?_⟩
    · intro command member
      rcases List.mem_cons.mp member with rfl | earlier
      · exact starts.elim
      · exact sending command earlier
    · have waits := (closing closes).1
      simp [none] at waits
  | move caller next others among moves =>
    obtain ⟨rfl, alone⟩ := orderly.alone among
    refine moves.conserved (orderly.loads caller (among.mem_iff.mpr List.mem_cons_self)) ?_
    rw [← alone]
    exact whole
  | priority command rest due working free first => exact conserved_priority due orderly whole working free first
  | hangUp working gone => simp [busy gone] at working
  | receive chunk rest working free first =>
    have handed : t.handedOver = chunk :: rest := by
      rw [Transport.handedOver, free, first]
      rfl
    refine ⟨tags, ?_, ?_, ?_, sending, closing⟩
    · rw [handed] at chunks
      exact chunks
    · rw [Transport.everything, handed] at kept
      exact kept
    · rintro _ ⟨⟩ current
      exact inTurn.1 current
  | stale chunk working received differs => exact conserved_stale whole received differs
  | fresh chunk pointRate currentRate rates working received active current =>
    exact conserved_fresh whole received current pointRate currentRate rates
  | abandon working gone => simp [busy gone] at working
  | tuned working tuned announced => exact conserved_tuned whole tuned announced
  | pass | failed => exact ⟨tags, chunks, kept, held, sending, closing⟩
  | sent =>
    have moved : emitted t.log ++ t.worker.queue.take t.intended ++ t.worker.queue.drop t.intended =
        emitted t.log ++ t.worker.queue := by
      rw [List.append_assoc, List.take_append_drop]
    refine ⟨?_, chunks, ?_, held, sending, closing⟩
    · rw [← moved] at tags
      exact tags
    · rw [Transport.everything, ← moved] at kept
      exact kept
  | finish working free stopped => exact conserved_finish env whole working free stopped

def InSequence (packetSequence : UInt8) (log : List Event) : Prop :=
  packetSequence = UInt8.ofNat (sentPackets log) ∧ Always Numbered log

theorem inSequence_command (packetSequence : UInt8) (command : Command) (log : List Event) :
    InSequence packetSequence (.command command :: log) = InSequence packetSequence log :=
  propext ⟨fun numbered => ⟨numbered.1, numbered.2.2⟩, fun numbered => ⟨numbered.1, trivial, numbered.2⟩⟩

theorem Step.inSequence {env : Env} (step : Step env t t') (numbered : InSequence t.worker.packetSequence t.log) :
    InSequence t'.worker.packetSequence t'.log := by
  have ignores := inSequence_command t.worker.packetSequence
  obtain ⟨next, numbers⟩ := numbered
  have few (fits : t.intended ≤ maxUdpSamples) : (t.worker.queue.take t.intended).length ≤ maxUdpSamples := by
    rw [List.length_take]
    omega
  cases step with
  | tick => exact ⟨next, numbers⟩
  | call => exact ⟨next, trivial, numbers⟩
  | move caller _ others among moves => cases moves with
    | accept | disable => exact ⟨next, trivial, numbers⟩
    | _ => exact ⟨next, numbers⟩
  | priority =>
    rw [attempts_ignored ignores]
    exact ⟨next, trivial, numbers⟩
  | hangUp =>
    rw [attempts_ignored ignores]
    exact ⟨next, trivial, numbers⟩
  | receive => exact ⟨next, trivial, numbers⟩
  | stale => exact ⟨next, numbers⟩
  | fresh =>
    rw [rates_ignored fun rate => ignores (.setRate rate)]
    exact ⟨next, numbers⟩
  | abandon => exact ⟨next, trivial, numbers⟩
  | tuned working tuned announced =>
    rw [tuned.packetSequence, announced.ignored ignores]
    exact ⟨next, numbers⟩
  | pass => exact ⟨next, trivial, numbers⟩
  | failed due working checked fits => exact ⟨next, ⟨next, few fits⟩, numbers⟩
  | sent now working checked fits =>
    refine ⟨?_, ⟨next, few fits⟩, numbers⟩
    change t.worker.packetSequence + 1 = UInt8.ofNat (sentPackets t.log + 1)
    rw [next, UInt8.ofNat_add]
    rfl
  | finish =>
    obtain ⟨next, numbers⟩ := (attempts_ignored ignores env (.setOutput false) t t.log).mpr ⟨next, numbers⟩
    exact ⟨next, trivial, numbers⟩

/-- What was emitted of the points accepted since the last disable is a beginning of them, and all of them once
the worker has nothing left to look at. -/
theorem accepted_points_delivered (status : Status) (profile : ConnectionProfile) (now : Nat) (env : Env)
    (actions : List Action)
    (single : Always SingleThread ((Transport.start status profile now).moment env actions).log)
    (inTurn : Always ReceivedInTurn ((Transport.start status profile now).moment env actions).log) :
    let t := (Transport.start status profile now).moment env actions
    t.delivered <+: acceptedSince t.log ∧
    (t.worker.queue = [] → t.handedOver = [] → t.delivered = acceptedSince t.log) ∧
    Always Numbered t.log := by
  have idle : Idle (Transport.start status profile now).own := ⟨rfl, rfl⟩
  have kept := moment_keeps env actions
    (fun event earlier => SingleThread event earlier ∧ ReceivedInTurn event earlier)
    (fun t => Orderly t ∧ Conserved t ∧ InSequence t.worker.packetSequence t.log) idle
    ⟨start_orderly status profile now,
      ⟨by simp [Transport.start, emitted], by simp [Transport.start, Transport.handedOver], rfl,
        by simp [Transport.start], by simp [Transport.start], by simp [Transport.start, Transport.Closing]⟩,
      ⟨rfl, trivial⟩⟩
    (fun t t' holds assumed step =>
      have single := assumed.imp fun _ _ both => both.1
      ⟨step.orderly holds.1 single, step.conserved holds.1 holds.2.1 (assumed.imp fun _ _ both => both.2) single,
        step.inSequence holds.2.2⟩)
    (single.and inTurn)
  generalize (Transport.start status profile now).moment env actions = t at kept ⊢
  obtain ⟨-, conserved, numbered⟩ := kept
  have all := conserved.kept
  rw [Transport.everything, List.append_assoc, List.filter_append] at all
  refine ⟨⟨_, all⟩, fun queued handed => ?_, numbered.2⟩
  rw [queued, handed] at all
  simpa [Transport.delivered] using all

theorem accepted_points_delivered_after_disable :
    let t := Transport.small.moment (.acting 0 (Action.wholeSetOutput false ++ Action.wholeEnqueue 200) 12) []
    t.delivered <+: acceptedSince t.log ∧ t.delivered.length = 160 ∧ (acceptedSince t.log).length = 200 :=
  ⟨(accepted_points_delivered (.empty 300) (.forConnection .ethernetServer 300) 0
    (.acting 0 (Action.wholeSetOutput false ++ Action.wholeEnqueue 200) 12) [] (by decide +kernel)
      (by decide +kernel)).1, by decide +kernel, by decide +kernel⟩

/-- The worker finds no priority command; a thread disables and enqueues; the worker receives the chunk, of a
generation it has not heard of, and drops it. -/
theorem accepted_points_dropped :
    let t := Transport.small.moment (.acting 2 (Action.wholeSetOutput false ++ Action.wholeEnqueue 2) 20) []
    Always SingleThread t.log ∧ t.worker.queue = [] ∧ t.handedOver = [] ∧ t.delivered = [] ∧
      (acceptedSince t.log).length = 2 := by
  decide +kernel

end LaserDac.LaserCube
