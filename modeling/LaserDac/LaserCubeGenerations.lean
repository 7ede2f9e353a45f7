import LaserDac.LaserCubeSteps

/-!
Generations in the LaserCube transport, for a single calling thread. The priority commands on their way lead from the
worker's generation to the current one a disable at a time, and the worker's queue holds points of its own generation
only.
-/

namespace LaserDac.LaserCube

open Runs Runs.Run

/-- Calls do not overlap. -/
@[reducible] def SingleThread : Event → List Event → Prop
  | .called busy, _ => busy = false
  | _, _ => True

instance : ∀ event earlier, Decidable (SingleThread event earlier) := Event.decidableLaw

/-- The commands lead from one generation to another: a disable to the next, an enable nowhere. -/
def Chain : Nat → List PriorityCommand → Nat → Prop
  | active, [], generation => active = generation
  | active, command :: rest, generation =>
    command.generation = (if command.enables then active else active + 1) ∧ Chain command.generation rest generation

theorem Chain.le {active generation : Nat} {pending : List PriorityCommand} (chain : Chain active pending generation) :
    active ≤ generation := by
  induction pending generalizing active with
  | nil => exact Nat.le_of_eq chain
  | cons command rest ih =>
    obtain ⟨next, chain⟩ := chain
    have later := ih chain
    split at next <;> omega

theorem Chain.append {active generation : Nat} {pending : List PriorityCommand} {command : PriorityCommand}
    (chain : Chain active pending generation)
    (next : command.generation = if command.enables then generation else generation + 1) :
    Chain active (pending ++ [command]) command.generation := by
  induction pending generalizing active with
  | nil =>
    obtain rfl : active = generation := chain
    exact ⟨next, rfl⟩
  | cons first rest ih => exact ⟨chain.1, ih chain.2⟩

def Caller.pending : Caller → List PriorityCommand
  | send command => [command]
  | _ => []

def Transport.pending (t : Transport) : List PriorityCommand := t.priority ++ t.callers.flatMap Caller.pending

/-- A chunk a caller is about to send carries this generation. -/
def Caller.Loads (generation : Nat) : Caller → Prop
  | loaded read _ _ => read = generation
  | _ => True

structure Orderly (t : Transport) : Prop where
  single : t.callers.length ≤ 1
  loads : ∀ caller ∈ t.callers, caller.Loads t.generation
  chain : t.done = false → Chain t.worker.activeGeneration t.pending t.generation
  queue : ∀ sample ∈ t.worker.queue, sample.generation = t.worker.activeGeneration
  dropped : t.dropped = true → t.done = true

variable {t t' : Transport} {caller : Caller} {env : Env}

theorem Orderly.alone (orderly : Orderly t) {others : List Caller} (among : t.callers.Perm (caller :: others)) :
    others = [] ∧ t.callers = [caller] := by
  have few := orderly.single
  rw [among.length_eq] at few
  obtain rfl : others = [] := List.eq_nil_of_length_eq_zero (by simpa using few)
  exact ⟨rfl, List.perm_singleton.mp among⟩

theorem Caller.Starts.pending_eq (starts : caller.Starts) : caller.pending = [] := by
  cases caller <;> first | rfl | exact starts.elim

theorem toList_length_le (next : Option Caller) : (next.toList ++ []).length ≤ 1 := by
  cases next <;> simp

theorem Caller.Moves.orderly {next : Option Caller} (moves : caller.Moves { t with callers := [] } next t')
    (orderly : Orderly { t with callers := [caller] }) : Orderly { t' with callers := next.toList ++ t'.callers } := by
  obtain ⟨-, loads, chain, queue, dropped⟩ := orderly
  have chain : t.done = false → Chain t.worker.activeGeneration (t.priority ++ caller.pending) t.generation := by
    simpa [Transport.pending] using chain
  have few := toList_length_le next
  -- The command a caller is about to send comes last.
  have sends {generation : Nat} {command : PriorityCommand}
      (chain : t.done = false → Chain t.worker.activeGeneration (t.priority ++ [command]) generation) :
      t.done = false →
        Chain t.worker.activeGeneration (t.priority ++ [Caller.send command].flatMap Caller.pending) generation := by
    simpa [pending] using chain
  cases moves with
  | full => exact ⟨few, by simp, chain, queue, dropped⟩
  | reserve | load | overflow => exact ⟨few, by simp [Loads], chain, queue, dropped⟩
  | accept => exact ⟨few, by simp [Transport.record], chain, queue, dropped⟩
  | release => exact ⟨few, by simp, chain, queue, dropped⟩
  | enable =>
    refine ⟨few, by simp [Loads], sends fun working => ?_, queue, dropped⟩
    simp only [pending, List.append_nil] at chain
    exact (chain working).append rfl
  | @disable _ command starts dark advances =>
    refine ⟨few, by simp [Loads, Transport.raise, Transport.record], sends fun working => ?_, queue, dropped⟩
    rw [starts.pending_eq, List.append_nil] at chain
    have longer : Chain _ (t.priority ++ [command]) command.generation :=
      (chain working).append (by simp [dark, advances])
    rw [advances] at longer
    exact longer
  | @send command =>
    have chained : t.done = false → Chain t.worker.activeGeneration (t.priority ++ [command] ++ []) t.generation := by
      simpa [pending] using chain
    cases command <;> exact ⟨few, by simp [PriorityCommand.sender, Loads], chained, queue, dropped⟩
  | @lost command ended =>
    have ended : t.done = true := ended
    have vacuous : t.done = false → Chain t.worker.activeGeneration
        (t.priority ++ (command.sender.toList ++ []).flatMap Caller.pending) t.generation := by
      simp [ended]
    cases command <;> exact ⟨few, by simp [PriorityCommand.sender, Loads], vacuous, queue, dropped⟩
  | joined ended => exact ⟨few, by simp, chain, queue, fun _ => ended⟩
  | wait => exact ⟨few, by simp [Loads], chain, queue, dropped⟩

theorem Step.orderly (step : Step env t t') (orderly : Orderly t) (single : Always SingleThread t'.log) :
    Orderly t' := by
  obtain ⟨few, loads, chain, queue, dropped⟩ := orderly
  cases step with
  | tick => exact ⟨few, loads, chain, queue, dropped⟩
  | call caller starts =>
    have none : t.callers = [] := by simpa [SingleThread] using single.1
    refine ⟨?_, ?_, fun working => ?_, queue, dropped⟩
    · simp [Transport.call, Transport.record, none]
    · simp only [Transport.call, Transport.record, none, List.mem_singleton, forall_eq]
      cases caller <;> trivial
    · simpa [Transport.call, Transport.record, Transport.pending, none, starts.pending_eq] using chain working
  | move caller next others among moves =>
    obtain ⟨rfl, alone⟩ := Orderly.alone ⟨few, loads, chain, queue, dropped⟩ among
    refine moves.orderly ?_
    rw [← alone]
    exact ⟨few, loads, chain, queue, dropped⟩
  | priority command rest due working free first =>
    have chained := chain working
    rw [Transport.pending, first] at chained
    refine ⟨few, loads, fun _ => chained.2, ?_, dropped⟩
    cases lit : command.enables with
    | true =>
      have same : command.generation = t.worker.activeGeneration := by simpa [lit] using chained.1
      simpa [lit, same] using queue
    | false => simp
  | hangUp working gone => simp [dropped gone] at working
  | receive | stale => exact ⟨few, loads, chain, queue, dropped⟩
  | fresh chunk _ _ _ working received active =>
    refine ⟨few, loads, chain, ?_, dropped⟩
    intro sample member
    rcases List.mem_append.mp member with earlier | new
    · exact queue sample earlier
    · obtain ⟨point, -, rfl⟩ := List.mem_map.mp new
      exact active
  | abandon working gone => simp [dropped gone] at working
  | tuned working tuned =>
    refine ⟨?_, ?_, ?_, ?_, ?_⟩
    · rw [tuned.callers]
      exact few
    · rw [tuned.callers, tuned.generation]
      exact loads
    · rw [Transport.pending, tuned.done, tuned.activeGeneration, tuned.priority, tuned.callers, tuned.generation]
      exact chain
    · rw [tuned.queue, tuned.activeGeneration]
      exact queue
    · rw [tuned.dropped, tuned.done]
      exact dropped
  | pass | failed => exact ⟨few, loads, chain, queue, dropped⟩
  | sent => exact ⟨few, loads, chain, fun sample member => queue sample (List.mem_of_mem_drop member), dropped⟩
  | finish => exact ⟨few, loads, by simp, queue, by simp⟩

theorem start_orderly (status : Status) (profile : ConnectionProfile) (now : Nat) :
    Orderly (Transport.start status profile now) :=
  ⟨Nat.zero_le _, by simp [Transport.start], fun _ => rfl, by simp [Transport.start], by simp [Transport.start]⟩

def acceptedChunks : List Event → List Enqueue
  | [] => []
  | .accepted chunk :: earlier => acceptedChunks earlier ++ [chunk]
  | _ :: earlier => acceptedChunks earlier

def beforeDisable : List Event → List Enqueue
  | [] => []
  | .raised _ _ :: earlier => acceptedChunks earlier
  | _ :: earlier => beforeDisable earlier

/-- The chunks accepted before the newest disable that precedes the newest pass. -/
def staleAtPass : List Event → List Enqueue
  | [] => []
  | .pass _ :: earlier => beforeDisable earlier
  | _ :: earlier => staleAtPass earlier

/-- A packet has no point of a chunk that a disable before its pass made stale. -/
def NothingStale : Event → List Event → Prop
  | .packet _ _ samples _, earlier =>
    ∀ chunk ∈ staleAtPass earlier, ∀ sample ∈ samples, sample.generation ≠ chunk.generation
  | _, _ => True

structure Dated (generation : Nat) (log : List Event) : Prop where
  accepted : ∀ chunk ∈ acceptedChunks log, chunk.generation ≤ generation
  disabled : ∀ chunk ∈ beforeDisable log, chunk.generation < generation
  pass : ∀ started, lastPass log = some started → ∀ chunk ∈ staleAtPass log, chunk.generation < started
  sent : Always NothingStale log

theorem dated_command (generation : Nat) (command : Command) (log : List Event) :
    Dated generation (.command command :: log) = Dated generation log :=
  propext ⟨fun dated => ⟨dated.accepted, dated.disabled, dated.pass, dated.sent.2⟩,
    fun dated => ⟨dated.accepted, dated.disabled, dated.pass, trivial, dated.sent⟩⟩

theorem Caller.Moves.dated {next : Option Caller} (moves : caller.Moves t next t') (loads : caller.Loads t.generation)
    (dated : Dated t.generation t.log) : Dated t'.generation t'.log := by
  obtain ⟨accepted, disabled, pass, sent⟩ := dated
  cases moves with
  | accept =>
    refine ⟨?_, disabled, pass, trivial, sent⟩
    intro chunk member
    rcases List.mem_append.mp member with earlier | last
    · exact accepted chunk earlier
    · rw [List.mem_singleton.mp last]
      exact Nat.le_of_eq loads
  | disable =>
    exact ⟨fun chunk member => Nat.le_succ_of_le (accepted chunk member),
      fun chunk member => Nat.lt_succ_of_le (accepted chunk member), pass, trivial, sent⟩
  | _ => exact ⟨accepted, disabled, pass, sent⟩

theorem Step.dated (step : Step env t t') (orderly : Orderly t) (dated : Dated t.generation t.log) :
    Dated t'.generation t'.log := by
  obtain ⟨accepted, disabled, pass, sent⟩ := dated
  -- What stands in the queue during a pass is younger than what the pass found stale.
  have fresh (checked : lastPass t.log = some t.worker.activeGeneration) : ∀ chunk ∈ staleAtPass t.log,
      ∀ sample ∈ t.worker.queue.take t.intended, sample.generation ≠ chunk.generation := by
    intro chunk stale sample member
    have older := pass _ checked chunk stale
    rw [orderly.queue sample (List.mem_of_mem_take member)]
    omega
  cases step with
  | tick => exact ⟨accepted, disabled, pass, sent⟩
  | call => exact ⟨accepted, disabled, pass, trivial, sent⟩
  | move caller next others among moves =>
    exact moves.dated (orderly.loads caller (among.mem_iff.mpr List.mem_cons_self)) ⟨accepted, disabled, pass, sent⟩
  | priority =>
    rw [attempts_ignored (dated_command t.generation)]
    exact ⟨accepted, disabled, pass, trivial, sent⟩
  | hangUp =>
    rw [attempts_ignored (dated_command t.generation)]
    exact ⟨accepted, disabled, pass, trivial, sent⟩
  | receive => exact ⟨accepted, disabled, pass, trivial, sent⟩
  | stale => exact ⟨accepted, disabled, pass, sent⟩
  | fresh =>
    rw [rates_ignored fun rate => dated_command t.generation (.setRate rate)]
    exact ⟨accepted, disabled, pass, sent⟩
  | abandon => exact ⟨accepted, disabled, pass, trivial, sent⟩
  | tuned working tuned announced =>
    rw [tuned.generation, announced.ignored (dated_command t.generation)]
    exact ⟨accepted, disabled, pass, sent⟩
  | pass =>
    refine ⟨accepted, disabled, ?_, trivial, sent⟩
    rintro started ⟨⟩
    exact disabled
  | failed due working checked => exact ⟨accepted, disabled, pass, fresh checked, sent⟩
  | sent now working checked => exact ⟨accepted, disabled, pass, fresh checked, sent⟩
  | finish =>
    have ended := attempts_ignored (dated_command t.generation) env (.setOutput false) t t.log
    obtain ⟨accepted, disabled, pass, sent⟩ := ended.mpr ⟨accepted, disabled, pass, sent⟩
    exact ⟨accepted, disabled, pass, trivial, sent⟩

/-- The last priority command processed enabled the output. -/
def enabledBy : List Event → Bool
  | [] => false
  | .processed command _ :: _ => command.enables
  | _ :: earlier => enabledBy earlier

/-- The last command to the device. -/
def lastCommand : List Event → Option Command
  | [] => none
  | .command command :: _ => some command
  | _ :: earlier => lastCommand earlier

/-- The output is switched on only after a command that says so. -/
def EnabledWhenTold : Event → List Event → Prop
  | .command (.setOutput true), earlier => enabledBy earlier = true
  | _, _ => True

structure Told (t : Transport) : Prop where
  enabled : t.worker.outputEnabled = true → enabledBy t.log = true
  commands : Always EnabledWhenTold t.log
  ended : t.done = true → lastCommand t.log = some (.setOutput false)

theorem setOutput_told {enabled : Bool} {log : List Event} (told : enabled = true → enabledBy log = true) :
    EnabledWhenTold (.command (.setOutput enabled)) log := by
  cases enabled with
  | true => exact told rfl
  | false => trivial

theorem attempts_told (env : Env) (t : Transport) {enabled : Bool} (log : List Event)
    (told : enabled = true → enabledBy log = true) (commands : Always EnabledWhenTold log) :
    Always EnabledWhenTold (t.attempts env (.setOutput enabled) ++ log) := by
  unfold Transport.attempts
  split
  · exact ⟨setOutput_told told, setOutput_told told, commands⟩
  · exact ⟨setOutput_told told, commands⟩

theorem Step.told (step : Step env t t') (told : Told t) : Told t' := by
  obtain ⟨enabled, commands, ended⟩ := told
  have unended {t' : Transport} (working : t'.done = false) :
      t'.done = true → lastCommand t'.log = some (.setOutput false) := by
    simp [working]
  cases step with
  | tick => exact ⟨enabled, commands, ended⟩
  | call => exact ⟨enabled, ⟨trivial, commands⟩, ended⟩
  | move caller next others among moves => cases moves with
    | accept | disable => exact ⟨enabled, ⟨trivial, commands⟩, ended⟩
    | _ => exact ⟨enabled, commands, ended⟩
  | priority command rest due working =>
    refine ⟨fun lit => ?_, attempts_told env t (.processed command t.reserved :: t.log) id ⟨trivial, commands⟩, unended working⟩
    rw [attempts_ignored (f := enabledBy) fun _ _ => rfl]
    exact lit
  | hangUp working => exact ⟨by simp, attempts_told env t (.hungUp :: t.log) (by simp) ⟨trivial, commands⟩, unended working⟩
  | receive chunk rest working => exact ⟨enabled, ⟨trivial, commands⟩, unended working⟩
  | stale chunk working => exact ⟨enabled, commands, unended working⟩
  | fresh chunk pointRate currentRate rates working =>
    refine ⟨fun lit => ?_, ?_, unended working⟩
    · rw [rates_ignored (f := enabledBy) fun _ _ => rfl]
      exact enabled lit
    · rw [rates_ignored (f := Always EnabledWhenTold) fun _ _ => true_and _]
      exact commands
  | abandon working => exact ⟨enabled, ⟨trivial, commands⟩, unended working⟩
  | tuned working tuned announced =>
    refine ⟨fun lit => ?_, ?_, unended (tuned.done.trans working)⟩
    · rw [announced.ignored (f := enabledBy) fun _ _ => rfl]
      exact enabled (tuned.outputEnabled ▸ lit)
    · generalize t'.log = log at announced ⊢
      cases announced with
      | silent => exact commands
      | polled => exact ⟨trivial, commands⟩
      | once => exact ⟨setOutput_told enabled, commands⟩
      | twice => exact ⟨setOutput_told enabled, setOutput_told enabled, commands⟩
  | pass working => exact ⟨enabled, ⟨trivial, commands⟩, unended working⟩
  | failed due working => exact ⟨enabled, ⟨trivial, commands⟩, unended working⟩
  | sent now working => exact ⟨enabled, ⟨trivial, commands⟩, unended working⟩
  | finish =>
    refine ⟨fun lit => ?_, ⟨trivial, attempts_told env t t.log (by simp) commands⟩, fun _ => ?_⟩
    · exact (attempts_ignored (f := enabledBy) (fun _ _ => rfl) env _ t t.log).trans (enabled lit)
    · change lastCommand (t.attempts env (.setOutput false) ++ t.log) = _
      unfold Transport.attempts
      split <;> rfl

theorem done_of_run (idle : Idle t.own) (returned : (run env t).1 = some ()) (actions : List Action) :
    (t.moment env actions).done = true := by
  have ended := (run_works env t idle).2 () returned
  have same := congrArg Own.done (acts_steps env actions (run env t).2).2
  rw [Transport.moment, Transport.after]
  exact same.trans ended

/-- No stale points after a disable, no enable that was not asked for, and a disable at the end. -/
theorem disable_is_final (status : Status) (profile : ConnectionProfile) (now : Nat) (env : Env) (actions : List Action)
    (single : Always SingleThread ((Transport.start status profile now).moment env actions).log) :
    let t := (Transport.start status profile now).moment env actions
    Always NothingStale t.log ∧ Always EnabledWhenTold t.log ∧
      (t.done = true → lastCommand t.log = some (.setOutput false)) ∧
      ((run env (Transport.start status profile now)).1 = some () → t.done = true) := by
  have idle : Idle (Transport.start status profile now).own := ⟨rfl, rfl⟩
  have kept := moment_keeps env actions SingleThread
    (fun t => Orderly t ∧ Dated t.generation t.log ∧ Told t) idle
    ⟨start_orderly status profile now,
      ⟨by simp [Transport.start, acceptedChunks], by simp [Transport.start, beforeDisable],
        by simp [Transport.start, lastPass], trivial⟩,
      ⟨by simp [Transport.start], trivial, by simp [Transport.start]⟩⟩
    (fun t t' holds single step =>
      ⟨step.orderly holds.1 single, step.dated holds.1 holds.2.1, step.told holds.2.2⟩)
    single
  exact ⟨kept.2.1.sent, kept.2.2.commands, kept.2.2.ended, fun returned => done_of_run idle returned actions⟩

theorem disable_is_final_reenabled :
    let t := Transport.small.moment (.acting 0 (Action.wholeEnqueue 3 ++ Action.wholeSetOutput false ++
      Action.wholeSetOutput true ++ Action.wholeEnqueue 2) 16) []
    Always NothingStale t.log ∧ packets t.log = 1 ∧ (staleAtPass t.log).length = 1 :=
  ⟨(disable_is_final (.empty 300) (.forConnection .ethernetServer 300) 0 (.acting 0 (Action.wholeEnqueue 3 ++
    Action.wholeSetOutput false ++ Action.wholeSetOutput true ++ Action.wholeEnqueue 2) 16) [] (by decide +kernel)).1,
    by decide +kernel, by decide +kernel⟩

end LaserDac.LaserCube
