import LaserDac.LaserCubePacing
import Mathlib.Data.List.Perm.Basic

/-!
The steps of the LaserCube transport, and that its worker takes no others. A caller's action is a step of its
own; the worker's are guarded by where in its loop it is.
-/

namespace LaserDac.LaserCube

open Runs Runs.Run

/-- The generation the newest pass of `try_send_due_packet` started in. -/
def lastPass : List Event → Option Nat
  | [] => none
  | .pass generation :: _ => some generation
  | _ :: earlier => lastPass earlier

/-- What the worker does to the pacing, and the commands it sends on the way. -/
structure Tuned (t t' : Transport) : Prop where
  generation : t'.generation = t.generation
  hostQueueLen : t'.state.hostQueueLen = t.state.hostQueueLen
  hostQueueCapacity : t'.state.hostQueueCapacity = t.state.hostQueueCapacity
  channel : t'.channel = t.channel
  priority : t'.priority = t.priority
  callers : t'.callers = t.callers
  queue : t'.worker.queue = t.worker.queue
  received : t'.worker.received = t.worker.received
  activeGeneration : t'.worker.activeGeneration = t.worker.activeGeneration
  packetSequence : t'.worker.packetSequence = t.worker.packetSequence
  transferSequence : t'.worker.transferSequence = t.worker.transferSequence
  outputEnabled : t'.worker.outputEnabled = t.worker.outputEnabled
  running : t'.worker.running = t.worker.running
  done : t'.done = t.done
  dropped : t'.dropped = t.dropped

/-- The commands that go with it: none, a poll, a rate, or the intended output state once more. -/
inductive Announced (outputEnabled : Bool) (log : List Event) : List Event → Prop
  | silent : Announced outputEnabled log log
  | polled : Announced outputEnabled log (.command .getFullInfo :: log)
  | once : Announced outputEnabled log (.command (.setOutput outputEnabled) :: log)
  | twice : Announced outputEnabled log
    (.command (.setOutput outputEnabled) :: .command (.setOutput outputEnabled) :: log)

def PriorityCommand.sender : PriorityCommand → Option Caller
  | .shutdown _ => some .join
  | _ => none

def Caller.Starts : Caller → Prop
  | .enqueue _ _ => True
  | .setOutput _ => True
  | .stopOutput => True
  | .shutdown => True
  | _ => False

/-- What a caller's action does: where the call goes on, and the state after it. -/
inductive Caller.Moves (t : Transport) : Caller → Option Caller → Transport → Prop
  | full {pointRate : Nat} {points : List Point} : Moves t (.enqueue pointRate points) none t
  | reserve {pointRate : Nat} {points : List Point}
    (room : t.state.hostQueueLen + points.length ≤ t.state.hostQueueCapacity) :
    Moves t (.enqueue pointRate points) (some (.reserved pointRate points))
      { t with state := { t.state with hostQueueLen := t.state.hostQueueLen + points.length } }
  | load {pointRate : Nat} {points : List Point} :
    Moves t (.reserved pointRate points) (some (.loaded t.generation pointRate points)) t
  | overflow {generation pointRate : Nat} {points : List Point} :
    Moves t (.loaded generation pointRate points) (some (.refused points.length)) t
  | accept {generation pointRate : Nat} {points : List Point} (working : t.done = false) :
    Moves t (.loaded generation pointRate points) none (Transport.record (.accepted { generation, pointRate, points })
      { t with channel := t.channel ++ [{ generation, pointRate, points }] })
  | release {points : Nat} : Moves t (.refused points) none { t with state := t.state.releaseHostPoints points }
  | enable : Moves t (.setOutput true) (some (.send (.setOutput true t.generation))) t
  | disable {caller : Caller} {command : PriorityCommand} (starts : caller.Starts) (dark : command.enables = false)
    (next : command.generation = t.generation + 1) : Moves t caller (some (.send command)) t.raise
  | send {command : PriorityCommand} (working : t.done = false) :
    Moves t (.send command) command.sender { t with priority := t.priority ++ [command] }
  | lost {command : PriorityCommand} (ended : t.done = true) : Moves t (.send command) command.sender t
  | joined (ended : t.done = true) : Moves t .join none { t with dropped := true }
  | wait (working : t.done = false) : Moves t .join (some .join) t

section

variable (env : Env)

def Transport.attempts (command : Command) (t : Transport) : List Event :=
  if env.sendCommand t.tick then [.command command, .command command] else [.command command]

inductive Step : Transport → Transport → Prop
  | tick {t : Transport} (tick : Nat) : Step t { t with tick }
  | call {t : Transport} (caller : Caller) (starts : caller.Starts) : Step t (t.call caller)
  | move {t t' : Transport} (caller : Caller) (next : Option Caller) (others : List Caller)
    (among : t.callers.Perm (caller :: others)) (moves : caller.Moves { t with callers := others } next t') :
    Step t { t' with callers := next.toList ++ t'.callers }
  | priority {t : Transport} (command : PriorityCommand) (rest : List PriorityCommand) (due : Nat)
    (working : t.done = false) (free : t.worker.received = none) (first : t.priority = command :: rest) :
    Step t { t with
      priority := rest
      state := if command.enables then t.state else t.state.clearHostQueue
      worker := { t.worker with
        queue := if command.enables then t.worker.queue else []
        activeGeneration := command.generation
        outputEnabled := command.enables
        nextFullInfoDue := due
        running := t.worker.running && command.sender.isNone }
      log := t.attempts env (.setOutput command.enables) ++ .processed command t.reserved :: t.log }
  | hangUp {t : Transport} (working : t.done = false) (gone : t.dropped = true) :
    Step t { t with
      state := t.state.clearHostQueue
      worker := { t.worker with queue := [], activeGeneration := t.generation, outputEnabled := false, running := false }
      log := t.attempts env (.setOutput false) ++ .hungUp :: t.log }
  | receive {t : Transport} (chunk : Enqueue) (rest : List Enqueue) (working : t.done = false)
    (free : t.worker.received = none) (first : t.channel = chunk :: rest) :
    Step t (t.receive chunk rest)
  | stale {t : Transport} (chunk : Enqueue) (working : t.done = false) (received : t.worker.received = some chunk)
    (differs : chunk.generation ≠ t.worker.activeGeneration ∨ chunk.generation ≠ t.generation) :
    Step t { t with
      state := t.state.releaseHostPoints chunk.points.length
      worker := { t.worker with received := none } }
  | fresh {t : Transport} (chunk : Enqueue) (pointRate currentRate : Nat) (rates : List Nat) (working : t.done = false)
    (received : t.worker.received = some chunk) (active : chunk.generation = t.worker.activeGeneration)
    (current : chunk.generation = t.generation) :
    Step t { t with
      state := { t.state with pointRate }
      worker := { t.worker with received := none, currentRate, queue := t.worker.queue ++ chunk.samples }
      log := rates.map (fun rate => .command (.setRate rate)) ++ t.log }
  | abandon {t : Transport} (working : t.done = false) (gone : t.dropped = true) : Step t t.abandon
  | tuned {t t' : Transport} (working : t.done = false) (tuned : Tuned t t')
    (announced : Announced t.worker.outputEnabled t.log t'.log) : Step t t'
  | pass {t : Transport} (working : t.done = false) : Step t (t.record (.pass t.generation))
  | failed {t : Transport} (due : Nat) (working : t.done = false)
    (checked : lastPass t.log = some t.worker.activeGeneration) (few : t.intended ≤ maxUdpSamples) :
    Step t ((t.putOff due).record
      (.packet t.worker.packetSequence t.worker.transferSequence (t.worker.queue.take t.intended) false))
  | sent {t : Transport} (now : Nat) (working : t.done = false)
    (checked : lastPass t.log = some t.worker.activeGeneration) (few : t.intended ≤ maxUdpSamples) :
    Step t ((t.record
      (.packet t.worker.packetSequence t.worker.transferSequence (t.worker.queue.take t.intended) true)).packetSent now
        (t.worker.queue.take t.intended) (t.worker.queue.drop t.intended)).2
  | finish {t : Transport} (working : t.done = false) (free : t.worker.received = none)
    (stopped : t.worker.running = false) :
    Step t { t with
      state := t.state.releaseHostPoints (t.channel.map (·.points.length)).sum
      channel := []
      priority := []
      done := true
      log := .ended :: (t.attempts env (.setOutput false) ++ t.log) }

end

/-! ### What survives the turn of the other threads -/

theorem Caller.step_moves (t : Transport) (caller : Caller) : caller.Moves t (caller.step t).1 (caller.step t).2 := by
  unfold Caller.step
  cases caller with
  | enqueue pointRate points =>
    dsimp only
    split <;> rename_i room
    · exact .full
    · exact .reserve (Nat.not_lt.mp room)
  | reserved => exact .load
  | loaded generation pointRate points =>
    dsimp only
    split <;> rename_i gone
    · exact .overflow
    · exact .accept (Bool.eq_false_iff.mpr (not_or.mp gone).1)
  | refused => exact .release
  | setOutput enabled =>
    cases enabled with
    | true => exact .enable
    | false => exact .disable trivial rfl rfl
  | stopOutput | shutdown => exact .disable trivial rfl rfl
  | send command =>
    dsimp only
    split <;> rename_i ended
    · cases command <;> exact .lost ended
    · cases command <;> exact .send (Bool.eq_false_iff.mpr ended)
  | join =>
    dsimp only
    split <;> rename_i ended
    · exact .joined ended
    · exact .wait (Bool.eq_false_iff.mpr ended)

theorem act_step (env : Env) (t : Transport) (action : Action) : t.act action = t ∨ Step env t (t.act action) := by
  cases action with
  | resume index =>
    rw [Transport.act, Transport.resume]
    split <;> rename_i at_
    · exact .inl rfl
    · rename_i caller
      obtain ⟨bound, rfl⟩ := List.getElem?_eq_some_iff.mp at_
      have moves := Caller.step_moves { t with callers := t.callers.eraseIdx index } t.callers[index]
      have among := (List.getElem_cons_eraseIdx_perm bound).symm
      have step : Step env t _ := .move _ _ _ among moves
      split <;> rename_i result <;> rw [result] at step <;> exact .inr step
  | enqueue | setOutput | stopOutput | shutdown => exact .inr (.call _ trivial)

variable {t t' : Transport}

theorem Caller.Moves.log {caller : Caller} {next : Option Caller} (moves : caller.Moves t next t') :
    t.log <:+ t'.log ∧ lastPass t'.log = lastPass t.log := by
  cases moves with
  | accept | disable => exact ⟨List.suffix_cons _ _, rfl⟩
  | _ => exact ⟨List.suffix_rfl, rfl⟩

theorem act_lastPass (t : Transport) (action : Action) : lastPass (t.act action).log = lastPass t.log := by
  cases action with
  | resume index =>
    rw [Transport.act, Transport.resume]
    split
    · rfl
    · rename_i caller _
      have kept := (Caller.step_moves { t with callers := t.callers.eraseIdx index } caller).log.2
      split <;> rename_i result <;> rw [result] at kept <;> exact kept
  | _ => rfl

/-- The worker's own part of the state. -/
structure Own where
  worker : Worker
  done : Bool
  lastPass : Option Nat

def Transport.own (t : Transport) : Own := ⟨t.worker, t.done, lastPass t.log⟩

theorem acts_steps (env : Env) (actions : List Action) (t : Transport) :
    Relation.ReflTransGen (Step env) t (actions.foldl Transport.act t) ∧ (actions.foldl Transport.act t).own = t.own := by
  induction actions generalizing t with
  | nil => exact ⟨.refl, rfl⟩
  | cons action actions ih =>
    obtain ⟨path, same⟩ := ih (t.act action)
    refine ⟨.trans ?_ path, same.trans ?_⟩
    · rcases act_step env t action with idle | step
      · rw [idle]
      · exact .single step
    · have pacing := t.act_samePacing action
      rw [Transport.own, Transport.own, pacing.worker, pacing.done, act_lastPass]

theorem interleave_steps (env : Env) (t : Transport) :
    Relation.ReflTransGen (Step env) t (t.interleave env) ∧ (t.interleave env).own = t.own := by
  obtain ⟨path, same⟩ := acts_steps env (env.schedule t.tick) t
  exact ⟨path.tail (.tick _), same⟩

section

variable (env : Env) {α : Type} {p : Own → Prop} {q : α → Own → Prop}

/-- The program takes steps; `p` holds before it, `q` of its result and what it leaves. -/
def Works (p : Own → Prop) (m : Run Transport α) (q : α → Own → Prop) : Prop :=
  Follows (Step env) (fun t => p t.own) m fun a t => q a t.own

theorem turn_follows :
    Follows (Step env) (fun t => p t.own) (turn env) fun t t' => t = t' ∧ p t'.own := by
  refine Follows.bind (M := fun _ t => p t.own) (Follows.state fun _ => id) fun t => ?_
  refine Follows.ite (fun _ => ?_) fun _ => Follows.cut
  refine Follows.bind (M := fun _ t => p t.own) ?_ fun _ => Follows.state fun t holds => ⟨rfl, holds⟩
  refine Follows.update (fun t _ => (interleave_steps env t).1) fun t holds => ?_
  rw [(interleave_steps env t).2]
  exact holds

def WorksFrom (t : Transport) (m : Run Transport α) (q : α → Own → Prop) : Prop :=
  Follows (Step env) (· = t) m fun a t => q a t.own

variable {env}

theorem Works.turn {k : Transport → Run Transport α} (rest : ∀ t : Transport, p t.own → WorksFrom env t (k t) q) :
    Works env p (LaserCube.turn env >>= k) q := by
  refine Follows.bind (turn_follows env) fun t => ?_
  refine Follows.assuming (fun t' (known : t = t' ∧ p t'.own) => known.1 ▸ known.2) fun holds => ?_
  exact Follows.pre (rest t holds) fun t' known => known.1.symm

variable {m : Run Transport α}

theorem WorksFrom.known (works : Works env p m q) (holds : p t.own) : WorksFrom env t m q :=
  Follows.pre works fun _ same => same ▸ holds

theorem WorksFrom.ite {c : Prop} [Decidable c] {m' : Run Transport α} (yes : c → WorksFrom env t m q)
    (no : ¬ c → WorksFrom env t m' q) : WorksFrom env t (if c then m else m') q :=
  Follows.ite yes no

theorem WorksFrom.pure {a : α} (holds : q a t.own) : WorksFrom env t (Pure.pure a : Run Transport α) q :=
  Follows.pure fun _ same => same ▸ holds

theorem Works.bind {β : Type} {m : Run Transport β} {k : β → Run Transport α} (r : β → Own → Prop)
    (first : Works env p m r) (rest : ∀ b, Works env (r b) (k b) q) : Works env p (m >>= k) q :=
  Follows.bind first rest

theorem Works.ite {c : Prop} [Decidable c] {m' : Run Transport α} (yes : c → Works env p m q)
    (no : ¬ c → Works env p m' q) : Works env p (if c then m else m') q :=
  Follows.ite yes no

theorem Works.pure {a : α} (holds : ∀ own, p own → q a own) : Works env p (Pure.pure a : Run Transport α) q :=
  Follows.pure fun _ => holds _

theorem Works.pre {p' : Own → Prop} (before : ∀ own, p own → p' own) (works : Works env p' m q) : Works env p m q :=
  Follows.pre works fun _ => before _

theorem Works.iterate {β : Type} {round : β → Run Transport (β ⊕ α)} (i : β → Own → Prop)
    (step : ∀ b, Works env (i b) (round b) fun next own => match next with
      | .inl b => i b own
      | .inr a => q a own) (fuel : Nat) (b : β) : Works env (i b) (iterate fuel round b) q := by
  refine Follows.iterate (R := Step env) (fun b (t : Transport) => i b t.own) (fun b => ?_) fuel b
  refine Follows.post (step b) fun next _ holds => ?_
  cases next <;> exact holds

theorem Works.state {k : Transport → Run Transport α}
    (rest : ∀ t : Transport, p t.own → Works env (fun own => own = t.own ∧ p own) (k t) q) :
    Works env p (Run.state >>= k) q := by
  refine Follows.bind (M := fun t t' => t = t' ∧ p t.own) (Follows.state fun t holds => ⟨rfl, holds⟩) fun t => ?_
  refine Follows.assuming (fun _ (known : _ ∧ p t.own) => known.2) fun holds => ?_
  refine Follows.pre (rest t holds) ?_
  rintro t' ⟨rfl, -⟩
  exact ⟨rfl, holds⟩

theorem step_then {f : Transport → Transport} {k : Unit → Run Transport α} {p : Own → Prop} (step : Step env t (f t))
    (holds : p (f t).own) (rest : Works env p (k ()) q) : WorksFrom env t (update f >>= k) q := by
  refine Follows.bind (M := fun _ t => p t.own) (Follows.update ?_ ?_) fun _ => rest
  · rintro _ rfl
    exact .single step
  · rintro _ rfl
    exact holds

end

/-! ### The worker -/

/-- The worker runs and has looked at every chunk it received. -/
def Idle (own : Own) : Prop := own.done = false ∧ own.worker.received = none

section

variable (env : Env)

theorem sendRepeated_eq (command : Command) (t : Transport) :
    t.sendRepeated env command = { t with log := t.attempts env command ++ t.log } := by
  unfold Transport.sendRepeated Transport.attempts
  split <;> rfl

theorem processPriority_eq (command : PriorityCommand) (t : Transport) : ∃ due,
    t.processPriority env command =
      { t with
        state := if command.enables then t.state else t.state.clearHostQueue
        worker := { t.worker with
          queue := if command.enables then t.worker.queue else []
          activeGeneration := command.generation
          outputEnabled := command.enables
          nextFullInfoDue := due
          running := t.worker.running && command.sender.isNone }
        log := t.attempts env (.setOutput command.enables) ++ .processed command t.reserved :: t.log } := by
  unfold Transport.processPriority
  simp only [sendRepeated_eq, PriorityCommand.enables, PriorityCommand.sender, PriorityCommand.generation,
    Transport.mapWorker, Transport.record, Transport.clearPendingPoints, Transport.mapState, Transport.attempts]
  cases command with
  | setOutput enabled generation =>
    refine ⟨env.now t.tick + Transport.fullInfoPollPeriod enabled, ?_⟩
    cases enabled <;> simp
  | stopOutput | shutdown => exact ⟨t.worker.nextFullInfoDue, by simp⟩

theorem hangUp_eq (t : Transport) : t.hangUp env =
    { t with
      state := t.state.clearHostQueue
      worker := { t.worker with queue := [], activeGeneration := t.generation, outputEnabled := false, running := false }
      log := t.attempts env (.setOutput false) ++ .hungUp :: t.log } := by
  unfold Transport.hangUp
  rw [sendRepeated_eq]
  rfl

theorem finish_eq (t : Transport) : t.finish env =
    { t with
      state := t.state.releaseHostPoints (t.channel.map (·.points.length)).sum
      channel := []
      priority := []
      done := true
      log := .ended :: (t.attempts env (.setOutput false) ++ t.log) } := by
  unfold Transport.finish
  rw [sendRepeated_eq]
  rfl

theorem settle_step (chunk : Enqueue) (working : t.done = false) (received : t.worker.received = some chunk) :
    Step env t (t.settle env chunk) ∧ Idle (t.settle env chunk).own := by
  unfold Transport.settle
  dsimp only
  split <;> rename_i differs
  · exact ⟨.stale chunk working received differs, working, rfl⟩
  · obtain ⟨active, current⟩ := not_or.mp differs
    have fresh (pointRate currentRate : Nat) (rates : List Nat) : Step env t _ :=
      .fresh chunk pointRate currentRate rates working received (not_not.mp active) (not_not.mp current)
    split
    · unfold Transport.setRate
      dsimp only
      rw [sendRepeated_eq]
      generalize clampPointRate _ chunk.pointRate = rate
      split <;> rename_i up
      · rw [Transport.attempts, if_pos up]
        exact ⟨fresh rate rate [rate, rate], working, rfl⟩
      · rw [Transport.attempts, if_neg up]
        exact ⟨fresh t.state.pointRate t.worker.currentRate [rate], working, rfl⟩
    · exact ⟨fresh t.state.pointRate t.worker.currentRate [], working, rfl⟩

theorem priority_step (command : PriorityCommand) (rest : List PriorityCommand) (idle : Idle t.own)
    (first : t.priority = command :: rest) : Step env t ({ t with priority := rest }.processPriority env command) ∧
      Idle ({ t with priority := rest }.processPriority env command).own := by
  obtain ⟨due, result⟩ := processPriority_eq env command { t with priority := rest }
  rw [result]
  exact ⟨.priority command rest due idle.1 idle.2 first, idle⟩

theorem processPriorityCommands_works (drain : Nat) :
    Works env Idle (processPriorityCommands env drain) fun _ => Idle := by
  induction drain with
  | zero => exact Follows.pure fun _ => id
  | succ drain ih =>
    refine .turn fun t idle => ?_
    split
    · rename_i command rest first
      obtain ⟨step, after⟩ := priority_step env command rest idle first
      refine step_then (p := Idle) step after ?_
      split
      · exact Follows.pure fun _ => id
      · exact ih
    · refine Follows.whenever (fun gone => Follows.update ?_ ?_) fun _ t' same => same ▸ idle
      · rintro _ rfl
        rw [hangUp_eq]
        exact .single (.hangUp idle.1 gone)
      · rintro t rfl
        rw [hangUp_eq]
        exact idle

theorem processCommands_works (drain : Nat) : Works env Idle (processCommands env drain) fun _ => Idle := by
  induction drain with
  | zero => exact Follows.pure fun _ => id
  | succ drain ih =>
    refine .turn fun t idle => ?_
    split
    · rename_i chunk rest first
      refine step_then (p := fun own => own.done = false ∧ own.worker.received = some chunk)
        (.receive chunk rest idle.1 idle.2 first) ⟨idle.1, rfl⟩ ?_
      refine .turn fun t holding => ?_
      obtain ⟨step, idle⟩ := settle_step env chunk holding.1 holding.2
      exact step_then (p := Idle) step idle ih
    · refine Follows.whenever (fun gone => Follows.update ?_ ?_) fun _ t' same => same ▸ idle
      · rintro _ rfl
        exact .single (.abandon idle.1 gone)
      · rintro t rfl
        exact idle

theorem Tuned.idle (tuned : Tuned t t') (idle : Idle t.own) : Idle t'.own :=
  ⟨tuned.done.trans idle.1, tuned.received.trans idle.2⟩

theorem tuned_state (f : TransportState → TransportState) (t : Transport)
    (len : (f t.state).hostQueueLen = t.state.hostQueueLen)
    (capacity : (f t.state).hostQueueCapacity = t.state.hostQueueCapacity) : Tuned t (t.mapState f) :=
  ⟨rfl, len, capacity, rfl, rfl, rfl, rfl, rfl, rfl, rfl, rfl, rfl, rfl, rfl, rfl⟩

theorem mapState_log (f : TransportState → TransportState) (t : Transport) : (t.mapState f).log = t.log := rfl

variable (now : Nat)

theorem applyCommandAck_log (freeSpace : UInt16) (t : Transport) : (t.applyCommandAck now freeSpace).log = t.log := by
  rw [Transport.applyCommandAck, mapState_log]

theorem applyCommandAck_tuned (freeSpace : UInt16) (t : Transport) :
    Tuned t (t.applyCommandAck now freeSpace) ∧
      Announced t.worker.outputEnabled t.log (t.applyCommandAck now freeSpace).log := by
  rw [applyCommandAck_log]
  unfold Transport.applyCommandAck
  generalize t.inFlightSamples = inFlight
  exact ⟨tuned_state _ t rfl rfl, .silent⟩

theorem Tuned.trans {t'' : Transport} (first : Tuned t t') (later : Tuned t' t'') : Tuned t t'' where
  generation := later.generation.trans first.generation
  hostQueueLen := later.hostQueueLen.trans first.hostQueueLen
  hostQueueCapacity := later.hostQueueCapacity.trans first.hostQueueCapacity
  channel := later.channel.trans first.channel
  priority := later.priority.trans first.priority
  callers := later.callers.trans first.callers
  queue := later.queue.trans first.queue
  received := later.received.trans first.received
  activeGeneration := later.activeGeneration.trans first.activeGeneration
  packetSequence := later.packetSequence.trans first.packetSequence
  transferSequence := later.transferSequence.trans first.transferSequence
  outputEnabled := later.outputEnabled.trans first.outputEnabled
  running := later.running.trans first.running
  done := later.done.trans first.done
  dropped := later.dropped.trans first.dropped

theorem tuned_counts (f : (UInt8 → Nat) → UInt8 → Nat) (t : Transport) :
    Tuned t (t.mapWorker fun w => { w with packetSampleCounts := f w.packetSampleCounts }) :=
  ⟨rfl, rfl, rfl, rfl, rfl, rfl, rfl, rfl, rfl, rfl, rfl, rfl, rfl, rfl, rfl⟩

theorem applyMessage_tuned (message : Message) (t : Transport) :
    Tuned t (t.applyMessage env now message) ∧
      Announced t.worker.outputEnabled t.log (t.applyMessage env now message).log := by
  cases message with
  | fullInfo =>
    unfold Transport.applyMessage Transport.reconcileOutputEnable
    dsimp only
    split
    · exact ⟨tuned_state _ t rfl rfl, .silent⟩
    · unfold Transport.sendRepeated
      split
      · exact ⟨⟨rfl, rfl, rfl, rfl, rfl, rfl, rfl, rfl, rfl, rfl, rfl, rfl, rfl, rfl, rfl⟩, .twice⟩
      · exact ⟨⟨rfl, rfl, rfl, rfl, rfl, rfl, rfl, rfl, rfl, rfl, rfl, rfl, rfl, rfl, rfl⟩, .once⟩
  | ack freeSpace => exact applyCommandAck_tuned now freeSpace t
  | response => exact ⟨tuned_state id t rfl rfl, .silent⟩

theorem applyDataAck_tuned (sequence : UInt8) (freeSpace : UInt16) (t : Transport) :
    Tuned t (t.applyDataAck now sequence freeSpace) ∧
      Announced t.worker.outputEnabled t.log (t.applyDataAck now sequence freeSpace).log := by
  have acknowledged := tuned_counts (Function.update · sequence 0) t
  have applied (first : UInt8) : ∀ t' : Transport, Tuned t t' → t'.log = t.log →
      Tuned t ((t'.applyCommandAck now freeSpace).mapState fun s => { s with lastDataAckSequence := some sequence }) ∧
        Announced t.worker.outputEnabled t.log
          ((t'.applyCommandAck now freeSpace).mapState fun s => { s with lastDataAckSequence := some sequence }).log := by
    intro t' tuned log
    have marked (t : Transport) : Tuned t (t.mapState fun s => { s with lastDataAckSequence := some sequence }) :=
      tuned_state _ t rfl rfl
    refine ⟨(tuned.trans (applyCommandAck_tuned now freeSpace t').1).trans (marked _), ?_⟩
    rw [mapState_log, applyCommandAck_log, log]
    exact .silent
  unfold Transport.applyDataAck
  dsimp only
  split
  · rename_i last _
    split
    · exact applied (last + 1) _ (acknowledged.trans (tuned_counts _ _)) rfl
    · exact ⟨acknowledged, .silent⟩
  · exact applied 0 _ (acknowledged.trans (tuned_counts _ _)) rfl

theorem decay_tuned (t : Transport) : Tuned t (t.mapState (TransportState.decayFreeEstimate now)) := by
  refine tuned_state _ t ?_ ?_ <;>
  · unfold TransportState.decayFreeEstimate
    dsimp only
    split <;> rfl

theorem pollFullInfo_tuned (t : Transport) :
    Tuned t (t.pollFullInfoIfDue now) ∧ Announced t.worker.outputEnabled t.log (t.pollFullInfoIfDue now).log := by
  unfold Transport.pollFullInfoIfDue
  split
  · exact ⟨tuned_state id t rfl rfl, .silent⟩
  · exact ⟨⟨rfl, rfl, rfl, rfl, rfl, rfl, rfl, rfl, rfl, rfl, rfl, rfl, rfl, rfl, rfl⟩, .polled⟩

theorem update_works {f : Transport → Transport}
    (tunes : ∀ t, Tuned t (f t) ∧ Announced t.worker.outputEnabled t.log (f t).log) :
    Works env Idle (update f) fun _ => Idle :=
  Follows.update (fun t idle => .single (.tuned idle.1 (tunes t).1 (tunes t).2)) fun t idle => (tunes t).1.idle idle

theorem drainCommandAcks_works (now drain : Nat) : Works env Idle (drainCommandAcks env now drain) fun _ => Idle := by
  induction drain with
  | zero => exact Follows.pure fun _ => id
  | succ drain ih =>
    refine .turn fun t idle => ?_
    split
    · rename_i message _
      obtain ⟨tuned, announced⟩ := applyMessage_tuned env now message t
      exact step_then (p := Idle) (.tuned idle.1 tuned announced) (tuned.idle idle) ih
    · exact Follows.pure fun _ same => same ▸ idle

theorem drainDataAcks_works (now drain : Nat) : Works env Idle (drainDataAcks env now drain) fun _ => Idle := by
  induction drain with
  | zero => exact Follows.pure fun _ => id
  | succ drain ih =>
    refine .turn fun t idle => ?_
    split
    · rename_i sequence freeSpace _
      obtain ⟨tuned, announced⟩ := applyDataAck_tuned now sequence freeSpace t
      exact step_then (p := Idle) (.tuned idle.1 tuned announced) (tuned.idle idle) ih
    · exact .known ih idle
    · exact Follows.pure fun _ same => same ▸ idle

/-- Between two packets of a pass that found the generations in agreement. -/
def Checked (own : Own) : Prop := Idle own ∧ own.lastPass = some own.worker.activeGeneration

theorem packet_step (ok : Bool) (now : Nat) (checked : Checked t.own) :
    Step env t (t.sendOnePacket ok now).2 ∧ Checked (t.sendOnePacket ok now).2.own := by
  have attempt := t.sendOnePacket_attempt ok now
  generalize t.sendOnePacket ok now = result at attempt ⊢
  obtain ⟨⟨working, free⟩, pass⟩ := checked
  have postponed (due : Nat) : Tuned t (t.putOff due) :=
    ⟨rfl, rfl, rfl, rfl, rfl, rfl, rfl, rfl, rfl, rfl, rfl, rfl, rfl, rfl, rfl⟩
  cases attempt with
  | nothing => exact ⟨.tuned working (tuned_state id t rfl rfl) .silent, ⟨working, free⟩, pass⟩
  | wait | oversized => exact ⟨.tuned working (postponed _) .silent, ⟨working, free⟩, pass⟩
  | failed _ few => exact ⟨.failed _ working pass few, ⟨working, free⟩, pass⟩
  | sent _ few => exact ⟨.sent now working pass few, ⟨working, free⟩, pass⟩

theorem topUp_works : Works env Checked (topUp env now) fun _ => Checked := by
  refine Follows.bind (M := fun _ t => Checked t.own) (Follows.state fun _ => id) fun t => ?_
  refine Follows.ite (fun _ => ?_) fun _ => Follows.pure fun _ => id
  refine Works.turn fun t checked => ?_
  obtain ⟨step, after⟩ := packet_step env (env.sendData t.tick) now checked
  exact step_then (p := Checked) (f := fun _ => (t.sendOnePacket (env.sendData t.tick) now).2) step after
    (Follows.pure fun _ => id)

theorem iterate_topUp_works (now rounds : Nat) :
    Works env Checked (iterate rounds (fun _ => topUp env now) ()) fun _ => Checked := by
  refine .iterate (fun _ => Checked) (fun _ => ?_) rounds ()
  refine Follows.post (topUp_works env now) fun next _ checked => ?_
  cases next <;> exact checked

theorem trySendDuePacket_works : Works env Idle (trySendDuePacket env now) fun _ => Idle := by
  refine .turn fun t idle => ?_
  by_cases agree : t.worker.activeGeneration = t.generation
  · refine step_then (p := Checked) (.pass idle.1) ⟨idle, congrArg some agree.symm⟩ ?_
    rw [if_neg (not_not.mpr agree)]
    refine Follows.post (iterate_topUp_works env now _) fun _ _ checked => checked.1
  · refine step_then (p := Idle) (.pass idle.1) idle ?_
    rw [if_pos agree]
    exact Follows.pure fun _ => id

theorem sleepUntilPrecise_works (deadline : Nat) : Works env Idle (sleepUntilPrecise env deadline) fun _ => Idle := by
  refine .iterate (fun _ => Idle) (fun _ => ?_) _ _
  refine .turn fun t idle => ?_
  refine .ite (fun _ => .pure idle) fun _ => ?_
  refine .known (.bind _ (processPriorityCommands_works env _) fun _ => ?_) idle
  refine .turn fun t idle => ?_
  exact .ite (fun _ => .pure idle) fun _ => .pure idle

theorem round_works :
    Works env Idle (round env) fun more own => Idle own ∧ (more = false → own.worker.running = false) := by
  refine .turn fun t idle => ?_
  refine .known (.bind _ (processPriorityCommands_works env _) fun _ => ?_) idle
  refine .state fun t idle => ?_
  refine .ite (fun stopped => .pure fun own known => ?_) fun _ => ?_
  · exact ⟨known.2, fun _ => known.1 ▸ Bool.eq_false_iff.mpr stopped⟩
  refine .pre (fun _ known => known.2) ?_
  refine .bind _ (processCommands_works env _) fun _ => ?_
  refine .bind _ (processPriorityCommands_works env _) fun _ => ?_
  refine .state fun t idle => ?_
  refine .ite (fun stopped => .pure fun own known => ?_) fun _ => ?_
  · exact ⟨known.2, fun _ => known.1 ▸ Bool.eq_false_iff.mpr stopped⟩
  refine .pre (fun _ known => known.2) ?_
  refine .bind _ (drainCommandAcks_works env _ _) fun _ => ?_
  refine .bind _ (drainDataAcks_works env _ _) fun _ => ?_
  refine .bind _ (update_works env fun t => ⟨decay_tuned _ t, .silent⟩) fun _ => ?_
  refine .bind _ (update_works env fun t => pollFullInfo_tuned _ t) fun _ => ?_
  refine .bind _ (trySendDuePacket_works env _) fun _ => ?_
  refine .state fun t idle => ?_
  refine .pre (fun _ known => known.2) ?_
  refine .bind _ (sleepUntilPrecise_works env _) fun _ => ?_
  refine .state fun t idle => .pure fun own known => ⟨known.2, fun stopped => ?_⟩
  rw [known.1]
  exact stopped

theorem run_works : Works env Idle (run env) fun _ own => own.done = true := by
  refine .bind (fun _ own => Idle own ∧ own.worker.running = false) ?_ fun _ => ?_
  · refine .iterate (fun _ => Idle) (fun _ => ?_) _ _
    refine .bind _ (round_works env) fun more => ?_
    cases more with
    | true => exact .pure fun own known => known.1
    | false => exact .pure fun own known => ⟨known.1, known.2 rfl⟩
  · refine .turn fun t stopped => Follows.update ?_ ?_
    · rintro _ rfl
      rw [finish_eq]
      exact .single (.finish stopped.1.1 stopped.1.2 stopped.2)
    · rintro _ rfl
      rfl

end

/-- Steps only add to the log. -/
theorem Step.log_suffix {env : Env} (step : Step env t t') : t.log <:+ t'.log := by
  cases step with
  | tick => exact List.suffix_rfl
  | call => exact List.suffix_cons _ _
  | move caller next others among moves => exact moves.log.1
  | priority | hangUp => exact (List.suffix_cons _ _).trans (List.suffix_append _ _)
  | receive => exact List.suffix_cons _ _
  | stale => exact List.suffix_rfl
  | fresh => exact List.suffix_append _ _
  | abandon => exact List.suffix_cons _ _
  | tuned _ _ announced =>
    generalize t'.log = log at announced
    cases announced with
    | silent => exact List.suffix_rfl
    | polled | once => exact List.suffix_cons _ _
    | twice => exact List.suffix_append [_, _] _
  | pass | failed | sent => exact List.suffix_cons _ _
  | finish => exact (List.suffix_append _ _).trans (List.suffix_cons _ _)

theorem attempts_ignored {α : Type} {f : List Event → α} (ignores : ∀ command log, f (.command command :: log) = f log)
    (env : Env) (command : Command) (t : Transport) (log : List Event) : f (t.attempts env command ++ log) = f log := by
  unfold Transport.attempts
  split
  · exact (ignores command _).trans (ignores command log)
  · exact ignores command log

theorem rates_ignored {α : Type} {f : List Event → α}
    (ignores : ∀ rate log, f (.command (.setRate rate) :: log) = f log) (rates : List Nat) (log : List Event) :
    f (rates.map (fun rate => .command (.setRate rate)) ++ log) = f log := by
  induction rates with
  | nil => rfl
  | cons rate rates ih => exact (ignores _ _).trans ih

theorem Announced.ignored {α : Type} {f : List Event → α} (ignores : ∀ command log, f (.command command :: log) = f log)
    {outputEnabled : Bool} {log log' : List Event} (announced : Announced outputEnabled log log') : f log' = f log := by
  cases announced with
  | silent => rfl
  | polled | once => exact ignores _ _
  | twice => exact (ignores _ _).trans (ignores _ _)

/-- The state in which the worker's thread ended or was cut off. -/
@[irreducible] def Transport.after (env : Env) (t : Transport) : Transport := (run env t).2

/-- A moment of a run: the worker was cut off before one of its actions, and other threads have taken some of
theirs since. -/
def Transport.moment (env : Env) (actions : List Action) (t : Transport) : Transport :=
  actions.foldl Transport.act (t.after env)

theorem moment_reached (env : Env) (actions : List Action) (idle : Idle t.own) :
    Relation.ReflTransGen (Step env) t (t.moment env actions) := by
  have ran := (run_works env t idle).1
  rw [Transport.moment, Transport.after]
  exact ran.trans (acts_steps env actions _).1

theorem moment_keeps (env : Env) (actions : List Action) (A : Event → List Event → Prop) (I : Transport → Prop)
    (idle : Idle t.own) (start : I t) (step : ∀ t t', I t → Always A t'.log → Step env t t' → I t')
    (assumed : Always A (t.moment env actions).log) : I (t.moment env actions) := by
  have path := moment_reached env actions idle
  generalize t.moment env actions = later at path assumed
  induction path with
  | refl => exact start
  | tail _ move ih => exact step _ _ (ih (assumed.of_suffix move.log_suffix)) assumed move

/-- A whole call of `enqueue`, while nothing else is under way. -/
def Action.wholeEnqueue (points : Nat) : List Action :=
  [.enqueue 30000 (List.replicate points ⟨0, 0, 0, 0, 0⟩), .resume 0, .resume 0, .resume 0]

/-- A whole call of `set_output`. -/
def Action.wholeSetOutput (enabled : Bool) : List Action := [.setOutput enabled, .resume 0, .resume 0]

/-- The other threads act before one of the worker's actions. -/
def Env.acting (turn : Nat) (actions : List Action) (fuel : Nat) : Env :=
  { Env.quiet fuel with schedule := fun tick => if tick = turn then actions else [] }

/-- A worker for a device of 300 points, which takes 640. -/
def Transport.small : Transport := .start (.empty 300) (.forConnection .ethernetServer 300) 0

end LaserDac.LaserCube
