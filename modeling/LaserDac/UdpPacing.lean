import LaserDac.Sessions
import LaserDac.Metronome

/-!
The pace of the UDP adapter. Whatever the other threads and the device do, a step of the adapter is one pass of a
metronome that catches up at most three chunks, with at most one write, at the reading of the clock it takes when it
wakes (`step_passes`).
-/

namespace LaserDac.UdpTimedAdapter

open Runs Runs.Run

/-- What a step comes to, as far as its pace goes. -/
inductive Pass
  /-- The sleep was cut short. -/
  | interrupted
  /-- The step woke at this reading of the clock, and handed a slice to the backend or not. -/
  | woke (now : ℚ) (attempted : Bool)

namespace Pass

def wake : Pass → Option ℚ
  | interrupted => none
  | woke now _ => some now

def attempt : Pass → Option ℚ
  | woke now true => some now
  | _ => none

theorem attempts_sublist (passes : List Pass) : (passes.filterMap attempt).Sublist (passes.filterMap wake) := by
  induction passes with
  | nil => exact .refl _
  | cons pass passes ih =>
    cases pass with
    | interrupted => exact ih
    | woke now attempted =>
      cases attempted with
      | true => exact ih.cons_cons now
      | false => exact ih.cons now

end Pass

section

variable (d first : ℚ)

/-- `next_send` after some passes. -/
def nextSendAfter (passes : List Pass) : ℚ := Metronome.deadlineAfter d (3 * d) (passes.filterMap Pass.wake) first

def Paced (passes : List Pass) : Prop := Metronome.Wakes d (3 * d) (passes.filterMap Pass.wake) first

end

variable {passes : List Pass} {w w' : World} {pass : Pass}

theorem Paced.attempts_within {d first : ℚ} (paced : Paced d first passes) (positive : 0 < d) (start : ℚ) {length : ℚ}
    (wide : 0 ≤ length) :
    ((passes.filterMap Pass.attempt).countP (fun now => start ≤ now ∧ now ≤ start + length) : ℚ) ≤ length / d + 5 := by
  have fewer := (Pass.attempts_sublist passes).countP_le (p := fun now => start ≤ now ∧ now ≤ start + length)
  have bound := Metronome.wakes_within positive (by linarith) paced start wide
  have counted : ((passes.filterMap Pass.attempt).countP (fun now => start ≤ now ∧ now ≤ start + length) : ℚ) ≤
      (passes.filterMap Pass.wake).countP (fun now => start ≤ now ∧ now ≤ start + length) := by
    exact_mod_cast fewer
  have scaled := mul_le_mul_of_nonneg_right counted positive.le
  have limit : (length / d + 5) * d = length + 5 * d := by
    field_simp
  refine le_of_mul_le_mul_right ?_ positive
  linarith

/-! ### A step is a pass -/

def isAttempt : Event → Bool
  | .wrote .. => true
  | _ => false

/-- The slices that were handed to the backend. -/
def attempts (w : World) : Nat := w.log.countP isAttempt

/-- A step of the adapter, by what it starts from. -/
structure Stage where
  adapter : UdpTimedAdapter
  ctx : LoopCtx
  world : World

namespace Stage

variable (env : Env) (stage : Stage)

/-- Where the step leaves the session. -/
def after : World := (stage.adapter.step env stage.ctx stage.world).2

/-- The reading of the clock that the step takes after waking, unless its sleep is cut short. -/
def reading : Option Nat :=
  match sleepUntilPrecise env stage.adapter.nextSend stage.world with
  | (some none, awake) => (clockNow env awake).1
  | _ => none

/-- The reading of a step that hands a slice to the backend. -/
def attempt : Option Nat := if attempts stage.world < attempts (stage.after env) then stage.reading env else none

def asPass : Pass :=
  match stage.reading env with
  | none => .interrupted
  | some now => .woke now (attempts stage.world < attempts (stage.after env))

theorem asPass_wake : (stage.asPass env).wake = (stage.reading env).map Nat.cast := by
  unfold asPass
  cases stage.reading env <;> rfl

theorem asPass_attempt : (stage.asPass env).attempt = (stage.attempt env).map Nat.cast := by
  unfold asPass attempt
  cases stage.reading env with
  | none => simp [Pass.attempt]
  | some now => by_cases more : attempts stage.world < attempts (stage.after env) <;> simp [Pass.attempt, more]

end Stage

/-- A part of a run that neither moves the deadline nor writes. -/
structure Still (w w' : World) : Prop where
  adapter : w'.adapter = w.adapter
  attempts : attempts w' = attempts w
  tick : w.tick ≤ w'.tick

theorem Still.refl (w : World) : Still w w := ⟨rfl, rfl, le_rfl⟩

theorem Still.trans {w'' : World} (first : Still w w') (later : Still w' w'') : Still w w'' :=
  ⟨later.adapter.trans first.adapter, later.attempts.trans first.attempts, first.tick.trans later.tick⟩

theorem Still.of_record {event : Event} (other : isAttempt event = false) (adapter : w'.adapter = w.adapter)
    (log : w'.log = event :: w.log) (tick : w'.tick = w.tick) : Still w w' := by
  refine ⟨adapter, ?_, tick.ge⟩
  simp [UdpTimedAdapter.attempts, log, other]

theorem interleave_still (env : Env) (w : World) : Still w (w.interleave env) := by
  have acts (actions : List Action) : ∀ w : World, Still w (actions.foldl World.act w) := by
    induction actions with
    | nil => exact Still.refl
    | cons action actions ih =>
      intro w
      refine Still.trans ?_ (ih (w.act action))
      unfold World.act
      dsimp only
      split
      · exact ⟨rfl, rfl, le_rfl⟩
      · exact .of_record rfl rfl rfl rfl
  have acted := acts (env.schedule w.tick) w
  exact ⟨acted.adapter, acted.attempts, Nat.le_succ w.tick⟩

def Waits {α : Type} (m : Run World α) (Q : α → World → Prop) : Prop := Follows Still (fun _ => True) m Q

namespace Waits

variable {α β : Type} {Q : α → World → Prop}

theorem bind {m : Run World β} {k : β → Run World α} {M : β → World → Prop} (first : Waits m M)
    (rest : ∀ b, Waits (k b) Q) : Waits (m >>= k) Q :=
  Follows.bind (first.post fun _ _ _ => trivial) rest

theorem state {k : World → Run World α} (rest : ∀ w, Waits (k w) Q) : Waits (Run.state >>= k) Q :=
  Follows.bind (M := fun _ _ => True) (Follows.state fun _ _ => trivial) rest

theorem pure {a : α} (holds : ∀ w, Q a w) : Waits (Pure.pure a) Q := Follows.pure fun w _ => holds w

theorem update {f : World → World} (still : ∀ w, Still w (f w)) : Waits (Run.update f) fun _ _ => True :=
  Follows.update (fun w _ => .single (still w)) fun _ _ => trivial

end Waits

section

variable (env : Env)

theorem access_waits : Waits (access env) fun _ _ => True :=
  .state fun _ => Follows.ite (fun _ => Waits.update (interleave_still env)) fun _ => Follows.cut

theorem query_waits {α : Type} (answer : World → α) : Waits (query env answer) fun a w => a = answer w := by
  refine .bind (access_waits env) fun _ => ?_
  refine Follows.bind (M := fun w w' => w = w') (Follows.state fun _ _ => rfl) fun w => ?_
  exact Follows.pure fun w' same => congrArg answer same

theorem clockNow_waits : Waits (clockNow env) fun now w => now = env.now w.tick := query_waits env _

theorem command_waits {α : Type} (answer : World → α) {event : World → α → Event}
    (other : ∀ w a, isAttempt (event w a) = false) : Waits (command env answer event) fun _ _ => True := by
  refine .bind (access_waits env) fun _ => .state fun w => ?_
  exact .bind (.update fun _ => .of_record (other w (answer w)) rfl rfl rfl) fun _ => .pure fun _ => trivial

theorem closeIfDisarmed_waits : Waits (closeIfDisarmed env) fun _ _ => True := by
  refine .bind (query_waits env _) fun armed => .state fun w => ?_
  refine Follows.whenever (fun _ => ?_) fun _ _ _ => trivial
  exact Waits.bind (access_waits env) fun _ => .update fun _ => .of_record rfl rfl rfl rfl

theorem processControlMessages_waits : Waits (processControlMessages env) fun _ _ => True := by
  refine Follows.iterate (fun _ _ => True) (fun action => ?_) _ _
  refine Waits.bind (M := fun _ _ => True) ?_ fun msg => ?_
  · refine .bind (access_waits env) fun _ => .state fun w => ?_
    split
    · exact .pure fun _ => trivial
    · exact .bind (.update fun w => ⟨rfl, rfl, le_rfl⟩) fun _ => .pure fun _ => trivial
  · split <;> exact .pure fun _ => trivial

theorem checkControl_waits : Waits (checkControl env) fun next _ => next ≠ .inr none := by
  refine .bind (query_waits env _) fun stop => ?_
  refine Follows.ite (fun _ => .pure fun _ => by simp) fun _ => ?_
  refine .bind (closeIfDisarmed_waits env) fun _ => ?_
  refine .bind (processControlMessages_waits env) fun action => ?_
  split <;> exact .pure fun _ => by simp

theorem sleepUntilPrecise_waits (deadline : Nat) :
    Waits (sleepUntilPrecise env deadline) fun ended w => ended = none → deadline ≤ env.now w.tick := by
  refine Follows.iterate (fun _ _ => True) (fun _ => ?_) _ _
  refine Follows.bind (query_waits env _) fun now => ?_
  refine Follows.ite (fun reached => Follows.pure fun w read _ => read ▸ reached) fun _ => ?_
  refine Follows.bind (M := fun _ _ => True) ?_ fun _ => ?_
  · exact Follows.whenever (fun _ => (access_waits env).pre fun _ _ => trivial) fun _ _ _ => trivial
  refine (checkControl_waits env).post fun next w ended => ?_
  cases next with
  | inl => trivial
  | inr => exact fun none => absurd (congrArg _ none) ended

theorem produce_waits (isArmed : Bool) (pps : Nat) (result : World → Option (Nat × Source)) :
    Waits (produce env isArmed pps result) fun _ _ => True := by
  refine .bind (access_waits env) fun _ => .state fun w => ?_
  refine Follows.bind (M := fun _ _ => True) (Follows.ofOption fun _ _ _ _ => trivial) fun made => ?_
  obtain ⟨n, source⟩ := made
  refine Follows.ite (fun _ => ?_) fun _ => ?_
  · exact Waits.bind (.update fun _ => .of_record rfl rfl rfl rfl) fun _ => .pure fun _ => trivial
  · exact Waits.bind (.update fun _ => .of_record rfl rfl rfl rfl) fun _ => .pure fun _ => trivial

theorem report_waits (error : Error) : Waits (report error) fun _ _ => True :=
  .update fun _ => .of_record rfl rfl rfl rfl

theorem changeSource_waits (f : Source → Source) : Waits (changeSource f) fun _ _ => True :=
  .update fun _ => ⟨rfl, rfl, le_rfl⟩

theorem commitWritten_waits (n : Nat) (isArmed : Bool) : Waits (commitWritten n isArmed) fun _ _ => True :=
  .update fun _ => .of_record rfl rfl rfl rfl

theorem writeFailed_waits (error : Error) : Waits (writeFailed env error) fun _ _ => True := by
  unfold writeFailed
  split
  · exact .pure fun _ => trivial
  · exact .bind (report_waits _) fun _ => .pure fun _ => trivial
  · refine .state fun w => .bind (command_waits env _ fun _ _ => rfl) fun _ => ?_
    exact .bind (report_waits _) fun _ => .pure fun _ => trivial

end

section

variable (env : Env) (adapter : UdpTimedAdapter) (start : World)

/-- A moment of a step of the adapter that began at the start, if the step has come to this pass so far. -/
structure During (pass : Pass) (w : World) : Prop where
  paced : Paced adapter.chunkDuration adapter.nextSend [pass]
  deadline : ∃ held : UdpTimedAdapter, w.adapter = .udpTimed held ∧
    (held.nextSend : ℚ) = nextSendAfter adapter.chunkDuration adapter.nextSend [pass]
  attempts : attempts w = attempts start + ([pass].filterMap Pass.attempt).length
  tick : start.tick ≤ w.tick
  read : ∀ now attempted, pass = .woke now attempted → ∃ tick, start.tick ≤ tick ∧ tick ≤ w.tick ∧ now = env.now tick

variable {env adapter start}

theorem During.still (during : During env adapter start pass w) (still : Still w w') :
    During env adapter start pass w' where
  paced := during.paced
  deadline := by
    rw [still.adapter]
    exact during.deadline
  attempts := still.attempts.trans during.attempts
  tick := during.tick.trans still.tick
  read now attempted same := by
    obtain ⟨tick, late, early, read⟩ := during.read now attempted same
    exact ⟨tick, late, early.trans still.tick, read⟩

/-- The program runs within a step that comes to a pass with this wake. -/
def Passes {α : Type} (env : Env) (adapter : UdpTimedAdapter) (start : World) (wake : Option ℚ) (P : World → Prop)
    (m : Run World α) (Q : α → World → Prop) : Prop :=
  Follows (fun _ w => ∃ pass : Pass, pass.wake = wake ∧ During env adapter start pass w) P m Q

section

variable {α : Type} {P : World → Prop}

theorem Passes.waits {m : Run World α} {Q : α → World → Prop} (waits : Waits m Q) (pass : Pass) :
    Passes env adapter start pass.wake (During env adapter start pass) m fun _ => During env adapter start pass := by
  intro w during
  obtain ⟨path, -⟩ := waits w trivial
  have along : ∀ w', Relation.ReflTransGen Still w w' → During env adapter start pass w' ∧
      Relation.ReflTransGen (fun _ w => ∃ other : Pass, other.wake = pass.wake ∧ During env adapter start other w)
        w w' := by
    intro w' path
    induction path with
    | refl => exact ⟨during, .refl⟩
    | tail _ step ih => exact ⟨ih.1.still step, ih.2.tail ⟨pass, rfl, ih.1.still step⟩⟩
  exact ⟨(along _ path).2, fun _ _ => (along _ path).1⟩

theorem setAdapter_passes (pass : Pass) {held : UdpTimedAdapter}
    (same : (held.nextSend : ℚ) = nextSendAfter adapter.chunkDuration adapter.nextSend [pass]) :
    Passes env adapter start pass.wake (During env adapter start pass) (setAdapter (.udpTimed held)) fun _ =>
      During env adapter start pass := by
  have kept (w : World) (during : During env adapter start pass w) :
      During env adapter start pass { w with adapter := .udpTimed held } :=
    ⟨during.paced, ⟨held, rfl, same⟩, during.attempts, during.tick, during.read⟩
  exact Follows.update (fun w during => .single ⟨pass, rfl, kept w during⟩) kept

end

theorem tryWrite_passes (now : ℚ) (pps : Nat) (slice : List LaserPoint) :
    Passes env adapter start (some now) (During env adapter start (.woke now false)) (tryWrite env pps slice) fun _ =>
      During env adapter start (.woke now true) := by
  refine Follows.bind (Passes.waits (access_waits env) (.woke now false)) fun _ => ?_
  refine Follows.bind (M := fun _ => During env adapter start (.woke now false)) (Follows.state fun _ => id) fun w => ?_
  refine Follows.bind (M := fun _ => During env adapter start (.woke now true)) ?_ fun _ => Follows.pure fun _ => id
  have wrote (w' : World) (during : During env adapter start (.woke now false) w') (event : Event)
      (attempt : isAttempt event = true) : During env adapter start (.woke now true) (w'.record event) := by
    refine ⟨during.paced, during.deadline, ?_, during.tick, fun at_ _ same => ?_⟩
    · have before : UdpTimedAdapter.attempts w' = UdpTimedAdapter.attempts start := during.attempts
      simp only [UdpTimedAdapter.attempts] at before
      simp [UdpTimedAdapter.attempts, World.record, attempt, before, Pass.attempt]
    · obtain ⟨rfl, -⟩ := Pass.woke.inj same
      exact during.read _ _ rfl
  exact Follows.update (fun w' during => .single ⟨_, rfl, wrote w' during _ rfl⟩) fun w' during => wrote w' during _ rfl

theorem deliverRetained_passes {held : UdpTimedAdapter} (ctx : LoopCtx) (pps : Nat) (now : ℚ)
    (same : (held.nextSend : ℚ) = nextSendAfter adapter.chunkDuration adapter.nextSend [.woke now false]) :
    Passes env adapter start (some now) (During env adapter start (.woke now false))
      (deliverRetained env ctx pps (.udpTimed held) (return .continue)) fun _ _ => True := by
  refine Follows.bind (M := fun _ => During env adapter start (.woke now false)) (Follows.state fun _ => id) fun w => ?_
  split
  · exact Follows.bind (setAdapter_passes _ same) fun _ => Follows.pure fun _ _ => trivial
  refine Follows.bind (tryWrite_passes now pps _) fun result => ?_
  split
  · refine Follows.bind (Passes.waits (commitWritten_waits _ _) _) fun _ => ?_
    exact Follows.bind (setAdapter_passes _ same) fun _ => Follows.pure fun _ _ => trivial
  · exact Follows.pure fun _ _ => trivial
  · exact (Passes.waits (writeFailed_waits env _) _).post fun _ _ _ => trivial

theorem recomputeChunk_nextSend (adapter : UdpTimedAdapter) (pps : Nat) :
    (adapter.recomputeChunk pps).nextSend = adapter.nextSend := by
  unfold recomputeChunk
  dsimp only
  split <;> rfl

theorem advance_nextSend (adapter : UdpTimedAdapter) {now : Nat} (old : 3 * adapter.chunkDuration ≤ now) :
    (((adapter.advance now).nextSend : Nat) : ℚ) =
      Metronome.advance (adapter.chunkDuration : ℚ) (3 * adapter.chunkDuration) now adapter.nextSend := by
  have covered : adapter.chunkDuration * 3 ≤ now := by omega
  unfold advance Metronome.advance
  dsimp only
  rw [if_pos covered]
  push_cast [Nat.cast_sub covered]
  rw [mul_comm (adapter.chunkDuration : ℚ) 3]

end

section

variable (env : Env) (adapter : UdpTimedAdapter) (ctx : LoopCtx) (start : World)

/-- Wherever it is cut off, a step of the adapter is a pass of the metronome, with the wake at its own reading. -/
theorem step_wakes (held : start.adapter = .udpTimed adapter) (clock : Monotone env.now)
    (old : 3 * adapter.chunkDuration ≤ env.now start.tick) :
    ∃ pass : Pass, pass.wake = (Stage.reading env ⟨adapter, ctx, start⟩).map Nat.cast ∧
      During env adapter start pass (adapter.step env ctx start).2 := by
  have begins : During env adapter start .interrupted start := by
    refine ⟨trivial, ⟨adapter, held, rfl⟩, rfl, le_rfl, fun now attempted same => ?_⟩
    cases same
  have asleep := (sleepUntilPrecise_waits env adapter.nextSend).keeps (fun _ _ => During.still) start trivial begins
  have reached := (sleepUntilPrecise_waits env adapter.nextSend start trivial).2
  unfold Stage.reading step
  rcases slept : sleepUntilPrecise env adapter.nextSend start with ⟨_ | _ | outcome, waking⟩
  all_goals rw [slept] at asleep reached
  · exact ⟨.interrupted, rfl, bind_of_cut slept ▸ asleep⟩
  · have awake := (clockNow_waits env).keeps (fun _ _ => During.still) waking trivial asleep
    have onward := (clockNow_waits env).keeps (I := Still waking) (fun _ _ => Still.trans) waking trivial (Still.refl _)
    have shown := (clockNow_waits env waking trivial).2
    rw [bind_of_result slept]
    dsimp only
    rcases read : clockNow env waking with ⟨_ | now, w⟩
    all_goals rw [read] at awake onward shown
    · exact ⟨.interrupted, rfl, bind_of_cut read ▸ awake⟩
    · rw [bind_of_result read]
      have shown := shown now rfl
      -- The sleep was not cut short: the clock is past the deadline, and stays so.
      have late : adapter.nextSend ≤ now := shown ▸ (reached none rfl rfl).trans (clock onward.tick)
      have ran : 3 * adapter.chunkDuration ≤ now := shown ▸ old.trans (clock awake.tick)
      have woken : During env adapter start (.woke now false) { w with adapter := .udpTimed (adapter.advance now) } := by
        refine ⟨⟨by exact_mod_cast late, trivial⟩, ⟨_, rfl, advance_nextSend adapter ran⟩, awake.attempts, awake.tick,
          fun at_ attempted same => ?_⟩
        obtain ⟨rfl, -⟩ := Pass.woke.inj same
        exact ⟨w.tick, awake.tick, le_rfl, congrArg _ shown⟩
      rw [setAdapter, bind_update]
      refine Follows.keeps (I := fun w => ∃ pass : Pass, pass.wake = some (now : ℚ) ∧ During env adapter start pass w)
        (P := During env adapter start (.woke now false)) (Q := fun _ _ => True) ?_ (fun _ _ _ => id) _ woken
        ⟨_, rfl, woken⟩
      refine Follows.bind (Passes.waits (command_waits env _ fun _ _ => rfl) (.woke now false)) fun pps => ?_
      have recomputed := advance_nextSend adapter ran
      rw [← recomputeChunk_nextSend _ pps] at recomputed
      generalize (adapter.advance now).recomputeChunk pps = held at recomputed
      refine Follows.bind (setAdapter_passes (.woke now false) recomputed) fun _ => ?_
      refine Follows.bind (M := fun _ => During env adapter start (.woke now false)) (Follows.state fun _ => id)
        fun w => ?_
      refine Follows.ite (fun _ => ?_) fun _ => ?_
      · exact Follows.bind (Passes.waits (report_waits _) (.woke now false)) fun _ => Follows.pure fun _ _ => trivial
      refine Follows.bind (Passes.waits (changeSource_waits _) (.woke now false)) fun _ => ?_
      refine Follows.ite (fun _ => deliverRetained_passes ctx pps now recomputed) fun _ => ?_
      refine Follows.bind (Passes.waits (produce_waits env _ _ _) (.woke now false)) fun n => ?_
      refine Follows.ite (fun _ => Follows.pure fun _ _ => trivial) fun _ => ?_
      refine Follows.bind (setAdapter_passes (.woke now false) recomputed) fun _ => ?_
      exact deliverRetained_passes ctx pps now recomputed
  · exact ⟨.interrupted, rfl, bind_of_result slept ▸ asleep⟩

theorem step_passes (held : start.adapter = .udpTimed adapter) (clock : Monotone env.now)
    (old : 3 * adapter.chunkDuration ≤ env.now start.tick) :
    During env adapter start (Stage.asPass env ⟨adapter, ctx, start⟩) (adapter.step env ctx start).2 := by
  obtain ⟨pass, wake, during⟩ := step_wakes env adapter ctx start held clock old
  have attempted := during.attempts
  suffices same : Stage.asPass env ⟨adapter, ctx, start⟩ = pass from same ▸ during
  unfold Stage.asPass Stage.after
  cases reading : Stage.reading env ⟨adapter, ctx, start⟩ with
  | none =>
    rw [reading] at wake
    cases pass with
    | interrupted => rfl
    | woke => cases wake
  | some now =>
    rw [reading] at wake
    cases pass with
    | interrupted => cases wake
    | woke at_ wrote =>
      obtain rfl : at_ = now := Option.some.inj wake
      cases wrote <;> simp [attempted, Pass.attempt]

end

/-- Steps of the adapter with chunks of one duration, the latest last, and between them what leaves the deadline alone:
no reconnect, which sets a new one. -/
inductive Course (env : Env) (d : Nat) (start : World) : List Stage → World → Prop
  | start : Course env d start [] start
  | still {stages : List Stage} {w w' : World} (course : Course env d start stages w) (still : Still w w') :
    Course env d start stages w'
  | step {stages : List Stage} {w : World} (course : Course env d start stages w) (adapter : UdpTimedAdapter)
    (held : w.adapter = .udpTimed adapter) (duration : adapter.chunkDuration = d) (ctx : LoopCtx) :
    Course env d start (stages ++ [⟨adapter, ctx, w⟩]) (adapter.step env ctx w).2

/-- A course of some steps. -/
def Steps (env : Env) (d : Nat) (start w : World) : Prop := ∃ stages, Course env d start stages w

theorem nextSendAfter_snoc (d first : ℚ) (passes : List Pass) (pass : Pass) :
    nextSendAfter d first (passes ++ [pass]) = nextSendAfter d (nextSendAfter d first passes) [pass] := by
  simp [nextSendAfter, Metronome.deadlineAfter]

theorem Paced.snoc {d first : ℚ} (paced : Paced d first passes) (last : Paced d (nextSendAfter d first passes) [pass]) :
    Paced d first (passes ++ [pass]) := by
  unfold Paced at paced ⊢
  rw [List.filterMap_append]
  exact paced.append last

section

variable {env : Env} {d : Nat} {start : World} {stages : List Stage} {adapter : UdpTimedAdapter}

/-- The steps of a session keep the pace: their passes are those of a metronome, which the adapter's deadline follows
and which counts the writes. -/
theorem Course.paced (clock : Monotone env.now) (course : Course env d start stages w)
    (old : 3 * d ≤ env.now start.tick) (held : start.adapter = .udpTimed adapter) :
    Paced d adapter.nextSend (stages.map (Stage.asPass env)) ∧
      (∃ held : UdpTimedAdapter, w.adapter = .udpTimed held ∧
        (held.nextSend : ℚ) = nextSendAfter d adapter.nextSend (stages.map (Stage.asPass env))) ∧
      attempts w = attempts start + (stages.filterMap (Stage.attempt env)).length ∧ start.tick ≤ w.tick ∧
      ∀ now ∈ (stages.map (Stage.asPass env)).filterMap Pass.wake, (env.now start.tick : ℚ) ≤ now ∧
        now ≤ env.now w.tick := by
  induction course with
  | start => exact ⟨trivial, ⟨adapter, held, rfl⟩, rfl, le_rfl, by simp⟩
  | still course still ih =>
    obtain ⟨paced, deadline, written, later, read⟩ := ih
    rw [still.adapter, still.attempts]
    refine ⟨paced, deadline, written, later.trans still.tick, fun now among => ?_⟩
    exact ⟨(read now among).1, (read now among).2.trans (by exact_mod_cast clock still.tick)⟩
  | @step stages w course current held duration ctx ih =>
    obtain ⟨paced, ⟨known, same, deadline⟩, written, later, read⟩ := ih
    obtain rfl : current = known := Adapter.udpTimed.inj (held.symm.trans same)
    obtain ⟨last, after, attempted, onward, woke⟩ :=
      step_passes env current ctx w held clock (duration ▸ old.trans (clock later))
    rw [duration, deadline] at last after
    rw [List.map_append, List.map_singleton]
    refine ⟨paced.snoc last, nextSendAfter_snoc _ _ _ _ ▸ after, ?_, later.trans onward, ?_⟩
    · rw [List.filterMap_append, List.length_append, ← Nat.add_assoc, ← written, attempted]
      simp only [List.filterMap_cons, List.filterMap_nil, Stage.asPass_attempt]
      cases Stage.attempt env ⟨current, ctx, w⟩ <;> rfl
    · intro now among
      rw [List.filterMap_append, List.mem_append] at among
      rcases among with earlier | new
      · exact ⟨(read now earlier).1, (read now earlier).2.trans (by exact_mod_cast clock onward)⟩
      · cases pass : Stage.asPass env ⟨current, ctx, w⟩ with
        | interrupted => simp [pass, Pass.wake] at new
        | woke reading =>
          obtain rfl : now = reading := by simpa [pass, Pass.wake] using new
          obtain ⟨tick, late, early, rfl⟩ := woke now _ pass
          exact ⟨by exact_mod_cast clock (later.trans late), by exact_mod_cast clock early⟩

theorem nextSendAfter_asPass (stage : Stage) (first : ℚ) :
    nextSendAfter d first [stage.asPass env] =
      (stage.reading env).elim first fun now => Metronome.advance d (3 * d) now first := by
  unfold nextSendAfter
  simp only [List.filterMap_cons, List.filterMap_nil, Stage.asPass_wake]
  cases stage.reading env <;> rfl

/-- Where a step leaves the deadline. -/
theorem step_deadline {w : World} (ctx : LoopCtx) (clock : Monotone env.now) (held : w.adapter = .udpTimed adapter)
    (duration : adapter.chunkDuration = d) (old : 3 * d ≤ env.now w.tick) :
    ∃ next : UdpTimedAdapter, (Stage.after env ⟨adapter, ctx, w⟩).adapter = .udpTimed next ∧
      (Stage.reading env ⟨adapter, ctx, w⟩ = none → next.nextSend = adapter.nextSend) ∧
      ∀ now, Stage.reading env ⟨adapter, ctx, w⟩ = some now →
        now ≤ next.nextSend + 3 * d ∧ (now ≤ adapter.nextSend + 4 * d → next.nextSend = adapter.nextSend + d) := by
  obtain ⟨next, after, deadline⟩ := (step_passes env adapter ctx w held clock (duration ▸ old)).deadline
  rw [duration, nextSendAfter_asPass] at deadline
  refine ⟨next, after, fun asleep => ?_, fun now read => ?_⟩
  · rw [asleep] at deadline
    exact Nat.cast_injective deadline
  · rw [read] at deadline
    have behind := Metronome.le_advance (d : ℚ) (3 * d) now adapter.nextSend
    change (next.nextSend : ℚ) = Metronome.advance (d : ℚ) (3 * d) now adapter.nextSend at deadline
    constructor
    · rw [← deadline] at behind
      have : (now : ℚ) ≤ next.nextSend + 3 * d := by linarith
      exact_mod_cast this
    · intro soon
      have soon : (now : ℚ) ≤ adapter.nextSend + 4 * d := by exact_mod_cast soon
      rw [Metronome.advance, max_eq_left (by linarith)] at deadline
      exact_mod_cast deadline

/-- No step leaves the deadline further behind than three chunks, and none that wakes within four loses time. -/
theorem Course.deadlines (clock : Monotone env.now) (course : Course env d start stages w)
    (old : 3 * d ≤ env.now start.tick) (held : start.adapter = .udpTimed adapter) :
    (∀ stage ∈ stages, ∀ now, stage.reading env = some now →
      ∃ next : UdpTimedAdapter, (stage.after env).adapter = .udpTimed next ∧ now ≤ next.nextSend + 3 * d) ∧
    ((∀ stage ∈ stages, ∀ now, stage.reading env = some now → now ≤ stage.adapter.nextSend + 4 * d) →
      ∃ last : UdpTimedAdapter, w.adapter = .udpTimed last ∧
        last.nextSend = adapter.nextSend + (stages.filterMap (Stage.reading env)).length * d) := by
  induction course with
  | start => exact ⟨by simp, fun _ => ⟨adapter, held, by simp⟩⟩
  | still course still ih =>
    rw [still.adapter]
    exact ih
  | @step stages w course current held' duration ctx ih =>
    obtain ⟨-, -, -, later, -⟩ := course.paced clock old held
    obtain ⟨next, after, asleep, awake⟩ := step_deadline ctx clock held' duration (old.trans (clock later))
    refine ⟨fun stage among now read => ?_, fun soon => ?_⟩
    · rcases List.mem_append.mp among with earlier | new
      · exact ih.1 stage earlier now read
      · obtain rfl := List.mem_singleton.mp new
        exact ⟨next, after, (awake now read).1⟩
    · obtain ⟨known, same, deadline⟩ := ih.2 fun stage earlier => soon stage (List.mem_append_left _ earlier)
      obtain rfl : current = known := Adapter.udpTimed.inj (held'.symm.trans same)
      refine ⟨next, after, ?_⟩
      rw [List.filterMap_append, List.length_append]
      cases read : Stage.reading env ⟨current, ctx, w⟩ with
      | none => simp [asleep read, deadline, read]
      | some now =>
        have onTime := soon _ (List.mem_append_right _ (List.mem_singleton_self _)) now read
        simp only [List.filterMap_cons, List.filterMap_nil, read, List.length_singleton, (awake now read).2 onTime, deadline]
        ring

/-- The attempts of the passes are those of the steps. -/
theorem attempts_asPass (env : Env) (stages : List Stage) :
    (stages.map (Stage.asPass env)).filterMap Pass.attempt =
      (stages.filterMap (Stage.attempt env)).map (Nat.cast : Nat → ℚ) := by
  rw [List.filterMap_map, List.map_filterMap]
  exact List.filterMap_congr fun stage _ => stage.asPass_attempt env

end

/-- Steps of the adapter with chunks of one duration. A step that wakes leaves the deadline at most three chunks behind
its reading of the clock. Every slice is handed over at the reading of its step, and the readings of any window that
are counted so are bounded by its length. If no step wakes more than four chunks after its deadline, every wake has
moved the deadline on by one chunk. -/
theorem catchUp_bounded (env : Env) (clock : Monotone env.now) (d : Nat) (positive : 0 < d) (start w : World)
    (adapter : UdpTimedAdapter) (held : start.adapter = .udpTimed adapter) (old : 3 * d ≤ env.now start.tick)
    (stages : List Stage) (course : Course env d start stages w) :
    (∀ stage ∈ stages, ∀ now, stage.reading env = some now →
      ∃ next : UdpTimedAdapter, (stage.after env).adapter = .udpTimed next ∧ now ≤ next.nextSend + 3 * d) ∧
    attempts w = attempts start + (stages.filterMap (Stage.attempt env)).length ∧
    (∀ begin length : ℚ, 0 ≤ length →
      ((stages.filterMap (Stage.attempt env)).countP
        (fun now : Nat => begin ≤ (now : ℚ) ∧ (now : ℚ) ≤ begin + length) : ℚ) ≤ length / d + 5) ∧
    ((∀ stage ∈ stages, ∀ now, stage.reading env = some now → now ≤ stage.adapter.nextSend + 4 * d) →
      ∃ last : UdpTimedAdapter, w.adapter = .udpTimed last ∧
        last.nextSend = adapter.nextSend + (stages.filterMap (Stage.reading env)).length * d) := by
  obtain ⟨paced, -, written, -, -⟩ := course.paced clock old held
  obtain ⟨behind, onTime⟩ := course.deadlines clock old held
  refine ⟨behind, written, fun begin length wide => ?_, onTime⟩
  have bound := paced.attempts_within (by exact_mod_cast positive) begin wide
  rw [attempts_asPass, List.countP_map] at bound
  exact bound

/-- A clock that starts ten nanoseconds late, with chunks of one nanosecond. -/
def lateClock : Env := { Env.calm 60 with now := fun tick => 10 + tick / 12 }

theorem lateClock_monotone : Monotone lateClock.now := fun _ _ later =>
  Nat.add_le_add_left (Nat.div_le_div_right later) 10

def lateStage (nextSend : Nat) (world : World) : Stage := ⟨⟨nextSend, 1, 1, 1, false, 1⟩, ⟨1, true⟩, world⟩

/-- A session that is due at time 0. -/
def lateStart : World :=
  { World.start (.newWithPpsBounds 0 1 1 1) false ⟨1, 1, 1, .udpTimed⟩ (.chunks (.new .blank 0 0)) with
    adapter := .udpTimed ⟨0, 1, 1, 1, false, 1⟩ }

def lateFirst : Stage := lateStage 0 lateStart

def lateSecond : Stage := lateStage 7 (lateFirst.after lateClock)

def lateThird : Stage := lateStage 8 (lateSecond.after lateClock)

theorem lateStart_course :
    Course lateClock 1 lateStart [lateFirst, lateSecond, lateThird] (lateThird.after lateClock) :=
  .step (.step (.step .start lateFirst.adapter rfl rfl lateFirst.ctx) lateSecond.adapter (by decide +kernel) rfl
    lateSecond.ctx) lateThird.adapter (by decide +kernel) rfl lateThird.ctx

/-- The first step wakes ten chunks late, and three of them are made up for at once. -/
theorem catchUp_bounded_late :
    (∃ next : UdpTimedAdapter, (lateFirst.after lateClock).adapter = .udpTimed next ∧ 10 ≤ next.nextSend + 3 * 1) ∧
    attempts (lateThird.after lateClock) = attempts lateStart + 3 ∧
    ∃ last : UdpTimedAdapter, (lateThird.after lateClock).adapter = .udpTimed last ∧ last.nextSend = 7 + 2 * 1 := by
  have rest : Course lateClock 1 (lateFirst.after lateClock) [lateSecond, lateThird] (lateThird.after lateClock) :=
    .step (.step .start lateSecond.adapter (by decide +kernel) rfl lateSecond.ctx) lateThird.adapter
      (by decide +kernel) rfl lateThird.ctx
  have whole := catchUp_bounded lateClock lateClock_monotone 1 Nat.one_pos _ _ lateFirst.adapter rfl (by decide) _
    lateStart_course
  have later := catchUp_bounded lateClock lateClock_monotone 1 Nat.one_pos _ _ lateSecond.adapter (by decide +kernel)
    (by decide +kernel) _ rest
  refine ⟨whole.1 lateFirst (by simp) 10 (by decide +kernel), whole.2.1, ?_⟩
  exact later.2.2.2 (by decide +kernel)

/-- Whatever the other threads and the device do, the adapter hands over no more slices than the time that passed
has room for, and five. -/
theorem steps_bounded (env : Env) (clock : Monotone env.now) (d : Nat) (positive : 0 < d) (start w : World)
    (steps : Steps env d start w) (old : 3 * d ≤ env.now start.tick) (adapter : UdpTimedAdapter)
    (held : start.adapter = .udpTimed adapter) :
    (attempts w - attempts start) * d ≤ env.now w.tick - env.now start.tick + 5 * d := by
  obtain ⟨stages, course⟩ := steps
  obtain ⟨paced, -, written, later, read⟩ := course.paced clock old held
  have positive : (0 : ℚ) < d := by exact_mod_cast positive
  have wide : (0 : ℚ) ≤ env.now w.tick - env.now start.tick := by
    rw [sub_nonneg]
    exact_mod_cast clock later
  have bound := Metronome.wakes_within positive (by linarith) paced (env.now start.tick) wide
  rw [List.countP_eq_length.mpr fun now among => by simpa using read now among] at bound
  have counted := congrArg List.length (attempts_asPass env stages)
  rw [List.length_map] at counted
  have fewer : ((stages.filterMap (Stage.attempt env)).length : ℚ) * d ≤
      ((stages.map (Stage.asPass env)).filterMap Pass.wake).length * d := by
    rw [← counted]
    exact mul_le_mul_of_nonneg_right (by exact_mod_cast (Pass.attempts_sublist _).length_le) positive.le
  rw [written, Nat.add_sub_cancel_left, ← Nat.cast_le (α := ℚ)]
  push_cast [Nat.cast_sub (clock later)]
  linarith

theorem steps_bounded_three :
    attempts (lateThird.after lateClock) - attempts lateStart = 3 ∧
      (attempts (lateThird.after lateClock) - attempts lateStart) * 1 ≤
        lateClock.now (lateThird.after lateClock).tick - lateClock.now lateStart.tick + 5 * 1 :=
  ⟨by decide +kernel, steps_bounded lateClock lateClock_monotone 1 Nat.one_pos _ _
    ⟨_, lateStart_course⟩ (by decide) lateFirst.adapter rfl⟩

end LaserDac.UdpTimedAdapter
