import LaserDac.Generations

/-!
Disarmed output. A slice produced disarmed is parked before its colours pass the delay line, so it is dark if the line
carries none. The line is emptied whenever a disarmed state is handled. The gap is the step in which a disarm is read
while an armed state is still the handled one.
-/

namespace LaserDac

open Runs

/-- The slice of the last production, and whether it was an armed one. -/
def lastProduced : List Event → Option (List LaserPoint × Bool)
  | [] => none
  | .produced slice isArmed _ _ :: _ => some (slice, isArmed)
  | _ :: earlier => lastProduced earlier

/-- The slice is the one produced last, and was produced so. -/
def Shown (Q : List LaserPoint → Bool → Prop) (slice : List LaserPoint) (log : List Event) : Prop :=
  match lastProduced log with
  | some (own, isArmed) => slice = own ∧ Q slice isArmed
  | none => False

instance (Q : List LaserPoint → Bool → Prop) [∀ slice isArmed, Decidable (Q slice isArmed)]
    (slice : List LaserPoint) (log : List Event) : Decidable (Shown Q slice log) :=
  match eq : lastProduced log with
  | some (own, isArmed) => decidable_of_iff (slice = own ∧ Q slice isArmed) (by simp [Shown, eq])
  | none => isFalse (by simp [Shown, eq])

def DarkIfDisarmed (slice : List LaserPoint) (isArmed : Bool) : Prop := isArmed = false → ∀ point ∈ slice, point.Dark

instance (slice : List LaserPoint) (isArmed : Bool) : Decidable (DarkIfDisarmed slice isArmed) :=
  inferInstanceAs (Decidable (_ → _))

/-- What is handed to the device and was produced disarmed is dark. -/
@[reducible] def DarkWhenDisarmed : Event → List Event → Prop
  | .wrote _ _ slice _ _ _, earlier => Shown DarkIfDisarmed slice earlier
  | _, _ => True

instance : ∀ event earlier, Decidable (DarkWhenDisarmed event earlier) := Event.decidableLaw

/-- A disarmed production while an armed state is still handled finds no colour in the delay line. -/
@[reducible] def NothingCarried : Event → List Event → Prop
  | .produced _ isArmed handled carry, _ =>
    isArmed = false → isArmedWord handled → ∀ color ∈ carry, color = black
  | _, _ => True

instance : ∀ event earlier, Decidable (NothingCarried event earlier) := Event.decidableLaw

theorem parkPoint_dark (idlePolicy : IdlePolicy) : (parkPoint idlePolicy).Dark := by
  cases idlePolicy <;> exact ⟨rfl, rfl, rfl, rfl⟩

variable {raw : List LaserPoint} {w : World} {event : Event} {phase : Phase} {pps : Nat}

theorem Source.Presents.dark {colorDelay : Nat} {source after : Source}
    (presents : source.Presents pps false colorDelay raw after) (noFilter : source.hasOutputFilter = false)
    (empty : (source.lineFor colorDelay pps).Black) :
    (∀ slice, after.cachedSlice = some slice → ∀ point ∈ slice, point.Dark) ∧ after.delayLine.Black := by
  have parked : ∀ point ∈ (source.blanked false raw).1, point.Dark := by
    intro point member
    rw [List.eq_of_mem_replicate member]
    exact parkPoint_dark _
  obtain ⟨dark, black⟩ := empty.apply parked
  refine ⟨?_, presents.line ▸ black⟩
  obtain ⟨own, cached, -, plain⟩ := presents.cached
  intro slice eq
  obtain rfl : own = slice := Option.some.inj (cached.symm.trans eq)
  rw [plain noFilter]
  exact dark

theorem Allows.lastProduced (allowed : Allows w event) :
    lastProduced (event :: w.log) = LaserDac.lastProduced w.log := by
  cases allowed with
  | neutral harmless => cases event <;> first | rfl | exact harmless.elim
  | _ => rfl

/-- What is cached was produced last. -/
structure Shows (Q : List LaserPoint → Bool → Prop) (source : Source) (log : List Event) : Prop where
  wellFormed : source.WellFormed
  noFilter : source.hasOutputFilter = false
  cached : ∀ slice, source.cachedSlice = some slice → Shown Q slice log

namespace Shows

variable {Q : List LaserPoint → Bool → Prop} {source after : Source} {log : List Event} {line : ColorDelayLine}
  {remaining : Nat}

section

variable (shows : Shows Q source log)

include shows

theorem noted (same : lastProduced (event :: log) = lastProduced log) : Shows Q source (event :: log) :=
  ⟨shows.wellFormed, shows.noFilter, by simpa only [Shown, same] using shows.cached⟩

theorem keep (becomes : source.Becomes after source.cachedSlice line remaining) : Shows Q after log :=
  ⟨becomes.wellFormed shows.wellFormed, becomes.hasOutputFilter.trans shows.noFilter, by
    rw [becomes.cached]
    exact shows.cached⟩

theorem drop (becomes : source.Becomes after none line remaining) : Shows Q after log :=
  ⟨becomes.wellFormed shows.wellFormed, becomes.hasOutputFilter.trans shows.noFilter, by
    rw [becomes.cached]
    exact nofun⟩

theorem starved (starves : source.Starves after) : Shows Q after log := by
  refine ⟨starves.wellFormed shows.wellFormed, starves.hasOutputFilter.trans shows.noFilter, ?_⟩
  rcases starves.cached with none_ | ⟨rfl, -⟩
  · rw [none_]
    exact nofun
  · exact shows.cached

theorem produced {colorDelay : Nat} {isArmed : Bool} (presents : source.Presents pps isArmed colorDelay raw after)
    (handled : Word) (carry : List Color) (made : ∀ slice, after.cachedSlice = some slice → Q slice isArmed) :
    Shows Q after (.produced (after.cachedSlice.getD []) isArmed handled carry :: log) := by
  refine ⟨presents.wellFormed, presents.hasOutputFilter.trans shows.noFilter, fun slice cached => ?_⟩
  exact ⟨by rw [cached, Option.getD_some], made slice cached⟩

end

theorem start (session : Session) (noFilter : session.source.hasOutputFilter = false) :
    Shows Q session.start.source [] := by
  refine ⟨session.new.wellFormed, noFilter, ?_⟩
  change ∀ slice, session.source.cachedSlice = _ → _
  rw [session.new.cachedSlice]
  exact nofun

end Shows

/-- Where the line is known to carry no colour, or else a generation is left to handle. -/
def Phase.Quenched (handled desired : Word) (line : ColorDelayLine) : Phase → Prop
  | .top => isArmedWord handled = false → line.Black ∨ handled < desired
  | .stepped => isArmedWord handled = false → line.Black ∨ handled < desired
  | .accepted => isArmedWord handled = false → line.Black ∨ handled < desired
  | .falling .onDisarm _ => line.Black
  | .falling .resetOutputFilter _ => line.Black
  | .fell _ => isArmedWord handled = false → line.Black
  | .moved => isArmedWord handled = false → line.Black
  | .ready _ => isArmedWord handled = false → line.Black
  | .stepping _ => isArmedWord handled = false → line.Black
  | _ => True

theorem Phase.Quenched.later {handled desired next : Word} {line : ColorDelayLine}
    (quenched : phase.Quenched handled desired line) (forward : desired < next) : phase.Quenched handled next line := by
  have grow : (isArmedWord handled = false → line.Black ∨ handled < desired) →
      isArmedWord handled = false → line.Black ∨ handled < next :=
    fun quenched disarmed => (quenched disarmed).imp_right fun before => Nat.lt_trans before forward
  cases phase with
  | falling step => cases step <;> exact quenched
  | _ => first | exact grow quenched | exact quenched

def Quenched (w : World) : Prop := w.trace.phase.Quenched w.handledState w.desired w.source.delayLine

namespace Quenched

section

variable (quenched : Quenched w)

include quenched

theorem at_ (position : w.trace.phase = phase) : phase.Quenched w.handledState w.desired w.source.delayLine :=
  position ▸ quenched

theorem move {next : Phase} (position : w.trace.phase = phase)
    (same : phase.Quenched w.handledState w.desired w.source.delayLine =
      next.Quenched w.handledState w.desired w.source.delayLine) :
    next.Quenched w.handledState w.desired w.source.delayLine :=
  same ▸ quenched.at_ position

theorem neutral (event : Event) (neutral : event.Neutral) :
    ((trace w.log).next event).phase.Quenched w.handledState w.desired w.source.delayLine := by
  rw [((trace w.log).next_neutral neutral).1]
  exact quenched

theorem noted (allowed : Allows w event) : Quenched (w.record event) := by
  change ((trace w.log).next event).phase.Quenched w.handledState w.desired w.source.delayLine
  cases allowed with
  | neutral harmless => exact quenched.neutral _ harmless.neutral
  | pass position =>
    rcases position with position | position | ⟨word, position⟩
    · exact quenched.move position rfl
    · exact quenched.move position rfl
    · exact fun disarmed => .inl (quenched.at_ position disarmed)
  | firstRead position =>
    by_cases same : w.desired = w.handledState
    · simp only [Trace.next, if_pos same]
      refine fun disarmed => (quenched.at_ position disarmed).resolve_right ?_
      rw [same]
      exact Nat.lt_irrefl _
    · simp only [Trace.next, if_neg same]
      trivial
  | changed position => exact quenched.move position rfl
  | fallingChange => trivial
  | fallingFilter position => exact quenched.move position rfl
  | risingChange | risingFilter | risingBuffer => trivial
  | armedRead position =>
    rcases position with position | ⟨generation, position | ⟨position, -⟩⟩
    · exact quenched.move position rfl
    · exact quenched.move position rfl
    · exact quenched.move position rfl
  | wrote pps result cached position =>
    by_cases taken : result = .ok .written
    · subst taken
      rcases position with position | ⟨word, position⟩
      · exact quenched.move position rfl
      · exact fun disarmed => .inl (quenched.at_ position disarmed)
    · rw [((trace w.log).next_refused _ _ _ _ _ taken).1]
      exact quenched
  | woken => exact quenched

theorem produced (ordered : Ordered w) (noFilter : w.source.hasOutputFilter = false) {word : Word} {after : Source}
    (position : w.trace.phase = .stepping word)
    (presents : w.source.Presents pps (isArmedWord word) w.shared.colorDelay raw after) :
    isArmedWord w.handledState = false → after.delayLine.Black ∨ w.handledState < w.desired := by
  intro disarmed
  obtain ⟨first, second⟩ := ordered.at_ position
  cases armed : isArmedWord word with
  | false =>
    rw [armed] at presents
    exact .inl (presents.dark noFilter ((quenched.at_ position disarmed).resize _)).2
  | true =>
    have differs : w.handledState ≠ word := by
      rintro same
      rw [same, armed] at disarmed
      cases disarmed
    exact .inr (Nat.lt_of_lt_of_le (Nat.lt_of_le_of_ne first differs) second)

end

end Quenched

theorem Allows.darkWhenDisarmed (allowed : Allows w event) (shows : Shows DarkIfDisarmed w.source w.log) :
    DarkWhenDisarmed event w.log := by
  cases allowed with
  | neutral harmless => cases event <;> first | exact trivial | exact harmless.elim
  | wrote pps result cached => exact shows.cached _ cached
  | _ => trivial

/-- What every step keeps while the counter does not wrap and the gap does not open. -/
structure Blanking (w : World) : Prop where
  ordered : Ordered w
  shows : Shows DarkIfDisarmed w.source w.log
  quenched : Quenched w
  dark : Always DarkWhenDisarmed w.log

theorem Blanking.step (w w' : World) (blanking : Blanking w)
    (assumed : Always (fun event earlier => Forward event earlier ∧ NothingCarried event earlier) w'.log)
    (step : Step w w') : Blanking w' := by
  have forward : Always Forward w'.log := assumed.imp fun _ _ => And.left
  have ordered := blanking.ordered.step forward step
  obtain ⟨before, shows, quenched, dark⟩ := blanking
  cases step with
  | silent shared adapter tick same =>
    refine ⟨ordered, shows, ?_, dark⟩
    change w.trace.phase.Quenched w.handledState shared.desired w.source.delayLine
    rw [same]
    exact quenched
  | edge => exact ⟨ordered, shows.noted rfl, quenched.later forward.1, trivial, dark⟩
  | tuned source tuning =>
    have becomes := tuning.becomes shows.wellFormed
    refine ⟨ordered, shows.keep becomes, ?_, dark⟩
    change w.trace.phase.Quenched w.handledState w.desired source.delayLine
    rw [becomes.line]
    exact quenched
  | noted allowed =>
    exact ⟨ordered, shows.noted allowed.lastProduced, quenched.noted allowed, allowed.darkWhenDisarmed shows, dark⟩
  | closed ok => exact ⟨ordered, shows.noted rfl, quenched.neutral (.closed w.backend.id ok) rfl, trivial, dark⟩
  | opened generation ok =>
    exact ⟨ordered, shows.noted rfl, quenched.neutral (.opened w.backend.id generation ok) rfl, trivial, dark⟩
  | fallingDiscard =>
    exact ⟨ordered, (shows.drop w.source.discardCached_becomes).noted rfl, trivial, trivial, dark⟩
  | disarm =>
    have becomes := w.source.onDisarm_becomes
    refine ⟨ordered, (shows.keep becomes).noted rfl, ?_, trivial, dark⟩
    change w.source.onDisarm.delayLine.Black
    rw [becomes.line]
    exact ColorDelayLine.reset_black _
  | risingDiscard =>
    exact ⟨ordered, (shows.drop w.source.discardCached_becomes).noted rfl, trivial, trivial, dark⟩
  | armStartupBlank desired pps =>
    exact ⟨ordered, (shows.keep (w.source.armStartupBlank_becomes pps)).noted rfl, trivial, trivial, dark⟩
  | handled desired position =>
    refine ⟨ordered, shows.noted rfl, ?_, trivial, dark⟩
    change ((trace w.log).next (.handled desired)).phase.Quenched desired w.desired w.source.delayLine
    rcases position with position | position
    · rw [Trace.next_handled_fell _ position]
      exact fun _ => quenched.at_ position
    · rw [Trace.next_handled_ready _ position]
      intro disarmed
      rw [(before.at_ position).2.2] at disarmed
      cases disarmed
  | @produced n after word pps position free made positive =>
    obtain ⟨raw, -, presents⟩ := made.presents positive
    have empty : isArmedWord word = false → (w.source.lineFor w.shared.colorDelay pps).Black := by
      intro disarmed
      cases armed : isArmedWord w.handledState with
      | true => exact assumed.1.2 disarmed armed
      | false => exact (quenched.at_ position armed).resize _
    have made : ∀ slice, after.cachedSlice = some slice → DarkIfDisarmed slice (isArmedWord word) := by
      intro slice cached disarmed
      have empty := empty disarmed
      rw [disarmed] at presents
      exact (presents.dark shows.noFilter empty).1 slice cached
    exact ⟨ordered, shows.produced presents _ _ made, quenched.produced before shows.noFilter position presents,
      trivial, dark⟩
  | starved word pps position free made =>
    have starves := made.starves
    refine ⟨ordered, (shows.starved starves).noted rfl, ?_, trivial, dark⟩
    change w.trace.phase.Quenched _ _ _
    rw [starves.line]
    exact quenched
  | committed n isArmed position =>
    have becomes := w.source.commitWritten_becomes n isArmed
    refine ⟨ordered, (shows.drop becomes).noted rfl, ?_, trivial, dark⟩
    change Phase.stepped.Quenched _ _ (w.source.commitWritten n isArmed).delayLine
    rw [becomes.line]
    exact quenched.move position rfl
  | obtained => exact ⟨ordered, shows.noted rfl, quenched, trivial, dark⟩
  | installed env info backend =>
    have becomes := w.source.onReconnect_becomes info.maxPointsPerChunk
      (if backend.isFrameSwap then some (env.frameCapacity w.tick) else none)
    refine ⟨ordered, (shows.drop becomes).noted rfl, fun _ => .inl ?_, trivial, dark⟩
    exact becomes.line ▸ ColorDelayLine.reset_black _

theorem Blanking.start (session : Session) (noFilter : session.source.hasOutputFilter = false) :
    Blanking session.start where
  ordered := le_rfl
  shows := .start session noFilter
  quenched := fun _ => .inl session.new.delayLine_black
  dark := trivial

/-- In every interleaving, what is produced disarmed and handed to the device is dark, unless a disarm is read
for a production while an armed state is handled and the delay line still carries its colours. -/
theorem disarmed_output_dark (env : Env) (session : Session) (noFilter : session.source.hasOutputFilter = false)
    (forward : Always Forward (session.after env).log) (nothing : Always NothingCarried (session.after env).log) :
    Always DarkWhenDisarmed (session.after env).log :=
  (session.after_keeps env _ Blanking (.start session noFilter) Blanking.step (forward.and nothing)).dark

/-- The session is armed for a frame, and disarmed before the driver's action of this number. -/
def Env.disarmedAt (action : Nat) : Env := .acting (.sendFrame .bright :: Action.wholeArm) action Action.wholeDisarm

theorem disarmed_output_dark_disarmed_while_writing :
    (Session.queue 2000000 0).source.hasOutputFilter = false ∧
      Always Forward ((Session.queue 2000000 0).after (.disarmedAt 31)).log ∧
      Always NothingCarried ((Session.queue 2000000 0).after (.disarmedAt 31)).log ∧
      Always DarkWhenDisarmed ((Session.queue 2000000 0).after (.disarmedAt 31)).log :=
  ⟨rfl, by decide +kernel, by decide +kernel,
    disarmed_output_dark _ _ rfl (by decide +kernel) (by decide +kernel)⟩

/-- A disarm between the shutter transition and the read that follows it: the delay line brings the colours of
the last armed chunk into the parked one. -/
theorem disarmed_output_lit_by_carried_colors :
    ¬ Always DarkWhenDisarmed ((Session.queue 2000000 0).after (.disarmedAt 28)).log := by
  decide +kernel

end LaserDac
