import LaserDac.Darkness
import LaserDac.Delivery

/-!
Startup blanking. Every edge to an armed word demands a number of dark points of what the device accepts from then on.
-/

namespace LaserDac

open Runs

def lastArmed (log : List Event) : Bool :=
  match lastProduced log with
  | some (_, isArmed) => isArmed
  | none => false

/-- The points that are still to be dark, of those the device accepts from armed slices. -/
def due (n : Nat) : List Event → Nat
  | [] => 0
  | .edge _ after :: earlier => if isArmedWord after then n else due n earlier
  | .wrote _ _ slice (.ok .written) _ _ :: earlier =>
    if lastArmed earlier then due n earlier - slice.length else due n earlier
  | _ :: earlier => due n earlier

/-- What the device accepts of an armed slice is dark as far as that is due. -/
@[reducible] def DarkWhileDue (n : Nat) : Event → List Event → Prop
  | .wrote _ _ slice (.ok .written) _ _, earlier =>
    lastArmed earlier → ∀ point ∈ slice.take (due n earlier), point.Dark
  | _, _ => True

/-- The word is the handled one, or a disarm has followed that. -/
def Settled (handled desired : Word) : Prop := desired = handled ∨ desired = nextWord handled false

/-- An armed slice is produced for the generation that is handled. -/
@[reducible] def ArmedByHandled : Event → List Event → Prop
  | .produced _ isArmed handled _, earlier => isArmed → (trace earlier).phase = .stepping handled
  | _, _ => True

/-- An armed slice is accepted before the word has moved on to another arming. -/
@[reducible] def AcceptedInTime : Event → List Event → Prop
  | .wrote _ _ _ (.ok .written) desired handled, earlier => lastArmed earlier → Settled handled desired
  | _, _ => True

@[reducible] def SteadyRate (pps : Nat) : Event → List Event → Prop
  | .rate read, _ => read = pps
  | _, _ => True

/-- What a run has to meet for its startup blanking to be complete. -/
structure Timely (pps : Nat) (event : Event) (earlier : List Event) : Prop where
  forward : Forward event earlier
  woken : WokenForAChange event earlier
  armed : ArmedByHandled event earlier
  accepted : AcceptedInTime event earlier
  steady : SteadyRate pps event earlier

instance (handled desired : Word) : Decidable (Settled handled desired) := inferInstanceAs (Decidable (_ ∨ _))

instance (n : Nat) : ∀ event earlier, Decidable (DarkWhileDue n event earlier) := Event.decidableLaw

instance : ∀ event earlier, Decidable (ArmedByHandled event earlier) := Event.decidableLaw

instance : ∀ event earlier, Decidable (AcceptedInTime event earlier) := Event.decidableLaw

instance (pps : Nat) : ∀ event earlier, Decidable (SteadyRate pps event earlier) := Event.decidableLaw

instance (pps : Nat) (event : Event) (earlier : List Event) : Decidable (Timely pps event earlier) :=
  decidable_of_iff (Forward event earlier ∧ WokenForAChange event earlier ∧ ArmedByHandled event earlier ∧
      AcceptedInTime event earlier ∧ SteadyRate pps event earlier)
    ⟨fun ⟨forward, woken, armed, accepted, steady⟩ => ⟨forward, woken, armed, accepted, steady⟩,
      fun timely => ⟨timely.forward, timely.woken, timely.armed, timely.accepted, timely.steady⟩⟩

theorem due_le (n : Nat) (log : List Event) : due n log ≤ n := by
  induction log with
  | nil => exact Nat.zero_le _
  | cons event earlier ih =>
    cases event with
    | edge before after =>
      simp only [due]
      split <;> omega
    | wrote backend pps slice result desired handled =>
      rcases result with error | outcome
      · exact ih
      · cases outcome with
        | written =>
          simp only [due]
          split <;> omega
        | wouldBlock => exact ih
    | _ => exact ih

theorem ColorDelayLine.Black.apply_take {line : ColorDelayLine} (dark : line.Black) {points : List LaserPoint}
    {n : Nat} (blanked : ∀ point ∈ points.take n, point.Dark) :
    ∀ point ∈ (line.apply points).1.take n, point.Dark := by
  intro point member
  have shown := List.mem_map_of_mem (f := LaserPoint.color) member
  rw [List.map_take, line.apply_colors, List.take_take, queue] at shown
  rw [← color_eq_black_iff]
  rw [List.take_append] at shown
  rcases List.mem_append.mp shown with carried | own
  · exact dark _ (List.mem_of_mem_take carried)
  · rw [← List.map_take] at own
    obtain ⟨source, inside, eq⟩ := List.mem_map.mp own
    rw [← eq, color_eq_black_iff]
    refine blanked source (List.mem_of_mem_take (i := min n points.length - line.carry.length) ?_)
    rw [List.take_take, Nat.min_eq_left (by omega)]
    exact inside

/-- What is still to blank covers what is due beyond the slice under way. -/
structure Covers (source : Source) (due : Nat) (slice : List LaserPoint) : Prop where
  dark : 0 < source.startupBlankRemaining → source.delayLine.Black
  shown : ∀ point ∈ slice.take due, point.Dark
  rest : due - slice.length ≤ source.startupBlankRemaining

namespace Covers

variable {source after : Source} {due pps colorDelay : Nat} {raw slice : List LaserPoint}

/-- An armed production uses up what it blanks. -/
theorem armed (covers : Covers source due []) (noFilter : source.hasOutputFilter = false)
    (presents : source.Presents pps true colorDelay raw after) : Covers after due (after.cachedSlice.getD []) := by
  obtain ⟨slice, cached, size, plain⟩ := presents.cached
  have plain := plain noFilter
  have rest : due ≤ source.startupBlankRemaining := covers.rest
  have remaining := presents.remaining
  have line := presents.line
  rw [cached, Option.getD_some]
  by_cases some_ : 0 < source.startupBlankRemaining
  · set count := min raw.length source.startupBlankRemaining with countEq
    have blanked : source.blanked true raw =
        (blankPrefix (raw.take count) ++ raw.drop count, source.startupBlankRemaining - count) := by
      simp [Source.blanked, applyBlanking, some_, countEq]
    have empty : (source.lineFor colorDelay pps).Black := (covers.dark some_).resize _
    simp only [blanked] at remaining line plain
    have darkStart : ∀ point ∈ (blankPrefix (raw.take count) ++ raw.drop count).take count, point.Dark := by
      intro point member
      rw [List.take_append_of_le_length (by simp [blankPrefix]; omega)] at member
      obtain ⟨source, -, rfl⟩ := List.mem_map.mp (List.mem_of_mem_take member)
      exact (ColorDelayLine.color_eq_black_iff _).mp rfl
    have start := empty.apply_take darkStart
    refine ⟨fun left => ?_, fun point member => ?_, ?_⟩
    · -- Blanking is left over only if the whole chunk was blanked.
      have whole : count = raw.length := by omega
      have darkAll : ∀ point ∈ blankPrefix (raw.take count) ++ raw.drop count, point.Dark := by
        intro point member
        refine darkStart point ?_
        rwa [List.take_of_length_le (by simp [blankPrefix]; omega)]
      rw [line]
      exact (empty.apply darkAll).2
    · rw [plain] at member
      refine start point (List.mem_of_mem_take (i := due) ?_)
      have size : ((source.lineFor colorDelay pps).apply (blankPrefix (raw.take count) ++ raw.drop count)).1.length =
          raw.length := by simp [blankPrefix]; omega
      rcases Nat.le_total due raw.length with within | beyond
      · rwa [List.take_take, Nat.min_eq_left (by omega)]
      · rw [List.take_of_length_le (by omega)] at member
        rwa [List.take_take, List.take_of_length_le (by omega)]
    · omega
  · have none_ : source.startupBlankRemaining = 0 := by omega
    have blanked : source.blanked true raw = (raw, 0) := by simp [Source.blanked, applyBlanking, none_]
    rw [blanked] at remaining
    obtain rfl : due = 0 := by omega
    exact ⟨by omega, by simp, by omega⟩

/-- A disarmed production uses up nothing. -/
theorem disarmed (covers : Covers source due []) (noFilter : source.hasOutputFilter = false)
    (presents : source.Presents pps false colorDelay raw after) : Covers after due [] := by
  have remaining : after.startupBlankRemaining = source.startupBlankRemaining := presents.remaining
  refine ⟨fun left => ?_, by simp, by simpa [remaining] using covers.rest⟩
  rw [remaining] at left
  exact (presents.dark noFilter ((covers.dark left).resize _)).2

/-- The device has taken the slice. -/
theorem accept (covers : Covers source due slice) : Covers source (due - slice.length) [] :=
  ⟨covers.dark, by simp, by simpa using covers.rest⟩

theorem become (covers : Covers source due slice) (line : after.delayLine = source.delayLine)
    (remaining : after.startupBlankRemaining = source.startupBlankRemaining) : Covers after due slice :=
  ⟨by simpa [line, remaining] using covers.dark, covers.shown, by simpa [remaining] using covers.rest⟩

end Covers

/-! ### The slice under way -/

/-- A slice whose wait was ended leaves a generation to handle; transitions keep no slice. -/
def Phase.Waiting (handled desired : Word) (woken : Bool) (cached : Option (List LaserPoint)) : Phase → Prop
  | .top => woken → cached.isSome → handled < desired
  | .stepped => woken → cached.isSome → handled < desired
  | .ready _ => woken → cached = none
  | .stepping _ => woken → cached = none
  | .read _ => True
  | .accepted => True
  | _ => cached = none

variable {phase : Phase} {event : Event} {handled desired word : Word}

theorem Phase.Waiting.later {next : Word} {woken : Bool} {cached : Option (List LaserPoint)}
    (waiting : phase.Waiting handled desired woken cached) (forward : desired < next) :
    phase.Waiting handled next woken cached := by
  have grow : (woken → cached.isSome → handled < desired) → woken → cached.isSome → handled < next :=
    fun waiting woken some_ => Nat.lt_trans (waiting woken some_) forward
  cases phase <;> first | exact grow waiting | exact waiting

theorem Phase.Waiting.none {woken : Bool} : phase.Waiting handled desired woken none := by
  cases phase <;> first | exact rfl | exact trivial | exact fun _ => rfl | exact fun _ => nofun

def Waiting (w : World) : Prop :=
  w.trace.phase.Waiting w.handledState w.desired w.trace.woken w.source.cachedSlice

namespace Waiting

variable {w : World}

section

variable (waiting : Waiting w)

include waiting

theorem at_ (position : w.trace.phase = phase) :
    phase.Waiting w.handledState w.desired w.trace.woken w.source.cachedSlice :=
  position ▸ waiting

theorem move {next : Phase} (position : w.trace.phase = phase)
    (same : phase.Waiting w.handledState w.desired w.trace.woken w.source.cachedSlice =
      next.Waiting w.handledState w.desired w.trace.woken w.source.cachedSlice) :
    next.Waiting w.handledState w.desired w.trace.woken w.source.cachedSlice :=
  same ▸ waiting.at_ position

theorem stay (phase : ((trace w.log).next event).phase = (trace w.log).phase)
    (woken : ((trace w.log).next event).woken = (trace w.log).woken) :
    ((trace w.log).next event).phase.Waiting w.handledState w.desired ((trace w.log).next event).woken
      w.source.cachedSlice := by
  rw [phase, woken]
  exact waiting

theorem neutral (event : Event) (neutral : event.Neutral) :
    ((trace w.log).next event).phase.Waiting w.handledState w.desired ((trace w.log).next event).woken
      w.source.cachedSlice :=
  waiting.stay ((trace w.log).next_neutral neutral).1 ((trace w.log).next_neutral neutral).2

/-- No slice is produced over another one. -/
theorem none_of_free (position : w.trace.phase = .stepping word) (free : w.source.cachedSlice.isSome → w.trace.woken) :
    w.source.cachedSlice = none := by
  cases cached : w.source.cachedSlice with
  | none => rfl
  | some =>
    rw [cached] at free
    exact cached ▸ waiting.at_ position (free rfl)

theorem noted (ordered : Ordered w) (allowed : Allows w event) (woke : WokenForAChange event w.log) :
    Waiting (w.record event) := by
  change ((trace w.log).next event).phase.Waiting w.handledState w.desired ((trace w.log).next event).woken
    w.source.cachedSlice
  cases allowed with
  | neutral harmless => exact waiting.neutral _ harmless.neutral
  | pass position =>
    rcases position with position | position | ⟨word, position⟩
    · exact waiting.move position rfl
    · exact waiting.move position rfl
    · intro woken some_
      rw [waiting.at_ position woken] at some_
      cases some_
  | firstRead position =>
    by_cases same : w.desired = w.handledState
    · simp only [Trace.next, if_pos same]
      intro woken
      have later := waiting.at_ position woken
      rw [same] at later
      cases cached : w.source.cachedSlice with
      | none => rfl
      | some =>
        rw [cached] at later
        exact absurd (later rfl) (Nat.lt_irrefl _)
    · simp only [Trace.next, if_neg same]
      trivial
  | changed position => exact waiting.move position rfl
  | fallingChange position => exact waiting.move position rfl
  | fallingFilter position => exact waiting.move position rfl
  | risingChange position => exact waiting.move position rfl
  | risingFilter position => exact waiting.move position rfl
  | risingBuffer position => exact waiting.move position rfl
  | armedRead position =>
    rcases position with position | ⟨generation, position | ⟨position, -⟩⟩
    · exact fun _ => waiting.at_ position
    · exact waiting.move position rfl
    · exact fun _ => waiting.at_ position
  | @wrote slice pps result cached position =>
    by_cases taken : result = .ok .written
    · subst taken
      trivial
    · have refused := (trace w.log).next_refused w.backend.id pps slice w.desired w.handledState taken
      exact waiting.stay refused.1 refused.2
  | woken position =>
    change (trace w.log).phase.Waiting _ _ true _
    rw [position]
    exact fun _ _ => Nat.lt_of_le_of_ne ordered.le (Ne.symm woke)

theorem step {w' : World} (wellFormed : w.source.WellFormed) (ordered : Ordered w) (forward : Always Forward w'.log)
    (woke : Always WokenForAChange w'.log) (step : Step w w') : Waiting w' := by
  cases step with
  | silent shared adapter tick same =>
    change w.trace.phase.Waiting w.handledState shared.desired _ _
    rw [same]
    exact waiting
  | edge => exact Phase.Waiting.later waiting forward.1
  | tuned source tuning =>
    change w.trace.phase.Waiting _ _ _ source.cachedSlice
    rw [(tuning.becomes wellFormed).cached]
    exact waiting
  | noted allowed => exact waiting.noted ordered allowed woke.1
  | closed ok => exact waiting.neutral (.closed w.backend.id ok) rfl
  | opened generation ok => exact waiting.neutral (.opened w.backend.id generation ok) rfl
  | fallingDiscard => exact w.source.discardCached_becomes.cached
  | disarm desired position => exact w.source.onDisarm_becomes.cached.trans (waiting.at_ position)
  | risingDiscard => exact w.source.discardCached_becomes.cached
  | armStartupBlank desired pps current position =>
    exact (w.source.armStartupBlank_becomes pps).cached.trans (waiting.at_ position)
  | handled desired position =>
    have none_ : w.source.cachedSlice = none := by
      rcases position with position | position <;> exact waiting.at_ position
    change ((trace w.log).next (.handled desired)).phase.Waiting _ _ _ w.source.cachedSlice
    rw [none_]
    exact .none
  | produced => rintro ⟨⟩
  | @starved after word pps position free made =>
    change (trace w.log).phase.Waiting _ _ _ after.cachedSlice
    rw [position]
    intro woken
    rcases made.starves.cached with none_ | ⟨rfl, -⟩
    · exact none_
    · exact waiting.at_ position woken
  | committed n isArmed =>
    change Phase.stepped.Waiting _ _ _ (w.source.commitWritten n isArmed).cachedSlice
    rw [(w.source.commitWritten_becomes n isArmed).cached]
    exact .none
  | obtained => exact waiting
  | installed env info =>
    change Phase.top.Waiting _ _ _ ((w.source.onReconnect info.maxPointsPerChunk).setFrameCapacity _).cachedSlice
    rw [(w.source.onReconnect_becomes _ _).cached]
    exact .none

end

end Waiting

/-! ### What is blanked and what is due -/

theorem nextWord_of_armed (armed : isArmedWord word) (forward : word < nextWord word false) :
    nextWord word false = word + 1 := by
  have next : ∀ number : Nat, number % 2 = 1 → number < (number + 2) % wordModulus / 2 * 2 →
      (number + 2) % wordModulus / 2 * 2 = number + 1 := by
    intro number odd grows
    simp only [wordModulus] at grows ⊢
    omega
  exact next word (by simpa [isArmedWord] using armed) forward

theorem Settled.before {armed : Bool} (order : handled ≤ desired) (armedHandled : isArmedWord handled)
    (differs : isArmedWord desired ≠ armed) (forward : desired < nextWord desired armed)
    (settled : Settled handled (nextWord desired armed)) : armed = false ∧ desired = handled := by
  rcases settled with same | disarm
  · rw [same] at forward
    exact absurd order (Nat.not_le_of_lt forward)
  cases armed with
  | true =>
    have words := congrArg isArmedWord disarm
    rw [isArmedWord_nextWord, isArmedWord_nextWord] at words
    cases words
  | false =>
    have one := nextWord_of_armed (by simpa using differs) forward
    have other := nextWord_of_armed armedHandled (disarm ▸ Nat.lt_of_le_of_lt order forward)
    exact ⟨rfl, Nat.succ.inj (one.symm.trans (disarm.trans other))⟩

def underWay (phase : Phase) (source : Source) (log : List Event) : List LaserPoint :=
  if phase = .accepted ∨ lastArmed log = false then [] else source.cachedSlice.getD []

theorem underWay_of_ne (position : phase ≠ .accepted) (source : Source) (log : List Event) :
    underWay phase source log = if lastArmed log = false then [] else source.cachedSlice.getD [] := by
  simp [underWay, position]

theorem underWay_of_none (phase : Phase) {source : Source} (none_ : source.cachedSlice = none) (log : List Event) :
    underWay phase source log = [] := by
  simp [underWay, none_]

/-- Where the blanking left covers what is due for the handled state: from the preparation on, or else a later
generation waits and no armed slice is under way. -/
def Phase.Blanks (n : Nat) (source : Source) (due : Nat) (slice : List LaserPoint) (handled desired : Word) :
    Phase → Prop
  | .falling .onDisarm _ => source.delayLine.Black
  | .falling .resetOutputFilter _ => source.delayLine.Black
  | .fell _ => source.delayLine.Black
  | .rising .discardCached _ => source.delayLine.Black
  | .rising .onStateChange _ => source.delayLine.Black
  | .rising _ _ => source.delayLine.Black ∧ source.startupBlankRemaining = n
  | .ready _ => isArmedWord handled → Settled handled desired → Covers source due slice
  | .stepping word => isArmedWord handled → Settled handled desired →
      Covers source due slice ∨ slice = [] ∧ handled < desired ∧ word ≠ handled
  | .top => isArmedWord handled → Settled handled desired → Covers source due slice ∨ slice = [] ∧ handled < desired
  | .stepped => isArmedWord handled → Settled handled desired →
      Covers source due slice ∨ slice = [] ∧ handled < desired
  | .accepted => isArmedWord handled → Settled handled desired →
      Covers source due slice ∨ slice = [] ∧ handled < desired
  | _ => True

theorem Phase.Blanks.later {n now later : Nat} {source : Source} {slice : List LaserPoint} {next : Word}
    (blanks : phase.Blanks n source now slice handled desired) (forward : desired < next)
    (back : isArmedWord handled → Settled handled next → Settled handled desired ∧ later = now) :
    phase.Blanks n source later slice handled next := by
  cases phase with
  | falling step => cases step <;> exact blanks
  | rising step => cases step <;> exact blanks
  | ready =>
    intro armed settled
    obtain ⟨settled, rfl⟩ := back armed settled
    exact blanks armed settled
  | stepping =>
    intro armed settled
    obtain ⟨settled, rfl⟩ := back armed settled
    exact (blanks armed settled).imp_right fun waits => ⟨waits.1, Nat.lt_trans waits.2.1 forward, waits.2.2⟩
  | read | moved => trivial
  | fell => exact blanks
  | _ =>
    intro armed settled
    obtain ⟨settled, rfl⟩ := back armed settled
    exact (blanks armed settled).imp_right fun waits => ⟨waits.1, Nat.lt_trans waits.2 forward⟩

theorem Phase.Blanks.become {n due : Nat} {source after : Source} {slice : List LaserPoint}
    (blanks : phase.Blanks n source due slice handled desired) (line : after.delayLine = source.delayLine)
    (remaining : after.startupBlankRemaining = source.startupBlankRemaining) :
    phase.Blanks n after due slice handled desired := by
  have covered : Covers source due slice → Covers after due slice := fun covers => covers.become line remaining
  cases phase with
  | falling step => cases step <;> simp only [Blanks, line] at blanks ⊢ <;> exact blanks
  | rising step => cases step <;> simp only [Blanks, line, remaining] at blanks ⊢ <;> exact blanks
  | fell =>
    change after.delayLine.Black
    rw [line]
    exact blanks
  | ready => exact fun armed settled => covered (blanks armed settled)
  | read | moved => trivial
  | _ => exact fun armed settled => (blanks armed settled).imp_left covered

def Blanks (n : Nat) (w : World) : Prop :=
  w.trace.phase.Blanks n w.source (due n w.log) (underWay w.trace.phase w.source w.log) w.handledState w.desired

/-- The event is no edge, no production and no accepted write. -/
def Event.KeepsDue (event : Event) : Prop :=
  ∀ n log, due n (event :: log) = due n log ∧ lastArmed (event :: log) = lastArmed log

theorem Event.keepsDue (neutral : event.Neutral) : event.KeepsDue := by
  intro n log
  cases event <;> first | exact ⟨rfl, rfl⟩ | cases neutral

namespace Blanks

variable {n : Nat} {w : World}

section

variable (blanks : Blanks n w)

include blanks

theorem at_ (position : w.trace.phase = phase) :
    phase.Blanks n w.source (due n w.log) (underWay phase w.source w.log) w.handledState w.desired :=
  position ▸ blanks

theorem move {next : Phase} (position : w.trace.phase = phase) (keeps : event.KeepsDue) (leaves : phase ≠ .accepted)
    (enters : next ≠ .accepted)
    (carry : ∀ due slice, phase.Blanks n w.source due slice w.handledState w.desired →
      next.Blanks n w.source due slice w.handledState w.desired) :
    next.Blanks n w.source (due n (event :: w.log)) (underWay next w.source (event :: w.log)) w.handledState
      w.desired := by
  have before := blanks.at_ position
  rw [underWay_of_ne leaves] at before
  rw [underWay_of_ne enters, (keeps n w.log).1, (keeps n w.log).2]
  exact carry _ _ before

theorem stay (keeps : event.KeepsDue) (phase : ((trace w.log).next event).phase = (trace w.log).phase) :
    ((trace w.log).next event).phase.Blanks n w.source (due n (event :: w.log))
      (underWay ((trace w.log).next event).phase w.source (event :: w.log)) w.handledState w.desired := by
  simp only [phase, underWay, (keeps n w.log).1, (keeps n w.log).2]
  exact blanks

theorem neutral (event : Event) (neutral : event.Neutral) :
    ((trace w.log).next event).phase.Blanks n w.source (due n (event :: w.log))
      (underWay ((trace w.log).next event).phase w.source (event :: w.log)) w.handledState w.desired :=
  blanks.stay (Event.keepsDue neutral) ((trace w.log).next_neutral neutral).1

theorem taken {slice : List LaserPoint} (cached : w.source.cachedSlice = some slice)
    (position : w.trace.phase = .stepped ∨ ∃ word, w.trace.phase = .stepping word) (pps : Nat) :
    Phase.accepted.Blanks n w.source
      (due n (.wrote w.backend.id pps slice (.ok .written) w.desired w.handledState :: w.log)) [] w.handledState
      w.desired := by
  intro armed settled
  have before : Covers w.source (due n w.log) (if lastArmed w.log = false then [] else slice) ∨
      w.handledState < w.desired := by
    rcases position with position | ⟨word, position⟩
    · have before := blanks.at_ position armed settled
      simp only [underWay, cached, Option.getD_some, reduceCtorEq, false_or] at before
      exact before.imp_right And.right
    · have before := blanks.at_ position armed settled
      simp only [underWay, cached, Option.getD_some, reduceCtorEq, false_or] at before
      exact before.imp_right fun waits => waits.2.1
  rcases before with covers | later
  · refine .inl ?_
    simp only [due]
    cases last : lastArmed w.log with
    | true => simpa [last] using covers.accept
    | false => simpa [last] using covers
  · exact .inr ⟨rfl, later⟩

theorem noted (waiting : Waiting w) (ordered : Ordered w) (allowed : Allows w event) : Blanks n (w.record event) := by
  change ((trace w.log).next event).phase.Blanks n w.source (due n (event :: w.log))
    (underWay ((trace w.log).next event).phase w.source (event :: w.log)) w.handledState w.desired
  cases allowed with
  | neutral harmless => exact blanks.neutral _ harmless.neutral
  | pass position =>
    rcases position with position | position | ⟨word, position⟩
    · exact blanks.move position (fun _ _ => ⟨rfl, rfl⟩) (by simp) (by simp [Trace.next]) fun _ _ => id
    · exact blanks.move position (fun _ _ => ⟨rfl, rfl⟩) (by simp) (by simp [Trace.next]) fun _ _ => id
    · refine blanks.move position (fun _ _ => ⟨rfl, rfl⟩) (by simp) (by simp [Trace.next]) fun _ _ covers => ?_
      exact fun armed settled => (covers armed settled).imp_right fun waits => ⟨waits.1, waits.2.1⟩
  | firstRead position =>
    by_cases same : w.desired = w.handledState
    · simp only [Trace.next, if_pos same]
      refine blanks.move position (fun _ _ => ⟨rfl, rfl⟩) (by simp) (by simp) fun _ _ covers armed settled => ?_
      refine (covers armed settled).resolve_right fun waits => ?_
      exact absurd waits.2 (by simp [same])
    · simp only [Trace.next, if_neg same]
      trivial
  | changed | fallingChange => trivial
  | fallingFilter position =>
    exact blanks.move position (fun _ _ => ⟨rfl, rfl⟩) (by simp) (by simp [Trace.next]) fun _ _ => id
  | risingChange position =>
    exact blanks.move position (fun _ _ => ⟨rfl, rfl⟩) (by simp) (by simp [Trace.next]) fun _ _ => id
  | risingFilter position =>
    exact blanks.move position (fun _ _ => ⟨rfl, rfl⟩) (by simp) (by simp [Trace.next]) fun _ _ => id
  | risingBuffer position =>
    exact blanks.move position (fun _ _ => ⟨rfl, rfl⟩) (by simp) (by simp [Trace.next]) fun _ _ => id
  | armedRead position =>
    rcases position with position | ⟨generation, position | ⟨position, disarmed⟩⟩
    · -- The cleaned up generation is not prepared, but no longer the desired one either.
      have later : w.handledState < w.desired := ordered.at_ position
      have none_ : w.source.cachedSlice = none := waiting.at_ position
      exact fun _ _ => .inr ⟨underWay_of_none _ none_ _, later, Nat.ne_of_gt later⟩
    · refine blanks.move position (fun _ _ => ⟨rfl, rfl⟩) (by simp) (by simp [Trace.next]) fun _ _ covers => ?_
      exact fun armed settled => .inl (covers armed settled)
    · intro armed
      rw [(ordered.at_ position).1, disarmed] at armed
      cases armed
  | @wrote slice pps result cached position =>
    by_cases accepted : result = .ok .written
    · subst accepted
      simpa [Trace.next, underWay] using blanks.taken cached position pps
    · refine blanks.stay ?_ ((trace w.log).next_refused _ _ _ _ _ accepted).1
      intro n log
      rcases result with error | outcome
      · exact ⟨rfl, rfl⟩
      · cases outcome with
        | written => exact absurd rfl accepted
        | wouldBlock => exact ⟨rfl, rfl⟩
  | woken => exact blanks.stay (fun _ _ => ⟨rfl, rfl⟩) rfl

end

end Blanks

/-! ### Whole runs -/

/-- What every step of a timely run keeps. -/
structure Covering (startupBlank pps : Nat) (w : World) : Prop where
  ordered : Ordered w
  waiting : Waiting w
  shows : Shows (fun _ _ => True) w.source w.log
  setting : w.source.startupBlank = startupBlank
  rate : ∀ read, w.trace.pps = some read → read = pps
  quiet : isArmedWord w.handledState = false → w.source.delayLine.Black
  armed : w.source.cachedSlice.isSome → lastArmed w.log → isArmedWord w.handledState
  blanks : Blanks (durationToPoints startupBlank pps) w
  dark : Always (DarkWhileDue (durationToPoints startupBlank pps)) w.log

namespace Covering

variable {startupBlank pps : Nat} {w w' : World}

theorem word_eq {slice : List LaserPoint} {carry : List Color} (position : w.trace.phase = .stepping word)
    (timely : Timely pps (.produced slice (isArmedWord word) w.handledState carry) w.log) (armed : isArmedWord word) :
    word = w.handledState := by
  have phase : w.trace.phase = .stepping w.handledState := timely.armed armed
  rw [position] at phase
  exact Phase.stepping.inj phase

section

variable (covering : Covering startupBlank pps w)

include covering

theorem shows_step (step : Step w w') : Shows (fun _ _ => True) w'.source w'.log := by
  have shows := covering.shows
  cases step with
  | silent => exact shows
  | tuned source tuning => exact shows.keep (tuning.becomes shows.wellFormed)
  | noted allowed => exact shows.noted allowed.lastProduced
  | fallingDiscard => exact (shows.drop w.source.discardCached_becomes).noted rfl
  | disarm => exact (shows.keep w.source.onDisarm_becomes).noted rfl
  | risingDiscard => exact (shows.drop w.source.discardCached_becomes).noted rfl
  | armStartupBlank desired pps =>
    exact (shows.keep (w.source.armStartupBlank_becomes pps)).noted rfl
  | produced word pps position free made positive =>
    obtain ⟨raw, -, presents⟩ := made.presents positive
    exact shows.produced presents _ _ fun _ _ => trivial
  | starved word pps position free made => exact (shows.starved made.starves).noted rfl
  | committed n isArmed => exact (shows.drop (w.source.commitWritten_becomes n isArmed)).noted rfl
  | installed =>
    exact (shows.drop (w.source.onReconnect_becomes _ _)).noted rfl
  | _ => exact shows.noted rfl

theorem rate_step (steady : Always (SteadyRate pps) w'.log) (step : Step w w') :
    ∀ read, w'.trace.pps = some read → read = pps := by
  rcases step.log_eq with same | ⟨event, grown⟩
  · simpa only [World.trace, same] using covering.rate
  · rw [grown] at steady
    simp only [World.trace, grown]
    change ∀ read, ((trace w.log).next event).pps = some read → _
    by_cases rated : ∃ read, event = .rate read
    · obtain ⟨read, rfl⟩ := rated
      intro other eq
      obtain rfl : read = other := Option.some.inj eq
      exact steady.1
    · rw [Trace.next_pps _ fun read eq => rated ⟨read, eq⟩]
      exact covering.rate

theorem quiet_step (timely : Always (Timely pps) w'.log) (step : Step w w') :
    isArmedWord w'.handledState = false → w'.source.delayLine.Black := by
  have quiet := covering.quiet
  cases step with
  | tuned source tuning => exact (tuning.becomes covering.shows.wellFormed).line ▸ quiet
  | fallingDiscard => exact w.source.discardCached_becomes.line ▸ quiet
  | disarm => exact fun _ => w.source.onDisarm_becomes.line ▸ ColorDelayLine.reset_black _
  | risingDiscard => exact w.source.discardCached_becomes.line ▸ quiet
  | armStartupBlank desired pps => exact (w.source.armStartupBlank_becomes pps).line ▸ quiet
  | handled desired position =>
    rcases position with position | position
    · exact fun _ => covering.blanks.at_ position
    · intro disarmed
      exact absurd (covering.ordered.at_ position).2.2 (by simpa using disarmed)
  | produced word pps position free made positive =>
    obtain ⟨raw, -, presents⟩ := made.presents positive
    intro (disarmed : isArmedWord w.handledState = false)
    cases armed : isArmedWord word with
    | true =>
      have same := word_eq position timely.1 armed
      rw [same, disarmed] at armed
      cases armed
    | false =>
      rw [armed] at presents
      exact (presents.dark covering.shows.noFilter ((quiet disarmed).resize _)).2
  | starved word pps position free made => exact made.starves.line ▸ quiet
  | committed n isArmed => exact (w.source.commitWritten_becomes n isArmed).line ▸ quiet
  | installed =>
    exact fun _ => (w.source.onReconnect_becomes _ _).line ▸ ColorDelayLine.reset_black _
  | _ => exact quiet

theorem armed_step (timely : Always (Timely pps) w'.log) (step : Step w w') :
    w'.source.cachedSlice.isSome → lastArmed w'.log → isArmedWord w'.handledState := by
  have armed := covering.armed
  have nothing : ∀ {source : Source}, source.cachedSlice = none → ∀ {p : Prop}, source.cachedSlice.isSome → p := by
    intro source none_ p some_
    rw [none_] at some_
    cases some_
  cases step with
  | tuned source tuning => exact (tuning.becomes covering.shows.wellFormed).cached ▸ armed
  | noted allowed =>
    intro some_ last
    refine armed some_ ?_
    rw [lastArmed] at last ⊢
    rwa [← allowed.lastProduced]
  | fallingDiscard => exact nothing w.source.discardCached_becomes.cached
  | disarm => exact w.source.onDisarm_becomes.cached ▸ armed
  | risingDiscard => exact nothing w.source.discardCached_becomes.cached
  | armStartupBlank desired pps => exact (w.source.armStartupBlank_becomes pps).cached ▸ armed
  | handled desired position =>
    have none_ : w.source.cachedSlice = none := by
      rcases position with position | position <;> exact covering.waiting.at_ position
    exact nothing none_
  | produced word pps position =>
    intro _ (armed : isArmedWord word)
    exact word_eq position timely.1 armed ▸ armed
  | starved word pps position free made =>
    intro some_
    exact armed (made.starves.cached_isSome some_)
  | committed n isArmed => exact nothing (w.source.commitWritten_becomes n isArmed).cached
  | installed =>
    exact nothing (w.source.onReconnect_becomes _ _).cached
  | _ => exact armed

theorem dark_of_accepted {slice : List LaserPoint} (cached : w.source.cachedSlice = some slice)
    (position : w.trace.phase = .stepped ∨ ∃ word, w.trace.phase = .stepping word) (last : lastArmed w.log)
    (settled : Settled w.handledState w.desired) :
    ∀ point ∈ slice.take (due (durationToPoints startupBlank pps) w.log), point.Dark := by
  have armed := covering.armed (by simp [cached]) last
  have before : Covers w.source (due (durationToPoints startupBlank pps) w.log) slice ∨ slice = [] := by
    rcases position with position | ⟨word, position⟩
    · have before := covering.blanks.at_ position armed settled
      simp only [underWay, cached, last, reduceCtorEq, or_self, if_false, Option.getD_some] at before
      exact before.imp_right And.left
    · have before := covering.blanks.at_ position armed settled
      simp only [underWay, cached, last, reduceCtorEq, or_self, if_false, Option.getD_some] at before
      exact before.imp_right And.left
  rcases before with covers | rfl
  · exact covers.shown
  · simp

theorem dark_step (timely : Always (Timely pps) w'.log) (step : Step w w') :
    Always (DarkWhileDue (durationToPoints startupBlank pps)) w'.log := by
  have dark := covering.dark
  cases step with
  | silent | tuned => exact dark
  | @noted event allowed =>
    refine ⟨?_, dark⟩
    cases allowed with
    | neutral harmless => cases event <;> first | exact trivial | exact harmless.elim
    | @wrote slice pps result cached position =>
      rcases result with error | outcome
      · trivial
      · cases outcome with
        | written => exact fun last => covering.dark_of_accepted cached position last (timely.1.accepted last)
        | wouldBlock => trivial
    | _ => trivial
  | _ => exact ⟨trivial, dark⟩

theorem blanks_produced {rate : Nat} {raw : List LaserPoint} {after : Source}
    (position : w.trace.phase = .stepping word) (free : w.source.cachedSlice.isSome → w.trace.woken)
    (presents : w.source.Presents rate (isArmedWord word) w.shared.colorDelay raw after)
    (same : isArmedWord word → word = w.handledState) :
    Phase.stepped.Blanks (durationToPoints startupBlank pps) after (due (durationToPoints startupBlank pps) w.log)
      (if isArmedWord word = false then [] else after.cachedSlice.getD []) w.handledState w.desired := by
  intro armed settled
  have none_ := covering.waiting.none_of_free position free
  have noFilter := covering.shows.noFilter
  have before := covering.blanks.at_ position armed settled
  rw [underWay_of_none _ none_] at before
  cases kind : isArmedWord word with
  | true =>
    rw [kind] at presents
    rcases before with covers | ⟨-, -, other⟩
    · exact .inl (by simpa using covers.armed noFilter presents)
    · exact absurd (same kind) other
  | false =>
    rw [kind] at presents
    rcases before with covers | ⟨-, later, -⟩
    · exact .inl (by simpa using covers.disarmed noFilter presents)
    · exact .inr ⟨by simp, later⟩

theorem blanks_edge {armed : Bool} (differs : isArmedWord w.desired ≠ armed)
    (forward : w.desired < nextWord w.desired armed) :
    w.trace.phase.Blanks (durationToPoints startupBlank pps) w.source
      (due (durationToPoints startupBlank pps) (.edge w.desired (nextWord w.desired armed) :: w.log))
      (underWay w.trace.phase w.source w.log) w.handledState (nextWord w.desired armed) := by
  refine Phase.Blanks.later covering.blanks forward fun armedHandled settled => ?_
  obtain ⟨rfl, same⟩ := settled.before covering.ordered.le armedHandled differs forward
  exact ⟨.inl same, by simp [due]⟩

theorem blanks_step (timely : Always (Timely pps) w'.log) (step : Step w w') :
    Blanks (durationToPoints startupBlank pps) w' := by
  have blanks := covering.blanks
  set n := durationToPoints startupBlank pps with nEq
  cases step with
  | silent shared adapter tick same =>
    change w.trace.phase.Blanks n w.source (due n w.log) (underWay w.trace.phase w.source w.log) w.handledState
      shared.desired
    rw [same]
    exact blanks
  | edge shared armed differs moved =>
    have forward := timely.1.forward
    change w.trace.phase.Blanks n w.source (due n (.edge w.desired shared.desired :: w.log))
      (underWay w.trace.phase w.source w.log) w.handledState shared.desired
    rw [moved] at forward ⊢
    exact covering.blanks_edge differs forward
  | tuned source tuning =>
    have becomes := tuning.becomes covering.shows.wellFormed
    change w.trace.phase.Blanks n source (due n w.log) (underWay w.trace.phase source w.log) w.handledState w.desired
    rw [underWay, becomes.cached]
    exact Phase.Blanks.become blanks becomes.line becomes.remaining
  | noted allowed => exact blanks.noted covering.waiting covering.ordered allowed
  | closed ok => exact blanks.neutral (.closed w.backend.id ok) rfl
  | opened generation ok => exact blanks.neutral (.opened w.backend.id generation ok) rfl
  | fallingDiscard => trivial
  | disarm =>
    change w.source.onDisarm.delayLine.Black
    rw [w.source.onDisarm_becomes.line]
    exact ColorDelayLine.reset_black _
  | risingDiscard desired armed position =>
    change w.source.discardCached.delayLine.Black
    rw [w.source.discardCached_becomes.line]
    rcases position with position | ⟨-, disarmed⟩
    · exact blanks.at_ position
    · exact covering.quiet disarmed
  | armStartupBlank desired rate current position =>
    have becomes := w.source.armStartupBlank_becomes rate
    change (w.source.armStartupBlank rate).delayLine.Black ∧ (w.source.armStartupBlank rate).startupBlankRemaining = n
    rw [becomes.line, becomes.remaining, covering.setting, covering.rate rate current]
    exact ⟨blanks.at_ position, rfl⟩
  | handled desired position =>
    change ((trace w.log).next (.handled desired)).phase.Blanks n w.source (due n w.log)
      (underWay ((trace w.log).next (.handled desired)).phase w.source (.handled desired :: w.log)) desired w.desired
    rcases position with position | position
    · rw [Trace.next_handled_fell _ position]
      exact blanks.at_ position
    · rw [Trace.next_handled_ready _ position]
      intro _ _
      have none_ : w.source.cachedSlice = none := covering.waiting.at_ position
      obtain ⟨black, remaining⟩ := blanks.at_ position
      rw [underWay_of_none _ none_]
      refine ⟨fun _ => black, by simp, ?_⟩
      rw [remaining]
      exact Nat.le_trans (Nat.sub_le _ _) (due_le _ _)
  | @produced count after word rate position free made positive =>
    obtain ⟨raw, -, presents⟩ := made.presents positive
    change Phase.stepped.Blanks n after (due n w.log) (underWay .stepped after (.produced _ _ _ _ :: w.log)) _ _
    rw [underWay_of_ne (by simp)]
    exact covering.blanks_produced position free presents (word_eq position timely.1)
  | @starved after word rate position free made =>
    have starves := made.starves
    have before := covering.waiting.none_of_free position free
    have none_ : after.cachedSlice = none := by
      rcases starves.cached with none_ | ⟨rfl, -⟩
      · exact none_
      · exact before
    have held := blanks.at_ position
    change w.trace.phase.Blanks n after (due n w.log) (underWay w.trace.phase after (.starved :: w.log)) _ _
    rw [underWay_of_none _ before] at held
    rw [underWay_of_none _ none_, position]
    exact held.become starves.line starves.remaining
  | committed count isArmed position =>
    have becomes := w.source.commitWritten_becomes count isArmed
    change Phase.stepped.Blanks n (w.source.commitWritten count isArmed) (due n w.log) (underWay .stepped _ _) _ _
    rw [underWay_of_none _ becomes.cached]
    exact Phase.Blanks.become (blanks.at_ position) becomes.line becomes.remaining
  | obtained => exact blanks.stay (fun _ _ => ⟨rfl, rfl⟩) rfl
  | installed => rintro ⟨⟩

end

theorem step (w w' : World) (covering : Covering startupBlank pps w) (timely : Always (Timely pps) w'.log)
    (step : Step w w') : Covering startupBlank pps w' where
  ordered := covering.ordered.step (timely.imp fun _ _ => Timely.forward) step
  waiting := covering.waiting.step covering.shows.wellFormed covering.ordered (timely.imp fun _ _ => Timely.forward)
    (timely.imp fun _ _ => Timely.woken) step
  shows := covering.shows_step step
  setting := (step.sameSettings covering.shows.wellFormed).startupBlank.trans covering.setting
  rate := covering.rate_step (timely.imp fun _ _ => Timely.steady) step
  quiet := covering.quiet_step timely step
  armed := covering.armed_step timely step
  blanks := covering.blanks_step timely step
  dark := covering.dark_step timely step

theorem start (session : Session) (noFilter : session.source.hasOutputFilter = false) (pps : Nat) :
    Covering session.source.startupBlank pps session.start where
  ordered := le_rfl
  waiting := nofun
  shows := .start session noFilter
  setting := rfl
  rate := nofun
  quiet := fun _ => session.new.delayLine_black
  armed := nofun
  blanks := nofun
  dark := trivial

end Covering

/-- In every timely run, the points the device accepts from armed slices after an edge to an armed word are dark
for the whole startup blanking. -/
theorem startup_points_dark (env : Env) (session : Session) (noFilter : session.source.hasOutputFilter = false)
    (pps : Nat) (timely : Always (Timely pps) (session.after env).log) :
    Always (DarkWhileDue (durationToPoints session.source.startupBlank pps)) (session.after env).log :=
  (session.after_keeps env _ _ (Covering.start session noFilter pps) Covering.step timely).dark

theorem startup_points_dark_then_disarmed :
    (Session.queue 0 5000000).source.hasOutputFilter = false ∧
      Always (Timely 1000) ((Session.queue 0 5000000).after (.disarmedAt 31)).log ∧
      Always (DarkWhileDue (durationToPoints (Session.queue 0 5000000).source.startupBlank 1000))
        ((Session.queue 0 5000000).after (.disarmedAt 31)).log :=
  ⟨rfl, by decide +kernel,
    startup_points_dark (.disarmedAt 31) (Session.queue 0 5000000) rfl 1000 (by decide +kernel)⟩

/-- An arm between the shutter transition of the first pass and the read that follows it: a lit chunk is
produced and accepted before the startup blanking is set. -/
theorem startup_points_lit_by_early_arm :
    ¬ Always (DarkWhileDue (durationToPoints (Session.queue 0 5000000).source.startupBlank 1000))
      ((Session.queue 0 5000000).after (.acting [.sendFrame .bright] 7 Action.wholeArm)).log := by
  decide +kernel

end LaserDac
