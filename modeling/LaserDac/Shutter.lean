import LaserDac.Generations

/-!
The shutter. It is opened for a generation only after the whole preparation for that generation, with no falling
cleanup or replacement since; and what the driver knows of the shutter is what its last command achieved.
-/

namespace LaserDac

open Runs

/-! ### The preparation -/

/-- The events since the last falling cleanup or replacement. -/
def sinceCleanup : List Event → List Event
  | [] => []
  | .falling _ _ :: _ => []
  | .installed _ _ _ :: _ => []
  | event :: earlier => event :: sinceCleanup earlier

/-- A step of the preparation for this generation has run. -/
def Ran (generation : Word) (log : List Event) (step : RisingStep) : Prop :=
  .rising step generation ∈ sinceCleanup log

def Risen (generation : Word) (log : List Event) : RisingStep → Prop
  | .discardCached => Ran generation log .discardCached
  | .onStateChange => Ran generation log .discardCached ∧ Ran generation log .onStateChange
  | .armStartupBlank _ => Ran generation log .discardCached ∧ Ran generation log .onStateChange ∧
      ∃ pps, Ran generation log (.armStartupBlank pps)
  | .resetOutputFilter => Ran generation log .discardCached ∧ Ran generation log .onStateChange ∧
      (∃ pps, Ran generation log (.armStartupBlank pps)) ∧ Ran generation log .resetOutputFilter
  | .resetDeviceBuffer => Ran generation log .discardCached ∧ Ran generation log .onStateChange ∧
      (∃ pps, Ran generation log (.armStartupBlank pps)) ∧ Ran generation log .resetOutputFilter ∧
      Ran generation log .resetDeviceBuffer

def Prepared (generation : Word) (log : List Event) : Prop := Risen generation log .resetDeviceBuffer

def Event.KeepsPreparation (event : Event) : Prop :=
  ∀ log, sinceCleanup (event :: log) = event :: sinceCleanup log

variable {event : Event} {log : List Event} {phase : Phase} {generation handled desired : Word} {w' : World}

theorem Ran.grow {step : RisingStep} (ran : Ran generation log step) (keeps : event.KeepsPreparation) :
    Ran generation (event :: log) step := by
  rw [Ran, keeps]
  exact List.mem_cons_of_mem _ ran

theorem Ran.here (generation : Word) (log : List Event) (step : RisingStep) :
    Ran generation (.rising step generation :: log) step :=
  List.mem_cons_self

theorem Risen.grow {step : RisingStep} (risen : Risen generation log step) (keeps : event.KeepsPreparation) :
    Risen generation (event :: log) step := by
  cases step with
  | discardCached => exact Ran.grow risen keeps
  | onStateChange => exact ⟨risen.1.grow keeps, risen.2.grow keeps⟩
  | armStartupBlank =>
    obtain ⟨discarded, changed, own, blanked⟩ := risen
    exact ⟨discarded.grow keeps, changed.grow keeps, own, blanked.grow keeps⟩
  | resetOutputFilter =>
    obtain ⟨discarded, changed, ⟨own, blanked⟩, filter⟩ := risen
    exact ⟨discarded.grow keeps, changed.grow keeps, ⟨own, blanked.grow keeps⟩, filter.grow keeps⟩
  | resetDeviceBuffer =>
    obtain ⟨discarded, changed, ⟨own, blanked⟩, filter, buffer⟩ := risen
    exact ⟨discarded.grow keeps, changed.grow keeps, ⟨own, blanked.grow keeps⟩, filter.grow keeps, buffer.grow keeps⟩

theorem Event.keepsPreparation (neutral : event.Neutral) : event.KeepsPreparation := by
  intro log
  cases event <;> first | rfl | cases neutral

/-- An armed state that is handled is prepared, unless a later generation waits. -/
def Phase.Preparing (handled desired : Word) (log : List Event) : Phase → Prop
  | .rising step generation => Risen generation log step
  | .ready _ => isArmedWord handled → Prepared handled log
  | .top => isArmedWord handled → Prepared handled log ∨ handled < desired
  | .stepping _ => isArmedWord handled → Prepared handled log ∨ handled < desired
  | .stepped => isArmedWord handled → Prepared handled log ∨ handled < desired
  | .accepted => isArmedWord handled → Prepared handled log ∨ handled < desired
  | _ => True

theorem Phase.Preparing.grow (prepares : phase.Preparing handled desired log) (keeps : event.KeepsPreparation) :
    phase.Preparing handled desired (event :: log) := by
  have either : (isArmedWord handled → Prepared handled log ∨ handled < desired) →
      isArmedWord handled → Prepared handled (event :: log) ∨ handled < desired :=
    fun prepares armed => (prepares armed).imp_left (Risen.grow · keeps)
  cases phase with
  | rising => exact Risen.grow prepares keeps
  | ready => exact fun armed => Risen.grow (prepares armed) keeps
  | _ => first | exact either prepares | trivial

theorem Phase.Preparing.later {next : Word} (prepares : phase.Preparing handled desired log) (forward : desired < next)
    : phase.Preparing handled next log := by
  have either : (isArmedWord handled → Prepared handled log ∨ handled < desired) →
      isArmedWord handled → Prepared handled log ∨ handled < next :=
    fun prepares armed => (prepares armed).imp_right fun before => Nat.lt_trans before forward
  cases phase <;> first | exact either prepares | exact prepares

def Preparing (w : World) : Prop := w.trace.phase.Preparing w.handledState w.desired w.log

namespace Preparing

variable {w : World}

section

variable (prepares : Preparing w)

include prepares

theorem at_ (position : w.trace.phase = phase) : phase.Preparing w.handledState w.desired w.log :=
  position ▸ prepares

theorem move {next : Phase} (position : w.trace.phase = phase) (keeps : event.KeepsPreparation)
    (same : phase.Preparing w.handledState w.desired (event :: w.log) =
      next.Preparing w.handledState w.desired (event :: w.log)) :
    next.Preparing w.handledState w.desired (event :: w.log) :=
  same ▸ (prepares.at_ position).grow keeps

theorem neutral (event : Event) (neutral : event.Neutral) :
    ((trace w.log).next event).phase.Preparing w.handledState w.desired (event :: w.log) := by
  rw [((trace w.log).next_neutral neutral).1]
  exact Phase.Preparing.grow prepares (Event.keepsPreparation neutral)

theorem noted (ordered : Ordered w) (allowed : Allows w event) : Preparing (w.record event) := by
  change ((trace w.log).next event).phase.Preparing w.handledState w.desired (event :: w.log)
  cases allowed with
  | neutral harmless => exact prepares.neutral _ harmless.neutral
  | pass position =>
    rcases position with position | position | ⟨word, position⟩ <;>
      exact prepares.move position (fun _ => rfl) rfl
  | firstRead position =>
    have keeps : (Event.firstRead w.desired w.handledState).KeepsPreparation := fun _ => rfl
    have before := (prepares.at_ position).grow keeps
    by_cases same : w.desired = w.handledState
    · simp only [Trace.next, if_pos same]
      refine fun armed => (before armed).resolve_right ?_
      rw [same]
      exact Nat.lt_irrefl _
    · simp only [Trace.next, if_neg same]
      trivial
  | changed | fallingChange | fallingFilter => trivial
  | risingChange position =>
    exact ⟨Ran.grow (prepares.at_ position) fun _ => rfl, Ran.here _ _ _⟩
  | risingFilter position =>
    obtain ⟨discarded, changed, own, blanked⟩ := prepares.at_ position
    exact ⟨discarded.grow fun _ => rfl, changed.grow fun _ => rfl, ⟨own, blanked.grow fun _ => rfl⟩, Ran.here _ _ _⟩
  | risingBuffer position =>
    obtain ⟨discarded, changed, ⟨own, blanked⟩, filter⟩ := prepares.at_ position
    exact ⟨discarded.grow fun _ => rfl, changed.grow fun _ => rfl, ⟨own, blanked.grow fun _ => rfl⟩,
      filter.grow fun _ => rfl, Ran.here _ _ _⟩
  | armedRead position =>
    intro armed
    rcases position with position | ⟨generation, position | ⟨position, disarmed⟩⟩
    · exact .inr (ordered.at_ position)
    · exact .inl (Risen.grow (prepares.at_ position armed) fun _ => rfl)
    · rw [(ordered.at_ position).1, disarmed] at armed
      cases armed
  | wrote pps result cached position =>
    by_cases taken : result = .ok .written
    · subst taken
      rcases position with position | ⟨word, position⟩ <;> exact prepares.move position (fun _ => rfl) rfl
    · rw [((trace w.log).next_refused _ _ _ _ _ taken).1]
      exact Phase.Preparing.grow prepares fun _ => rfl
  | woken => exact Phase.Preparing.grow prepares fun _ => rfl

theorem step (ordered : Ordered w) (forward : Always Forward w'.log) (step : Step w w') : Preparing w' := by
  cases step with
  | silent shared adapter tick same =>
    change w.trace.phase.Preparing w.handledState shared.desired w.log
    rw [same]
    exact prepares
  | edge => exact (Phase.Preparing.grow prepares fun _ => rfl).later forward.1
  | tuned => exact prepares
  | noted allowed => exact prepares.noted ordered allowed
  | closed ok => exact prepares.neutral (.closed w.backend.id ok) rfl
  | opened generation ok => exact prepares.neutral (.opened w.backend.id generation ok) rfl
  | fallingDiscard | disarm => trivial
  | risingDiscard => exact Ran.here _ _ _
  | armStartupBlank desired pps current position =>
    obtain ⟨discarded, changed⟩ := prepares.at_ position
    exact ⟨discarded.grow fun _ => rfl, changed.grow fun _ => rfl, pps, Ran.here _ _ _⟩
  | handled desired position =>
    change ((trace w.log).next (.handled desired)).phase.Preparing desired w.desired (.handled desired :: w.log)
    rcases position with position | position
    · rw [Trace.next_handled_fell _ position]
      trivial
    · rw [Trace.next_handled_ready _ position]
      have risen : Risen desired w.log .resetDeviceBuffer := prepares.at_ position
      exact fun _ => risen.grow fun _ => rfl
  | produced word pps position => exact prepares.move position (fun _ => rfl) rfl
  | starved => exact Phase.Preparing.grow prepares fun _ => rfl
  | committed n isArmed position => exact prepares.move position (fun _ => rfl) rfl
  | obtained => exact Phase.Preparing.grow prepares fun _ => rfl
  | installed => rintro ⟨⟩

end

end Preparing

/-! ### The cleanup -/

def edgesSinceRead : List Event → Nat
  | [] => 0
  | .edge _ _ :: earlier => edgesSinceRead earlier + 1
  | .firstRead _ _ :: _ => 0
  | _ :: earlier => edgesSinceRead earlier

def FallingStep.all : List FallingStep := [.discardCached, .onStateChange, .onDisarm, .resetOutputFilter]

def FallingStep.rest : FallingStep → List FallingStep
  | .discardCached => [.onStateChange, .onDisarm, .resetOutputFilter]
  | .onStateChange => [.onDisarm, .resetOutputFilter]
  | .onDisarm => [.resetOutputFilter]
  | .resetOutputFilter => []

/-- The steps of cleanups that are due and have not run; whether a transition from the one word to the other
makes a cleanup due may depend on what came before it. -/
def owed (due : Word → Word → List Event → Bool) : List Event → List (FallingStep × Word)
  | [] => []
  | .firstRead desired handled :: earlier =>
    if due desired handled earlier then FallingStep.all.map (·, desired) ++ owed due earlier else owed due earlier
  | .falling step generation :: earlier => (owed due earlier).filter (· ≠ (step, generation))
  | _ :: earlier => owed due earlier

/-- The word has moved since the last transition, which handled an armed one. -/
def movedFromArmed (_desired handled : Word) (earlier : List Event) : Bool :=
  isArmedWord handled && decide (0 < edgesSinceRead earlier)

/-- The word has moved to a disarmed and again to an armed one since the last transition. -/
def movedOverPair (desired _handled : Word) (earlier : List Event) : Bool :=
  isArmedWord desired && decide (2 ≤ edgesSinceRead earlier)

/-- An edge since the last read leaves a generation later than the one the driver works for. -/
def Phase.Unread (handled desired : Word) (edges : Nat) : Phase → Prop
  | .read generation => 0 < edges → generation < desired
  | .falling _ generation => 0 < edges → generation < desired
  | .rising _ generation => 0 < edges → generation < desired
  | _ => 0 < edges → handled < desired

def Phase.Owes (handled : Word) (due : List (FallingStep × Word)) : Phase → Prop
  | .read generation => due ⊆ FallingStep.all.map (·, generation) ∧ (due ≠ [] → isArmedWord handled)
  | .falling step generation => due ⊆ step.rest.map (·, generation)
  | _ => due = []

def Phase.Cleans (handled desired : Word) (log : List Event) (phase : Phase) : Prop :=
  phase.Unread handled desired (edgesSinceRead log) ∧ phase.Owes handled (owed movedFromArmed log)

/-- The event is neither an edge nor a read nor a step of a cleanup. -/
def Event.KeepsDebts (event : Event) : Prop :=
  ∀ log, edgesSinceRead (event :: log) = edgesSinceRead log ∧
    owed movedFromArmed (event :: log) = owed movedFromArmed log

theorem Event.keepsDebts (neutral : event.Neutral) : event.KeepsDebts := by
  intro log
  cases event <;> first | exact ⟨rfl, rfl⟩ | cases neutral

theorem Phase.Cleans.grow (cleans : phase.Cleans handled desired log) (keeps : event.KeepsDebts) :
    phase.Cleans handled desired (event :: log) := by
  rw [Cleans, (keeps log).1, (keeps log).2]
  exact cleans

theorem owed_falling {step : FallingStep} {steps : List FallingStep}
    (owes : owed movedFromArmed log ⊆ (step :: steps).map (·, generation)) :
    owed movedFromArmed (.falling step generation :: log) ⊆ steps.map (·, generation) := by
  intro item member
  obtain ⟨old, other⟩ := List.mem_filter.mp member
  rcases List.mem_cons.mp (owes old) with same | rest
  · simp [same] at other
  · exact rest

def Cleans (w : World) : Prop := w.trace.phase.Cleans w.handledState w.desired w.log

namespace Cleans

variable {w : World}

section

variable (cleans : Cleans w)

include cleans

theorem at_ (position : w.trace.phase = phase) : phase.Cleans w.handledState w.desired w.log :=
  position ▸ cleans

theorem move {next : Phase} (position : w.trace.phase = phase) (keeps : event.KeepsDebts)
    (same : phase.Cleans w.handledState w.desired (event :: w.log) =
      next.Cleans w.handledState w.desired (event :: w.log)) : next.Cleans w.handledState w.desired (event :: w.log) :=
  same ▸ (cleans.at_ position).grow keeps

theorem neutral (event : Event) (neutral : event.Neutral) :
    ((trace w.log).next event).phase.Cleans w.handledState w.desired (event :: w.log) := by
  rw [((trace w.log).next_neutral neutral).1]
  exact Phase.Cleans.grow cleans (Event.keepsDebts neutral)

theorem firstRead (position : w.trace.phase = .top) :
    ((trace w.log).next (.firstRead w.desired w.handledState)).phase.Cleans w.handledState w.desired
      (.firstRead w.desired w.handledState :: w.log) := by
  obtain ⟨unread, clear⟩ := cleans.at_ position
  by_cases same : w.desired = w.handledState
  · have still : ¬ 0 < edgesSinceRead w.log := by
      intro moved
      have later : w.handledState < w.desired := unread moved
      rw [same] at later
      exact Nat.lt_irrefl _ later
    simp only [Trace.next, if_pos same]
    refine ⟨by rintro ⟨⟩, ?_⟩
    change (if movedFromArmed _ _ _ then _ else _) = _
    rw [movedFromArmed, decide_eq_false still, Bool.and_false]
    exact clear
  · simp only [Trace.next, if_neg same]
    refine ⟨by rintro ⟨⟩, ?_⟩
    simp only [Phase.Owes, owed, show owed movedFromArmed w.log = [] from clear, List.append_nil]
    split
    case isTrue due =>
      rw [movedFromArmed, Bool.and_eq_true] at due
      exact ⟨List.Subset.refl _, fun _ => due.1⟩
    case isFalse => exact ⟨List.nil_subset _, fun nonempty => absurd rfl nonempty⟩

theorem noted (allowed : Allows w event) : Cleans (w.record event) := by
  change ((trace w.log).next event).phase.Cleans w.handledState w.desired (event :: w.log)
  cases allowed with
  | neutral harmless => exact cleans.neutral _ harmless.neutral
  | pass position =>
    rcases position with position | position | ⟨word, position⟩ <;>
      exact cleans.move position (fun _ => ⟨rfl, rfl⟩) rfl
  | firstRead position => exact cleans.firstRead position
  | changed position => exact cleans.move position (fun _ => ⟨rfl, rfl⟩) rfl
  | fallingChange position =>
    obtain ⟨unread, owes⟩ := cleans.at_ position
    exact ⟨unread, owed_falling owes⟩
  | fallingFilter position =>
    obtain ⟨unread, owes⟩ := cleans.at_ position
    exact ⟨unread, owed_falling owes⟩
  | risingChange position => exact cleans.move position (fun _ => ⟨rfl, rfl⟩) rfl
  | risingFilter position => exact cleans.move position (fun _ => ⟨rfl, rfl⟩) rfl
  | risingBuffer position => exact cleans.move position (fun _ => ⟨rfl, rfl⟩) rfl
  | armedRead position =>
    rcases position with position | ⟨generation, position | ⟨position, -⟩⟩ <;>
      exact cleans.move position (fun _ => ⟨rfl, rfl⟩) rfl
  | wrote pps result cached position =>
    by_cases taken : result = .ok .written
    · subst taken
      rcases position with position | ⟨word, position⟩ <;> exact cleans.move position (fun _ => ⟨rfl, rfl⟩) rfl
    · rw [((trace w.log).next_refused _ _ _ _ _ taken).1]
      exact Phase.Cleans.grow cleans fun _ => ⟨rfl, rfl⟩
  | woken => exact Phase.Cleans.grow cleans fun _ => ⟨rfl, rfl⟩

theorem edge (ordered : Ordered w) {next : Word} (forward : w.desired < next) :
    w.trace.phase.Cleans w.handledState next (.edge w.desired next :: w.log) := by
  refine ⟨?_, cleans.2⟩
  have order := ordered
  have handled := Phase.Ordered.le ordered
  rw [Ordered] at order
  cases position : w.trace.phase with
  | read =>
    rw [position] at order
    exact fun _ => Nat.lt_of_le_of_lt order.2 forward
  | falling =>
    rw [position] at order
    exact fun _ => Nat.lt_of_le_of_lt order.2 forward
  | rising =>
    rw [position] at order
    exact fun _ => Nat.lt_of_le_of_lt order.2.1 forward
  | _ => exact fun _ => Nat.lt_of_le_of_lt handled forward

theorem step (ordered : Ordered w) (forward : Always Forward w'.log) (step : Step w w') : Cleans w' := by
  cases step with
  | silent shared adapter tick same =>
    change w.trace.phase.Cleans w.handledState shared.desired w.log
    rw [same]
    exact cleans
  | edge => exact cleans.edge ordered forward.1
  | tuned => exact cleans
  | noted allowed => exact cleans.noted allowed
  | closed ok => exact cleans.neutral (.closed w.backend.id ok) rfl
  | opened generation ok => exact cleans.neutral (.opened w.backend.id generation ok) rfl
  | fallingDiscard desired position =>
    obtain ⟨unread, owes, -⟩ := cleans.at_ position
    exact ⟨unread, owed_falling owes⟩
  | disarm desired position =>
    obtain ⟨unread, owes⟩ := cleans.at_ position
    exact ⟨unread, owed_falling owes⟩
  | risingDiscard desired armed position =>
    rcases position with position | ⟨position, disarmed⟩
    · obtain ⟨unread, clear⟩ := cleans.at_ position
      refine ⟨fun moved => ?_, clear⟩
      rw [← (ordered.at_ position).1]
      exact unread moved
    · obtain ⟨unread, -, armed⟩ := cleans.at_ position
      refine ⟨unread, ?_⟩
      change owed movedFromArmed w.log = []
      by_contra due
      exact absurd (armed due) (by simp [disarmed])
  | armStartupBlank desired pps current position => exact cleans.move position (fun _ => ⟨rfl, rfl⟩) rfl
  | handled desired position =>
    change ((trace w.log).next (.handled desired)).phase.Cleans desired w.desired (.handled desired :: w.log)
    rcases position with position | position
    · obtain ⟨unread, owes⟩ := cleans.at_ position
      rw [Trace.next_handled_fell _ position]
      exact ⟨unread, List.subset_nil.mp owes⟩
    · obtain ⟨unread, clear⟩ := cleans.at_ position
      rw [Trace.next_handled_ready _ position]
      exact ⟨unread, clear⟩
  | produced word pps position => exact cleans.move position (fun _ => ⟨rfl, rfl⟩) rfl
  | starved => exact Phase.Cleans.grow cleans fun _ => ⟨rfl, rfl⟩
  | committed n isArmed position => exact cleans.move position (fun _ => ⟨rfl, rfl⟩) rfl
  | obtained => exact Phase.Cleans.grow cleans fun _ => ⟨rfl, rfl⟩
  | installed env info backend shared gone position fresh bounds =>
    refine ⟨fun moved => ?_, ?_⟩
    · change 0 < shared.desired
      rw [Shared.updatePpsBounds_desired bounds]
      rcases position with (position | position | ⟨word, position⟩) | ⟨step, generation, position⟩ <;>
        exact Nat.zero_lt_of_lt ((cleans.at_ position).1 moved)
    · rcases position with (position | position | ⟨word, position⟩) | ⟨step, generation, position⟩ <;>
        exact (cleans.at_ position).2

end

end Cleans

/-- The last shutter command to this backend since it was installed: whether it was to open, and whether it
succeeded. -/
def lastShutter (backend : Nat) : List Event → Option (Bool × Bool)
  | [] => none
  | .opened target _ ok :: earlier => if target = backend then some (true, ok) else lastShutter backend earlier
  | .closed target ok :: earlier => if target = backend then some (false, ok) else lastShutter backend earlier
  | .installed _ _ _ :: _ => none
  | _ :: earlier => lastShutter backend earlier

/-- What the driver may think of the shutter after its last command. -/
def achieved : Option (Bool × Bool) → ShutterState
  | none => .closed
  | some (true, true) => .open
  | some (false, true) => .closed
  | some (_, false) => .unknown

/-- The driver's idea of the shutter is what its last command achieved. -/
def Knows (w : World) : Prop := w.shutterState = achieved (lastShutter w.backend.id w.log)

theorem Allows.lastShutter {w : World} (allowed : Allows w event) :
    lastShutter w.backend.id (event :: w.log) = LaserDac.lastShutter w.backend.id w.log := by
  cases allowed with
  | neutral harmless =>
    cases event with
    | closed => exact if_neg harmless
    | _ => first | rfl | exact harmless.elim
  | _ => rfl

theorem Knows.step {w : World} (knows : Knows w) (step : Step w w') : Knows w' := by
  cases step with
  | noted allowed =>
    change w.shutterState = achieved (lastShutter w.backend.id (_ :: w.log))
    rw [allowed.lastShutter]
    exact knows
  | closed ok =>
    change (if ok then ShutterState.closed else .unknown) =
      achieved (lastShutter w.backend.id (.closed w.backend.id ok :: w.log))
    rw [lastShutter, if_pos rfl]
    cases ok <;> rfl
  | opened generation ok =>
    change (if ok then ShutterState.open else .unknown) =
      achieved (lastShutter w.backend.id (.opened w.backend.id generation ok :: w.log))
    rw [lastShutter, if_pos rfl]
    cases ok <;> rfl
  | installed => rfl
  | _ => exact knows

/-- The shutter is opened only for a generation that is prepared. -/
def OpensPrepared : Event → List Event → Prop
  | .opened _ generation _, earlier => Prepared generation earlier
  | _, _ => True

/-- The shutter is opened only when no cleanup is owed. -/
@[reducible] def OpensCleaned (due : Word → Word → List Event → Bool) : Event → List Event → Prop
  | .opened _ _ _, earlier => owed due earlier = []
  | _, _ => True

instance (due : Word → Word → List Event → Bool) : ∀ event earlier, Decidable (OpensCleaned due event earlier) :=
  Event.decidableLaw

structure Opening (w : World) : Prop where
  ordered : Ordered w
  preparing : Preparing w
  cleans : Cleans w
  knows : Knows w
  prepared : Always OpensPrepared w.log
  cleaned : Always (OpensCleaned movedFromArmed) w.log

/-- Only one kind of step opens the shutter. -/
theorem Step.opens {w : World} {P : Event → List Event → Prop} (step : Step w w') (always : Always P w.log)
    (others : ∀ event, (∀ backend generation ok, event ≠ .opened backend generation ok) → ∀ earlier, P event earlier)
    (open_ : ∀ generation ok, w.trace.phase = .ready generation → isArmedWord generation →
      P (.opened w.backend.id generation ok) w.log) : Always P w'.log := by
  cases step with
  | silent | tuned => exact always
  | opened generation ok ready armed => exact ⟨open_ generation ok ready armed, always⟩
  | noted allowed =>
    refine ⟨others _ ?_ _, always⟩
    rintro backend generation ok rfl
    cases allowed with
    | neutral harmless => exact harmless
  | _ => exact ⟨others _ (by rintro _ _ _ ⟨⟩) _, always⟩

theorem Opening.step (w w' : World) (opening : Opening w) (forward : Always Forward w'.log) (step : Step w w') :
    Opening w' where
  ordered := opening.ordered.step forward step
  preparing := opening.preparing.step opening.ordered forward step
  cleans := opening.cleans.step opening.ordered forward step
  knows := opening.knows.step step
  prepared := by
    refine step.opens opening.prepared ?_ fun generation ok ready armed => ?_
    · intro event other earlier
      cases event <;> first | exact trivial | exact absurd rfl (other _ _ _)
    · obtain ⟨rfl, -⟩ := opening.ordered.at_ ready
      exact opening.preparing.at_ ready armed
  cleaned := by
    refine step.opens opening.cleaned ?_ fun generation ok ready armed => (opening.cleans.at_ ready).2
    intro event other earlier
    cases event <;> first | exact trivial | exact absurd rfl (other _ _ _)

theorem Opening.start (session : Session) : Opening session.start where
  ordered := le_rfl
  preparing := nofun
  cleans := ⟨nofun, rfl⟩
  knows := rfl
  prepared := trivial
  cleaned := trivial

/-- In every interleaving, with any results of the device and any replacements of it, the shutter is opened only
for a generation whose whole preparation has run since the last cleanup or replacement; once the word has moved
from an armed state that is handled, it is opened only after a cleanup for the new one; and the driver knows
what its last command achieved. -/
theorem shutter_opens_safely (env : Env) (session : Session) (forward : Always Forward (session.after env).log) :
    Always OpensPrepared (session.after env).log ∧ Always (OpensCleaned movedFromArmed) (session.after env).log ∧
      Knows (session.after env) :=
  have opening := session.after_keeps env _ Opening (.start session) Opening.step forward
  ⟨opening.prepared, opening.cleaned, opening.knows⟩

/-- An armed session is disarmed and armed again while it writes. -/
def Env.rearmed : Env :=
  .acting (.sendFrame .bright :: Action.wholeArm) 31 (Action.wholeDisarm ++ Action.wholeArm)

theorem shutter_opens_safely_rearmed :
    Always Forward ((Session.queue 0 0).after .rearmed).log ∧
      Always OpensPrepared ((Session.queue 0 0).after .rearmed).log ∧
      Always (OpensCleaned movedFromArmed) ((Session.queue 0 0).after .rearmed).log ∧
      Knows ((Session.queue 0 0).after .rearmed) :=
  ⟨by decide +kernel, shutter_opens_safely .rearmed (Session.queue 0 0) (by decide +kernel)⟩

/-- Armed, disarmed and armed again between the first two passes: the driver has not handled the first arming
and opens the shutter without a cleanup. -/
theorem shutter_opens_without_cleanup_of_unseen_arming :
    ¬ Always (OpensCleaned movedOverPair)
      ((Session.queue 0 0).after (.acting [] 14 (Action.wholeArm ++ Action.wholeDisarm ++ Action.wholeArm))).log := by
  decide +kernel

end LaserDac
