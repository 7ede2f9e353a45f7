import LaserDac.Sessions

/-!
The order of the generations. Every edge moves the desired-state word to a larger one until the counter
wraps. The handled state, the generation a transition works for and the word a step was armed by are earlier
values of it, in the order in which they were read.
-/

namespace LaserDac

open Runs

/-- The counter does not wrap. -/
@[reducible] def Forward : Event → List Event → Prop
  | .edge before after, _ => before < after
  | _, _ => True

instance : ∀ event earlier, Decidable (Forward event earlier) := Event.decidableLaw

/-- How the words the driver has read lie between the handled one and the desired one. -/
def Phase.Ordered (handled desired : Word) : Phase → Prop
  | .read generation => handled < generation ∧ generation ≤ desired
  | .falling _ generation => handled < generation ∧ generation ≤ desired
  | .fell generation => handled = generation ∧ generation ≤ desired
  | .moved => handled < desired
  | .rising _ generation => handled ≤ generation ∧ generation ≤ desired ∧ isArmedWord generation
  | .ready generation => handled = generation ∧ generation ≤ desired
  | .stepping word => handled ≤ word ∧ word ≤ desired
  | .top => handled ≤ desired
  | .stepped => handled ≤ desired
  | .accepted => handled ≤ desired

variable {phase : Phase} {w : World}

namespace Phase.Ordered

theorem le {handled desired : Word} (ordered : phase.Ordered handled desired) : handled ≤ desired := by
  cases phase <;> simp only [Ordered] at ordered <;> grind

theorem later {handled desired next : Word} (ordered : phase.Ordered handled desired) (forward : desired < next) :
    phase.Ordered handled next := by
  cases phase <;> simp only [Ordered] at ordered ⊢ <;> grind

end Phase.Ordered

def Ordered (w : World) : Prop := w.trace.phase.Ordered w.handledState w.desired

namespace Ordered

section

variable (ordered : Ordered w)

include ordered

theorem at_ (position : w.trace.phase = phase) : phase.Ordered w.handledState w.desired :=
  position ▸ ordered

theorem neutral (event : Event) (neutral : event.Neutral) :
    ((trace w.log).next event).phase.Ordered w.handledState w.desired := by
  rw [((trace w.log).next_neutral neutral).1]
  exact ordered

theorem move {next : Phase} (position : w.trace.phase = phase)
    (same : phase.Ordered w.handledState w.desired = next.Ordered w.handledState w.desired) :
    next.Ordered w.handledState w.desired :=
  same ▸ ordered.at_ position

theorem noted {event : Event} (allowed : Allows w event) : Ordered (w.record event) := by
  change ((trace w.log).next event).phase.Ordered w.handledState w.desired
  cases allowed with
  | neutral harmless => exact ordered.neutral _ harmless.neutral
  | pass => exact ordered.le
  | firstRead position =>
    have order : w.handledState ≤ w.desired := ordered.at_ position
    by_cases same : w.desired = w.handledState
    · simp [Trace.next, same, Phase.Ordered]
    · simp only [Trace.next, if_neg same]
      exact ⟨Nat.lt_of_le_of_ne order (Ne.symm same), le_rfl⟩
  | changed position differs =>
    have order := ordered.at_ position
    exact Nat.lt_of_le_of_ne (order.1 ▸ order.2) fun same => differs (same ▸ order.1)
  | fallingChange position => exact ordered.move position rfl
  | fallingFilter position => exact ordered.move position rfl
  | risingChange position => exact ordered.move position rfl
  | risingFilter position => exact ordered.move position rfl
  | risingBuffer position => exact ordered.move position rfl
  | armedRead => exact ⟨ordered.le, le_rfl⟩
  | wrote pps result =>
    by_cases taken : result = .ok .written
    · subst taken
      exact ordered.le
    · rw [((trace w.log).next_refused _ _ _ _ _ taken).1]
      exact ordered
  | woken => exact ordered

theorem step {w' : World} (forward : Always Forward w'.log) (step : Step w w') : Ordered w' := by
  cases step with
  | silent shared adapter tick same =>
    change (trace w.log).phase.Ordered w.handledState shared.desired
    rw [same]
    exact ordered
  | edge => exact Phase.Ordered.later ordered forward.1
  | tuned => exact ordered
  | noted allowed => exact ordered.noted allowed
  | closed ok => exact ordered.neutral (.closed w.backend.id ok) rfl
  | opened generation ok => exact ordered.neutral (.opened w.backend.id generation ok) rfl
  | fallingDiscard desired position => exact ordered.move position rfl
  | disarm desired position => exact ordered.move position rfl
  | risingDiscard desired armed position =>
    rcases position with position | ⟨position, -⟩
    · have order := ordered.at_ position
      exact ⟨Nat.le_of_eq order.1, order.2, armed⟩
    · have order := ordered.at_ position
      exact ⟨Nat.le_of_lt order.1, order.2, armed⟩
  | armStartupBlank desired pps current position => exact ordered.move position rfl
  | handled desired position =>
    change ((trace w.log).next (.handled desired)).phase.Ordered desired w.desired
    rcases position with position | position
    · rw [Trace.next_handled_fell _ position]
      exact ⟨rfl, (ordered.at_ position).2⟩
    · rw [Trace.next_handled_ready _ position]
      exact ⟨rfl, (ordered.at_ position).2.1⟩
  | produced => exact ordered.le
  | starved => exact ordered
  | committed => exact ordered.le
  | obtained => exact ordered
  | installed => exact Nat.zero_le _

end

end Ordered

end LaserDac
