import Mathlib

/-!
A fluid queue: a level that grows by what is put in and drains at a rate without going below zero. Rates and times are
those of any linearly ordered field. `carried` is about a counter that takes off whole units only.
-/

namespace LaserDac.FluidQueue

section

variable {K : Type} [Field K] [LinearOrder K]

/-- What is left of a level after so much would have drained. -/
def drained (amount level : K) : K := max 0 (level - amount)

theorem drained_nonneg (amount level : K) : 0 ≤ drained amount level := le_max_left _ _

@[simp] theorem drained_zero {level : K} (nonneg : 0 ≤ level) : drained 0 level = level := by
  simp [drained, nonneg]

/-- The level, and the time it is the level of. -/
structure Queue (K : Type) where
  level : K
  time : K

namespace Queue

/-- The queue at a later time. -/
def drainTo (rate now : K) (queue : Queue K) : Queue K where
  level := drained (rate * (now - queue.time)) queue.level
  time := now

def gain (amount : K) (queue : Queue K) : Queue K := { queue with level := queue.level + amount }

end Queue

/-- A level that a counter, with a fraction of what has drained still to take off, is less than a unit below. -/
def Carried (counter : Nat) (fraction level : K) : Prop := counter - fraction ≤ level ∧ level < counter - fraction + 1

end

section

variable {K : Type} [Field K] [LinearOrder K] [IsStrictOrderedRing K]

variable {amount level : K}

/-- Less drained from more leaves more. -/
theorem drained_mono {amount' level' : K} (less : amount' ≤ amount) (more : level ≤ level') :
    drained amount level ≤ drained amount' level' :=
  max_le_max le_rfl (by linarith)

theorem drained_le (nonneg : 0 ≤ amount) (wet : 0 ≤ level) : drained amount level ≤ level := by
  calc drained amount level ≤ drained 0 level := drained_mono nonneg le_rfl
    _ = level := drained_zero wet

/-- What drains in two parts drains at once. -/
theorem drained_drained {amount' : K} (nonneg : 0 ≤ amount') (level : K) :
    drained amount' (drained amount level) = drained (amount + amount') level := by
  unfold drained
  rcases le_total 0 (level - amount) with wet | dry
  · rw [max_eq_right wet, sub_sub]
  · rw [max_eq_left dry, max_eq_left (by linarith), max_eq_left (by linarith)]

theorem Carried.near {counter : Nat} {fraction : K} (near : Carried counter fraction level) (nonneg : 0 ≤ fraction)
    (small : fraction < 1) : |(counter : K) - level| < 1 := by
  obtain ⟨above, below⟩ := near
  rw [abs_lt]
  constructor <;> linarith

theorem carried [FloorSemiring K] {counter : Nat} (nonneg : 0 ≤ amount) (near : Carried counter amount level) :
    Carried (counter - ⌊amount⌋₊) (amount - ⌊amount⌋₊) (max 0 level) := by
  obtain ⟨above, below⟩ := near
  have whole : (⌊amount⌋₊ : K) ≤ amount := Nat.floor_le nonneg
  have fraction := Nat.lt_floor_add_one amount
  unfold Carried
  by_cases covered : ⌊amount⌋₊ ≤ counter
  · have units : (⌊amount⌋₊ : K) ≤ counter := by exact_mod_cast covered
    rw [Nat.cast_sub covered]
    rcases le_total 0 level with wet | dry
    · rw [max_eq_right wet]
      constructor <;> linarith
    · rw [max_eq_left dry]
      constructor <;> linarith
  · have units : (counter : K) + 1 ≤ ⌊amount⌋₊ := by exact_mod_cast Nat.lt_of_not_le covered
    have dry : level ≤ 0 := by linarith
    rw [Nat.sub_eq_zero_of_le (by omega), Nat.cast_zero, max_eq_left dry]
    constructor <;> linarith

end

end LaserDac.FluidQueue
