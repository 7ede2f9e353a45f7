import Mathlib

/-!
A metronome with bounded catch-up. Each wake moves the deadline on by one period, but never leaves it more than a
given lag behind the clock. So a late wake is made up for by shorter waits, and a burst is limited.
-/

namespace LaserDac.Metronome

/-- A quotient rounded to the nearest whole number, a tie to the even one, as `Duration::from_secs_f64` rounds to
nanoseconds. -/
def nearest (n d : Nat) : Nat :=
  if d < 2 * (n % d) ∨ d = 2 * (n % d) ∧ n / d % 2 = 1 then n / d + 1 else n / d

variable {K : Type} [Field K] [LinearOrder K]

def advance (period lag now deadline : K) : K := max (deadline + period) (now - lag)

theorem le_advance (period lag now deadline : K) : now - lag ≤ advance period lag now deadline := le_max_right _ _

theorem add_le_advance (period lag now deadline : K) : deadline + period ≤ advance period lag now deadline :=
  le_max_left _ _

variable (period lag : K)

def deadlineAfter (wakes : List K) (deadline : K) : K :=
  wakes.foldl (fun deadline now => advance period lag now deadline) deadline

def Wakes : List K → K → Prop
  | [], _ => True
  | now :: later, deadline => deadline ≤ now ∧ Wakes later (advance period lag now deadline)

variable {period lag}

variable {wakes : List K} {deadline : K}

theorem Wakes.append {later : List K} (first : Wakes period lag wakes deadline)
    (rest : Wakes period lag later (deadlineAfter period lag wakes deadline)) :
    Wakes period lag (wakes ++ later) deadline := by
  induction wakes generalizing deadline with
  | nil => exact rest
  | cons now wakes ih => exact ⟨first.1, ih first.2 rest⟩

variable [IsStrictOrderedRing K]

theorem wakes_until {limit : K} (positive : 0 < period) (wake : Wakes period lag wakes deadline)
    (among : 0 < wakes.countP (· ≤ limit)) : deadline + wakes.countP (· ≤ limit) * period ≤ limit + period := by
  induction wakes generalizing deadline with
  | nil => simp at among
  | cons now later ih =>
    obtain ⟨reached, rest⟩ := wake
    have moved := add_le_advance period lag now deadline
    by_cases early : now ≤ limit
    · rw [List.countP_cons_of_pos (by simpa using early)]
      push_cast
      rcases Nat.eq_zero_or_pos (later.countP (· ≤ limit)) with none | more
      · rw [none]
        push_cast
        linarith
      · have followed := ih rest more
        linarith
    · rw [List.countP_cons_of_neg (by simpa using early)] at among ⊢
      have followed := ih rest among
      linarith

theorem wakes_within (positive : 0 < period) (nonneg : 0 ≤ lag) (wake : Wakes period lag wakes deadline) (start : K)
    {length : K} (wide : 0 ≤ length) :
    wakes.countP (fun now => start ≤ now ∧ now ≤ start + length) * period ≤ length + lag + 2 * period := by
  induction wakes generalizing deadline with
  | nil =>
    simp only [List.countP_nil, Nat.cast_zero, zero_mul]
    linarith
  | cons now later ih =>
    obtain ⟨reached, rest⟩ := wake
    by_cases inside : start ≤ now ∧ now ≤ start + length
    · rw [List.countP_cons_of_pos (by simpa using inside)]
      -- From the first wake inside on, all wakes up to the end are counted.
      have fewer : later.countP (fun now => start ≤ now ∧ now ≤ start + length) ≤ later.countP (· ≤ start + length) := by
        refine List.countP_mono_left fun now _ both => ?_
        simp only [decide_eq_true_eq] at both ⊢
        exact both.2
      have counted : (later.countP (fun now => start ≤ now ∧ now ≤ start + length) : K) * period ≤
          later.countP (· ≤ start + length) * period :=
        mul_le_mul_of_nonneg_right (by exact_mod_cast fewer) positive.le
      have behind := le_advance period lag now deadline
      push_cast
      rcases Nat.eq_zero_or_pos (later.countP (· ≤ start + length)) with none | more
      · rw [none] at counted
        push_cast at counted
        linarith
      · have followed := wakes_until positive rest more
        linarith [inside.1]
    · rw [List.countP_cons_of_neg (by simpa using inside)]
      exact ih rest

end LaserDac.Metronome
