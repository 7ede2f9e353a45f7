import Mathlib

/-!
Programs over a state that may fail. A program that fails keeps the state it has reached, as code that returns early
with an error does. The judgement `Leaves` says what holds after a result and what after an error.
-/

namespace LaserDac.Attempts

/-- A program on states of type `σ`: its result or the error it returns, and the state it leaves. -/
def Attempt (ε σ α : Type) := σ → Except ε α × σ

variable {ε σ α β : Type}

variable {k : β → Attempt ε σ α} {m : Attempt ε σ β} {s : σ}

namespace Attempt

instance : Monad (Attempt ε σ) where
  pure a := fun s => (.ok a, s)
  bind m k := fun s =>
    match m s with
    | (.ok a, s) => k a s
    | (.error e, s) => (.error e, s)

def state : Attempt ε σ σ := fun s => (.ok s, s)

def update (f : σ → σ) : Attempt ε σ Unit := fun s => (.ok (), f s)

def fail (e : ε) : Attempt ε σ α := fun s => (.error e, s)

theorem bind_ok {after : σ} {b : β} (result : m s = (.ok b, after)) : (m >>= k) s = k b after := by
  change (match m s with
    | (.ok b, s) => k b s
    | (.error e, s) => (.error e, s)) = _
  rw [result]

theorem bind_error {after : σ} {e : ε} (result : m s = (.error e, after)) : (m >>= k) s = (.error e, after) := by
  change (match m s with
    | (.ok b, s) => k b s
    | (.error e, s) => (.error e, s)) = _
  rw [result]

theorem bind_state {k : σ → Attempt ε σ α} : (state >>= k) s = k s s := rfl

theorem bind_update {f : σ → σ} {k : Unit → Attempt ε σ α} : (update f >>= k) s = k () (f s) := rfl

end Attempt

/-- A result satisfies the one condition, or an error the other. -/
def Leaves (Q : α → σ → Prop) (E : ε → σ → Prop) : Except ε α × σ → Prop
  | (.ok a, s) => Q a s
  | (.error e, s) => E e s

namespace Leaves

variable {Q : α → σ → Prop} {E : ε → σ → Prop}

theorem bind {M : β → σ → Prop} (first : Leaves M E (m s)) (onward : ∀ b after, M b after → Leaves Q E (k b after)) :
    Leaves Q E ((m >>= k) s) := by
  cases result : m s with
  | mk answer after =>
    rw [result] at first
    cases answer with
    | ok b =>
      rw [Attempt.bind_ok result]
      exact onward b after first
    | error =>
      rw [Attempt.bind_error result]
      exact first

theorem both {I : σ → Prop} {result : Except ε α × σ} (leaves : Leaves (fun _ => I) (fun _ => I) result) :
    I result.2 := by
  obtain ⟨answer, after⟩ := result
  cases answer
  all_goals exact leaves

end Leaves

end LaserDac.Attempts
