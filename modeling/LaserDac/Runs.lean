import Mathlib

/-!
Programs over a state whose runs may be cut off, keeping the state they have reached. `Follows` says that a program
only moves along a step relation, `Ends` that it is not cut off and what it leaves. The last part is about histories,
lists of events with the newest first.
-/

namespace LaserDac.Runs

universe u v

/-- A program on states of type `σ`: its result, or nothing if it was cut off, and the state it reached. -/
def Run (σ : Type u) (α : Type v) := σ → Option α × σ

variable {σ α β : Type} {R : σ → σ → Prop}

variable {k : β → Run σ α} {m' : Run σ α} {f : σ → σ} {c : Prop}

namespace Run

instance : Monad (Run σ) where
  pure a := fun s => (some a, s)
  bind m k := fun s =>
    match m s with
    | (some a, s) => k a s
    | (none, s) => (none, s)

def state : Run σ σ := fun s => (some s, s)

def update (f : σ → σ) : Run σ Unit := fun s => (some (), f s)

def cut : Run σ α := fun s => (none, s)

def whenever (c : Prop) [Decidable c] (m : Run σ Unit) : Run σ Unit := if c then m else pure ()

def ofOption : Option α → Run σ α
  | some a => pure a
  | none => cut

/-- Repeat a round that goes on with a new value or ends with a result, for at most `fuel` rounds. -/
def iterate (fuel : Nat) (round : β → Run σ (β ⊕ α)) (b : β) : Run σ α :=
  match fuel with
  | 0 => cut
  | fuel + 1 => do
    match ← round b with
    | .inl b => iterate fuel round b
    | .inr a => pure a

def zoom {τ : Type} (part : σ → τ) (put : τ → σ → σ) (m : Run τ α) : Run σ α := fun s =>
  ((m (part s)).1, put (m (part s)).2 s)

theorem bind_of_result {m : Run σ β} {s after : σ} {b : β} (result : m s = (some b, after)) :
    (m >>= k) s = k b after := by
  change (match m s with
    | (some b, s) => k b s
    | (none, s) => (none, s)) = _
  rw [result]

theorem bind_of_cut {m : Run σ β} {s after : σ} (result : m s = (none, after)) : (m >>= k) s = (none, after) := by
  change (match m s with
    | (some b, s) => k b s
    | (none, s) => (none, s)) = _
  rw [result]

theorem bind_state {k : σ → Run σ α} {s : σ} : (state >>= k) s = k s s := rfl

theorem bind_update {k : Unit → Run σ α} {s : σ} : (update f >>= k) s = k () (f s) := rfl

end Run

open Run

/-- From every state in `P` the program moves along `R`, and a result comes with `Q`. -/
def Follows (R : σ → σ → Prop) (P : σ → Prop) (m : Run σ α) (Q : α → σ → Prop) : Prop :=
  ∀ s, P s → Relation.ReflTransGen R s (m s).2 ∧ ∀ a, (m s).1 = some a → Q a (m s).2

variable {m : Run σ α}

namespace Follows

variable {P P' : σ → Prop} {Q Q' : α → σ → Prop}

theorem pure {a : α} (holds : ∀ s, P s → Q a s) : Follows R P (pure a) Q := by
  intro s pre
  refine ⟨.refl, fun b result => ?_⟩
  obtain rfl : a = b := Option.some.inj result
  exact holds s pre

theorem bind {m : Run σ β} {M : β → σ → Prop} (first : Follows R P m M) (rest : ∀ b, Follows R (M b) (k b) Q) :
    Follows R P (m >>= k) Q := by
  intro s pre
  obtain ⟨path, middle⟩ := first s pre
  have unfolded : (m >>= k) s = match m s with
      | (some b, s) => k b s
      | (none, s) => (none, s) := rfl
  rw [unfolded]
  cases result : m s with
  | mk answer after =>
    rw [result] at path middle
    cases answer with
    | none => exact ⟨path, by simp⟩
    | some b =>
      obtain ⟨onward, post⟩ := rest b after (middle b rfl)
      exact ⟨path.trans onward, post⟩

theorem weaken (judged : Follows R P m Q) (pre : ∀ s, P' s → P s) (post : ∀ a s, Q a s → Q' a s) :
    Follows R P' m Q' := by
  intro s holds
  obtain ⟨path, result⟩ := judged s (pre s holds)
  exact ⟨path, fun a eq => post a _ (result a eq)⟩

/-- A weaker relation on the way. -/
theorem mono {R' : σ → σ → Prop} (judged : Follows R P m Q) (weaker : ∀ s s', R s s' → R' s s') : Follows R' P m Q :=
  fun s holds => ⟨Relation.ReflTransGen.mono weaker _ _ (judged s holds).1, (judged s holds).2⟩

theorem pre (judged : Follows R P m Q) (pre : ∀ s, P' s → P s) : Follows R P' m Q :=
  judged.weaken pre fun _ _ => id

theorem post (judged : Follows R P m Q) (post : ∀ a s, Q a s → Q' a s) : Follows R P m Q' :=
  judged.weaken (fun _ => id) post

theorem assuming {fact : Prop} (known : ∀ s, P s → fact) (judged : fact → Follows R P m Q) : Follows R P m Q :=
  fun s holds => judged (known s holds) s holds

theorem ite [Decidable c] (yes : c → Follows R P m Q) (no : ¬ c → Follows R P m' Q) :
    Follows R P (if c then m else m') Q := by
  by_cases holds : c
  · rw [if_pos holds]
    exact yes holds
  · rw [if_neg holds]
    exact no holds

theorem whenever [Decidable c] {m : Run σ Unit} {Q : Unit → σ → Prop} (yes : c → Follows R P m Q)
    (no : ¬ c → ∀ s, P s → Q () s) : Follows R P (whenever c m) Q :=
  ite yes fun holds => pure (no holds)

theorem state {Q : σ → σ → Prop} (holds : ∀ s, P s → Q s s) : Follows R P state Q := by
  intro s pre
  refine ⟨.refl, fun a result => ?_⟩
  obtain rfl : s = a := Option.some.inj result
  exact holds s pre

theorem update {Q : Unit → σ → Prop} (moves : ∀ s, P s → Relation.ReflTransGen R s (f s))
    (holds : ∀ s, P s → Q () (f s)) : Follows R P (update f) Q :=
  fun s pre => ⟨moves s pre, fun _ _ => holds s pre⟩

theorem cut : Follows R P cut Q := fun _ _ => ⟨.refl, fun _ result => by simp [Run.cut] at result⟩

theorem ofOption {o : Option α} (holds : ∀ a, o = some a → ∀ s, P s → Q a s) : Follows R P (ofOption o) Q := by
  cases o with
  | none => exact cut
  | some a => exact pure (holds a rfl)

theorem iterate {round : β → Run σ (β ⊕ α)} (I : β → σ → Prop)
    (step : ∀ b, Follows R (I b) (round b) fun next s => match next with
      | .inl b => I b s
      | .inr a => Q a s) (fuel : Nat) (b : β) : Follows R (I b) (iterate fuel round b) Q := by
  induction fuel generalizing b with
  | zero => exact cut
  | succ fuel ih =>
    refine bind (step b) fun next => ?_
    cases next with
    | inl b => exact ih b
    | inr => exact pure fun _ => id

end Follows

theorem Follows.keeps {P I : σ → Prop} {Q : α → σ → Prop} (judged : Follows R P m Q)
    (step : ∀ s s', I s → R s s' → I s') (s : σ) (pre : P s) (start : I s) : I (m s).2 := by
  have path := (judged s pre).1
  generalize (m s).2 = after at path
  induction path with
  | refl => exact start
  | tail _ move ih => exact step _ _ ih move

/-- The program runs to its end from this state, and its result and the state it leaves satisfy `Q`. -/
def Ends (m : Run σ α) (s : σ) (Q : α → σ → Prop) : Prop := ∃ a after, m s = (some a, after) ∧ Q a after

namespace Ends

variable {Q Q' : α → σ → Prop} {s : σ}

theorem pure {a : α} (holds : Q a s) : Ends (pure a) s Q := ⟨a, s, rfl, holds⟩

theorem bind {m : Run σ β} {M : β → σ → Prop} (first : Ends m s M) (rest : ∀ b after, M b after → Ends (k b) after Q) :
    Ends (m >>= k) s Q := by
  obtain ⟨b, middle, result, holds⟩ := first
  obtain ⟨a, after, last, post⟩ := rest b middle holds
  exact ⟨a, after, (bind_of_result result).trans last, post⟩

theorem post (ends : Ends m s Q) (weaker : ∀ a after, Q a after → Q' a after) : Ends m s Q' := by
  obtain ⟨a, after, result, holds⟩ := ends
  exact ⟨a, after, result, weaker a after holds⟩

theorem state {k : σ → Run σ α} (rest : Ends (k s) s Q) : Ends (Run.state >>= k) s Q := rest

theorem update {k : Unit → Run σ α} (rest : Ends (k ()) (f s) Q) : Ends (Run.update f >>= k) s Q := rest

theorem ite [Decidable c] (yes : c → Ends m s Q) (no : ¬ c → Ends m' s Q) : Ends (if c then m else m') s Q := by
  by_cases holds : c
  · rw [if_pos holds]
    exact yes holds
  · rw [if_neg holds]
    exact no holds

/-- One round, and those after it. -/
theorem iterate {round : β → Run σ (β ⊕ α)} {fuel : Nat} {b : β} {M : β ⊕ α → σ → Prop} (first : Ends (round b) s M)
    (goes : ∀ b after, M (.inl b) after → Ends (Run.iterate fuel round b) after Q)
    (ends : ∀ a after, M (.inr a) after → Q a after) : Ends (Run.iterate (fuel + 1) round b) s Q := by
  refine bind first fun next after holds => ?_
  cases next with
  | inl b => exact goes b after holds
  | inr a => exact pure (ends a after holds)

theorem iteIff {d : Prop} [Decidable c] (same : c ↔ d) (yes : d → Ends m s Q) (no : ¬ d → Ends m' s Q) :
    Ends (if c then m else m') s Q :=
  ite (fun holds => yes (same.mp holds)) fun fails => no (mt same.mpr fails)

end Ends

section

variable {ε : Type}

/-- Every event of a history, the newest first, stands in the given relation to what came before it. -/
def Always (P : ε → List ε → Prop) : List ε → Prop
  | [] => True
  | event :: earlier => P event earlier ∧ Always P earlier

instance Always.decidable (P : ε → List ε → Prop) [∀ event earlier, Decidable (P event earlier)] :
    ∀ log, Decidable (Always P log)
  | [] => isTrue trivial
  | event :: earlier =>
    have := Always.decidable P earlier
    inferInstanceAs (Decidable (P event earlier ∧ Always P earlier))

variable {P : ε → List ε → Prop} {log : List ε}

theorem Always.of_forall (holds : ∀ event earlier, P event earlier) :
    ∀ log, Always P log
  | [] => trivial
  | event :: earlier => ⟨holds event earlier, of_forall holds earlier⟩

theorem Always.of_suffix {later : List ε} (always : Always P later) (suffix : log <:+ later) : Always P log := by
  obtain ⟨events, rfl⟩ := suffix
  induction events with
  | nil => exact always
  | cons event events ih => exact ih always.2

theorem Always.imp {Q : ε → List ε → Prop} (weaker : ∀ event earlier, P event earlier → Q event earlier)
    (always : Always P log) : Always Q log := by
  induction log with
  | nil => trivial
  | cons event earlier ih => exact ⟨weaker event earlier always.1, ih always.2⟩

theorem Always.and {Q : ε → List ε → Prop} (left : Always P log) (right : Always Q log) :
    Always (fun event earlier => P event earlier ∧ Q event earlier) log := by
  induction log with
  | nil => trivial
  | cons event earlier ih => exact ⟨⟨left.1, right.1⟩, ih left.2 right.2⟩

end

end LaserDac.Runs
