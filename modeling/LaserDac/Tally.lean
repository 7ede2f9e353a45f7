import Mathlib

/-!
Numbering the elements of a list by a key: every element gets the number of the earlier ones with its key, up to a
cap. With too few elements to reach the cap, no two of them have both in common.
-/

namespace LaserDac.Tally

variable {α β κ : Type} [DecidableEq κ]

/-- Each element with what the counter shows for its key, which then goes up by one unless it has reached the cap. -/
def number (key : α → κ) (cap : Nat) : (κ → Nat) → List α → List (α × Nat)
  | _, [] => []
  | counter, a :: rest =>
    (a, counter (key a)) :: number key cap (Function.update counter (key a) (min (counter (key a) + 1) cap)) rest

/-- The counters are so far from the cap that so many elements do not reach it. -/
def Roomy (cap count : Nat) (counter : κ → Nat) : Prop := ∀ k, counter k + count ≤ cap

theorem Roomy.step {cap count : Nat} {counter : κ → Nat} (roomy : Roomy cap (count + 1) counter) (k : κ) :
    Roomy cap count (Function.update counter k (min (counter k + 1) cap)) ∧
      min (counter k + 1) cap = counter k + 1 := by
  have room := roomy k
  refine ⟨fun other => ?_, by omega⟩
  by_cases same : other = k
  · subst same
    rw [Function.update_self]
    omega
  · rw [Function.update_of_ne same]
    exact (Nat.add_le_add_left (Nat.le_succ count) _).trans (roomy other)

variable {key : α → κ} {cap : Nat} {counter : κ → Nat} {list : List α}

@[simp] theorem map_fst_number : (number key cap counter list).map Prod.fst = list := by
  induction list generalizing counter with
  | nil => rfl
  | cons a rest ih => rw [number, List.map_cons, ih]

theorem number_map (f : α → β) {key' : β → κ} (same : ∀ a, key' (f a) = key a) :
    number key' cap counter (list.map f) = (number key cap counter list).map (Prod.map f id) := by
  induction list generalizing counter with
  | nil => rfl
  | cons a rest ih =>
    rw [List.map_cons, number, number, List.map_cons, same, ih]
    rfl

theorem le_of_mem_number (roomy : Roomy cap list.length counter) {a : α} {n : Nat}
    (member : (a, n) ∈ number key cap counter list) : counter (key a) ≤ n := by
  induction list generalizing counter with
  | nil => cases member
  | cons first rest ih =>
    obtain ⟨later, up⟩ := roomy.step (key first)
    rcases List.mem_cons.mp member with head | tail
    · obtain ⟨rfl, rfl⟩ := Prod.mk.inj head
      exact le_rfl
    · have bound := ih later tail
      by_cases same : key a = key first
      · rw [same, Function.update_self, up] at bound
        rw [same]
        exact Nat.le_of_succ_le bound
      · rwa [Function.update_of_ne same] at bound

theorem number_pairwise (roomy : Roomy cap list.length counter) :
    (number key cap counter list).Pairwise fun p q => key p.1 = key q.1 → p.2 < q.2 := by
  induction list generalizing counter with
  | nil => exact .nil
  | cons first rest ih =>
    obtain ⟨later, up⟩ := roomy.step (key first)
    refine List.pairwise_cons.mpr ⟨?_, ih later⟩
    rintro ⟨a, n⟩ member same
    have bound := le_of_mem_number later member
    rwa [← same, Function.update_self, up] at bound

theorem exists_first {a : α} (member : a ∈ list) :
    ∃ first, key first = key a ∧ (first, counter (key a)) ∈ number key cap counter list := by
  induction list generalizing counter with
  | nil => cases member
  | cons head rest ih =>
    by_cases same : key head = key a
    · exact ⟨head, same, by rw [number, same]; exact List.mem_cons_self⟩
    · rcases List.mem_cons.mp member with rfl | tail
      · exact absurd rfl same
      · let next := Function.update counter (key head) (min (counter (key head) + 1) cap)
        have still : next (key a) = counter (key a) := Function.update_of_ne (Ne.symm same) _ _
        obtain ⟨first, keyed, found⟩ : ∃ first, key first = key a ∧ (first, next (key a)) ∈ number key cap next rest :=
          ih tail
        rw [still] at found
        exact ⟨first, keyed, List.mem_cons_of_mem _ found⟩

end LaserDac.Tally
