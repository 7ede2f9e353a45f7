import Mathlib

/-!
Slots for a window of a growing sequence. Values are numbered without bound but kept in 256 slots, under their
number modulo 256; as long as the window is no wider than that, a slot determines the number it stands for.
-/

namespace LaserDac.SequenceSlots

/-- The number a slot stands for in the window that begins at `first`. -/
def position (first : Nat) (slot : UInt8) : Nat := first + (slot - UInt8.ofNat first).toNat

theorem toNat_ofNat (n : Nat) : (UInt8.ofNat n).toNat = n % 256 := UInt8.toNat_ofNat'

theorem toNat_sub (a b : UInt8) : (a - b).toNat = (256 - b.toNat + a.toNat) % 256 := UInt8.toNat_sub a b

theorem position_lt (first : Nat) (slot : UInt8) : position first slot < first + 256 := by
  have := (slot - UInt8.ofNat first).toNat_lt
  unfold position
  omega

theorem le_position (first : Nat) (slot : UInt8) : first ≤ position first slot := Nat.le_add_right _ _

theorem ofNat_position (first : Nat) (slot : UInt8) : UInt8.ofNat (position first slot) = slot := by
  have small := slot.toNat_lt
  rw [← UInt8.toNat_inj, toNat_ofNat, position, toNat_sub, toNat_ofNat]
  omega

variable {n : Nat}

theorem position_ofNat {first : Nat} (low : first ≤ n) (high : n < first + 256) :
    position first (UInt8.ofNat n) = n := by
  rw [position, toNat_sub, toNat_ofNat, toNat_ofNat]
  omega

theorem position_before {first : Nat} (low : n < first) (high : first ≤ n + 256) :
    position first (UInt8.ofNat n) = n + 256 := by
  rw [position, toNat_sub, toNat_ofNat, toNat_ofNat]
  omega

theorem position_later {first next : Nat} (low : first ≤ next) (high : next ≤ first + 256) (slot : UInt8) :
    position next slot = if position first slot < next then position first slot + 256 else position first slot := by
  have same := ofNat_position first slot
  have before := le_position first slot
  have after := position_lt first slot
  generalize position first slot = n at same before after
  rw [← same]
  split
  · exact position_before (by omega) (by omega)
  · exact position_ofNat (by omega) (by omega)

/-- The slots hold the values from `first` on, and nothing else. -/
def Holds (first : Nat) (values : List Nat) (slots : UInt8 → Nat) : Prop :=
  ∀ slot, slots slot = values.getD (position first slot) 0

variable {first : Nat} {values : List Nat} {slots : UInt8 → Nat}

/-- One more value. -/
theorem Holds.push (holds : Holds first values slots) (low : first ≤ values.length)
    (room : values.length < first + 256) (value : Nat) :
    Holds first (values ++ [value]) (Function.update slots (UInt8.ofNat values.length) value) := by
  intro slot
  by_cases new : slot = UInt8.ofNat values.length
  · rw [new, Function.update_self, position_ofNat low room]
    simp
  · rw [Function.update_of_ne new, holds slot]
    have other : position first slot ≠ values.length := by
      intro same
      exact new (same ▸ (ofNat_position first slot).symm)
    rcases Nat.lt_or_gt_of_ne other with inside | outside
    · rw [List.getD_append _ _ _ _ inside]
    · rw [List.getD_eq_default _ _ (by omega), List.getD_eq_default _ _ (by simpa using outside)]

/-- The values up to `next` are given up. -/
theorem Holds.release (holds : Holds first values slots) {next : Nat} (low : first ≤ next)
    (reached : next ≤ values.length) (narrow : values.length ≤ first + 256) {freed : UInt8 → Nat}
    (frees : ∀ slot, freed slot = if position first slot < next then 0 else slots slot) :
    Holds next values freed := by
  intro slot
  rw [frees, position_later low (by omega)]
  have before := le_position first slot
  split
  · rw [List.getD_eq_default _ _ (by omega)]
  · exact holds slot

theorem Holds.stale (holds : Holds first values slots) (low : n < first) (high : values.length ≤ n + 256)
    (reached : first ≤ values.length) : slots (UInt8.ofNat n) = 0 := by
  rw [holds, position_before low (by omega), List.getD_eq_default _ _ high]

theorem sum_getD {values : List Nat} {count : Nat} (short : values.length ≤ count) :
    ∑ n ∈ Finset.range count, values.getD n 0 = values.sum := by
  induction values generalizing count with
  | nil => simp
  | cons value values ih =>
    obtain ⟨rest, rfl⟩ : ∃ rest, count = rest + 1 := Nat.exists_eq_succ_of_ne_zero (by simp at short; omega)
    rw [Finset.sum_range_succ', List.sum_cons, Nat.add_comm]
    simp only [List.getD_cons_succ, List.getD_cons_zero]
    rw [ih (by simpa using short)]

theorem Holds.sum (holds : Holds first values slots) (narrow : values.length ≤ first + 256) :
    ((List.range 256).map fun n => slots (UInt8.ofNat n)).sum = (values.drop first).sum := by
  have unrolled : ((List.range 256).map fun n => slots (UInt8.ofNat n)).sum =
      ∑ n ∈ Finset.range 256, slots (UInt8.ofNat n) := rfl
  have window : (values.drop first).length ≤ 256 := by
    rw [List.length_drop]
    omega
  rw [unrolled, ← sum_getD window]
  -- Going round the slots from the first one of the window on takes them in another order.
  refine Finset.sum_nbij' (fun n => position first (UInt8.ofNat n) - first) (fun n => (first + n) % 256) ?_ ?_ ?_ ?_ ?_
  · intro n _
    have after := position_lt first (UInt8.ofNat n)
    rw [Finset.mem_range]
    omega
  · intro n _
    exact Finset.mem_range.mpr (Nat.mod_lt _ (by decide))
  · intro n small
    rw [Finset.mem_range] at small
    have same := congrArg UInt8.toNat (ofNat_position first (UInt8.ofNat n))
    have before := le_position first (UInt8.ofNat n)
    rw [toNat_ofNat, toNat_ofNat, Nat.mod_eq_of_lt small] at same
    rw [Nat.add_sub_cancel' before, same]
  · intro n small
    rw [Finset.mem_range] at small
    have same : UInt8.ofNat ((first + n) % 256) = UInt8.ofNat (first + n) := by
      rw [← UInt8.toNat_inj, toNat_ofNat, toNat_ofNat, Nat.mod_mod]
    rw [same, position_ofNat (by omega) (by omega), Nat.add_sub_cancel_left]
  · intro n _
    have before := le_position first (UInt8.ofNat n)
    rw [holds, List.getD_eq_getElem?_getD, List.getD_eq_getElem?_getD, List.getElem?_drop, Nat.add_sub_cancel' before]

end LaserDac.SequenceSlots
