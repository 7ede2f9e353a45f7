import Mathlib

/-!
The streaming resampler of the audio backends, over exact rationals. It carries its phase and the last inputs from
chunk to chunk. A read outside the retained inputs is a panic of the source and a `none` here.
-/

namespace LaserDac

def catmullRom (s0 s1 s2 s3 t : ℚ) : ℚ :=
  let c1 := 1 / 2 * (s2 - s0)
  let c2 := s0 - 5 / 2 * s1 + 2 * s2 - 1 / 2 * s3
  let c3 := 1 / 2 * (s3 - s0) + 3 / 2 * (s1 - s2)
  ((c3 * t + c2) * t + c1) * t + s1

/-- Values the resampler interpolates. -/
class CatmullInterp (T : Type) where
  catmull (s0 s1 s2 s3 : T) (t : ℚ) : T

instance : CatmullInterp ℚ := ⟨catmullRom⟩

instance : CatmullInterp (ℚ × ℚ) where
  catmull s0 s1 s2 s3 t := (catmullRom s0.1 s1.1 s2.1 s3.1 t, catmullRom s0.2 s1.2 s2.2 s3.2 t)

/-- The phase and the last inputs of a stream. -/
structure StreamingResampler (T : Type) where
  fromRate : Nat
  toRate : Nat
  /-- Retained inputs, from the index `bufStart` on. -/
  buf : List T
  bufStart : Nat
  nIn : Nat
  nOut : Nat
  deriving DecidableEq, Repr

namespace StreamingResampler

variable {T : Type}

/-- Rates of zero are asserted away. -/
def new (fromRate toRate : Nat) : Option (StreamingResampler T) :=
  if fromRate > 0 ∧ toRate > 0 then some { fromRate, toRate, buf := [], bufStart := 0, nIn := 0, nOut := 0 } else none

def reset (r : StreamingResampler T) : StreamingResampler T := { r with buf := [], bufStart := 0, nIn := 0, nOut := 0 }

def setRates (fromRate toRate : Nat) (r : StreamingResampler T) : Option (StreamingResampler T) :=
  if fromRate > 0 ∧ toRate > 0 then
    some (if fromRate ≠ r.fromRate ∨ toRate ≠ r.toRate then { r with fromRate, toRate }.reset else r)
  else none

def totalEmittable (r : StreamingResampler T) (nIn : Nat) : Nat :=
  if nIn = 0 then 0 else (nIn - 1) * r.toRate / r.fromRate + 1

/-- The outputs that so many more inputs bring. -/
def pendingOutputCount (r : StreamingResampler T) (inputLen : Nat) : Nat :=
  r.totalEmittable (r.nIn + inputLen) - r.nOut

/-- The inputs whose phase is carried into a chunk at these rates: a change of rates forgets them. -/
def carried (fromRate toRate : Nat) (r : StreamingResampler T) : Nat :=
  if fromRate = r.fromRate ∧ toRate = r.toRate then r.nIn else 0

def sampleAt (r : StreamingResampler T) (abs : Int) (last : Nat) : Option T :=
  let clamped := (min (max abs 0) last).toNat
  if clamped < r.bufStart then none else r.buf[clamped - r.bufStart]?

def nextIdx (r : StreamingResampler T) : Nat := r.nOut * r.fromRate / r.toRate

/-- Drop inputs from the front up to an index, but never the last one. -/
def pruneTo (targetStart : Nat) : List T → Nat → List T × Nat
  | sample :: next :: rest, start =>
    if start < targetStart then pruneTo targetStart (next :: rest) (start + 1) else (sample :: next :: rest, start)
  | buf, start => (buf, start)

def prune (r : StreamingResampler T) : StreamingResampler T :=
  let (buf, bufStart) := pruneTo (r.nextIdx - 1) r.buf r.bufStart
  { r with buf, bufStart }

variable [CatmullInterp T]

def output (r : StreamingResampler T) (last : Nat) : Option T := do
  let p := r.nOut * r.fromRate
  let idx : Int := (p / r.toRate : Nat)
  let t : ℚ := (p % r.toRate : Nat) / r.toRate
  let s0 ← r.sampleAt (idx - 1) last
  let s1 ← r.sampleAt idx last
  let s2 ← r.sampleAt (idx + 1) last
  let s3 ← r.sampleAt (idx + 2) last
  return CatmullInterp.catmull s0 s1 s2 s3 t

def emit (last : Nat) : Nat → StreamingResampler T → Option (List T × StreamingResampler T)
  | 0, r => some ([], r)
  | count + 1, r => do
    let sample ← r.output last
    let (rest, r) ← emit last count { r with nOut := r.nOut + 1 }
    return (sample :: rest, r)

/-- Resample a chunk: the outputs and the state after it. -/
def process (input : List T) (r : StreamingResampler T) : Option (List T × StreamingResampler T) := do
  let r := { r with buf := r.buf ++ input, nIn := r.nIn + input.length }
  if r.nIn = 0 then return ([], r)
  else
    let (samples, r) ← emit (r.nIn - 1) (r.totalEmittable r.nIn - r.nOut) r
    return (samples, r.prune)

/-- The state between two chunks. -/
structure Sound (r : StreamingResampler T) : Prop where
  rates : 0 < r.fromRate ∧ 0 < r.toRate
  counted : r.nOut = r.totalEmittable r.nIn
  retained : r.bufStart + r.buf.length = r.nIn
  kept : 0 < r.nIn → 0 < r.buf.length
  start : r.bufStart ≤ r.nextIdx - 1

omit [CatmullInterp T]

variable {r : StreamingResampler T}

theorem sampleAt_isSome {last : Nat} (abs : Int) (retained : r.bufStart + r.buf.length = last + 1)
    (kept : 0 < r.buf.length) (low : r.bufStart ≤ abs.toNat) : ∃ sample, r.sampleAt abs last = some sample := by
  have inside : r.bufStart ≤ (min (max abs 0) (last : Int)).toNat ∧
      (min (max abs 0) (last : Int)).toNat < r.bufStart + r.buf.length := by
    omega
  rw [sampleAt, if_neg (by omega)]
  exact ⟨_, List.getElem?_eq_getElem (by omega)⟩

theorem nextIdx_mono : r.nextIdx ≤ { r with nOut := r.nOut + 1 }.nextIdx :=
  Nat.div_le_div_right (Nat.mul_le_mul_right _ (Nat.le_succ _))

theorem pruneTo_spec (targetStart : Nat) (buf : List T) (start : Nat) (before : start ≤ targetStart) :
    (pruneTo targetStart buf start).2 + (pruneTo targetStart buf start).1.length = start + buf.length ∧
      (0 < buf.length → 0 < (pruneTo targetStart buf start).1.length) ∧
      (pruneTo targetStart buf start).2 ≤ targetStart := by
  fun_induction pruneTo targetStart buf start with
  | case1 sample next rest start more ih =>
    obtain ⟨length, kept, bound⟩ := ih more
    simp only [List.length_cons] at length kept ⊢
    omega
  | case2 sample next rest start more => exact ⟨rfl, id, before⟩
  | case3 buf start => exact ⟨rfl, id, before⟩

theorem totalEmittable_mono (r : StreamingResampler T) {nIn nIn' : Nat} (more : nIn ≤ nIn') :
    r.totalEmittable nIn ≤ r.totalEmittable nIn' := by
  unfold totalEmittable
  split
  · exact Nat.zero_le _
  · rw [if_neg (by omega)]
    exact Nat.succ_le_succ (Nat.div_le_div_right (Nat.mul_le_mul_right _ (by omega)))

variable [CatmullInterp T]

theorem output_isSome (retained : r.bufStart + r.buf.length = r.nIn) (kept : 0 < r.buf.length)
    (start : r.bufStart ≤ r.nextIdx - 1) : ∃ sample, r.output (r.nIn - 1) = some sample := by
  have whole : r.bufStart + r.buf.length = r.nIn - 1 + 1 := by omega
  unfold nextIdx at start
  unfold output
  dsimp only
  generalize r.nOut * r.fromRate / r.toRate = idx at start
  obtain ⟨s0, first⟩ := sampleAt_isSome ((idx : Int) - 1) whole kept (by omega)
  obtain ⟨s1, second⟩ := sampleAt_isSome (idx : Int) whole kept (by omega)
  obtain ⟨s2, third⟩ := sampleAt_isSome ((idx : Int) + 1) whole kept (by omega)
  obtain ⟨s3, fourth⟩ := sampleAt_isSome ((idx : Int) + 2) whole kept (by omega)
  simp [first, second, third, fourth]

/-- The loop emits what is due. -/
theorem emit_total (count : Nat) (r : StreamingResampler T) (retained : r.bufStart + r.buf.length = r.nIn)
    (kept : 0 < r.buf.length) (start : r.bufStart ≤ r.nextIdx - 1) :
    ∃ samples, emit (r.nIn - 1) count r = some (samples, { r with nOut := r.nOut + count }) ∧
      samples.length = count := by
  induction count generalizing r with
  | zero => exact ⟨[], rfl, rfl⟩
  | succ count ih =>
    obtain ⟨sample, first⟩ := output_isSome retained kept start
    have later := Nat.le_trans start (Nat.sub_le_sub_right nextIdx_mono 1)
    obtain ⟨samples, rest, length⟩ := ih { r with nOut := r.nOut + 1 } retained kept later
    refine ⟨sample :: samples, ?_, congrArg (· + 1) length⟩
    rw [emit, first, Option.bind_eq_bind, Option.bind_some]
    simp only [rest]
    simp [Nat.add_assoc, Nat.add_comm 1 count]

theorem process_sound (input : List T) (sound : r.Sound) :
    ∃ samples r', r.process input = some (samples, r') ∧ samples.length = r.pendingOutputCount input.length ∧
      r'.Sound ∧ r'.nIn = r.nIn + input.length ∧ r'.fromRate = r.fromRate ∧ r'.toRate = r.toRate := by
  obtain ⟨rates, counted, retained, kept, start⟩ := sound
  by_cases nothing : r.nIn + input.length = 0
  · have none : r.nIn = 0 ∧ input = [] := ⟨by omega, List.length_eq_zero_iff.mp (by omega)⟩
    obtain ⟨none, rfl⟩ := none
    refine ⟨[], r, ?_, ?_, ⟨rates, counted, retained, kept, start⟩, rfl, rfl, rfl⟩
    · unfold process
      simp only [List.append_nil, List.length_nil, Nat.add_zero]
      rw [if_pos none]
      rfl
    · simp [pendingOutputCount, none, totalEmittable]
  · have longer : r.bufStart + (r.buf ++ input).length = r.nIn + input.length := by
      rw [List.length_append]
      omega
    have some_ : 0 < (r.buf ++ input).length := by
      rw [List.length_append]
      omega
    have due := totalEmittable_mono r (Nat.le_add_right r.nIn input.length)
    obtain ⟨samples, emitted, length⟩ := emit_total (r.pendingOutputCount input.length)
      { r with buf := r.buf ++ input, nIn := r.nIn + input.length } longer some_ start
    have total : r.nOut + r.pendingOutputCount input.length = r.totalEmittable (r.nIn + input.length) := by
      rw [pendingOutputCount]
      omega
    set after : StreamingResampler T := { r with
      buf := r.buf ++ input
      nIn := r.nIn + input.length
      nOut := r.nOut + r.pendingOutputCount input.length } with afterEq
    have later : r.bufStart ≤ after.nextIdx - 1 :=
      Nat.le_trans start (Nat.sub_le_sub_right
        (Nat.div_le_div_right (Nat.mul_le_mul_right _ (Nat.le_add_right _ _))) 1)
    obtain ⟨pruned, nonempty, bound⟩ := pruneTo_spec (after.nextIdx - 1) after.buf after.bufStart later
    refine ⟨samples, after.prune, ?_, length, ⟨rates, total, pruned.trans longer, fun _ => nonempty some_, bound⟩,
      rfl, rfl, rfl⟩
    unfold process
    dsimp only
    rw [if_neg nothing]
    exact congrArg (Option.bind · _) emitted

omit [CatmullInterp T] in
theorem setRates_sound (sound : r.Sound) (fromRate toRate : Nat) (positive : 0 < fromRate) (positive' : 0 < toRate) :
    ∃ r', r.setRates fromRate toRate = some r' ∧ r'.Sound ∧ r'.fromRate = fromRate ∧ r'.toRate = toRate ∧
      r'.nIn = r.carried fromRate toRate := by
  rw [setRates, if_pos ⟨positive, positive'⟩, carried]
  by_cases same : fromRate = r.fromRate ∧ toRate = r.toRate
  · rw [if_neg (by omega), if_pos same]
    exact ⟨r, rfl, sound, same.1.symm, same.2.symm, rfl⟩
  · rw [if_pos (by omega), if_neg same]
    exact ⟨_, rfl, ⟨⟨positive, positive'⟩, rfl, rfl, by simp [reset], Nat.zero_le _⟩, rfl, rfl, rfl⟩

end StreamingResampler

end LaserDac
