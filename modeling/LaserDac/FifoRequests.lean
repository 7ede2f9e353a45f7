import LaserDac.Sessions

/-!
What the network FIFO adapter asks its source for. The size of a request depends on the target, the device's
ceiling, the largest chunk and the reported fill alone; `step_serves` takes it out of the adapter's step, and
`step_requests_sized` says how large it can be.
-/

namespace LaserDac

open Runs Runs.Run

/-- What a step comes to before it turns to the source. -/
inductive Request
  /-- The buffer is above its target, or short of it by less than a write is worth. -/
  | wait (duration : Nat)
  | nothing
  | ask (points : Nat)
  deriving DecidableEq, Repr

namespace NetworkFifoAdapter

/-- The target fill, in thousand-millionths of a point. -/
def target (targetBuffer pps : Nat) (ceiling : Option Nat) : Nat :=
  match ceiling with
  | some ceiling => min (targetBuffer * pps) (max ceiling 1 * nanosPerSecond)
  | none => targetBuffer * pps

variable (adapter : NetworkFifoAdapter)

/-- The smallest write that is worth its overhead. -/
def quantum (target pps : Nat) : Nat :=
  min (min (max ((5 * pps + 999) / 1000) 16) adapter.maxPoints) (target / nanosPerSecond)

/-- The request for a target, with so many points reported as buffered. -/
def request (target pps buffered : Nat) : Request :=
  let ratePending := adapter.writtenPps.getD pps != pps
  if buffered > target / nanosPerSecond ∧ ratePending = false then
    .wait (Metronome.nearest ((buffered - target / nanosPerSecond) * nanosPerSecond) (max pps 1))
  else
    let wanted := min ((target - buffered * nanosPerSecond + nanosPerSecond - 1) / nanosPerSecond) adapter.maxPoints
    let targetPoints := if ratePending then max (max wanted (adapter.quantum target pps)) 1 else wanted
    if targetPoints = 0 then .nothing
    else if targetPoints < adapter.quantum target pps then
      .wait (Metronome.nearest ((adapter.quantum target pps - targetPoints) * nanosPerSecond) (max pps 1))
    else .ask targetPoints

/-- What a step does with its request. -/
def serve (env : Env) (adapter : NetworkFifoAdapter) (ctx : LoopCtx) : Request → Run World StepOutcome
  | .wait duration => waitStep env duration
  | .nothing => do
    clockSleep env 1000000
    return .continue
  | .ask targetPoints => do
    let w ← state
    if w.source.isFrame then sourceMismatch "NetworkFifoAdapter"
    else
      let n ← produceChunk env targetPoints ctx.pps ctx.isArmed
      if n = 0 then
        clockSleep env 1000000
        return .continue
      else
        let spinStart ← clockNow env
        let desiredAtStart ← desiredState env
        iterate env.fuel (fun _ => spin env adapter ctx n spinStart desiredAtStart) ()

theorem step_serves (env : Env) (adapter : NetworkFifoAdapter) (ctx : LoopCtx) :
    adapter.step env ctx = (do
      let ceiling ← targetBufferCeiling env
      let buffered ← estimatorFullness env (adapter.writtenPps.getD ctx.pps)
      adapter.serve env ctx (adapter.request (target env.targetBuffer ctx.pps ceiling) ctx.pps buffered)) := by
  unfold step
  refine bind_congr fun ceiling => ?_
  cases ceiling <;> refine bind_congr fun buffered => ?_ <;> unfold request quantum target <;> dsimp only
  all_goals
    split
    · rfl
    · -- The rate is pending, or not; then the request is zero, too small, or made.
      split
      all_goals
        split
        · rfl
        · split <;> rfl

/-- An empty device at its own rate is always served: the gate on small writes does not refuse what is wanted. -/
theorem request_of_empty {adapter : NetworkFifoAdapter} {target pps : Nat} (largest : 0 < adapter.maxPoints)
    (settled : adapter.writtenPps.getD pps = pps) (positive : 0 < target) :
    adapter.request target pps 0 =
      .ask (min ((target + nanosPerSecond - 1) / nanosPerSecond) adapter.maxPoints) := by
  have rounded : target / nanosPerSecond ≤ (target + nanosPerSecond - 1) / nanosPerSecond := by
    simp only [nanosPerSecond]
    omega
  have wanted : 0 < (target + nanosPerSecond - 1) / nanosPerSecond := by
    simp only [nanosPerSecond]
    omega
  have gate : adapter.quantum target pps ≤ min ((target + nanosPerSecond - 1) / nanosPerSecond) adapter.maxPoints := by
    unfold quantum
    omega
  unfold request
  simp only [settled, bne_self_eq_false, Nat.zero_mul, Nat.sub_zero, Bool.false_eq_true, if_false]
  rw [if_neg fun above => Nat.not_lt_zero _ above.1, if_neg (by omega), if_neg (Nat.not_lt.mpr gate)]

section

variable {adapter : NetworkFifoAdapter} {pps n : Nat}

theorem target_pos {targetBuffer : Nat} (positive : 0 < targetBuffer) (rate : 0 < pps) (ceiling : Option Nat) :
    0 < target targetBuffer pps ceiling := by
  have asked : 0 < targetBuffer * pps := Nat.mul_pos positive rate
  cases ceiling with
  | none => exact asked
  | some ceiling =>
    have held : 0 < max ceiling 1 * nanosPerSecond := Nat.mul_pos (by omega) (by decide)
    exact Nat.lt_min.mpr ⟨asked, held⟩

theorem quantum_le_maxPoints (target pps : Nat) : adapter.quantum target pps ≤ adapter.maxPoints := by
  unfold quantum
  omega

theorem rounded_le_ceil (target : Nat) :
    (target + nanosPerSecond - 1) / nanosPerSecond ≤ ⌈(target : ℚ) / nanosPerSecond⌉₊ := by
  have above := Nat.le_ceil ((target : ℚ) / nanosPerSecond)
  generalize ⌈(target : ℚ) / nanosPerSecond⌉₊ = points at above
  rw [div_le_iff₀ (by norm_num [nanosPerSecond])] at above
  have whole : target ≤ points * nanosPerSecond := by exact_mod_cast above
  simp only [nanosPerSecond] at whole ⊢
  omega

theorem request_of_settled {target buffered : Nat} (settled : adapter.writtenPps.getD pps = pps)
    (asked : adapter.request target pps buffered = .ask n) :
    n ≤ adapter.maxPoints ∧ buffered + n ≤ (target + nanosPerSecond - 1) / nanosPerSecond ∧
      adapter.quantum target pps ≤ n := by
  unfold request at asked
  simp only [settled, bne_self_eq_false, Bool.false_eq_true, if_false, and_true] at asked
  split at asked
  · cases asked
  · rename_i above
    split at asked
    · cases asked
    · split at asked
      · cases asked
      · rename_i positive worth
        obtain rfl := Request.ask.inj asked
        simp only [nanosPerSecond] at *
        refine ⟨?_, ?_, ?_⟩ <;> omega

theorem request_of_pending (target buffered : Nat) (largest : 0 < adapter.maxPoints)
    (pending : adapter.writtenPps.getD pps ≠ pps) :
    ∃ n, adapter.request target pps buffered = .ask n ∧ max (adapter.quantum target pps) 1 ≤ n ∧
      n ≤ adapter.maxPoints := by
  have limit := adapter.quantum_le_maxPoints target pps
  have changed : (adapter.writtenPps.getD pps != pps) = true := bne_iff_ne.mpr pending
  unfold request
  simp only [changed, Bool.true_eq_false, and_false, if_false, if_true]
  rw [if_neg (by omega), if_neg (by omega)]
  refine ⟨_, rfl, ?_, ?_⟩ <;> omega

end

/-- How much a step asks for: never more than a chunk; at the rate last written no more than the target has room
for, and no less than the quantum; from an empty device, and at a changed rate, always something. -/
theorem step_requests_sized (env : Env) (adapter : NetworkFifoAdapter) (ctx : LoopCtx) (rate : 1 ≤ ctx.pps)
    (positive : 0 < env.targetBuffer) (largest : 1 ≤ adapter.maxPoints) :
    adapter.step env ctx = (do
      let ceiling ← targetBufferCeiling env
      let buffered ← estimatorFullness env (adapter.writtenPps.getD ctx.pps)
      adapter.serve env ctx (adapter.request (target env.targetBuffer ctx.pps ceiling) ctx.pps buffered)) ∧
    ∀ (ceiling : Option Nat) (buffered : Nat),
      let target := target env.targetBuffer ctx.pps ceiling
      let quantum := adapter.quantum target ctx.pps
      let request := adapter.request target ctx.pps buffered
      (∀ n, request = .ask n → n ≤ adapter.maxPoints) ∧
      (adapter.writtenPps.getD ctx.pps = ctx.pps → ∀ n, request = .ask n →
        buffered + n ≤ ⌈(target : ℚ) / nanosPerSecond⌉₊ ∧ quantum ≤ n) ∧
      (buffered = 0 → ∃ n, request = .ask n ∧ max quantum 1 ≤ n) ∧
      (adapter.writtenPps.getD ctx.pps ≠ ctx.pps → ∃ n, request = .ask n ∧ max quantum 1 ≤ n) := by
  refine ⟨step_serves env adapter ctx, fun ceiling buffered => ?_⟩
  have wanted := target_pos positive rate ceiling
  generalize target env.targetBuffer ctx.pps ceiling = target at wanted
  dsimp only
  by_cases settled : adapter.writtenPps.getD ctx.pps = ctx.pps
  · refine ⟨fun n asked => (request_of_settled settled asked).1, fun _ n asked => ?_, ?_, fun pending => ?_⟩
    · obtain ⟨-, fits, worth⟩ := request_of_settled settled asked
      exact ⟨fits.trans (rounded_le_ceil target), worth⟩
    · rintro rfl
      have asked := request_of_empty largest settled wanted
      refine ⟨_, asked, max_le (request_of_settled settled asked).2.2 ?_⟩
      have whole : 0 < (target + nanosPerSecond - 1) / nanosPerSecond := by
        simp only [nanosPerSecond]
        omega
      omega
    · exact absurd settled pending
  · obtain ⟨m, asked, least, limit⟩ := request_of_pending target buffered largest settled
    refine ⟨fun n other => ?_, fun same => absurd same settled, fun _ => ⟨m, asked, least⟩, fun _ => ⟨m, asked, least⟩⟩
    obtain rfl := Request.ask.inj (asked.symm.trans other)
    exact limit

/-- A device that holds far more than its target is written to once its rate has changed. -/
theorem step_requests_sized_pending :
    let adapter : NetworkFifoAdapter := { maxPoints := 4, writtenPps := some 500 }
    ∃ n, adapter.request (target (Env.calm 0).targetBuffer 1000 none) 1000 100 = .ask n ∧
      max (adapter.quantum (target (Env.calm 0).targetBuffer 1000 none) 1000) 1 ≤ n :=
  ((step_requests_sized (Env.calm 0) { maxPoints := 4, writtenPps := some 500 } { pps := 1000, isArmed := true }
    (by decide) (by decide) (by decide)).2 none 100).2.2.2 (by decide)

end NetworkFifoAdapter

end LaserDac
