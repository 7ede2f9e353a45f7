import LaserDac.FluidQueue

/-!
The estimator of a device that reports nothing. It takes off what must have played since the time its fullness belongs
to. A send moves that time on by whole points only, so the fraction is carried along. Times are seconds.
-/

namespace LaserDac

open FluidQueue

def u64Max : Nat := 2 ^ 64 - 1

structure SoftwareDecayEstimator where
  fullnessAtAnchor : Nat
  anchorTime : ℚ
  deriving DecidableEq

namespace SoftwareDecayEstimator

def new (now : ℚ) : SoftwareDecayEstimator := { fullnessAtAnchor := 0, anchorTime := now }

/-- The points that have played since the anchor, as a whole number. -/
def consumed (now : ℚ) (pps : Nat) (est : SoftwareDecayEstimator) : Nat :=
  min ⌊max (now - est.anchorTime) 0 * pps⌋₊ u64Max

def recordSend (now : ℚ) (n pps : Nat) (est : SoftwareDecayEstimator) : SoftwareDecayEstimator :=
  if pps = 0 then { est with fullnessAtAnchor := min (est.fullnessAtAnchor + n) u64Max }
  else
    let consumedInt := est.consumed now pps
    { fullnessAtAnchor := min (est.fullnessAtAnchor - consumedInt + n) u64Max
      anchorTime := est.anchorTime + (consumedInt : ℚ) / pps }

/-- What is left of the fullness at this time. -/
def readAt (now : ℚ) (pps : Nat) (est : SoftwareDecayEstimator) : Nat :=
  est.fullnessAtAnchor - est.consumed now pps

end SoftwareDecayEstimator

/-- A call of `record_send`. -/
structure Send where
  time : ℚ
  points : Nat

namespace SoftwareDecayEstimator

section

variable (pps : Nat)

/-- The estimator after these sends. -/
def recordSends (sends : List Send) (est : SoftwareDecayEstimator) : SoftwareDecayEstimator :=
  sends.foldl (fun est send => est.recordSend send.time send.points pps) est

/-- The queue that the estimate is about. -/
def idealSends (sends : List Send) (queue : Queue ℚ) : Queue ℚ :=
  sends.foldl (fun queue send => (queue.drainTo (pps : ℚ) send.time).gain send.points) queue

/-- The points that have played between the anchor and a time. -/
def played (now : ℚ) (est : SoftwareDecayEstimator) : ℚ := (now - est.anchorTime) * pps

/-- The fullness, and the points that have played since the anchor, fit into 64 bits at every send. -/
def Fits : List Send → SoftwareDecayEstimator → Prop
  | [], _ => True
  | send :: sends, est =>
    est.played pps send.time < 2 ^ 64 ∧ est.readAt send.time pps + send.points ≤ u64Max ∧
      Fits sends (est.recordSend send.time send.points pps)

/-- How the estimator stands to the ideal queue at the time of the queue's level. -/
structure Carries (est : SoftwareDecayEstimator) (queue : Queue ℚ) : Prop where
  bounded : est.fullnessAtAnchor ≤ u64Max
  anchored : est.anchorTime ≤ queue.time
  near : Carried est.fullnessAtAnchor (est.played pps queue.time) queue.level

end

section

variable {pps : Nat} {est : SoftwareDecayEstimator} {queue : Queue ℚ} {now : ℚ}

theorem new_carries (now : ℚ) : Carries pps (new now) { level := 0, time := now } := by
  constructor <;> simp [new, Carried, played]

theorem played_nonneg (later : est.anchorTime ≤ now) : 0 ≤ est.played pps now :=
  mul_nonneg (sub_nonneg.mpr later) (Nat.cast_nonneg pps)

theorem consumed_eq (later : est.anchorTime ≤ now) : est.consumed now pps = min ⌊est.played pps now⌋₊ u64Max := by
  unfold consumed played
  rw [max_eq_left (sub_nonneg.mpr later)]

theorem readAt_eq (later : est.anchorTime ≤ now) (bounded : est.fullnessAtAnchor ≤ u64Max) :
    est.readAt now pps = est.fullnessAtAnchor - ⌊est.played pps now⌋₊ := by
  unfold readAt
  rw [consumed_eq later]
  omega

section

variable (carries : Carries pps est queue)

include carries

theorem Carries.drained (later : queue.time ≤ now) :
    Carried (est.fullnessAtAnchor - ⌊est.played pps now⌋₊) (est.played pps now - ⌊est.played pps now⌋₊)
      (queue.drainTo (pps : ℚ) now).level := by
  obtain ⟨above, below⟩ := carries.near
  refine carried (played_nonneg (carries.anchored.trans later)) ?_
  unfold played at above below ⊢
  constructor <;> linarith

theorem Carries.within_one (later : queue.time ≤ now) :
    |(est.readAt now pps : ℚ) - (queue.drainTo (pps : ℚ) now).level| < 1 := by
  have since : est.anchorTime ≤ now := carries.anchored.trans later
  rw [readAt_eq since carries.bounded]
  refine (carries.drained later).near ?_ ?_
  · exact sub_nonneg.mpr (Nat.floor_le (played_nonneg since))
  · linarith [Nat.lt_floor_add_one (est.played pps now)]

theorem Carries.recordSend (positive : 0 < pps) (later : queue.time ≤ now) {n : Nat}
    (played : est.played pps now < 2 ^ 64) (held : est.readAt now pps + n ≤ u64Max) :
    Carries pps (est.recordSend now n pps) ((queue.drainTo (pps : ℚ) now).gain n) := by
  have since : est.anchorTime ≤ now := carries.anchored.trans later
  have rate : (0 : ℚ) < pps := by exact_mod_cast positive
  have units : ⌊est.played pps now⌋₊ < 2 ^ 64 := by
    rw [Nat.floor_lt (played_nonneg since)]
    exact_mod_cast played
  have taken : est.consumed now pps = ⌊est.played pps now⌋₊ := by
    rw [consumed_eq since]
    simp only [u64Max]
    omega
  have whole : (⌊est.played pps now⌋₊ : ℚ) ≤ est.played pps now := Nat.floor_le (played_nonneg since)
  obtain ⟨above, below⟩ := carries.drained later
  rw [readAt_eq since carries.bounded] at held
  unfold SoftwareDecayEstimator.recordSend
  rw [if_neg positive.ne', taken]
  dsimp only
  rw [min_eq_left held]
  -- The anchor moves by the whole points only; the fraction is what it stays behind.
  have behind : (now - (est.anchorTime + (⌊est.played pps now⌋₊ : ℚ) / pps)) * pps =
      est.played pps now - ⌊est.played pps now⌋₊ := by
    unfold SoftwareDecayEstimator.played
    field_simp
    ring
  refine ⟨held, ?_, ?_⟩
  · show est.anchorTime + (⌊est.played pps now⌋₊ : ℚ) / pps ≤ now
    have moved : (⌊est.played pps now⌋₊ : ℚ) / pps ≤ now - est.anchorTime := by
      rw [div_le_iff₀ rate]
      exact whole
    linarith
  · show Carried _ ((now - (est.anchorTime + (⌊est.played pps now⌋₊ : ℚ) / pps)) * pps)
      ((queue.drainTo (pps : ℚ) now).level + n)
    rw [behind, Carried]
    rw [Nat.cast_add]
    constructor <;> linarith

theorem Carries.recordSends (positive : 0 < pps) {sends : List Send}
    (ordered : List.IsChain (· ≤ ·) (queue.time :: (sends.map Send.time ++ [now]))) (fits : Fits pps sends est) :
    |((est.recordSends pps sends).readAt now pps : ℚ) - ((idealSends pps sends queue).drainTo (pps : ℚ) now).level| < 1 := by
  induction sends generalizing est queue with
  | nil => exact carries.within_one (List.isChain_pair.mp ordered)
  | cons send sends ih =>
    obtain ⟨later, rest⟩ := List.isChain_cons_cons.mp ordered
    obtain ⟨played, held, fits⟩ := fits
    exact ih (carries.recordSend positive later played held) rest fits

end

end

/-- However many sends there were: a reading is less than a point away from the queue that gains their points and
drains continuously, as long as the points fit into 64 bits. -/
theorem estimate_within_one (pps : Nat) (positive : 0 < pps) (created now : ℚ) (sends : List Send)
    (ordered : List.IsChain (· ≤ ·) (created :: (sends.map Send.time ++ [now])))
    (fits : Fits pps sends (new created)) :
    |(((new created).recordSends pps sends).readAt now pps : ℚ) -
      ((idealSends pps sends { level := 0, time := created }).drainTo (pps : ℚ) now).level| < 1 :=
  (new_carries created).recordSends positive ordered fits

/-- Three points, and two more half a point's time later, read a point's time after that. -/
theorem estimate_within_one_fraction :
    |(((new 0).recordSends 1 [⟨0, 3⟩, ⟨1 / 2, 2⟩]).readAt (3 / 2) 1 : ℚ) -
      ((idealSends 1 [⟨0, 3⟩, ⟨1 / 2, 2⟩] { level := 0, time := 0 }).drainTo ((1 : Nat) : ℚ) (3 / 2)).level| < 1 :=
  estimate_within_one 1 (by decide) 0 (3 / 2) [⟨0, 3⟩, ⟨1 / 2, 2⟩] (by decide +kernel)
    ⟨by decide +kernel, by decide +kernel, by decide +kernel, by decide +kernel, trivial⟩

/-- The addition saturates: of two sends of half the range each, a point is lost. -/
theorem estimate_saturates :
    List.IsChain (· ≤ ·) ((0 : ℚ) :: ([(⟨0, 2 ^ 63⟩ : Send), ⟨0, 2 ^ 63⟩].map Send.time ++ [0])) ∧
      ¬ |(((new 0).recordSends 1 [⟨0, 2 ^ 63⟩, ⟨0, 2 ^ 63⟩]).readAt 0 1 : ℚ) -
        ((idealSends 1 [⟨0, 2 ^ 63⟩, ⟨0, 2 ^ 63⟩] { level := 0, time := 0 }).drainTo ((1 : Nat) : ℚ) 0).level| < 1 := by
  decide +kernel

end SoftwareDecayEstimator

end LaserDac
