import LaserDac.FluidQueue
import LaserDac.LaserCubeMoves

/-!
The LaserCube worker's estimate between reports, against a device that gains each packet when it is sent and drains at
the rate it was last told. The estimate charges pending time at the rate in force when it is charged.
-/

namespace LaserDac.LaserCube

open FluidQueue

/-- What the estimate depends on. -/
structure Account where
  freeEstimate : Nat
  bufferTotal : Nat
  remoteBufferCutoff : Nat
  pointRate : Nat
  pointRateMax : Nat
  lastEstimate : ℚ
  /-- The rate the device was last told. -/
  currentRate : Nat

/-- What the worker does to it between reports. -/
inductive Deed
  /-- The rate of a chunk is sent to the device, which works or not. -/
  | setRate (pointRate : Nat) (ok : Bool)
  | decay
  /-- A packet is sent if it fits. -/
  | send (packet : Nat)

namespace Account

def buffered (account : Account) : Nat := account.bufferTotal - account.freeEstimate

def setRate (pointRate : Nat) (ok : Bool) (account : Account) : Account :=
  let pointRate := clampPointRate account.pointRateMax pointRate
  if ok then { account with currentRate := pointRate, pointRate } else account

def decayFreeEstimate (now : ℚ) (account : Account) : Account :=
  let drained := ⌊account.pointRate * (now - account.lastEstimate)⌋₊
  if drained > 0 then
    { account with freeEstimate := min (account.freeEstimate + drained) account.bufferTotal, lastEstimate := now }
  else account

def recordSend (now : ℚ) (sent : Nat) (account : Account) : Account :=
  { account with freeEstimate := account.freeEstimate - sent, lastEstimate := now }

def Fits (packet : Nat) (account : Account) : Prop :=
  account.buffered + packet ≤ min account.remoteBufferCutoff account.bufferTotal

instance (packet : Nat) (account : Account) : Decidable (account.Fits packet) :=
  inferInstanceAs (Decidable (_ ≤ _))

def sent (deed : Deed) (account : Account) : Nat :=
  match deed with
  | .send packet => if account.Fits packet then packet else 0
  | _ => 0

def act (now : ℚ) (deed : Deed) (account : Account) : Account :=
  match deed with
  | .setRate pointRate ok => account.setRate pointRate ok
  | .decay => account.decayFreeEstimate now
  | .send packet => if account.Fits packet then account.recordSend now packet else account

/-- A rate above the one that time is charged at is set only when no time is pending. -/
def Settled (now : ℚ) (deed : Deed) (account : Account) : Prop :=
  match deed with
  | .setRate pointRate _ =>
    clampPointRate account.pointRateMax pointRate ≤ account.pointRate ∨ account.lastEstimate = now
  | _ => True

end Account

def Transport.account (t : Transport) : Account where
  freeEstimate := t.state.freeEstimate
  bufferTotal := t.state.bufferTotal
  remoteBufferCutoff := t.state.profile.remoteBufferCutoff
  pointRate := t.state.pointRate
  pointRateMax := t.state.pointRateMax
  lastEstimate := t.state.lastEstimate / 1000000000
  currentRate := t.worker.currentRate

/-- Whole points of whole nanoseconds. -/
theorem floor_elapsed (rate now last : Nat) :
    ⌊(rate : ℚ) * ((now : ℚ) / 1000000000 - (last : ℚ) / 1000000000)⌋₊ = (now - last) * rate / 1000000000 := by
  rcases Nat.le_total last now with later | earlier
  · have exact : (rate : ℚ) * ((now : ℚ) / 1000000000 - (last : ℚ) / 1000000000) =
        (((now - last) * rate : Nat) : ℚ) / (1000000000 : Nat) := by
      push_cast [Nat.cast_sub later]
      ring
    rw [exact, Nat.floor_div_eq_div]
  · have none : (now : ℚ) / 1000000000 - (last : ℚ) / 1000000000 ≤ 0 := by
      have : (now : ℚ) ≤ last := by exact_mod_cast earlier
      linarith
    rw [Nat.sub_eq_zero_of_le earlier, Nat.zero_mul, Nat.zero_div]
    exact Nat.floor_of_nonpos (mul_nonpos_of_nonneg_of_nonpos (Nat.cast_nonneg rate) none)

theorem account_decay (now : Nat) (t : Transport) :
    (t.mapState (TransportState.decayFreeEstimate now)).account =
      t.account.decayFreeEstimate ((now : ℚ) / 1000000000) := by
  have same := floor_elapsed t.state.pointRate now t.state.lastEstimate
  unfold Account.decayFreeEstimate
  simp only [Transport.account, Transport.mapState, TransportState.decayFreeEstimate, same]
  split <;> rfl

theorem SameBooks.account {t t' : Transport} (same : SameBooks t t') : t'.account = t.account := by
  unfold Transport.account
  rw [same.state, same.currentRate]

theorem account_setRate (env : Env) (pointRate : Nat) (t : Transport) :
    (t.setRate env pointRate).account = t.account.setRate pointRate (env.sendCommand t.tick) := by
  unfold Transport.setRate Account.setRate
  dsimp only
  rw [sendRepeated_eq]
  split
  · rfl
  · rfl

theorem account_packetSent (now : Nat) (packet rest : List Sample) (t : Transport) :
    (t.packetSent now packet rest).2.account = t.account.recordSend ((now : ℚ) / 1000000000) packet.length :=
  rfl

/-- What a move of a round with this reading is for the account: nothing, a deed at that time, or a report that has
just been received. -/
inductive Accounted (env : Env) (now : Nat) (t t' : Transport) : Prop
  | kept (same : t'.account = t.account)
  | deed (deed : Deed) (done : t'.account = t.account.act ((now : ℚ) / 1000000000) deed)
  | message (message : Message) (received : env.receiveCommand t.tick = some message)
    (applied : t' = t.applyMessage env now message)
  | data (sequence : UInt8) (freeSpace : UInt16)
    (received : env.receiveData t.tick = some (some (sequence, freeSpace)))
    (applied : t' = t.applyDataAck now sequence freeSpace)

theorem Move.accounted {env : Env} {now : Nat} {t t' : Transport} (move : Move env now t t') :
    Accounted env now t t' := by
  cases move with
  | idle same => exact .kept same.account
  | rate pointRate => exact .deed (.setRate pointRate (env.sendCommand t.tick)) (account_setRate env pointRate t)
  | decay => exact .deed .decay (account_decay now t)
  | sent packet rest room =>
    refine .deed (.send packet.length) ?_
    have fits : t.account.Fits packet.length := room
    rw [account_packetSent]
    exact (if_pos fits).symm
  | message message received => exact .message message received rfl
  | data sequence freeSpace received => exact .data sequence freeSpace received rfl

/-- The account and the device it is about. -/
structure Pair where
  account : Account
  device : Queue ℚ

variable {device : Queue ℚ} {account : Account} {pair : Pair}

namespace Pair

/-- The device drains at the rate it was last told. -/
def drain (now : ℚ) (pair : Pair) : Pair :=
  { pair with device := pair.device.drainTo pair.account.currentRate now }

def act (now : ℚ) (deed : Deed) (pair : Pair) : Pair where
  account := pair.account.act now deed
  device := pair.device.gain (pair.account.sent deed)

/-- The deeds at their times, with the device draining in between. -/
def play : List (ℚ × Deed) → Pair → Pair
  | [], pair => pair
  | (now, deed) :: deeds, pair => play deeds ((pair.drain now).act now deed)

/-- The estimate is at most what is free. -/
def Cautious (pair : Pair) : Prop :=
  (pair.account.freeEstimate : ℚ) ≤ pair.account.bufferTotal - pair.device.level

instance (pair : Pair) : Decidable pair.Cautious := inferInstanceAs (Decidable (_ ≤ _))

/-- No deed raises the rate while time is pending. -/
def Steady : List (ℚ × Deed) → Pair → Prop
  | [], _ => True
  | (now, deed) :: deeds, pair =>
    pair.account.Settled now deed ∧ Steady deeds ((pair.drain now).act now deed)

/-- The level is covered by the estimate even once the time that is pending is charged. -/
structure Covered (pair : Pair) : Prop where
  within : pair.account.freeEstimate ≤ pair.account.bufferTotal
  rate : pair.account.pointRate ≤ pair.account.currentRate
  nonneg : 0 ≤ pair.device.level
  past : pair.account.lastEstimate ≤ pair.device.time
  level : pair.device.level ≤
    drained (pair.account.pointRate * (pair.device.time - pair.account.lastEstimate))
      (pair.account.bufferTotal - pair.account.freeEstimate)

theorem Covered.drain (covered : pair.Covered) {now : ℚ} (later : pair.device.time ≤ now) :
    (pair.drain now).Covered := by
  obtain ⟨within, rate, nonneg, past, level⟩ := covered
  refine ⟨within, rate, drained_nonneg _ _, past.trans later, ?_⟩
  have slower : (pair.account.pointRate : ℚ) ≤ pair.account.currentRate := by exact_mod_cast rate
  have elapsed : 0 ≤ now - pair.device.time := by linarith
  have charged : 0 ≤ (pair.account.pointRate : ℚ) * (now - pair.device.time) :=
    mul_nonneg (Nat.cast_nonneg _) elapsed
  show drained (pair.account.currentRate * (now - pair.device.time)) pair.device.level ≤
    drained (pair.account.pointRate * (now - pair.account.lastEstimate)) _
  calc drained (pair.account.currentRate * (now - pair.device.time)) pair.device.level
      ≤ drained (pair.account.pointRate * (now - pair.device.time))
          (drained (pair.account.pointRate * (pair.device.time - pair.account.lastEstimate))
            (pair.account.bufferTotal - pair.account.freeEstimate)) :=
        drained_mono (mul_le_mul_of_nonneg_right slower elapsed) level
    _ = drained (pair.account.pointRate * (now - pair.account.lastEstimate))
          (pair.account.bufferTotal - pair.account.freeEstimate) := by
        rw [drained_drained charged]
        congr 1
        ring

theorem Covered.current (within : account.freeEstimate ≤ account.bufferTotal)
    (rate : account.pointRate ≤ account.currentRate) (nonneg : 0 ≤ device.level)
    (current : account.lastEstimate = device.time)
    (cautious : (account.freeEstimate : ℚ) ≤ account.bufferTotal - device.level) : Covered ⟨account, device⟩ := by
  refine ⟨within, rate, nonneg, current.le, ?_⟩
  show device.level ≤ drained (account.pointRate * (device.time - account.lastEstimate)) _
  have room : (0 : ℚ) ≤ account.bufferTotal - account.freeEstimate := by linarith
  rw [current, sub_self, mul_zero, drained_zero room]
  linarith

theorem Covered.cautious (covered : pair.Covered) : pair.Cautious := by
  obtain ⟨within, rate, nonneg, past, level⟩ := covered
  have held : (pair.account.freeEstimate : ℚ) ≤ pair.account.bufferTotal := by exact_mod_cast within
  have pending : 0 ≤ (pair.account.pointRate : ℚ) * (pair.device.time - pair.account.lastEstimate) :=
    mul_nonneg (Nat.cast_nonneg _) (by linarith)
  have most := level.trans (drained_le pending (by linarith))
  unfold Cautious
  linarith

section

variable (covered : Covered ⟨account, device⟩)

include covered

theorem Covered.setRate {pointRate : Nat} {ok : Bool} (settled : account.Settled device.time (.setRate pointRate ok)) :
    Covered ⟨account.setRate pointRate ok, device⟩ := by
  cases ok with
  | false => exact covered
  | true =>
    obtain ⟨within, rate, nonneg, past, level⟩ := covered
    refine ⟨within, le_rfl, nonneg, past, level.trans ?_⟩
    apply drained_mono _ le_rfl
    show (clampPointRate account.pointRateMax pointRate : ℚ) * (device.time - account.lastEstimate) ≤
      account.pointRate * (device.time - account.lastEstimate)
    rcases settled with lower | current
    · have slower : (clampPointRate account.pointRateMax pointRate : ℚ) ≤ account.pointRate := by exact_mod_cast lower
      exact mul_le_mul_of_nonneg_right slower (sub_nonneg.mpr past)
    · rw [current, sub_self, mul_zero, mul_zero]

theorem Covered.decay : Covered ⟨account.decayFreeEstimate device.time, device⟩ := by
  unfold Account.decayFreeEstimate
  dsimp only
  split
  · obtain ⟨within, rate, nonneg, past, level⟩ := covered
    refine .current (Nat.min_le_right _ _) rate nonneg rfl ?_
    dsimp only at within past level nonneg ⊢
    have whole := Nat.floor_le (mul_nonneg (Nat.cast_nonneg account.pointRate) (sub_nonneg.mpr past))
    have held : (account.freeEstimate : ℚ) ≤ account.bufferTotal := by exact_mod_cast within
    -- either points are left, and then more are charged off the level than off the estimate, or the device is dry
    push_cast
    unfold drained at level
    rcases max_choice 0 ((account.bufferTotal : ℚ) - account.freeEstimate -
      account.pointRate * (device.time - account.lastEstimate)) with dry | wet
    · rw [dry] at level
      exact (min_le_right _ _).trans (by linarith)
    · rw [wet] at level
      exact (min_le_left _ _).trans (by linarith)
  · exact covered

theorem Covered.send {packet : Nat} (fits : account.Fits packet) :
    Covered ⟨account.recordSend device.time packet, device.gain packet⟩ := by
  have cautious := covered.cautious
  obtain ⟨within, rate, nonneg, past, level⟩ := covered
  have room : packet ≤ account.freeEstimate := by
    unfold Account.Fits Account.buffered at fits
    dsimp only at within
    omega
  refine .current ((Nat.sub_le _ _).trans within) rate (add_nonneg nonneg (Nat.cast_nonneg packet)) rfl ?_
  show ((account.freeEstimate - packet : Nat) : ℚ) ≤ account.bufferTotal - (device.level + packet)
  rw [Nat.cast_sub room]
  unfold Cautious at cautious
  dsimp only at cautious
  linarith

end

theorem Covered.act (covered : pair.Covered) {deed : Deed} (settled : pair.account.Settled pair.device.time deed) :
    (pair.act pair.device.time deed).Covered := by
  obtain ⟨account, device⟩ := pair
  have unchanged : device.gain ((0 : Nat) : ℚ) = device := by simp [Queue.gain]
  unfold Pair.act
  cases deed with
  | setRate =>
    simp only [Account.act, Account.sent, unchanged]
    exact covered.setRate settled
  | decay =>
    simp only [Account.act, Account.sent, unchanged]
    exact covered.decay
  | send packet =>
    simp only [Account.act, Account.sent]
    split
    · exact covered.send ‹_›
    · simpa only [unchanged] using covered

theorem Covered.play {deeds : List (ℚ × Deed)} (covered : pair.Covered)
    (ordered : (pair.device.time :: deeds.map Prod.fst).IsChain (· ≤ ·)) (steady : Steady deeds pair) :
    (pair.play deeds).Covered := by
  induction deeds generalizing pair with
  | nil => exact covered
  | cons first deeds ih =>
    obtain ⟨now, deed⟩ := first
    rw [List.map_cons, List.isChain_cons_cons] at ordered
    exact ih ((covered.drain ordered.1).act steady.1) ordered.2 steady.2

end Pair

/-- Unless time is pending when the rate is raised, the estimate stays at most the true free space, at the end of a
run and for as long after it as nothing is done. -/
theorem estimate_not_optimistic (deeds : List (ℚ × Deed)) (pair : Pair) (nonneg : 0 ≤ pair.device.level)
    (current : pair.account.lastEstimate = pair.device.time) (rate : pair.account.pointRate ≤ pair.account.currentRate)
    (ordered : (pair.device.time :: deeds.map Prod.fst).IsChain (· ≤ ·)) (steady : Pair.Steady deeds pair)
    (cautious : pair.Cautious) (now : ℚ) (later : (pair.play deeds).device.time ≤ now) :
    ((pair.play deeds).drain now).Cautious := by
  have within : pair.account.freeEstimate ≤ pair.account.bufferTotal := by
    have room : (pair.account.freeEstimate : ℚ) ≤ pair.account.bufferTotal := by
      unfold Pair.Cautious at cautious
      linarith
    exact_mod_cast room
  have covered : pair.Covered := Pair.Covered.current within rate nonneg current cautious
  exact ((covered.play ordered steady).drain later).cautious

/-- A device of 6000 points at 1000 points a second, of which so many are free, as a report has just said. -/
def Pair.reported (free : Nat) : Pair where
  account := {
    freeEstimate := free
    bufferTotal := 6000
    remoteBufferCutoff := 5900
    pointRate := 1000
    pointRateMax := 30000
    lastEstimate := 0
    currentRate := 1000 }
  device := { level := 6000 - free, time := 0 }

/-- A packet, and a rate raised when the time since has just been charged. -/
theorem estimate_not_optimistic_packet :
    (((Pair.reported 3000).play
      [(0, .send 140), (1 / 20, .decay), (1 / 20, .setRate 30000 true), (1 / 10, .decay)]).drain 1).Cautious := by
  apply estimate_not_optimistic
  · decide +kernel
  · rfl
  · exact le_rfl
  · decide +kernel
  · refine ⟨trivial, trivial, .inr ?_, trivial, trivial⟩
    decide +kernel
  · decide +kernel
  · decide +kernel

/-- A full device plays for a second at 1000 points a second; then a chunk of 30000 points a second comes, and the
second is charged at that rate: the estimate is that the device is empty, and only a sixth of it is. -/
theorem raised_rate_optimistic :
    (Pair.reported 0).Cautious ∧
      ((Pair.reported 0).play [(1, .setRate 30000 true), (1, .decay)]).account.freeEstimate = 6000 ∧
      ((Pair.reported 0).play [(1, .setRate 30000 true), (1, .decay)]).device.level = 5000 ∧
      ¬ ((Pair.reported 0).play [(1, .setRate 30000 true), (1, .decay)]).Cautious := by
  decide +kernel

end LaserDac.LaserCube
