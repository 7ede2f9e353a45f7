import LaserDac.EtherDreamModel

/-!
The clock of the simulated Ether Dream with the casts that the code makes to 64 bits. As long as nothing has more bits
than that, the clock is the one without casts, and it does not matter in how many stretches time passes.
-/

namespace LaserDac.EtherDream.EtherDreamModel

/-! ### Stretches of time -/

/-- Playing reads neither the time that was reached nor the light engine, and leaves both alone. -/
def withClock (now : Nat) (warmupUntil : Option Nat) (lightEngine : LightEngine) (m : EtherDreamModel) :
    EtherDreamModel :=
  { m with now, warmupUntil, lightEngine }

/-- The rest of the warmup and the light engine at some time. -/
def warming (now : Nat) (warmupUntil : Option Nat) (lightEngine : LightEngine) : Option Nat × LightEngine :=
  match warmupUntil with
  | some stop => if stop ≤ now then (none, .ready) else (some stop, lightEngine)
  | none => (none, lightEngine)

theorem warmed_eq (now : Nat) (m : EtherDreamModel) :
    { m with now }.warmed now =
      m.withClock now (warming now m.warmupUntil m.lightEngine).1 (warming now m.warmupUntil m.lightEngine).2 := by
  unfold warmed warming withClock
  cases m.warmupUntil with
  | none => rfl
  | some stop =>
    by_cases done : stop ≤ now
    · simp [done]
    · simp [done]

variable {early late : Nat}

theorem warming_split (order : early ≤ late) (warmupUntil : Option Nat) (lightEngine : LightEngine) :
    warming late (warming early warmupUntil lightEngine).1 (warming early warmupUntil lightEngine).2 =
      warming late warmupUntil lightEngine := by
  cases warmupUntil with
  | none => rfl
  | some stop =>
    by_cases done : stop ≤ early
    · simp [warming, done, done.trans order]
    · simp [warming, done]

def countPoint (point : DacPoint) (m : EtherDreamModel) : EtherDreamModel :=
  { m with
    segPlayed := m.segPlayed + 1, playedTotal := m.playedTotal + 1, pointCount := m.pointCount + 1
    output := if m.recordOutput then m.output ++ [point] else m.output }

/-- A point with the control bit takes the next queued rate into force, from this time on. -/
def takeRate (point : DacPoint) (time : Nat) (m : EtherDreamModel) : EtherDreamModel :=
  if point.control &&& 0x8000 ≠ 0 then
    match m.rateQueue with
    | rate :: rest => { m with rateQueue := rest }.startSegment time rate
    | [] => m
  else m

theorem playPoint_takeRate (point : DacPoint) (m : EtherDreamModel) :
    m.playPoint point = (m.countPoint point).takeRate point (m.pointTime (m.segPlayed + 1)) := rfl

variable {m : EtherDreamModel}

theorem takeRate_stays {point : DacPoint} (stays : point.control &&& 0x8000 = 0 ∨ m.rateQueue = []) (time : Nat) :
    m.takeRate point time = m := by
  unfold takeRate
  split
  · next changes =>
    split
    · next rate rest queue =>
      rw [stays.resolve_left changes] at queue
      cases queue
    · rfl
  · rfl

theorem takeRate_changes {point : DacPoint} (changes : point.control &&& 0x8000 ≠ 0) {rate : UInt32}
    {rest : List UInt32} (queue : m.rateQueue = rate :: rest) (time : Nat) :
    m.takeRate point time = { m with rateQueue := rest }.startSegment time rate := by
  unfold takeRate
  rw [if_pos changes]
  split
  · next rate rest same =>
    obtain ⟨rfl, rfl⟩ := List.cons.inj (same.symm.trans queue)
    rfl
  · next empty =>
    rw [queue] at empty
    cases empty

theorem takeRate_rates (point : DacPoint) (time : Nat) (m : EtherDreamModel) :
    ∀ rate ∈ (m.takeRate point time).segRate :: (m.takeRate point time).rateQueue, rate ∈ m.segRate :: m.rateQueue := by
  by_cases stays : point.control &&& 0x8000 = 0 ∨ m.rateQueue = []
  · rw [takeRate_stays stays]
    exact fun rate => id
  · rw [not_or] at stays
    obtain ⟨rate, rest, queue⟩ := List.exists_cons_of_ne_nil stays.2
    rw [takeRate_changes stays.1 queue, queue]
    exact fun other => List.mem_cons_of_mem _

theorem takeRate_playback (point : DacPoint) (time : Nat) (m : EtherDreamModel) :
    (m.takeRate point time).playback = m.playback := by
  unfold takeRate
  split
  · split
    all_goals rfl
  · rfl

def besides (now : Nat) (warmupUntil : Option Nat) (lightEngine : LightEngine) (ring : List DacPoint)
    (m : EtherDreamModel) : EtherDreamModel :=
  { m.withClock now warmupUntil lightEngine with ring }

section

variable (time now : Nat) (warmupUntil : Option Nat) (lightEngine : LightEngine) (stale : List DacPoint)

theorem takeRate_besides (point : DacPoint) (start : Nat) (m : EtherDreamModel) :
    (m.besides now warmupUntil lightEngine stale).takeRate point start =
      (m.takeRate point start).besides now warmupUntil lightEngine stale := by
  by_cases stays : point.control &&& 0x8000 = 0 ∨ m.rateQueue = []
  · rw [takeRate_stays stays]
    exact takeRate_stays (m := m.besides now warmupUntil lightEngine stale) stays start
  · rw [not_or] at stays
    obtain ⟨rate, rest, queue⟩ := List.exists_cons_of_ne_nil stays.2
    rw [takeRate_changes stays.1 queue]
    exact takeRate_changes (m := m.besides now warmupUntil lightEngine stale) stays.1 queue start

theorem playPoint_besides (point : DacPoint) (m : EtherDreamModel) :
    (m.besides now warmupUntil lightEngine stale).playPoint point =
      (m.playPoint point).besides now warmupUntil lightEngine stale :=
  takeRate_besides now warmupUntil lightEngine stale point (m.pointTime (m.segPlayed + 1)) (m.countPoint point)

theorem play_besides (ring : List DacPoint) (m : EtherDreamModel) :
    (m.besides now warmupUntil lightEngine stale).play time ring =
      (m.play time ring).withClock now warmupUntil lightEngine := by
  have same : (m.besides now warmupUntil lightEngine stale).due time = m.due time := rfl
  induction ring generalizing m with
  | nil =>
    unfold play
    rw [same]
    change (if m.due time ≤ m.segPlayed then _ else _) = _
    split
    all_goals rfl
  | cons point ring ih =>
    unfold play
    rw [same, playPoint_besides, ih _ rfl]
    change (if m.due time ≤ m.segPlayed then _ else _) = _
    split
    all_goals rfl

theorem play_withClock (ring : List DacPoint) (m : EtherDreamModel) :
    (m.withClock now warmupUntil lightEngine).play time ring =
      (m.play time ring).withClock now warmupUntil lightEngine :=
  play_besides time now warmupUntil lightEngine m.ring ring m

end

theorem play_ring (time : Nat) (ring stale : List DacPoint) (m : EtherDreamModel) :
    { m with ring := stale }.play time ring = m.play time ring :=
  (play_besides time m.now m.warmupUntil m.lightEngine stale ring m).trans
    (play_besides time m.now m.warmupUntil m.lightEngine m.ring ring m).symm

theorem play_split (order : early ≤ late) (ring : List DacPoint) (m : EtherDreamModel) (playing : m.playback = .playing)
    :
    (m.play early ring).playback = .playing ∧
        (m.play early ring).play late (m.play early ring).ring = m.play late ring ∨
      (m.play early ring).playback = .idle ∧ m.play early ring = m.play late ring := by
  induction ring generalizing m with
  | nil =>
    by_cases done : m.due early ≤ m.segPlayed
    · rw [play_of_le [] done]
      exact .inl ⟨playing, play_ring late [] [] m⟩
    · have later : ¬ m.due late ≤ m.segPlayed := fun few => done ((m.due_mono order).trans few)
      have dry : m.play early [] = { m with ring := [] }.underflow := if_neg done
      have dryLate : m.play late [] = { m with ring := [] }.underflow := if_neg later
      rw [dry, dryLate]
      exact .inr ⟨rfl, rfl⟩
  | cons point ring ih =>
    by_cases done : m.due early ≤ m.segPlayed
    · rw [play_of_le _ done]
      exact .inl ⟨playing, play_ring late _ _ m⟩
    · have later : ¬ m.due late ≤ m.segPlayed := fun few => done ((m.due_mono order).trans few)
      have goes : m.play early (point :: ring) = (m.playPoint point).play early ring := if_neg done
      have goesLate : m.play late (point :: ring) = (m.playPoint point).play late ring := if_neg later
      rw [goes, goesLate]
      refine ih _ ?_
      rw [playPoint_takeRate, takeRate_playback]
      exact playing

variable {time}

theorem advanceTo_ahead (ahead : m.now < time) :
    m.advanceTo time = (if m.playback = .playing then m.play time m.ring else m).withClock time
      (warming time m.warmupUntil m.lightEngine).1 (warming time m.warmupUntil m.lightEngine).2 := by
  unfold advanceTo
  rw [if_neg (Nat.not_le.mpr ahead)]
  dsimp only
  rw [warmed_eq]
  by_cases playing : m.playback = .playing
  · rw [if_pos playing]
    exact (if_pos playing).trans (play_withClock time _ _ _ m.ring m)
  · rw [if_neg playing]
    exact if_neg playing

theorem advanceTo_withClock {now : Nat} (ahead : now < time) (warmupUntil : Option Nat) (lightEngine : LightEngine)
    (m : EtherDreamModel) :
    (m.withClock now warmupUntil lightEngine).advanceTo time =
      (if m.playback = .playing then m.play time m.ring else m).withClock time
        (warming time warmupUntil lightEngine).1 (warming time warmupUntil lightEngine).2 := by
  rw [advanceTo_ahead (show (m.withClock now warmupUntil lightEngine).now < time from ahead), play_withClock]
  by_cases playing : m.playback = .playing
  · rw [if_pos playing, if_pos (show (m.withClock now warmupUntil lightEngine).playback = _ from playing)]
    rfl
  · rw [if_neg playing, if_neg (show ¬ (m.withClock now warmupUntil lightEngine).playback = _ from playing)]
    rfl

theorem advanceTo_split (order : early ≤ late) (m : EtherDreamModel) :
    (m.advanceTo early).advanceTo late = m.advanceTo late := by
  rcases Nat.lt_or_ge m.now early with ahead | past
  · rcases Nat.lt_or_eq_of_le order with later | rfl
    · rw [advanceTo_ahead ahead, advanceTo_withClock later, advanceTo_ahead (ahead.trans later), warming_split order]
      congr 1
      by_cases playing : m.playback = .playing
      · rw [if_pos playing, if_pos playing]
        rcases play_split order m.ring m playing with ⟨goes, same⟩ | ⟨dry, same⟩
        · rw [if_pos goes, same]
        · rw [if_neg (by simp [dry]), same]
      · rw [if_neg playing, if_neg playing]
    · refine advanceTo_of_le ?_
      rw [advanceTo_ahead ahead]
      exact le_rfl
  · rw [advanceTo_of_le past]

/-- `as u64` -/
def asU64 (n : Nat) : Nat := n % 2 ^ 64

def dueU64 (now : Nat) (m : EtherDreamModel) : Nat := asU64 ((now - m.segStart) * m.segRate.toNat / nanosPerSec)

def pointTimeU64 (k : Nat) (m : EtherDreamModel) : Nat :=
  let rate := max m.segRate.toNat 1
  m.segStart + asU64 ((k * nanosPerSec + rate - 1) / rate)

def playPointU64 (point : DacPoint) (m : EtherDreamModel) : EtherDreamModel :=
  let m := m.countPoint point
  m.takeRate point (m.pointTimeU64 m.segPlayed)

def playU64 (now : Nat) (m : EtherDreamModel) : List DacPoint → EtherDreamModel
  | [] => if m.dueU64 now ≤ m.segPlayed then { m with ring := [] } else { m with ring := [] }.underflow
  | point :: ring =>
    if m.dueU64 now ≤ m.segPlayed then { m with ring := point :: ring } else playU64 now (m.playPointU64 point) ring

/-- `advance_to` -/
def advanceToU64 (now : Nat) (m : EtherDreamModel) : EtherDreamModel :=
  if now ≤ m.now then m
  else
    let m := { m with now }.warmed now
    if m.playback = .playing then m.playU64 now m.ring else m

/-- Up to this time, and at none of the rates that are set or queued, a cast cuts anything off. -/
def Fits64 (time : Nat) (m : EtherDreamModel) : Prop :=
  time < 2 ^ 64 ∧ ∀ rate ∈ m.segRate :: m.rateQueue, time * rate.toNat < 2 ^ 64 * nanosPerSec

-- the instance for lists is named, since a rate is one of finitely many as well
instance (time : Nat) (m : EtherDreamModel) : Decidable (m.Fits64 time) :=
  haveI := List.decidableBAll (fun rate : UInt32 => time * rate.toNat < 2 ^ 64 * nanosPerSec) (m.segRate :: m.rateQueue)
  instDecidableAnd

theorem Fits64.mono (fits : m.Fits64 late) (order : early ≤ late) : m.Fits64 early :=
  ⟨order.trans_lt fits.1, fun rate member => (Nat.mul_le_mul_right _ order).trans_lt (fits.2 rate member)⟩

theorem Fits64.of_rates {after : EtherDreamModel} (fits : m.Fits64 time)
    (rates : ∀ rate ∈ after.segRate :: after.rateQueue, rate = 0 ∨ rate ∈ m.segRate :: m.rateQueue) :
    after.Fits64 time := by
  refine ⟨fits.1, fun rate member => ?_⟩
  rcases rates rate member with rfl | known
  · rw [UInt32.toNat_zero, Nat.mul_zero]
    decide
  · exact fits.2 rate known

theorem dueU64_eq (fits : m.Fits64 time) : m.dueU64 time = m.due time := by
  have product := fits.2 m.segRate List.mem_cons_self
  have elapsed : (time - m.segStart) * m.segRate.toNat ≤ time * m.segRate.toNat :=
    Nat.mul_le_mul_right _ (Nat.sub_le _ _)
  refine Nat.mod_eq_of_lt (Nat.div_lt_of_lt_mul ?_)
  rw [Nat.mul_comm nanosPerSec]
  omega

theorem pointTimeU64_eq (fits : m.Fits64 time) {k : Nat} (positive : 0 < k) (isDue : k ≤ m.due time) :
    m.pointTimeU64 k = m.pointTime k := by
  have product : k * nanosPerSec ≤ (time - m.segStart) * m.segRate.toNat :=
    (Nat.mul_le_mul_right _ isDue).trans (Nat.div_mul_le_self _ _)
  have running : 0 < m.segRate.toNat := by
    rcases Nat.eq_zero_or_pos m.segRate.toNat with zero | running
    · rw [zero, Nat.mul_zero, nanosPerSec] at product
      omega
    · exact running
  have behind : (k * nanosPerSec + max m.segRate.toNat 1 - 1) / max m.segRate.toNat 1 ≤ time - m.segStart := by
    rw [Nat.max_eq_left running]
    refine Nat.lt_succ_iff.mp (Nat.div_lt_of_lt_mul ?_)
    rw [Nat.mul_succ, Nat.mul_comm m.segRate.toNat]
    omega
  have small := fits.1
  unfold pointTimeU64 pointTime asU64
  dsimp only
  rw [Nat.mod_eq_of_lt]
  omega

theorem playPoint_fits {bound : Nat} (fits : m.Fits64 bound) (point : DacPoint) : (m.playPoint point).Fits64 bound := by
  rw [playPoint_takeRate]
  exact fits.of_rates fun rate member => .inr (takeRate_rates point _ (m.countPoint point) rate member)

theorem playPointU64_eq (fits : m.Fits64 time) (isDue : m.segPlayed < m.due time) (point : DacPoint) :
    m.playPointU64 point = m.playPoint point := by
  have same : (m.countPoint point).pointTimeU64 (m.segPlayed + 1) = m.pointTime (m.segPlayed + 1) :=
    pointTimeU64_eq (m := m) fits (Nat.succ_pos _) isDue
  rw [playPoint_takeRate, ← same]
  rfl

theorem playU64_eq (ring : List DacPoint) (fits : m.Fits64 time) : m.playU64 time ring = m.play time ring := by
  induction ring generalizing m with
  | nil =>
    unfold playU64 play
    rw [dueU64_eq fits]
  | cons point ring ih =>
    unfold playU64 play
    rw [dueU64_eq fits]
    by_cases done : m.due time ≤ m.segPlayed
    · rw [if_pos done, if_pos done]
    · rw [if_neg done, if_neg done, playPointU64_eq fits (Nat.lt_of_not_le done), ih (playPoint_fits fits point)]

theorem advanceToU64_eq (fits : m.Fits64 time) : m.advanceToU64 time = m.advanceTo time := by
  have warmedFits : ({ m with now := time }.warmed time).Fits64 time := by
    rw [warmed_eq]
    exact fits
  unfold advanceToU64 advanceTo
  dsimp only
  rw [playU64_eq _ warmedFits]

theorem play_fits {bound : Nat} (ring : List DacPoint) (fits : m.Fits64 bound) : (m.play time ring).Fits64 bound := by
  induction ring generalizing m with
  | nil =>
    unfold play
    split
    · exact fits
    · refine fits.of_rates fun rate member => .inl ?_
      simpa [underflow] using member
  | cons point ring ih =>
    unfold play
    split
    · exact fits
    · exact ih (playPoint_fits fits point)

variable (time)

theorem advanceToU64_split (order : early ≤ late) (fits : m.Fits64 late) :
    (m.advanceToU64 early).advanceToU64 late = m.advanceToU64 late := by
  have onward : (m.advanceTo early).Fits64 late := by
    rcases Nat.lt_or_ge m.now early with ahead | past
    · rw [advanceTo_ahead ahead]
      split
      · exact play_fits m.ring fits
      · exact fits
    · rw [advanceTo_of_le past]
      exact fits
  rw [advanceToU64_eq (fits.mono order), advanceToU64_eq onward, advanceTo_split order, advanceToU64_eq fits]

structure Lasting (m after : EtherDreamModel) : Prop where
  profile : after.profile = m.profile
  now : after.now = m.now
  input : after.input = m.input
  hung : after.hung = m.hung
  recordOutput : after.recordOutput = m.recordOutput
  inject : after.inject = m.inject
  replyOverride : after.replyOverride = m.replyOverride

theorem Lasting.refl (m : EtherDreamModel) : Lasting m m := ⟨rfl, rfl, rfl, rfl, rfl, rfl, rfl⟩

theorem Lasting.trans {middle after : EtherDreamModel} (first : Lasting m middle) (second : Lasting middle after) :
    Lasting m after where
  profile := second.profile.trans first.profile
  now := second.now.trans first.now
  input := second.input.trans first.input
  hung := second.hung.trans first.hung
  recordOutput := second.recordOutput.trans first.recordOutput
  inject := second.inject.trans first.inject
  replyOverride := second.replyOverride.trans first.replyOverride

theorem playPointU64_lasting (point : DacPoint) (m : EtherDreamModel) : Lasting m (m.playPointU64 point) := by
  unfold playPointU64 takeRate
  dsimp only
  split
  · split
    all_goals exact ⟨rfl, rfl, rfl, rfl, rfl, rfl, rfl⟩
  · exact ⟨rfl, rfl, rfl, rfl, rfl, rfl, rfl⟩

theorem playU64_lasting (time : Nat) (ring : List DacPoint) (m : EtherDreamModel) :
    Lasting m (m.playU64 time ring) := by
  induction ring generalizing m with
  | nil =>
    unfold playU64
    split
    all_goals exact ⟨rfl, rfl, rfl, rfl, rfl, rfl, rfl⟩
  | cons point ring ih =>
    unfold playU64
    split
    · exact ⟨rfl, rfl, rfl, rfl, rfl, rfl, rfl⟩
    · exact (playPointU64_lasting point m).trans (ih _)

theorem warmed_lasting (time : Nat) (m : EtherDreamModel) : Lasting m (m.warmed time) := by
  rcases warmed_cases time m with same | ⟨-, same⟩
  all_goals
    rw [same]
    exact ⟨rfl, rfl, rfl, rfl, rfl, rfl, rfl⟩

/-- The clock reaches its time. -/
theorem advanceToU64_lasting (time : Nat) (m : EtherDreamModel) :
    ∃ now, time ≤ now ∧ Lasting { m with now } (m.advanceToU64 time) := by
  unfold advanceToU64
  split
  · next past => exact ⟨m.now, past, .refl m⟩
  · have warm := warmed_lasting time { m with now := time }
    dsimp only
    split
    · exact ⟨time, le_rfl, warm.trans (playU64_lasting time _ _)⟩
    · exact ⟨time, le_rfl, warm⟩

theorem advanceToU64_now (time : Nat) (m : EtherDreamModel) : time ≤ (m.advanceToU64 time).now := by
  obtain ⟨now, reached, lasting⟩ := advanceToU64_lasting time m
  rw [lasting.now]
  exact reached

/-- `feed`. Its own clock finds the time reached. -/
def feedU64 (now : Nat) (bytes : List UInt8) (m : EtherDreamModel) : List Reply × EtherDreamModel :=
  (m.advanceToU64 now).feed now bytes

end LaserDac.EtherDream.EtherDreamModel
