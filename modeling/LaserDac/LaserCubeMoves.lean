import LaserDac.LaserCubeSteps

/-!
What the LaserCube worker does to its estimate of the device and to its counts of packets in flight. All moves of a
round go by the reading of the clock that it starts with (`run_rounds`). Unlike the steps, these moves do not say
where in its loop the worker is.
-/

namespace LaserDac.LaserCube

open Runs Runs.Run

/-- The same as far as the estimate and the packets in flight are concerned. -/
structure SameBooks (t t' : Transport) : Prop where
  counts : t'.worker.packetSampleCounts = t.worker.packetSampleCounts
  sequence : t'.worker.packetSequence = t.worker.packetSequence
  currentRate : t'.worker.currentRate = t.worker.currentRate
  state : t'.state = { t.state with hostQueueLen := t'.state.hostQueueLen }
  tick : t.tick ≤ t'.tick

theorem SameBooks.refl (t : Transport) : SameBooks t t := ⟨rfl, rfl, rfl, rfl, le_rfl⟩

variable {t : Transport}

theorem SameBooks.of_interleave (env : Env) (t : Transport) : SameBooks t (t.interleave env) := by
  obtain ⟨worker, state, -⟩ := t.interleave_samePacing env
  refine ⟨?_, ?_, ?_, state, Nat.le_succ t.tick⟩
  all_goals rw [worker]

theorem SameBooks.lastDataAckSequence {t' : Transport} (same : SameBooks t t') :
    t'.state.lastDataAckSequence = t.state.lastDataAckSequence := by
  rw [same.state]

variable {f : Transport → Transport}

section

variable (env : Env) (now : Nat)

/-- A move of a round that read this time from the clock. -/
inductive Move : Transport → Transport → Prop
  | idle {t t' : Transport} (same : SameBooks t t') : Move t t'
  | rate {t : Transport} (pointRate : Nat) : Move t (t.setRate env pointRate)
  | decay {t : Transport} : Move t (t.mapState (TransportState.decayFreeEstimate now))
  /-- A packet is sent if it fits under the target. -/
  | sent {t : Transport} (packet rest : List Sample) (room : t.state.buffered + packet.length ≤ t.state.target) :
    Move t (t.packetSent now packet rest).2
  | message {t : Transport} (message : Message) (received : env.receiveCommand t.tick = some message) :
    Move t (t.applyMessage env now message)
  | data {t : Transport} (sequence : UInt8) (freeSpace : UInt16)
    (received : env.receiveData t.tick = some (some (sequence, freeSpace))) :
    Move t (t.applyDataAck now sequence freeSpace)

def Moves {α : Type} (m : Run Transport α) : Prop := Follows (Move env now) (fun _ => True) m fun _ _ => True

variable {env now}

namespace Moves

variable {α β : Type}

theorem bind {m : Run Transport β} {k : β → Run Transport α} (first : Moves env now m) (rest : ∀ b, Moves env now (k b)) :
    Moves env now (m >>= k) :=
  Follows.bind first rest

variable {k : Transport → Run Transport α}

theorem state (rest : ∀ t, Moves env now (k t)) : Moves env now (Run.state >>= k) :=
  Follows.bind (M := fun _ _ => True) (Follows.state fun _ _ => trivial) rest

theorem pure {a : α} : Moves env now (Pure.pure a) := Follows.pure fun _ _ => trivial

theorem ite {c : Prop} [Decidable c] {m m' : Run Transport α} (yes : Moves env now m) (no : Moves env now m') :
    Moves env now (if c then m else m') :=
  Follows.ite (fun _ => yes) fun _ => no

theorem iterate {round : β → Run Transport (β ⊕ α)} (step : ∀ b, Moves env now (round b)) (fuel : Nat) (b : β) :
    Moves env now (Run.iterate fuel round b) := by
  refine Follows.iterate (fun _ _ => True) (fun b => ?_) fuel b
  refine (step b).post fun next _ _ => ?_
  cases next <;> trivial

theorem update (moves : ∀ t, Relation.ReflTransGen (Move env now) t (f t)) : Moves env now (Run.update f) :=
  Follows.update (fun t _ => moves t) fun _ _ => trivial

theorem idle (same : ∀ t, SameBooks t (f t)) : Moves env now (Run.update f) :=
  update fun t => .single (.idle (same t))

theorem turn (rest : ∀ t, Follows (Move env now) (· = t) (k t) fun _ _ => True) : Moves env now (LaserCube.turn env >>= k) := by
  refine Follows.bind (M := fun t t' => t' = t) ?_ rest
  refine Follows.bind (M := fun _ _ => True) (Follows.state fun _ _ => trivial) fun t => ?_
  refine Follows.ite (fun _ => ?_) fun _ => Follows.cut
  refine Follows.bind (M := fun _ _ => True) ?_ fun _ => Follows.state fun _ _ => rfl
  exact Moves.idle (SameBooks.of_interleave env)

theorem free {m : Run Transport α} (moves : Moves env now m) (t : Transport) :
    Follows (Move env now) (· = t) m fun _ _ => True :=
  Follows.pre moves fun _ _ => trivial

theorem pass (rest : ∀ t, Moves env now (k t)) : Moves env now (LaserCube.turn env >>= k) :=
  turn fun t => free (rest t) t

end Moves

theorem setRate_cases (env : Env) (pointRate : Nat) (t : Transport) :
    SameBooks t (t.setRate env pointRate) ∨ ∃ rate log,
      t.setRate env pointRate = { t with
        state := { t.state with pointRate := rate }, worker := { t.worker with currentRate := rate }, log } := by
  unfold Transport.setRate
  dsimp only
  rw [sendRepeated_eq]
  split
  · exact .inr ⟨_, _, rfl⟩
  · exact .inl ⟨rfl, rfl, rfl, rfl, le_rfl⟩

theorem applyCommandAck_tick (freeSpace : UInt16) (t : Transport) :
    (t.applyCommandAck now freeSpace).tick = t.tick := by
  unfold Transport.applyCommandAck
  generalize t.inFlightSamples = inFlight
  rfl

theorem Move.later {t' : Transport} (move : Move env now t t') : t.tick ≤ t'.tick := by
  cases move with
  | idle same => exact same.tick
  | rate pointRate =>
    unfold Transport.setRate
    dsimp only
    rw [sendRepeated_eq]
    split <;> exact le_rfl
  | decay | sent => exact le_rfl
  | message message =>
    cases message with
    | fullInfo =>
      unfold Transport.applyMessage Transport.reconcileOutputEnable
      dsimp only
      split
      · exact le_rfl
      · rw [sendRepeated_eq]
        exact le_rfl
    | ack => exact (applyCommandAck_tick _ t).ge
    | response => exact le_rfl
  | data sequence freeSpace =>
    have applied (f : TransportState → TransportState) (t' : Transport) (same : t'.tick = t.tick) :
        t.tick ≤ ((t'.applyCommandAck now freeSpace).mapState f).tick := by
      rw [Transport.mapState, applyCommandAck_tick, same]
    unfold Transport.applyDataAck
    dsimp only
    split
    · split
      · exact applied _ _ rfl
      · exact le_rfl
    · exact applied _ _ rfl

/-- Moves by one reading of the clock, which was taken on the way. -/
def Round (env : Env) (t t' : Transport) : Prop :=
  ∃ tick, t.tick ≤ tick ∧ tick ≤ t'.tick ∧ Relation.ReflTransGen (Move env (env.now tick)) t t'

theorem later_of_moves {t' : Transport} (moves : Relation.ReflTransGen (Move env now) t t') : t.tick ≤ t'.tick := by
  induction moves with
  | refl => exact le_rfl
  | tail _ move ih => exact ih.trans move.later

theorem Moves.rounds {α : Type} {m : Run Transport α} (moves : ∀ now, Moves env now m) :
    Follows (Round env) (fun _ => True) m fun _ _ => True := by
  intro t _
  have path := (moves (env.now t.tick) t trivial).1
  exact ⟨.single ⟨t.tick, le_rfl, later_of_moves path, path⟩, fun _ _ => trivial⟩

end

end LaserDac.LaserCube
