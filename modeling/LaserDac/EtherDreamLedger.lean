import LaserDac.EtherDreamClock
import LaserDac.EtherDreamSteps

/-!
Where the points of the simulated Ether Dream go. A ledger beside the model enters every point that is taken into the
ring, and settles it when it leaves: it was played, or an event that clears the ring removed it.
-/

namespace LaserDac.EtherDream

open Bytes

variable (time : Nat) (m : EtherDreamModel) {after before : EtherDreamModel}

namespace EtherDreamModel

/-- What one move does to the ring: points leave at the front because they are played, points enter at the back, or
all points go. -/
inductive RingMove (m after : EtherDreamModel) : Prop
  | played (count : Nat) (few : count ≤ m.ring.length) (ring : after.ring = m.ring.drop count)
      (played : after.playedTotal = m.playedTotal + count) (accepted : after.acceptedTotal = m.acceptedTotal)
      (output : after.output = m.output ++ if m.recordOutput then m.ring.take count else [])
  | accepted (points : List DacPoint) (ring : after.ring = m.ring ++ points)
      (room : after.ring.length ≤ max m.ring.length m.profile.ringPoints.toNat)
      (played : after.playedTotal = m.playedTotal) (accepted : after.acceptedTotal = m.acceptedTotal + points.length)
      (output : after.output = m.output)
  | cleared (ring : after.ring = []) (played : after.playedTotal = m.playedTotal)
      (accepted : after.acceptedTotal = m.acceptedTotal) (output : after.output = m.output)

/-- One move, under one firmware. -/
structure Moves (m after : EtherDreamModel) : Prop where
  move : RingMove m after
  profile : after.profile = m.profile

/-- Nothing of what a move can change is changed. -/
structure Still (m after : EtherDreamModel) : Prop where
  ring : after.ring = m.ring
  played : after.playedTotal = m.playedTotal
  accepted : after.acceptedTotal = m.acceptedTotal
  output : after.output = m.output
  profile : after.profile = m.profile

theorem Still.refl : Still m m := ⟨rfl, rfl, rfl, rfl, rfl⟩

variable {m}

theorem Still.moves (still : Still m after) : Moves m after := by
  refine ⟨.played 0 (Nat.zero_le _) still.ring still.played still.accepted ?_, still.profile⟩
  rw [still.output, List.take_zero, ite_self, List.append_nil]

theorem Moves.still {middle : EtherDreamModel} (moves : Moves m middle) (still : Still middle after) :
    Moves m after := by
  refine ⟨?_, still.profile.trans moves.profile⟩
  cases moves.move with
  | played count few ring played accepted output =>
    exact .played count few (still.ring.trans ring) (still.played.trans played) (still.accepted.trans accepted)
      (still.output.trans output)
  | accepted points ring room played accepted output =>
    refine .accepted points (still.ring.trans ring) ?_ (still.played.trans played) (still.accepted.trans accepted)
      (still.output.trans output)
    rw [still.ring]
    exact room
  | cleared ring played accepted output =>
    exact .cleared (still.ring.trans ring) (still.played.trans played) (still.accepted.trans accepted)
      (still.output.trans output)

theorem Moves.stale (ring : after.ring = if m.profile.staleFullnessUntilPrepare then m.ring else [])
    (played : after.playedTotal = m.playedTotal) (accepted : after.acceptedTotal = m.acceptedTotal)
    (output : after.output = m.output) (profile : after.profile = m.profile) : Moves m after := by
  by_cases kept : m.profile.staleFullnessUntilPrepare = true
  · rw [if_pos kept] at ring
    exact Still.moves ⟨ring, played, accepted, output, profile⟩
  · rw [if_neg kept] at ring
    exact ⟨.cleared ring played accepted output, profile⟩

/-- As many points of a data command are taken into the ring as it has room for, or fewer. -/
structure Takes (points : List DacPoint) (take : Nat) (m after : EtherDreamModel) : Prop where
  some : take ≤ points.length
  room : take ≤ m.profile.ringPoints.toNat - m.ring.length
  ring : after.ring = m.ring ++ points.take take
  played : after.playedTotal = m.playedTotal
  accepted : after.acceptedTotal = m.acceptedTotal + take
  output : after.output = m.output
  profile : after.profile = m.profile

theorem data_takes (points : List DacPoint) (m : EtherDreamModel) : ∃ take, Takes points take m (m.data points).2 := by
  have nothing : Takes points 0 m m := ⟨Nat.zero_le _, Nat.zero_le _, by simp, rfl, rfl, rfl, rfl⟩
  unfold data
  split
  · exact ⟨0, nothing⟩
  split
  · exact ⟨0, nothing⟩
  dsimp only
  by_cases fits : points.length ≤ m.profile.ringPoints.toNat - m.ring.length
  · rw [if_neg (Nat.not_lt.mpr fits), if_pos fits]
    exact ⟨points.length, le_rfl, fits, rfl, rfl, rfl, rfl, rfl⟩
  · have short := Nat.lt_of_not_le fits
    rw [if_pos short, if_neg fits]
    by_cases full : m.profile.naksFull = true
    · rw [if_pos full]
      exact ⟨0, Nat.zero_le _, Nat.zero_le _, rfl, rfl, rfl, rfl, rfl⟩
    · rw [if_neg full]
      by_cases partly : m.profile.dataPartialWriteThenNakInvalid = true
      · rw [if_pos partly]
        exact ⟨_, short.le, le_rfl, rfl, rfl, rfl, rfl, rfl⟩
      · rw [if_neg partly]
        exact ⟨0, Nat.zero_le _, Nat.zero_le _, rfl, rfl, rfl, rfl, rfl⟩

theorem Takes.moves {points : List DacPoint} {take : Nat} (takes : Takes points take m after) : Moves m after := by
  have length : (points.take take).length = take := by
    rw [List.length_take]
    exact Nat.min_eq_left takes.some
  refine ⟨.accepted (points.take take) takes.ring ?_ takes.played ?_ takes.output, takes.profile⟩
  · have room := takes.room
    rw [takes.ring, List.length_append, length]
    omega
  · rw [length]
    exact takes.accepted

theorem execute_moves (command : Command) (m : EtherDreamModel) : Moves m (m.execute command).2 := by
  cases command with
  | prepareStream =>
    simp only [execute, prepareStream]
    split
    · exact (Still.refl m).moves
    · exact ⟨.cleared rfl rfl rfl rfl, rfl⟩
  | begin =>
    simp only [execute, beginOrUpdate]
    repeat' split
    all_goals exact Still.moves ⟨rfl, rfl, rfl, rfl, rfl⟩
  | update =>
    simp only [execute, beginOrUpdate]
    repeat' split
    all_goals exact Still.moves ⟨rfl, rfl, rfl, rfl, rfl⟩
  | pointRate =>
    simp only [execute, queueRate]
    split
    all_goals exact Still.moves ⟨rfl, rfl, rfl, rfl, rfl⟩
  | data points =>
    obtain ⟨take, takes⟩ := data_takes points m
    exact takes.moves
  | stop =>
    simp only [execute, stop]
    split
    · exact (Still.refl m).moves
    · exact .stale rfl rfl rfl rfl rfl
  | emergencyStop => exact .stale rfl rfl rfl rfl rfl
  | clearEmergencyStop =>
    simp only [execute]
    rcases m.clearEmergencyStop_cases.1 with same | ⟨-, same | same⟩
    all_goals
      rw [same]
      exact Still.moves ⟨rfl, rfl, rfl, rfl, rfl⟩
  | ping => exact (Still.refl m).moves

theorem step_moves {input : List UInt8} {consumed : Nat} {reply : Reply}
    (step : m.step input = some (consumed, reply, after)) : Moves m after := by
  rcases (step_stepped step).result with ⟨-, command, rfl⟩ | ⟨-, rfl⟩
  · exact execute_moves command m
  · exact Still.moves ⟨rfl, rfl, rfl, rfl, rfl⟩

/-- So many points are played off the front of a ring. -/
structure Plays (ring : List DacPoint) (count : Nat) (m after : EtherDreamModel) : Prop where
  few : count ≤ ring.length
  left : after.ring = ring.drop count
  played : after.playedTotal = m.playedTotal + count
  accepted : after.acceptedTotal = m.acceptedTotal
  output : after.output = m.output ++ if m.recordOutput then ring.take count else []

theorem Plays.none {ring : List DacPoint} (kept : after.ring = ring) (played : after.playedTotal = m.playedTotal)
    (accepted : after.acceptedTotal = m.acceptedTotal) (output : after.output = m.output) : Plays ring 0 m after where
  few := Nat.zero_le _
  left := kept
  played := played
  accepted := accepted
  output := by rw [output, List.take_zero, ite_self, List.append_nil]

theorem takeRate_still (point : DacPoint) (time : Nat) (m : EtherDreamModel) : Still m (m.takeRate point time) := by
  unfold takeRate
  split
  · split
    all_goals exact ⟨rfl, rfl, rfl, rfl, rfl⟩
  · exact .refl m

/-- One point is played, and then the others. -/
theorem Plays.cons {point : DacPoint} {ring : List DacPoint} {count : Nat}
    (rest : Plays ring count (m.playPointU64 point) after) : Plays (point :: ring) (count + 1) m after := by
  have still : Still (m.countPoint point) (m.playPointU64 point) := takeRate_still point _ _
  have recording := (playPointU64_lasting point m).recordOutput
  exact {
    few := Nat.succ_le_succ rest.few
    left := rest.left
    played := by
      rw [rest.played, still.played, countPoint]
      exact Nat.add_right_comm _ _ _
    accepted := rest.accepted.trans still.accepted
    output := by
      rw [rest.output, still.output, recording, countPoint]
      dsimp only
      split
      · rw [List.append_assoc, List.take_succ_cons, List.singleton_append]
      · rfl }

variable (m)

theorem playU64_plays (ring : List DacPoint) (m : EtherDreamModel) :
    ∃ count, Plays ring count m (m.playU64 time ring) := by
  induction ring generalizing m with
  | nil =>
    unfold playU64
    split
    all_goals exact ⟨0, .none rfl rfl rfl rfl⟩
  | cons point ring ih =>
    unfold playU64
    split
    · exact ⟨0, .none rfl rfl rfl rfl⟩
    · obtain ⟨count, rest⟩ := ih (m.playPointU64 point)
      exact ⟨count + 1, rest.cons⟩

theorem warmed_still : Still m (m.warmed time) := by
  rcases warmed_cases time m with same | ⟨-, same⟩
  all_goals
    rw [same]
    exact ⟨rfl, rfl, rfl, rfl, rfl⟩

theorem advanceToU64_moves : Moves m (m.advanceToU64 time) := by
  unfold advanceToU64
  split
  · exact (Still.refl m).moves
  · dsimp only
    have still := warmed_still time { m with now := time }
    have recording := (warmed_lasting time { m with now := time }).recordOutput
    generalize { m with now := time }.warmed time = warm at still recording
    split
    · obtain ⟨count, plays⟩ := playU64_plays time warm.ring warm
      have lasting := playU64_lasting time warm.ring warm
      generalize warm.playU64 time warm.ring = after at plays lasting
      rw [still.ring] at plays
      refine ⟨.played count plays.few plays.left (by rw [plays.played, still.played])
        (plays.accepted.trans still.accepted) ?_, lasting.profile.trans still.profile⟩
      rw [plays.output, still.output, recording]
    · exact Still.moves ⟨still.ring, still.played, still.accepted, still.output, still.profile⟩

def Path (m : EtherDreamModel) (states : List EtherDreamModel) : Prop := List.IsChain Moves (m :: states)

def reaches (m : EtherDreamModel) (states : List EtherDreamModel) : EtherDreamModel := (m :: states).getLast (by simp)

theorem Path.nil : m.Path [] := .singleton m

theorem Path.cons {m : EtherDreamModel} {states : List EtherDreamModel} (moves : Moves m after)
    (path : after.Path states) : m.Path (after :: states) := .cons_cons moves path

theorem reaches_cons (after : EtherDreamModel) (states : List EtherDreamModel) :
    m.reaches (after :: states) = after.reaches states := rfl

theorem Path.append {m : EtherDreamModel} {first second : List EtherDreamModel} (path : m.Path first)
    (onward : (m.reaches first).Path second) : m.Path (first ++ second) := by
  induction first generalizing m with
  | nil => exact onward
  | cons after first ih =>
    obtain ⟨moves, rest⟩ := List.isChain_cons_cons.mp path
    exact .cons moves (ih rest onward)

theorem reaches_append (first second : List EtherDreamModel) :
    m.reaches (first ++ second) = (m.reaches first).reaches second := by
  induction first generalizing m with
  | nil => rfl
  | cons after first ih => exact ih after

def runInjectedStates : Nat → List UInt8 → EtherDreamModel → List EtherDreamModel
  | 0, _, _ => []
  | fuel + 1, input, m =>
    match m.step input with
    | none => []
    | some (consumed, _, after) => after :: runInjectedStates fuel (input.drop consumed) after

theorem runInjectedStates_path (fuel : Nat) (input : List UInt8) (m : EtherDreamModel) :
    m.Path (runInjectedStates fuel input m) ∧
      m.reaches (runInjectedStates fuel input m) = runInjected fuel input m := by
  induction fuel generalizing input m with
  | zero => exact ⟨.nil m, rfl⟩
  | succ fuel ih =>
    unfold runInjectedStates runInjected
    cases step : m.step input with
    | none => exact ⟨.nil m, rfl⟩
    | some taken =>
      obtain ⟨consumed, reply, after⟩ := taken
      obtain ⟨path, last⟩ := ih (input.drop consumed) after
      exact ⟨path.cons (step_moves step), last⟩

def injectedStates (input : List UInt8) (m : EtherDreamModel) : List EtherDreamModel :=
  match input.head?, m.inject with
  | some op, some (want, other) =>
    if op = want && commandComplete input then
      { m with inject := none } :: runInjectedStates (other.length + 1) other { m with inject := none }
    else []
  | _, _ => []

theorem injectedStates_path (input : List UInt8) (m : EtherDreamModel) :
    m.Path (injectedStates input m) ∧ m.reaches (injectedStates input m) = m.injected input := by
  cases input with
  | nil => exact ⟨.nil m, rfl⟩
  | cons =>
    cases pending : m.inject with
    | none =>
      simp only [injectedStates, injected, List.head?_cons, pending]
      exact ⟨.nil m, rfl⟩
    | some injection =>
      obtain ⟨want, other⟩ := injection
      simp only [injectedStates, injected, List.head?_cons, pending]
      split
      · obtain ⟨path, last⟩ := runInjectedStates_path (other.length + 1) other { m with inject := none }
        exact ⟨path.cons (Still.moves ⟨rfl, rfl, rfl, rfl, rfl⟩), last⟩
      · exact ⟨.nil m, rfl⟩

/-- The states in which the commands of an input leave the model, one after another. -/
def processStates (stopBefore : Option UInt8) : Nat → List UInt8 → EtherDreamModel → List EtherDreamModel
  | 0, _, _ => []
  | commands + 1, input, m =>
    if stopBefore.isSome ∧ input.head? = stopBefore then []
    else
      let ready := m.injected input
      if m.inject.isSome ∧ ready.inject.isNone ∧ ready.hung then m.injectedStates input
      else
        match ready.step input with
        | none => m.injectedStates input
        | some (consumed, reply, after) =>
          let (reply, after) := after.countReply reply
          let after := if after.recordInput then after.record (input.take consumed) else after
          if reply = .reset ∨ reply = .hang then m.injectedStates input ++ [after]
          else m.injectedStates input ++ after :: processStates stopBefore commands (input.drop consumed) after

theorem countReply_still (reply : Reply) (m : EtherDreamModel) : Still m (m.countReply reply).2 := by
  unfold countReply
  split
  · dsimp only
    repeat' split
    all_goals exact ⟨rfl, rfl, rfl, rfl, rfl⟩
  · exact .refl m

theorem record_still (bytes : List UInt8) (m : EtherDreamModel) : Still m (m.record bytes) := by
  cases bytes with
  | nil => exact .refl m
  | cons => exact ⟨rfl, rfl, rfl, rfl, rfl⟩

theorem processStates_path (stopBefore : Option UInt8) (commands : Nat) (input : List UInt8) (m : EtherDreamModel) :
    m.Path (processStates stopBefore commands input m) ∧
      m.reaches (processStates stopBefore commands input m) = (processLoop stopBefore commands input m).2.2 := by
  induction commands generalizing input m with
  | zero => exact ⟨.nil m, rfl⟩
  | succ commands ih =>
    obtain ⟨path, last⟩ := injectedStates_path input m
    unfold processStates processLoop
    split
    · exact ⟨.nil m, rfl⟩
    dsimp only
    split
    · exact ⟨path, last⟩
    cases step : (m.injected input).step input with
    | none => exact ⟨path, last⟩
    | some taken =>
      obtain ⟨consumed, reply, after⟩ := taken
      dsimp only
      have recorded : Moves (m.injected input) (if (after.countReply reply).2.recordInput
          then (after.countReply reply).2.record (input.take consumed) else (after.countReply reply).2) := by
        have counted := (step_moves step).still (countReply_still reply after)
        split
        · exact counted.still (record_still _ _)
        · exact counted
      generalize (if (after.countReply reply).2.recordInput
        then (after.countReply reply).2.record (input.take consumed) else (after.countReply reply).2) = kept at recorded
      rw [← last] at recorded
      split
      · refine ⟨path.append (.cons recorded (.nil kept)), ?_⟩
        rw [reaches_append]
        rfl
      · obtain ⟨rest, final⟩ := ih (input.drop consumed) kept
        refine ⟨path.append (.cons recorded rest), ?_⟩
        rw [reaches_append, reaches_cons, final]

/-- The connection of a client is closed; some firmware then stops. -/
def connectionClosed (now : Nat) (m : EtherDreamModel) : EtherDreamModel :=
  let m := m.advanceTo now
  if !m.profile.closeStopsPlayback || m.playback ≠ .playing then m
  else
    { m with
      playback := .idle, segRate := 0, pointCount := 0, rateQueue := []
      ring := if m.profile.staleFullnessUntilPrepare then m.ring else [] }

end EtherDreamModel

/-- What the owner of a model can do to it. -/
inductive Deed
  | advanceTo (now : Nat)
  | feed (now : Nat) (bytes : List UInt8)
  | processWith (now : Nat) (input : List UInt8) (stopBefore : Option UInt8) (maxCommands : Option Nat)
  | triggerEstop (now : Nat)
  | connectionClosed (now : Nat)
  | setInterlock (ok : Bool)
  | setRecordOutput (on : Bool)
  | takeOutput
  | setRecordInput (on : Bool)
  | injectBefore (opcode : UInt8) (bytes : List UInt8)
  | overrideReplyCode (opcode code : UInt8)
  deriving DecidableEq, Repr

open EtherDreamModel

/-- The model after a deed. A deed at some time advances the clock first, with the casts; the clock of the deed itself
then finds its time reached. -/
def Deed.apply (m : EtherDreamModel) : Deed → EtherDreamModel
  | advanceTo now => m.advanceToU64 now
  | feed now bytes => (m.feedU64 now bytes).2
  | processWith now input stopBefore maxCommands =>
    ((m.advanceToU64 now).processWith now input stopBefore maxCommands).2.2
  | triggerEstop now => (m.advanceToU64 now).triggerEstop now
  | connectionClosed now => (m.advanceToU64 now).connectionClosed now
  | setInterlock ok => m.setInterlock ok
  | setRecordOutput on => { m with recordOutput := on }
  | takeOutput => { m with output := [] }
  | setRecordInput on => { m with recordInput := on }
  | injectBefore opcode bytes => { m with inject := some (opcode, bytes) }
  | overrideReplyCode opcode code => { m with replyOverride := some (opcode, code) }

/-- The states in which a deed leaves the model on its way, and at its end. -/
def Deed.states (m : EtherDreamModel) (deed : Deed) : List EtherDreamModel :=
  match deed with
  | feed now bytes =>
    let reached := { m.advanceToU64 now with input := [] }
    let input := (m.advanceToU64 now).input ++ bytes
    (m.advanceToU64 now :: reached ::
      if reached.hung then [] else processStates none (input.length + 1) input reached) ++ [deed.apply m]
  | processWith now input stopBefore maxCommands =>
    let reached := m.advanceToU64 now
    reached ::
      if reached.hung then [] else processStates stopBefore (maxCommands.getD (input.length + 1)) input reached
  | triggerEstop now => [m.advanceToU64 now, deed.apply m]
  | connectionClosed now => [m.advanceToU64 now, deed.apply m]
  | _ => [deed.apply m]

theorem processWith_path {m : EtherDreamModel} {now : Nat} (reached : now ≤ m.now) (input : List UInt8)
    (stopBefore : Option UInt8) (maxCommands : Option Nat) :
    m.Path (if m.hung then [] else processStates stopBefore (maxCommands.getD (input.length + 1)) input m) ∧
      m.reaches (if m.hung then [] else processStates stopBefore (maxCommands.getD (input.length + 1)) input m) =
        (m.processWith now input stopBefore maxCommands).2.2 := by
  unfold processWith
  rw [advanceTo_of_le reached]
  dsimp only
  split
  · exact ⟨.nil m, rfl⟩
  · exact processStates_path stopBefore _ input m

theorem Deed.path {deed : Deed} (other : deed ≠ .takeOutput) :
    m.Path (deed.states m) ∧ m.reaches (deed.states m) = deed.apply m := by
  have alone {after : EtherDreamModel} (moves : Moves m after) : m.Path [after] := .cons moves (.nil after)
  cases deed with
  | advanceTo now => exact ⟨alone (advanceToU64_moves now m), rfl⟩
  | feed now bytes =>
    have moves := advanceToU64_moves now m
    have reached := advanceToU64_now now m
    obtain ⟨path, last⟩ := processWith_path (m := { m.advanceToU64 now with input := [] }) reached
      ((m.advanceToU64 now).input ++ bytes) none none
    -- the bytes that were not read are put back at the end
    have back : Moves ({ m.advanceToU64 now with input := [] }.processWith now
        ((m.advanceToU64 now).input ++ bytes) none none).2.2 ((Deed.feed now bytes).apply m) :=
      Still.moves ⟨rfl, rfl, rfl, rfl, rfl⟩
    rw [← last] at back
    refine ⟨.append (.cons moves (.cons (Still.moves ⟨rfl, rfl, rfl, rfl, rfl⟩) path)) (.cons back (.nil _)), ?_⟩
    exact reaches_append m _ _
  | processWith now input stopBefore maxCommands =>
    have moves := advanceToU64_moves now m
    have reached := advanceToU64_now now m
    obtain ⟨path, last⟩ := processWith_path reached input stopBefore maxCommands
    exact ⟨.cons moves path, last⟩
  | triggerEstop now =>
    have moves := advanceToU64_moves now m
    have reached := advanceToU64_now now m
    refine ⟨.cons moves (.cons ?_ (.nil _)), rfl⟩
    simp only [apply, EtherDreamModel.triggerEstop, advanceTo_of_le reached]
    exact execute_moves .emergencyStop _
  | connectionClosed now =>
    have moves := advanceToU64_moves now m
    have reached := advanceToU64_now now m
    refine ⟨.cons moves (.cons ?_ (.nil _)), rfl⟩
    simp only [apply, EtherDreamModel.connectionClosed, advanceTo_of_le reached]
    split
    · exact (Still.refl _).moves
    · exact .stale rfl rfl rfl rfl rfl
  | setInterlock =>
    refine ⟨alone ?_, rfl⟩
    simp only [apply, EtherDreamModel.setInterlock]
    split
    · exact (execute_moves .emergencyStop m).still ⟨rfl, rfl, rfl, rfl, rfl⟩
    · exact Still.moves ⟨rfl, rfl, rfl, rfl, rfl⟩
  | takeOutput => exact absurd rfl other
  | setRecordOutput => exact ⟨alone (Still.moves ⟨rfl, rfl, rfl, rfl, rfl⟩), rfl⟩
  | setRecordInput | injectBefore | overrideReplyCode => exact ⟨alone (Still.moves ⟨rfl, rfl, rfl, rfl, rfl⟩), rfl⟩

/-! ### The ledger -/

/-- How a point left the ring. -/
inductive Fate
  | played (recorded : Bool)
  | removed
  deriving DecidableEq, Repr

/-- The points that were taken in, and what became of them. -/
structure Ledger where
  accepted : List DacPoint
  settled : List (DacPoint × Fate)
  drained : List DacPoint
  deriving DecidableEq, Repr

variable {l : Ledger}

namespace Ledger

def fresh : Ledger := ⟨[], [], []⟩

/-- Enter a move. Points that were counted as played left the ring at the front, points that were counted as accepted
entered it at the back, and what else is missing was removed. -/
def enter (before after : EtherDreamModel) (l : Ledger) : Ledger :=
  let played := after.playedTotal - before.playedTotal
  let kept := after.ring.length - (after.acceptedTotal - before.acceptedTotal)
  { l with
    accepted := l.accepted ++ after.ring.drop kept
    settled := l.settled ++ (before.ring.take played).map (·, .played before.recordOutput) ++
      (before.ring.drop (played + kept)).map (·, .removed) }

def follow (m : EtherDreamModel) (l : Ledger) : List EtherDreamModel → Ledger
  | [] => l
  | after :: states => follow after (l.enter m after) states

def played (l : Ledger) : List DacPoint := (l.settled.filter fun entry => entry.2 ≠ .removed).map Prod.fst

/-- The points that were played while the output was recorded, in that order. -/
def recorded (l : Ledger) : List DacPoint := (l.settled.filter fun entry => entry.2 = .played true).map Prod.fst

/-- The points that an event removed. -/
def removed (l : Ledger) : List DacPoint := (l.settled.filter fun entry => entry.2 = .removed).map Prod.fst

/-- The ledger and the model agree: what was accepted was settled, in that order, or is in the ring. -/
structure Balanced (l : Ledger) (m : EtherDreamModel) : Prop where
  whole : l.accepted = l.settled.map Prod.fst ++ m.ring
  room : m.ring.length ≤ m.profile.ringPoints.toNat
  accepted : m.acceptedTotal = l.accepted.length
  played : m.playedTotal = l.played.length
  output : l.recorded = l.drained ++ m.output

theorem fresh_balanced (profile : FirmwareProfile) : fresh.Balanced (new profile) :=
  ⟨rfl, Nat.zero_le _, rfl, rfl, rfl⟩

def settle (fate : Fate) (points : List DacPoint) (l : Ledger) : Ledger :=
  { l with settled := l.settled ++ points.map (·, fate) }

theorem settle_filter (test : Fate → Bool) (fate : Fate) (points : List DacPoint) (l : Ledger) :
    ((l.settle fate points).settled.filter fun entry => test entry.2).map Prod.fst =
      (l.settled.filter fun entry => test entry.2).map Prod.fst ++ if test fate then points else [] := by
  have alike : ((points.map (·, fate)).filter fun entry => test entry.2).map Prod.fst =
      if test fate then points else [] := by
    induction points with
    | nil => simp
    | cons point points ih =>
      by_cases passes : test fate = true
      · simp_all
      · simp_all
  rw [settle, List.filter_append, List.map_append, alike]

theorem settle_fst (fate : Fate) (points : List DacPoint) (l : Ledger) :
    (l.settle fate points).settled.map Prod.fst = l.settled.map Prod.fst ++ points := by
  simp [settle, Function.comp_def]

/-- Points that are played. -/
theorem enter_played {count : Nat} (few : count ≤ before.ring.length) (ring : after.ring = before.ring.drop count)
    (played : after.playedTotal = before.playedTotal + count) (accepted : after.acceptedTotal = before.acceptedTotal)
    (l : Ledger) : l.enter before after = l.settle (.played before.recordOutput) (before.ring.take count) := by
  have moved : after.playedTotal - before.playedTotal = count := by omega
  have all : before.ring.length ≤ count + after.ring.length := by
    rw [ring, List.length_drop]
    omega
  simp [enter, settle, moved, accepted, List.drop_eq_nil_of_le all]

/-- Points that are accepted. -/
theorem enter_accepted {points : List DacPoint} (ring : after.ring = before.ring ++ points)
    (played : after.playedTotal = before.playedTotal)
    (accepted : after.acceptedTotal = before.acceptedTotal + points.length) (l : Ledger) :
    l.enter before after = { l with accepted := l.accepted ++ points } := by
  have taken : after.acceptedTotal - before.acceptedTotal = points.length := by omega
  simp [enter, taken, played, ring]

/-- Points that are removed. -/
theorem enter_cleared (ring : after.ring = []) (played : after.playedTotal = before.playedTotal) (l : Ledger) :
    l.enter before after = l.settle .removed before.ring := by
  simp [enter, settle, ring, played]

/-- A move keeps the balance. -/
theorem Balanced.enter (balanced : l.Balanced before) (moves : Moves before after) :
    (l.enter before after).Balanced after := by
  obtain ⟨whole, room, acceptedTotal, playedTotal, recorded⟩ := balanced
  obtain ⟨move, profile⟩ := moves
  cases move with
  | played count few ring played accepted output =>
    rw [enter_played few ring played accepted]
    refine ⟨?_, ?_, accepted.trans acceptedTotal, ?_, ?_⟩
    · rw [settle_fst, ring, List.append_assoc, List.take_append_drop]
      exact whole
    · rw [ring, profile, List.length_drop]
      exact (Nat.sub_le _ _).trans room
    · have more := settle_filter (· ≠ .removed) (.played before.recordOutput) (before.ring.take count) l
      simp only [ne_eq, reduceCtorEq, not_false_eq_true, decide_true, if_true] at more
      rw [played, playedTotal, Ledger.played, Ledger.played, more, List.length_append, List.length_take,
        Nat.min_eq_left few]
    · have more := settle_filter (· = .played true) (.played before.recordOutput) (before.ring.take count) l
      simp only [Fate.played.injEq, decide_eq_true_eq] at more
      rw [Ledger.recorded, more, output, ← List.append_assoc]
      exact congrArg (· ++ _) recorded
  | accepted points ring fits played accepted output =>
    rw [enter_accepted ring played accepted]
    refine ⟨?_, ?_, ?_, played.trans playedTotal, ?_⟩
    · rw [whole, ring, List.append_assoc]
    · rw [profile]
      exact fits.trans (Nat.max_le.mpr ⟨room, le_rfl⟩)
    · rw [accepted, acceptedTotal, List.length_append]
    · rw [output]
      exact recorded
  | cleared ring played accepted output =>
    rw [enter_cleared ring played]
    refine ⟨?_, ?_, accepted.trans acceptedTotal, ?_, ?_⟩
    · rw [settle_fst, ring, List.append_nil]
      exact whole
    · rw [ring]
      exact Nat.zero_le _
    · have same := settle_filter (· ≠ .removed) .removed before.ring l
      simp only [ne_eq, not_true_eq_false, decide_false, Bool.false_eq_true, if_false, List.append_nil] at same
      rw [played, playedTotal, Ledger.played, Ledger.played, same]
    · have same := settle_filter (· = .played true) .removed before.ring l
      simp only [reduceCtorEq, decide_false, Bool.false_eq_true, if_false, List.append_nil] at same
      rw [Ledger.recorded, same, output]
      exact recorded

theorem Balanced.follow {m : EtherDreamModel} (balanced : l.Balanced m) {states : List EtherDreamModel}
    (path : m.Path states) : (l.follow m states).Balanced (m.reaches states) := by
  induction states generalizing l m with
  | nil => exact balanced
  | cons after states ih =>
    obtain ⟨moves, rest⟩ := List.isChain_cons_cons.mp path
    exact ih (balanced.enter moves) rest

theorem Balanced.count {m : EtherDreamModel} (balanced : l.Balanced m) :
    m.acceptedTotal = m.playedTotal + l.removed.length + m.ring.length := by
  have parts : l.settled.length = l.played.length + l.removed.length := by
    unfold Ledger.played Ledger.removed
    rw [List.length_map, List.length_map]
    induction l.settled with
    | nil => rfl
    | cons entry settled ih =>
      by_cases gone : entry.2 = .removed
      · simp only [List.filter_cons, gone, ne_eq, not_true_eq_false, decide_false, decide_true, Bool.false_eq_true,
          if_false, if_true, List.length_cons, ih]
        omega
      · simp only [List.filter_cons, gone, ne_eq, not_false_eq_true, decide_false, decide_true, Bool.false_eq_true,
          if_false, if_true, List.length_cons, ih]
        omega
  rw [balanced.accepted, balanced.whole, List.length_append, List.length_map, balanced.played, parts]

end Ledger

def Deed.perform (books : Ledger × EtherDreamModel) (deed : Deed) : Ledger × EtherDreamModel :=
  (match deed with
    | takeOutput => { books.1 with drained := books.1.drained ++ books.2.output }
    | deed => books.1.follow books.2 (deed.states books.2),
    deed.apply books.2)

theorem Deed.perform_balanced (deed : Deed) {books : Ledger × EtherDreamModel} (balanced : books.1.Balanced books.2) :
    (deed.perform books).1.Balanced (deed.perform books).2 := by
  by_cases drains : deed = .takeOutput
  · subst drains
    refine ⟨balanced.whole, balanced.room, balanced.accepted, balanced.played, ?_⟩
    exact balanced.output.trans (List.append_nil _).symm
  · obtain ⟨path, last⟩ := Deed.path books.2 drains
    have entered := balanced.follow path
    rw [last] at entered
    cases deed with
    | takeOutput => exact absurd rfl drains
    | _ => exact entered

/-- A freshly booted model and its ledger after some deeds. -/
def runDeeds (profile : FirmwareProfile) (deeds : List Deed) : Ledger × EtherDreamModel :=
  deeds.foldl Deed.perform (.fresh, new profile)

theorem runDeeds_balanced (profile : FirmwareProfile) (deeds : List Deed) :
    (runDeeds profile deeds).1.Balanced (runDeeds profile deeds).2 := by
  have onward (deeds : List Deed) : ∀ books : Ledger × EtherDreamModel, books.1.Balanced books.2 →
      (deeds.foldl Deed.perform books).1.Balanced (deeds.foldl Deed.perform books).2 := by
    induction deeds with
    | nil => exact fun books balanced => balanced
    | cons deed deeds ih => exact fun books balanced => ih _ (deed.perform_balanced balanced)
  exact onward deeds _ (Ledger.fresh_balanced profile)

/-- Whatever was done, the accepted points are those that were played or removed, in that order, and then those in the
ring, which holds no more than the firmware has room for; and from there on, it does not matter in how many stretches
time passes, as long as no cast cuts anything off. -/
theorem runDeeds_conserves (profile : FirmwareProfile) (deeds : List Deed) :
    let ledger := (runDeeds profile deeds).1
    let m := (runDeeds profile deeds).2
    ledger.Balanced m ∧ m.acceptedTotal = m.playedTotal + ledger.removed.length + m.ring.length ∧
      ∀ early late, early ≤ late → m.Fits64 late →
        (m.advanceToU64 early).advanceToU64 late = m.advanceToU64 late := by
  have balanced := runDeeds_balanced profile deeds
  exact ⟨balanced, balanced.count, fun early late order fits => advanceToU64_split order fits⟩

/-- A prepared stream with one point that changes the rate and two others, one of which is played and recorded. -/
def twoRates : List Deed :=
  [.setRecordOutput true, .feed 0 [0x70],
    .feed 0 ([0x64, 3, 0] ++ (DacPoint.write ⟨0x8000, 0, 0, 1, 0, 0, 0, 0, 0⟩) ++
      (DacPoint.write ⟨0, 0, 0, 2, 0, 0, 0, 0, 0⟩) ++ (DacPoint.write ⟨0, 0, 0, 3, 0, 0, 0, 0, 0⟩)),
    .feed 0 [0x71, 0xE8, 0x03, 0, 0], .feed 0 [0x62, 0, 0, 0x10, 0x27, 0, 0]]

/-- In the middle of a stream, across a rate change and into the underflow. -/
theorem runDeeds_conserves_twoRates :
    (runDeeds .ed1J4cdac twoRates).2.Fits64 5000000 ∧
      ((runDeeds .ed1J4cdac twoRates).2.advanceToU64 150000).advanceToU64 5000000 =
        (runDeeds .ed1J4cdac twoRates).2.advanceToU64 5000000 ∧
      ((runDeeds .ed1J4cdac twoRates).2.advanceToU64 150000).playedTotal = 1 ∧
      ((runDeeds .ed1J4cdac twoRates).2.advanceToU64 5000000).underflows = 1 := by
  have fits : (runDeeds .ed1J4cdac twoRates).2.Fits64 5000000 := by decide +kernel
  refine ⟨fits, ?_, by decide +kernel, by decide +kernel⟩
  exact (runDeeds_conserves .ed1J4cdac twoRates).2.2 150000 5000000 (by decide) fits

/-- One point at the highest rate. After 2 ^ 64 points' time, the count of the due points is cut to none: at once,
nothing is played, while after a second in between, the point is played and the stream has ended. -/
theorem advanceToU64_wraps :
    let m := (runDeeds .ed1J4cdac [.feed 0 [0x70], .feed 0 ([0x64, 1, 0] ++ List.replicate 18 0),
      .feed 0 [0x62, 0, 0, 0xA0, 0x86, 0x01, 0]]).2
    let early := 1000000000
    let late := 2 ^ 64 * 10000
    early ≤ late ∧ (m.advanceToU64 early).advanceToU64 late ≠ m.advanceToU64 late ∧
      (m.advanceToU64 late).playedTotal = 0 ∧ ((m.advanceToU64 early).advanceToU64 late).playedTotal = 1 := by
  decide +kernel

end LaserDac.EtherDream
