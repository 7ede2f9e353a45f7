import LaserDac.EtherDreamModel

/-!
One step of the simulated Ether Dream, whatever the bytes are: what it takes off the input and what it can do to the
model. A command is complete exactly when `command_complete` says so (`step_isSome`).
-/

namespace LaserDac.EtherDream

open Bytes

def opcodes : List UInt8 := [0x70, 0x62, 0x75, 0x71, 0x64, 0x73, 0x00, 0xFF, 0x63, 0x3F]

/-- The firmware answers a command with this byte by resetting the connection. -/
def FirmwareProfile.Resets (profile : FirmwareProfile) (byte : UInt8) : Prop :=
  profile.unknownCommandResetsTcp = true ∧ byte ∉ opcodes ∧ ¬ (byte = 0x76 ∧ profile.versionString.isSome = true)

instance (profile : FirmwareProfile) (byte : UInt8) : Decidable (profile.Resets byte) :=
  inferInstanceAs (Decidable (_ ∧ _))

variable {arguments rest input : List UInt8} {m after : EtherDreamModel} {consumed : Nat} {rate : UInt32}
  {reply : Reply}

namespace EtherDreamModel

/-! ### One step -/

/-- What a step can make of the model: what a command does, or a hang. -/
def Result (m : EtherDreamModel) (reply : Reply) (after : EtherDreamModel) : Prop :=
  reply ≠ .hang ∧ (∃ command : Command, after = (m.execute command).2) ∨ reply = .hang ∧ after = { m with hung := true }

/-- What can be said of a step whatever the command was. -/
structure Stepped (m : EtherDreamModel) (input : List UInt8) (consumed : Nat) (reply : Reply)
    (after : EtherDreamModel) : Prop where
  positive : 0 < consumed
  within : consumed ≤ input.length
  result : Result m reply after
  reset : reply = .reset → ∃ byte, input.head? = some byte ∧ m.profile.Resets byte
  more : reply ≠ .reset → ∀ more, m.step (input ++ more) = some (consumed, reply, after)

theorem Stepped.answered {response : DacResponse} (command : Command) (positive : 0 < consumed)
    (within : consumed ≤ input.length)
    (more : ∀ more, m.step (input ++ more) = some (consumed, .response response, (m.execute command).2)) :
    Stepped m input consumed (.response response) (m.execute command).2 where
  positive
  within
  result := .inl ⟨by rintro ⟨⟩, command, rfl⟩
  reset := by rintro ⟨⟩
  more _ := more

theorem checkRate_stepped {cmd : UInt8} {fullLen : Nat}
    (refused : m.checkRate cmd rate fullLen = some (consumed, reply, after)) (some : 0 < fullLen)
    (within : fullLen ≤ input.length) (more : ∀ more, m.step (input ++ more) = .some (consumed, reply, after)) :
    Stepped m input consumed reply after := by
  unfold checkRate at refused
  split_ifs at refused with hangs outside alone
  · obtain ⟨rfl, rfl, rfl⟩ := refused
    exact {
      positive := some, within, result := .inr ⟨rfl, rfl⟩
      reset := by rintro ⟨⟩
      more := fun _ => more }
  · obtain ⟨rfl, rfl, rfl⟩ := refused
    exact .answered .ping Nat.one_pos (by omega) more
  · obtain ⟨rfl, rfl, rfl⟩ := refused
    exact .answered .ping some within more

/-- The answer to a command with a rate: a refusal, or what the command comes to. -/
def rated (cmd : UInt8) (rate : UInt32) (fullLen : Nat) (command : Command) (m : EtherDreamModel) :
    Nat × Reply × EtherDreamModel :=
  (m.checkRate cmd rate fullLen).getD
    (fullLen, .response ((m.execute command).2.respond (m.execute command).1 cmd), (m.execute command).2)

theorem step_begin (found : (do let _ ← readU16; readU32 : Reader UInt32).run arguments = some (rate, rest))
    (m : EtherDreamModel) :
    m.step (0x62 :: arguments) = some (m.rated 0x62 rate 7 (.begin 0 rate)) ∧
      m.step (0x75 :: arguments) = some (m.rated 0x75 rate 7 (.update 0 rate)) := by
  constructor
  · cases check : m.checkRate 0x62 rate 7 with
    | none => simp [step, found, rated, check, execute]
    | some => simp [step, found, rated, check]
  · cases check : m.checkRate 0x75 rate 7 with
    | none => simp [step, found, rated, check, execute]
    | some => simp [step, found, rated, check]

theorem step_queue (found : readU32.run arguments = some (rate, rest)) (m : EtherDreamModel) :
    m.step (0x71 :: arguments) = some (m.rated 0x71 rate 5 (.pointRate rate)) := by
  cases check : m.checkRate 0x71 rate 5 with
  | none => simp [step, found, rated, check, execute]
  | some => simp [step, found, rated, check]

theorem step_data {payload : List UInt8} {n : UInt16} {points : List DacPoint}
    (counted : readU16.run arguments = some (n, payload))
    (carried : (readMany DacPoint.read n.toNat).run payload = some (points, rest)) (m : EtherDreamModel) :
    m.step (0x64 :: arguments) = some (3 + n.toNat * DacPoint.sizeBytes,
      .response ((m.data points).2.respond (m.data points).1 0x64), (m.data points).2) := by
  simp [step, counted, carried]

theorem rated_stepped {cmd : UInt8} {read : Reader UInt32} {size : Nat} {command : Command} (sized : Sized read size)
    (found : read.run arguments = some (rate, rest))
    (shape : ∀ arguments rest, read.run arguments = some (rate, rest) →
      m.step (cmd :: arguments) = some (m.rated cmd rate (size + 1) command))
    (step : m.step (cmd :: arguments) = some (consumed, reply, after)) :
    Stepped m (cmd :: arguments) consumed reply after := by
  obtain ⟨enough, -, again⟩ := sized.more found
  have within : size + 1 ≤ (cmd :: arguments).length := Nat.succ_le_succ enough
  have comes : m.rated cmd rate (size + 1) command = (consumed, reply, after) :=
    Option.some.inj ((shape _ _ found).symm.trans step)
  have more (more : List UInt8) : m.step (cmd :: arguments ++ more) = some (consumed, reply, after) :=
    (shape _ _ (again more)).trans (congrArg some comes)
  unfold rated at comes
  cases check : m.checkRate cmd rate (size + 1) with
  | none =>
    rw [check] at comes
    obtain ⟨rfl, rfl, rfl⟩ := comes
    exact .answered command (Nat.succ_pos _) within more
  | some =>
    rw [check] at comes
    exact checkRate_stepped (check.trans (congrArg some comes)) (Nat.succ_pos _) within more

theorem step_stepped (step : m.step input = some (consumed, reply, after)) : Stepped m input consumed reply after := by
  cases input with
  | nil => cases step
  | cons cmd arguments =>
    have one : 1 ≤ (cmd :: arguments).length := by simp
    have whole := step
    simp only [EtherDreamModel.step] at step
    split_ifs at step with prepare begins queue data stop estop clear ping version unknown
    · obtain rfl := prepare
      obtain ⟨rfl, rfl, rfl⟩ := step
      exact .answered .prepareStream Nat.one_pos one fun more => rfl
    · cases found : (do let _ ← readU16; readU32 : Reader UInt32).run arguments with
      | none =>
        rw [found] at step
        cases step
      | some =>
        have sized : Sized (do let _ ← readU16; readU32) 6 := Sized.u16.bind fun _ => Sized.u32
        rcases begins with rfl | rfl
        · exact rated_stepped sized found (fun _ _ found => (step_begin found m).1) whole
        · exact rated_stepped sized found (fun _ _ found => (step_begin found m).2) whole
    · obtain rfl := queue
      cases found : readU32.run arguments with
      | none =>
        rw [found] at step
        cases step
      | some =>
        exact rated_stepped Sized.u32 found (fun _ _ found => step_queue found m) whole
    · obtain rfl := data
      cases counted : readU16.run arguments with
      | none =>
        rw [counted] at step
        cases step
      | some read =>
        obtain ⟨n, payload⟩ := read
        rw [counted] at step
        dsimp only at step
        cases carried : (readMany DacPoint.read n.toNat).run payload with
        | none =>
          rw [carried] at step
          cases step
        | some read =>
          obtain ⟨rfl, rfl, rfl⟩ := (step_data counted carried m).symm.trans whole
          obtain ⟨two, rfl, again⟩ := Sized.u16.more counted
          obtain ⟨enough, -, onward⟩ := (DacPoint.sized.many n.toNat).more carried
          rw [List.length_drop] at enough
          refine .answered (.data _) (by omega) ?_ fun more => step_data (again more) (onward more) m
          rw [List.length_cons]
          omega
    · obtain rfl := stop
      obtain ⟨rfl, rfl, rfl⟩ := step
      exact .answered .stop Nat.one_pos one fun more => rfl
    · obtain ⟨rfl, rfl, rfl⟩ := step
      refine .answered .emergencyStop Nat.one_pos one fun more => ?_
      rcases estop with rfl | rfl
      all_goals rfl
    · obtain rfl := clear
      obtain ⟨rfl, rfl, rfl⟩ := step
      exact .answered .clearEmergencyStop Nat.one_pos one fun more => rfl
    · obtain rfl := ping
      obtain ⟨rfl, rfl, rfl⟩ := step
      exact .answered .ping Nat.one_pos one fun more => rfl
    · obtain ⟨rfl, given⟩ := version
      obtain ⟨rfl, rfl, rfl⟩ := step
      exact {
        positive := Nat.one_pos, within := one, result := .inl ⟨by rintro ⟨⟩, .ping, rfl⟩
        reset := by rintro ⟨⟩
        more := fun _ more => by simp [EtherDreamModel.step, given] }
    · obtain ⟨rfl, rfl, rfl⟩ := step
      exact {
        positive := one, within := le_rfl, result := .inl ⟨by rintro ⟨⟩, .ping, rfl⟩
        reset := fun _ => ⟨cmd, rfl, unknown, by simp_all [opcodes], version⟩
        more := fun answered => absurd rfl answered }
    · obtain ⟨rfl, rfl, rfl⟩ := step
      refine .answered .ping Nat.one_pos one fun more => ?_
      simp only [EtherDreamModel.step, List.cons_append, if_neg prepare, if_neg begins, if_neg queue, if_neg data,
        if_neg stop, if_neg estop, if_neg clear, if_neg ping, if_neg version, if_neg unknown, execute]

theorem step_isSome (input : List UInt8) (m : EtherDreamModel) : (m.step input).isSome = commandComplete input := by
  cases input with
  | nil => rfl
  | cons cmd arguments =>
    by_cases begins : cmd = 0x62 ∨ cmd = 0x75
    · have sized : Sized (do let _ ← readU16; readU32) 6 := Sized.u16.bind fun _ => Sized.u32
      have complete : commandComplete (cmd :: arguments) = decide (6 ≤ arguments.length) := by
        simp [commandComplete, begins]
      rw [complete]
      by_cases enough : 6 ≤ arguments.length
      · obtain ⟨rate, -, found⟩ := sized.run enough
        rcases begins with rfl | rfl
        · simp [(step_begin found m).1, enough]
        · simp [(step_begin found m).2, enough]
      · have missing := sized.short arguments (Nat.lt_of_not_le enough)
        rcases begins with rfl | rfl
        all_goals simp [step, missing, enough]
    · by_cases queue : cmd = 0x71
      · obtain rfl := queue
        have complete : commandComplete (0x71 :: arguments) = decide (4 ≤ arguments.length) := by
          simp [commandComplete]
        rw [complete]
        by_cases enough : 4 ≤ arguments.length
        · obtain ⟨rate, -, found⟩ := Sized.u32.run enough
          simp [step_queue found m, enough]
        · simp [step, Sized.u32.short arguments (Nat.lt_of_not_le enough), enough]
      · by_cases data : cmd = 0x64
        · obtain rfl := data
          cases counted : readU16.run arguments with
          | none => simp [step, commandComplete, counted]
          | some read =>
            obtain ⟨n, payload⟩ := read
            have complete : commandComplete (0x64 :: arguments) =
                decide (n.toNat * DacPoint.sizeBytes ≤ payload.length) := by
              simp [commandComplete, counted]
            rw [complete]
            by_cases enough : n.toNat * DacPoint.sizeBytes ≤ payload.length
            · obtain ⟨points, -, carried⟩ := (DacPoint.sized.many n.toNat).run enough
              simp [step_data counted carried m, enough]
            · have missing := (DacPoint.sized.many n.toNat).short payload (Nat.lt_of_not_le enough)
              simp [step, counted, missing, enough]
        · have complete : commandComplete (cmd :: arguments) = true := by
            simp [commandComplete, begins, queue, data]
          rw [complete]
          simp only [step, if_neg begins, if_neg queue, if_neg data]
          split_ifs
          all_goals rfl

end EtherDreamModel

end LaserDac.EtherDream
