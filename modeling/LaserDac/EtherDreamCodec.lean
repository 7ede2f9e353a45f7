import LaserDac.EtherDreamSteps

/-!
The commands of the Ether Dream as a stream of bytes. The protocol's reader takes the commands off the stream as they
were written, and the simulated DAC cuts the stream at the same boundaries, in whatever state it is.
-/

namespace LaserDac.EtherDream

open Bytes EtherDreamModel

/-- `Begin::read_fields` and `Update::read_fields` -/
def Command.readBegin (command : UInt16 → UInt32 → Command) : Reader Command := do
  let lowWaterMark ← readU16
  let rate ← readU32
  return command lowWaterMark rate

/-- `PointRate::read_fields` -/
def Command.readPointRate : Reader Command := do
  let rate ← readU32
  return .pointRate rate

/-- `Data::read_fields` -/
def Command.readData : Reader Command := do
  let n ← readU16
  let points ← readMany DacPoint.read n.toNat
  return .data points

/-- `Command::read_from_bytes`; both start bytes of the emergency stop read as one command. -/
def Command.read : Reader Command := do
  let cmd ← readU8
  if cmd = 0x70 then return .prepareStream
  else if cmd = 0x62 then readBegin .begin
  else if cmd = 0x75 then readBegin .update
  else if cmd = 0x71 then readPointRate
  else if cmd = 0x64 then readData
  else if cmd = 0x73 then return .stop
  else if cmd = 0x00 then return .emergencyStop
  else if cmd = 0xFF then return .emergencyStop
  else if cmd = 0x63 then return .clearEmergencyStop
  else if cmd = 0x3F then return .ping
  else failure

/-- Read commands until nothing is left; every command takes a byte. -/
def Command.readAll : Nat → List UInt8 → Option (List Command)
  | _, [] => some []
  | 0, _ :: _ => none
  | fuel + 1, byte :: bytes =>
    match Command.read.run (byte :: bytes) with
    | none => none
    | some (command, rest) => (readAll fuel rest).map (command :: ·)

/-- `EmergencyStopAlt::START_BYTE` -/
def emergencyStopAlt : UInt8 := 0xFF

/-- The bytes are written for the command; for an emergency stop there are two ways. -/
def Command.Spells (command : Command) (bytes : List UInt8) : Prop :=
  command.write = some bytes ∨ command = .emergencyStop ∧ bytes = [emergencyStopAlt]

theorem Command.startByte_opcode (command : Command) : command.startByte ∈ opcodes := by
  cases command <;> simp [startByte, opcodes]

theorem Command.write_cons {command : Command} {bytes : List UInt8} (written : command.write = some bytes) :
    ∃ arguments, bytes = command.startByte :: arguments := by
  cases command with
  | data =>
    simp only [Command.write] at written
    split at written
    · cases written
    · exact ⟨_, (Option.some.inj written).symm⟩
  | _ => exact ⟨_, (Option.some.inj written).symm⟩

namespace Command.Spells

variable {command : Command} {bytes : List UInt8}

theorem reads_fields {cmd : UInt8} (fields : Reader Command) {arguments : List UInt8}
    (picks : ∀ rest, Command.read.run (cmd :: rest) = fields.run rest) (reads : Reads fields arguments command) :
    Reads Command.read (cmd :: arguments) command :=
  fun rest => (picks _).trans (reads rest)

theorem readBegin_reads (command : UInt16 → UInt32 → Command) (lowWaterMark : UInt16) (rate : UInt32) :
    Reads (readBegin command) (writeU16 lowWaterMark ++ writeU32 rate) (command lowWaterMark rate) :=
  (Reads.u16 lowWaterMark).bind ((Reads.u32 rate).map (command lowWaterMark))

theorem reads (spells : command.Spells bytes) : Reads Command.read bytes command := by
  rcases spells with written | ⟨rfl, rfl⟩
  · cases command with
    | data points =>
      simp only [Command.write] at written
      split at written
      · cases written
      · next few =>
        obtain rfl := Option.some.inj written
        have count : (UInt16.ofNat points.length).toNat = points.length := by
          rw [UInt16.toNat_ofNat']
          omega
        have carried := Reads.many DacPoint.reads points
        rw [← count] at carried
        exact reads_fields readData (fun rest => rfl) ((Reads.u16 _).bind (carried.map Command.data))
    | begin lowWaterMark rate =>
      obtain rfl := Option.some.inj written
      exact reads_fields (readBegin .begin) (fun rest => rfl) (readBegin_reads _ lowWaterMark rate)
    | update lowWaterMark rate =>
      obtain rfl := Option.some.inj written
      exact reads_fields (readBegin .update) (fun rest => rfl) (readBegin_reads _ lowWaterMark rate)
    | pointRate =>
      obtain rfl := Option.some.inj written
      exact reads_fields readPointRate (fun rest => rfl) ((Reads.u32 _).map Command.pointRate)
    | _ =>
      obtain rfl := Option.some.inj written
      exact fun rest => rfl
  · exact fun rest => rfl

theorem head (spells : command.Spells bytes) : ∃ byte ∈ opcodes, ∃ arguments, bytes = byte :: arguments := by
  rcases spells with written | ⟨-, rfl⟩
  · exact ⟨_, command.startByte_opcode, Command.write_cons written⟩
  · exact ⟨_, by decide, [], rfl⟩

end Command.Spells

variable {pieces : List (List UInt8)} {m : EtherDreamModel} {commands : List Command}

theorem Command.readAll_spelled (spelled : List.Forall₂ Command.Spells commands pieces) {fuel : Nat}
    (enough : pieces.flatten.length ≤ fuel) : Command.readAll fuel pieces.flatten = some commands := by
  induction spelled generalizing fuel with
  | nil =>
    cases fuel with
    | zero | succ => rfl
  | @cons command bytes commands pieces spells spelled ih =>
    obtain ⟨byte, -, arguments, rfl⟩ := spells.head
    rw [List.flatten_cons, List.cons_append, List.length_cons] at enough
    obtain ⟨fuel, rfl⟩ := Nat.exists_eq_succ_of_ne_zero (show fuel ≠ 0 by omega)
    have rest : Command.readAll fuel pieces.flatten = some commands := by
      rw [List.length_append] at enough
      exact ih (by omega)
    have read := spells.reads pieces.flatten
    rw [List.cons_append] at read
    rw [List.flatten_cons, List.cons_append, Command.readAll, read]
    simp only [rest, Option.map_some]

/-- How many bytes have to arrive until the command is complete. -/
def firstComplete (input : List UInt8) : Option Nat :=
  (List.range (input.length + 1)).find? fun count => commandComplete (input.take count)

/-- The lengths of the commands in a stream, as `command_complete` sees them. -/
def completeCuts : Nat → List UInt8 → List Nat
  | 0, _ => []
  | fuel + 1, input =>
    match firstComplete input with
    | none => []
    | some count => count :: completeCuts fuel (input.drop count)

/-- The lengths of the commands in a stream that a DAC takes in these states. -/
def stepCuts : List EtherDreamModel → List UInt8 → List Nat
  | [], _ => []
  | m :: states, input =>
    match m.step input with
    | none => []
    | some (consumed, _) => consumed :: stepCuts states (input.drop consumed)

variable {command : Command}

theorem Command.Spells.step {bytes : List UInt8} (spells : command.Spells bytes) (accepts : m.Accepts command)
    (rest : List UInt8) : ∃ reply after, m.step (bytes ++ rest) = some (bytes.length, reply, after) := by
  rcases spells with written | ⟨-, rfl⟩
  · exact ⟨_, _, step_write accepts written rest⟩
  · exact ⟨_, _, rfl⟩

theorem Command.Spells.step_part {bytes part rest : List UInt8} (spells : command.Spells bytes)
    (accepts : m.Accepts command) (cut : bytes = part ++ rest) (some : rest ≠ []) : m.step part = none := by
  obtain ⟨byte, known, arguments, starts⟩ := spells.head
  cases step : m.step part with
  | none => rfl
  | some taken =>
    obtain ⟨consumed, reply, after⟩ := taken
    have stepped := step_stepped step
    have answered : reply ≠ .reset := by
      intro reset
      obtain ⟨other, head, -, unknown, -⟩ := stepped.reset reset
      cases part with
      | nil => cases head
      | cons =>
        obtain rfl := Option.some.inj head
        rw [starts] at cut
        exact unknown ((List.cons.inj cut).1 ▸ known)
    have whole := stepped.more answered rest
    obtain ⟨_, _, full⟩ := spells.step accepts []
    rw [List.append_nil, cut] at full
    have same : consumed = (part ++ rest).length := (Prod.mk.inj (Option.some.inj (whole.symm.trans full))).1
    have within := stepped.within
    have length := List.length_pos_of_ne_nil some
    rw [List.length_append] at same
    omega

theorem Command.Spells.firstComplete {bytes : List UInt8} (spells : command.Spells bytes) (accepts : m.Accepts command)
    (rest : List UInt8) : firstComplete (bytes ++ rest) = some bytes.length := by
  have before (count : Nat) (short : count < bytes.length) :
      commandComplete ((bytes ++ rest).take count) = false := by
    rw [List.take_append_of_le_length short.le, ← step_isSome _ m,
      spells.step_part accepts (List.take_append_drop count bytes).symm (by simp; omega)]
    rfl
  have complete : commandComplete ((bytes ++ rest).take bytes.length) = true := by
    obtain ⟨reply, after, step⟩ := spells.step accepts []
    rw [List.append_nil] at step
    rw [List.take_left, ← step_isSome _ m, step]
    rfl
  refine List.find?_range_eq_some.mpr ⟨complete, ?_, fun count short => ?_⟩
  · rw [List.mem_range, List.length_append]
    omega
  · rw [before count short]
    rfl

theorem completeCuts_spelled (spelled : List.Forall₂ Command.Spells commands pieces)
    (accepts : ∀ command ∈ commands, m.Accepts command) {fuel : Nat} (enough : pieces.flatten.length ≤ fuel) :
    completeCuts fuel pieces.flatten = pieces.map List.length := by
  induction spelled generalizing fuel with
  | nil =>
    cases fuel with
    | zero | succ => rfl
  | @cons command bytes commands pieces spells spelled ih =>
    obtain ⟨byte, -, arguments, starts⟩ := spells.head
    have some : 0 < bytes.length := by
      rw [starts]
      exact Nat.succ_pos _
    rw [List.flatten_cons, List.length_append] at enough
    obtain ⟨fuel, rfl⟩ := Nat.exists_eq_succ_of_ne_zero (show fuel ≠ 0 by omega)
    rw [List.flatten_cons, completeCuts, spells.firstComplete (accepts command List.mem_cons_self)]
    dsimp only
    rw [List.drop_left, ih (fun other member => accepts other (List.mem_cons_of_mem _ member)) (by omega)]
    rfl

theorem stepCuts_spelled (spelled : List.Forall₂ Command.Spells commands pieces) {states : List EtherDreamModel}
    (each : states.length = pieces.length) (accepts : ∀ m ∈ states, ∀ command ∈ commands, m.Accepts command) :
    stepCuts states pieces.flatten = pieces.map List.length := by
  induction spelled generalizing states with
  | nil =>
    obtain rfl := List.length_eq_zero_iff.mp each
    rfl
  | @cons command bytes commands pieces spells spelled ih =>
    obtain ⟨m, states, rfl⟩ := List.exists_cons_of_length_eq_add_one each
    obtain ⟨reply, after, step⟩ := spells.step (accepts m List.mem_cons_self command List.mem_cons_self) pieces.flatten
    rw [List.flatten_cons, stepCuts, step]
    dsimp only
    rw [List.drop_left, ih (Nat.succ.inj each) fun m state other member =>
      accepts m (List.mem_cons_of_mem _ state) other (List.mem_cons_of_mem _ member)]
    rfl

/-- A stream of commands is read back as it was written, with nothing left. If the rates are in range, the simulated
DAC cuts it at the same boundaries, whatever states it is in; and in every state a command is taken as soon as it is
complete, and not before. -/
theorem commands_self_delimiting {commands : List Command} {pieces : List (List UInt8)}
    (spelled : List.Forall₂ Command.Spells commands pieces) :
    Command.readAll pieces.flatten.length pieces.flatten = some commands ∧
      (∀ states : List EtherDreamModel, states.length = pieces.length →
        (∀ m ∈ states, ∀ command ∈ commands, m.Accepts command) →
        completeCuts pieces.flatten.length pieces.flatten = pieces.map List.length ∧
          stepCuts states pieces.flatten = pieces.map List.length) ∧
      ∀ (m : EtherDreamModel) (input : List UInt8), (m.step input).isSome = commandComplete input := by
  refine ⟨Command.readAll_spelled spelled le_rfl, fun states each accepts => ⟨?_, ?_⟩,
    fun m input => step_isSome input m⟩
  · cases states with
    | nil =>
      obtain rfl := List.length_eq_zero_iff.mp each.symm
      rfl
    | cons m states => exact completeCuts_spelled spelled (accepts m List.mem_cons_self) le_rfl
  · exact stepCuts_spelled spelled each accepts

/-- A begin, a point and an emergency stop. -/
def threeCommands : List Command := [.begin 0 1000, .data [⟨1, 2, -3, 4, 5, 6, 7, 8, 9⟩], .emergencyStop]

/-- The bytes of these three commands. -/
def threePieces : List (List UInt8) :=
  [[0x62, 0, 0, 0xE8, 0x03, 0, 0],
    [0x64, 1, 0, 1, 0, 2, 0, 0xFD, 0xFF, 4, 0, 5, 0, 6, 0, 7, 0, 8, 0, 9, 0], [0xFF]]

/-- A begin, a point and an emergency stop by its other byte. -/
theorem commands_self_delimiting_three :
    List.Forall₂ Command.Spells threeCommands threePieces ∧
      Command.readAll 29 threePieces.flatten = some threeCommands ∧
      completeCuts 29 threePieces.flatten = [7, 21, 1] ∧
      stepCuts (List.replicate 3 (new .ed1J4cdac)) threePieces.flatten = [7, 21, 1] := by
  have spelled : List.Forall₂ Command.Spells threeCommands threePieces :=
    .cons (.inl (by decide)) (.cons (.inl (by decide)) (.cons (.inr ⟨rfl, rfl⟩) .nil))
  have accepts : ∀ m ∈ List.replicate 3 (new .ed1J4cdac), ∀ command ∈ threeCommands, m.Accepts command := by
    intro m member command listed rate carries
    obtain rfl := List.eq_of_mem_replicate member
    simp only [threeCommands, List.mem_cons, List.not_mem_nil, or_false] at listed
    rcases listed with rfl | rfl | rfl
    · obtain rfl := Option.some.inj carries
      decide
    · cases carries
    · cases carries
  obtain ⟨read, cuts, -⟩ := commands_self_delimiting spelled
  exact ⟨spelled, read, cuts _ rfl accepts⟩

end LaserDac.EtherDream
