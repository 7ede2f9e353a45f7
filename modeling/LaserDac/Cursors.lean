import Mathlib

/-!
Big-endian numbers as lists of bytes, and readers that move a cursor through a buffer. `Takes` says that a reader
finds its bytes at the cursor and moves past them, `Advances` how far it moves whatever it finds.
-/

namespace LaserDac.Cursors

/-- The last bytes of a number, the most significant one first. -/
def toBe : Nat → Nat → List UInt8
  | 0, _ => []
  | count + 1, value => toBe count (value / 256) ++ [UInt8.ofNat value]

def fromBe (bytes : List UInt8) : Nat := bytes.foldl (fun value byte => 256 * value + byte.toNat) 0

variable (count : Nat) {bytes : List UInt8}

@[simp] theorem toBe_length (value : Nat) : (toBe count value).length = count := by
  induction count generalizing value with
  | zero => rfl
  | succ count ih => rw [toBe, List.length_append, ih]; rfl

theorem fromBe_toBe (value : Nat) : fromBe (toBe count value) = value % 256 ^ count := by
  induction count generalizing value with
  | zero => exact (Nat.mod_one value).symm
  | succ count ih =>
    rw [toBe, fromBe, List.foldl_append, ← fromBe, ih]
    change 256 * (value / 256 % 256 ^ count) + value % 256 = _
    rw [Nat.pow_succ', Nat.mod_mul, Nat.add_comm]

/-- A position in a buffer. -/
structure Cursor where
  data : List UInt8
  position : Nat
  deriving DecidableEq, Repr

variable {cursor after : Cursor}

namespace Cursor

def ahead (cursor : Cursor) : List UInt8 := cursor.data.drop cursor.position

def advance (count : Nat) (cursor : Cursor) : Cursor := { cursor with position := cursor.position + count }

@[simp] theorem advance_data (cursor : Cursor) : (cursor.advance count).data = cursor.data := rfl

@[simp] theorem advance_position (cursor : Cursor) : (cursor.advance count).position = cursor.position + count := rfl

theorem advance_advance (first second : Nat) (cursor : Cursor) :
    (cursor.advance first).advance second = cursor.advance (first + second) := by
  simp [advance, Nat.add_assoc]

theorem ahead_advance {rest : List UInt8} (found : cursor.ahead = bytes ++ rest) :
    (cursor.advance bytes.length).ahead = rest := by
  rw [ahead, advance_data, advance_position, ← List.drop_drop, ← ahead, found, List.drop_left]

/-- These bytes, and no others, are left of the buffer. -/
structure Left (cursor : Cursor) (bytes : List UInt8) : Prop where
  ahead : cursor.ahead = bytes
  length : cursor.position + bytes.length = cursor.data.length

end Cursor

/-- A reader returns a value and moves the cursor, and fails if the buffer ends. -/
abbrev Reader := StateT Cursor Option

variable {α β : Type}

def readExact (count : Nat) : Reader (List UInt8) := fun cursor =>
  if count ≤ cursor.ahead.length then some (cursor.ahead.take count, cursor.advance count) else none

def readU8 : Reader UInt8 := do
  let bytes ← readExact 1
  return UInt8.ofNat (fromBe bytes)

def readU16 : Reader UInt16 := do
  let bytes ← readExact 2
  return UInt16.ofNat (fromBe bytes)

def readI16 : Reader Int16 := do
  let bytes ← readExact 2
  return (UInt16.ofNat (fromBe bytes)).toInt16

def readU32 : Reader UInt32 := do
  let bytes ← readExact 4
  return UInt32.ofNat (fromBe bytes)

def beAt (data : List UInt8) (start count : Nat) : Nat := fromBe ((data.drop start).take count)

def readMany (read : Reader α) : Nat → Reader (List α)
  | 0 => return []
  | count + 1 => do
    let value ← read
    let rest ← readMany read count
    return value :: rest

def writeU8 (value : UInt8) : List UInt8 := [value]

def writeU16 (value : UInt16) : List UInt8 := toBe 2 value.toNat

def writeI16 (value : Int16) : List UInt8 := toBe 2 value.toUInt16.toNat

def writeU32 (value : UInt32) : List UInt8 := toBe 4 value.toNat

@[simp] theorem writeU16_length (value : UInt16) : (writeU16 value).length = 2 := rfl

@[simp] theorem writeI16_length (value : Int16) : (writeI16 value).length = 2 := rfl

@[simp] theorem writeU32_length (value : UInt32) : (writeU32 value).length = 4 := rfl

theorem beAt_append (before rest : List UInt8) {count value : Nat} (small : value < 256 ^ count) :
    beAt (before ++ (toBe count value ++ rest)) before.length count = value := by
  have length : (toBe count value).length = count := toBe_length count value
  rw [beAt, List.drop_left, List.take_left' length, fromBe_toBe, Nat.mod_eq_of_lt small]

theorem beAt_writeU16 (before rest : List UInt8) (value : UInt16) :
    beAt (before ++ (writeU16 value ++ rest)) before.length 2 = value.toNat := beAt_append before rest value.toNat_lt

theorem beAt_writeU32 (before rest : List UInt8) (value : UInt32) :
    beAt (before ++ (writeU32 value ++ rest)) before.length 4 = value.toNat := beAt_append before rest value.toNat_lt

variable {read : Reader α}

section

variable {data : List UInt8} {position : Nat}

theorem run_readExact {count : Nat} (room : position + count ≤ data.length) :
    (readExact count).run ⟨data, position⟩ = some ((data.drop position).take count, ⟨data, position + count⟩) := by
  have ahead : count ≤ (Cursor.mk data position).ahead.length := by
    rw [Cursor.ahead, List.length_drop]
    exact Nat.le_sub_of_add_le' room
  change (if _ then _ else _) = _
  rw [if_pos ahead]
  rfl

theorem run_readU8 (room : position + 1 ≤ data.length) :
    readU8.run ⟨data, position⟩ = some (UInt8.ofNat (beAt data position 1), ⟨data, position + 1⟩) := by
  rw [readU8, StateT.run_bind, run_readExact room]
  rfl

theorem run_readU16 (room : position + 2 ≤ data.length) :
    readU16.run ⟨data, position⟩ = some (UInt16.ofNat (beAt data position 2), ⟨data, position + 2⟩) := by
  rw [readU16, StateT.run_bind, run_readExact room]
  rfl

theorem run_readI16 (room : position + 2 ≤ data.length) :
    readI16.run ⟨data, position⟩ = some ((UInt16.ofNat (beAt data position 2)).toInt16, ⟨data, position + 2⟩) := by
  rw [readI16, StateT.run_bind, run_readExact room]
  rfl

theorem run_readMany {size : Nat}
    (each : ∀ position, position + size ≤ data.length →
      ∃ value, read.run ⟨data, position⟩ = some (value, ⟨data, position + size⟩)) (count : Nat)
    (room : position + count * size ≤ data.length) :
    ∃ values, (readMany read count).run ⟨data, position⟩ = some (values, ⟨data, position + count * size⟩) := by
  induction count generalizing position with
  | zero => exact ⟨[], by rw [Nat.zero_mul]; rfl⟩
  | succ count ih =>
    rw [Nat.succ_mul] at room ⊢
    obtain ⟨value, first⟩ := each position (by omega)
    obtain ⟨values, rest⟩ := ih (by omega : position + size + count * size ≤ data.length)
    refine ⟨value :: values, ?_⟩
    rw [readMany, StateT.run_bind, first]
    change (readMany read count >>= fun rest => pure (value :: rest)).run _ = _
    rw [StateT.run_bind, rest, Nat.add_comm (count * size), ← Nat.add_assoc]
    rfl

end

/-- With these bytes ahead the reader returns this value and moves past them. -/
def Takes (read : Reader α) (bytes : List UInt8) (value : α) : Prop :=
  ∀ (cursor : Cursor) (rest : List UInt8), cursor.ahead = bytes ++ rest →
    read.run cursor = some (value, cursor.advance bytes.length)

namespace Takes

theorem left {rest : List UInt8} {value : α} (takes : Takes read bytes value) (left : cursor.Left (bytes ++ rest)) :
    read.run cursor = some (value, cursor.advance bytes.length) ∧ (cursor.advance bytes.length).Left rest := by
  refine ⟨takes cursor rest left.ahead, Cursor.ahead_advance left.ahead, ?_⟩
  have length := left.length
  rw [List.length_append] at length
  rw [Cursor.advance_position, Cursor.advance_data]
  omega

theorem pure (value : α) : Takes (pure value) [] value := fun _ _ _ => rfl

theorem bind {next : α → Reader β} {first second : List UInt8} {a : α} {b : β} (takes : Takes read first a)
    (onward : Takes (next a) second b) : Takes (read >>= next) (first ++ second) b := by
  intro cursor rest found
  rw [List.append_assoc] at found
  rw [StateT.run_bind, takes cursor _ found]
  change (next a).run (cursor.advance first.length) = _
  rw [onward _ rest (Cursor.ahead_advance found), Cursor.advance_advance, List.length_append]

theorem map {a : α} (takes : Takes read bytes a) (f : α → β) : Takes (do let a ← read; return f a) bytes (f a) := by
  have both : Takes (read >>= fun a => Pure.pure (f a)) (bytes ++ []) (f a) := takes.bind (.pure (f a))
  rwa [List.append_nil] at both

theorem exact (bytes : List UInt8) : Takes (readExact bytes.length) bytes bytes := by
  intro cursor rest found
  have room : bytes.length ≤ cursor.ahead.length := by
    rw [found, List.length_append]
    exact Nat.le_add_right _ _
  change (if _ then _ else _) = _
  rw [if_pos room, found, List.take_left]

theorem be (value : Nat) (small : value < 256 ^ count) (decode : Nat → α) :
    Takes (do let bytes ← readExact count; return decode (fromBe bytes)) (toBe count value) (decode value) := by
  have takes := (exact (toBe count value)).map fun bytes => decode (fromBe bytes)
  rwa [toBe_length, fromBe_toBe, Nat.mod_eq_of_lt small] at takes

theorem u8 (value : UInt8) : Takes readU8 (writeU8 value) value := by
  have takes := be 1 value.toNat value.toNat_lt UInt8.ofNat
  have written : toBe 1 value.toNat = writeU8 value := by simp [toBe, writeU8]
  rwa [UInt8.ofNat_toNat, written] at takes

theorem u16 (value : UInt16) : Takes readU16 (writeU16 value) value := by
  have takes := be 2 value.toNat value.toNat_lt UInt16.ofNat
  rwa [UInt16.ofNat_toNat] at takes

theorem i16 (value : Int16) : Takes readI16 (writeI16 value) value := by
  have takes := be 2 value.toUInt16.toNat value.toUInt16.toNat_lt fun value => (UInt16.ofNat value).toInt16
  rwa [UInt16.ofNat_toNat, Int16.toInt16_toUInt16] at takes

theorem u32 (value : UInt32) : Takes readU32 (writeU32 value) value := by
  have takes := be 4 value.toNat value.toNat_lt UInt32.ofNat
  rwa [UInt32.ofNat_toNat] at takes

theorem many {γ : Type} {write : γ → List UInt8} {value : γ → α} (each : ∀ c, Takes read (write c) (value c))
    (written : List γ) : Takes (readMany read written.length) (written.flatMap write) (written.map value) := by
  induction written with
  | nil => exact .pure []
  | cons c written ih => exact (each c).bind (ih.map (value c :: ·))

end Takes

/-- Whatever it finds, the reader moves this far, and not past the end. -/
def Advances (count : Nat) (read : Reader α) : Prop :=
  ∀ ⦃cursor : Cursor⦄ ⦃value : α⦄ ⦃after : Cursor⦄, read.run cursor = some (value, after) →
    count ≤ cursor.ahead.length ∧ after = cursor.advance count

namespace Advances

theorem pure (value : α) : Advances 0 (pure value : Reader α) := by
  intro cursor _ after read
  obtain ⟨rfl, rfl⟩ := Prod.mk.inj (Option.some.inj read)
  exact ⟨Nat.zero_le _, rfl⟩

theorem trans {next : Reader β} {first second : Nat} {middle : Cursor} {a : α} {b : β} (advances : Advances first read)
    (head : read.run cursor = some (a, middle)) (onward : Advances second next)
    (tail : next.run middle = some (b, after)) :
    first + second ≤ cursor.ahead.length ∧ after = cursor.advance (first + second) := by
  obtain ⟨room, rfl⟩ := advances head
  obtain ⟨more, rfl⟩ := onward tail
  refine ⟨?_, Cursor.advance_advance _ _ _⟩
  rw [Cursor.ahead, Cursor.advance_data, Cursor.advance_position, ← List.drop_drop, List.length_drop] at more
  change second ≤ cursor.ahead.length - first at more
  omega

theorem bind {next : α → Reader β} {first second : Nat} (advances : Advances first read)
    (onward : ∀ a, Advances second (next a)) : Advances (first + second) (read >>= next) := by
  intro cursor b last run
  rw [StateT.run_bind] at run
  obtain ⟨⟨a, middle⟩, head, tail⟩ := Option.bind_eq_some_iff.mp run
  exact advances.trans head (onward a) tail

theorem map {count : Nat} (advances : Advances count read) (f : α → β) :
    Advances count (do let a ← read; return f a) := advances.bind fun a => .pure (f a)

theorem exact : Advances count (readExact count) := by
  intro cursor value after read
  change (if count ≤ cursor.ahead.length then _ else _) = _ at read
  split at read
  · next room =>
    obtain ⟨-, rfl⟩ := Prod.mk.inj (Option.some.inj read)
    exact ⟨room, rfl⟩
  · cases read

theorem u8 : Advances 1 readU8 := (exact 1).map _

theorem u16 : Advances 2 readU16 := (exact 2).map _

theorem i16 : Advances 2 readI16 := (exact 2).map _

theorem u32 : Advances 4 readU32 := (exact 4).map _

theorem many {size : Nat} (each : Advances size read) (count : Nat) :
    Advances (count * size) (readMany read count) := by
  induction count with
  | zero => rw [Nat.zero_mul]; exact .pure []
  | succ count ih =>
    rw [Nat.succ_mul, Nat.add_comm]
    exact each.bind fun value => ih.map (value :: ·)

/-- A cursor inside its buffer stays inside. -/
theorem inside {count : Nat} (advances : Advances count read) {value : α} (run : read.run cursor = some (value, after))
    (within : cursor.position ≤ cursor.data.length) : after.position ≤ after.data.length := by
  obtain ⟨room, rfl⟩ := advances run
  rw [Cursor.ahead, List.length_drop] at room
  rw [Cursor.advance_position, Cursor.advance_data]
  omega

end Advances

theorem readMany_length {count : Nat} {values : List α} (run : (readMany read count).run cursor = some (values, after))
    : values.length = count := by
  induction count generalizing cursor values after with
  | zero =>
    obtain ⟨rfl, -⟩ := Prod.mk.inj (Option.some.inj run)
    rfl
  | succ count ih =>
    obtain ⟨⟨value, middle⟩, -, rest⟩ := Option.bind_eq_some_iff.mp run
    obtain ⟨⟨values, last⟩, tail, done⟩ := Option.bind_eq_some_iff.mp rest
    obtain ⟨rfl, -⟩ := Prod.mk.inj (Option.some.inj done)
    rw [List.length_cons, ih tail]

end LaserDac.Cursors
