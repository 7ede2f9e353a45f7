import Mathlib

/-!
Fixed-width little-endian words as lists of bytes, and readers that take values off the front of one. `Reads` says
that a reader takes exactly these bytes for this value, `Sized` how many it takes whatever they are.
-/

namespace LaserDac.Bytes

/-- A reader takes a value off the front of the bytes, and fails if they run out. -/
abbrev Reader := StateT (List UInt8) Option

variable {α β : Type}

def readU8 : Reader UInt8
  | [] => none
  | byte :: rest => some (byte, rest)

def writeU16 (value : UInt16) : List UInt8 := [value.toUInt8, (value >>> 8).toUInt8]

def readU16 : Reader UInt16 := do
  let low ← readU8
  let high ← readU8
  return UInt16.ofNat (low.toNat + 256 * high.toNat)

def writeI16 (value : Int16) : List UInt8 := writeU16 value.toUInt16

def readI16 : Reader Int16 := do
  let value ← readU16
  return value.toInt16

def writeU32 (value : UInt32) : List UInt8 :=
  [value.toUInt8, (value >>> 8).toUInt8, (value >>> 16).toUInt8, (value >>> 24).toUInt8]

def readU32 : Reader UInt32 := do
  let first ← readU8
  let second ← readU8
  let third ← readU8
  let fourth ← readU8
  return UInt32.ofNat (first.toNat + 256 * second.toNat + 65536 * third.toNat + 16777216 * fourth.toNat)

def readMany (read : Reader α) : Nat → Reader (List α)
  | 0 => return []
  | count + 1 => do
    let value ← read
    let rest ← readMany read count
    return value :: rest

/-- The reader takes these bytes for this value, whatever follows them. -/
def Reads (read : Reader α) (bytes : List UInt8) (value : α) : Prop :=
  ∀ rest, read.run (bytes ++ rest) = some (value, rest)

variable {read : Reader α} {bytes : List UInt8} {size : Nat}

namespace Reads

theorem pure (value : α) : Reads (pure value) [] value := fun _ => rfl

theorem bind {next : α → Reader β} {first second : List UInt8} {a : α} {b : β} (reads : Reads read first a)
    (onward : Reads (next a) second b) : Reads (read >>= next) (first ++ second) b := by
  intro rest
  rw [List.append_assoc, StateT.run_bind, reads]
  exact onward rest

theorem map {a : α} (reads : Reads read bytes a) (f : α → β) : Reads (do let a ← read; return f a) bytes (f a) := by
  intro rest
  rw [StateT.run_bind, reads]
  rfl

theorem u16 (value : UInt16) : Reads readU16 (writeU16 value) value := by
  have joined : UInt16.ofNat (value.toUInt8.toNat + 256 * (value >>> 8).toUInt8.toNat) = value := by
    apply UInt16.toNat_inj.mp
    have bound := value.toNat_lt
    simp only [UInt16.toNat_ofNat', UInt16.toNat_toUInt8, UInt16.toNat_shiftRight, Nat.shiftRight_eq_div_pow,
      UInt16.reduceToNat, Nat.reduceMod, Nat.reducePow]
    omega
  exact fun rest => congrArg (fun value => some (value, rest)) joined

theorem i16 (value : Int16) : Reads readI16 (writeI16 value) value := by
  have read := (u16 value.toUInt16).map UInt16.toInt16
  rwa [Int16.toInt16_toUInt16] at read

theorem u32 (value : UInt32) : Reads readU32 (writeU32 value) value := by
  have joined : UInt32.ofNat (value.toUInt8.toNat + 256 * (value >>> 8).toUInt8.toNat +
      65536 * (value >>> 16).toUInt8.toNat + 16777216 * (value >>> 24).toUInt8.toNat) = value := by
    apply UInt32.toNat_inj.mp
    have bound := value.toNat_lt
    simp only [UInt32.toNat_ofNat', UInt32.toNat_toUInt8, UInt32.toNat_shiftRight, Nat.shiftRight_eq_div_pow,
      UInt32.reduceToNat, Nat.reduceMod, Nat.reducePow]
    omega
  exact fun rest => congrArg (fun value => some (value, rest)) joined

theorem run_bind {a : α} (reads : Reads read bytes a) (next : α → Reader β) (rest : List UInt8) :
    (read >>= next).run (bytes ++ rest) = (next a).run rest := by
  rw [StateT.run_bind, reads]
  rfl

theorem many_mem {write : α → List UInt8} {values : List α} (each : ∀ value ∈ values, Reads read (write value) value) :
    Reads (readMany read values.length) (values.flatMap write) values := by
  induction values with
  | nil => exact .pure []
  | cons value values ih =>
    have rest := ih fun other member => each other (List.mem_cons_of_mem _ member)
    exact (each value List.mem_cons_self).bind (rest.map (value :: ·))

theorem many {write : α → List UInt8} (each : ∀ value, Reads read (write value) value) (values : List α) :
    Reads (readMany read values.length) (values.flatMap write) values :=
  many_mem fun value _ => each value

end Reads

/-- The reader takes so many bytes, whatever they are, and fails if there are fewer. -/
structure Sized (read : Reader α) (size : Nat) : Prop where
  enough : ∀ bytes : List UInt8, bytes.length = size → ∃ value, Reads read bytes value
  short : ∀ bytes : List UInt8, bytes.length < size → read.run bytes = none

namespace Sized

theorem pure (value : α) : Sized (pure value) 0 where
  enough bytes none_ := by
    rw [List.length_eq_zero_iff.mp none_]
    exact ⟨value, .pure value⟩
  short bytes fewer := absurd fewer (Nat.not_lt_zero _)

theorem u8 : Sized readU8 1 where
  enough bytes one := by
    obtain ⟨byte, rfl⟩ := List.length_eq_one_iff.mp one
    exact ⟨byte, fun rest => rfl⟩
  short bytes fewer := by
    rw [List.length_eq_zero_iff.mp (Nat.lt_one_iff.mp fewer)]
    rfl

theorem run (sized : Sized read size) (enough : size ≤ bytes.length) : ∃ value, Reads read (bytes.take size) value ∧
      read.run bytes = some (value, bytes.drop size) := by
  obtain ⟨value, reads⟩ := sized.enough (bytes.take size) (List.length_take_of_le enough)
  have found := reads (bytes.drop size)
  rw [List.take_append_drop] at found
  exact ⟨value, reads, found⟩

theorem bind {next : α → Reader β} {first second : Nat} (sized : Sized read first)
    (onward : ∀ value, Sized (next value) second) : Sized (read >>= next) (first + second) where
  enough bytes length := by
    obtain ⟨a, reads, -⟩ := sized.run (length.symm ▸ Nat.le_add_right first second)
    obtain ⟨b, rest⟩ := (onward a).enough (bytes.drop first) (by rw [List.length_drop]; omega)
    have both := reads.bind rest
    rw [List.take_append_drop] at both
    exact ⟨b, both⟩
  short bytes fewer := by
    rcases Nat.lt_or_ge bytes.length first with missing | present
    · rw [StateT.run_bind, sized.short bytes missing]
      rfl
    · obtain ⟨a, -, found⟩ := sized.run present
      rw [StateT.run_bind, found]
      exact (onward a).short _ (by rw [List.length_drop]; omega)

theorem u16 : Sized readU16 2 := u8.bind fun _ => u8.bind fun _ => pure _

theorem i16 : Sized readI16 2 := u16.bind fun _ => pure _

theorem u32 : Sized readU32 4 := u8.bind fun _ => u8.bind fun _ => u8.bind fun _ => u8.bind fun _ => pure _

theorem many (sized : Sized read size) (count : Nat) : Sized (readMany read count) (count * size) := by
  induction count with
  | zero =>
    rw [Nat.zero_mul]
    exact pure []
  | succ count ih =>
    rw [Nat.succ_mul, Nat.add_comm (count * size)]
    exact sized.bind fun _ => ih.bind fun _ => pure _

theorem more (sized : Sized read size) {rest : List UInt8} {value : α} (found : read.run bytes = some (value, rest)) :
    size ≤ bytes.length ∧ rest = bytes.drop size ∧
      ∀ more, read.run (bytes ++ more) = some (value, rest ++ more) := by
  rcases Nat.lt_or_ge bytes.length size with missing | present
  · rw [sized.short bytes missing] at found
    cases found
  · obtain ⟨other, reads, same⟩ := sized.run present
    obtain ⟨rfl, rfl⟩ := Prod.mk.inj (Option.some.inj (same.symm.trans found))
    refine ⟨present, rfl, fun more => ?_⟩
    rw [← reads, ← List.append_assoc, List.take_append_drop]

end Sized

section

variable (rest : List UInt8)

theorem run_readU8_bind (next : UInt8 → Reader β) (value : UInt8) :
    (readU8 >>= next).run (value :: rest) = (next value).run rest := rfl

theorem run_readU16_bind (next : UInt16 → Reader β) (value : UInt16) :
    (readU16 >>= next).run (writeU16 value ++ rest) = (next value).run rest := (Reads.u16 value).run_bind next rest

theorem run_readI16_bind (next : Int16 → Reader β) (value : Int16) :
    (readI16 >>= next).run (writeI16 value ++ rest) = (next value).run rest := (Reads.i16 value).run_bind next rest

theorem run_readU32_bind (next : UInt32 → Reader β) (value : UInt32) :
    (readU32 >>= next).run (writeU32 value ++ rest) = (next value).run rest := (Reads.u32 value).run_bind next rest

end

@[simp] theorem writeU16_length (value : UInt16) : (writeU16 value).length = 2 := rfl

@[simp] theorem writeI16_length (value : Int16) : (writeI16 value).length = 2 := rfl

@[simp] theorem writeU32_length (value : UInt32) : (writeU32 value).length = 4 := rfl

end LaserDac.Bytes
