import LaserDac.Bytes
import LaserDac.Points
import LaserDac.World

/-!
The frames of the Helios. A point takes seven bytes, its two coordinates sharing three of them. A transfer whose
length is a multiple of 64 bytes is avoided by leaving out the last point and lowering the rate, so that the frame
plays as long as before.
-/

namespace LaserDac.Helios

open Bytes

structure Coordinate where
  x : UInt16
  y : UInt16
  deriving DecidableEq, Repr

structure Color where
  r : UInt8
  g : UInt8
  b : UInt8
  deriving DecidableEq, Repr

structure Point where
  coordinate : Coordinate
  color : Color
  intensity : UInt8
  deriving DecidableEq, Repr

/-- A coordinate of 12 bits. -/
def Coordinate.Narrow (coordinate : Coordinate) : Prop := coordinate.x < 4096 ∧ coordinate.y < 4096

instance (coordinate : Coordinate) : Decidable coordinate.Narrow := inferInstanceAs (Decidable (_ ∧ _))

/-- `HELIOS_MAX_POINTS` -/
def heliosMaxPoints : Nat := 4095

/-- The rate and the number of points of a frame, so that its transfer has no multiple of 64 bytes. -/
def adjustedFrameParams (requestedPps : UInt32) (requestedPoints : Nat) : UInt32 × Nat :=
  if requestedPoints ≥ 45 ∧ (requestedPoints - 45) % 64 = 0 then
    let actualPoints := requestedPoints - 1
    let ppsActual := (requestedPps.toNat * actualPoints + requestedPoints / 2) / requestedPoints
    (UInt32.ofNat ppsActual, actualPoints)
  else (requestedPps, requestedPoints)

def encodePoint (point : Point) : List UInt8 :=
  [(point.coordinate.x >>> 4).toUInt8,
    ((point.coordinate.x &&& 0x0F) <<< 4).toUInt8 ||| (point.coordinate.y >>> 8).toUInt8,
    (point.coordinate.y &&& 0xFF).toUInt8, point.color.r, point.color.g, point.color.b, point.intensity]

/-- The bytes of a transfer; points beyond the maximum are left out. -/
def encodeFrameInto (pps : UInt32) (points : List Point) (flags : UInt8) : List UInt8 :=
  let requestedPoints := min points.length heliosMaxPoints
  let (ppsActual, numOfPointsActual) := adjustedFrameParams pps requestedPoints
  (points.take numOfPointsActual).flatMap encodePoint ++
    [(ppsActual &&& 0xFF).toUInt8, (ppsActual >>> 8).toUInt8, UInt8.ofNat (numOfPointsActual &&& 0xFF),
      UInt8.ofNat (numOfPointsActual >>> 8), flags]

/-- `WriteFrameFlags::SINGLE_MODE` -/
def singleMode : UInt8 := 0x2

/-- `color_to_u8` -/
def colorToU8 (value : UInt16) : UInt8 := UInt8.ofNat ((value.toNat * 255 + 32767) / 65535)

/-- The point for a laser point. How a coordinate is converted is left to `coordinate`, which stands for
`coord_to_u12_inverted`. -/
def Point.ofLaserPoint (coordinate : UInt32 → UInt16) (p : LaserPoint) : Point where
  coordinate := { x := coordinate p.x, y := coordinate p.y }
  color := { r := colorToU8 p.r, g := colorToU8 p.g, b := colorToU8 p.b }
  intensity := colorToU8 p.intensity

/-- `default_capabilities` -/
def defaultCapabilities : DacCapabilities where
  ppsMin := 7
  ppsMax := 65535
  maxPointsPerChunk := 4095
  outputModel := .usbFrameSwap

/-- The rate that is sent, within the device's range. -/
def clampPps (caps : DacCapabilities) (pps : UInt32) : UInt32 :=
  UInt32.ofNat (max caps.ppsMin (min pps.toNat caps.ppsMax))

/-- The rate, the number of points and the bytes of a frame that the backend sends. -/
def prepareFrameBuffer (caps : DacCapabilities) (coordinate : UInt32 → UInt16) (pps : UInt32)
    (points : List LaserPoint) : UInt32 × Nat × List UInt8 :=
  let points := points.take caps.maxPointsPerChunk
  let pps := clampPps caps pps
  (pps, points.length, encodeFrameInto pps (points.map (Point.ofLaserPoint coordinate)) singleMode)

/-- Seven bytes of a frame, as the device takes them: the two coordinates, the colour and the intensity. -/
def readPoint : Reader Point := do
  let first ← readU8
  let second ← readU8
  let third ← readU8
  let r ← readU8
  let g ← readU8
  let b ← readU8
  let intensity ← readU8
  return {
    coordinate := {
      x := UInt16.ofNat (first.toNat * 16 + second.toNat / 16)
      y := UInt16.ofNat (second.toNat % 16 * 256 + third.toNat) }
    color := { r, g, b }
    intensity }

structure Footer where
  pps : UInt16
  points : UInt16
  flags : UInt8
  deriving DecidableEq, Repr

def readFooter : Reader Footer := do
  let pps ← readU16
  let points ← readU16
  let flags ← readU8
  return { pps, points, flags }

/-- The points and the footer of a frame that has nothing else in it. -/
def decodeFrame (bytes : List UInt8) : Option (List Point × Footer) :=
  match readFooter.run (bytes.drop (bytes.length - 5)) with
  | some (footer, []) =>
    match (readMany readPoint footer.points.toNat).run (bytes.take (bytes.length - 5)) with
    | some (points, []) => some (points, footer)
    | _ => none
  | _ => none

theorem encodePoint_reads {point : Point} (narrow : point.coordinate.Narrow) :
    Reads readPoint (encodePoint point) point := by
  obtain ⟨⟨x, y⟩, ⟨r, g, b⟩, intensity⟩ := point
  obtain ⟨xNarrow, yNarrow⟩ := narrow
  dsimp only at xNarrow yNarrow
  have xBound : x.toNat < 4096 := by simpa using UInt16.lt_iff_toNat_lt.mp xNarrow
  have yBound : y.toNat < 4096 := by simpa using UInt16.lt_iff_toNat_lt.mp yNarrow
  have shared : ((((x &&& 0x0F) <<< 4).toUInt8 ||| (y >>> 8).toUInt8) : UInt8).toNat =
      x.toNat % 16 * 16 + y.toNat / 256 := by
    have low : x.toNat &&& 15 = x.toNat % 16 := Nat.and_two_pow_sub_one_eq_mod _ 4
    have joined := Nat.shiftLeft_add_eq_or_of_lt (show y.toNat / 256 < 2 ^ 4 by omega) (x.toNat % 16)
    rw [Nat.shiftLeft_eq] at joined
    simp only [UInt8.toNat_or, UInt16.toNat_toUInt8, UInt16.toNat_shiftLeft, UInt16.toNat_shiftRight, UInt16.toNat_and,
      Nat.shiftRight_eq_div_pow, Nat.shiftLeft_eq, UInt16.reduceToNat, Nat.reduceMod, Nat.reducePow, low] at joined ⊢
    rw [joined]
    congr 1
    all_goals omega
  have xJoined : UInt16.ofNat ((x >>> 4).toUInt8.toNat * 16 +
      (((x &&& 0x0F) <<< 4).toUInt8 ||| (y >>> 8).toUInt8 : UInt8).toNat / 16) = x := by
    apply UInt16.toNat_inj.mp
    rw [shared]
    simp only [UInt16.toNat_ofNat', UInt16.toNat_toUInt8, UInt16.toNat_shiftRight, Nat.shiftRight_eq_div_pow,
      UInt16.reduceToNat, Nat.reduceMod, Nat.reducePow]
    omega
  have yJoined : UInt16.ofNat ((((x &&& 0x0F) <<< 4).toUInt8 ||| (y >>> 8).toUInt8 : UInt8).toNat % 16 * 256 +
      (y &&& 0xFF).toUInt8.toNat) = y := by
    apply UInt16.toNat_inj.mp
    rw [shared]
    have low : y.toNat &&& 255 = y.toNat % 256 := Nat.and_two_pow_sub_one_eq_mod _ 8
    simp only [UInt16.toNat_ofNat', UInt16.toNat_toUInt8, UInt16.toNat_and, UInt16.reduceToNat, Nat.reducePow, low]
    omega
  intro rest
  change some (Point.mk ⟨UInt16.ofNat _, UInt16.ofNat _⟩ ⟨r, g, b⟩ intensity, rest) = _
  rw [xJoined, yJoined]

theorem encodePoint_length (point : Point) : (encodePoint point).length = 7 := rfl

variable {pps : UInt32}

theorem footer_reads {points : Nat} (ppsFits : pps.toNat < 65536) (pointsFit : points < 65536) (flags : UInt8) :
    Reads readFooter
      [(pps &&& 0xFF).toUInt8, (pps >>> 8).toUInt8, UInt8.ofNat (points &&& 0xFF), UInt8.ofNat (points >>> 8), flags]
      ⟨UInt16.ofNat pps.toNat, UInt16.ofNat points, flags⟩ := by
  have low (n : Nat) : n &&& 255 = n % 256 := Nat.and_two_pow_sub_one_eq_mod _ 8
  have ppsJoined : (pps &&& 0xFF).toUInt8.toNat + 256 * (pps >>> 8).toUInt8.toNat = pps.toNat := by
    simp only [UInt32.toNat_toUInt8, UInt32.toNat_and, UInt32.toNat_shiftRight, Nat.shiftRight_eq_div_pow,
      UInt32.reduceToNat, Nat.reduceMod, Nat.reducePow, low]
    omega
  have pointsJoined : (UInt8.ofNat (points &&& 0xFF)).toNat + 256 * (UInt8.ofNat (points >>> 8)).toNat = points := by
    simp only [UInt8.toNat_ofNat', Nat.shiftRight_eq_div_pow, Nat.reducePow, low]
    omega
  intro rest
  change some (Footer.mk (UInt16.ofNat _) (UInt16.ofNat _) flags, rest) = _
  rw [ppsJoined, pointsJoined]

theorem decodeFrame_encoded {points : List Point} (narrow : ∀ point ∈ points, point.coordinate.Narrow)
    (ppsFits : pps.toNat < 65536) (pointsFit : points.length < 65536) (flags : UInt8) :
    decodeFrame (points.flatMap encodePoint ++
      [(pps &&& 0xFF).toUInt8, (pps >>> 8).toUInt8, UInt8.ofNat (points.length &&& 0xFF),
        UInt8.ofNat (points.length >>> 8), flags]) =
      some (points, ⟨UInt16.ofNat pps.toNat, UInt16.ofNat points.length, flags⟩) := by
  have footer := footer_reads ppsFits pointsFit flags []
  have body := Reads.many_mem (fun point member => encodePoint_reads (narrow point member)) []
  have count : (UInt16.ofNat points.length).toNat = points.length := by
    rw [UInt16.toNat_ofNat']
    omega
  rw [List.append_nil] at footer body
  unfold decodeFrame
  rw [List.length_append]
  simp only [List.length_cons, List.length_nil, Nat.zero_add, Nat.reduceAdd, Nat.add_sub_cancel, List.drop_left,
    List.take_left, footer, count, body]

/-- The transfer of so many points is a multiple of 64 bytes exactly when the number is one that is avoided. -/
theorem dvd_transfer_iff (points : Nat) : 64 ∣ 7 * points + 5 ↔ points ≥ 45 ∧ (points - 45) % 64 = 0 := by
  omega

/-- What the adjusted parameters are of those that were requested. -/
structure Adjusted (pps points rate count : Nat) : Prop where
  avoided : ¬ 64 ∣ 7 * count + 5
  most : count = points ∨ count = points - 1
  whole : ¬ 64 ∣ 7 * points + 5 → count = points
  same : count = points → rate = pps
  slower : rate ≤ pps
  duration : count ≠ points → 2 * |(rate : ℤ) * points - pps * count| ≤ points

theorem rounded_rate (pps : Nat) {points : Nat} (odd : points % 2 = 1) :
    (pps * (points - 1) + points / 2) / points ≤ pps ∧
      2 * |((pps * (points - 1) + points / 2) / points : ℕ) * (points : ℤ) - pps * (points - 1 : ℕ)| ≤ points := by
  have some : 0 < points := by omega
  have below := Nat.div_mul_le_self (pps * (points - 1) + points / 2) points
  have above := Nat.lt_div_mul_add some (a := pps * (points - 1) + points / 2)
  generalize (pps * (points - 1) + points / 2) / points = rate at below above
  constructor
  · have fewer : pps * (points - 1) + pps = pps * points := by
      rw [← Nat.mul_succ, Nat.succ_eq_add_one, Nat.sub_add_cancel some]
    by_contra more
    have much : (pps + 1) * points ≤ rate * points := Nat.mul_le_mul_right _ (Nat.lt_of_not_le more)
    rw [Nat.succ_mul] at much
    omega
  · have near : |((rate * points : ℕ) : ℤ) - (pps * (points - 1) : ℕ)| ≤ (points / 2 : ℕ) := by
      rw [abs_le]
      constructor
      all_goals omega
    push_cast at near ⊢
    omega

theorem adjustedFrameParams_adjusted (pps : UInt32) (points : Nat) :
    Adjusted pps.toNat points (adjustedFrameParams pps points).1.toNat (adjustedFrameParams pps points).2 := by
  unfold adjustedFrameParams
  split
  · next avoid =>
    obtain ⟨slower, near⟩ := rounded_rate pps.toNat (show points % 2 = 1 by omega)
    have exactly : (UInt32.ofNat ((pps.toNat * (points - 1) + points / 2) / points)).toNat =
        (pps.toNat * (points - 1) + points / 2) / points := by
      rw [UInt32.toNat_ofNat']
      exact Nat.mod_eq_of_lt (slower.trans_lt pps.toNat_lt)
    dsimp only
    rw [exactly]
    exact ⟨by omega, .inr rfl, fun fine => absurd ((dvd_transfer_iff points).mpr avoid) fine, fun same => by omega,
      slower, fun _ => near⟩
  · next fine =>
    rw [← dvd_transfer_iff] at fine
    exact ⟨fine, .inl rfl, fun _ => rfl, fun _ => rfl, le_rfl, fun other => absurd rfl other⟩

/-- The bytes are a frame of these points, as many of them as the parameters are adjusted to, and no multiple of 64
bytes. -/
def Holds (points : List Point) (pps : UInt32) (flags : UInt8) (bytes : List UInt8) : Prop :=
  ¬ 64 ∣ bytes.length ∧ ∃ count footer, decodeFrame bytes = some (points.take count, footer) ∧
    count ≤ points.length ∧ footer.points.toNat = count ∧ footer.flags = flags ∧
    Adjusted pps.toNat (min points.length heliosMaxPoints) footer.pps.toNat count

theorem encodeFrameInto_holds {points : List Point} (narrow : ∀ point ∈ points, point.coordinate.Narrow)
    (small : pps ≤ 65535) (flags : UInt8) : Holds points pps flags (encodeFrameInto pps points flags) := by
  have adjusted := adjustedFrameParams_adjusted pps (min points.length heliosMaxPoints)
  unfold encodeFrameInto
  dsimp only
  generalize adjustedFrameParams pps (min points.length heliosMaxPoints) = params at adjusted
  obtain ⟨rate, count⟩ := params
  dsimp only at adjusted ⊢
  have ppsSmall : pps.toNat ≤ 65535 := UInt32.le_iff_toNat_le.mp small
  have slower := adjusted.slower
  have most := adjusted.most
  have capped : min points.length heliosMaxPoints ≤ 4095 := Nat.min_le_right _ _
  have within : min points.length heliosMaxPoints ≤ points.length := Nat.min_le_left _ _
  have length : (points.take count).length = count := List.length_take_of_le (by omega)
  have decoded := decodeFrame_encoded (fun point member => narrow point (List.mem_of_mem_take member))
    (show rate.toNat < 65536 by omega) (show (points.take count).length < 65536 by omega) flags
  rw [length] at decoded
  refine ⟨?_, count, _, decoded, by omega, ?_, rfl, ?_⟩
  · have size : ((points.take count).flatMap encodePoint).length = 7 * count := by
      rw [List.length_flatMap, List.map_congr_left fun point _ => encodePoint_length point, List.map_const',
        List.sum_replicate, length]
      exact Nat.mul_comm _ _
    rw [List.length_append, size]
    exact adjusted.avoided
  · rw [UInt16.toNat_ofNat']
    omega
  · rw [UInt16.toNat_ofNat', Nat.mod_eq_of_lt (by omega)]
    exact adjusted

theorem encodeFrameInto_take (pps : UInt32) (points : List Point) (flags : UInt8) :
    encodeFrameInto pps (points.take heliosMaxPoints) flags = encodeFrameInto pps points flags := by
  have adjusted := adjustedFrameParams_adjusted pps (min points.length heliosMaxPoints)
  have most := adjusted.most
  have capped : min points.length heliosMaxPoints ≤ heliosMaxPoints := Nat.min_le_right _ _
  unfold encodeFrameInto
  rw [List.length_take, Nat.min_assoc, Nat.min_comm heliosMaxPoints, Nat.min_assoc, Nat.min_self]
  dsimp only
  rw [List.take_take, Nat.min_eq_left (by omega)]

/-- What is encoded decodes to the points, the rate and the flags, up to the workaround; and so does what the backend
prepares, after it has clamped the rate. -/
theorem encodeFrameInto_decodes :
    (∀ (points : List Point) (pps : UInt32) (flags : UInt8), (∀ point ∈ points, point.coordinate.Narrow) →
      pps ≤ 65535 → Holds points pps flags (encodeFrameInto pps points flags)) ∧
    ∀ (coordinate : UInt32 → UInt16) (pps : UInt32) (points : List LaserPoint), (∀ value, coordinate value < 4096) →
      Holds (points.map (Point.ofLaserPoint coordinate)) (clampPps defaultCapabilities pps) singleMode
        (prepareFrameBuffer defaultCapabilities coordinate pps points).2.2 := by
  refine ⟨fun points pps flags narrow small => encodeFrameInto_holds narrow small flags,
    fun coordinate pps points narrow => ?_⟩
  have small : clampPps defaultCapabilities pps ≤ 65535 := by
    have bound : max 7 (min pps.toNat 65535) ≤ 65535 := by omega
    rw [UInt32.le_iff_toNat_le, clampPps, UInt32.toNat_ofNat']
    exact (Nat.mod_le _ _).trans bound
  unfold prepareFrameBuffer
  dsimp only
  rw [List.map_take]
  rw [show defaultCapabilities.maxPointsPerChunk = heliosMaxPoints from rfl, encodeFrameInto_take]
  refine encodeFrameInto_holds (fun point member => ?_) small singleMode
  obtain ⟨p, -, rfl⟩ := List.mem_map.mp member
  exact ⟨narrow p.x, narrow p.y⟩

/-- 45 points at 30000 points a second: one point is left out, and 29333 a second are asked for. -/
theorem encodeFrameInto_decodes_avoided :
    Holds (List.replicate 45 ⟨⟨0xABC, 0x123⟩, ⟨1, 2, 3⟩, 4⟩) 30000 singleMode
        (encodeFrameInto 30000 (List.replicate 45 ⟨⟨0xABC, 0x123⟩, ⟨1, 2, 3⟩, 4⟩) singleMode) ∧
      (encodeFrameInto 30000 (List.replicate 45 ⟨⟨0xABC, 0x123⟩, ⟨1, 2, 3⟩, 4⟩) singleMode).length = 313 ∧
      adjustedFrameParams 30000 45 = (29333, 44) :=
  ⟨encodeFrameInto_decodes.1 _ _ _ (by decide +kernel) (by decide), by decide +kernel, by decide +kernel⟩

end LaserDac.Helios
