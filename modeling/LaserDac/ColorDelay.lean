import LaserDac.Points

/-!
The colour delay line. It shifts the colours of a chunk back by a number of points and carries the colours
that run over its end into the next chunk. The shift works in place, from the back; what it computes is that
the carried colours come first and the chunk's own follow.
-/

namespace LaserDac

abbrev Color := UInt16 × UInt16 × UInt16 × UInt16

/-- The line carries one colour for every point of its delay. -/
structure ColorDelayLine where
  delay : Nat
  carry : List Color
  size : carry.length = delay

variable (line : ColorDelayLine) (points : List LaserPoint)

namespace ColorDelayLine

/-- A line that carries black for as long as it delays. -/
def new (delay : Nat) : ColorDelayLine := ⟨delay, List.replicate delay black, by simp⟩

def reset (line : ColorDelayLine) : ColorDelayLine :=
  ⟨line.delay, List.replicate line.carry.length black, by simp [line.size]⟩

/-- Change the delay: black comes in front when it grows, the oldest colours go when it shrinks. -/
def resize (newDelay : Nat) (line : ColorDelayLine) : ColorDelayLine :=
  if same : newDelay = line.delay then line
  else if newDelay = 0 then ⟨0, [], rfl⟩
  else if grow : newDelay > line.delay then
    ⟨newDelay, List.replicate (newDelay - line.delay) black ++ line.carry, by simp [line.size]; omega⟩
  else
    ⟨newDelay, line.carry.drop (line.delay - newDelay), by simp [line.size]; omega⟩

/-- Give the point at `dst` the colour of the point at `src`. -/
def copyColor (points : List LaserPoint) (src dst : Nat) : List LaserPoint :=
  match points[src]?, points[dst]? with
  | some source, some target => points.set dst (target.withColor source.color)
  | _, _ => points

/-- The loop over `i` from `delay + count - 1` down to `delay`, which copies the colour `delay` points back. -/
def shiftColors (delay : Nat) : Nat → List LaserPoint → List LaserPoint
  | 0, points => points
  | count + 1, points => shiftColors delay count (copyColor points count (delay + count))

/-- Delay the colours of a chunk. -/
def apply (line : ColorDelayLine) (points : List LaserPoint) : List LaserPoint × ColorDelayLine :=
  if line.delay = 0 ∨ points = [] then (points, line)
  else
    let n := points.length
    let keep := min line.delay n
    let scratch := (points.drop (n - keep)).map LaserPoint.color
    let shifted := shiftColors line.delay (n - line.delay) points
    let out := List.zipWith LaserPoint.withColor shifted line.carry ++ shifted.drop line.carry.length
    if rolled : keep = line.delay then
      (out, ⟨line.delay, scratch, by simp [scratch]; omega⟩)
    else
      (out, ⟨line.delay, line.carry.drop keep ++ scratch, by simp [scratch, line.size]; omega⟩)

@[simp] theorem shiftColors_length (delay count : Nat) (points : List LaserPoint) :
    (shiftColors delay count points).length = points.length := by
  induction count generalizing points with
  | zero => rfl
  | succ count ih =>
    rw [shiftColors, ih]
    unfold copyColor
    split <;> simp

theorem copyColor_of_lt (src dst : Nat) (bound : dst < points.length) (before : src ≤ dst) :
    copyColor points src dst = points.set dst (points[dst].withColor points[src].color) := by
  have inside : src < points.length := by omega
  simp [copyColor, List.getElem?_eq_getElem inside, List.getElem?_eq_getElem bound]

theorem shiftColors_getElem? (delay count : Nat) (positive : 0 < delay) (points : List LaserPoint)
    (fits : delay + count ≤ points.length) (j : Nat) :
    (shiftColors delay count points)[j]? =
      if delay ≤ j ∧ j < delay + count then
        (points[j]?.bind fun point => points[j - delay]?.map fun source => point.withColor source.color)
      else points[j]? := by
  induction count generalizing points with
  | zero =>
    rw [if_neg (by omega)]
    rfl
  | succ count ih =>
    have inside : delay + count < points.length := by omega
    rw [shiftColors, ih _ (by simp [copyColor_of_lt points count (delay + count) inside (by omega)]; omega),
      copyColor_of_lt points count (delay + count) inside (by omega)]
    rcases Nat.lt_trichotomy j (delay + count) with below | rfl | above
    · have other : delay + count ≠ j := by omega
      have source : delay + count ≠ j - delay := by omega
      simp only [List.getElem?_set_ne other, List.getElem?_set_ne source]
      split <;> split <;> first | rfl | omega
    · rw [if_neg (by omega), if_pos (by omega)]
      simp [inside, show count < points.length by omega]
    · have other : delay + count ≠ j := by omega
      simp only [List.getElem?_set_ne other]
      rw [if_neg (by omega), if_neg (by omega)]

/-- The colours the next points take: the carried ones, then the chunk's own. -/
def queue (line : ColorDelayLine) (points : List LaserPoint) : List Color :=
  line.carry ++ points.map LaserPoint.color

@[simp] theorem withColor_color (point : LaserPoint) : point.withColor point.color = point := rfl

theorem zipWith_own_colors : List.zipWith LaserPoint.withColor points (points.map LaserPoint.color) = points := by
  induction points with
  | nil => rfl
  | cons point points ih => simp [ih]

theorem shifted_getElem? (positive : 0 < line.delay) (j : Nat) :
    (shiftColors line.delay (points.length - line.delay) points)[j]? =
      if line.delay ≤ j then
        (points[j]?.bind fun point => points[j - line.delay]?.map fun source => point.withColor source.color)
      else points[j]? := by
  rcases Nat.lt_or_ge points.length line.delay with short | long
  · rw [Nat.sub_eq_zero_of_le (by omega), shiftColors]
    split
    · rw [List.getElem?_eq_none (by omega)]
      rfl
    · rfl
  · rw [shiftColors_getElem? _ _ positive _ (by omega)]
    rcases Nat.lt_or_ge j points.length with inside | outside
    · split <;> split <;> first | rfl | omega
    · rw [List.getElem?_eq_none outside]
      simp

theorem apply_points (positive : 0 < line.delay) :
    List.zipWith LaserPoint.withColor (shiftColors line.delay (points.length - line.delay) points) line.carry ++
        (shiftColors line.delay (points.length - line.delay) points).drop line.carry.length =
      List.zipWith LaserPoint.withColor points (line.queue points) := by
  have shifted := shifted_getElem? line points positive
  set after := shiftColors line.delay (points.length - line.delay) points with eq
  have size : after.length = points.length := by simp [eq]
  have carried := line.size
  apply List.ext_getElem
  · simp [queue, size]
    omega
  intro j left right
  have inside : j < points.length := by simp at right; omega
  rcases Nat.lt_or_ge j line.carry.length with early | late
  · have own : after[j] = points[j] := by
      have := shifted j
      rw [if_neg (by omega), List.getElem?_eq_getElem (by omega), List.getElem?_eq_getElem inside] at this
      exact Option.some.inj this
    rw [List.getElem_append_left (by simp; omega), List.getElem_zipWith, List.getElem_zipWith, own]
    simp [queue, List.getElem_append_left early]
  · have moved : after[j] = points[j].withColor points[j - line.delay].color := by
      have := shifted j
      rw [if_pos (by omega), List.getElem?_eq_getElem (by omega), List.getElem?_eq_getElem inside,
        List.getElem?_eq_getElem (show j - line.delay < points.length by omega)] at this
      exact Option.some.inj this
    rw [List.getElem_append_right (by simp; omega), List.getElem_zipWith, List.getElem_drop]
    have index : line.carry.length + (j - (List.zipWith LaserPoint.withColor after line.carry).length) = j := by
      simp
      omega
    simp only [index]
    simp [queue, List.getElem_append_right late, ← moved, carried]

/-- What the shift in place computes. -/
theorem apply_spec :
    (line.apply points).1 = List.zipWith LaserPoint.withColor points (line.queue points) ∧
      (line.apply points).2.carry = (line.queue points).drop points.length := by
  have size := line.size
  by_cases still : line.delay = 0 ∨ points = []
  · rw [apply, if_pos still]
    rcases still with none_ | rfl
    · have empty : line.carry = [] := List.eq_nil_of_length_eq_zero (by omega)
      simp [queue, empty, zipWith_own_colors]
    · simp [queue]
  · have positive : 0 < line.delay := by omega
    have out := apply_points line points positive
    rw [apply, if_neg still]
    by_cases rolled : min line.delay points.length = line.delay
    · simp only [rolled, dite_true]
      refine ⟨out, ?_⟩
      have used : line.carry.drop points.length = [] := List.drop_eq_nil_of_le (by omega)
      rw [queue, List.drop_append, used, size, List.map_drop, List.nil_append]
    · simp only [rolled, dite_false]
      refine ⟨out, ?_⟩
      have short : points.length ≤ line.carry.length := by omega
      rw [queue, List.drop_append_of_le_length short, Nat.min_eq_right (by omega), Nat.sub_self, List.drop_zero]

theorem resize_carry (newDelay : Nat) (line : ColorDelayLine) :
    (line.resize newDelay).carry =
      (List.replicate (newDelay - line.delay) black ++ line.carry).drop (line.delay - newDelay) := by
  have size := line.size
  unfold resize
  split
  case isTrue same => simp [same]
  split
  case isTrue zero =>
    rw [zero, Nat.zero_sub, List.replicate_zero, List.nil_append, Nat.sub_zero]
    exact (List.drop_eq_nil_of_le (by omega)).symm
  split
  case isTrue grow => simp [Nat.sub_eq_zero_of_le (Nat.le_of_lt grow)]
  case isFalse shrink => simp [Nat.sub_eq_zero_of_le (Nat.not_lt.mp shrink)]

def Black (line : ColorDelayLine) : Prop := ∀ color ∈ line.carry, color = black

instance (line : ColorDelayLine) : Decidable line.Black := inferInstanceAs (Decidable (∀ _ ∈ _, _))

theorem reset_black : line.reset.Black :=
  fun _ member => List.eq_of_mem_replicate member

theorem new_black (delay : Nat) : (new delay).Black :=
  fun _ member => List.eq_of_mem_replicate member

theorem Black.resize {line : ColorDelayLine} (dark : line.Black) (newDelay : Nat) : (line.resize newDelay).Black := by
  intro color member
  rw [resize_carry] at member
  rcases List.mem_append.mp (List.mem_of_mem_drop member) with padding | carried
  · exact List.eq_of_mem_replicate padding
  · exact dark color carried

theorem color_eq_black_iff (point : LaserPoint) : point.color = black ↔ point.Dark := by
  simp [LaserPoint.color, black, LaserPoint.Dark, Prod.ext_iff]

theorem zipWith_withColor_colors (colors : List Color) :
    (List.zipWith LaserPoint.withColor points colors).map LaserPoint.color = colors.take points.length := by
  induction points generalizing colors with
  | nil => simp
  | cons point points ih =>
    cases colors with
    | nil => rfl
    | cons color => simp [ih, LaserPoint.color, LaserPoint.withColor]

theorem apply_colors : (line.apply points).1.map LaserPoint.color = (line.queue points).take points.length := by
  rw [(apply_spec line points).1, zipWith_withColor_colors]

theorem Black.apply {line : ColorDelayLine} (dark : line.Black) {points : List LaserPoint}
    (blanked : ∀ point ∈ points, point.Dark) :
    (∀ point ∈ (line.apply points).1, point.Dark) ∧ (line.apply points).2.Black := by
  have queued : ∀ color ∈ line.queue points, color = black := by
    intro color member
    rcases List.mem_append.mp member with carried | own
    · exact dark color carried
    · obtain ⟨point, inside, rfl⟩ := List.mem_map.mp own
      exact (color_eq_black_iff point).mpr (blanked point inside)
  refine ⟨?_, ?_⟩
  · intro point member
    have shown := List.mem_map_of_mem (f := LaserPoint.color) member
    rw [apply_colors] at shown
    exact (color_eq_black_iff point).mp (queued _ (List.mem_of_mem_take shown))
  · intro color member
    rw [(apply_spec line points).2] at member
    exact queued color (List.mem_of_mem_drop member)

end ColorDelayLine

end LaserDac
