import LaserDac.ColorDelay
import LaserDac.Streams

/-!
The delay line is a queue of colours. Whatever calls a line gets, each point that enters it pushes its colour
and takes the one that is popped, so the line behaves the same however its points are cut into chunks.
-/

namespace LaserDac

open Streams

/-- A call of the delay line. -/
inductive DelayCall
  | apply (points : List LaserPoint)
  | resize (newDelay : Nat)
  | reset

namespace DelayCall

/-- The points a call brings along. -/
def points : DelayCall → List LaserPoint
  | apply points => points
  | _ => []

/-- The line's answer: the points as it leaves them. -/
def onLine : DelayCall → ColorDelayLine → List LaserPoint × ColorDelayLine
  | apply points, line => line.apply points
  | resize newDelay, line => ([], line.resize newDelay)
  | reset, line => ([], line.reset)

/-- A point takes the oldest colour of the queue and leaves its own. -/
def recolor (point : LaserPoint) (queue : List Color) : LaserPoint × List Color :=
  (point.withColor (shift point.color queue).1, (shift point.color queue).2)

/-- What the call means for a queue of colours, the oldest first. -/
def onQueue : DelayCall → List Color → List LaserPoint × List Color
  | apply points, queue => feed recolor points queue
  | resize newDelay, queue =>
    ([], if queue.length ≤ newDelay then List.replicate (newDelay - queue.length) black ++ queue
      else queue.drop (queue.length - newDelay))
  | reset, queue => ([], List.replicate queue.length black)

end DelayCall

open DelayCall

variable (line : ColorDelayLine) (points : List LaserPoint)

theorem feed_recolor (queue : List Color) :
    feed recolor points queue =
      (List.zipWith LaserPoint.withColor points (feed shift (points.map LaserPoint.color) queue).1,
        (feed shift (points.map LaserPoint.color) queue).2) := by
  induction points generalizing queue with
  | nil => rfl
  | cons point points ih => simp [feed_cons, recolor, ih]

theorem zipWith_take_left (colors : List Color) :
    List.zipWith LaserPoint.withColor points (colors.take points.length) =
      List.zipWith LaserPoint.withColor points colors := by
  induction points generalizing colors with
  | nil => rfl
  | cons point points ih =>
    cases colors with
    | nil => rfl
    | cons => simp [ih]

theorem withColor_position (colors : List Color) (long : points.length ≤ colors.length) :
    (List.zipWith LaserPoint.withColor points colors).map (fun p => (p.x, p.y)) = points.map fun p => (p.x, p.y) := by
  induction points generalizing colors with
  | nil => simp
  | cons point points ih =>
    cases colors with
    | nil => simp at long
    | cons color colors =>
      have fewer : points.length ≤ colors.length := by simpa using long
      simp [ih colors fewer, LaserPoint.withColor]

namespace ColorDelayLine

theorem apply_refines : feed recolor points line.carry = ((line.apply points).1, (line.apply points).2.carry) := by
  obtain ⟨shown, kept⟩ := line.apply_spec points
  rw [feed_recolor, feed_shift, List.length_map, shown, kept, zipWith_take_left]
  rfl

theorem resize_refines (newDelay : Nat) :
    (line.resize newDelay).carry =
      if line.carry.length ≤ newDelay then List.replicate (newDelay - line.carry.length) black ++ line.carry
      else line.carry.drop (line.carry.length - newDelay) := by
  rw [resize_carry, line.size]
  by_cases grows : line.delay ≤ newDelay
  · rw [if_pos grows, Nat.sub_eq_zero_of_le grows, List.drop_zero]
  · rw [if_neg grows, Nat.sub_eq_zero_of_le (Nat.le_of_not_le grows), List.replicate_zero, List.nil_append]

theorem onLine_refines (call : DelayCall) (line : ColorDelayLine) :
    call.onQueue line.carry = ((call.onLine line).1, (call.onLine line).2.carry) := by
  cases call with
  | apply points => exact line.apply_refines points
  | resize =>
    rw [onQueue, onLine, resize_refines]
  | reset => rfl

theorem apply_position : (line.apply points).1.map (fun p => (p.x, p.y)) = points.map fun p => (p.x, p.y) := by
  rw [(line.apply_spec points).1]
  exact withColor_position points _ (by simp [queue])

theorem ext_carry {line other : ColorDelayLine} (same : line.carry = other.carry) : line = other := by
  obtain ⟨delay, carry, size⟩ := line
  obtain ⟨delay', carry', size'⟩ := other
  obtain rfl : carry = carry' := same
  obtain rfl : delay = delay' := size.symm.trans size'
  rfl

theorem apply_append (later : List LaserPoint) :
    line.apply (points ++ later) =
      ((line.apply points).1 ++ ((line.apply points).2.apply later).1, ((line.apply points).2.apply later).2) := by
  have whole := line.apply_refines (points ++ later)
  rw [feed_append, apply_refines, apply_refines] at whole
  obtain ⟨shown, kept⟩ := Prod.mk.inj whole
  exact Prod.ext shown.symm (ext_carry kept.symm)

theorem apply_nil : line.apply [] = ([], line) := by simp [apply]

theorem apply_chunks (chunks : List (List LaserPoint)) :
    ((feed onLine (chunks.map .apply) line).1.flatten, (feed onLine (chunks.map .apply) line).2) =
      line.apply chunks.flatten := by
  induction chunks generalizing line with
  | nil => simp [apply_nil]
  | cons chunk chunks ih =>
    rw [List.flatten_cons, apply_append, ← ih]
    rfl

/-- Every sequence of calls on a new line is answered as by a queue that starts black, moves no point, keeps one
colour for every point of the delay, and does not depend on how the points are cut into chunks. -/
theorem refines_queue (delay : Nat) (calls : List DelayCall) :
    feed onQueue calls (List.replicate delay black) =
        ((feed onLine calls (new delay)).1, (feed onLine calls (new delay)).2.carry) ∧
      (feed onLine calls (new delay)).1.map (List.map fun p => (p.x, p.y)) =
        calls.map (fun call => call.points.map fun p => (p.x, p.y)) ∧
      (feed onLine calls (new delay)).2.carry.length = (feed onLine calls (new delay)).2.delay ∧
      ∀ chunks : List (List LaserPoint), ∀ line : ColorDelayLine,
        ((feed onLine (chunks.map .apply) line).1.flatten, (feed onLine (chunks.map .apply) line).2) =
          line.apply chunks.flatten := by
  refine ⟨?_, ?_, size _, fun chunks line => apply_chunks line chunks⟩
  · exact feed_view _ _ carry (fun _ => True) (fun _ _ _ => trivial) (fun call line _ => onLine_refines call line)
      calls (new delay) trivial
  · generalize new delay = line
    induction calls generalizing line with
    | nil => rfl
    | cons call calls ih =>
      rw [feed_cons, List.map_cons, List.map_cons, ih]
      refine congrArg (· :: _) ?_
      cases call with
      | apply points => exact line.apply_position points
      | resize newDelay => rfl
      | reset => rfl

end ColorDelayLine

end LaserDac
