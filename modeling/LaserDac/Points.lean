import Mathlib

/-!
Laser points, frames and the plans for the seam between two frames. A coordinate is kept as the bit pattern
of its `f32`, since no modelled function computes with coordinates; colours are the source's `u16` channels.
-/

namespace LaserDac

/-- A point: normalised coordinates and four colour channels. -/
structure LaserPoint where
  x : UInt32
  y : UInt32
  r : UInt16
  g : UInt16
  b : UInt16
  intensity : UInt16
  deriving DecidableEq, Repr

namespace LaserPoint

/-- A point with the laser off. -/
def blanked (x y : UInt32) : LaserPoint := { x, y, r := 0, g := 0, b := 0, intensity := 0 }

/-- The four colour channels, as the colour delay carries them. -/
def color (p : LaserPoint) : UInt16 × UInt16 × UInt16 × UInt16 := (p.r, p.g, p.b, p.intensity)

def withColor (p : LaserPoint) (c : UInt16 × UInt16 × UInt16 × UInt16) : LaserPoint :=
  { p with r := c.1, g := c.2.1, b := c.2.2.1, intensity := c.2.2.2 }

def Dark (p : LaserPoint) : Prop := p.r = 0 ∧ p.g = 0 ∧ p.b = 0 ∧ p.intensity = 0

instance (p : LaserPoint) : Decidable p.Dark := inferInstanceAs (Decidable (_ ∧ _ ∧ _ ∧ _))

end LaserPoint

/-- The colour with all channels zero. -/
def black : UInt16 × UInt16 × UInt16 × UInt16 := (0, 0, 0, 0)

/-- A complete frame, immutable once created. -/
structure Frame where
  points : List LaserPoint
  deriving DecidableEq, Repr

namespace Frame

def firstPoint (f : Frame) : Option LaserPoint := f.points.head?

def lastPoint (f : Frame) : Option LaserPoint := f.points.getLast?

def isEmpty (f : Frame) : Bool := f.points.isEmpty

end Frame

/-- What to do at the seam between two frame endpoints: insert points, or show the shared point once. -/
inductive TransitionPlan
  | transition (points : List LaserPoint)
  | coalesce
  deriving DecidableEq, Repr

/-- The rate in force when a seam is composed. -/
structure TransitionContext where
  pps : Nat
  deriving DecidableEq, Repr

/-- The application's callback from the outgoing last point and the incoming first point to a plan. -/
def TransitionFn := LaserPoint → LaserPoint → TransitionContext → TransitionPlan

/-- The plan for the seam between two frames; a missing endpoint gives an empty transition. -/
def planSeam (transitionFn : TransitionFn) (ctx : TransitionContext) (outgoing : Option Frame) (incoming : Frame) :
    TransitionPlan :=
  match outgoing.bind Frame.lastPoint, incoming.firstPoint with
  | some last, some first => transitionFn last first ctx
  | _, _ => .transition []

end LaserDac
