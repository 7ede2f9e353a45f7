import LaserDac.Points

/-!
The presentation engine: the current and the pending frame, the read cursor and the transition buffer, with a delivery
for queues and one for frame swap. A function returns `none` where the source would not return: a slice outside its
buffer, an `unwrap` of nothing, or a loop that runs past its fuel.
-/

namespace LaserDac

/-- The frames of an engine and where it is in them. -/
structure PresentationEngine where
  currentBase : Option Frame
  pendingBase : Option Frame
  drawable : List LaserPoint
  drawableDirty : Bool
  cursor : Nat
  transitionFn : TransitionFn
  transitionBuf : List LaserPoint
  transitionCursor : Nat
  /-- The transition buffer holds the points of a self-loop. -/
  transitionIsSelfLoop : Bool
  /-- Length of the transition at the front of the last composed hardware frame. -/
  frameSwapTransitionLen : Nat
  frameSwapComposedPps : Option Nat
  frameCapacity : Option Nat
  /-- Shown while there is nothing to draw. -/
  idleBlank : LaserPoint

namespace PresentationEngine

def new (transitionFn : TransitionFn) : PresentationEngine where
  currentBase := none
  pendingBase := none
  drawable := []
  drawableDirty := true
  cursor := 0
  transitionFn
  transitionBuf := []
  transitionCursor := 0
  transitionIsSelfLoop := false
  frameSwapTransitionLen := 0
  frameSwapComposedPps := none
  frameCapacity := none
  idleBlank := LaserPoint.blanked 0 0

def setFrameCapacity (cap : Option Nat) (e : PresentationEngine) : PresentationEngine :=
  { e with frameCapacity := cap }

def setIdleBlankPoint (point : LaserPoint) (e : PresentationEngine) : PresentationEngine :=
  { e with idleBlank := point }

variable (e : PresentationEngine)

/-- Forget the runtime state; the transition function, the capacity and the idle point are configuration. -/
def reset : PresentationEngine :=
  { e with
    currentBase := none
    pendingBase := none
    drawable := []
    drawableDirty := true
    cursor := 0
    transitionBuf := []
    transitionCursor := 0
    transitionIsSelfLoop := false
    frameSwapTransitionLen := 0
    frameSwapComposedPps := none }

def hasLogicalFrame : Bool := e.currentBase.isSome

/-- Submit a frame. The first one is current at once; later ones wait, and the latest wins. -/
def setPending (frame : Frame) (e : PresentationEngine) : PresentationEngine :=
  match e.currentBase with
  | none => { e with currentBase := some frame, drawableDirty := true, cursor := 0 }
  | some _ => { e with pendingBase := some frame }

/-- The points of the current frame, none without a frame. -/
def content : List LaserPoint := (e.currentBase.map Frame.points).getD []

def refreshDrawable : PresentationEngine :=
  { e with drawable := e.content, drawableDirty := false }

/-- The read position after a coalesced seam: past the shared point, unless it is the only one. -/
def coalescedCursor (drawable : List LaserPoint) : Nat := if drawable.length > 1 then 1 else 0

/-- Make the pending frame current and compose the seam to it. -/
def promotePending (ctx : TransitionContext) (e : PresentationEngine) : Option PresentationEngine :=
  match e.pendingBase with
  | none => none
  | some pending =>
    let plan := planSeam e.transitionFn ctx e.currentBase pending
    let e := refreshDrawable { e with pendingBase := none, currentBase := some pending }
    match plan with
    | .transition points => some { e with
        transitionBuf := points, transitionCursor := 0, transitionIsSelfLoop := false, cursor := 0 }
    | .coalesce => some { e with cursor := coalescedCursor e.drawable }

def composeSelfLoop (ctx : TransitionContext) (e : PresentationEngine) : Option PresentationEngine :=
  match e.drawable.getLast?, e.drawable.head? with
  | some last, some first =>
    match e.transitionFn last first ctx with
    | .transition points => some { e with
        transitionBuf := points, transitionCursor := 0, transitionIsSelfLoop := true, cursor := 0 }
    | .coalesce => some { e with cursor := coalescedCursor e.drawable }
  | _, _ => none

/-- The loop of `fill_chunk`. `out` holds the points written so far, `buffer[..written]` of the source. -/
def fillLoop (maxPoints : Nat) (ctx : TransitionContext) :
    Nat → List LaserPoint → PresentationEngine → Option (List LaserPoint × PresentationEngine)
  | 0, _, _ => none
  | fuel + 1, out, e =>
    let rest := maxPoints - out.length
    if maxPoints ≤ out.length then some (out, e)
    else if e.transitionCursor < e.transitionBuf.length then
      if e.transitionIsSelfLoop && e.pendingBase.isSome && e.transitionCursor == 0 then do
        -- a self-loop transition nobody has seen yet gives way to the pending frame
        let e ← promotePending ctx { e with transitionBuf := [], transitionIsSelfLoop := false }
        if e.drawable.isEmpty then some (out ++ List.replicate rest e.idleBlank, e)
        else fillLoop maxPoints ctx fuel out e
      else
        let src := e.transitionBuf.drop e.transitionCursor
        let n := min src.length rest
        fillLoop maxPoints ctx fuel (out ++ src.take n)
          { e with transitionCursor := e.transitionCursor + n }
    else if e.drawable.length < e.cursor then none
    else do
      let src := e.drawable.drop e.cursor
      let n := min src.length rest
      let out := out ++ src.take n
      let e := { e with cursor := e.cursor + n }
      if e.drawable.length ≤ e.cursor then
        if e.pendingBase.isSome then
          let e ← promotePending ctx e
          if e.drawable.isEmpty then some (out ++ List.replicate (rest - n) e.idleBlank, e)
          else fillLoop maxPoints ctx fuel out e
        else
          let e ← composeSelfLoop ctx e
          fillLoop maxPoints ctx fuel out e
      else fillLoop maxPoints ctx fuel out e

/-- Rounds of the fill loop that suffice: every round but the discard of a stale transition writes a point. -/
def fillFuel (maxPoints : Nat) : Nat := 2 * maxPoints + 2

/-- Write up to `maxPoints` points into `buffer`; the number written, the buffer and the engine after it. -/
def fillChunk (buffer : List LaserPoint) (maxPoints pps : Nat) (e : PresentationEngine) :
    Option (Nat × List LaserPoint × PresentationEngine) :=
  let maxPoints := min maxPoints buffer.length
  let e := if e.drawableDirty then e.refreshDrawable else e
  if e.currentBase.isNone || e.drawable.isEmpty then
    some (maxPoints, List.replicate maxPoints e.idleBlank ++ buffer.drop maxPoints, e)
  else do
    let (out, e) ← fillLoop maxPoints { pps } (fillFuel maxPoints) [] e
    some (out.length, out ++ buffer.drop out.length, e)

/-- Shorten a composed frame to the capacity: generated transition points first, then the authored tail. -/
def clampToCapacity : PresentationEngine :=
  match e.frameCapacity with
  | none => e
  | some cap =>
    if e.drawable.length > cap then
      let trim := min (e.drawable.length - cap) e.frameSwapTransitionLen
      { e with
        drawable := (e.drawable.drop trim).take cap
        frameSwapTransitionLen := e.frameSwapTransitionLen - trim }
    else e

/-- The drawable of a self-loop and the length of the transition in front of it. -/
def buildSelfLoopDrawable (transitionFn : TransitionFn) (base : List LaserPoint) (ctx : TransitionContext) :
    List LaserPoint × Nat :=
  match base.getLast?, base.head? with
  | some last, some first =>
    match transitionFn last first ctx with
    | .transition points => (points ++ base, points.length)
    | .coalesce => (base.take (if base.length > 1 then base.length - 1 else base.length), 0)
  | _, _ => ([], 0)

def refreshDrawableForFrameSwap (ctx : TransitionContext) (e : PresentationEngine) : PresentationEngine :=
  let e := { e with
    drawable := [], drawableDirty := false, frameSwapTransitionLen := 0, frameSwapComposedPps := some ctx.pps }
  match e.currentBase with
  | none => e
  | some current =>
    if current.isEmpty then { e with drawable := [e.idleBlank] }
    else
      let built := buildSelfLoopDrawable e.transitionFn current.points ctx
      clampToCapacity { e with drawable := built.1, frameSwapTransitionLen := built.2 }

/-- The next hardware frame: the seam into the pending frame, or the self-loop of the current one. -/
def composeHardwareFrame (pps : Nat) (e : PresentationEngine) : List LaserPoint × PresentationEngine :=
  let ctx : TransitionContext := { pps }
  match e.pendingBase with
  | some pending =>
    let e := match planSeam e.transitionFn ctx e.currentBase pending with
      | .transition points => { e with
          drawable := points ++ pending.points, frameSwapTransitionLen := points.length }
      | .coalesce => { e with
          drawable := pending.points.drop (coalescedCursor pending.points), frameSwapTransitionLen := 0 }
    let e := if e.drawable.isEmpty then { e with drawable := [e.idleBlank] } else e
    let e := { clampToCapacity e with
      frameSwapComposedPps := some pps, pendingBase := none, currentBase := some pending,
      drawableDirty := true }
    (e.drawable, e)
  | none =>
    let e := if e.drawableDirty || e.frameSwapComposedPps != some pps then
      e.refreshDrawableForFrameSwap ctx else e
    (e.drawable, e)

end PresentationEngine

end LaserDac
