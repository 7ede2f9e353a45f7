import LaserDac.LoopRefinement

/-!
Sessions and their runs. A session starts with a source that has just been built; what the steps of the
protocol keep, every moment of every run of its loop has.
-/

namespace LaserDac

open Runs Runs.Run

/-- A source as the session's constructors build it. -/
inductive Source.New : Source → Prop
  | fifo (engine : PresentationEngine) (colorDelay : Nat) (hasOutputFilter : Bool) (idlePolicy : IdlePolicy)
      (initialBufCapacity startupBlank : Nat) :
      New (.fifo (.withStartupBlank engine colorDelay hasOutputFilter idlePolicy initialBufCapacity startupBlank))
  | frame (engine : PresentationEngine) (colorDelay : Nat) (hasOutputFilter : Bool) (idlePolicy : IdlePolicy)
      (initialBufCapacity startupBlank : Nat) :
      New (.frame (.withStartupBlank engine colorDelay hasOutputFilter idlePolicy initialBufCapacity startupBlank))
  | chunks (idlePolicy : IdlePolicy) (startupBlank initialCapacity : Nat) :
      New (.chunks (.new idlePolicy startupBlank initialCapacity))

variable {source : Source}

theorem Source.New.cachedSlice (new : source.New) : source.cachedSlice = none := by
  cases new <;> rfl

theorem Source.New.wellFormed (new : source.New) : source.WellFormed := by
  cases new <;> exact Nat.zero_le _

theorem Source.New.delayLine_black (new : source.New) : source.delayLine.Black := by
  cases new <;> exact ColorDelayLine.new_black 0

/-- What a session is given. -/
structure Session where
  colorDelay : Nat
  pps : Nat
  isFrameSwap : Bool
  caps : DacCapabilities
  source : Source
  new : source.New

namespace Session

variable (env : Env) (session : Session)

/-- The state that a session starts in. -/
def start : World :=
  .start (.newWithPpsBounds session.colorDelay session.pps session.caps.ppsMin session.caps.ppsMax)
    session.isFrameSwap session.caps session.source

/-- The state in which the loop returned or was cut off. Only `after_keeps` looks into the run; a concrete one
is left to the kernel to evaluate. -/
@[irreducible] def after : World := (runLoop env session.start).2

theorem start_fresh : Fresh session.start.status where
  held := rfl
  fresh := Nat.zero_lt_one
  position := rfl
  empty := session.new.cachedSlice

/-- The state in which the session ended or was cut off. -/
@[irreducible] def finished : World := (run env session.start).2

theorem after_keeps (A : Event → List Event → Prop) (I : World → Prop) (start : I session.start)
    (step : ∀ w w', I w → Always A w'.log → Step w w' → I w') (assumed : Always A (session.after env).log) :
    I (session.after env) := by
  rw [after] at assumed ⊢
  have keeps : ∀ w w', (Always A w.log → I w) → Step w w' → Always A w'.log → I w' := by
    intro w w' holds move assumed
    refine step w w' (holds ?_) assumed move
    rcases move.log_eq with same | ⟨event, grown⟩
    · exact same ▸ assumed
    · rw [grown] at assumed
      exact assumed.2
  exact (runLoop_drives env).keeps keeps session.start session.start_fresh (fun _ => start) assumed

end Session

/-- The device answers every command and takes every slice, time stands still, and no other thread acts. -/
def Env.calm (fuel : Nat) : Env where
  schedule _ := []
  isConnected _ := true
  setShutter _ := true
  write _ := .ok .written
  resetDeviceBuffer _ := true
  isReadyForFrame _ := true
  estimatedFullness _ _ := 0
  targetBufferCeiling _ := none
  frameCapacity _ := 1000
  openDevice _ := .noBackend
  connect _ := (none, { ppsMin := 1, ppsMax := 100000, maxPointsPerChunk := 4, outputModel := .networkFifo })
  now _ := 0
  filter _ := fun _ points => points
  fill _ := fun _ buffer => (.starved, buffer)
  validator _ _ _ _ := none
  reconnectPolicy := none
  targetBuffer := 4000000
  drainTimeout := 0
  hasFrameSlot := true
  fuel

/-- A whole call of `arm` on a handle nobody else uses. -/
def Action.wholeArm : List Action := [.arm, .resume 0, .resume 0, .resume 0]

/-- A whole call of `disarm` on a handle nobody else uses. -/
def Action.wholeDisarm : List Action := [.disarm, .resume 0, .resume 0, .resume 0]

/-- Other threads act at the start, and before the driver's action of this number. -/
def Env.acting (first : List Action) (action : Nat) (later : List Action) : Env := { Env.calm 60 with
  schedule := fun tick => if tick = 0 then first else if tick = action then later else [] }

/-- Three lit points. -/
def Frame.bright : Frame := ⟨[1, 2, 3].map fun r => { x := 0, y := 0, r, g := 7, b := 7, intensity := 7 }⟩

/-- A queue device of four points a chunk and a thousand points a second, over a pipeline without transitions. -/
def Session.queue (colorDelay startupBlank : Nat) : Session where
  colorDelay
  pps := 1000
  isFrameSwap := false
  caps := { ppsMin := 1, ppsMax := 100000, maxPointsPerChunk := 4, outputModel := .networkFifo }
  source := .fifo (.withStartupBlank (.new fun _ _ _ => .transition []) colorDelay false .blank 4 startupBlank)
  new := .fifo _ _ _ _ _ _

/-- A frame-swap device over a pipeline without transitions. -/
def Session.frames : Session where
  colorDelay := 0
  pps := 1000
  isFrameSwap := true
  caps := { ppsMin := 1, ppsMax := 100000, maxPointsPerChunk := 1000, outputModel := .usbFrameSwap }
  source := .frame (.withStartupBlank (.new fun _ _ _ => .transition []) 0 false .blank 4 0)
  new := .frame _ _ _ _ _ _

end LaserDac
