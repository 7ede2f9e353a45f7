import LaserDac.Points

/-!
What the control handles share with the driver. Threads that use a handle take one atomic action at a time; a call of
`arm` or `disarm` is a load, compare-exchanges until one succeeds or none is needed, and a notification.
-/

namespace LaserDac

/-- The desired-state word: the low bit is the arm state, the rest counts edges. -/
abbrev Word := Nat

def wordModulus : Nat := 2 ^ 64

def isArmedWord (word : Word) : Bool := word % 2 == 1

/-- `(current.wrapping_add(2) & !1) | armed` -/
def nextWord (current : Word) (armed : Bool) : Word := (current + 2) % wordModulus / 2 * 2 + armed.toNat

inductive ControlMsg
  | arm
  | disarm
  | stop
  deriving DecidableEq, Repr

structure RateState where
  pps : Nat
  min : Nat
  max : Nat
  deriving DecidableEq, Repr

/-- A thread inside a call of a control handle, at its next atomic action. -/
inductive Caller
  | load (armed : Bool)
  | compareExchange (armed : Bool) (current : Word) (differs : isArmedWord current ≠ armed)
  | storeStop
  | send (msg : ControlMsg)

structure Shared where
  desired : Word
  stopRequested : Bool
  messages : List ControlMsg
  /-- Nanoseconds. -/
  colorDelay : Nat
  rate : RateState
  frameSlot : Option Frame
  callers : List Caller

/-- The head of the loop of `set_desired_armed`, with the value it has observed. -/
def Caller.observe (armed : Bool) (current : Word) : Caller :=
  if same : isArmedWord current = armed then .send (if armed then .arm else .disarm)
  else .compareExchange armed current same

/-- One atomic action of a caller: where the call goes on, and the shared state after it. -/
def Caller.step (shared : Shared) : Caller → Option Caller × Shared
  | .load armed => (some (observe armed shared.desired), shared)
  | .compareExchange armed current _ =>
    if shared.desired = current then
      (some (.send (if armed then .arm else .disarm)), { shared with desired := nextWord current armed })
    else (some (observe armed shared.desired), shared)
  | .storeStop => (some (.send .stop), { shared with stopRequested := true })
  | .send msg => (none, { shared with messages := shared.messages ++ [msg] })

/-- What another thread may do between two actions of the driver. -/
inductive Action
  | arm
  | disarm
  | stop
  | resume (caller : Nat)
  | setPps (pps : Nat)
  | setColorDelay (nanos : Nat)
  | sendFrame (frame : Frame)

namespace Shared

/-- A session starts disarmed, and nobody holds a handle yet. -/
def newWithPpsBounds (colorDelay pps ppsMin ppsMax : Nat) : Shared where
  desired := 0
  stopRequested := false
  messages := []
  colorDelay
  rate := { pps, min := ppsMin, max := ppsMax }
  frameSlot := none
  callers := []

def setPps (pps : Nat) (shared : Shared) : Shared :=
  if pps < shared.rate.min ∨ pps > shared.rate.max then shared
  else { shared with rate := { shared.rate with pps } }

/-- Take over the bounds of a replacement device, unless the rate lies outside them. -/
def updatePpsBounds (min max : Nat) (shared : Shared) : Bool × Shared :=
  if shared.rate.pps < min ∨ shared.rate.pps > max then (false, shared)
  else (true, { shared with rate := { shared.rate with min, max } })

def call (caller : Caller) (shared : Shared) : Shared := { shared with callers := shared.callers ++ [caller] }

def resume (index : Nat) (shared : Shared) : Shared :=
  match shared.callers[index]? with
  | none => shared
  | some caller =>
    match caller.step shared with
    | (some next, shared) => { shared with callers := shared.callers.set index next }
    | (none, shared) => { shared with callers := shared.callers.eraseIdx index }

def act (shared : Shared) : Action → Shared
  | .arm => shared.call (.load true)
  | .disarm => shared.call (.load false)
  | .stop => shared.call .storeStop
  | .resume index => shared.resume index
  | .setPps pps => shared.setPps pps
  | .setColorDelay nanos => { shared with colorDelay := nanos }
  | .sendFrame frame => { shared with frameSlot := some frame }

end Shared

theorem Shared.updatePpsBounds_desired {min max : Nat} {shared after : Shared}
    (bounds : (true, after) = shared.updatePpsBounds min max) : after.desired = shared.desired := by
  unfold updatePpsBounds at bounds
  split at bounds
  · cases bounds
  · obtain ⟨-, rfl⟩ := Prod.mk.inj bounds
    rfl

theorem Shared.updatePpsBounds_pps {min max : Nat} {shared after : Shared}
    (bounds : (true, after) = shared.updatePpsBounds min max) : after.rate.pps = shared.rate.pps := by
  unfold updatePpsBounds at bounds
  split at bounds
  · cases bounds
  · obtain ⟨-, rfl⟩ := Prod.mk.inj bounds
    rfl

@[simp] theorem isArmedWord_nextWord (current : Word) (armed : Bool) : isArmedWord (nextWord current armed) = armed := by
  cases armed <;> simp [isArmedWord, nextWord]

theorem Caller.step_desired (caller : Caller) (shared : Shared) :
    (caller.step shared).2.desired = shared.desired ∨
      ∃ armed, isArmedWord shared.desired ≠ armed ∧ (caller.step shared).2.desired = nextWord shared.desired armed := by
  cases caller with
  | load => exact .inl rfl
  | compareExchange armed current differs =>
    simp only [step]
    split
    case isTrue same => exact .inr ⟨armed, same ▸ differs, by rw [same]⟩
    case isFalse => exact .inl rfl
  | storeStop | send => exact .inl rfl

theorem Shared.act_desired (shared : Shared) (action : Action) :
    (shared.act action).desired = shared.desired ∨
      ∃ armed, isArmedWord shared.desired ≠ armed ∧ (shared.act action).desired = nextWord shared.desired armed := by
  cases action with
  | resume index =>
    simp only [act, resume]
    split
    · exact .inl rfl
    · rename_i caller _
      have moved := caller.step_desired shared
      split <;> rename_i eq <;> simpa [eq] using moved
  | setPps =>
    refine .inl ?_
    simp only [act, setPps]
    split <;> rfl
  | arm | disarm | stop | setColorDelay | sendFrame => exact .inl rfl

end LaserDac
