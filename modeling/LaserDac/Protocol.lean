import LaserDac.Driver
import LaserDac.Production

/-!
The driver as a step relation. Where the driver is within a pass is read off the log. Every property of whole runs is
an invariant of these steps; that the code takes no others is proved once, for all of them.
-/

namespace LaserDac

open Runs

/-- The position within a pass. -/
inductive Phase
  | top
  | read (desired : Word)
  | falling (step : FallingStep) (desired : Word)
  | fell (desired : Word)
  | moved
  | rising (step : RisingStep) (desired : Word)
  | ready (desired : Word)
  | stepping (word : Word)
  | stepped
  | accepted
  deriving DecidableEq

/-- What the log says of the driver's position and of the backend it holds. -/
structure Trace where
  phase : Phase
  /-- The last rate read. -/
  pps : Option Nat
  /-- A notification has ended the wait for the device since the last production. -/
  woken : Bool
  held : Nat
  /-- The last shutter command to the held backend. -/
  shutter : Option Bool
  /-- The last command to the held backend was to disconnect. -/
  released : Bool
  /-- The held backend failed a write as disconnected, or reported that it is not connected. -/
  failed : Bool
  deriving DecidableEq

namespace Trace

def start : Trace where
  phase := .top
  pps := none
  woken := false
  held := 0
  shutter := none
  released := false
  failed := false

def commanded (backend : Nat) (t : Trace) : Trace := if backend = t.held then { t with released := false } else t

def shuttered (backend : Nat) (isOpen : Bool) (t : Trace) : Trace :=
  if backend = t.held then { t with released := false, shutter := some isOpen } else t

def lost (backend : Nat) (t : Trace) : Trace := if backend = t.held then { t with failed := true } else t

def next (t : Trace) : Event → Trace
  | .pass => { t with phase := .top }
  | .rate pps => { t with pps := some pps }
  | .firstRead desired handled => { t with phase := if desired = handled then .ready desired else .read desired }
  | .changed _ => { t with phase := .moved }
  | .opened backend _ _ => t.shuttered backend true
  | .closed backend _ => t.shuttered backend false
  | .falling step desired => { t with phase := .falling step desired }
  | .rising step desired => { t.commanded t.held with phase := .rising step desired }
  | .handled desired => { t with phase := match t.phase with | .falling _ _ => .fell desired | _ => .ready desired }
  | .armedRead word => { t with phase := .stepping word }
  | .produced _ _ _ _ => { t with phase := .stepped, woken := false }
  | .wrote backend _ _ result _ _ =>
    match result with
    | .ok .written => { t.commanded backend with phase := .accepted }
    | .ok .wouldBlock => t.commanded backend
    | .error error => if error.isDisconnected then (t.commanded backend).lost backend else t.commanded backend
  | .committed => { t with phase := .stepped }
  | .woken _ _ => { t with woken := true }
  | .blanks backend _ => t.commanded backend
  | .resetBuffer backend _ => t.commanded backend
  | .stopped backend => t.commanded backend
  | .disconnected backend => if backend = t.held then { t with released := true } else t
  | .connected backend answer => if answer then t else t.lost backend
  | .installed backend _ _ => { start with pps := t.pps, woken := t.woken, held := backend }
  | _ => t

section

variable (backend : Nat) (isOpen : Bool) (t : Trace)

@[simp] theorem commanded_phase : (t.commanded backend).phase = t.phase := by unfold commanded; split <;> rfl
@[simp] theorem commanded_held : (t.commanded backend).held = t.held := by unfold commanded; split <;> rfl
@[simp] theorem commanded_woken : (t.commanded backend).woken = t.woken := by unfold commanded; split <;> rfl
@[simp] theorem commanded_failed : (t.commanded backend).failed = t.failed := by unfold commanded; split <;> rfl
@[simp] theorem commanded_pps : (t.commanded backend).pps = t.pps := by unfold commanded; split <;> rfl
@[simp] theorem commanded_shutter : (t.commanded backend).shutter = t.shutter := by unfold commanded; split <;> rfl

@[simp] theorem shuttered_phase : (t.shuttered backend isOpen).phase = t.phase := by unfold shuttered; split <;> rfl
@[simp] theorem shuttered_held : (t.shuttered backend isOpen).held = t.held := by unfold shuttered; split <;> rfl
@[simp] theorem shuttered_woken : (t.shuttered backend isOpen).woken = t.woken := by unfold shuttered; split <;> rfl
@[simp] theorem shuttered_failed : (t.shuttered backend isOpen).failed = t.failed := by unfold shuttered; split <;> rfl
@[simp] theorem shuttered_pps : (t.shuttered backend isOpen).pps = t.pps := by unfold shuttered; split <;> rfl

@[simp] theorem lost_phase : (t.lost backend).phase = t.phase := by unfold lost; split <;> rfl
@[simp] theorem lost_held : (t.lost backend).held = t.held := by unfold lost; split <;> rfl
@[simp] theorem lost_woken : (t.lost backend).woken = t.woken := by unfold lost; split <;> rfl
@[simp] theorem lost_pps : (t.lost backend).pps = t.pps := by unfold lost; split <;> rfl

theorem next_handled_fell {step : FallingStep} {desired : Word} (position : t.phase = .falling step desired) :
    (t.next (.handled desired)).phase = .fell desired := by
  simp [next, position]

theorem next_handled_ready {step : RisingStep} {desired : Word} (position : t.phase = .rising step desired) :
    (t.next (.handled desired)).phase = .ready desired := by
  simp [next, position]

end

end Trace

def trace (log : List Event) : Trace := log.foldr (fun event t => t.next event) Trace.start

namespace World

abbrev trace (w : World) : Trace := LaserDac.trace w.log

@[simp] theorem trace_record (event : Event) (w : World) : (w.record event).trace = w.trace.next event := rfl

end World

/-- The events that say nothing of the position within a pass. -/
def Event.Neutral : Event → Bool
  | .rate _ => true
  | .opened _ _ _ => true
  | .closed _ _ => true
  | .blanks _ _ => true
  | .resetBuffer _ _ => true
  | .connected _ _ => true
  | .disconnected _ => true
  | .reported _ => true
  | .opening _ _ => true
  | .obtained _ => true
  | .validated _ _ _ => true
  | .connect _ _ => true
  | _ => false

variable {event : Event} {w : World}

theorem Trace.next_neutral (t : Trace) (neutral : event.Neutral) :
    (t.next event).phase = t.phase ∧ (t.next event).woken = t.woken := by
  cases event with
  | connected backend answer => cases answer <;> simp [next]
  | disconnected backend =>
    simp only [next]
    split <;> simp
  | _ => first | (cases neutral; done) | simp [next]

theorem Trace.next_pps (t : Trace) (other : ∀ pps, event ≠ .rate pps) : (t.next event).pps = t.pps := by
  cases event with
  | rate pps => exact absurd rfl (other pps)
  | wrote backend pps slice result desired handled =>
    match result with
    | .ok .written => simp [next]
    | .ok .wouldBlock => simp [next]
    | .error error =>
      simp only [next]
      split <;> simp
  | connected backend answer => cases answer <;> simp [next]
  | disconnected backend =>
    simp only [next]
    split <;> rfl
  | _ => simp [next]

theorem Trace.next_refused (t : Trace) (backend pps : Nat) (slice : List LaserPoint)
    {result : Except Error WriteOutcome} (desired handled : Word) (refused : result ≠ .ok .written) :
    (t.next (.wrote backend pps slice result desired handled)).phase = t.phase ∧
      (t.next (.wrote backend pps slice result desired handled)).woken = t.woken := by
  match result with
  | .ok .written => exact absurd rfl refused
  | .ok .wouldBlock => simp [next]
  | .error error =>
    simp only [next]
    split <;> simp

def Phase.Between (phase : Phase) : Prop := phase = .top ∨ phase = .stepped ∨ ∃ word, phase = .stepping word

/-- The driver may turn to replacing the backend from here. -/
def Phase.Interruptible (phase : Phase) : Prop :=
  phase.Between ∨ ∃ step desired, phase = .rising step desired

/-- The events that say nothing of the position, and when they may occur. -/
def Harmless (w : World) : Event → Prop
  | .rate _ => True
  | .closed backend _ => backend ≠ w.backend.id
  | .blanks backend _ => backend = w.backend.id
  | .resetBuffer backend _ => backend = w.backend.id
  | .connected _ _ => True
  | .disconnected _ => True
  | .reported _ => True
  | .opening held _ => held = w.backend.id ∧ (w.trace.released ∨ w.trace.failed)
  | .validated _ _ _ => True
  | .connect _ _ => True
  | _ => False

theorem Harmless.neutral (harmless : Harmless w event) : event.Neutral := by
  cases event <;> first | rfl | exact harmless.elim

/-- The events that change nothing but the log. -/
inductive Allows (w : World) : Event → Prop
  | neutral {event : Event} (harmless : Harmless w event) : Allows w event
  | pass (position : w.trace.phase.Between) : Allows w .pass
  | firstRead (position : w.trace.phase = .top) : Allows w (.firstRead w.desired w.handledState)
  | changed {generation : Word} (position : w.trace.phase = .fell generation) (differs : w.desired ≠ generation) :
      Allows w (.changed w.desired)
  | fallingChange {generation : Word} (position : w.trace.phase = .falling .discardCached generation) :
      Allows w (.falling .onStateChange generation)
  | fallingFilter {generation : Word} (position : w.trace.phase = .falling .onDisarm generation) :
      Allows w (.falling .resetOutputFilter generation)
  | risingChange {generation : Word} (position : w.trace.phase = .rising .discardCached generation) :
      Allows w (.rising .onStateChange generation)
  | risingFilter {pps : Nat} {generation : Word} (position : w.trace.phase = .rising (.armStartupBlank pps) generation) :
      Allows w (.rising .resetOutputFilter generation)
  | risingBuffer {generation : Word} (position : w.trace.phase = .rising .resetOutputFilter generation) :
      Allows w (.rising .resetDeviceBuffer generation)
  | armedRead (position : w.trace.phase = .moved ∨ ∃ generation, w.trace.phase = .ready generation ∨
        w.trace.phase = .fell generation ∧ isArmedWord generation = false) : Allows w (.armedRead w.desired)
  | wrote {slice : List LaserPoint} (pps : Nat) (result : Except Error WriteOutcome)
      (cached : w.source.cachedSlice = some slice)
      (position : w.trace.phase = .stepped ∨ ∃ word, w.trace.phase = .stepping word) :
      Allows w (.wrote w.backend.id pps slice result w.desired w.handledState)
  | woken (position : w.trace.phase = .stepped) : Allows w (.woken w.desired w.handledState)

inductive Step : World → World → Prop
  /-- Other threads and the clock move on, or the adapter adjusts its pacing. -/
  | silent {w : World} (shared : Shared) (adapter : Adapter) (tick : Nat) (same : shared.desired = w.desired) :
      Step w { w with shared, adapter, tick }
  /-- Another thread moves the word over an edge. -/
  | edge {w : World} (shared : Shared) (armed : Bool) (differs : isArmedWord w.desired ≠ armed)
      (moved : shared.desired = nextWord w.desired armed) :
      Step w (World.record (.edge w.desired shared.desired) { w with shared })
  | tuned {w : World} (source : Source) (tuning : w.source.Tuning source) : Step w { w with source }
  | noted {w : World} {event : Event} (allowed : Allows w event) : Step w (w.record event)
  | closed {w : World} (ok : Bool) :
      Step w { w.record (.closed w.backend.id ok) with shutterState := if ok then .closed else .unknown }
  | opened {w : World} (generation : Word) (ok : Bool) (ready : w.trace.phase = .ready generation)
      (armed : isArmedWord generation) (alive : w.trace.failed = false) :
      Step w { w.record (.opened w.backend.id generation ok) with shutterState := if ok then .open else .unknown }
  /-- The first step of the cleanup after a word that ends a lifecycle. -/
  | fallingDiscard {w : World} (desired : Word) (read : w.trace.phase = .read desired)
      (falls : isArmedWord w.handledState ∨ isArmedWord desired = false) :
      Step w { w.record (.falling .discardCached desired) with source := w.source.discardCached }
  | disarm {w : World} (desired : Word) (position : w.trace.phase = .falling .onStateChange desired) :
      Step w { w.record (.falling .onDisarm desired) with source := w.source.onDisarm }
  /-- The first step of the preparation, straight from the read or after the cleanup. -/
  | risingDiscard {w : World} (desired : Word) (armed : isArmedWord desired)
      (position : w.trace.phase = .fell desired ∨
        w.trace.phase = .read desired ∧ isArmedWord w.handledState = false) :
      Step w { w.record (.rising .discardCached desired) with source := w.source.discardCached }
  | armStartupBlank {w : World} (desired : Word) (pps : Nat) (current : w.trace.pps = some pps)
      (position : w.trace.phase = .rising .onStateChange desired) :
      Step w { w.record (.rising (.armStartupBlank pps) desired) with source := w.source.armStartupBlank pps }
  | handled {w : World} (desired : Word)
      (position : w.trace.phase = .falling .resetOutputFilter desired ∨
        w.trace.phase = .rising .resetDeviceBuffer desired) :
      Step w { w.record (.handled desired) with handledState := desired }
  | produced {w : World} {n : Nat} {after : Source} (word : Word) (pps : Nat)
      (position : w.trace.phase = .stepping word) (free : w.source.cachedSlice.isSome → w.trace.woken)
      (made : w.source.Produces pps (isArmedWord word) w.shared.colorDelay n after) (positive : n ≠ 0) :
      Step w { w.record (.produced (after.cachedSlice.getD []) (isArmedWord word) w.handledState (w.carried pps)) with
        source := after }
  | starved {w : World} {after : Source} (word : Word) (pps : Nat)
      (position : w.trace.phase = .stepping word) (free : w.source.cachedSlice.isSome → w.trace.woken)
      (made : w.source.Produces pps (isArmedWord word) w.shared.colorDelay 0 after) :
      Step w { w.record .starved with source := after }
  | committed {w : World} (n : Nat) (isArmed : Bool) (position : w.trace.phase = .accepted) :
      Step w { w.record .committed with source := w.source.commitWritten n isArmed }
  | obtained {w : World} :
      Step w { w.record (.obtained w.nextBackend) with nextBackend := w.nextBackend + 1 }
  | installed {w : World} (env : Env) (info : DacCapabilities) (backend : Backend) (shared : Shared)
      (gone : w.trace.released ∨ w.trace.failed) (position : w.trace.phase.Interruptible) (fresh : w.backend.id < backend.id)
      (bounds : (true, shared) = w.shared.updatePpsBounds backend.caps.ppsMin backend.caps.ppsMax) :
      Step w (World.install env info backend shared w)

/-- A step adds at most one event. -/
theorem Step.log_eq {w' : World} (step : Step w w') : w'.log = w.log ∨ ∃ event, w'.log = event :: w.log := by
  cases step <;> first | exact .inl rfl | exact .inr ⟨_, rfl⟩

theorem Step.sameSettings {w' : World} (step : Step w w') (wellFormed : w.source.WellFormed) :
    w.source.SameSettings w'.source := by
  cases step with
  | tuned source tuning => exact (tuning.becomes wellFormed).toSameSettings
  | fallingDiscard => exact w.source.discardCached_becomes.toSameSettings
  | disarm => exact w.source.onDisarm_becomes.toSameSettings
  | risingDiscard => exact w.source.discardCached_becomes.toSameSettings
  | armStartupBlank desired pps => exact (w.source.armStartupBlank_becomes pps).toSameSettings
  | produced word pps position free made positive =>
    obtain ⟨raw, -, presents⟩ := made.presents positive
    exact presents.toSameSettings
  | starved word pps position free made => exact made.starves.toSameSettings
  | committed n isArmed => exact (w.source.commitWritten_becomes n isArmed).toSameSettings
  | installed =>
    exact (w.source.onReconnect_becomes _ _).toSameSettings
  | _ => exact ⟨rfl, rfl, rfl⟩

end LaserDac
