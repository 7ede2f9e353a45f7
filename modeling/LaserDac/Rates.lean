import LaserDac.Sessions

/-!
The rate of every write. The shared rate and its bounds are those of the backend that is held; they change together
when a replacement is installed. A pass reads the rate once, an adapter that sleeps reads it again, and no backend is
replaced between a read and the write it is for.
-/

namespace LaserDac

open Runs Runs.Run

/-- `Dac::validate_pps` -/
def validatePps (caps : DacCapabilities) (pps : Nat) : Except Error Unit :=
  if pps < caps.ppsMin ∨ pps > caps.ppsMax then
    .error (.invalidConfig ("PPS " ++ toString pps ++ " is outside device range [" ++ toString caps.ppsMin ++ ", " ++
      toString caps.ppsMax ++ "]"))
  else .ok ()

variable {pps : Nat} {w : World}

theorem validatePps_ok {caps : DacCapabilities} (valid : validatePps caps pps = .ok ()) : caps.Supports pps := by
  unfold validatePps at valid
  split at valid
  · cases valid
  · next inside =>
    rw [not_or, Nat.not_lt, Nat.not_lt] at inside
    exact inside

theorem Caller.step_rate (caller : Caller) (shared : Shared) : (caller.step shared).2.rate = shared.rate := by
  cases caller with
  | compareExchange =>
    simp only [step]
    split <;> rfl
  | _ => rfl

theorem Shared.act_rate (shared : Shared) (action : Action) :
    (shared.act action).rate.min = shared.rate.min ∧ (shared.act action).rate.max = shared.rate.max ∧
      ((shared.act action).rate.pps = shared.rate.pps ∨
        shared.rate.min ≤ (shared.act action).rate.pps ∧ (shared.act action).rate.pps ≤ shared.rate.max) := by
  cases action with
  | resume index =>
    have kept : (shared.resume index).rate = shared.rate := by
      unfold resume
      split
      · rfl
      · next caller _ =>
        have same := caller.step_rate shared
        split <;> next eq => simpa [eq] using same
    simp only [act, kept]
    exact ⟨trivial, trivial, .inl trivial⟩
  | setPps pps =>
    simp only [act, setPps]
    split
    · exact ⟨rfl, rfl, .inl rfl⟩
    · next inside =>
      rw [not_or, Nat.not_lt, Nat.not_lt] at inside
      exact ⟨rfl, rfl, .inr inside⟩
  | arm | disarm | stop | setColorDelay | sendFrame => exact ⟨rfl, rfl, .inl rfl⟩

def Event.isAside : Event → Bool
  | .wrote .. => false
  | .blanks .. => false
  | .installed .. => false
  | _ => true

variable {event : Event} {ctx : LoopCtx}

namespace Rates

/-- The shared rate and its bounds are those of the held backend. -/
structure Fitted (w : World) : Prop where
  min : w.shared.rate.min = w.backend.caps.ppsMin
  max : w.shared.rate.max = w.backend.caps.ppsMax
  pps : w.backend.caps.Supports w.shared.rate.pps

/-- The backend that a session with these capabilities holds after a history, and what it supports. -/
def heldAfter (caps : DacCapabilities) : List Event → Nat × DacCapabilities
  | [] => (0, caps)
  | .installed backend _ caps :: _ => (backend, caps)
  | _ :: earlier => heldAfter caps earlier

/-- A write goes to the backend that is held, at a rate it supports. -/
def Rated (caps : DacCapabilities) (event : Event) (earlier : List Event) : Prop :=
  match event with
  | .wrote backend pps _ _ _ _ => (heldAfter caps earlier).1 = backend ∧ (heldAfter caps earlier).2.Supports pps
  | .blanks backend pps => (heldAfter caps earlier).1 = backend ∧ (heldAfter caps earlier).2.Supports pps
  | _ => True

structure Sound (caps : DacCapabilities) (w : World) : Prop where
  log : Always (Rated caps) w.log
  held : heldAfter caps w.log = (w.backend.id, w.backend.caps)
  fitted : Fitted w

theorem heldAfter_aside (aside : event.isAside = true) (caps : DacCapabilities) (earlier : List Event) :
    heldAfter caps (event :: earlier) = heldAfter caps earlier := by
  cases event <;> first | rfl | cases aside

theorem rated_aside (aside : event.isAside = true) (caps : DacCapabilities) (earlier : List Event) :
    Rated caps event earlier := by
  cases event <;> trivial

/-- A change that touches neither the rate nor the backend, with one event or none. -/
structure Untouched (w after : World) : Prop where
  rate : after.shared.rate = w.shared.rate
  backend : after.backend = w.backend
  log : after.log = w.log ∨ ∃ event : Event, event.isAside = true ∧ after.log = event :: w.log

variable {caps : DacCapabilities}

theorem Sound.untouched {after : World} (sound : Sound caps w) (untouched : Untouched w after) : Sound caps after := by
  obtain ⟨rate, backend, log⟩ := untouched
  have fitted : Fitted after := by
    obtain ⟨min, max, pps⟩ := sound.fitted
    refine ⟨?_, ?_, ?_⟩
    all_goals
      rw [rate, backend]
      assumption
  rcases log with same | ⟨event, aside, grown⟩
  · refine ⟨?_, ?_, fitted⟩
    · rw [same]
      exact sound.log
    · rw [same, backend]
      exact sound.held
  · refine ⟨?_, ?_, fitted⟩
    · rw [grown]
      exact ⟨rated_aside aside caps w.log, sound.log⟩
    · rw [grown, heldAfter_aside aside, backend]
      exact sound.held

theorem Sound.write (sound : Sound caps w) (supports : w.backend.caps.Supports pps)
    (writes : event = .blanks w.backend.id pps ∨
      ∃ slice result desired handled, event = .wrote w.backend.id pps slice result desired handled) :
    Sound caps (w.record event) := by
  have rated : (heldAfter caps w.log).1 = w.backend.id ∧ (heldAfter caps w.log).2.Supports pps := by
    rw [sound.held]
    exact ⟨rfl, supports⟩
  rcases writes with rfl | ⟨slice, result, desired, handled, rfl⟩
  all_goals exact ⟨⟨rated, sound.log⟩, sound.held, sound.fitted.min, sound.fitted.max, sound.fitted.pps⟩

theorem Sound.act (sound : Sound caps w) (action : Action) :
    Sound caps (w.act action) ∧ (w.act action).backend = w.backend := by
  obtain ⟨min, max, pps⟩ := w.shared.act_rate action
  have fitted : Fitted { w with shared := w.shared.act action } := by
    refine ⟨min.trans sound.fitted.min, max.trans sound.fitted.max, ?_⟩
    rcases pps with same | ⟨low, high⟩
    · change w.backend.caps.Supports (w.shared.act action).rate.pps
      rw [same]
      exact sound.fitted.pps
    · exact ⟨sound.fitted.min.symm.trans_le low, high.trans_eq sound.fitted.max⟩
  have shared : Sound caps { w with shared := w.shared.act action } := ⟨sound.log, sound.held, fitted⟩
  unfold World.act
  dsimp only
  split
  · exact ⟨shared, rfl⟩
  · exact ⟨shared.untouched ⟨rfl, rfl, .inr ⟨_, rfl, rfl⟩⟩, rfl⟩

theorem Sound.interleave (sound : Sound caps w) (env : Env) :
    Sound caps (w.interleave env) ∧ (w.interleave env).backend = w.backend := by
  have acts (actions : List Action) : ∀ w : World, Sound caps w →
      Sound caps (actions.foldl World.act w) ∧ (actions.foldl World.act w).backend = w.backend := by
    induction actions with
    | nil => exact fun w sound => ⟨sound, rfl⟩
    | cons action actions ih =>
      intro w sound
      obtain ⟨next, same⟩ := sound.act action
      obtain ⟨last, still⟩ := ih _ next
      exact ⟨last, still.trans same⟩
  obtain ⟨last, same⟩ := acts (env.schedule w.tick) w sound
  exact ⟨last.untouched ⟨rfl, rfl, .inl rfl⟩, same⟩

def Holding (caps : DacCapabilities) (b : Backend) (w : World) : Prop := Sound caps w ∧ w.backend = b

def Keeps {α : Type} (caps : DacCapabilities) (b : Backend) (m : Run World α) : Prop :=
  Follows (fun w after => Sound caps w → Sound caps after) (Holding caps b) m fun _ => Holding caps b

namespace Keeps

variable {α β : Type} {caps : DacCapabilities} {b : Backend} {m : Run World α}

theorem bind {m : Run World β} {k : β → Run World α} (first : Keeps caps b m) (rest : ∀ x, Keeps caps b (k x)) :
    Keeps caps b (m >>= k) :=
  Follows.bind first rest

theorem pure {a : α} : Keeps caps b (Pure.pure a : Run World α) := Follows.pure fun _ => id

theorem ite {c : Prop} [Decidable c] {m' : Run World α} (yes : Keeps caps b m) (no : Keeps caps b m') :
    Keeps caps b (if c then m else m') :=
  Follows.ite (fun _ => yes) fun _ => no

theorem whenever {c : Prop} [Decidable c] {m : Run World Unit} (yes : Keeps caps b m) :
    Keeps caps b (Run.whenever c m) :=
  Follows.whenever (fun _ => yes) fun _ _ => id

theorem iterate {round : β → Run World (β ⊕ α)} (step : ∀ x, Keeps caps b (round x)) (fuel : Nat) (x : β) :
    Keeps caps b (Run.iterate fuel round x) := by
  refine Follows.iterate (fun _ => Holding caps b) (fun x => ?_) fuel x
  refine Follows.post (step x) fun next _ holds => ?_
  cases next <;> exact holds

theorem state {k : World → Run World α} (rest : ∀ w : World, w.backend = b → Keeps caps b (k w)) :
    Keeps caps b (Run.state >>= k) := by
  refine Follows.bind (M := fun w w' => w.backend = b ∧ Holding caps b w')
    (Follows.state fun w holding => ⟨holding.2, holding⟩) fun w => ?_
  exact Follows.assuming (fun _ known => known.1) fun held => (rest w held).pre fun _ known => known.2

theorem ofOption {o : Option α} : Keeps caps b (Run.ofOption o) := Follows.ofOption fun _ _ _ => id

theorem update {f : World → World} (untouched : ∀ w, Untouched w (f w)) : Keeps caps b (Run.update f) :=
  Follows.update (fun w _ => .single fun sound => sound.untouched (untouched w))
    fun w holding => ⟨holding.1.untouched (untouched w), (untouched w).backend.trans holding.2⟩

variable {env : Env}

theorem access : Keeps caps b (access env) := by
  refine .state fun w _ => ?_
  refine .ite ?_ Follows.cut
  refine Follows.update (fun w _ => .single fun sound => (sound.interleave env).1) fun w holding => ?_
  obtain ⟨sound, same⟩ := holding.1.interleave env
  exact ⟨sound, same.trans holding.2⟩

theorem note (aside : event.isAside = true) : Keeps caps b (note event) :=
  .update fun _ => ⟨rfl, rfl, .inr ⟨event, aside, rfl⟩⟩

theorem query {answer : World → α} : Keeps caps b (query env answer) :=
  .bind .access fun _ => .state fun _ _ => .pure

theorem command {answer : World → α} {event : World → α → Event} (aside : ∀ w a, (event w a).isAside = true) :
    Keeps caps b (command env answer event) :=
  .bind .access fun _ => .state fun _ _ => .bind (.note (aside _ _)) fun _ => .pure

end Keeps

section

variable (env : Env) {caps : DacCapabilities} {b : Backend}

theorem tryRecv_keeps : Keeps caps b (tryRecv env) := by
  refine .bind .access fun _ => .state fun w _ => ?_
  split
  · exact .pure
  · exact .bind (.update fun _ => ⟨rfl, rfl, .inl rfl⟩) fun _ => .pure

theorem processControlMessages_keeps : Keeps caps b (processControlMessages env) := by
  refine .iterate (fun action => .bind (tryRecv_keeps env) fun msg => ?_) _ _
  split <;> exact .pure

theorem closeHeld_keeps : Keeps caps b (closeHeld env) :=
  .bind .access fun _ => .update fun _ => ⟨rfl, rfl, .inr ⟨_, rfl, rfl⟩⟩

theorem closeIfDisarmed_keeps : Keeps caps b (closeIfDisarmed env) :=
  .bind .query fun _ => .state fun _ _ => .whenever (closeHeld_keeps env)

theorem checkControl_keeps : Keeps caps b (checkControl env) := by
  refine .bind .query fun stop => .ite .pure ?_
  refine .bind (closeIfDisarmed_keeps env) fun _ => .bind (processControlMessages_keeps env) fun action => ?_
  split <;> exact .pure

theorem sleepWithControlCheck_keeps (duration : Nat) : Keeps caps b (sleepWithControlCheck env duration) := by
  refine .bind .query fun start => .iterate (fun _ => ?_) _ _
  exact .bind .query fun now => .ite .pure (.bind .access fun _ => checkControl_keeps env)

theorem sleepUntilPrecise_keeps (deadline : Nat) : Keeps caps b (sleepUntilPrecise env deadline) := by
  refine .iterate (fun _ => .bind .query fun now => .ite .pure ?_) _ _
  exact .bind (.whenever .access) fun _ => checkControl_keeps env

theorem waitStep_keeps (duration : Nat) : Keeps caps b (waitStep env duration) :=
  .bind (sleepWithControlCheck_keeps env duration) fun _ => .pure

theorem disconnect_keeps (backend : Nat) : Keeps caps b (disconnect env backend) := .command fun _ _ => rfl

theorem report_keeps (error : Error) : Keeps caps b (report error) := .note rfl

theorem drainViaEstimator_keeps (pps timeout : Nat) : Keeps caps b (drainViaEstimator env pps timeout) := by
  refine .ite .pure (.state fun w _ => .bind .query fun start => .iterate (fun now => .ite ?_ .pure) _ _)
  refine .bind .query fun buffered => .ite .pure (.bind .query fun stop => .ite .pure ?_)
  refine .bind (closeIfDisarmed_keeps env) fun _ => .bind (processControlMessages_keeps env) fun action => ?_
  split
  · exact .bind .access fun _ => .bind .query fun _ => .pure
  · exact .pure

theorem sourceMismatch_keeps (adapter : String) : Keeps caps b (sourceMismatch adapter) :=
  .bind (report_keeps _) fun _ => .pure

theorem writeFailed_keeps (error : Error) : Keeps caps b (writeFailed env error) := by
  unfold writeFailed
  split
  · exact .pure
  · exact .bind (report_keeps _) fun _ => .pure
  · exact .state fun w _ => .bind (disconnect_keeps env _) fun _ => .bind (report_keeps _) fun _ => .pure

theorem noteWrite_keeps (supports : b.caps.Supports pps)
    (writes : event = .blanks b.id pps ∨
      ∃ slice result desired handled, event = .wrote b.id pps slice result desired handled) :
    Keeps caps b (note event) := by
  have recorded (w : World) (holding : Holding caps b w) : Sound caps (w.record event) := by
    obtain ⟨sound, rfl⟩ := holding
    exact sound.write supports writes
  exact Follows.update (fun w holding => .single fun _ => recorded w holding)
    fun w holding => ⟨recorded w holding, holding.2⟩

theorem write_keeps {answer : World → Except Error WriteOutcome} (supports : b.caps.Supports pps)
    (slice : List LaserPoint) : Keeps caps b (write env answer pps slice) := by
  refine .bind .access fun _ => .state fun w held => ?_
  refine .bind (noteWrite_keeps supports (.inr ⟨slice, answer w, w.desired, w.handledState, ?_⟩)) fun _ => .pure
  dsimp only
  rw [held]

theorem blankAndCloseShutter_keeps (supports : b.caps.Supports pps) : Keeps caps b (blankAndCloseShutter env pps) := by
  refine .bind (closeHeld_keeps env) fun _ => .bind .access fun _ => .state fun w held => ?_
  refine .bind (noteWrite_keeps supports (.inl ?_)) fun _ => .pure
  dsimp only
  rw [held]

theorem currentPps_supports :
    Follows (fun w after => Sound caps w → Sound caps after) (Holding caps b) (currentPps env)
      fun pps w => b.caps.Supports pps ∧ Holding caps b w := by
  refine Follows.bind Keeps.access fun _ => ?_
  refine Follows.bind (M := fun w after => w = after ∧ Holding caps b w) (Follows.state fun w holds => ⟨rfl, holds⟩)
    fun w => ?_
  refine Follows.assuming (fun _ known => known.2) fun holding : Holding caps b w => ?_
  have supports : b.caps.Supports w.shared.rate.pps := by
    obtain ⟨sound, rfl⟩ := holding
    exact sound.fitted.pps
  refine Follows.bind (Keeps.note rfl |>.pre ?_) fun _ => Follows.pure fun _ known => ⟨supports, known⟩
  rintro _ ⟨rfl, -⟩
  exact holding

theorem currentPps_keeps {α : Type} {k : Nat → Run World α} (rest : ∀ pps, b.caps.Supports pps → Keeps caps b (k pps)) :
    Keeps caps b (currentPps env >>= k) :=
  Follows.bind (currentPps_supports env) fun pps =>
    Follows.assuming (fun _ known => known.1) fun supports => (rest pps supports).pre fun _ known => known.2

theorem produce_keeps {isArmed : Bool} {result : World → Option (Nat × Source)} :
    Keeps caps b (produce env isArmed pps result) := by
  refine .bind .access fun _ => .state fun w _ => .bind .ofOption fun made => ?_
  refine .ite (.bind (.update fun _ => ⟨rfl, rfl, .inr ⟨_, rfl, rfl⟩⟩) fun _ => .pure) ?_
  exact .bind (.update fun _ => ⟨rfl, rfl, .inr ⟨_, rfl, rfl⟩⟩) fun _ => .pure

theorem commitWritten_keeps (n : Nat) (isArmed : Bool) : Keeps caps b (commitWritten n isArmed) :=
  .update fun _ => ⟨rfl, rfl, .inr ⟨_, rfl, rfl⟩⟩

theorem setAdapter_keeps (adapter : Adapter) : Keeps caps b (setAdapter adapter) :=
  .update fun _ => ⟨rfl, rfl, .inl rfl⟩

theorem changeSource_keeps (f : Source → Source) : Keeps caps b (changeSource f) :=
  .update fun _ => ⟨rfl, rfl, .inl rfl⟩

theorem networkFifo_spin_keeps (adapter : NetworkFifoAdapter) (supports : b.caps.Supports ctx.pps) (n spinStart : Nat)
    (desiredAtStart : Word) : Keeps caps b (adapter.spin env ctx n spinStart desiredAtStart) := by
  have wake : Keeps caps b NetworkFifoAdapter.spin.wake :=
    .bind (.update fun _ => ⟨rfl, rfl, .inr ⟨_, rfl, rfl⟩⟩) fun _ => .pure
  refine .state fun w _ => ?_
  split
  · exact .pure
  · next slice _ =>
    refine .bind (write_keeps env supports slice) fun result => ?_
    split
    · exact .bind (setAdapter_keeps _) fun _ => .bind (commitWritten_keeps _ _) fun _ => .pure
    · refine .bind .query fun stop => .ite .pure ?_
      refine .bind (processControlMessages_keeps env) fun action => .bind (closeIfDisarmed_keeps env) fun _ => ?_
      split
      · exact .pure
      · exact wake
      · refine .bind .query fun armed => .ite wake (.bind .query fun desired => .ite wake ?_)
        refine .bind .query fun now => .ite ?_ (.bind .access fun _ => .pure)
        exact .state fun w _ => .bind (disconnect_keeps env _) fun _ => .bind (report_keeps _) fun _ => .pure
    · exact .bind (writeFailed_keeps env _) fun _ => .pure

theorem networkFifo_step_keeps (adapter : NetworkFifoAdapter) (supports : b.caps.Supports ctx.pps) :
    Keeps caps b (adapter.step env ctx) := by
  refine .bind .query fun ceiling => .bind .query fun buffered => .ite (waitStep_keeps env _) ?_
  refine .ite (.bind .access fun _ => .pure) (.ite (waitStep_keeps env _) ?_)
  refine .state fun w _ => .ite (sourceMismatch_keeps _) (.bind (produce_keeps env) fun n => ?_)
  refine .ite (.bind .access fun _ => .pure) (.bind .query fun spinStart => .bind .query fun desired => ?_)
  exact .iterate (fun _ => networkFifo_spin_keeps env adapter supports _ _ _) _ _

theorem deliverRetained_keeps (supports : b.caps.Supports pps) (released : Adapter) {blocked : Run World StepOutcome}
    (blocks : Keeps caps b blocked) : Keeps caps b (deliverRetained env ctx pps released blocked) := by
  refine .state fun w _ => ?_
  split
  · exact .bind (setAdapter_keeps _) fun _ => .pure
  · next slice _ =>
    refine .bind (write_keeps env supports slice) fun result => ?_
    split
    · exact .bind (commitWritten_keeps _ _) fun _ => .bind (setAdapter_keeps _) fun _ => .pure
    · exact blocks
    · exact writeFailed_keeps env _

theorem udpTimed_step_keeps (adapter : UdpTimedAdapter) (ctx : LoopCtx) : Keeps caps b (adapter.step env ctx) := by
  refine .bind (sleepUntilPrecise_keeps env _) fun ended => ?_
  split
  · exact .pure
  · refine .bind .query fun now => .bind (setAdapter_keeps _) fun _ => currentPps_keeps env fun pps supports => ?_
    refine .bind (setAdapter_keeps _) fun _ => .state fun w _ => .ite (sourceMismatch_keeps _) ?_
    refine .bind (changeSource_keeps _) fun _ => .ite (deliverRetained_keeps env supports _ .pure) ?_
    refine .bind (produce_keeps env) fun n => .ite .pure (.bind (setAdapter_keeps _) fun _ => ?_)
    exact deliverRetained_keeps env supports _ .pure

theorem blocked_keeps : Keeps caps b (BlockingFifoAdapter.blocked env) := by
  refine .bind .query fun stop => .ite .pure (.bind (closeIfDisarmed_keeps env) fun _ => .bind .query fun armed => ?_)
  exact .ite (.bind .access fun _ => .pure) .pure

theorem blockingFifo_step_keeps (adapter : BlockingFifoAdapter) (supports : b.caps.Supports ctx.pps) :
    Keeps caps b (adapter.step env ctx) := by
  refine .ite (.state fun w _ => .ite (sourceMismatch_keeps _) ?_) (waitStep_keeps env _)
  refine .bind (changeSource_keeps _) fun _ => .ite (deliverRetained_keeps env supports _ (blocked_keeps env)) ?_
  refine .bind (produce_keeps env) fun n => .ite (.bind .access fun _ => .pure) (.bind (setAdapter_keeps _) fun _ => ?_)
  exact deliverRetained_keeps env supports _ (blocked_keeps env)

variable (adapter : UsbFrameSwapAdapter)

theorem frameFailed_keeps (error : Error) : Keeps caps b (adapter.frameFailed env error) := by
  unfold UsbFrameSwapAdapter.frameFailed
  split
  · exact .pure
  · exact .bind (report_keeps _) fun _ => .pure
  · refine .ite (.bind (setAdapter_keeps _) fun _ => .bind .access fun _ => .pure) ?_
    refine .bind (setAdapter_keeps _) fun _ => .state fun w _ => ?_
    exact .bind (disconnect_keeps env _) fun _ => .bind (report_keeps _) fun _ => .pure

theorem deliver_keeps (supports : b.caps.Supports ctx.pps) : Keeps caps b (adapter.deliver env ctx) := by
  refine .state fun w _ => ?_
  split
  · exact .bind (setAdapter_keeps _) fun _ => .pure
  · next slice _ =>
    refine .bind (write_keeps env supports slice) fun result => ?_
    split
    · refine .bind (commitWritten_keeps _ _) fun _ => .bind (setAdapter_keeps _) fun _ => ?_
      exact .ite (waitStep_keeps env _) .pure
    · exact .bind .access fun _ => .pure
    · exact frameFailed_keeps env adapter _

theorem usbFrameSwap_step_keeps (supports : b.caps.Supports ctx.pps) : Keeps caps b (adapter.step env ctx) := by
  refine .bind .query fun ready => ?_
  split
  · exact .bind (report_keeps _) fun _ => .pure
  · exact waitStep_keeps env _
  · refine .state fun w _ => .ite (.ite (deliver_keeps env adapter supports) ?_) (sourceMismatch_keeps _)
    refine .bind (produce_keeps env) fun n => .ite (.bind .access fun _ => .pure) ?_
    exact .bind (setAdapter_keeps _) fun _ => deliver_keeps env _ supports

theorem step_keeps (adapter : Adapter) (supports : b.caps.Supports ctx.pps) : Keeps caps b (adapter.step env ctx) := by
  cases adapter with
  | networkFifo adapter => exact networkFifo_step_keeps env adapter supports
  | udpTimed adapter => exact udpTimed_step_keeps env adapter ctx
  | blockingFifo adapter => exact blockingFifo_step_keeps env adapter supports
  | usbFrameSwap adapter => exact usbFrameSwap_step_keeps env adapter supports

theorem drainAndBlank_keeps (adapter : Adapter) (supports : b.caps.Supports pps) :
    Keeps caps b (adapter.drainAndBlank env pps) := by
  have drains : Keeps caps b (drainViaEstimator env pps env.drainTimeout) := drainViaEstimator_keeps env pps _
  cases adapter with
  | usbFrameSwap => exact blankAndCloseShutter_keeps env supports
  | blockingFifo =>
    refine .bind drains fun _ => .bind (.command fun _ _ => rfl) fun ok => ?_
    exact blankAndCloseShutter_keeps env supports
  | networkFifo | udpTimed => exact .bind drains fun _ => blankAndCloseShutter_keeps env supports

theorem commandClose_keeps (force : Bool) : Keeps caps b (commandClose env force) :=
  .state fun _ _ => .whenever (closeHeld_keeps env)

theorem changeSourceAt_keeps (aside : event.isAside = true) (f : Source → Source) :
    Keeps caps b (changeSourceAt event f) :=
  .update fun _ => ⟨rfl, rfl, .inr ⟨event, aside, rfl⟩⟩

theorem changeAdapterAt_keeps (aside : event.isAside = true) : Keeps caps b (changeAdapterAt event) :=
  .update fun _ => ⟨rfl, rfl, .inr ⟨event, aside, rfl⟩⟩

theorem setHandled_keeps (generation : Word) : Keeps caps b (setHandled generation) :=
  .update fun _ => ⟨rfl, rfl, .inr ⟨_, rfl, rfl⟩⟩

theorem fallingCleanup_keeps (desired : Word) : Keeps caps b (fallingCleanup env desired) := by
  refine .bind (commandClose_keeps env _) fun _ => .bind (changeSourceAt_keeps rfl _) fun _ => ?_
  refine .bind (changeAdapterAt_keeps rfl) fun _ => .bind (changeSourceAt_keeps rfl _) fun _ => ?_
  exact .bind (.note rfl) fun _ => setHandled_keeps desired

theorem risingPreparation_keeps (desired : Word) (pps : Nat) : Keeps caps b (risingPreparation env desired pps) := by
  refine .bind (changeSourceAt_keeps rfl _) fun _ => .bind (changeAdapterAt_keeps rfl) fun _ => ?_
  refine .bind (changeSourceAt_keeps rfl _) fun _ => .bind (.note rfl) fun _ => ?_
  refine .bind (.command fun _ _ => rfl) fun reset => ?_
  refine .ite (.bind (.note rfl) fun _ => .bind (setHandled_keeps desired) fun _ => .pure) (.state fun w _ => ?_)
  exact .bind (commandClose_keeps env _) fun _ => .bind (disconnect_keeps env _) fun _ => .pure

theorem settleShutter_keeps (desired : Word) : Keeps caps b (settleShutter env desired) := by
  have opens : Keeps caps b (openHeld env desired) :=
    .bind .access fun _ => .update fun _ => ⟨rfl, rfl, .inr ⟨_, rfl, rfl⟩⟩
  refine .ite (.bind .query fun current => .ite (.state fun w _ => ?_) .pure) (commandClose_keeps env _)
  exact .bind (.whenever opens) fun _ => .bind .query fun _ => .whenever (commandClose_keeps env _)

theorem prepareAndSettle_keeps (desired : Word) (pps : Nat) : Keeps caps b (prepareAndSettle env desired pps) := by
  refine .ite (.bind (risingPreparation_keeps env desired pps) fun outcome => ?_)
    (.bind (settleShutter_keeps env desired) fun _ => .pure)
  split
  · exact .pure
  · exact .bind (settleShutter_keeps env desired) fun _ => .pure

theorem handleShutterTransition_keeps (pps : Nat) : Keeps caps b (handleShutterTransition env pps) := by
  refine .bind (.command fun _ _ => rfl) fun words => ?_
  obtain ⟨desired, handled⟩ := words
  have moved : Keeps caps b (hasMoved env desired) :=
    .bind .query fun _ => .ite (.bind (.note rfl) fun _ => .pure) .pure
  refine .ite (.bind (settleShutter_keeps env desired) fun _ => .pure) ?_
  refine .ite (.bind (fallingCleanup_keeps env desired) fun _ => .bind moved fun _ => ?_)
    (prepareAndSettle_keeps env desired pps)
  exact .ite .pure (prepareAndSettle_keeps env desired pps)

theorem closeShutter_keeps (backend : Nat) : Keeps caps b (closeShutter env backend) := .command fun _ _ => rfl

theorem closeAndDisconnect_keeps (backend : Nat) : Keeps caps b (closeAndDisconnect env backend) :=
  .bind (closeShutter_keeps env backend) fun _ => disconnect_keeps env backend

theorem connect_keeps (backend : Backend) : Keeps caps b (backend.connect env) := by
  unfold Backend.connect
  split
  · exact .pure
  · refine .bind (.command fun _ _ => rfl) fun result => ?_
    obtain ⟨error, caps⟩ := result
    dsimp only
    split
    · exact .pure
    · exact .pure
    · exact .bind (disconnect_keeps env _) fun _ => .pure

theorem sleepWithStop_keeps (duration : Nat) : Keeps caps b (sleepWithStop env duration) := by
  refine .bind .query fun start => .iterate (fun _ => .bind .query fun stop => .ite .pure ?_) _ _
  exact .bind .query fun now => .ite (.bind .query fun _ => .pure) (.bind .access fun _ => .pure)

theorem validate_keeps (expectedFrameSwap : Bool) (info : DacCapabilities) (backend : Backend) :
    Keeps caps b (validate env expectedFrameSwap info backend) := by
  refine .ite (.bind (.note rfl) fun _ => .pure) (.bind (.command fun _ _ => rfl) fun pps => .state fun w _ => ?_)
  exact .bind (.note rfl) fun _ => .pure

theorem attempt_keeps (expectedFrameSwap : Bool) : Keeps caps b (attempt env expectedFrameSwap) := by
  refine .bind (.command fun _ _ => rfl) fun opened => ?_
  split
  · exact .pure
  · exact .pure
  · refine .bind (.state fun w _ => .bind (.update fun _ => ⟨rfl, rfl, .inr ⟨_, rfl, rfl⟩⟩) fun _ => .pure)
      fun backend => .bind (validate_keeps env _ _ _) fun rejected => ?_
    split
    · exact .bind (closeAndDisconnect_keeps env _) fun _ => .pure
    · refine .bind (.bind (.command fun _ _ => rfl) fun _ => .ite .pure (connect_keeps env _)) fun result => ?_
      split
      · exact .bind (closeAndDisconnect_keeps env _) fun _ => .pure
      · refine .bind (closeShutter_keeps env _) fun closed => .ite ?_ ?_
        · refine .bind (validate_keeps env _ _ _) fun rejected => ?_
          split
          · exact .bind (closeAndDisconnect_keeps env _) fun _ => .pure
          · exact .pure
        · exact .bind (closeAndDisconnect_keeps env _) fun _ => .pure

theorem reconnectBackendWithRetry_keeps (policy : ReconnectPolicy) (expectedFrameSwap : Bool) :
    Keeps caps b (reconnectBackendWithRetry env policy expectedFrameSwap) := by
  refine .bind .query fun flapping => .iterate (fun retries => .bind .query fun stop => .ite .pure (.ite .pure ?_)) _ _
  refine .bind (.ite (sleepWithStop_keeps env _) .pure) fun interrupted => .ite .pure ?_
  refine .bind (attempt_keeps env _) fun result => ?_
  split <;> exact .pure

theorem Sound.install (sound : Sound caps w) (info : DacCapabilities) {backend : Backend} {shared : Shared}
    (bounds : (true, shared) = w.shared.updatePpsBounds backend.caps.ppsMin backend.caps.ppsMax) :
    Sound caps (World.install env info backend shared w) := by
  unfold Shared.updatePpsBounds at bounds
  split at bounds
  · cases bounds
  · next inside =>
    obtain ⟨-, rfl⟩ := Prod.mk.inj bounds
    rw [not_or, Nat.not_lt, Nat.not_lt] at inside
    exact ⟨⟨trivial, sound.log⟩, rfl, rfl, rfl, inside⟩

end

/-- What is kept holds again, whatever backend is then held. -/
abbrev Restores {α : Type} (caps : DacCapabilities) (b : Backend) (m : Run World α) : Prop :=
  Follows (fun w after => Sound caps w → Sound caps after) (Holding caps b) m fun _ => Sound caps

theorem Keeps.restores {α : Type} {caps : DacCapabilities} {b : Backend} {m : Run World α} (keeps : Keeps caps b m) :
    Restores caps b m :=
  Follows.post keeps fun _ _ holding => holding.1

section

variable (env : Env) {caps : DacCapabilities} {b : Backend}

theorem reconnect_restores : Restores caps b (reconnect env) := by
  unfold reconnect
  split
  · exact Keeps.restores .pure
  · next policy _ =>
    have retried (expectedFrameSwap : Bool) : Keeps caps b (reconnectBackendWithRetry env policy expectedFrameSwap) :=
      reconnectBackendWithRetry_keeps env policy expectedFrameSwap
    refine Follows.bind (M := fun _ => Holding caps b) (Follows.state fun _ => id) fun w => ?_
    refine Follows.bind (retried _) fun result => ?_
    split
    · exact Keeps.restores .pure
    · next info backend =>
      refine Follows.bind Keeps.access fun _ => ?_
      refine Follows.bind (M := fun w after => w = after ∧ Holding caps b w) (Follows.state fun w holds => ⟨rfl, holds⟩)
        fun w => ?_
      cases bounds : w.shared.updatePpsBounds backend.caps.ppsMin backend.caps.ppsMax with
      | mk accepted =>
        refine Follows.ite (fun yes => ?_) fun _ => ?_
        · obtain rfl : accepted = true := yes
          refine Follows.bind (M := fun _ => Sound caps) (Follows.update ?_ ?_) fun _ => Follows.pure fun _ => id
          · rintro _ ⟨rfl, -⟩
            exact .single fun sound => sound.install env info bounds.symm
          · rintro _ ⟨rfl, sound, -⟩
            exact sound.install env info bounds.symm
        · refine Follows.pre (Keeps.restores ?_) fun after known => known.1 ▸ known.2
          exact .bind (closeAndDisconnect_keeps env _) fun _ => .pure

theorem recover_restores : Restores caps b (recover env) := by
  refine Follows.bind (reconnect_restores env) fun exit => ?_
  split <;> exact Follows.pure fun _ => id

theorem stopAndCloseShutter_keeps : Keeps caps b (stopAndCloseShutter env) :=
  .bind (commandClose_keeps env _) fun _ => .pure

theorem intake_keeps : Keeps caps b (intake env) := by
  refine .bind .query fun delay => .bind (changeSource_keeps _) fun _ => .whenever (.bind .access fun _ => ?_)
  refine .update fun w => ?_
  split
  all_goals exact ⟨rfl, rfl, .inl rfl⟩

theorem finish_keeps (supports : b.caps.Supports pps) : Keeps caps b (finish env pps) := by
  refine .state fun w _ => .ite (.bind (changeSource_keeps _) fun _ => .ite ?_ ?_) .pure
  · exact .bind (commandClose_keeps env _) fun _ => .pure
  · exact .bind (drainAndBlank_keeps env _ supports) fun _ => .pure

theorem pass_restores : Restores caps b (pass env) := by
  have isConnected_keeps (backend : Nat) : Keeps caps b (isConnected env backend) := .command fun _ _ => rfl
  have armedRead_keeps : Keeps caps b (armedRead env) := .bind (.command fun _ _ => rfl) fun _ => .pure
  have look : Keeps caps b (isStopRequested env) := .query
  refine Follows.bind (Keeps.note rfl) fun _ => Follows.bind look fun stop => ?_
  refine Follows.ite (fun _ => (stopAndCloseShutter_keeps env).restores) fun _ => ?_
  refine Follows.bind (currentPps_supports env) fun pps => ?_
  refine Follows.assuming (fun _ known => known.1) fun supports => Follows.pre ?_ fun _ known => known.2
  refine Follows.bind (intake_keeps env) fun _ => ?_
  refine Follows.bind (M := fun _ => Holding caps b) (Follows.state fun _ => id) fun w => ?_
  refine Follows.bind (isConnected_keeps _) fun connected => ?_
  refine Follows.ite (fun _ => ?_) fun _ => recover_restores env
  refine Follows.bind (processControlMessages_keeps env) fun action => ?_
  split
  · exact (stopAndCloseShutter_keeps env).restores
  · refine Follows.bind (handleShutterTransition_keeps env pps) fun outcome => ?_
    split
    · exact recover_restores env
    · refine Follows.bind armedRead_keeps fun isArmed => ?_
      refine Follows.bind (M := fun _ => Holding caps b) (Follows.state fun _ => id) fun w => ?_
      refine Follows.bind (step_keeps env _ supports) fun outcome => ?_
      split
      · exact (stopAndCloseShutter_keeps env).restores
      · exact recover_restores env
      · exact (finish_keeps env supports).restores

theorem restores_any {α : Type} {m : Run World α} (each : ∀ b, Restores caps b m) :
    Follows (fun w after => Sound caps w → Sound caps after) (Sound caps) m fun _ => Sound caps :=
  fun w sound => each w.backend w ⟨sound, rfl⟩

theorem run_follows :
    Follows (fun w after => Sound caps w → Sound caps after) (Sound caps) (run env) fun _ => Sound caps := by
  have loop : Follows (fun w after => Sound caps w → Sound caps after) (Sound caps) (runLoop env)
      fun _ => Sound caps := by
    refine Follows.bind (M := fun _ => Sound caps) (Follows.state fun _ => id) fun w => ?_
    split
    · refine restores_any fun b => Keeps.restores ?_
      exact .bind (closeHeld_keeps env) fun _ => .bind (disconnect_keeps env _) fun _ => .pure
    · refine Follows.bind (M := fun _ => Sound caps) (restores_any fun b => (setAdapter_keeps _).restores) fun _ => ?_
      refine Follows.iterate (fun _ => Sound caps) (fun _ => ?_) _ _
      refine Follows.post (restores_any fun b => pass_restores env) fun next _ sound => ?_
      cases next <;> exact sound
  refine Follows.bind loop fun result => restores_any fun b => Keeps.restores ?_
  refine .bind (.note rfl) fun _ => .bind (.state fun w _ => .bind (.command fun _ _ => rfl) fun _ => ?_) fun _ => .pure
  exact .whenever (.bind (.command fun _ _ => rfl) fun _ => disconnect_keeps env _)

end

theorem start_sound {session : Session} (valid : session.caps.Supports session.pps) :
    Sound session.caps session.start :=
  ⟨trivial, rfl, rfl, rfl, valid⟩

/-- In every run of a session that started with a valid rate, every write goes to the backend that is held, at a rate
it supports, and the stored rate and its bounds are those of that backend, whatever other threads do and however often
the backend is replaced. -/
theorem writes_rated (env : Env) (session : Session) (valid : validatePps session.caps session.pps = .ok ()) :
    Always (Rated session.caps) (session.finished env).log ∧
      heldAfter session.caps (session.finished env).log =
        ((session.finished env).backend.id, (session.finished env).backend.caps) ∧
      Fitted (session.finished env) := by
  have start := start_sound (validatePps_ok valid)
  have sound : Sound session.caps (session.finished env) := by
    rw [Session.finished]
    exact (run_follows env).keeps (fun _ _ holds step => step holds) session.start start start
  exact ⟨sound.log, sound.held, sound.fitted⟩

/-- A device with a smaller range than the one that a queue session starts with. -/
def narrow : DacCapabilities := { (Session.queue 0 0).caps with ppsMin := 1000, ppsMax := 2000 }

/-- The connection is lost after a first write, and the replacement has a smaller range. One thread sets a rate at the
start, and two more when the replacement is held, of which the first is beyond its range. -/
def narrowing : Env :=
  { Env.acting (.sendFrame .bright :: Action.wholeArm ++ [.setPps 1500]) 33 [.setPps 90000, .setPps 2000] with
    isConnected := fun tick => tick < 20 ∨ 30 < tick
    connect := fun _ => (none, narrow)
    openDevice := fun _ => .device narrow false narrow
    reconnectPolicy := some { maxRetries := some 1, backoff := 0 } }

theorem writes_rated_narrowing :
    (((Session.queue 0 0).finished narrowing).backend.caps = narrow ∧
      ((Session.queue 0 0).finished narrowing).shared.rate.pps = 2000) ∧
    Always (Rated (Session.queue 0 0).caps) ((Session.queue 0 0).finished narrowing).log ∧
      heldAfter (Session.queue 0 0).caps ((Session.queue 0 0).finished narrowing).log =
        (((Session.queue 0 0).finished narrowing).backend.id, ((Session.queue 0 0).finished narrowing).backend.caps) ∧
      Fitted ((Session.queue 0 0).finished narrowing) :=
  ⟨by decide +kernel, writes_rated narrowing (Session.queue 0 0) rfl⟩

end Rates

end LaserDac
