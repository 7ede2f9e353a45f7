import LaserDac.Helios
import LaserDac.Sessions

/-!
Giving up a backend. Every way to a replacement or out of the loop first closes the held backend's shutter,
disconnects it, or has found it disconnected. In the last case nothing is commanded any more.
-/

namespace LaserDac

open Runs Runs.Run

/-- The backend was told to open its shutter, and since then neither to close it nor to disconnect. -/
def leftOpen (backend : Nat) : List Event → Bool
  | [] => false
  | .opened target _ _ :: earlier => target == backend || leftOpen backend earlier
  | .closed target _ :: earlier => target != backend && leftOpen backend earlier
  | .disconnected target :: earlier => target != backend && leftOpen backend earlier
  | _ :: earlier => leftOpen backend earlier

/-- When a replacement is opened, the held backend was last told to disconnect or says that it is not connected;
and no backend is replaced that was left open. -/
@[reducible] def Releases : Event → List Event → Prop
  | .opening held connected, earlier =>
    held = (trace earlier).held ∧ ((trace earlier).released ∨ connected = false)
  | .installed _ _ _, earlier => leftOpen (trace earlier).held earlier = false
  | _, _ => True

/-- A backend that failed as disconnected says so when a replacement is opened, and none that fails so, or says
that it is not connected, has been left open. -/
@[reducible] def FailsClosed : Event → List Event → Prop
  | .opening _ connected, earlier => (trace earlier).failed → connected = false
  | .wrote backend _ _ (.error error) _ _, earlier => error.isDisconnected → leftOpen backend earlier = false
  | .connected backend answer, earlier => answer = false → leftOpen backend earlier = false
  | _, _ => True

instance : ∀ event earlier, Decidable (Releases event earlier) := Event.decidableLaw

instance : ∀ event earlier, Decidable (FailsClosed event earlier) := Event.decidableLaw

/-! ### The held backend -/

/-- A backend that was left open has neither been disconnected nor failed. -/
def Shut (log : List Event) : Prop :=
  leftOpen (trace log).held log → (trace log).released = false ∧ (trace log).failed = false

variable {event : Event}

theorem Trace.next_held (t : Trace) (other : ∀ backend pps caps, event ≠ .installed backend pps caps) :
    (t.next event).held = t.held := by
  cases event with
  | installed backend pps caps => exact absurd rfl (other backend pps caps)
  | wrote backend pps slice result desired handled =>
    rcases result with error | outcome
    · simp only [next]
      split <;> simp
    · cases outcome <;> simp [next]
  | connected backend answer => cases answer <;> simp [next]
  | disconnected backend =>
    simp only [next]
    split <;> rfl
  | _ => simp [next]

theorem Trace.commanded_released (backend : Nat) (t : Trace) :
    t.released = false → (t.commanded backend).released = false := by
  unfold commanded
  split
  · exact fun _ => rfl
  · exact id

theorem Shut.next {log : List Event} (shut : Shut log) (other : ∀ backend pps caps, event ≠ .installed backend pps caps)
    (alive : ∀ backend generation ok, event = .opened backend generation ok → (trace log).failed = false)
    (closed : FailsClosed event log) : Shut (event :: log) := by
  intro isOpen
  have held : (trace (event :: log)).held = (trace log).held := Trace.next_held _ other
  rw [held] at isOpen
  change ((trace log).next event).released = false ∧ ((trace log).next event).failed = false
  cases event with
  | installed backend pps caps => exact absurd rfl (other backend pps caps)
  | opened backend generation ok =>
    have alive := alive backend generation ok rfl
    refine ⟨?_, by simpa [Trace.next] using alive⟩
    by_cases own : backend = (trace log).held
    · simp [Trace.next, Trace.shuttered, own]
    · have before : leftOpen (trace log).held log := by simpa [leftOpen, own] using isOpen
      simpa [Trace.next, Trace.shuttered, own] using (shut before).1
  | closed backend ok =>
    obtain ⟨foreign, before⟩ : backend ≠ (trace log).held ∧ leftOpen (trace log).held log := by
      simpa [leftOpen] using isOpen
    simpa [Trace.next, Trace.shuttered, foreign] using shut before
  | disconnected backend =>
    obtain ⟨foreign, before⟩ : backend ≠ (trace log).held ∧ leftOpen (trace log).held log := by
      simpa [leftOpen] using isOpen
    simpa [Trace.next, foreign] using shut before
  | connected backend answer =>
    have before : leftOpen (trace log).held log := isOpen
    cases answer with
    | true => exact shut before
    | false =>
      have foreign : backend ≠ (trace log).held := by
        rintro rfl
        have shut := closed rfl
        simp [before] at shut
      simpa [Trace.next, Trace.lost, foreign] using shut before
  | wrote backend pps slice result desired handled =>
    obtain ⟨released, failed⟩ := shut isOpen
    have released := Trace.commanded_released backend _ released
    rcases result with error | outcome
    · by_cases fatal : error.isDisconnected
      · have foreign : backend ≠ (trace log).held := by
          rintro rfl
          have shut := closed fatal
          have isOpen : leftOpen (trace log).held log := isOpen
          simp [isOpen] at shut
        simpa [Trace.next, fatal, Trace.lost, foreign, failed] using released
      · simpa [Trace.next, fatal, failed] using released
    · cases outcome <;> exact ⟨released, by simpa [Trace.next] using failed⟩
  | rising step generation =>
    obtain ⟨released, failed⟩ := shut isOpen
    exact ⟨Trace.commanded_released _ _ released, by simpa [Trace.next] using failed⟩
  | blanks backend pps =>
    obtain ⟨released, failed⟩ := shut isOpen
    exact ⟨Trace.commanded_released _ _ released, by simpa [Trace.next] using failed⟩
  | resetBuffer backend ok =>
    obtain ⟨released, failed⟩ := shut isOpen
    exact ⟨Trace.commanded_released _ _ released, by simpa [Trace.next] using failed⟩
  | stopped backend =>
    obtain ⟨released, failed⟩ := shut isOpen
    exact ⟨Trace.commanded_released _ _ released, by simpa [Trace.next] using failed⟩
  | _ => exact shut isOpen

/-- An event that concerns no backend but the held one, if it is one of these. -/
structure ForHeld (w : World) (event : Event) : Prop where
  kept : ∀ backend pps caps, event ≠ .installed backend pps caps
  opened : ∀ backend generation ok, event = .opened backend generation ok →
    backend = w.backend.id ∧ w.trace.failed = false
  opening : ∀ held connected, event = .opening held connected →
    held = w.backend.id ∧ (w.trace.released ∨ w.trace.failed)

/-- How a step concerns the held backend. -/
theorem Step.held_cases {w w' : World} (step : Step w w') :
    (w'.log = w.log ∧ w'.backend = w.backend) ∨
      (∃ event, w'.log = event :: w.log ∧ w'.backend = w.backend ∧ ForHeld w event) ∨
      ∃ pps caps, w'.log = .installed w'.backend.id pps caps :: w.log ∧ w.backend.id < w'.backend.id ∧
        (w.trace.released ∨ w.trace.failed) := by
  cases step with
  | silent | tuned => exact .inl ⟨rfl, rfl⟩
  | @noted event allowed =>
    refine .inr (.inl ⟨event, rfl, rfl, ?_, ?_, ?_⟩)
    · rintro backend pps caps rfl
      cases allowed with
      | neutral harmless => exact harmless
    · rintro backend generation ok rfl
      cases allowed with
      | neutral harmless => exact harmless.elim
    · rintro held connected rfl
      cases allowed with
      | neutral harmless => exact harmless
  | opened generation ok ready armed alive =>
    refine .inr (.inl ⟨_, rfl, rfl, by rintro _ _ _ ⟨⟩, ?_, by rintro _ _ ⟨⟩⟩)
    rintro _ _ _ ⟨⟩
    exact ⟨rfl, alive⟩
  | installed env info backend shared gone position fresh => exact .inr (.inr ⟨_, _, rfl, fresh, gone⟩)
  | _ => exact .inr (.inl ⟨_, rfl, rfl, by rintro _ _ _ ⟨⟩, by rintro _ _ _ ⟨⟩, by rintro _ _ ⟨⟩⟩)

/-- What every step keeps of the held backend. -/
structure Releasing (w : World) : Prop where
  held : w.trace.held = w.backend.id
  shut : Shut w.log
  /-- No later backend has been commanded to open. -/
  unopened : ∀ backend, w.backend.id < backend → leftOpen backend w.log = false
  releases : Always Releases w.log

namespace Releasing

variable {w : World}

theorem unopened_next (releasing : Releasing w) (forHeld : ForHeld w event) (backend : Nat)
    (later : w.backend.id < backend) : leftOpen backend (event :: w.log) = false := by
  have before := releasing.unopened backend later
  cases event with
  | opened target generation ok =>
    obtain ⟨rfl, -⟩ := forHeld.opened target generation ok rfl
    simp [leftOpen, before, Nat.ne_of_lt later]
  | closed | disconnected => simp [leftOpen, before]
  | _ => exact before

theorem releases_next (releasing : Releasing w) (forHeld : ForHeld w event) (closed : FailsClosed event w.log) :
    Releases event w.log := by
  cases event with
  | installed backend pps caps => exact absurd rfl (forHeld.kept backend pps caps)
  | opening held connected =>
    obtain ⟨rfl, gone⟩ := forHeld.opening held connected rfl
    exact ⟨releasing.held.symm, gone.imp_right closed⟩
  | _ => trivial

theorem step (w w' : World) (releasing : Releasing w) (closed : Always FailsClosed w'.log) (step : Step w w') :
    Releasing w' := by
  obtain ⟨held, shut, unopened, releases⟩ := id releasing
  rcases step.held_cases with ⟨log, backend⟩ | ⟨event, log, backend, forHeld⟩ | ⟨pps, caps, log, fresh, gone⟩
  · exact ⟨by rw [World.trace, log, backend, held], log ▸ shut, log ▸ backend ▸ unopened, log ▸ releases⟩
  · rw [log] at closed
    refine ⟨?_, ?_, ?_, ?_⟩
    · rw [World.trace, log, backend, ← held]
      exact Trace.next_held _ forHeld.kept
    · rw [log]
      exact shut.next forHeld.kept (fun _ _ _ eq => (forHeld.opened _ _ _ eq).2) closed.1
    · rw [log, backend]
      exact releasing.unopened_next forHeld
    · rw [log]
      exact ⟨releasing.releases_next forHeld closed.1, releases⟩
  · have isShut : leftOpen w.trace.held w.log = false := by
      by_contra isOpen
      obtain ⟨released, failed⟩ := shut (by simpa using isOpen)
      rcases gone with gone | gone
      · exact absurd gone (by simp [released])
      · exact absurd gone (by simp [failed])
    refine ⟨?_, ?_, ?_, ?_⟩
    · rw [World.trace, log]
      rfl
    · rw [log]
      intro isOpen
      have new := unopened _ fresh
      exact absurd (show leftOpen w'.backend.id w.log = true from isOpen) (by simp [new])
    · rw [log]
      exact fun backend later => unopened backend (Nat.lt_trans fresh later)
    · rw [log]
      exact ⟨isShut, releases⟩

theorem start (session : Session) : Releasing session.start := ⟨rfl, nofun, fun _ _ => rfl, trivial⟩

end Releasing

/-- With any adapter, any results and any policy, the held backend is released before a replacement is opened
and not left open when it is replaced, if one that fails as disconnected says so and has not been left open. -/
theorem backend_released (env : Env) (session : Session) (closed : Always FailsClosed (session.after env).log) :
    Always Releases (session.after env).log :=
  (session.after_keeps env _ Releasing (.start session) Releasing.step closed).releases

/-- Every write fails, though the device stays reachable; opening a replacement succeeds. -/
def Env.corrupting : Env := { Env.acting (.sendFrame .bright :: Action.wholeArm) 0 [] with
  write := fun _ => .error (.backend "short write")
  openDevice := fun _ => .device (Session.queue 0 0).caps false (Session.queue 0 0).caps
  reconnectPolicy := some { maxRetries := some 1, backoff := 0 } }

theorem backend_released_after_short_write :
    Always FailsClosed ((Session.queue 0 0).after .corrupting).log ∧
      Always Releases ((Session.queue 0 0).after .corrupting).log :=
  ⟨by decide +kernel, backend_released .corrupting (Session.queue 0 0) (by decide +kernel)⟩

/-- A backend is only used while it is held, and its shutter only opened as long as it has not failed. -/
def UsesHeld : Event → List Event → Prop
  | .opened backend _ _, earlier => backend = (trace earlier).held ∧ (trace earlier).failed = false
  | .wrote backend _ _ _ _ _, earlier => backend = (trace earlier).held
  | .blanks backend _, earlier => backend = (trace earlier).held
  | .resetBuffer backend _, earlier => backend = (trace earlier).held
  | _, _ => True

theorem Step.usesHeld {w w' : World} (step : Step w w') (held : w.trace.held = w.backend.id)
    (uses : Always UsesHeld w.log) : Always UsesHeld w'.log := by
  cases step with
  | silent | tuned => exact uses
  | opened generation ok ready armed alive => exact ⟨⟨held.symm, alive⟩, uses⟩
  | @noted event allowed =>
    refine ⟨?_, uses⟩
    cases allowed with
    | wrote => exact held.symm
    | neutral harmless =>
      cases event with
      | blanks | resetBuffer => exact harmless.trans held.symm
      | _ => trivial
    | _ => trivial
  | _ => exact ⟨trivial, uses⟩

/-- In every run, what is written, blanked and reset and the shutter that is opened are those of the backend installed
last, and no shutter is opened once that has failed as disconnected or was found gone. -/
theorem held_backend_used (env : Env) (session : Session) : Always UsesHeld (session.after env).log := by
  refine (session.after_keeps env (fun _ _ => True) (fun w => w.trace.held = w.backend.id ∧ Always UsesHeld w.log)
    ⟨rfl, trivial⟩ ?_ (.of_forall (fun _ _ => trivial) _)).2
  rintro w w' ⟨held, uses⟩ - step
  refine ⟨?_, step.usesHeld held uses⟩
  rcases step.held_cases with ⟨log, backend⟩ | ⟨event, log, backend, forHeld⟩ | ⟨pps, caps, log, -, -⟩
  · rw [World.trace, log, backend, held]
  · rw [World.trace, log, backend, ← held]
    exact Trace.next_held _ forHeld.kept
  · rw [World.trace, log]
    rfl

/-- A Helios frame whose bulk transfer fails: the result of the write, and the backend after it. -/
def HeliosBackend.failedWrite : Except Error WriteOutcome × HeliosBackend :=
  writeFrameAfterReady "helios write_frame bulk transfer"
    (.error (.usbError { kind := .io, text := "Input/Output Error" }))
    { dac := some .open, fatalDisconnect := false }

/-- A Helios that fails to take the first frame of an armed session. -/
def Env.helios (reconnectPolicy : Option ReconnectPolicy) : Env :=
  { Env.acting (.sendFrame .bright :: Action.wholeArm) 0 [] with
    write := fun _ => HeliosBackend.failedWrite.1
    isConnected := fun _ => HeliosBackend.failedWrite.2.isConnected
    openDevice := fun _ => .device Session.frames.caps true Session.frames.caps
    reconnectPolicy }

/-- The failed Helios holds its handle and its shutter is open, while a replacement is opened and installed. -/
theorem helios_not_released :
    ¬ Always Releases (Session.frames.after (.helios (some { maxRetries := some 1, backoff := 0 }))).log := by
  decide +kernel

def hasExited (log : List Event) : Bool :=
  log.any fun event => match event with
    | .exited _ => true
    | _ => false

/-- The device is stopped only after its shutter was closed, if that was ever opened. -/
@[reducible] def ClosedBeforeStop : Event → List Event → Prop
  | .stopped backend, earlier => backend = (trace earlier).held ∧ (trace earlier).shutter ≠ some true
  | _, _ => True

/-- A backend that failed as disconnected or was told to disconnect says so when the session ends. -/
@[reducible] def GoneAtEnd : Event → List Event → Prop
  | .connected _ answer, earlier =>
    hasExited earlier → (trace earlier).released ∨ (trace earlier).failed → answer = false
  | _, _ => True

instance : ∀ event earlier, Decidable (ClosedBeforeStop event earlier) := Event.decidableLaw

instance : ∀ event earlier, Decidable (GoneAtEnd event earlier) := Event.decidableLaw

def EndsClosed (w : World) : Prop := Always GoneAtEnd w.log → Always ClosedBeforeStop w.log

theorem EndsClosed.record {w : World} (ends : EndsClosed w)
    (closed : Always GoneAtEnd (event :: w.log) → ClosedBeforeStop event w.log) : EndsClosed (w.record event) :=
  fun gone => ⟨closed gone, ends gone.2⟩

/-- The loop never stops the device. -/
theorem EndsClosed.step (w w' : World) (step : Step w w') (ends : EndsClosed w) : EndsClosed w' := by
  cases step with
  | silent | tuned => exact ends
  | @noted event allowed =>
    refine ends.record fun _ => ?_
    cases allowed with
    | neutral harmless => cases event <;> first | exact trivial | exact harmless.elim
    | _ => trivial
  | _ => exact fun gone => ⟨trivial, ends gone.2⟩

def Closes {α : Type} (P : World → Prop) (m : Run World α) (Q : α → World → Prop) : Prop :=
  Follows (fun w w' => EndsClosed w → EndsClosed w') P m Q

/-- The loop has exited, and the shutter is closed or the backend given up. -/
structure Over (w : World) : Prop where
  exited : hasExited w.log
  held : w.trace.held = w.backend.id
  closed : w.trace.shutter ≠ some true ∨ w.trace.released ∨ w.trace.failed

/-- The backend has answered whether it is connected. -/
structure Asked (answer : Bool) (w : World) : Prop where
  held : w.trace.held = w.backend.id
  closed : answer → Always GoneAtEnd w.log → w.trace.shutter ≠ some true

/-- What other threads may do between two actions does not matter. -/
def Quiescent (P : World → Prop) : Prop :=
  ∀ w w', P w → w'.status = w.status → (hasExited w.log → hasExited w'.log) →
    (Always GoneAtEnd w'.log → Always GoneAtEnd w.log) → P w'

theorem Over.quiescent : Quiescent Over := by
  intro w w' ended same exited _
  have trace : w'.trace = w.trace := congrArg Status.trace same
  have backend : w'.backend = w.backend := congrArg Status.backend same
  exact ⟨exited ended.exited, by rw [trace, backend]; exact ended.held, by rw [trace]; exact ended.closed⟩

theorem Asked.quiescent (answer : Bool) : Quiescent (Asked answer) := by
  intro w w' asked same _ gone
  have trace : w'.trace = w.trace := congrArg Status.trace same
  have backend : w'.backend = w.backend := congrArg Status.backend same
  exact ⟨by rw [trace, backend]; exact asked.held, by rw [trace]; exact fun yes always => asked.closed yes (gone always)⟩

theorem steps_log {w w' : World} (path : Relation.ReflTransGen Step w w') :
    (hasExited w.log → hasExited w'.log) ∧ (Always GoneAtEnd w'.log → Always GoneAtEnd w.log) := by
  induction path with
  | refl => exact ⟨id, id⟩
  | tail _ step ih =>
    rcases step.log_eq with same | ⟨event, grown⟩
    · exact same ▸ ih
    · refine ⟨fun exited => ?_, fun gone => ih.2 (grown ▸ gone).2⟩
      rw [grown, hasExited, List.any_cons, Bool.or_eq_true]
      exact .inr (ih.1 exited)

theorem access_closes (env : Env) {P : World → Prop} (quiescent : Quiescent P) :
    Closes P (access env) fun _ => P := by
  refine Follows.bind (M := fun _ => P) (Follows.state fun _ => id) fun w => ?_
  refine Follows.ite (fun _ => ?_) fun _ => Follows.cut
  refine Follows.update (fun w _ => ?_) fun w holds => ?_
  · obtain ⟨path, -⟩ := w.interleave_steps env
    exact Relation.ReflTransGen.mono EndsClosed.step _ _ path
  · obtain ⟨path, same⟩ := w.interleave_steps env
    exact quiescent w _ holds same (steps_log path).1 (steps_log path).2

theorem command_closes (env : Env) {α : Type} {P : World → Prop} {Q : α → World → Prop} {answer : World → α}
    {event : World → α → Event} (quiescent : Quiescent P)
    (closed : ∀ w, P w → Always GoneAtEnd (event w (answer w) :: w.log) →
      ClosedBeforeStop (event w (answer w)) w.log)
    (post : ∀ w, P w → Q (answer w) (w.record (event w (answer w)))) : Closes P (command env answer event) Q :=
  command_follows env (access_closes env quiescent) (fun w known ends => ends.record (closed w known)) post

theorem endSession_closes (env : Env) : Closes Over (endSession env) fun _ _ => True := by
  refine Follows.bind (M := fun held w => held.backend.id = w.backend.id ∧ Over w)
    (Follows.state fun w ended => ⟨rfl, ended⟩) fun held => ?_
  refine Follows.bind (M := Asked) ?_ fun answer => ?_
  · refine Follows.pre (P := Over) ?_ fun _ known => known.2
    refine command_closes env Over.quiescent (fun _ _ _ => trivial) fun w ended => ⟨?_, fun yes gone => ?_⟩
    · rw [World.trace_record, Trace.next_held _ (by rintro _ _ _ ⟨⟩)]
      exact ended.held
    · have still : ¬ (w.trace.released ∨ w.trace.failed) := by
        intro lost
        have answered := gone.1 ended.exited lost
        rw [yes] at answered
        cases answered
      rw [World.trace_record, yes]
      exact ended.closed.resolve_right still
  refine Follows.whenever (fun connected => ?_) fun _ _ _ => trivial
  refine Follows.bind (M := fun _ _ => True) ?_ fun _ => ?_
  · refine command_closes env (Asked.quiescent answer) (fun w asked gone => ?_) fun _ _ => trivial
    exact ⟨asked.held.symm, asked.closed connected gone.2⟩
  · exact command_closes env (fun _ _ _ _ _ _ => trivial) (fun _ _ _ => trivial) fun _ _ => trivial

theorem run_closes (env : Env) : Closes (fun w => Fresh w.status) (run env) fun _ _ => True := by
  refine Follows.bind ((runLoop_drives env).mono EndsClosed.step) fun result => ?_
  refine Follows.bind (M := fun _ => Over) ?_ fun _ => ?_
  · refine Follows.update (fun w _ => .single fun ends => ends.record fun _ => trivial) fun w exits => ?_
    exact ⟨rfl, exits.held, exits.closed⟩
  · exact Follows.bind (endSession_closes env) fun _ => Follows.pure fun _ _ => trivial

/-- Whatever ends a session, its device is stopped with the shutter closed, if a backend that failed as
disconnected or was told to disconnect says so at the end. -/
theorem session_ends_closed (env : Env) (session : Session) (gone : Always GoneAtEnd (session.finished env).log) :
    Always ClosedBeforeStop (session.finished env).log := by
  rw [Session.finished] at gone ⊢
  have keeps := (run_closes env).keeps (I := EndsClosed) (fun _ _ ends keep => keep ends) session.start
  exact keeps session.start_fresh (fun _ => trivial) gone

/-- An armed session is stopped while it writes. -/
def Env.stopped : Env := .acting (.sendFrame .bright :: Action.wholeArm) 31 [.stop, .resume 0, .resume 0]

theorem session_ends_closed_when_stopped :
    Always GoneAtEnd ((Session.queue 0 0).finished .stopped).log ∧
      Always ClosedBeforeStop ((Session.queue 0 0).finished .stopped).log :=
  ⟨by decide +kernel, session_ends_closed .stopped (Session.queue 0 0) (by decide +kernel)⟩

/-- Without a reconnect policy the failed Helios is stopped with its shutter open. -/
theorem helios_stopped_open : ¬ Always ClosedBeforeStop (Session.frames.finished (.helios none)).log := by
  decide +kernel

end LaserDac
