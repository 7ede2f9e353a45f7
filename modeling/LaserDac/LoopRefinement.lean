import LaserDac.StepRefinement

/-!
The driver's own code within the protocol: the shutter transition, the replacement of a backend, and the loop.
-/

namespace LaserDac

open Runs Runs.Run

/-- In a pass, which works at this rate. -/
structure Passing (pps : Nat) (phase : Phase) (s : Status) : Prop extends Holding s where
  position : s.trace.phase = phase
  alive : s.trace.failed = false
  rate : s.trace.pps = some pps

/-- After the shutter transition of a pass. -/
structure Transitioned (s : Status) : Prop extends Holding s where
  position : s.trace.phase = .moved ∨
    ∃ generation, s.trace.phase = .ready generation ∨
      s.trace.phase = .fell generation ∧ isArmedWord generation = false
  alive : s.trace.failed = false
  tidy : Tidy s

/-- The shutter is closed, or the backend is given up. -/
structure Exits (s : Status) : Prop extends Holding s where
  closed : s.trace.shutter ≠ some true ∨ s.trace.released ∨ s.trace.failed

variable {s : Status} {q : Status → Prop} {phase : Phase} {backend pps : Nat}

theorem Gone.exits (gone : Gone s) : Exits s := { gone.toHolding with closed := .inr gone.gone }

theorem Holding.close_shutter (holding : Holding s) (ok : Bool) : (s.close ok).trace.shutter = some false := by
  simp [Status.close, Status.note, Trace.next, Trace.shuttered, holding.held]

theorem Holding.close_exits (holding : Holding s) (ok : Bool) : Exits (s.close ok) where
  toHolding := Holding.quiet s ok holding
  closed := .inl (by simp [holding.close_shutter ok])

theorem Passing.quiet (pps : Nat) (phase : Phase) (p : Status → Prop) (quiet : Quiet p) :
    Quiet fun s => Passing pps phase s ∧ p s := by
  rintro s ok ⟨passing, holds⟩
  refine ⟨?_, quiet s ok holds⟩
  exact {
    toHolding := Holding.quiet s ok passing.toHolding
    position := by simpa [Status.close, Status.note, Trace.next] using passing.position
    alive := by simpa [Status.close, Status.note, Trace.next] using passing.alive
    rate := by simpa [Status.close, Status.note, Trace.next] using passing.rate }

theorem Passing.falling (passing : Passing pps phase s) (step : FallingStep) (desired : Word) (source : Source)
    (adapter : Adapter) : Passing pps (.falling step desired) { s.note (.falling step desired) with source, adapter } :=
  ⟨⟨passing.held, passing.fresh⟩, rfl, passing.alive, passing.rate⟩

theorem Passing.rising (passing : Passing pps phase s) (step : RisingStep) (desired : Word) (source : Source)
    (adapter : Adapter) :
    Passing pps (.rising step desired) { s.note (.rising step desired) with source, adapter } where
  held := by simpa [Status.note, Trace.next] using passing.held
  fresh := passing.fresh
  position := rfl
  alive := by simpa [Status.note, Trace.next] using passing.alive
  rate := by simpa [Status.note, Trace.next] using passing.rate

theorem Passing.handled {next : Phase} (passing : Passing pps phase s) (desired : Word)
    (position : (s.trace.next (.handled desired)).phase = next) :
    Passing pps next { s.note (.handled desired) with handledState := desired } :=
  ⟨⟨passing.held, passing.fresh⟩, position, passing.alive, passing.rate⟩

theorem Tidy.quiet : Quiet Tidy := by
  intro s ok tidy
  simpa [Tidy, Status.close, Status.note, Trace.next] using tidy

theorem Tidy.of_empty (empty : s.source.cachedSlice = none) : Tidy s :=
  fun cached => by simp [empty] at cached

section

variable (env : Env) {p : Status → Prop}

/-! ### The shutter -/

theorem commandClose_drives (quiet : Quiet p) (force : Bool) : Drives p (commandClose env force) fun _ => p := by
  refine .state fun w known => ?_
  refine .whenever (fun _ => ?_) fun _ s eq => eq ▸ known
  exact (closeHeld_drives env p p quiet).pre fun s eq => eq ▸ known

theorem commandClose_forced (closes : ∀ s ok, p s → q (s.close ok)) : Drives p (commandClose env true) fun _ => q := by
  refine .state fun w known => ?_
  refine .whenever (fun _ => ?_) fun unforced => absurd (.inl rfl) unforced
  exact (closeHeld_drives env p q closes).pre fun s eq => eq ▸ known

theorem changeSourceAt_drives (event : Event) (f : Source → Source)
    (moves : ∀ w : World, p w.status → Step w { w.record event with source := f w.source })
    (holds : ∀ s, p s → q { s.note event with source := f s.source }) : Drives p (changeSourceAt event f) fun _ => q :=
  .update moves fun w known => holds w.status known

theorem changeAdapterAt_drives (event : Event) (allowed : ∀ w : World, p w.status → Allows w event)
    (holds : ∀ s, p s → q { s.note event with adapter := s.adapter.onStateChange }) :
    Drives p (changeAdapterAt event) fun _ => q := by
  refine Follows.update (fun w known => ?_) fun w known => holds w.status known
  exact .tail (.single (.noted (allowed w known))) (.silent (w := w.record event) w.shared _ w.tick rfl)

variable (pps : Nat)

theorem fallingCleanup_drives (desired : Word) :
    Drives (fun s => Passing pps (.read desired) s ∧ (isArmedWord s.handledState ∨ isArmedWord desired = false))
      (fallingCleanup env desired)
      fun _ s => Passing pps (.fell desired) s ∧ s.source.cachedSlice = none := by
  refine .bind _ (commandClose_drives env (Passing.quiet _ _ _ fun s ok falls => falls) false) fun _ => ?_
  refine .bind (fun _ s => Passing pps (.falling .discardCached desired) s ∧ s.source.cachedSlice = none)
    (changeSourceAt_drives _ _ (fun w known => .fallingDiscard desired known.1.position known.2) ?_) fun _ => ?_
  · exact fun s known => ⟨known.1.falling _ _ _ _, s.source.discardCached_becomes.cached⟩
  refine .bind (fun _ s => Passing pps (.falling .onStateChange desired) s ∧ s.source.cachedSlice = none)
    (changeAdapterAt_drives _ (fun w known => .fallingChange known.1.position) ?_) fun _ => ?_
  · exact fun s known => ⟨known.1.falling _ _ _ _, known.2⟩
  refine .bind (fun _ s => Passing pps (.falling .onDisarm desired) s ∧ s.source.cachedSlice = none)
    (changeSourceAt_drives _ _ (fun w known => .disarm desired known.1.position) ?_) fun _ => ?_
  · exact fun s known => ⟨known.1.falling _ _ _ _, s.source.onDisarm_becomes.cached.trans known.2⟩
  refine .bind (fun _ s => Passing pps (.falling .resetOutputFilter desired) s ∧ s.source.cachedSlice = none)
    (.note (fun w known => .fallingFilter known.1.position) ?_) fun _ => ?_
  · exact fun s known => ⟨known.1.falling _ _ s.source s.adapter, known.2⟩
  refine .update (fun w known => .handled desired (.inl known.1.position)) fun w known => ⟨?_, known.2⟩
  exact known.1.handled desired (Trace.next_handled_fell _ known.1.position)

/-- The preparation starts from the cleanup, or straight from the read of a disarmed lifecycle. -/
def Prepares (desired : Word) (s : Status) : Prop :=
  s.trace.phase = .fell desired ∨ s.trace.phase = .read desired ∧ isArmedWord s.handledState = false

/-- What a transition leaves: it went through, or gave the backend up. -/
def Leaves (q : Status → Prop) (outcome : TransitionOutcome) (s : Status) : Prop :=
  match outcome with
  | .continue => q s
  | .disconnected => Gone s

theorem risingPreparation_drives (desired : Word) (armed : isArmedWord desired) :
    Drives (fun s => (∃ phase, Passing pps phase s) ∧ Prepares desired s) (risingPreparation env desired pps)
      (Leaves fun s => Passing pps (.ready desired) s ∧ s.source.cachedSlice = none) := by
  refine .bind (fun _ s => Passing pps (.rising .discardCached desired) s ∧ s.source.cachedSlice = none)
    (changeSourceAt_drives _ _ (fun w known => .risingDiscard desired armed known.2) ?_) fun _ => ?_
  · rintro s ⟨⟨phase, passing⟩, -⟩
    exact ⟨passing.rising _ _ _ _, s.source.discardCached_becomes.cached⟩
  refine .bind (fun _ s => Passing pps (.rising .onStateChange desired) s ∧ s.source.cachedSlice = none)
    (changeAdapterAt_drives _ (fun w known => .risingChange known.1.position) ?_) fun _ => ?_
  · exact fun s known => ⟨known.1.rising _ _ _ _, known.2⟩
  refine .bind (fun _ s => Passing pps (.rising (.armStartupBlank pps) desired) s ∧ s.source.cachedSlice = none)
    (changeSourceAt_drives _ _ (fun w known => .armStartupBlank desired pps known.1.rate known.1.position) ?_)
    fun _ => ?_
  · exact fun s known => ⟨known.1.rising _ _ _ _, (s.source.armStartupBlank_becomes pps).cached.trans known.2⟩
  refine .bind (fun _ s => Passing pps (.rising .resetOutputFilter desired) s ∧ s.source.cachedSlice = none)
    (.note (fun w known => .risingFilter known.1.position) ?_) fun _ => ?_
  · exact fun s known => ⟨known.1.rising _ _ s.source s.adapter, known.2⟩
  refine .bind (fun _ s => Passing pps (.rising .resetOutputFilter desired) s ∧ s.source.cachedSlice = none)
    (.command (fun _ _ => .neutral rfl) ?_) fun reset => ?_
  · rintro w ⟨passing, free⟩
    exact ⟨⟨⟨by simpa [Status.note, Trace.next] using passing.held, passing.fresh⟩,
      by simpa [Status.note, Trace.next] using passing.position, by simpa [Status.note, Trace.next] using passing.alive,
      by simpa [Status.note, Trace.next] using passing.rate⟩, free⟩
  refine .ite (fun _ => ?_) fun _ => ?_
  · refine .bind (fun _ s => Passing pps (.rising .resetDeviceBuffer desired) s ∧ s.source.cachedSlice = none)
      (.note (fun w known => .risingBuffer known.1.position) ?_) fun _ => ?_
    · exact fun s known => ⟨known.1.rising _ _ s.source s.adapter, known.2⟩
    refine .bind (fun _ s => Passing pps (.ready desired) s ∧ s.source.cachedSlice = none) ?_ fun _ => .pure fun _ => id
    refine .update (fun w known => .handled desired (.inr known.1.position)) fun w known => ⟨?_, known.2⟩
    exact known.1.handled desired (Trace.next_handled_ready _ known.1.position)
  · refine .state fun w known => ?_
    obtain ⟨passing, -⟩ := known
    let held (s : Status) : Prop := Holding s ∧ s.trace.phase.Interruptible ∧ s.backend.id = w.backend.id
    have quiet : Quiet held := by
      rintro s ok ⟨holding, position, same⟩
      exact ⟨Holding.quiet s ok holding, by simpa [Status.close, Status.note, Trace.next] using position, same⟩
    have holds (s : Status) (same : s = w.status) : held s := by
      subst same
      exact ⟨⟨passing.held, passing.fresh⟩, .inr ⟨.resetOutputFilter, desired, passing.position⟩, rfl⟩
    refine .bind (fun _ => held) ((commandClose_drives env quiet true).pre holds) fun _ => ?_
    exact .bind _ (release_drives env _) fun _ => .pure fun _ => id

theorem settleShutter_drives (phase : Phase) (desired : Word)
    (ready : isArmedWord desired → phase = .ready desired) :
    Drives (fun s => Passing pps phase s ∧ Tidy s) (settleShutter env desired)
      fun _ s => Passing pps phase s ∧ Tidy s := by
  have quiet : Quiet fun s => Passing pps phase s ∧ Tidy s := Passing.quiet _ _ _ Tidy.quiet
  have opens : ∀ (s : Status) generation ok, Passing pps phase s ∧ Tidy s →
      Passing pps phase (s.opens generation ok) ∧ Tidy (s.opens generation ok) := by
    rintro s generation ok ⟨passing, tidy⟩
    exact ⟨⟨⟨by simpa [Status.opens, Status.note, Trace.next] using passing.held, passing.fresh⟩,
      by simpa [Status.opens, Status.note, Trace.next] using passing.position,
      by simpa [Status.opens, Status.note, Trace.next] using passing.alive,
      by simpa [Status.opens, Status.note, Trace.next] using passing.rate⟩,
      by simpa [Tidy, Status.opens, Status.note, Trace.next] using tidy⟩
  refine .ite (fun armed => ?_) fun _ => commandClose_drives env quiet false
  obtain rfl := ready armed
  refine .bind _ .look fun current => ?_
  refine .ite (fun _ => ?_) fun _ => .pure fun _ => id
  refine .state fun w known => ?_
  refine .bind (fun _ s => Passing pps (.ready desired) s ∧ Tidy s) ?_ fun _ => ?_
  · refine .whenever (fun _ => ?_) fun _ s eq => eq ▸ known
    refine .bind _ .access fun _ => ?_
    refine .update (fun w' same => ?_) fun w' same => ?_
    · have passing : Passing pps (.ready desired) w'.status := same ▸ known.1
      exact .opened desired _ passing.position armed passing.alive
    · exact opens w'.status desired _ (same ▸ known)
  refine .bind _ .look fun current => ?_
  exact .whenever (fun _ => commandClose_drives env quiet true) fun _ _ => id

theorem prepareAndSettle_drives (phase : Phase) (desired : Word)
    (cleaned : isArmedWord desired = false → phase = .fell desired) :
    Drives (fun s => Passing pps phase s ∧ Tidy s ∧ (isArmedWord desired → Prepares desired s))
      (prepareAndSettle env desired pps) (Leaves Transitioned) := by
  refine .ite (fun armed => ?_) fun disarmed => ?_
  · refine .bind _ ((risingPreparation_drives env pps desired armed).pre fun s known =>
      ⟨⟨phase, known.1⟩, known.2.2 armed⟩) fun outcome => ?_
    split
    · exact .pure fun _ => id
    refine .bind _ ((settleShutter_drives env pps (.ready desired) desired fun _ => rfl).pre fun s known =>
      ⟨known.1, Tidy.of_empty known.2⟩) fun _ => ?_
    exact .pure fun s ⟨passing, tidy⟩ =>
      { passing.toHolding with position := .inr ⟨desired, .inl passing.position⟩, alive := passing.alive, tidy }
  · have unarmed : isArmedWord desired = false := by simpa using disarmed
    obtain rfl := cleaned unarmed
    refine .bind _ ((settleShutter_drives env pps (.fell desired) desired fun armed => absurd armed disarmed).pre
      fun s known => ⟨known.1, known.2.1⟩) fun _ => ?_
    exact .pure fun s ⟨passing, tidy⟩ =>
      { passing.toHolding with position := .inr ⟨desired, .inr ⟨passing.position, unarmed⟩⟩, alive := passing.alive, tidy }

theorem firstRead_drives :
    Drives (fun s => Passing pps .top s ∧ Tidy s) (firstRead env) fun words s =>
      Passing pps (if words.1 = words.2 then .ready words.1 else .read words.1) s ∧ Tidy s ∧
        words.2 = s.handledState := by
  refine .command (fun w known => .firstRead known.1.position) fun w known => ?_
  exact ⟨⟨⟨known.1.held, known.1.fresh⟩, rfl, known.1.alive, known.1.rate⟩, known.2, rfl⟩

theorem hasMoved_drives (desired : Word) :
    Drives (fun s => Passing pps (.fell desired) s ∧ s.source.cachedSlice = none) (hasMoved env desired)
      fun moved s => Passing pps (if moved then .moved else .fell desired) s ∧ s.source.cachedSlice = none := by
  refine Follows.bind
    (Drives.observe (p := fun s => Passing pps (.fell desired) s ∧ s.source.cachedSlice = none)) fun current => ?_
  refine Follows.ite (fun moved => ?_) fun _ => Follows.pure fun w known => known.2
  refine Follows.bind (M := fun _ w => Passing pps .moved w.status ∧ w.source.cachedSlice = none) ?_ fun _ =>
    Follows.pure fun _ => id
  refine Follows.update ?_ ?_
  · rintro w ⟨rfl, passing, -⟩
    exact .single (.noted (.changed passing.position moved))
  · rintro w ⟨-, passing, empty⟩
    exact ⟨⟨⟨passing.held, passing.fresh⟩, rfl, passing.alive, passing.rate⟩, empty⟩

theorem handleShutterTransition_drives :
    Drives (fun s => Passing pps .top s ∧ Tidy s) (handleShutterTransition env pps) (Leaves Transitioned) := by
  refine .bind _ (firstRead_drives env pps) fun words => ?_
  obtain ⟨desired, handled⟩ := words
  refine .ite (fun same => ?_) fun differs => ?_
  · refine .bind (fun _ s => Passing pps (.ready desired) s ∧ Tidy s) ?_ fun _ => ?_
    · refine (settleShutter_drives env pps (.ready desired) desired fun _ => rfl).pre fun s known => ?_
      exact ⟨by simpa [same] using known.1, known.2.1⟩
    · exact .pure fun s ⟨passing, tidy⟩ =>
        { passing.toHolding with position := .inr ⟨desired, .inl passing.position⟩, alive := passing.alive, tidy }
  refine .ite (fun falls => ?_) fun rises => ?_
  · refine .bind _ ((fallingCleanup_drives env pps desired).pre fun s known => ?_) fun _ => ?_
    · obtain ⟨passing, -, rfl⟩ := known
      exact ⟨by simpa [differs] using passing, by simpa using falls⟩
    refine .bind _ (hasMoved_drives env pps desired) fun moved => ?_
    refine .ite (fun moved => ?_) fun still => ?_
    · refine .pure fun s known => ?_
      obtain ⟨passing, empty⟩ : Passing pps .moved s ∧ _ := by simpa [moved] using known
      exact { passing.toHolding with
        position := .inl passing.position, alive := passing.alive, tidy := Tidy.of_empty empty }
    · refine (prepareAndSettle_drives env pps (.fell desired) desired fun _ => rfl).pre fun s known => ?_
      obtain ⟨passing, empty⟩ : Passing pps (.fell desired) s ∧ _ := by simpa [still] using known
      exact ⟨passing, Tidy.of_empty empty, fun _ => .inl passing.position⟩
  · obtain ⟨unarmed, armed⟩ : isArmedWord handled = false ∧ isArmedWord desired := by simpa using rises
    refine (prepareAndSettle_drives env pps (.read desired) desired fun disarmed => ?_).pre fun s known => ?_
    · simp [armed] at disarmed
    · obtain ⟨passing, tidy, rfl⟩ := known
      have position : Passing pps (.read desired) s := by simpa [differs] using passing
      exact ⟨position, tidy, fun _ => .inr ⟨position.position, unarmed⟩⟩

/-! ### Replacing a backend -/

/-- The held backend is given up, and the session has another one in hand. -/
structure Candidate (backend : Nat) (s : Status) : Prop extends Gone s where
  other : s.backend.id < backend
  numbered : backend < s.nextBackend

theorem Trace.next_other {t : Trace} (other : backend ≠ t.held) {event : Event}
    (about : (∃ ok, event = .closed backend ok) ∨ (∃ answer, event = .connected backend answer) ∨
      event = .disconnected backend ∨ ∃ ok, event = .connect backend ok) : t.next event = t := by
  rcases about with ⟨ok, rfl⟩ | ⟨answer, rfl⟩ | rfl | ⟨ok, rfl⟩
  · simp [next, shuttered, other]
  · cases answer <;> simp [next, lost, other]
  · simp [next, other]
  · rfl

theorem Candidate.note_other (candidate : Candidate backend s) {event : Event}
    (about : (∃ ok, event = .closed backend ok) ∨ (∃ answer, event = .connected backend answer) ∨
      event = .disconnected backend ∨ ∃ ok, event = .connect backend ok) : Candidate backend (s.note event) := by
  have other : backend ≠ s.trace.held := by
    rw [candidate.held]
    exact Nat.ne_of_gt candidate.other
  rw [Status.note, Trace.next_other other about]
  exact candidate

theorem closeAndDisconnect_drives (backend : Nat) :
    Drives (Candidate backend) (closeAndDisconnect env backend) fun _ => Gone := by
  refine .bind (fun _ => Candidate backend) ?_ fun _ => ?_
  · refine .command (fun w candidate => .neutral (Nat.ne_of_gt candidate.other)) fun w candidate => ?_
    exact candidate.note_other (.inl ⟨_, rfl⟩)
  · refine .command (fun _ _ => .neutral trivial) fun w candidate => ?_
    exact (candidate.note_other (.inr (.inr (.inl rfl)))).toGone

theorem currentPps_drives (holds : ∀ s pps, p s → p { s with trace := { s.trace with pps } }) :
    Drives p (currentPps env) fun _ => p :=
  .command (fun _ _ => .neutral trivial) fun w known => holds w.status _ known

theorem Candidate.withRate (candidate : Candidate backend s) (pps : Option Nat) :
    Candidate backend { s with trace := { s.trace with pps } } where
  held := candidate.held
  fresh := candidate.fresh
  gone := candidate.gone
  position := candidate.position
  other := candidate.other
  numbered := candidate.numbered

theorem validate_drives (expectedFrameSwap : Bool) (info : DacCapabilities) (backend : Backend) :
    Drives (Candidate backend.id) (validate env expectedFrameSwap info backend) fun _ => Candidate backend.id := by
  refine .ite (fun _ => ?_) fun _ => ?_
  · exact .bind _ (.note (fun _ _ => .neutral trivial) fun _ => id) fun _ => .pure fun _ => id
  refine .bind _ (currentPps_drives env fun s pps candidate => candidate.withRate pps) fun pps => ?_
  refine .state fun w candidate => ?_
  refine Drives.pre (p := Candidate backend.id) ?_ fun s same => same ▸ candidate
  exact .bind _ (.note (fun _ _ => .neutral trivial) fun _ => id) fun _ => .pure fun _ => id

theorem isConnected_drives (backend : Nat) :
    Drives (Candidate backend) (isConnected env backend) fun _ => Candidate backend :=
  .command (fun _ _ => .neutral trivial) fun _ candidate => candidate.note_other (.inr (.inl ⟨_, rfl⟩))

theorem establish_drives (backend : Backend) :
    Drives (Candidate backend.id) (establish env backend) fun result s =>
      Candidate backend.id s ∧ result.2.id = backend.id := by
  refine .bind _ (isConnected_drives env backend.id) fun connected => ?_
  refine .ite (fun _ => .pure fun s candidate => ⟨candidate, rfl⟩) fun _ => ?_
  unfold Backend.connect
  split
  · exact .pure fun s candidate => ⟨candidate, rfl⟩
  refine .bind (fun _ => Candidate backend.id) ?_ fun result => ?_
  · exact .command (fun _ _ => .neutral trivial) fun w candidate => candidate.note_other (.inr (.inr (.inr ⟨_, rfl⟩)))
  dsimp only
  split
  · exact .pure fun s candidate => ⟨candidate, rfl⟩
  · exact .pure fun s candidate => ⟨candidate, rfl⟩
  · refine .bind (fun _ => Candidate backend.id) ?_ fun _ => .pure fun s candidate => ⟨candidate, rfl⟩
    exact .command (fun _ _ => .neutral trivial) fun w candidate => candidate.note_other (.inr (.inr (.inl rfl)))

/-- What the reconnect loop leaves: a backend to install, or none. -/
def Found (result : Except SessionExit (DacCapabilities × Backend)) (s : Status) : Prop :=
  match result with
  | .ok (_, backend) => Candidate backend.id s
  | .error _ => Gone s

theorem obtainBackend_drives (isFrameSwap : Bool) (caps : DacCapabilities) :
    Drives Gone (obtainBackend isFrameSwap caps) fun backend => Candidate backend.id := by
  refine .state fun w gone => ?_
  refine .bind (fun _ => Candidate w.nextBackend) (.update (fun w' same => ?_) fun w' same => ?_) fun _ =>
    .pure fun _ => id
  · have number : w.nextBackend = w'.nextBackend := congrArg Status.nextBackend same.symm
    rw [number]
    exact .obtained
  · have number : w'.nextBackend = w.nextBackend := congrArg Status.nextBackend same
    have gone : Gone w'.status := same ▸ gone
    have before : w'.backend.id < w.nextBackend := number ▸ gone.fresh
    refine { gone with held := gone.held, fresh := ?_, other := before, numbered := ?_ }
    · exact Nat.lt_succ_of_lt gone.fresh
    · exact number ▸ Nat.lt_succ_self _

def Tried (result : Option (Except SessionExit (DacCapabilities × Backend))) (s : Status) : Prop :=
  match result with
  | some result => Found result s
  | none => Gone s

theorem attempt_drives (expectedFrameSwap : Bool) : Drives Gone (attempt env expectedFrameSwap) Tried := by
  refine .bind (fun _ => Gone) (.command (fun w gone => .neutral ⟨rfl, gone.gone⟩) fun _ => id) fun opened => ?_
  split
  · refine .pure fun s gone => ?_
    split <;> exact gone
  · exact .pure fun _ => id
  rename_i scanned isFrameSwap caps
  refine .bind _ (obtainBackend_drives isFrameSwap caps) fun backend => ?_
  refine .bind _ (validate_drives env _ _ _) fun rejected => ?_
  split
  · exact .bind _ (closeAndDisconnect_drives env _) fun _ => .pure fun _ => id
  refine .bind _ (establish_drives env backend) fun established => ?_
  obtain ⟨failure, connected⟩ := established
  refine .assuming (fun s known => known.2) fun same => ?_
  have same : connected.id = backend.id := same
  refine Drives.pre (p := Candidate connected.id) ?_ fun s known => same ▸ known.1
  split
  · rename_i error backend eq
    obtain ⟨rfl, rfl⟩ := Prod.mk.inj eq
    refine .bind _ (closeAndDisconnect_drives env _) fun _ => .pure fun s gone => ?_
    split
    · exact gone
    split <;> exact gone
  · rename_i backend eq
    obtain ⟨rfl, rfl⟩ := Prod.mk.inj eq
    refine .bind (fun _ => Candidate connected.id) ?_ fun closed => ?_
    · exact .command (fun w candidate => .neutral (Nat.ne_of_gt candidate.other)) fun w candidate =>
        candidate.note_other (.inl ⟨_, rfl⟩)
    refine .ite (fun _ => ?_) fun _ => .bind _ (closeAndDisconnect_drives env _) fun _ => .pure fun _ => id
    refine .bind _ (validate_drives env _ _ _) fun rejected => ?_
    split
    · exact .bind _ (closeAndDisconnect_drives env _) fun _ => .pure fun _ => id
    · exact .pure fun _ => id

theorem sleepWithStop_drives (duration : Nat) : Drives p (sleepWithStop env duration) fun _ => p := by
  refine .bind _ .look fun start => ?_
  refine .iterate (fun _ => p) (fun _ => ?_) _ _
  refine .bind _ .look fun stop => ?_
  refine .ite (fun _ => .pure fun _ => id) fun _ => ?_
  refine .bind _ .look fun now => ?_
  refine .ite (fun _ => .bind _ .look fun stop => .pure fun _ => id) fun _ => ?_
  exact .bind _ .access fun _ => .pure fun _ => id

theorem reconnectBackendWithRetry_drives (policy : ReconnectPolicy) (expectedFrameSwap : Bool) :
    Drives Gone (reconnectBackendWithRetry env policy expectedFrameSwap) Found := by
  refine .bind _ .look fun flapping => ?_
  refine .iterate (fun _ => Gone) (fun retries => ?_) _ _
  refine .bind _ .look fun stop => ?_
  refine .ite (fun _ => .pure fun _ => id) fun _ => ?_
  refine .ite (fun _ => .pure fun _ => id) fun _ => ?_
  refine .bind (fun _ => Gone) ?_ fun interrupted => ?_
  · exact .ite (fun _ => sleepWithStop_drives env _) fun _ => .pure fun _ => id
  refine .ite (fun _ => .pure fun _ => id) fun _ => ?_
  refine .bind _ (attempt_drives env _) fun result => ?_
  split <;> exact .pure fun _ => id

theorem reconnect_drives :
    Drives Gone (reconnect env) fun exit s =>
      match exit with
      | none => Between s
      | some _ => Gone s := by
  unfold reconnect
  split
  · exact .pure fun _ => id
  rename_i policy _
  refine .state fun w gone => ?_
  refine .bind _ ((reconnectBackendWithRetry_drives env policy _).pre fun s eq => eq ▸ gone) fun result => ?_
  split
  · exact .pure fun _ => id
  rename_i info backend
  refine .bind _ .access fun _ => ?_
  refine Follows.bind (M := fun w w' => w' = w ∧ Candidate backend.id w.status)
    (Follows.state fun w candidate => ⟨rfl, candidate⟩) fun w => ?_
  refine Follows.assuming (fun _ known => known.2) fun candidate => ?_
  dsimp only
  refine Follows.ite (fun accepted => ?_) fun _ => ?_
  · refine Follows.bind (M := fun _ w => Between w.status) (Follows.update ?_ ?_) fun _ => Follows.pure fun _ => id
    · rintro _ ⟨rfl, -⟩
      refine .single (.installed env info backend _ candidate.gone candidate.position candidate.other ?_)
      rw [← accepted]
    · rintro w' ⟨rfl, -⟩
      have installed := w'.source.onReconnect_becomes info.maxPointsPerChunk
        (if backend.isFrameSwap then some (env.frameCapacity w'.tick) else none)
      exact ⟨⟨rfl, candidate.numbered⟩, .inl rfl, rfl, Tidy.of_empty installed.cached⟩
  · refine Follows.pre (P := fun w => Candidate backend.id w.status) ?_ fun w' known => known.1 ▸ candidate
    exact Follows.bind (closeAndDisconnect_drives env _) fun _ => Follows.pure fun _ => id

def PassEnds (passed : Passed) (s : Status) : Prop :=
  match passed with
  | .inl _ => Between s
  | .inr _ => Exits s

theorem stopAndCloseShutter_drives : Drives Holding (stopAndCloseShutter env) PassEnds :=
  .bind _ (commandClose_forced env fun _ ok holding => holding.close_exits ok) fun _ => .pure fun _ => id

theorem recover_drives : Drives Gone (recover env) PassEnds := by
  refine .bind _ (reconnect_drives env) fun exit => ?_
  split
  · exact .pure fun _ => id
  · exact .pure fun s gone => Gone.exits gone

theorem Tidy.tune (tidy : Tidy s) {source : Source} (tuning : s.source.Tuning source) : Tidy { s with source } :=
  fun cached => tidy (tuning.cached_isSome.symm.trans cached)

theorem intake_drives :
    Drives (fun s => Passing pps .top s ∧ Tidy s) (intake env) fun _ s => Passing pps .top s ∧ Tidy s := by
  refine .bind _ .look fun delay => ?_
  refine .bind (fun _ s => Passing pps .top s ∧ Tidy s) ?_ fun _ => ?_
  · refine .update (fun w _ => .tuned _ (.setColorDelay delay)) fun w known => ?_
    exact ⟨⟨⟨known.1.held, known.1.fresh⟩, known.1.position, known.1.alive, known.1.rate⟩,
      known.2.tune (.setColorDelay delay)⟩
  refine .whenever (fun _ => ?_) fun _ _ => id
  refine .bind _ .access fun _ => ?_
  refine Follows.update (fun w _ => ?_) fun w known => ?_
  · split
    · rename_i frame _
      exact .tail (.single (.silent { w.shared with frameSlot := none } w.adapter w.tick rfl))
        (.tuned _ (.submitFrame frame))
    · exact .refl
  · split
    · rename_i frame _
      exact ⟨⟨⟨known.1.held, known.1.fresh⟩, known.1.position, known.1.alive, known.1.rate⟩,
        known.2.tune (.submitFrame frame)⟩
    · exact known

theorem blankAndCloseShutter_drives : Drives Holding (blankAndCloseShutter env pps) fun _ => Exits := by
  refine .bind (fun _ s => Holding s ∧ s.trace.shutter = some false) ?_ fun _ => ?_
  · exact closeHeld_drives env _ _ fun s ok holding => ⟨Holding.quiet s ok holding, holding.close_shutter ok⟩
  refine .command (fun _ _ => .neutral rfl) fun w ⟨holding, closed⟩ => ?_
  have closed : w.trace.shutter = some false := closed
  exact ⟨⟨by simpa [Status.note, Trace.next] using holding.held, holding.fresh⟩,
    .inl (by simp [Status.note, Trace.next, closed])⟩

theorem drainAndBlank_drives (adapter : Adapter) (pps : Nat) :
    Drives Holding (adapter.drainAndBlank env pps) fun _ => Exits := by
  unfold Adapter.drainAndBlank
  split
  · exact blankAndCloseShutter_drives env pps
  · refine .bind _ (drainViaEstimator_drives env Holding.quiet _ _) fun _ => ?_
    refine .bind (fun _ => Holding) ?_ fun _ => blankAndCloseShutter_drives env pps
    exact .command (fun _ _ => .neutral rfl) fun w holding =>
      ⟨by simpa [Status.note, Trace.next] using holding.held, holding.fresh⟩
  · exact .bind _ (drainViaEstimator_drives env Holding.quiet _ _) fun _ => blankAndCloseShutter_drives env pps

theorem finish_drives : Drives Between (finish env pps) PassEnds := by
  refine .state fun w between => ?_
  refine .ite (fun _ => ?_) fun _ => .pure fun s eq => eq ▸ between
  refine .bind (fun _ => Holding) (.update (fun w _ => .tuned _ .takeStopError) fun w' same => ?_) fun _ => ?_
  · have holding : Holding w'.status := same ▸ between.toHolding
    exact ⟨holding.held, holding.fresh⟩
  refine .ite (fun _ => ?_) fun _ => ?_
  · exact .bind _ (commandClose_forced env fun _ ok holding => holding.close_exits ok) fun _ => .pure fun _ => id
  · exact .bind _ (drainAndBlank_drives env _ _) fun _ => .pure fun _ => id

theorem armedRead_drives :
    Drives Transitioned (armedRead env) fun isArmed s =>
      ∃ word, isArmed = isArmedWord word ∧ Starting s.adapter word s := by
  refine .bind (fun word s => Starting s.adapter word s) ?_ fun word => .pure fun s starting => ⟨word, rfl, starting⟩
  refine .command (fun w transitioned => .armedRead transitioned.position) fun w transitioned => ?_
  exact ⟨⟨transitioned.held, transitioned.fresh⟩, rfl, transitioned.alive, rfl, transitioned.tidy⟩

theorem holdsConnection_drives (pps backend : Nat) :
    Drives (fun s => (Passing pps .top s ∧ Tidy s) ∧ s.backend.id = backend) (isConnected env backend)
      fun connected s => if connected then Passing pps .top s ∧ Tidy s else Gone s := by
  refine .command (fun _ _ => .neutral trivial) fun w known => ?_
  obtain ⟨⟨passing, tidy⟩, rfl⟩ := known
  cases env.isConnected w.tick with
  | true => exact ⟨passing, tidy⟩
  | false =>
    have after : w.trace.next (.connected w.backend.id false) = { w.trace with failed := true } :=
      if_pos passing.held.symm
    change Gone { w.status with trace := w.trace.next (.connected w.backend.id false) }
    rw [after]
    exact ⟨⟨passing.held, passing.fresh⟩, .inr rfl, .inl (.inl passing.position)⟩

theorem pass_drives : Drives Between (pass env) PassEnds := by
  refine .bind (fun _ s => Between s ∧ s.trace.phase = .top) (.note (fun w between => .pass between.position) ?_) fun _ => ?_
  · exact fun s between => ⟨⟨⟨between.held, between.fresh⟩, .inl rfl, between.alive, between.tidy⟩, rfl⟩
  refine .bind _ .look fun stop => ?_
  refine .ite (fun _ => (stopAndCloseShutter_drives env).pre fun s known => known.1.toHolding) fun _ => ?_
  refine .bind (fun pps s => Passing pps .top s ∧ Tidy s) ?_ fun pps => ?_
  · refine .command (fun _ _ => .neutral trivial) fun w ⟨between, position⟩ => ?_
    exact ⟨⟨⟨between.held, between.fresh⟩, position, between.alive, rfl⟩, between.tidy⟩
  refine .bind _ (intake_drives env pps) fun _ => ?_
  refine .state fun w known => ?_
  refine .bind (fun connected s => if connected then Passing pps .top s ∧ Tidy s else Gone s) ?_ fun connected => ?_
  · exact (holdsConnection_drives env pps w.backend.id).pre fun s eq => ⟨eq ▸ known, eq ▸ rfl⟩
  refine .ite (fun connected => ?_) fun lost => (recover_drives env).pre fun s gone => by simpa [lost] using gone
  refine .bind (fun _ s => Passing pps .top s ∧ Tidy s) ?_ fun action => ?_
  · exact (processControlMessages_drives env).pre fun s passing => by simpa [connected] using passing
  split
  · exact (stopAndCloseShutter_drives env).pre fun s known => known.1.toHolding
  refine .bind _ (handleShutterTransition_drives env pps) fun outcome => ?_
  split
  · exact recover_drives env
  refine .bind _ (armedRead_drives env) fun isArmed => ?_
  refine .state fun w ⟨word, armed, starting⟩ => ?_
  refine .bind _ ((Adapter.step_drives env w.adapter word ⟨pps, isArmed⟩ armed).pre fun s eq => eq ▸ starting)
    fun outcome => ?_
  split
  · exact stopAndCloseShutter_drives env
  · exact recover_drives env
  · rename_i running gone
    refine (finish_drives env pps).pre fun s ends => ?_
    cases outcome with
    | stopped => exact absurd rfl running
    | disconnected => exact absurd rfl gone
    | «continue» => exact ends
    | stateChanged => exact ends

/-- The state a session may start in. -/
structure Fresh (s : Status) : Prop extends Holding s where
  position : s.trace = Trace.start
  empty : s.source.cachedSlice = none

/-- The loop takes only steps of the protocol, and where it returns the shutter is closed or the backend is
given up. -/
theorem runLoop_drives : Drives Fresh (runLoop env) fun _ => Exits := by
  refine .state fun w fresh => ?_
  split
  · refine .bind (fun _ s => Holding s ∧ s.trace.phase.Interruptible ∧ s.backend.id = w.backend.id) ?_ fun _ => ?_
    · refine closeHeld_drives env _ _ fun s ok eq => ?_
      subst eq
      have top : w.trace.phase = .top := congrArg Trace.phase fresh.position
      refine ⟨Holding.quiet _ ok fresh.toHolding, .inl (.inl ?_), rfl⟩
      simpa [Status.close, Status.note, Trace.next] using top
    · exact .bind _ (release_drives env _) fun _ => .pure fun s gone => gone.exits
  · refine .bind (fun _ => Between) (setAdapter_drives _ fun s eq => ?_) fun _ => ?_
    · subst eq
      have start := fresh.position
      exact ⟨⟨fresh.held, fresh.fresh⟩, .inl (congrArg Trace.phase start), congrArg Trace.failed start,
        Tidy.of_empty fresh.empty⟩
    · exact .iterate (fun _ => Between) (fun _ => (pass_drives env).post fun passed _ ends => by
        cases passed <;> exact ends) _ _

end

end LaserDac
