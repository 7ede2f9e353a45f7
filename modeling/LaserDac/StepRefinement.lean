import LaserDac.Refinement

/-!
The steps of the adapters within the protocol: what they need when a step starts, and what each outcome leaves
to the driver.
-/

namespace LaserDac

open Runs Runs.Run

/-- The trace is about the held backend, and the next one will have another number. -/
structure Holding (s : Status) : Prop where
  held : s.trace.held = s.backend.id
  fresh : s.backend.id < s.nextBackend

/-- A slice that is cached is retained by the adapter, or the wait for it was ended by a notification. -/
def Tidy (s : Status) : Prop := s.source.cachedSlice.isSome → s.adapter.hasRetain ∨ s.trace.woken

/-- Between two passes. -/
structure Between (s : Status) : Prop extends Holding s where
  position : s.trace.phase.Between
  alive : s.trace.failed = false
  tidy : Tidy s

/-- The held backend is given up. -/
structure Gone (s : Status) : Prop extends Holding s where
  gone : s.trace.released ∨ s.trace.failed
  position : s.trace.phase.Interruptible

def StepEnds (outcome : StepOutcome) (s : Status) : Prop :=
  match outcome with
  | .stopped => Holding s
  | .disconnected => Gone s
  | _ => Between s

/-- At the start of a step, with this adapter. -/
structure Starting (adapter : Adapter) (word : Word) (s : Status) : Prop extends Holding s where
  position : s.trace.phase = .stepping word
  alive : s.trace.failed = false
  adapter : s.adapter = adapter
  tidy : Tidy s

/-- In a step, before or after a production of its own. -/
structure Stepping (adapter : Adapter) (phase : Phase) (s : Status) : Prop extends Holding s where
  inside : phase = .stepped ∨ ∃ word, phase = .stepping word
  position : s.trace.phase = phase
  alive : s.trace.failed = false
  adapter : s.adapter = adapter

/-- The device has taken the cached slice. -/
structure Accepted (adapter : Adapter) (s : Status) : Prop extends Holding s where
  position : s.trace.phase = .accepted
  alive : s.trace.failed = false
  adapter : s.adapter = adapter

/-- A write has failed. -/
structure Failing (adapter : Adapter) (error : Error) (s : Status) : Prop extends Holding s where
  inside : s.trace.phase = .stepped ∨ ∃ word, s.trace.phase = .stepping word
  lost : s.trace.failed = error.isDisconnected
  adapter : s.adapter = adapter

def Wrote (adapter : Adapter) (phase : Phase) (result : Except Error WriteOutcome) (s : Status) : Prop :=
  match result with
  | .ok .written => Accepted adapter s
  | .ok .wouldBlock => Stepping adapter phase s
  | .error error => Failing adapter error s

/-- What a production of `n` points leaves. -/
structure Produced (adapter : Adapter) (word : Word) (n : Nat) (s : Status) : Prop where
  empty : n = 0 → Starting adapter word s
  slice : n ≠ 0 → Stepping adapter .stepped s

theorem Holding.quiet : Quiet Holding := by
  intro s ok holding
  exact ⟨by simp [Status.close, Status.note, Trace.next, holding.held], holding.fresh⟩

theorem Between.quiet : Quiet Between := by
  intro s ok between
  exact {
    toHolding := Holding.quiet s ok between.toHolding
    position := by simpa [Status.close, Status.note, Trace.next] using between.position
    alive := by simpa [Status.close, Status.note, Trace.next] using between.alive
    tidy := by simpa [Tidy, Status.close, Status.note, Trace.next] using between.tidy }

theorem Starting.quiet (adapter : Adapter) (word : Word) : Quiet (Starting adapter word) := by
  intro s ok starting
  exact {
    toHolding := Holding.quiet s ok starting.toHolding
    position := by simpa [Status.close, Status.note, Trace.next] using starting.position
    alive := by simpa [Status.close, Status.note, Trace.next] using starting.alive
    adapter := starting.adapter
    tidy := by simpa [Tidy, Status.close, Status.note, Trace.next] using starting.tidy }

theorem Stepping.quiet (adapter : Adapter) (phase : Phase) : Quiet (Stepping adapter phase) := by
  intro s ok stepping
  exact {
    toHolding := Holding.quiet s ok stepping.toHolding
    inside := stepping.inside
    position := by simpa [Status.close, Status.note, Trace.next] using stepping.position
    alive := by simpa [Status.close, Status.note, Trace.next] using stepping.alive
    adapter := stepping.adapter }

variable {adapter : Adapter} {s : Status}

theorem Starting.between {word : Word} (starting : Starting adapter word s) :
    Between s where
  toHolding := starting.toHolding
  position := .inr (.inr ⟨word, starting.position⟩)
  alive := starting.alive
  tidy := starting.tidy

theorem Starting.stepping {word : Word} (starting : Starting adapter word s) :
    Stepping adapter (.stepping word) s where
  toHolding := starting.toHolding
  inside := .inr ⟨word, rfl⟩
  position := starting.position
  alive := starting.alive
  adapter := starting.adapter

theorem Stepping.between {phase : Phase} (stepping : Stepping adapter phase s) (tidy : Tidy s) : Between s where
  toHolding := stepping.toHolding
  position := .inr (stepping.position ▸ stepping.inside)
  alive := stepping.alive
  tidy

theorem Failing.interruptible {error : Error} (failing : Failing adapter error s) : s.trace.phase.Interruptible :=
  .inl (.inr failing.inside)

section

variable (env : Env) {p : Status → Prop}

theorem report_drives (error : Error) : Drives p (report error) fun _ => p :=
  .note (fun _ _ => .neutral trivial) fun _ => id

theorem setAdapter_drives {q : Status → Prop} (adapter : Adapter)
    (holds : ∀ s : Status, p s → q { s with adapter }) : Drives p (setAdapter adapter) fun _ => q :=
  .update (fun w _ => .silent w.shared adapter w.tick rfl) fun w known => holds w.status known

/-- Disconnecting gives the held backend up. -/
theorem release_drives (backend : Nat) :
    Drives (fun s => Holding s ∧ s.trace.phase.Interruptible ∧ s.backend.id = backend) (disconnect env backend)
      fun _ => Gone := by
  refine .command (fun _ _ => .neutral trivial) fun w known => ?_
  obtain ⟨holding, position, rfl⟩ := known
  have after : w.trace.next (.disconnected w.backend.id) = { w.trace with released := true } :=
    if_pos holding.held.symm
  change Gone { w.status with trace := w.trace.next (.disconnected w.backend.id) }
  rw [after]
  exact { held := holding.held, fresh := holding.fresh, gone := .inl rfl, position }

theorem waitStep_ends (duration : Nat) : Drives Between (waitStep env duration) StepEnds := by
  refine (waitStep_drives env Between.quiet duration).post fun outcome s ends => ?_
  cases outcome with
  | disconnected => exact absurd rfl ends.2
  | stopped => exact ends.1.toHolding
  | «continue» => exact ends.1
  | stateChanged => exact ends.1

theorem sourceMismatch_drives (adapter : Adapter) (word : Word) (name : String) :
    Drives (Starting adapter word) (sourceMismatch name) StepEnds :=
  .bind _ (report_drives _) fun _ => .pure fun _ starting => starting.toHolding

theorem lost_drives (adapter : Adapter) (msg : String) :
    Drives (Failing adapter (.disconnected msg)) (report (.disconnected msg) >>= fun _ => pure .disconnected) StepEnds := by
  refine .bind _ (report_drives _) fun _ => .pure fun s failing => ?_
  exact { failing.toHolding with gone := .inr (by rw [failing.lost]; rfl), position := failing.interruptible }

/-- A backend that fails for good is given up and reported. -/
theorem giveUp_drives (adapter : Adapter) (error : Error) :
    Drives (Failing adapter error) (do
      let w ← state
      disconnect env w.backend.id
      report error
      return .disconnected) StepEnds := by
  refine .state fun w failing => ?_
  refine .bind _ ((release_drives env _).pre fun s eq => ?_) fun _ => ?_
  · subst eq
    exact ⟨failing.toHolding, failing.interruptible, rfl⟩
  exact .bind _ (report_drives _) fun _ => .pure fun _ => id

theorem writeFailed_drives (adapter : Adapter) (error : Error) :
    Drives (Failing adapter error) (writeFailed env error) StepEnds := by
  unfold writeFailed
  split
  · exact .pure fun _ failing => failing.toHolding
  · exact lost_drives _ _
  · exact giveUp_drives env _ _

theorem write_drives (adapter : Adapter) (phase : Phase) (answer : World → Except Error WriteOutcome) (pps : Nat)
    (slice : List LaserPoint) :
    Drives (fun s => Stepping adapter phase s ∧ s.source.cachedSlice = some slice) (write env answer pps slice)
      (Wrote adapter phase) := by
  refine .command (fun w known => .wrote pps _ known.2 ?_) fun w known => ?_
  · exact known.1.position ▸ known.1.inside
  obtain ⟨stepping, -⟩ := known
  generalize answer w = result
  have held : w.backend.id = w.trace.held := stepping.held.symm
  match result with
  | .ok .written => exact ⟨⟨by simp [Status.note, Trace.next, held], stepping.fresh⟩, rfl,
      by simpa [Status.note, Trace.next] using stepping.alive, stepping.adapter⟩
  | .ok .wouldBlock => exact ⟨⟨by simp [Status.note, Trace.next, held], stepping.fresh⟩, stepping.inside,
      by simpa [Status.note, Trace.next] using stepping.position,
      by simpa [Status.note, Trace.next] using stepping.alive, stepping.adapter⟩
  | .error error =>
    have inside : w.trace.phase = .stepped ∨ ∃ word, w.trace.phase = .stepping word :=
      stepping.position ▸ stepping.inside
    cases disconnected : error.isDisconnected with
    | true =>
      exact ⟨⟨by simp [Status.note, Trace.next, held, disconnected], stepping.fresh⟩,
        by simpa [Status.note, Trace.next, disconnected] using inside,
        by simp [Status.note, Trace.next, disconnected, Trace.lost, held], stepping.adapter⟩
    | false =>
      exact ⟨⟨by simp [Status.note, Trace.next, held, disconnected], stepping.fresh⟩,
        by simpa [Status.note, Trace.next, disconnected] using inside,
        by simpa [Status.note, Trace.next, disconnected] using stepping.alive, stepping.adapter⟩

theorem commitWritten_drives (adapter : Adapter) (n : Nat) (isArmed : Bool) :
    Drives (Accepted adapter) (commitWritten n isArmed) fun _ s =>
      Stepping adapter .stepped s ∧ s.source.cachedSlice = none := by
  refine .update (fun w accepted => .committed n isArmed accepted.position) fun w accepted => ?_
  refine ⟨⟨⟨accepted.held, accepted.fresh⟩, .inl rfl, rfl, accepted.alive, accepted.adapter⟩, ?_⟩
  exact (w.source.commitWritten_becomes n isArmed).cached

theorem produce_drives (adapter : Adapter) (word : Word) (pps : Nat) (result : World → Option (Nat × Source))
    (makes : ∀ w n after, result w = some (n, after) →
      w.source.Produces pps (isArmedWord word) w.shared.colorDelay n after) :
    Drives (fun s => Starting adapter word s ∧ adapter.hasRetain = false)
      (produce env (isArmedWord word) pps result) (Produced adapter word) := by
  refine .bind _ .access fun _ => ?_
  refine Follows.bind (M := fun w w' => w' = w ∧ Starting adapter word w.status ∧ adapter.hasRetain = false)
    (Follows.state fun w known => ⟨rfl, known⟩) fun w => ?_
  refine Follows.assuming (fun _ known => known.2) fun ⟨starting, released⟩ => ?_
  have free : w.source.cachedSlice.isSome → w.trace.woken := by
    intro cached
    rcases starting.tidy cached with retained | woken
    · rw [starting.adapter, released] at retained
      simp at retained
    · exact woken
  refine Follows.bind (M := fun pair w' => w' = w ∧ result w = some pair)
    (Follows.ofOption fun pair eq w' known => ⟨known.1, eq⟩) ?_
  rintro ⟨n, after⟩
  refine Follows.assuming (fun _ known => known.2) fun eq => ?_
  have made := makes w n after eq
  refine Follows.ite (fun zero => ?_) fun positive => ?_
  · subst zero
    refine Follows.bind (M := fun _ w' => w' = { w.record .starved with source := after }) ?_ fun _ => ?_
    · refine Follows.update ?_ ?_
      · rintro _ ⟨rfl, -⟩
        exact .single (.starved word pps starting.position free made)
      · rintro _ ⟨rfl, -⟩
        rfl
    · refine Follows.pure ?_
      rintro _ rfl
      refine ⟨fun _ => ?_, absurd rfl⟩
      exact ⟨⟨starting.held, starting.fresh⟩, starting.position, starting.alive, starting.adapter,
        fun cached => .inr (free (made.starves.cached_isSome cached))⟩
  · refine Follows.bind (M := fun _ w' => w' = { w.record (.produced (after.cachedSlice.getD []) (isArmedWord word)
      w.handledState (w.carried pps)) with source := after }) ?_ fun _ => ?_
    · refine Follows.update ?_ ?_
      · rintro _ ⟨rfl, -⟩
        exact .single (.produced word pps starting.position free made positive)
      · rintro _ ⟨rfl, -⟩
        rfl
    · refine Follows.pure ?_
      rintro _ rfl
      refine ⟨fun zero => absurd zero positive, fun _ => ?_⟩
      exact ⟨⟨starting.held, starting.fresh⟩, .inl rfl, rfl, starting.alive, starting.adapter⟩

theorem wake_drives (adapter : Adapter) :
    Drives (Stepping adapter .stepped) NetworkFifoAdapter.spin.wake fun next s =>
      match next with
      | .inl _ => Stepping adapter .stepped s
      | .inr outcome => StepEnds outcome s := by
  refine .bind (fun _ => Between) (.update (fun w stepping => ?_) fun w stepping => ?_) fun _ => .pure fun _ => id
  · exact .noted (.woken stepping.position)
  · exact ⟨⟨stepping.held, stepping.fresh⟩, .inr (.inl stepping.position), stepping.alive, fun _ => .inr rfl⟩

theorem spin_drives (adapter : NetworkFifoAdapter) (ctx : LoopCtx) (n spinStart : Nat) (desiredAtStart : Word) :
    Drives (Stepping (.networkFifo adapter) .stepped) (adapter.spin env ctx n spinStart desiredAtStart) fun next s =>
      match next with
      | .inl _ => Stepping (.networkFifo adapter) .stepped s
      | .inr outcome => StepEnds outcome s := by
  refine .state fun w stepping => ?_
  split
  · rename_i none_
    refine .pure fun s eq => ?_
    subst eq
    exact stepping.between fun cached => by simp [none_] at cached
  rename_i slice cached
  refine .bind (Wrote (.networkFifo adapter) .stepped) ?_ fun result => ?_
  · exact (write_drives env _ _ _ _ _).pre fun s eq => ⟨eq ▸ stepping, eq ▸ cached⟩
  split
  · refine .bind (fun _ => Accepted (.networkFifo { adapter with writtenPps := some ctx.pps })) ?_ fun _ => ?_
    · exact setAdapter_drives _ fun s accepted =>
        ⟨⟨accepted.held, accepted.fresh⟩, accepted.position, accepted.alive, rfl⟩
    refine .bind _ (commitWritten_drives _ _ _) fun _ => ?_
    exact .pure fun s ⟨stepping, none_⟩ => stepping.between fun cached => by simp [none_] at cached
  · refine .bind _ .look fun stop => ?_
    refine .ite (fun _ => .pure fun s stepping => stepping.toHolding) fun _ => ?_
    refine .bind _ (processControlMessages_drives env) fun action => ?_
    refine .bind _ (closeIfDisarmed_drives env (Stepping.quiet _ _)) fun _ => ?_
    split
    · exact .pure fun s stepping => stepping.toHolding
    · exact wake_drives _
    refine .bind _ .look fun armed => ?_
    refine .ite (fun _ => wake_drives _) fun _ => ?_
    refine .bind _ .look fun desired => ?_
    refine .ite (fun _ => wake_drives _) fun _ => ?_
    refine .bind _ .look fun now => ?_
    refine .ite (fun _ => ?_) fun _ => .bind _ .access fun _ => .pure fun _ => id
    refine .state fun w stepping => ?_
    refine .bind _ ((release_drives env _).pre fun s eq => ?_) fun _ => ?_
    · subst eq
      exact ⟨stepping.toHolding, .inl (.inr (.inl stepping.position)), rfl⟩
    exact .bind _ (report_drives _) fun _ => .pure fun _ => id
  · exact .bind _ (writeFailed_drives env _ _) fun _ => .pure fun _ => id

theorem networkFifo_drives (adapter : NetworkFifoAdapter) (word : Word) (ctx : LoopCtx)
    (armed : ctx.isArmed = isArmedWord word) :
    Drives (Starting (.networkFifo adapter) word) (adapter.step env ctx) StepEnds := by
  refine .bind _ .look fun ceiling => ?_
  refine .bind _ .look fun buffered => ?_
  refine .ite (fun _ => (waitStep_ends env _).pre fun s starting => starting.between) fun _ => ?_
  refine .ite (fun _ => .bind _ .access fun _ => .pure fun s starting => starting.between) fun _ => ?_
  refine .ite (fun _ => (waitStep_ends env _).pre fun s starting => starting.between) fun _ => ?_
  refine .state fun w starting => ?_
  refine .ite (fun _ => ?_) fun _ => ?_
  · exact (sourceMismatch_drives _ _ _).pre fun s eq => eq ▸ starting
  rw [armed]
  refine .bind _ ((produce_drives env _ word _ _ ?_).pre fun s eq => ⟨eq ▸ starting, rfl⟩) fun n => ?_
  · exact fun w n after made => .chunk _ _ _ made
  refine .ite (fun zero => ?_) fun positive => ?_
  · exact .bind _ .access fun _ => .pure fun s produced => (produced.empty zero).between
  refine .bind _ .look fun spinStart => ?_
  refine .bind _ .look fun desiredAtStart => ?_
  refine (Drives.iterate (fun _ => Stepping (.networkFifo adapter) .stepped) (fun _ => ?_) _ _).pre ?_
  · exact (spin_drives env adapter ctx n spinStart desiredAtStart).post fun next s ends => by cases next <;> exact ends
  · exact fun s produced => produced.slice positive

theorem setAdapter_tidy (phase : Phase) (adapter after : Adapter) :
    Drives (fun s => Stepping adapter phase s ∧ s.source.cachedSlice = none) (setAdapter after) fun _ => Between :=
  setAdapter_drives after fun _ ⟨stepping, none_⟩ =>
    { held := stepping.held
      fresh := stepping.fresh
      position := .inr (stepping.position ▸ stepping.inside)
      alive := stepping.alive
      tidy := fun cached => by simp [none_] at cached }

theorem setAdapter_stepping (phase : Phase) (adapter after : Adapter) :
    Drives (Stepping adapter phase) (setAdapter after) fun _ => Stepping after phase :=
  setAdapter_drives after fun _ stepping =>
    ⟨⟨stepping.held, stepping.fresh⟩, stepping.inside, stepping.position, stepping.alive, rfl⟩

theorem Stepping.retains {phase : Phase} (stepping : Stepping adapter phase s) (retained : adapter.hasRetain) :
    Between s :=
  stepping.between fun _ => .inl (by rw [stepping.adapter]; exact retained)

theorem deliverRetained_drives (ctx : LoopCtx) (pps : Nat) (phase : Phase) (retained released : Adapter)
    (blocked : Run World StepOutcome) (backsOff : Drives (Stepping retained phase) blocked StepEnds) :
    Drives (Stepping retained phase) (deliverRetained env ctx pps released blocked) StepEnds := by
  refine .state fun w stepping => ?_
  split
  · rename_i none_
    refine .bind (fun _ => Between) ?_ fun _ => .pure fun _ => id
    exact (setAdapter_tidy phase retained released).pre fun s eq => ⟨eq ▸ stepping, eq ▸ none_⟩
  rename_i slice cached
  refine .bind (Wrote retained phase) ?_ fun result => ?_
  · exact (write_drives env _ _ _ _ _).pre fun s eq => ⟨eq ▸ stepping, eq ▸ cached⟩
  split
  · refine .bind _ (commitWritten_drives _ _ _) fun _ => ?_
    exact .bind _ (setAdapter_tidy _ _ _) fun _ => .pure fun _ => id
  · exact backsOff
  · exact writeFailed_drives env _ _

theorem reserveBuf_drives (adapter : Adapter) (word : Word) (n : Nat) :
    Drives (Starting adapter word) (changeSource (Source.reserveBuf n)) fun _ => Starting adapter word := by
  refine .update (fun w _ => .tuned _ (.reserveBuf n)) fun w starting => ?_
  refine ⟨⟨starting.held, starting.fresh⟩, starting.position, starting.alive, starting.adapter, fun cached => ?_⟩
  have tuning : w.source.Tuning (w.source.reserveBuf n) := .reserveBuf n
  have same := tuning.cached_isSome
  exact starting.tidy (same.symm.trans cached)

theorem setAdapter_starting (word : Word) (adapter after : Adapter) (same : after.hasRetain = adapter.hasRetain) :
    Drives (Starting adapter word) (setAdapter after) fun _ => Starting after word := by
  refine setAdapter_drives after fun s starting => ?_
  refine ⟨⟨starting.held, starting.fresh⟩, starting.position, starting.alive, rfl, fun cached => ?_⟩
  have tidy := starting.tidy cached
  rw [starting.adapter] at tidy
  exact tidy.imp same.trans id

theorem UdpTimedAdapter.recomputeChunk_hasRetain (pps : Nat) (adapter : UdpTimedAdapter) :
    (adapter.recomputeChunk pps).hasRetain = adapter.hasRetain := by
  unfold recomputeChunk
  dsimp only
  split <;> rfl

theorem udpTimed_drives (adapter : UdpTimedAdapter) (word : Word) (ctx : LoopCtx)
    (armed : ctx.isArmed = isArmedWord word) :
    Drives (Starting (.udpTimed adapter) word) (adapter.step env ctx) StepEnds := by
  refine .bind _ (sleepUntilPrecise_drives env (Starting.quiet _ _) _) fun ended => ?_
  split
  · rename_i outcome
    refine .pure fun s ⟨starting, other⟩ => ?_
    cases outcome with
    | disconnected => exact absurd rfl other
    | stopped => exact starting.toHolding
    | «continue» => exact starting.between
    | stateChanged => exact starting.between
  refine .bind (fun _ => Starting (.udpTimed adapter) word) (Drives.pre .look fun s known => known.1) fun now => ?_
  refine .bind _ (setAdapter_starting word _ _ rfl) fun _ => ?_
  refine .bind (fun _ => Starting (.udpTimed (adapter.advance now)) word) ?_ fun pps => ?_
  · exact .command (fun _ _ => .neutral trivial) fun w starting =>
      ⟨⟨starting.held, starting.fresh⟩, starting.position, starting.alive, starting.adapter, starting.tidy⟩
  refine .bind _ (setAdapter_starting word _ _ (UdpTimedAdapter.recomputeChunk_hasRetain _ _)) fun _ => ?_
  generalize (adapter.advance now).recomputeChunk pps = adapter
  refine .state fun w starting => ?_
  refine .ite (fun _ => ?_) fun _ => ?_
  · exact (sourceMismatch_drives _ _ _).pre fun s eq => eq ▸ starting
  refine .bind _ ((reserveBuf_drives (.udpTimed adapter) word _).pre fun s eq => eq ▸ starting) fun _ => ?_
  refine .ite (fun retained => ?_) fun released => ?_
  · refine (deliverRetained_drives env ctx pps (.stepping word) (.udpTimed adapter) _ _ ?_).pre fun s starting =>
      starting.stepping
    exact .pure fun s stepping => stepping.retains retained
  rw [armed]
  refine .bind _ ((produce_drives env _ word _ _ ?_).pre fun s starting => ⟨starting, ?_⟩) fun n => ?_
  · exact fun w n after made => .chunk _ _ _ made
  · simpa [Adapter.hasRetain] using released
  refine .ite (fun zero => ?_) fun positive => ?_
  · exact .pure fun s produced => (produced.empty zero).between
  refine .bind _ ((setAdapter_stepping .stepped _ _).pre fun s produced => produced.slice positive) fun _ => ?_
  refine deliverRetained_drives env ctx pps .stepped _ _ _ ?_
  exact .pure fun s stepping => stepping.retains rfl

theorem blocked_drives (adapter : Adapter) (phase : Phase) (retained : adapter.hasRetain) :
    Drives (Stepping adapter phase) (BlockingFifoAdapter.blocked env) StepEnds := by
  refine .bind _ .look fun stop => ?_
  refine .ite (fun _ => .pure fun s stepping => stepping.toHolding) fun _ => ?_
  refine .bind _ (closeIfDisarmed_drives env (Stepping.quiet _ _)) fun _ => ?_
  refine .bind _ .look fun armed => ?_
  refine .ite (fun _ => ?_) fun _ => .pure fun s stepping => stepping.retains retained
  exact .bind _ .access fun _ => .pure fun s stepping => stepping.retains retained

theorem blockingFifo_drives (adapter : BlockingFifoAdapter) (word : Word) (ctx : LoopCtx)
    (armed : ctx.isArmed = isArmedWord word) :
    Drives (Starting (.blockingFifo adapter) word) (adapter.step env ctx) StepEnds := by
  refine .ite (fun _ => ?_) fun _ => (waitStep_ends env _).pre fun s starting => starting.between
  refine .state fun w starting => ?_
  refine .ite (fun _ => ?_) fun _ => ?_
  · exact (sourceMismatch_drives _ _ _).pre fun s eq => eq ▸ starting
  refine .bind _ ((reserveBuf_drives (.blockingFifo adapter) word _).pre fun s eq => eq ▸ starting) fun _ => ?_
  refine .ite (fun retained => ?_) fun released => ?_
  · exact (deliverRetained_drives env ctx _ (.stepping word) (.blockingFifo adapter) _ _
      (blocked_drives env _ _ retained)).pre fun s starting => starting.stepping
  rw [armed]
  refine .bind _ ((produce_drives env _ word _ _ ?_).pre fun s starting => ⟨starting, ?_⟩) fun n => ?_
  · exact fun w n after made => .chunk _ _ _ made
  · simpa [Adapter.hasRetain] using released
  refine .ite (fun zero => ?_) fun positive => ?_
  · exact .bind _ .access fun _ => .pure fun s produced => (produced.empty zero).between
  refine .bind _ ((setAdapter_stepping .stepped _ _).pre fun s produced => produced.slice positive) fun _ => ?_
  exact deliverRetained_drives env ctx _ .stepped _ _ _ (blocked_drives env _ _ rfl)

variable (adapter : UsbFrameSwapAdapter)

theorem frameFailed_drives (error : Error) (pending : adapter.writePending) :
    Drives (Failing (.usbFrameSwap adapter) error) (adapter.frameFailed env error) StepEnds := by
  unfold UsbFrameSwapAdapter.frameFailed
  split
  · exact .pure fun _ failing => failing.toHolding
  · exact lost_drives _ _
  · rename_i other
    have transient : error.isDisconnected = false := by
      cases error <;> first | rfl | exact absurd rfl (other _)
    refine .ite (fun _ => ?_) fun _ => ?_
    · refine .bind (fun _ => Between) (setAdapter_drives _ fun s failing => ?_) fun _ => ?_
      · exact ⟨⟨failing.held, failing.fresh⟩, .inr failing.inside, failing.lost.trans transient, fun _ => .inl pending⟩
      · exact .bind _ .access fun _ => .pure fun _ => id
    · refine .bind (fun _ => Failing (.usbFrameSwap UsbFrameSwapAdapter.new) error)
        (setAdapter_drives _ fun s failing => ?_) fun _ => ?_
      · exact ⟨⟨failing.held, failing.fresh⟩, failing.inside, failing.lost, rfl⟩
      exact giveUp_drives env _ _

theorem deliver_drives (phase : Phase) (ctx : LoopCtx) (pending : adapter.writePending) :
    Drives (Stepping (.usbFrameSwap adapter) phase) (adapter.deliver env ctx) StepEnds := by
  refine .state fun w stepping => ?_
  split
  · rename_i none_
    refine .bind (fun _ => Between) ?_ fun _ => .pure fun _ => id
    exact (setAdapter_tidy phase _ _).pre fun s eq => ⟨eq ▸ stepping, eq ▸ none_⟩
  rename_i slice cached
  refine .bind (Wrote (.usbFrameSwap adapter) phase) ?_ fun result => ?_
  · exact (write_drives env _ _ _ _ _).pre fun s eq => ⟨eq ▸ stepping, eq ▸ cached⟩
  split
  · refine .bind _ (commitWritten_drives _ _ _) fun _ => ?_
    refine .bind _ (setAdapter_tidy _ _ _) fun _ => ?_
    exact .ite (fun _ => waitStep_ends env _) fun _ => .pure fun _ => id
  · exact .bind _ .access fun _ => .pure fun s stepping => Stepping.retains stepping pending
  · exact frameFailed_drives env adapter _ pending

theorem usbFrameSwap_drives (word : Word) (ctx : LoopCtx)
    (armed : ctx.isArmed = isArmedWord word) :
    Drives (Starting (.usbFrameSwap adapter) word) (adapter.step env ctx) StepEnds := by
  refine .bind _ .look fun ready => ?_
  split
  · exact .bind _ (report_drives _) fun _ => .pure fun s starting => starting.toHolding
  · exact (waitStep_ends env _).pre fun s starting => starting.between
  refine .state fun w starting => ?_
  refine .ite (fun _ => ?_) fun _ => (sourceMismatch_drives _ _ _).pre fun s eq => eq ▸ starting
  refine .ite (fun pending => ?_) fun free => ?_
  · exact (deliver_drives env adapter (.stepping word) ctx pending).pre fun s eq => eq ▸ starting.stepping
  rw [armed]
  refine .bind _ ((produce_drives env _ word _ _ ?_).pre fun s eq => ⟨eq ▸ starting, ?_⟩) fun n => ?_
  · exact fun w n after made => .frame _ made
  · simpa [Adapter.hasRetain] using free
  refine .ite (fun zero => ?_) fun positive => ?_
  · exact .bind _ .access fun _ => .pure fun s produced => (produced.empty zero).between
  refine .bind _ ((setAdapter_stepping .stepped _ _).pre fun s produced => produced.slice positive) fun _ => ?_
  exact deliver_drives env _ .stepped ctx rfl

/-- A step of any adapter. -/
theorem Adapter.step_drives (adapter : Adapter) (word : Word) (ctx : LoopCtx)
    (armed : ctx.isArmed = isArmedWord word) :
    Drives (Starting adapter word) (adapter.step env ctx) StepEnds := by
  cases adapter with
  | networkFifo adapter => exact networkFifo_drives env adapter word ctx armed
  | udpTimed adapter => exact udpTimed_drives env adapter word ctx armed
  | blockingFifo adapter => exact blockingFifo_drives env adapter word ctx armed
  | usbFrameSwap adapter => exact usbFrameSwap_drives env adapter word ctx armed

end

end LaserDac
