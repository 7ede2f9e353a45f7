import LaserDac.Sessions

/-!
What becomes of the slices. The log determines which slice is under way, whether the desired state has moved since it
was produced, and whether the device has taken it.
-/

namespace LaserDac

open Runs

/-- The slice that is produced and not committed. -/
inductive Slot
  | free
  /-- Not taken yet; whether the desired state has moved since the production. -/
  | held (slice : List LaserPoint) (changed : Bool)
  | accepted (slice : List LaserPoint)
  deriving DecidableEq

namespace Slot

def next (slot : Slot) : Event → Slot
  | .produced slice _ _ _ => .held slice false
  | .starved => .free
  | .edge _ _ =>
    match slot with
    | .held slice _ => .held slice true
    | slot => slot
  | .wrote _ _ slice (.ok .written) _ _ => .accepted slice
  | .committed => .free
  | .falling .discardCached _ => .free
  | .rising .discardCached _ => .free
  | .installed _ _ _ => .free
  | _ => slot

def Replaceable : Slot → Prop
  | .free => True
  | .held _ changed => changed
  | .accepted _ => False

def Holds (slice : List LaserPoint) : Slot → Prop
  | .held own _ => own = slice
  | _ => False

def Open : Slot → Prop
  | .accepted _ => False
  | _ => True

/-- A slice is under way, and nothing has changed since its production. -/
def Undisturbed : Slot → Prop
  | .held _ changed => changed = false
  | _ => False

instance : ∀ slot : Slot, Decidable slot.Replaceable
  | .free => inferInstanceAs (Decidable True)
  | .held _ changed => inferInstanceAs (Decidable (changed = true))
  | .accepted _ => inferInstanceAs (Decidable False)

instance (slice : List LaserPoint) : ∀ slot : Slot, Decidable (slot.Holds slice)
  | .held own _ => inferInstanceAs (Decidable (own = slice))
  | .free | .accepted _ => inferInstanceAs (Decidable False)

instance : ∀ slot : Slot, Decidable slot.Open
  | .accepted _ => inferInstanceAs (Decidable False)
  | .free | .held _ _ => inferInstanceAs (Decidable True)

end Slot

def slot (log : List Event) : Slot := log.foldr (fun event slot => slot.next event) .free

/-- The first read of the last transition, and the handled state it found. -/
def lastRead : List Event → Option (Word × Word)
  | [] => none
  | .firstRead desired handled :: _ => some (desired, handled)
  | _ :: earlier => lastRead earlier

/-- The last transition is one to another generation than the handled one. -/
def GenerationChanged (generation : Word) (log : List Event) : Prop :=
  match lastRead log with
  | some (desired, handled) => desired = generation ∧ desired ≠ handled
  | none => False

instance (generation : Word) (log : List Event) : Decidable (GenerationChanged generation log) :=
  match read : lastRead log with
  | some (desired, handled) => decidable_of_iff (desired = generation ∧ desired ≠ handled) (by simp [GenerationChanged, read])
  | none => isFalse (by simp [GenerationChanged, read])

/-- A slice is written as it was produced, until the device takes it, and then committed once. It is dropped
only in a transition to another generation or for a replacement, or replaced once the desired state moved. -/
@[reducible] def Delivers : Event → List Event → Prop
  | .produced _ _ _ _, earlier => (slot earlier).Replaceable
  | .starved, earlier => (slot earlier).Replaceable
  | .wrote _ _ slice _ _ _, earlier => (slot earlier).Holds slice
  | .committed, earlier => ¬ (slot earlier).Open
  | .falling .discardCached generation, earlier => (slot earlier).Open ∧ GenerationChanged generation earlier
  | .rising .discardCached generation, earlier => (slot earlier).Open ∧ GenerationChanged generation earlier
  | .installed _ _ _, earlier => (slot earlier).Open
  | .pass, earlier => (slot earlier).Open
  | _, _ => True

instance : ∀ event earlier, Decidable (Delivers event earlier) := Event.decidableLaw

/-- A notification ended the wait for the device only when there was a generation to handle. -/
@[reducible] def WokenForAChange : Event → List Event → Prop
  | .woken desired handled, _ => desired ≠ handled
  | _, _ => True

instance : ∀ event earlier, Decidable (WokenForAChange event earlier) := Event.decidableLaw

/-! ### The slot, the cache and the position -/

/-- The slot holds what is cached; a slice the device took is committed before anything else. -/
def Coupled (phase : Phase) (cached : Option (List LaserPoint)) : Slot → Prop
  | .free => cached = none ∧ phase ≠ .accepted
  | .held slice _ => cached = some slice ∧ phase ≠ .accepted
  | .accepted slice => cached = some slice ∧ phase = .accepted

variable {phase : Phase}

theorem Coupled.move {next : Phase} {cached : Option (List LaserPoint)} {slot : Slot}
    (coupled : Coupled phase cached slot) (before : phase ≠ .accepted) (after : next ≠ .accepted) :
    Coupled next cached slot := by
  cases slot with
  | free | held => exact ⟨coupled.1, after⟩
  | accepted => exact absurd coupled.2 before

/-- The generation a transition has read and not yet prepared. -/
def Phase.transition : Phase → Option Word
  | .read desired => some desired
  | .falling _ desired => some desired
  | .fell desired => some desired
  | _ => none

/-- An undisturbed slice whose wait was ended leaves a generation to handle. A transition to it drops the
slice; a pass without a transition finds none. -/
def Waits (phase : Phase) (woken : Bool) (slot : Slot) (unhandled : Prop) : Prop :=
  match phase with
  | .top => slot.Undisturbed → woken → unhandled
  | .stepped => slot.Undisturbed → woken → unhandled
  | .accepted => True
  | .read _ => True
  | .ready _ => slot.Undisturbed → woken = false
  | .stepping _ => slot.Undisturbed → woken = false
  | _ => slot = .free

theorem Waits.free {woken : Bool} {unhandled : Prop} : Waits phase woken .free unhandled := by
  cases phase <;> first | exact trivial | exact rfl | exact fun undisturbed => undisturbed.elim

structure Tracks (source : Source) (log : List Event) (desired handled : Word) : Prop where
  pipeline : source.isPipeline
  wellFormed : source.WellFormed
  coupled : Coupled (trace log).phase source.cachedSlice (slot log)
  read : ∀ generation, (trace log).phase.transition = some generation → GenerationChanged generation log
  waits : Waits (trace log).phase (trace log).woken (slot log) (desired ≠ handled)

variable {event : Event}

namespace Tracks

variable {source : Source} {log : List Event} {desired handled : Word}

section

variable (tracks : Tracks source log desired handled)

include tracks

theorem cached_of_free (free : slot log = .free) : source.cachedSlice = none := by
  have coupled := tracks.coupled
  rw [free] at coupled
  exact coupled.1

theorem isOpen (position : (trace log).phase ≠ .accepted) : (slot log).Open := by
  have coupled := tracks.coupled
  cases eq : slot log with
  | free | held => exact trivial
  | accepted =>
    rw [eq] at coupled
    exact position coupled.2

theorem held {slice : List LaserPoint} (cached : source.cachedSlice = some slice)
    (position : (trace log).phase ≠ .accepted) : ∃ changed, slot log = .held slice changed := by
  have coupled := tracks.coupled
  cases eq : slot log with
  | free => simp [eq, Coupled, cached] at coupled
  | held own changed =>
    obtain rfl : slice = own := by simpa [eq, Coupled, cached, position] using coupled
    exact ⟨changed, rfl⟩
  | accepted =>
    rw [eq] at coupled
    exact absurd coupled.2 position

theorem readAt (position : (trace log).phase = phase) (generation : Word)
    (transition : phase.transition = some generation) : GenerationChanged generation log :=
  tracks.read generation (position ▸ transition)

theorem stay (slotSame : slot (event :: log) = slot log) (readSame : lastRead (event :: log) = lastRead log)
    (phase : ((trace log).next event).phase = (trace log).phase)
    (woken : ((trace log).next event).woken = (trace log).woken) : Tracks source (event :: log) desired handled where
  pipeline := tracks.pipeline
  wellFormed := tracks.wellFormed
  coupled := by
    change Coupled ((trace log).next event).phase _ _
    rw [phase, slotSame]
    exact tracks.coupled
  read := by
    change ∀ generation, ((trace log).next event).phase.transition = _ → _
    rw [phase]
    simpa only [GenerationChanged, readSame] using tracks.read
  waits := by
    change Waits ((trace log).next event).phase ((trace log).next event).woken _ _
    rw [phase, woken, slotSame]
    exact tracks.waits

theorem neutral (neutral : event.Neutral) : Tracks source (event :: log) desired handled := by
  obtain ⟨phase, woken⟩ := (trace log).next_neutral neutral
  have slotSame : slot (event :: log) = slot log := by cases event <;> first | rfl | cases neutral
  have readSame : lastRead (event :: log) = lastRead log := by cases event <;> first | rfl | cases neutral
  exact tracks.stay slotSame readSame phase woken

theorem move (slotSame : slot (event :: log) = slot log) (phase next : Phase) (before : (trace log).phase = phase)
    (after : ((trace log).next event).phase = next) (woken : ((trace log).next event).woken = (trace log).woken)
    (leaves : phase ≠ .accepted) (enters : next ≠ .accepted)
    (read : ∀ generation, next.transition = some generation → GenerationChanged generation (event :: log))
    (waits : Waits phase (trace log).woken (slot log) (desired ≠ handled) →
      Waits next (trace log).woken (slot log) (desired ≠ handled)) :
    Tracks source (event :: log) desired handled where
  pipeline := tracks.pipeline
  wellFormed := tracks.wellFormed
  coupled := by
    change Coupled ((trace log).next event).phase _ _
    rw [after, slotSame]
    exact tracks.coupled.move (before ▸ leaves) enters
  read := by
    change ∀ generation, ((trace log).next event).phase.transition = _ → _
    rw [after]
    exact read
  waits := by
    change Waits ((trace log).next event).phase ((trace log).next event).woken _ _
    rw [after, woken, slotSame]
    exact waits (before ▸ tracks.waits)

theorem tune {after : Source} {line : ColorDelayLine} {remaining : Nat}
    (becomes : source.Becomes after source.cachedSlice line remaining) : Tracks after log desired handled where
  pipeline := becomes.isPipeline ▸ tracks.pipeline
  wellFormed := becomes.wellFormed tracks.wellFormed
  coupled := becomes.cached ▸ tracks.coupled
  read := tracks.read
  waits := tracks.waits

theorem cleared {after : Source} {line : ColorDelayLine} {remaining : Nat}
    (becomes : source.Becomes after none line remaining) (desired' handled' : Word) (free : slot (event :: log) = .free)
    (next : Phase) (position : ((trace log).next event).phase = next) (enters : next ≠ .accepted)
    (read : ∀ generation, next.transition = some generation → GenerationChanged generation (event :: log)) :
    Tracks after (event :: log) desired' handled' where
  pipeline := becomes.isPipeline ▸ tracks.pipeline
  wellFormed := becomes.wellFormed tracks.wellFormed
  coupled := by
    rw [free]
    exact ⟨becomes.cached, position ▸ enters⟩
  read := by
    change ∀ generation, ((trace log).next event).phase.transition = _ → _
    rw [position]
    exact read
  waits := free ▸ .free

/-- Another thread moved the word. -/
theorem disturbed (before after : Word) :
    Tracks source (.edge before after :: log) after handled where
  pipeline := tracks.pipeline
  wellFormed := tracks.wellFormed
  coupled := by
    have coupled := tracks.coupled
    change Coupled (trace log).phase _ ((slot log).next (.edge before after))
    cases eq : slot log <;> rw [eq] at coupled <;> exact coupled
  read := tracks.read
  waits := by
    have waits := tracks.waits
    change Waits (trace log).phase (trace log).woken ((slot log).next (.edge before after)) _
    cases eq : slot log with
    | free => exact .free
    | held =>
      rw [eq] at waits
      cases position : (trace log).phase <;> rw [position] at waits <;>
        first | exact trivial | exact fun undisturbed => nomatch undisturbed | exact nomatch waits
    | accepted =>
      have coupled := tracks.coupled
      rw [eq] at coupled
      rw [coupled.2]
      exact trivial

theorem replaceable {word : Word} (position : (trace log).phase = .stepping word)
    (free : source.cachedSlice.isSome → (trace log).woken) : (slot log).Replaceable := by
  have coupled := tracks.coupled
  have waits := tracks.waits
  rw [position] at coupled waits
  cases eq : slot log with
  | free => exact trivial
  | held slice changed =>
    rw [eq] at coupled waits
    cases changed with
    | true => exact rfl
    | false => exact absurd (free (by simp [coupled.1])) (by simp [waits rfl])
  | accepted =>
    rw [eq] at coupled
    exact nomatch coupled.2

theorem taken (position : (trace log).phase = .accepted) : ¬ (slot log).Open := by
  have coupled := tracks.coupled
  rw [position] at coupled
  cases eq : slot log <;> rw [eq] at coupled <;> simp_all [Coupled, Slot.Open]

end

theorem noted {w : World} (tracks : Tracks w.source w.log w.desired w.handledState) (allowed : Allows w event)
    (woke : WokenForAChange event w.log) :
    Tracks w.source (event :: w.log) w.desired w.handledState ∧ Delivers event w.log := by
  cases allowed with
  | neutral harmless =>
    have neutral := harmless.neutral
    refine ⟨tracks.neutral neutral, ?_⟩
    cases event <;> first | exact trivial | cases neutral
  | pass position =>
    rcases position with eq | eq | ⟨word, eq⟩
    · exact ⟨tracks.move rfl .top .top eq rfl rfl (by simp) (by simp) (by simp [Phase.transition]) id,
        tracks.isOpen (by simp [eq])⟩
    · exact ⟨tracks.move rfl .stepped .top eq rfl rfl (by simp) (by simp) (by simp [Phase.transition]) id,
        tracks.isOpen (by simp [eq])⟩
    · refine ⟨tracks.move rfl (.stepping word) .top eq rfl rfl (by simp) (by simp) (by simp [Phase.transition]) ?_,
        tracks.isOpen (by simp [eq])⟩
      intro waits undisturbed woken
      exact absurd (waits undisturbed) (by simpa using woken)
  | firstRead position =>
    by_cases same : w.desired = w.handledState
    · refine ⟨tracks.move rfl .top (.ready w.desired) position (if_pos same) rfl (by simp) (by simp)
        (by simp [Phase.transition]) ?_, trivial⟩
      intro waits undisturbed
      have still : ¬ (trace w.log).woken := fun woken => waits undisturbed woken same
      simpa using still
    · refine ⟨tracks.move rfl .top (.read w.desired) position (if_neg same) rfl (by simp) (by simp)
        ?_ fun _ => trivial, trivial⟩
      intro generation transition
      obtain rfl : w.desired = generation := by simpa [Phase.transition] using transition
      exact ⟨rfl, same⟩
  | @changed generation position differs =>
    exact ⟨tracks.move rfl (.fell generation) .moved position rfl rfl (by simp) (by simp)
      (by simp [Phase.transition]) id, trivial⟩
  | @fallingChange generation position =>
    exact ⟨tracks.move rfl (.falling .discardCached generation) (.falling .onStateChange generation) position rfl rfl
      (by simp) (by simp) (fun _ transition => tracks.readAt position _ transition) id, trivial⟩
  | @fallingFilter generation position =>
    exact ⟨tracks.move rfl (.falling .onDisarm generation) (.falling .resetOutputFilter generation) position rfl rfl
      (by simp) (by simp) (fun _ transition => tracks.readAt position _ transition) id, trivial⟩
  | @risingChange generation position =>
    exact ⟨tracks.move rfl (.rising .discardCached generation) (.rising .onStateChange generation) position rfl
      (by simp [Trace.next]) (by simp) (by simp) (by simp [Phase.transition]) id, trivial⟩
  | @risingFilter pps generation position =>
    exact ⟨tracks.move rfl (.rising (.armStartupBlank pps) generation) (.rising .resetOutputFilter generation) position
      rfl (by simp [Trace.next]) (by simp) (by simp) (by simp [Phase.transition]) id, trivial⟩
  | @risingBuffer generation position =>
    exact ⟨tracks.move rfl (.rising .resetOutputFilter generation) (.rising .resetDeviceBuffer generation) position
      rfl (by simp [Trace.next]) (by simp) (by simp) (by simp [Phase.transition]) id, trivial⟩
  | armedRead position =>
    refine ⟨?_, trivial⟩
    -- A transition leaves nothing in the slot.
    have settled : slot w.log = .free → (slot w.log).Undisturbed → (trace w.log).woken = false := by
      intro free undisturbed
      simp [free, Slot.Undisturbed] at undisturbed
    rcases position with eq | ⟨generation, eq | ⟨eq, -⟩⟩
    · exact tracks.move rfl .moved (.stepping w.desired) eq rfl rfl (by simp) (by simp) (by simp [Phase.transition]) settled
    · exact tracks.move rfl (.ready generation) (.stepping w.desired) eq rfl rfl (by simp) (by simp)
        (by simp [Phase.transition]) id
    · exact tracks.move rfl (.fell generation) (.stepping w.desired) eq rfl rfl (by simp) (by simp)
        (by simp [Phase.transition]) settled
  | @wrote slice pps result cached position =>
    have before : (trace w.log).phase ≠ .accepted := by
      rcases position with eq | ⟨word, eq⟩ <;> simp [eq]
    obtain ⟨changed, held⟩ := tracks.held cached before
    have holds : (slot w.log).Holds slice := by simp [held, Slot.Holds]
    refine ⟨?_, holds⟩
    by_cases taken : result = .ok .written
    · subst taken
      exact ⟨tracks.pipeline, tracks.wellFormed, ⟨cached, rfl⟩, by rintro _ ⟨⟩, trivial⟩
    · obtain ⟨phase, woken⟩ := (trace w.log).next_refused w.backend.id pps slice w.desired w.handledState taken
      have slotSame : slot (.wrote w.backend.id pps slice result w.desired w.handledState :: w.log) = slot w.log := by
        rcases result with error | outcome
        · rfl
        · cases outcome with
          | written => exact absurd rfl taken
          | wouldBlock => rfl
      exact tracks.stay slotSame rfl phase woken
  | woken position =>
    refine ⟨⟨tracks.pipeline, tracks.wellFormed, tracks.coupled, tracks.read, ?_⟩, trivial⟩
    change Waits (trace w.log).phase true (slot w.log) _
    rw [position]
    exact fun _ _ => woke

end Tracks

/-- What every step keeps, as long as no wait is ended without need. -/
def Delivering (w : World) : Prop :=
  Tracks w.source w.log w.desired w.handledState ∧ Always Delivers w.log

theorem Delivering.step (w w' : World) (delivering : Delivering w) (woke : Always WokenForAChange w'.log)
    (step : Step w w') : Delivering w' := by
  obtain ⟨tracks, delivers⟩ := delivering
  cases step with
  | silent shared adapter tick same =>
    refine ⟨?_, delivers⟩
    change Tracks w.source w.log shared.desired w.handledState
    rw [same]
    exact tracks
  | edge =>
    exact ⟨tracks.disturbed _ _, trivial, delivers⟩
  | tuned source tuning =>
    exact ⟨tracks.tune (tuning.becomes tracks.wellFormed), delivers⟩
  | noted allowed =>
    obtain ⟨tracks, fits⟩ := tracks.noted allowed woke.1
    exact ⟨tracks, fits, delivers⟩
  | closed =>
    exact ⟨tracks.neutral rfl, trivial, delivers⟩
  | opened =>
    exact ⟨tracks.neutral rfl, trivial, delivers⟩
  | fallingDiscard desired position =>
    have changed := tracks.readAt position _ rfl
    refine ⟨?_, ⟨tracks.isOpen (by simp [position]), changed⟩, delivers⟩
    refine tracks.cleared w.source.discardCached_becomes _ _ rfl (.falling .discardCached desired) rfl (by simp)
      fun generation transition => ?_
    obtain rfl : desired = generation := by simpa [Phase.transition] using transition
    exact changed
  | disarm desired position =>
    refine ⟨?_, trivial, delivers⟩
    exact (tracks.tune w.source.onDisarm_becomes).move rfl (.falling .onStateChange desired) (.falling .onDisarm desired)
      position rfl rfl (by simp) (by simp) (fun _ transition => tracks.readAt position _ transition) id
  | risingDiscard desired armed position =>
    have changed : GenerationChanged desired w.log ∧ (trace w.log).phase ≠ .accepted := by
      rcases position with position | ⟨position, -⟩
      · exact ⟨tracks.readAt position _ rfl, by simp [position]⟩
      · exact ⟨tracks.readAt position _ rfl, by simp [position]⟩
    refine ⟨?_, ⟨tracks.isOpen changed.2, changed.1⟩, delivers⟩
    exact tracks.cleared w.source.discardCached_becomes _ _ rfl (.rising .discardCached desired) rfl (by simp)
      (by simp [Phase.transition])
  | armStartupBlank desired pps current position =>
    refine ⟨?_, trivial, delivers⟩
    exact (tracks.tune (w.source.armStartupBlank_becomes pps)).move rfl (.rising .onStateChange desired)
      (.rising (.armStartupBlank pps) desired) position rfl (by simp [Trace.next]) (by simp) (by simp)
      (by simp [Phase.transition]) id
  | handled desired position =>
    refine ⟨?_, trivial, delivers⟩
    have waits := tracks.waits
    rcases position with position | position
    · have free : slot w.log = .free := by simpa [position, Waits] using waits
      refine tracks.cleared (.refl (tracks.cached_of_free free)) _ _ free (.fell desired)
        (Trace.next_handled_fell _ position) (by simp) fun generation transition => ?_
      exact tracks.readAt position _ transition
    · have free : slot w.log = .free := by simpa [position, Waits] using waits
      exact tracks.cleared (.refl (tracks.cached_of_free free)) _ _ free (.ready desired)
        (Trace.next_handled_ready _ position) (by simp) (by simp [Phase.transition])
  | produced word pps position free made positive =>
    obtain ⟨raw, -, presents⟩ := made.presents positive
    obtain ⟨slice, cached, -⟩ := presents.cached
    refine ⟨⟨presents.isPipeline ▸ tracks.pipeline, presents.wellFormed, ?_, ?_, ?_⟩,
      tracks.replaceable position free, delivers⟩
    · exact ⟨by simp [cached], by rintro ⟨⟩⟩
    · rintro _ ⟨⟩
    · rintro _ ⟨⟩
  | starved word pps position free made =>
    refine ⟨?_, tracks.replaceable position free, delivers⟩
    exact tracks.cleared (made.starves.becomes tracks.pipeline) _ _ rfl (.stepping word) position (by simp)
      (by simp [Phase.transition])
  | committed n isArmed position =>
    refine ⟨?_, tracks.taken position, delivers⟩
    exact tracks.cleared (w.source.commitWritten_becomes n isArmed) _ _ rfl .stepped rfl (by simp)
      (by simp [Phase.transition])
  | obtained =>
    exact ⟨tracks.neutral rfl, trivial, delivers⟩
  | installed env info backend shared gone position =>
    have before : (trace w.log).phase ≠ .accepted := by
      rcases position with (eq | eq | ⟨word, eq⟩) | ⟨step, desired, eq⟩ <;> simp [eq]
    refine ⟨?_, tracks.isOpen before, delivers⟩
    exact tracks.cleared (w.source.onReconnect_becomes _ _) _ _ rfl .top rfl (by simp) (by simp [Phase.transition])

theorem Delivering.start (session : Session) (pipeline : session.source.isPipeline) : Delivering session.start :=
  ⟨⟨pipeline, session.new.wellFormed, ⟨session.new.cachedSlice, nofun⟩, nofun, .free⟩, trivial⟩

/-- With any adapter, any results of the device and any notifications, slices are delivered as they were
produced, if no notification ends a wait without a generation to handle. -/
theorem slices_delivered (env : Env) (session : Session) (pipeline : session.source.isPipeline)
    (woke : Always WokenForAChange (session.after env).log) : Always Delivers (session.after env).log :=
  (session.after_keeps env _ Delivering (.start session pipeline) Delivering.step woke).2

/-- The session is armed for a frame, the device's queue is full, and while the adapter waits for it a thread
does this. -/
def Env.blocked (meanwhile : List Action) : Env :=
  { Env.acting (.sendFrame .bright :: Action.wholeArm) 20 meanwhile with write := fun _ => .ok .wouldBlock }

theorem slices_delivered_disarmed_while_blocked :
    (Session.queue 0 0).source.isPipeline ∧
      Always WokenForAChange ((Session.queue 0 0).after (.blocked Action.wholeDisarm)).log ∧
      Always Delivers ((Session.queue 0 0).after (.blocked Action.wholeDisarm)).log :=
  ⟨rfl, by decide +kernel, slices_delivered _ _ rfl (by decide +kernel)⟩

/-- A second `arm` while the first chunk waits: the chunk is produced over and never written. -/
theorem slice_lost_to_redundant_arm :
    ¬ Always Delivers ((Session.queue 0 0).after (.blocked Action.wholeArm)).log := by
  decide +kernel

end LaserDac
