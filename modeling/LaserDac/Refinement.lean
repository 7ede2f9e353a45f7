import LaserDac.Protocol

/-!
The code takes the steps of the protocol and no others. What a function needs and leaves behind is said of the
driver's own part of the state, which the other threads cannot touch, so every such assertion survives an
interleaving.
-/

namespace LaserDac

open Runs Runs.Run

/-- The driver's own part of the state, with its trace for the log. -/
structure Status where
  trace : Trace
  source : Source
  adapter : Adapter
  shutterState : ShutterState
  handledState : Word
  backend : Backend
  nextBackend : Nat

namespace Status

def note (event : Event) (s : Status) : Status := { s with trace := s.trace.next event }

def close (ok : Bool) (s : Status) : Status :=
  { s.note (.closed s.backend.id ok) with shutterState := if ok then .closed else .unknown }

def opens (generation : Word) (ok : Bool) (s : Status) : Status :=
  { s.note (.opened s.backend.id generation ok) with shutterState := if ok then .open else .unknown }

end Status

variable (w : World)

namespace World

def status (w : World) : Status where
  trace := w.trace
  source := w.source
  adapter := w.adapter
  shutterState := w.shutterState
  handledState := w.handledState
  backend := w.backend
  nextBackend := w.nextBackend

@[simp] theorem status_record (event : Event) (w : World) : (w.record event).status = w.status.note event := rfl

@[simp] theorem status_trace : w.status.trace = w.trace := rfl
@[simp] theorem status_source : w.status.source = w.source := rfl
@[simp] theorem status_adapter : w.status.adapter = w.adapter := rfl
@[simp] theorem status_shutterState : w.status.shutterState = w.shutterState := rfl
@[simp] theorem status_handledState : w.status.handledState = w.handledState := rfl
@[simp] theorem status_backend : w.status.backend = w.backend := rfl
@[simp] theorem status_nextBackend : w.status.nextBackend = w.nextBackend := rfl

theorem act_steps (action : Action) : Step w (w.act action) := by
  by_cases same : (w.shared.act action).desired = w.desired
  · rw [act, if_pos same]
    exact .silent _ w.adapter w.tick same
  · rw [act, if_neg same]
    rcases w.shared.act_desired action with still | ⟨armed, differs, moved⟩
    · exact absurd still same
    · exact .edge _ armed differs moved

theorem act_status (action : Action) : (w.act action).status = w.status := by
  unfold act
  dsimp only
  split <;> rfl

theorem interleave_steps (env : Env) (w : World) :
    Relation.ReflTransGen Step w (w.interleave env) ∧ (w.interleave env).status = w.status := by
  have acts : ∀ actions : List Action, ∀ w : World,
      Relation.ReflTransGen Step w (actions.foldl act w) ∧ (actions.foldl act w).status = w.status := by
    intro actions
    induction actions with
    | nil => exact fun w => ⟨.refl, rfl⟩
    | cons action actions ih =>
      intro w
      obtain ⟨path, same⟩ := ih (w.act action)
      exact ⟨.head (w.act_steps action) path, same.trans (w.act_status action)⟩
  obtain ⟨path, same⟩ := acts (env.schedule w.tick) w
  exact ⟨path.tail (.silent _ _ _ rfl), same⟩

end World

theorem command_follows (env : Env) {α : Type} {R : World → World → Prop} {P : World → Prop} {Q : α → World → Prop}
    {answer : World → α} {event : World → α → Event} (access : Follows R P (access env) fun _ => P)
    (moves : ∀ w, P w → R w (w.record (event w (answer w))))
    (holds : ∀ w, P w → Q (answer w) (w.record (event w (answer w)))) : Follows R P (command env answer event) Q := by
  refine Follows.bind access fun _ => ?_
  refine Follows.bind (M := fun w w' => w = w' ∧ P w) (Follows.state fun w holds => ⟨rfl, holds⟩) fun w => ?_
  refine Follows.bind (M := fun _ w' => w' = w.record (event w (answer w)) ∧ P w) ?_ fun _ => ?_
  · refine Follows.update ?_ ?_
    · rintro _ ⟨rfl, known⟩
      exact .single (moves _ known)
    · rintro _ ⟨rfl, known⟩
      exact ⟨rfl, known⟩
  · refine Follows.pure ?_
    rintro _ ⟨rfl, known⟩
    exact holds w known

/-- The program takes steps of the protocol; `p` holds before it, `q` of its result and what it leaves. -/
def Drives {α : Type} (p : Status → Prop) (m : Run World α) (q : α → Status → Prop) : Prop :=
  Follows Step (fun w => p w.status) m fun a w => q a w.status

namespace Drives

variable {α β : Type} {env : Env} {p p' : Status → Prop} {m : Run World α} {q q' : α → Status → Prop}

theorem bind {m : Run World β} {k : β → Run World α} (r : β → Status → Prop) (first : Drives p m r)
    (rest : ∀ b, Drives (r b) (k b) q) : Drives p (m >>= k) q :=
  Follows.bind first rest

theorem pure {a : α} (holds : ∀ s, p s → q a s) : Drives p (Pure.pure a : Run World α) q :=
  Follows.pure fun _ => holds _

theorem weaken (judged : Drives p m q) (pre : ∀ s, p' s → p s) (post : ∀ a s, q a s → q' a s) : Drives p' m q' :=
  Follows.weaken judged (fun _ => pre _) fun _ _ => post _ _

theorem pre (judged : Drives p m q) (pre : ∀ s, p' s → p s) : Drives p' m q := judged.weaken pre fun _ _ => id

theorem post (judged : Drives p m q) (post : ∀ a s, q a s → q' a s) : Drives p m q' := judged.weaken (fun _ => id) post

theorem assuming {fact : Prop} (known : ∀ s, p s → fact) (judged : fact → Drives p m q) : Drives p m q :=
  Follows.assuming (fun _ => known _) judged

theorem ite {c : Prop} [Decidable c] {m' : Run World α} (yes : c → Drives p m q) (no : ¬ c → Drives p m' q) :
    Drives p (if c then m else m') q :=
  Follows.ite yes no

theorem whenever {c : Prop} [Decidable c] {m : Run World Unit} {q : Unit → Status → Prop}
    (yes : c → Drives p m q) (no : ¬ c → ∀ s, p s → q () s) : Drives p (whenever c m) q :=
  Follows.whenever yes fun holds _ => no holds _

theorem iterate {round : β → Run World (β ⊕ α)} (i : β → Status → Prop)
    (step : ∀ b, Drives (i b) (round b) fun next s => match next with
      | .inl b => i b s
      | .inr a => q a s) (fuel : Nat) (b : β) : Drives (i b) (iterate fuel round b) q := by
  refine Follows.iterate (R := Step) (fun b (w : World) => i b w.status) (fun b => ?_) fuel b
  refine Follows.post (step b) fun next _ holds => ?_
  cases next <;> exact holds

theorem state {k : World → Run World α} (rest : ∀ w : World, p w.status → Drives (· = w.status) (k w) q) :
    Drives p (Run.state >>= k) q := by
  refine Follows.bind (M := fun w w' => w = w' ∧ p w.status) (Follows.state fun w holds => ⟨rfl, holds⟩) fun w => ?_
  refine Follows.assuming (fun _ known => known.2) fun known : p w.status => ?_
  refine Follows.pre (rest w known) ?_
  rintro w' ⟨rfl, -⟩
  rfl

theorem update {f : World → World} {q : Unit → Status → Prop} (moves : ∀ w, p w.status → Step w (f w))
    (holds : ∀ w, p w.status → q () (f w).status) : Drives p (Run.update f) q :=
  Follows.update (fun w pre => .single (moves w pre)) holds

theorem access : Drives p (access env) fun _ => p := by
  intro w pre
  obtain ⟨path, same⟩ := w.interleave_steps env
  have unfolded : LaserDac.access env w = if w.tick < env.fuel then (some (), w.interleave env) else (none, w) := by
    by_cases running : w.tick < env.fuel
    · rw [if_pos running]
      change (if w.tick < env.fuel then Run.update (World.interleave env) else Run.cut) w = _
      rw [if_pos running]
      rfl
    · rw [if_neg running]
      change (if w.tick < env.fuel then Run.update (World.interleave env) else Run.cut) w = _
      rw [if_neg running]
      rfl
  rw [unfolded]
  split
  · refine ⟨path, fun _ _ => ?_⟩
    change p (w.interleave env).status
    rw [same]
    exact pre
  · exact ⟨.refl, fun _ result => by simp at result⟩

variable {answer : World → α}

theorem observe : Follows Step (fun w => p w.status) (query env answer) fun a w => a = answer w ∧ p w.status := by
  refine Follows.bind access fun _ => ?_
  refine Follows.bind (M := fun w w' => w = w' ∧ p w.status) (Follows.state fun w holds => ⟨rfl, holds⟩) fun w => ?_
  refine Follows.pure ?_
  rintro _ ⟨rfl, known⟩
  exact ⟨rfl, known⟩

theorem look : Drives p (query env answer) fun _ => p :=
  Follows.post observe fun _ _ known => known.2

theorem note {event : Event} {q : Unit → Status → Prop} (allowed : ∀ w, p w.status → Allows w event)
    (holds : ∀ s, p s → q () (s.note event)) : Drives p (note event) q :=
  update (fun w pre => .noted (allowed w pre)) fun w pre => holds w.status pre

theorem command {event : World → α → Event} (allowed : ∀ w, p w.status → Allows w (event w (answer w)))
    (holds : ∀ w : World, p w.status → q (answer w) (w.status.note (event w (answer w)))) :
    Drives p (command env answer event) q :=
  command_follows env access (fun w known => .noted (allowed w known)) holds

end Drives

/-- An assertion that a close command to the held backend leaves standing. -/
def Quiet (p : Status → Prop) : Prop := ∀ s ok, p s → p (s.close ok)

section

variable (env : Env) {p : Status → Prop}

theorem tryRecv_drives : Drives p (tryRecv env) fun _ => p := by
  refine .bind (fun _ => p) .access fun _ => ?_
  refine .state fun w known => ?_
  split
  · exact .pure fun s eq => eq ▸ known
  · refine .bind (fun _ => p) (.update (fun w' _ => ?_) fun w' eq => ?_) fun _ => .pure fun _ => id
    · exact .silent _ w'.adapter w'.tick rfl
    · have same : w'.status = w.status := eq
      exact same ▸ known

theorem processControlMessages_drives : Drives p (processControlMessages env) fun _ => p := by
  refine .iterate (fun _ => p) (fun action => ?_) _ _
  refine .bind (fun _ => p) (tryRecv_drives env) fun msg => ?_
  split <;> exact .pure fun _ => id

theorem closeHeld_drives (p q : Status → Prop) (closes : ∀ s ok, p s → q (s.close ok)) :
    Drives p (closeHeld env) fun _ => q := by
  refine .bind (fun _ => p) .access fun _ => ?_
  exact .update (fun w _ => .closed (env.setShutter w.tick)) fun w known => closes _ _ known

section

variable (quiet : Quiet p)

include quiet

theorem closeIfDisarmed_drives : Drives p (closeIfDisarmed env) fun _ => p := by
  refine .bind (fun _ => p) .look fun armed => ?_
  refine .state fun w known => ?_
  refine .whenever (fun _ => ?_) fun _ s eq => eq ▸ known
  exact (closeHeld_drives env p p quiet).pre fun s eq => eq ▸ known

theorem checkControl_drives : Drives p (checkControl env) fun next s => p s ∧ next ≠ .inr (some .disconnected) := by
  refine .bind (fun _ => p) .look fun stop => ?_
  refine .ite (fun _ => .pure fun s holds => ⟨holds, by simp⟩) fun _ => ?_
  refine .bind (fun _ => p) (closeIfDisarmed_drives env quiet) fun _ => ?_
  refine .bind (fun _ => p) (processControlMessages_drives env) fun action => ?_
  split <;> exact .pure fun s holds => ⟨holds, by simp⟩

theorem sleepWithControlCheck_drives (duration : Nat) :
    Drives p (sleepWithControlCheck env duration) fun ended s => p s ∧ ended ≠ some .disconnected := by
  refine .bind (fun _ => p) .look fun start => ?_
  refine .iterate (fun _ => p) (fun _ => ?_) _ _
  refine .bind (fun _ => p) .look fun now => ?_
  refine .ite (fun _ => .pure fun s holds => ⟨holds, by simp⟩) fun _ => ?_
  refine .bind (fun _ => p) .access fun _ => ?_
  refine (checkControl_drives env quiet).post fun next s holds => ?_
  cases next with
  | inl => exact holds.1
  | inr => exact ⟨holds.1, fun eq => holds.2 (by rw [eq])⟩

theorem sleepUntilPrecise_drives (deadline : Nat) :
    Drives p (sleepUntilPrecise env deadline) fun ended s => p s ∧ ended ≠ some .disconnected := by
  refine .iterate (fun _ => p) (fun _ => ?_) _ _
  refine .bind (fun _ => p) .look fun now => ?_
  refine .ite (fun _ => .pure fun s holds => ⟨holds, by simp⟩) fun _ => ?_
  refine .bind (fun _ => p) (.whenever (fun _ => .access) fun _ _ => id) fun _ => ?_
  refine (checkControl_drives env quiet).post fun next s holds => ?_
  cases next with
  | inl => exact holds.1
  | inr => exact ⟨holds.1, fun eq => holds.2 (by rw [eq])⟩

theorem waitStep_drives (duration : Nat) :
    Drives p (waitStep env duration) fun outcome s => p s ∧ outcome ≠ .disconnected := by
  refine .bind _ (sleepWithControlCheck_drives env quiet duration) fun ended => ?_
  refine .pure fun s holds => ⟨holds.1, ?_⟩
  cases ended with
  | none => simp
  | some => exact fun eq => holds.2 (congrArg some eq)

theorem drainViaEstimator_drives (pps timeout : Nat) : Drives p (drainViaEstimator env pps timeout) fun _ => p := by
  refine .ite (fun _ => .pure fun _ => id) fun _ => ?_
  refine .state fun w known => ?_
  refine .bind (fun _ => p) (Drives.pre .look fun s eq => eq ▸ known) fun start => ?_
  refine .iterate (fun _ => p) (fun now => ?_) _ _
  refine .ite (fun _ => ?_) fun _ => .pure fun _ => id
  refine .bind (fun _ => p) .look fun buffered => ?_
  refine .ite (fun _ => .pure fun _ => id) fun _ => ?_
  refine .bind (fun _ => p) .look fun stop => ?_
  refine .ite (fun _ => .pure fun _ => id) fun _ => ?_
  refine .bind (fun _ => p) (closeIfDisarmed_drives env quiet) fun _ => ?_
  refine .bind (fun _ => p) (processControlMessages_drives env) fun action => ?_
  split
  · refine .bind (fun _ => p) .access fun _ => ?_
    exact .bind (fun _ => p) .look fun _ => .pure fun _ => id
  · exact .pure fun _ => id

end

end

end LaserDac
