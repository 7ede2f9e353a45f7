import Mathlib

/-!
A gate that one thread at a time passes: a flag, and a condition variable to wait on while the flag is set. There is
never more than one inside, and no notification is lost: if the flag is clear and some thread waits, another one has
been notified or is going to notify.
-/

namespace LaserDac.Gates

/-- Where a thread is with respect to the gate. -/
inductive Stage where
  | outside
  /-- About to look at the flag. -/
  | requesting
  | waiting
  /-- No longer waiting, and about to look at the flag. -/
  | notified
  | inside
  /-- The flag is cleared, and a notification is to follow. -/
  | notifying
  deriving DecidableEq, Repr

def Stage.Looks (stage : Stage) : Prop := stage = .requesting ∨ stage = .notified

/-- Going to look at the flag after a notification, or to notify. -/
def Stage.Alert (stage : Stage) : Prop := stage = .notified ∨ stage = .notifying

structure Gate (Thread : Type) where
  busy : Bool
  waiters : List Thread
  stage : Thread → Stage

variable {Thread : Type}

variable {stage : Stage}

namespace Gate

section

variable [DecidableEq Thread]

def goto (gate : Gate Thread) (thread : Thread) (stage : Stage) : Gate Thread :=
  { gate with stage := Function.update gate.stage thread stage }

/-- What can happen at the gate. -/
inductive Move : Gate Thread → Gate Thread → Prop where
  | request {gate thread} : gate.stage thread = .outside → Move gate (gate.goto thread .requesting)
  | enter {gate thread} : (gate.stage thread).Looks → gate.busy = false →
      Move gate ({ gate with busy := true }.goto thread .inside)
  | wait {gate thread} : (gate.stage thread).Looks → gate.busy = true →
      Move gate ({ gate with waiters := gate.waiters ++ [thread] }.goto thread .waiting)
  | giveUp {gate thread} : (gate.stage thread).Looks → gate.busy = true → Move gate (gate.goto thread .outside)
  | wake {gate thread} : gate.stage thread = .waiting →
      Move gate ({ gate with waiters := gate.waiters.erase thread }.goto thread .requesting)
  | leave {gate thread} : gate.stage thread = .inside → Move gate ({ gate with busy := false }.goto thread .notifying)
  | notify {gate thread woken} : gate.stage thread = .notifying → gate.stage woken = .waiting →
      Move gate (({ gate with waiters := gate.waiters.erase woken }.goto woken .notified).goto thread .outside)
  | notifyNone {gate thread} : gate.stage thread = .notifying → gate.waiters = [] →
      Move gate (gate.goto thread .outside)

end

/-- What holds of the gate all the time. -/
structure Sound (gate : Gate Thread) : Prop where
  busy : ∀ thread, gate.stage thread = .inside → gate.busy = true
  exclusive : ∀ first second, gate.stage first = .inside → gate.stage second = .inside → first = second
  queued : ∀ thread, thread ∈ gate.waiters ↔ gate.stage thread = .waiting
  nodup : gate.waiters.Nodup
  woken : gate.busy = false → gate.waiters ≠ [] → ∃ thread, (gate.stage thread).Alert

def start : Gate Thread where
  busy := false
  waiters := []
  stage _ := .outside

theorem start_sound : (start : Gate Thread).Sound where
  busy _ inside := by cases inside
  exclusive _ _ inside := by cases inside
  queued _ := by simp [start]
  nodup := .nil
  woken _ waiters := absurd rfl waiters

/-- One thread goes to a stage, and the flag and the queue change as that stage demands. -/
structure Change (gate : Gate Thread) (thread : Thread) (stage : Stage) (busy : Bool) (waiters : List Thread) :
    Prop where
  enters : stage = .inside → gate.busy = false ∧ busy = true
  flag : stage ≠ .inside → busy = gate.busy ∨ gate.stage thread = .inside
  queued : thread ∈ waiters ↔ stage = .waiting
  others : ∀ other, other ≠ thread → (other ∈ waiters ↔ other ∈ gate.waiters)
  nodup : waiters.Nodup
  woken : busy = false → waiters ≠ [] → stage.Alert ∨ ∃ other, other ≠ thread ∧ (gate.stage other).Alert

namespace Sound

variable {gate : Gate Thread} {thread : Thread}

section

variable (sound : gate.Sound)

include sound

theorem change [DecidableEq Thread] {busy : Bool} {waiters : List Thread}
    (change : gate.Change thread stage busy waiters) : (Gate.goto ⟨busy, waiters, gate.stage⟩ thread stage).Sound := by
  have self : (Gate.goto ⟨busy, waiters, gate.stage⟩ thread stage).stage thread = stage := Function.update_self ..
  have other {t : Thread} (ne : t ≠ thread) :
      (Gate.goto ⟨busy, waiters, gate.stage⟩ thread stage).stage t = gate.stage t := Function.update_of_ne ne ..
  -- whoever else is inside excludes that this thread was, or is
  have alone {t : Thread} (ne : t ≠ thread) (inside : gate.stage t = .inside) : busy = true ∧ stage ≠ .inside := by
    have set := sound.busy t inside
    have outside : stage ≠ .inside := fun enters => by
      rw [(change.enters enters).1] at set
      cases set
    refine ⟨?_, outside⟩
    rcases change.flag outside with same | was
    · exact same.trans set
    · exact absurd (sound.exclusive _ _ inside was) ne
  constructor
  · intro t inside
    by_cases same : t = thread
    · subst same
      rw [self] at inside
      exact (change.enters inside).2
    · rw [other same] at inside
      exact (alone same inside).1
  · intro first second inside_first inside_second
    by_cases at_first : first = thread
    · by_cases at_second : second = thread
      · exact at_first.trans at_second.symm
      · rw [at_first, self] at inside_first
        rw [other at_second] at inside_second
        exact absurd inside_first (alone at_second inside_second).2
    · rw [other at_first] at inside_first
      by_cases at_second : second = thread
      · rw [at_second, self] at inside_second
        exact absurd inside_second (alone at_first inside_first).2
      · rw [other at_second] at inside_second
        exact sound.exclusive _ _ inside_first inside_second
  · intro t
    by_cases same : t = thread
    · subst same
      rw [self]
      exact change.queued
    · rw [other same]
      exact (change.others t same).trans (sound.queued t)
  · exact change.nodup
  · intro clear waiting
    rcases change.woken clear waiting with alert | ⟨t, ne, alert⟩
    · exact ⟨thread, by rwa [self]⟩
    · exact ⟨t, by rwa [other ne]⟩

theorem woken_other (thread : Thread) (clear : gate.busy = false) (waiting : gate.waiters ≠ [])
    (quiet : ¬ (gate.stage thread).Alert) : ∃ other, other ≠ thread ∧ (gate.stage other).Alert := by
  obtain ⟨other, alert⟩ := sound.woken clear waiting
  refine ⟨other, ?_, alert⟩
  rintro rfl
  exact quiet alert

theorem notMem_waiters (elsewhere : gate.stage thread ≠ .waiting) : thread ∉ gate.waiters :=
  fun member => elsewhere ((sound.queued thread).mp member)

theorem aside {busy : Bool} (was : gate.stage thread ≠ .waiting) (goes : stage ≠ .waiting)
    (enters : stage = .inside → gate.busy = false ∧ busy = true)
    (flag : stage ≠ .inside → busy = gate.busy ∨ gate.stage thread = .inside)
    (woken : busy = false → gate.waiters ≠ [] → stage.Alert ∨ ∃ other, other ≠ thread ∧ (gate.stage other).Alert) :
    gate.Change thread stage busy gate.waiters where
  enters := enters
  flag := flag
  queued := iff_of_false (sound.notMem_waiters was) goes
  others _ _ := Iff.rfl
  nodup := sound.nodup
  woken := woken

theorem unqueue [DecidableEq Thread] (was : gate.stage thread = .waiting) (goes : stage ≠ .waiting)
    (outside : stage ≠ .inside) : gate.Change thread stage gate.busy (gate.waiters.erase thread) where
  enters inside := absurd inside outside
  flag _ := .inl rfl
  queued := iff_of_false (fun member => ((sound.nodup.mem_erase_iff).mp member).1 rfl) goes
  others _ ne := List.mem_erase_of_ne ne
  nodup := sound.nodup.erase thread
  woken clear _ := by
    have member : thread ∈ gate.waiters := (sound.queued thread).mpr was
    exact .inr (sound.woken_other _ clear (List.ne_nil_of_mem member) (by rw [was]; rintro (_ | _) <;> contradiction))

end

end Sound

variable [DecidableEq Thread]

/-- One step keeps it all. -/
theorem Move.sound {gate after : Gate Thread} (move : Move gate after) (sound : gate.Sound) : after.Sound := by
  have unqueued {thread : Thread} (looks : (gate.stage thread).Looks) : gate.stage thread ≠ .waiting := by
    rcases looks with stage | stage <;> simp [stage]
  cases move with
  | request outside =>
    refine sound.change (sound.aside (by simp [outside]) (by decide) (by simp) (fun _ => .inl rfl) ?_)
    exact fun clear waiting => .inr (sound.woken_other _ clear waiting (by simp [Stage.Alert, outside]))
  | enter looks clear =>
    exact sound.change (sound.aside (unqueued looks) (by decide) (fun _ => ⟨clear, rfl⟩) (absurd rfl) (by simp))
  | @wait thread looks busy =>
    have absent := sound.notMem_waiters (unqueued looks)
    refine sound.change ⟨by simp, fun _ => .inl rfl, by simp, fun other ne => by simp [ne], ?_, by simp [busy]⟩
    exact List.nodup_append.mpr ⟨sound.nodup, List.nodup_singleton _, fun _ member _ last => by
      rw [List.mem_singleton.mp last]
      rintro rfl
      exact absent member⟩
  | giveUp looks busy =>
    exact sound.change (sound.aside (unqueued looks) (by decide) (by simp) (fun _ => .inl rfl) (by simp [busy]))
  | wake waiting => exact sound.change (sound.unqueue waiting (by decide) (by decide))
  | leave inside =>
    refine sound.change (sound.aside (by simp [inside]) (by decide) (by simp) (fun _ => .inr inside) ?_)
    exact fun _ _ => .inl (.inr rfl)
  | @notify thread woken notifying waiting =>
    have ne : thread ≠ woken := by
      rintro rfl
      simp [notifying] at waiting
    have first := sound.change (sound.unqueue waiting (by decide : Stage.notified ≠ .waiting) (by decide))
    have still : (Gate.goto { gate with waiters := gate.waiters.erase woken } woken .notified).stage thread =
        .notifying := (Function.update_of_ne ne ..).trans notifying
    refine first.change (first.aside (by simp [still]) (by decide) (by simp) (fun _ => .inl rfl) ?_)
    exact fun _ _ => .inr ⟨woken, ne.symm, .inl (Function.update_self ..)⟩
  | notifyNone notifying none =>
    exact sound.change (sound.aside (by simp [notifying]) (by decide) (by simp) (fun _ => .inl rfl)
      fun _ waiting => absurd none waiting)

end Gate

end LaserDac.Gates
