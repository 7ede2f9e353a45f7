import LaserDac.Engine
import LaserDac.Streams

/-!
Queue delivery one point at a time. `next` is the point the engine shows next, and `fillChunk` is exactly
`next` run for as many points as the call asks for and its buffer holds, whatever the call sizes are.
-/

namespace LaserDac.PresentationEngine

open LaserDac.Streams

/-- What `setPending` and `fillChunk` keep of an engine that has only been used for queue delivery. -/
structure Fifo (e : PresentationEngine) : Prop where
  clean : e.drawableDirty = false → e.drawable = e.content
  inside : e.content ≠ [] → e.cursor < e.content.length
  atStart : e.content = [] → e.cursor = 0
  noTransition : e.content = [] → e.transitionBuf = []
  replaces : e.pendingBase.isSome → e.currentBase.isSome

variable (e : PresentationEngine)

def refreshed : PresentationEngine :=
  if e.drawableDirty then e.refreshDrawable else e

/-- An unstarted self-loop transition that a pending frame supersedes. -/
def Stale : Prop :=
  0 < e.transitionBuf.length ∧ e.transitionCursor = 0 ∧ e.transitionIsSelfLoop ∧ e.pendingBase.isSome

instance : Decidable e.Stale := inferInstanceAs (Decidable (_ ∧ _ ∧ _ ∧ _))

/-- Compose the seam once the frame has been read to its end. -/
def seam (ctx : TransitionContext) (e : PresentationEngine) : PresentationEngine :=
  if e.drawable.length ≤ e.cursor then
    if e.pendingBase.isSome then (e.promotePending ctx).getD e else (e.composeSelfLoop ctx).getD e
  else e

/-- Replace a stale self-loop transition by the seam to the pending frame. -/
def dropStale (ctx : TransitionContext) (e : PresentationEngine) : PresentationEngine :=
  if e.Stale then
    (promotePending ctx { e with transitionBuf := [], transitionIsSelfLoop := false }).getD e
  else e

def next (pps : Nat) (e : PresentationEngine) : LaserPoint × PresentationEngine :=
  if e.drawable = [] then (e.idleBlank, e)
  else
    let e := e.dropStale { pps }
    if e.drawable = [] then (e.idleBlank, e)
    else if e.transitionCursor < e.transitionBuf.length then
      (e.transitionBuf.getD e.transitionCursor e.idleBlank,
        { e with transitionCursor := e.transitionCursor + 1 })
    else (e.drawable.getD e.cursor e.idleBlank, seam { pps } { e with cursor := e.cursor + 1 })

def emit (pps n : Nat) (e : PresentationEngine) : List LaserPoint × PresentationEngine :=
  feed next (List.replicate n pps) e

variable (maxPoints : Nat) (frame : Frame) (pps fuel n : Nat) (ctx : TransitionContext) (out : List LaserPoint)
  (e : PresentationEngine)

@[simp] theorem emit_zero : emit pps 0 e = ([], e) := rfl

theorem emit_succ :
    emit pps (n + 1) e = ((next pps e).1 :: (emit pps n (next pps e).2).1, (emit pps n (next pps e).2).2) := rfl

@[simp] theorem emit_length : (emit pps n e).1.length = n := by
  simp [emit]

theorem emit_add (m : Nat) (e : PresentationEngine) :
    emit pps (n + m) e = ((emit pps n e).1 ++ (emit pps m (emit pps n e).2).1, (emit pps m (emit pps n e).2).2) := by
  rw [emit, List.replicate_add, feed_append]
  rfl

theorem content_some (frame : Frame) (current : e.currentBase = some frame) :
    e.content = frame.points := by simp [content, current]

theorem content_ne_nil_isSome (lit : e.content ≠ []) : e.currentBase.isSome := by
  cases current : e.currentBase with
  | none => simp [content, current] at lit
  | some => rfl

theorem coalescedCursor_lt {points : List LaserPoint} (nonempty : points ≠ []) :
    coalescedCursor points < points.length := by
  have positive := List.length_pos_of_ne_nil nonempty
  unfold coalescedCursor
  split <;> omega

theorem promotePending_spec (frame : Frame) (pending : e.pendingBase = some frame) :
    e.promotePending ctx = some
      (match planSeam e.transitionFn ctx e.currentBase frame with
        | .transition points => { e with
            pendingBase := none, currentBase := some frame, drawable := frame.points, drawableDirty := false,
            transitionBuf := points, transitionCursor := 0, transitionIsSelfLoop := false, cursor := 0 }
        | .coalesce => { e with
            pendingBase := none, currentBase := some frame, drawable := frame.points, drawableDirty := false,
            cursor := coalescedCursor frame.points }) := by
  simp only [promotePending, pending]
  cases planSeam e.transitionFn ctx e.currentBase frame <;> simp [refreshDrawable, content]

theorem composeSelfLoop_spec (frame : Frame) (current : e.currentBase = some frame) (drawn : e.drawable = frame.points)
    (lit : frame.points ≠ []) :
    e.composeSelfLoop ctx = some
      (match planSeam e.transitionFn ctx e.currentBase frame with
        | .transition points => { e with
            transitionBuf := points, transitionCursor := 0, transitionIsSelfLoop := true, cursor := 0 }
        | .coalesce => { e with cursor := coalescedCursor frame.points }) := by
  have first := List.head?_eq_some_head lit
  have last := List.getLast?_eq_some_getLast lit
  simp only [composeSelfLoop, planSeam, drawn, current, first, last, Frame.firstPoint, Frame.lastPoint,
    Option.bind_some]
  cases e.transitionFn (frame.points.getLast lit) (frame.points.head lit) ctx <;> rfl

theorem planSeam_coalesce {transitionFn : TransitionFn} {ctx : TransitionContext} {outgoing : Option Frame}
    {incoming : Frame} (plan : planSeam transitionFn ctx outgoing incoming = .coalesce) : incoming.points ≠ [] := by
  rintro empty
  simp [planSeam, Frame.firstPoint, empty] at plan

theorem planSeam_empty (transitionFn : TransitionFn) (ctx : TransitionContext) (outgoing : Option Frame)
    {incoming : Frame} (empty : incoming.points = []) :
    planSeam transitionFn ctx outgoing incoming = .transition [] := by
  simp [planSeam, Frame.firstPoint, empty]

/-- A queue engine whose drawable is the current frame. -/
structure Ready (e : PresentationEngine) : Prop extends Fifo e where
  notDirty : e.drawableDirty = false

theorem Ready.drawable_eq {e : PresentationEngine} (ready : e.Ready) : e.drawable = e.content :=
  ready.clean ready.notDirty

theorem refreshed_ready (fifo : e.Fifo) : e.refreshed.Ready := by
  unfold refreshed
  split
  case isTrue dirty =>
    exact { clean := fun _ => rfl, inside := fifo.inside, atStart := fifo.atStart,
            noTransition := fifo.noTransition, replaces := fifo.replaces, notDirty := rfl }
  case isFalse clean => exact { toFifo := fifo, notDirty := by simpa using clean }

theorem Ready.refreshed_eq {e : PresentationEngine} (ready : e.Ready) : e.refreshed = e := by
  simp [refreshed, ready.notDirty]

theorem promotePending_ready (waiting : e.pendingBase.isSome) :
    ∃ after, e.promotePending ctx = some after ∧ after.Ready ∧ after.pendingBase = none := by
  obtain ⟨frame, pending⟩ := Option.isSome_iff_exists.mp waiting
  refine ⟨_, promotePending_spec ctx e frame pending, ?_⟩
  cases plan : planSeam e.transitionFn ctx e.currentBase frame with
  | transition =>
    refine ⟨{ clean := fun _ => rfl, inside := List.length_pos_of_ne_nil, atStart := fun _ => rfl,
              noTransition := fun empty => ?_, replaces := by simp, notDirty := rfl }, rfl⟩
    have nothing := planSeam_empty e.transitionFn ctx e.currentBase empty
    simpa [plan] using nothing
  | coalesce =>
    have nonempty := planSeam_coalesce plan
    exact ⟨{ clean := fun _ => rfl, inside := coalescedCursor_lt, atStart := fun empty => absurd empty nonempty,
             noTransition := fun empty => absurd empty nonempty, replaces := by simp, notDirty := rfl }, rfl⟩

/-- A self-loop starts the frame again. -/
theorem composeSelfLoop_ready (clean : e.drawableDirty = false) (drawn : e.drawable = e.content) (lit : e.drawable ≠ [])
    (free : e.pendingBase = none) :
    ∃ after, e.composeSelfLoop ctx = some after ∧ after.Ready ∧ after.drawable = e.drawable := by
  have visible : e.content ≠ [] := drawn ▸ lit
  obtain ⟨frame, current⟩ := Option.isSome_iff_exists.mp (content_ne_nil_isSome e visible)
  have same := content_some e frame current
  rw [same] at drawn visible
  refine ⟨_, composeSelfLoop_spec ctx e frame current drawn visible, ?_⟩
  cases planSeam e.transitionFn ctx e.currentBase frame with
  | transition =>
    exact ⟨{ clean := fun _ => drawn.trans same.symm, inside := List.length_pos_of_ne_nil,
             atStart := fun _ => rfl, noTransition := fun empty => absurd (same ▸ empty) visible,
             replaces := by simp [free], notDirty := clean }, rfl⟩
  | coalesce =>
    exact ⟨{ clean := fun _ => drawn.trans same.symm,
             inside := fun _ => by simpa [content, current] using coalescedCursor_lt visible,
             atStart := fun empty => absurd (same ▸ empty) visible,
             noTransition := fun empty => absurd (same ▸ empty) visible,
             replaces := by simp [free], notDirty := clean }, rfl⟩

theorem dropStale_ready (ready : e.Ready) : (e.dropStale ctx).Ready := by
  unfold dropStale
  split
  case isTrue stale =>
    obtain ⟨after, promoted, done, -⟩ :=
      promotePending_ready ctx { e with transitionBuf := [], transitionIsSelfLoop := false } stale.2.2.2
    rw [promoted]
    exact done
  case isFalse => exact ready

theorem dropStale_settled : ¬ (e.dropStale ctx).Stale := by
  unfold dropStale
  split
  case isTrue stale =>
    obtain ⟨after, promoted, -, free⟩ :=
      promotePending_ready ctx { e with transitionBuf := [], transitionIsSelfLoop := false } stale.2.2.2
    simp [promoted, Stale, free]
  case isFalse settled => exact settled

@[simp] theorem dropStale_of_settled {e : PresentationEngine} (settled : ¬ e.Stale) :
    e.dropStale ctx = e := if_neg settled

theorem seam_ready (clean : e.drawableDirty = false) (drawn : e.drawable = e.content) (lit : e.drawable ≠ []) :
    (e.seam ctx).Ready := by
  have visible : e.content ≠ [] := drawn ▸ lit
  unfold seam
  split
  · split
    · rename_i waiting
      obtain ⟨after, promoted, done, -⟩ := promotePending_ready ctx e waiting
      rw [promoted]
      exact done
    · rename_i free
      obtain ⟨after, looped, done, -⟩ := composeSelfLoop_ready ctx e clean drawn lit (by simpa using free)
      rw [looped]
      exact done
  · rename_i before
    exact { clean := fun _ => drawn, inside := fun _ => by rw [← drawn]; omega,
            atStart := fun empty => absurd empty visible, noTransition := fun empty => absurd empty visible,
            replaces := fun _ => content_ne_nil_isSome e visible, notDirty := clean }

theorem next_ready (ready : e.Ready) : (e.next pps).2.Ready := by
  have settled := dropStale_ready { pps } e ready
  unfold next
  split
  · exact ready
  · dsimp only
    split
    · exact settled
    · rename_i lit
      split
      · exact { settled with clean := settled.clean }
      · exact seam_ready _ _ settled.notDirty settled.drawable_eq lit

theorem next_idle (empty : e.drawable = []) : e.next pps = (e.idleBlank, e) := if_pos empty

section

variable (lit : e.drawable ≠ [])

include lit

theorem next_dropStale : next pps (e.dropStale { pps }) = next pps e := by
  have settled := dropStale_of_settled { pps } (dropStale_settled { pps } e)
  conv_rhs => rw [next, if_neg lit]
  by_cases empty : (e.dropStale { pps }).drawable = []
  · simp only [next, empty, if_true]
  · simp only [next, empty, if_false, settled]

theorem next_transition (settled : ¬ e.Stale) (inside : e.transitionCursor < e.transitionBuf.length) :
    e.next pps = (e.transitionBuf[e.transitionCursor],
      { e with transitionCursor := e.transitionCursor + 1 }) := by
  rw [next, if_neg lit, dropStale_of_settled _ settled]
  simp [lit, inside]

theorem next_frame (read : e.transitionBuf.length ≤ e.transitionCursor) (inside : e.cursor < e.drawable.length) :
    e.next pps = (e.drawable[e.cursor], seam { pps } { e with cursor := e.cursor + 1 }) := by
  have settled : ¬ e.Stale := by
    rintro ⟨points, start, -⟩
    omega
  rw [next, if_neg lit, dropStale_of_settled _ settled]
  simp [lit, Nat.not_lt.mpr read, List.getElem?_eq_getElem inside]

theorem emit_transition (settled : ¬ e.Stale) (unread : e.transitionCursor + n ≤ e.transitionBuf.length) :
    emit pps n e =
      ((e.transitionBuf.drop e.transitionCursor).take n,
        { e with transitionCursor := e.transitionCursor + n }) := by
  induction n generalizing e with
  | zero => simp
  | succ n ih =>
    have inside : e.transitionCursor < e.transitionBuf.length := by omega
    have rest := ih { e with transitionCursor := e.transitionCursor + 1 } lit (by simp [Stale])
      (by dsimp only; omega)
    rw [emit_succ, next_transition pps e lit settled inside, rest, List.drop_eq_getElem_cons inside,
      List.take_succ_cons]
    simp only [Nat.add_assoc, Nat.add_comm 1 n]

theorem emit_frame (read : e.transitionBuf.length ≤ e.transitionCursor) (inside : e.cursor + n < e.drawable.length) :
    emit pps (n + 1) e =
      ((e.drawable.drop e.cursor).take (n + 1), seam { pps } { e with cursor := e.cursor + (n + 1) }) := by
  induction n generalizing e with
  | zero =>
    have bound : e.cursor < e.drawable.length := by omega
    rw [emit_succ, next_frame pps e lit read bound, List.drop_eq_getElem_cons bound, List.take_succ_cons]
    simp
  | succ n ih =>
    have bound : e.cursor < e.drawable.length := by omega
    have before : seam { pps } { e with cursor := e.cursor + 1 } = { e with cursor := e.cursor + 1 } :=
      if_neg (by dsimp only; omega)
    have rest := ih { e with cursor := e.cursor + 1 } lit read (by dsimp only; omega)
    rw [emit_succ, next_frame pps e lit read bound, before, rest, List.drop_eq_getElem_cons bound,
      List.take_succ_cons]
    simp only [Nat.add_assoc, Nat.add_comm 1 (n + 1)]

end

/-! ### The fill loop -/

theorem fillLoop_done (full : maxPoints ≤ out.length) : fillLoop maxPoints ctx (fuel + 1) out e = some (out, e) := by
  simp [fillLoop, full]

/-- What a round does with the engine a seam leaves: hold the idle point, or go on. -/
def goOn (maxPoints : Nat) (ctx : TransitionContext) (fuel : Nat) (out : List LaserPoint) (e : PresentationEngine) :
    Option (List LaserPoint × PresentationEngine) :=
  if e.drawable = [] then some (out ++ List.replicate (maxPoints - out.length) e.idleBlank, e)
  else fillLoop maxPoints ctx fuel out e

theorem fillLoop_stale (left : ¬ maxPoints ≤ out.length) (stale : e.Stale) :
    fillLoop maxPoints ctx (fuel + 1) out e = goOn maxPoints ctx fuel out (e.dropStale ctx) := by
  obtain ⟨after, promoted, -⟩ := promotePending_ready ctx
    { e with transitionBuf := [], transitionIsSelfLoop := false } stale.2.2.2
  have dropped : e.dropStale ctx = after := by simp [dropStale, stale, promoted]
  obtain ⟨points, start, self, pending⟩ := stale
  rw [fillLoop, if_neg left, if_pos (by omega), if_pos (by simp [start, self, pending]), promoted, dropped,
    Option.bind_eq_bind, Option.bind_some]
  simp [goOn]

/-- The round that reads a transition. -/
theorem fillLoop_transition (left : ¬ maxPoints ≤ out.length) (settled : ¬ e.Stale)
    (transit : e.transitionCursor < e.transitionBuf.length) :
    fillLoop maxPoints ctx (fuel + 1) out e =
      let n := min (e.transitionBuf.length - e.transitionCursor) (maxPoints - out.length)
      fillLoop maxPoints ctx fuel (out ++ (e.transitionBuf.drop e.transitionCursor).take n)
        { e with transitionCursor := e.transitionCursor + n } := by
  have started : ¬ (e.transitionIsSelfLoop && e.pendingBase.isSome && e.transitionCursor == 0) = true := by
    intro flags
    simp only [Bool.and_eq_true, beq_iff_eq] at flags
    exact settled ⟨by omega, flags.2, flags.1.1, flags.1.2⟩
  rw [fillLoop, if_neg left, if_pos transit, if_neg started]
  simp only [List.length_drop]

theorem fillLoop_frame (left : ¬ maxPoints ≤ out.length) (ready : e.Ready) (lit : e.drawable ≠ [])
    (read : ¬ e.transitionCursor < e.transitionBuf.length) :
    fillLoop maxPoints ctx (fuel + 1) out e =
      let n := min (e.drawable.length - e.cursor) (maxPoints - out.length)
      goOn maxPoints ctx fuel (out ++ (e.drawable.drop e.cursor).take n)
        (seam ctx { e with cursor := e.cursor + n }) := by
  have drawn := ready.drawable_eq
  have inside : e.cursor < e.drawable.length := drawn ▸ ready.inside (drawn ▸ lit)
  rw [fillLoop, if_neg left, if_neg read, if_neg (by omega)]
  simp only [List.length_drop]
  set n := min (e.drawable.length - e.cursor) (maxPoints - out.length) with size
  have taken : (out ++ (e.drawable.drop e.cursor).take n).length = out.length + n := by
    simp only [List.length_append, List.length_take, List.length_drop]
    omega
  by_cases atEnd : e.drawable.length ≤ e.cursor + n
  · by_cases waiting : e.pendingBase.isSome
    · obtain ⟨after, promoted, -⟩ := promotePending_ready ctx { e with cursor := e.cursor + n } waiting
      simp [seam, goOn, atEnd, waiting, promoted, taken, Nat.sub_sub]
    · obtain ⟨after, looped, -, same⟩ := composeSelfLoop_ready ctx { e with cursor := e.cursor + n }
        ready.notDirty drawn lit (by simpa using waiting)
      have stillLit : after.drawable ≠ [] := same ▸ lit
      simp [seam, goOn, atEnd, waiting, looped, stillLit]
  · simp [seam, goOn, atEnd, lit]

theorem emit_idle (empty : e.drawable = []) : emit pps n e = (List.replicate n e.idleBlank, e) :=
  by
  simpa [emit] using feed_constant next e.idleBlank e (fun pps => next_idle pps e empty) (List.replicate n pps)

/-- The loop in terms of what it writes: the rest of the call, one point after the other. -/
def Writes (maxPoints pps : Nat) (out : List LaserPoint) (e : PresentationEngine)
    (result : Option (List LaserPoint × PresentationEngine)) : Prop :=
  let rest := emit pps (maxPoints - out.length) e
  result = some (out ++ rest.1, rest.2)

variable {e}

variable {out}

theorem Writes.after {maxPoints pps n : Nat} {points : List LaserPoint} {after : PresentationEngine}
    {result : Option (List LaserPoint × PresentationEngine)} (batch : emit pps n e = (points, after))
    (room : out.length + n ≤ maxPoints) (rest : Writes maxPoints pps (out ++ points) after result) :
    Writes maxPoints pps out e result := by
  have size : points.length = n := by simpa [batch] using emit_length pps n e
  have split : maxPoints - out.length = n + (maxPoints - (out ++ points).length) := by
    simp only [List.length_append, size]
    omega
  unfold Writes
  rw [split, emit_add, batch]
  simpa [Writes] using rest

theorem Writes.idle {maxPoints pps : Nat} (empty : e.drawable = []) :
    Writes maxPoints pps out e (some (out ++ List.replicate (maxPoints - out.length) e.idleBlank, e)) := by
  simp [Writes, emit_idle pps _ e empty]

theorem Writes.goOn {maxPoints pps fuel : Nat}
    (rest : e.drawable ≠ [] → Writes maxPoints pps out e (fillLoop maxPoints { pps } fuel out e)) :
    Writes maxPoints pps out e (goOn maxPoints { pps } fuel out e) := by
  unfold PresentationEngine.goOn
  split
  case isTrue empty => exact Writes.idle empty
  case isFalse visible => exact rest visible

theorem Writes.dropStale {maxPoints pps : Nat} {result : Option (List LaserPoint × PresentationEngine)}
    (lit : e.drawable ≠ []) (room : out.length < maxPoints)
    (rest : Writes maxPoints pps out (e.dropStale { pps }) result) : Writes maxPoints pps out e result := by
  obtain ⟨n, left⟩ : ∃ n, maxPoints - out.length = n + 1 := ⟨maxPoints - out.length - 1, by omega⟩
  simpa only [Writes, left, emit_succ, next_dropStale pps e lit] using rest

variable (out)

variable (e)

/-- With enough rounds the loop writes the rest of the call. The measure is the points left, and one more
round for a stale transition, which is replaced without writing. -/
theorem fillLoop_writes (ready : e.Ready) (lit : e.drawable ≠ []) (room : out.length ≤ maxPoints)
    (enough : 2 * (maxPoints - out.length) + (if e.Stale then 1 else 0) < fuel) :
    Writes maxPoints pps out e (fillLoop maxPoints { pps } fuel out e) := by
  induction fuel generalizing out e with
  | zero => omega
  | succ fuel ih =>
    by_cases full : maxPoints ≤ out.length
    · have none_left : maxPoints - out.length = 0 := by omega
      simp [Writes, fillLoop_done maxPoints fuel _ out e full, none_left]
    have drawn := ready.drawable_eq
    have inside : e.cursor < e.drawable.length := drawn ▸ ready.inside (drawn ▸ lit)
    by_cases stale : e.Stale
    · rw [fillLoop_stale _ _ _ _ _ full stale]
      refine Writes.dropStale lit (by omega) ?_
      refine Writes.goOn fun visible => ih _ _ (dropStale_ready _ e ready) visible room ?_
      simp only [stale, dropStale_settled { pps } e, if_true, if_false] at *
      omega
    by_cases transit : e.transitionCursor < e.transitionBuf.length
    · rw [fillLoop_transition _ _ _ _ _ full stale transit]
      refine Writes.after (emit_transition pps _ e lit stale (by omega)) (by omega) (ih _ _ ?_ lit ?_ ?_)
      · exact { ready with clean := ready.clean }
      · simp only [List.length_append, List.length_take, List.length_drop]
        omega
      · simp only [List.length_append, List.length_take, List.length_drop]
        split <;> omega
    · rw [fillLoop_frame _ _ _ _ _ full ready lit transit]
      obtain ⟨n, size⟩ : ∃ n, min (e.drawable.length - e.cursor) (maxPoints - out.length) = n + 1 :=
        ⟨min (e.drawable.length - e.cursor) (maxPoints - out.length) - 1, by omega⟩
      rw [size]
      refine Writes.after (emit_frame pps n e lit (by omega) (by omega)) (by omega) ?_
      refine Writes.goOn fun visible => ih _ _ (seam_ready _ _ ready.notDirty drawn lit) visible ?_ ?_
      · simp only [List.length_append, List.length_take, List.length_drop]
        omega
      · simp only [List.length_append, List.length_take, List.length_drop]
        split <;> omega

theorem fillChunk_eq_emit (buffer : List LaserPoint) (maxPoints pps : Nat) (e : PresentationEngine) (fifo : e.Fifo) :
    let n := min maxPoints buffer.length
    fillChunk buffer maxPoints pps e =
      some (n, (emit pps n e.refreshed).1 ++ buffer.drop n, (emit pps n e.refreshed).2) := by
  intro n
  have ready := refreshed_ready e fifo
  have unfolded : fillChunk buffer maxPoints pps e =
      if e.refreshed.currentBase.isNone || e.refreshed.drawable.isEmpty then
        some (n, List.replicate n e.refreshed.idleBlank ++ buffer.drop n, e.refreshed)
      else (fillLoop n { pps } (fillFuel n) [] e.refreshed).bind
        fun result => some (result.1.length, result.1 ++ buffer.drop result.1.length, result.2) := rfl
  rw [unfolded]
  by_cases lit : e.refreshed.drawable = []
  · rw [if_pos (by simp [lit]), emit_idle pps n _ lit]
  · have some : e.refreshed.currentBase.isSome :=
      content_ne_nil_isSome _ (ready.drawable_eq ▸ lit)
    have written := fillLoop_writes n pps (fillFuel n) [] e.refreshed ready lit (by simp) (by
      unfold fillFuel
      split <;> simp)
    rw [if_neg (by simp [lit, Option.isSome_iff_ne_none.mp some]), written]
    simp

theorem emit_ready (ready : e.Ready) : (emit pps n e).2.Ready := by
  have kept := feed_follows next (fun _ e => e.Ready) (List.replicate n pps)
    (fun pps _ _ e ready => next_ready pps e ready) [] e ready
  simpa [emit] using kept

/-- A call on the engine in queue delivery. -/
inductive Call
  | setPending (frame : Frame)
  | fillChunk (buffer : List LaserPoint) (maxPoints pps : Nat)

/-- Perform a call; what it writes and the engine after it. -/
def perform : Call → PresentationEngine → Option (List LaserPoint × PresentationEngine)
  | .setPending frame, e => some ([], e.setPending frame)
  | .fillChunk buffer maxPoints pps, e =>
    (e.fillChunk buffer maxPoints pps).map fun (n, buffer, e) => (buffer.take n, e)

/-- Perform calls in order; what each writes and the engine after them. -/
def play : List Call → PresentationEngine → Option (List (List LaserPoint) × PresentationEngine)
  | [], e => some ([], e)
  | call :: calls, e => do
    let (points, e) ← perform call e
    let (shown, e) ← play calls e
    some (points :: shown, e)

/-- A new engine with its configured idle point. -/
def fresh (transitionFn : TransitionFn) (idle : LaserPoint) : PresentationEngine :=
  (new transitionFn).setIdleBlankPoint idle

/-- An engine that calls lead to from a new one. -/
def Reachable : Prop :=
  ∃ transitionFn idle calls shown, play calls (fresh transitionFn idle) = some (shown, e)

/-- The number of points a call writes. -/
def Call.size : Call → Nat
  | .setPending _ => 0
  | .fillChunk buffer maxPoints _ => min maxPoints buffer.length

theorem fresh_fifo (transitionFn : TransitionFn) (idle : LaserPoint) : (fresh transitionFn idle).Fifo where
  clean := by simp [fresh, new, setIdleBlankPoint]
  inside := by simp [fresh, new, setIdleBlankPoint, content]
  atStart := fun _ => rfl
  noTransition := fun _ => rfl
  replaces := by simp [fresh, new, setIdleBlankPoint]

theorem setPending_first (blank : e.currentBase = none) :
    e.setPending frame = { e with currentBase := some frame, drawableDirty := true, cursor := 0 } := by
  simp [setPending, blank]

theorem setPending_later (playing : e.currentBase.isSome) :
    e.setPending frame = { e with pendingBase := some frame } := by
  obtain ⟨current, eq⟩ := Option.isSome_iff_exists.mp playing
  simp [setPending, eq]

theorem setPending_fifo (fifo : e.Fifo) : (e.setPending frame).Fifo := by
  by_cases playing : e.currentBase.isSome
  · rw [setPending_later frame e playing]
    exact { clean := fifo.clean, inside := fifo.inside, atStart := fifo.atStart,
            noTransition := fifo.noTransition, replaces := fun _ => playing }
  · have first : e.currentBase = none := by simpa using playing
    have blank : e.content = [] := by simp [content, first]
    rw [setPending_first frame e first]
    exact { clean := by simp, inside := List.length_pos_of_ne_nil, atStart := fun _ => rfl,
            noTransition := fun _ => fifo.noTransition blank, replaces := fun _ => rfl }

theorem perform_fillChunk (buffer : List LaserPoint) (maxPoints pps : Nat) (e : PresentationEngine) (fifo : e.Fifo) :
    perform (.fillChunk buffer maxPoints pps) e =
      some (emit pps (min maxPoints buffer.length) e.refreshed) := by
  have written := emit_length pps (min maxPoints buffer.length) e.refreshed
  have called := fillChunk_eq_emit buffer maxPoints pps e fifo
  simp only at called
  simp only [perform, called, Option.map_some]
  rw [List.take_append_of_le_length (by omega), List.take_of_length_le (by omega)]

theorem perform_total (call : Call) (e : PresentationEngine) (fifo : e.Fifo) :
    ∃ points after, perform call e = some (points, after) ∧ after.Fifo ∧ points.length = call.size := by
  cases call with
  | setPending frame => exact ⟨[], _, rfl, setPending_fifo frame e fifo, rfl⟩
  | fillChunk buffer maxPoints pps =>
    refine ⟨_, _, perform_fillChunk buffer maxPoints pps e fifo, ?_, emit_length ..⟩
    exact (emit_ready pps _ _ (refreshed_ready e fifo)).toFifo

theorem play_fifo (calls : List Call) (e after : PresentationEngine) (shown : List (List LaserPoint)) (fifo : e.Fifo)
    (played : play calls e = some (shown, after)) : after.Fifo := by
  induction calls generalizing e shown with
  | nil =>
    simp only [play, Option.some.injEq, Prod.mk.injEq] at played
    exact played.2 ▸ fifo
  | cons call calls ih =>
    obtain ⟨points, middle, performed, middleFifo, -⟩ := perform_total call e fifo
    simp only [play, performed, Option.bind_eq_bind, Option.bind_some, Option.bind_eq_some_iff] at played
    obtain ⟨⟨rest, last⟩, played, same⟩ := played
    simp only [Option.some.injEq, Prod.mk.injEq] at same
    exact ih middle rest middleFifo (same.2 ▸ played)

theorem Reachable.fifo {e : PresentationEngine} (reachable : e.Reachable) : e.Fifo := by
  obtain ⟨transitionFn, idle, calls, shown, played⟩ := reachable
  exact play_fifo calls _ e shown (fresh_fifo transitionFn idle) played

/-- Two calls in a row show the same points and leave the same engine as one call for both. -/
theorem fillChunk_split (e : PresentationEngine) (reachable : e.Reachable) (pps a b c : Nat)
    (first second whole : List LaserPoint)
    (sizes : min c whole.length = min a first.length + min b second.length) :
    let n := min a first.length
    let m := min b second.length
    ∃ before later middle last, before.length = n ∧ later.length = m ∧
      e.fillChunk first a pps = some (n, before ++ first.drop n, middle) ∧
      middle.fillChunk second b pps = some (m, later ++ second.drop m, last) ∧
      e.fillChunk whole c pps = some (n + m, before ++ later ++ whole.drop (n + m), last) := by
  intro n m
  have ready := refreshed_ready e reachable.fifo
  have middleReady := emit_ready pps n _ ready
  refine ⟨(emit pps n e.refreshed).1, (emit pps m (emit pps n e.refreshed).2).1,
    (emit pps n e.refreshed).2, (emit pps m (emit pps n e.refreshed).2).2,
    emit_length .., emit_length .., fillChunk_eq_emit first a pps e reachable.fifo, ?_, ?_⟩
  · have called := fillChunk_eq_emit second b pps _ middleReady.toFifo
    rwa [middleReady.refreshed_eq] at called
  · have called := fillChunk_eq_emit whole c pps e reachable.fifo
    simp only [sizes] at called
    rw [called, emit_add]

theorem fillChunk_split_two_point_frame :
    let a := LaserPoint.blanked 0 0
    let b : LaserPoint := { a with x := 1, r := 1 }
    let e := (fresh (fun _ _ _ => .transition [a]) a).setPending { points := [b, a] }
    ∃ before later middle last, before.length = 2 ∧ later.length = 3 ∧
      e.fillChunk [a, a] 2 30000 = some (2, before ++ [], middle) ∧
      middle.fillChunk [a, a, a] 5 30000 = some (3, later ++ [], last) ∧
      e.fillChunk [b, b, b, b, b, b] 5 30000 = some (5, before ++ later ++ [b], last) :=
  fillChunk_split _ ⟨_, _, [.setPending _], _, rfl⟩ 30000 2 5 5 [_, _] [_, _, _] [_, _, _, _, _, _] (by decide)

end LaserDac.PresentationEngine
