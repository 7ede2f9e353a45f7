import LaserDac.Fifo

/-!
What queue delivery is for. A player has a frame it shows, possibly a frame that waits, and the points ahead of it up
to the next seam. The engine is such a player: its cursor, its transition buffer and its flags are only a way to store
the points ahead.
-/

namespace LaserDac

open Streams

/-- The points of a pass over a frame that a plan leads into. -/
def TransitionPlan.pass (points : List LaserPoint) : TransitionPlan → List LaserPoint
  | .transition inserted => inserted ++ points
  | .coalesce => points.drop (PresentationEngine.coalescedCursor points)

def TransitionPlan.inserts : TransitionPlan → Bool
  | .transition inserted => !inserted.isEmpty
  | .coalesce => false

theorem TransitionPlan.pass_ne_nil {points : List LaserPoint} (lit : points ≠ []) (plan : TransitionPlan) :
    plan.pass points ≠ [] := by
  cases plan with
  | transition => simp [pass, lit]
  | coalesce => simpa [pass] using PresentationEngine.coalescedCursor_lt lit

structure Player where
  frame : Option Frame
  pending : Option Frame
  ahead : List LaserPoint
  /-- The points ahead open with a self-loop transition, none of it shown. -/
  unseen : Bool

namespace Player

def turn (transitionFn : TransitionFn) (ctx : TransitionContext) (p : Player) : Player :=
  match p.pending.or p.frame with
  | none => { frame := none, pending := none, ahead := [], unseen := false }
  | some target =>
    let plan := planSeam transitionFn ctx p.frame target
    { frame := some target
      pending := none
      ahead := plan.pass target.points
      unseen := p.pending.isNone && plan.inserts }

/-- Show one point. An unseen self-loop transition gives way to a waiting frame; the last point of a pass
turns to the next one at once. -/
def next (transitionFn : TransitionFn) (idle : LaserPoint) (pps : Nat) (p : Player) : LaserPoint × Player :=
  let p := if p.unseen && p.pending.isSome then p.turn transitionFn { pps } else p
  match p.ahead with
  | [] => (idle, p)
  | [point] => (point, p.turn transitionFn { pps })
  | point :: rest => (point, { p with ahead := rest, unseen := false })

variable (transitionFn : TransitionFn) (idle : LaserPoint) (pps : Nat)

theorem turn_pending (ctx : TransitionContext) (p : Player) (frame : Frame) (waiting : p.pending = some frame) :
    p.turn transitionFn ctx =
      { frame := some frame, pending := none, ahead := (planSeam transitionFn ctx p.frame frame).pass frame.points,
        unseen := false } := by
  simp [turn, waiting]

theorem turn_self (ctx : TransitionContext) (p : Player) (frame : Frame) (free : p.pending = none)
    (playing : p.frame = some frame) :
    p.turn transitionFn ctx =
      { frame := some frame, pending := none, ahead := (planSeam transitionFn ctx (some frame) frame).pass frame.points,
        unseen := (planSeam transitionFn ctx (some frame) frame).inserts } := by
  simp [turn, free, playing]

theorem next_stale (p : Player) (unseen : p.unseen) (waiting : p.pending.isSome) :
    p.next transitionFn idle pps = (p.turn transitionFn { pps }).next transitionFn idle pps := by
  obtain ⟨frame, pending⟩ := Option.isSome_iff_exists.mp waiting
  simp [next, unseen, pending, turn_pending transitionFn _ p frame pending]

theorem next_idle (p : Player) (settled : ¬ (p.unseen ∧ p.pending.isSome)) (empty : p.ahead = []) :
    p.next transitionFn idle pps = (idle, p) := by
  simp only [next, Bool.and_eq_true, if_neg settled, empty]

theorem next_last (p : Player) (settled : ¬ (p.unseen ∧ p.pending.isSome)) (point : LaserPoint)
    (last : p.ahead = [point]) : p.next transitionFn idle pps = (point, p.turn transitionFn { pps }) := by
  simp only [next, Bool.and_eq_true, if_neg settled, last]

theorem next_more (p : Player) (settled : ¬ (p.unseen ∧ p.pending.isSome)) (point : LaserPoint)
    (rest : List LaserPoint) (more : p.ahead = point :: rest) (left : rest ≠ []) :
    p.next transitionFn idle pps = (point, { p with ahead := rest, unseen := false }) := by
  obtain ⟨second, others, rfl⟩ := List.exists_cons_of_ne_nil left
  simp only [next, Bool.and_eq_true, if_neg settled, more]

end Player

namespace PresentationEngine

def view (e : PresentationEngine) : Player where
  frame := e.currentBase
  pending := e.pendingBase
  ahead := e.transitionBuf.drop e.transitionCursor ++ e.content.drop e.cursor
  unseen := decide (0 < e.transitionBuf.length ∧ e.transitionCursor = 0 ∧ e.transitionIsSelfLoop)

/-- The engine's configuration, which no call changes. -/
structure Configured (transitionFn : TransitionFn) (idle : LaserPoint) (e : PresentationEngine) : Prop where
  plans : e.transitionFn = transitionFn
  idles : e.idleBlank = idle

variable {transitionFn : TransitionFn} {idle : LaserPoint} (ctx : TransitionContext)

theorem promotePending_view (e : PresentationEngine) (waiting : e.pendingBase.isSome)
    (read : e.transitionBuf.length ≤ e.transitionCursor) (config : e.Configured transitionFn idle) :
    ∃ after, e.promotePending ctx = some after ∧ after.view = e.view.turn transitionFn ctx ∧
      after.Configured transitionFn idle := by
  obtain ⟨frame, pending⟩ := Option.isSome_iff_exists.mp waiting
  refine ⟨_, promotePending_spec ctx e frame pending, ?_, ?_⟩
  · rw [Player.turn_pending transitionFn ctx e.view frame pending, config.plans]
    cases plan : planSeam transitionFn ctx e.currentBase frame with
    | transition => simp [view, content, plan, TransitionPlan.pass]
    | coalesce =>
      have started : ¬ (0 < e.transitionBuf.length ∧ e.transitionCursor = 0 ∧ e.transitionIsSelfLoop = true) := by
        omega
      simp [view, content, plan, TransitionPlan.pass, List.drop_eq_nil_of_le read, started]
  · cases planSeam e.transitionFn ctx e.currentBase frame <;> exact ⟨config.plans, config.idles⟩

theorem composeSelfLoop_view (e : PresentationEngine) (free : e.pendingBase = none)
    (drawn : e.drawable = e.content) (lit : e.drawable ≠ []) (read : e.transitionBuf.length ≤ e.transitionCursor)
    (config : e.Configured transitionFn idle) :
    ∃ after, e.composeSelfLoop ctx = some after ∧ after.view = e.view.turn transitionFn ctx ∧
      after.Configured transitionFn idle := by
  obtain ⟨frame, current⟩ := Option.isSome_iff_exists.mp (content_ne_nil_isSome e (drawn ▸ lit))
  rw [content_some e frame current] at drawn
  refine ⟨_, composeSelfLoop_spec ctx e frame current drawn (drawn ▸ lit), ?_, ?_⟩
  · rw [Player.turn_self transitionFn ctx e.view frame free current, config.plans, current]
    cases plan : planSeam transitionFn ctx (some frame) frame with
    | transition points =>
      cases points <;> simp [view, content, free, TransitionPlan.pass, TransitionPlan.inserts]
    | coalesce =>
      have started : ¬ (0 < e.transitionBuf.length ∧ e.transitionCursor = 0 ∧ e.transitionIsSelfLoop = true) := by
        omega
      simp [view, content, free, TransitionPlan.pass, TransitionPlan.inserts, List.drop_eq_nil_of_le read, started]
  · cases planSeam e.transitionFn ctx e.currentBase frame <;> exact ⟨config.plans, config.idles⟩

theorem seam_view (e : PresentationEngine) (drawn : e.drawable = e.content)
    (lit : e.drawable ≠ []) (read : e.transitionBuf.length ≤ e.transitionCursor)
    (atEnd : e.drawable.length ≤ e.cursor) (config : e.Configured transitionFn idle) :
    (e.seam ctx).view = e.view.turn transitionFn ctx ∧ (e.seam ctx).Configured transitionFn idle := by
  by_cases waiting : e.pendingBase.isSome
  · obtain ⟨after, promoted, same, kept⟩ := promotePending_view ctx e waiting read config
    simpa [seam, atEnd, waiting, promoted] using ⟨same, kept⟩
  · obtain ⟨after, looped, same, kept⟩ :=
      composeSelfLoop_view ctx e (by simpa using waiting) drawn lit read config
    simpa [seam, atEnd, waiting, looped] using ⟨same, kept⟩

theorem dropStale_view (e : PresentationEngine) (stale : e.Stale)
    (config : e.Configured transitionFn idle) :
    (e.dropStale ctx).view = e.view.turn transitionFn ctx ∧ (e.dropStale ctx).Configured transitionFn idle := by
  obtain ⟨after, promoted, same, kept⟩ := promotePending_view ctx
    { e with transitionBuf := [], transitionIsSelfLoop := false } stale.2.2.2 (by simp) ⟨config.plans, config.idles⟩
  rw [dropStale, if_pos stale, promoted]
  exact ⟨same, kept⟩

theorem stale_iff_view (e : PresentationEngine) : e.Stale ↔ e.view.unseen ∧ e.view.pending.isSome := by
  simp [Stale, view, and_assoc]

theorem next_view_settled (pps : Nat) (e : PresentationEngine) (ready : e.Ready) (settled : ¬ e.Stale)
    (config : e.Configured transitionFn idle) :
    e.view.next transitionFn idle pps = ((e.next pps).1, (e.next pps).2.view) ∧
      (e.next pps).2.Configured transitionFn idle := by
  have drawn := ready.drawable_eq
  have noTurn := (stale_iff_view e).not.mp settled
  by_cases lit : e.drawable = []
  · have nothing : e.view.ahead = [] := by simp [view, ready.noTransition (drawn ▸ lit), ← drawn, lit]
    rw [next_idle pps e lit, Player.next_idle _ _ _ _ noTurn nothing, config.idles]
    exact ⟨rfl, config⟩
  have inside : e.cursor < e.drawable.length := drawn ▸ ready.inside (drawn ▸ lit)
  by_cases transit : e.transitionCursor < e.transitionBuf.length
  · have more : e.view.ahead = e.transitionBuf[e.transitionCursor] ::
        (e.transitionBuf.drop (e.transitionCursor + 1) ++ e.content.drop e.cursor) := by
      rw [view, List.drop_eq_getElem_cons transit, List.cons_append]
    have left : e.transitionBuf.drop (e.transitionCursor + 1) ++ e.content.drop e.cursor ≠ [] := by
      simp [← drawn, Nat.not_le.mpr inside]
    rw [next_transition pps e lit settled transit, Player.next_more _ _ _ _ noTurn _ _ more left]
    exact ⟨by simp [view, content], ⟨config.plans, config.idles⟩⟩
  have read : e.transitionBuf.length ≤ e.transitionCursor := Nat.not_lt.mp transit
  have ahead : e.view.ahead = e.drawable[e.cursor] :: e.drawable.drop (e.cursor + 1) := by
    simp [view, List.drop_eq_nil_of_le read, ← drawn]
  rw [next_frame pps e lit read inside]
  by_cases atEnd : e.drawable.length ≤ e.cursor + 1
  · have last : e.view.ahead = [e.drawable[e.cursor]] := by rw [ahead, List.drop_eq_nil_of_le atEnd]
    obtain ⟨same, kept⟩ := seam_view { pps } { e with cursor := e.cursor + 1 } drawn lit read atEnd
      ⟨config.plans, config.idles⟩
    rw [Player.next_last _ _ _ _ noTurn _ last]
    exact ⟨congrArg (Prod.mk _) same.symm, kept⟩
  · have left : e.drawable.drop (e.cursor + 1) ≠ [] := by simpa using atEnd
    have still : seam { pps } { e with cursor := e.cursor + 1 } = { e with cursor := e.cursor + 1 } := if_neg atEnd
    have started : ¬ (0 < e.transitionBuf.length ∧ e.transitionCursor = 0 ∧ e.transitionIsSelfLoop = true) := by omega
    have same : content { e with cursor := e.cursor + 1 } = e.drawable := drawn.symm
    have moved : view { e with cursor := e.cursor + 1 } =
        { e.view with ahead := e.drawable.drop (e.cursor + 1), unseen := false } := by
      simp only [view, same, List.drop_eq_nil_of_le read, List.nil_append, started, decide_false]
    rw [Player.next_more _ _ _ _ noTurn _ _ ahead left, still, moved]
    exact ⟨rfl, config.plans, config.idles⟩

/-- The engine shows what its player shows. -/
theorem next_view (pps : Nat) (e : PresentationEngine) (ready : e.Ready) (config : e.Configured transitionFn idle) :
    e.view.next transitionFn idle pps = ((e.next pps).1, (e.next pps).2.view) ∧
      (e.next pps).2.Configured transitionFn idle := by
  by_cases stale : e.Stale
  · have lit : e.drawable ≠ [] := by
      intro empty
      have noTransition := ready.noTransition (ready.drawable_eq ▸ empty)
      simp [Stale, noTransition] at stale
    obtain ⟨unseen, waiting⟩ := (stale_iff_view e).mp stale
    obtain ⟨same, kept⟩ := dropStale_view { pps } e stale config
    rw [← next_dropStale pps e lit, Player.next_stale _ _ _ _ unseen waiting, ← same]
    exact next_view_settled pps _ (dropStale_ready _ e ready) (dropStale_settled _ e) kept
  · exact next_view_settled pps e ready stale config

theorem feed_next_view (rates : List Nat) (e : PresentationEngine) (ready : e.Ready)
    (config : e.Configured transitionFn idle) :
    feed (Player.next transitionFn idle) rates e.view = ((feed next rates e).1, (feed next rates e).2.view) :=
  feed_view next (Player.next transitionFn idle) view (fun e => e.Ready ∧ e.Configured transitionFn idle)
    (fun pps e inv => ⟨next_ready pps e inv.1, (next_view pps e inv.1 inv.2).2⟩)
    (fun pps e inv => (next_view pps e inv.1 inv.2).1) rates e ⟨ready, config⟩

/-- The frame a call submits. -/
def Call.frame? : Call → Option Frame
  | .setPending frame => some frame
  | .fillChunk _ _ _ => none

def Call.rates : Call → List Nat
  | .setPending _ => []
  | .fillChunk buffer maxPoints pps => List.replicate (min maxPoints buffer.length) pps

@[simp] theorem Call.rates_length (call : Call) : call.rates.length = call.size := by
  cases call <;> simp [rates, size]

end PresentationEngine

namespace Player

open PresentationEngine (Call)

/-- A submitted frame is shown at once if there is none yet, and waits otherwise. -/
def submit (frame : Frame) (p : Player) : Player :=
  match p.frame with
  | none => { frame := some frame, pending := none, ahead := frame.points, unseen := false }
  | some _ => { p with pending := some frame }

def perform (transitionFn : TransitionFn) (idle : LaserPoint) (call : Call) (p : Player) :
    List LaserPoint × Player :=
  match call with
  | .setPending frame => ([], p.submit frame)
  | .fillChunk .. => feed (next transitionFn idle) call.rates p

end Player

namespace PresentationEngine

variable {transitionFn : TransitionFn} {idle : LaserPoint}

theorem refreshed_view (e : PresentationEngine) : e.refreshed.view = e.view := by
  unfold refreshed
  split <;> rfl

theorem refreshed_configured (e : PresentationEngine) (config : e.Configured transitionFn idle) :
    e.refreshed.Configured transitionFn idle := by
  unfold refreshed
  split
  · exact ⟨config.plans, config.idles⟩
  · exact config

theorem emit_view (pps n : Nat) (e : PresentationEngine) (ready : e.Ready) (config : e.Configured transitionFn idle) :
    feed (Player.next transitionFn idle) (List.replicate n pps) e.view = ((emit pps n e).1, (emit pps n e).2.view) ∧
      (emit pps n e).2.Configured transitionFn idle := by
  refine ⟨feed_next_view _ e ready config, ?_⟩
  have kept := feed_follows next (fun _ e => e.Ready ∧ e.Configured transitionFn idle) (List.replicate n pps)
    (fun pps _ _ e inv => ⟨next_ready pps e inv.1, (next_view pps e inv.1 inv.2).2⟩) [] e ⟨ready, config⟩
  exact kept.2

theorem setPending_view (frame : Frame) (e : PresentationEngine) (fifo : e.Fifo) :
    (e.setPending frame).view = e.view.submit frame := by
  by_cases playing : e.currentBase.isSome
  · obtain ⟨current, eq⟩ := Option.isSome_iff_exists.mp playing
    simp [setPending_later frame e playing, view, Player.submit, eq, content]
  · have first : e.currentBase = none := by simpa using playing
    have blank : e.content = [] := by simp [content, first]
    have free : e.pendingBase = none := by simpa [first] using mt fifo.replaces
    simp [setPending_first frame e first, view, Player.submit, first, content, fifo.noTransition blank, free]

theorem perform_view (call : Call) (e : PresentationEngine) (fifo : e.Fifo) (config : e.Configured transitionFn idle) :
    ∃ points after, perform call e = some (points, after) ∧ after.Fifo ∧ after.Configured transitionFn idle ∧
      e.view.perform transitionFn idle call = (points, after.view) := by
  cases call with
  | setPending frame =>
    refine ⟨[], _, rfl, setPending_fifo frame e fifo, ?_, ?_⟩
    · unfold setPending
      split <;> exact ⟨config.plans, config.idles⟩
    · simp [Player.perform, setPending_view frame e fifo]
  | fillChunk buffer maxPoints pps =>
    have ready := refreshed_ready e fifo
    obtain ⟨same, kept⟩ := emit_view pps (min maxPoints buffer.length) e.refreshed ready
      (refreshed_configured e config)
    exact ⟨_, _, perform_fillChunk buffer maxPoints pps e fifo, (emit_ready pps _ _ ready).toFifo, kept,
      by rw [refreshed_view] at same; exact same⟩

theorem play_view (calls : List Call) (e : PresentationEngine) (fifo : e.Fifo)
    (config : e.Configured transitionFn idle) :
    ∃ shown after, play calls e = some (shown, after) ∧ after.Fifo ∧ after.Configured transitionFn idle ∧
      feed (Player.perform transitionFn idle) calls e.view = (shown, after.view) := by
  induction calls generalizing e with
  | nil => exact ⟨[], e, rfl, fifo, config, rfl⟩
  | cons call calls ih =>
    obtain ⟨points, middle, performed, middleFifo, middleConfig, same⟩ := perform_view call e fifo config
    obtain ⟨shown, after, played, afterFifo, afterConfig, rest⟩ := ih middle middleFifo middleConfig
    refine ⟨points :: shown, after, by simp [play, performed, played], afterFifo, afterConfig, ?_⟩
    rw [feed_cons, same, rest]

end PresentationEngine

end LaserDac
