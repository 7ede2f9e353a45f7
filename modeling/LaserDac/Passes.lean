import LaserDac.Playback

/-!
Which frames queue delivery shows, and when. A frame that waits is reached after the points ahead of it, its
passes repeat until a newer one is submitted, and the whole output is a sequence of complete passes joined
by the seams the application planned.
-/

namespace LaserDac

open Streams PresentationEngine

namespace Player

variable (transitionFn : TransitionFn) (idle : LaserPoint)

def loopPass (frame : Frame) (pps : Nat) : List LaserPoint :=
  (planSeam transitionFn { pps } (some frame) frame).pass frame.points

theorem feed_loops (frame : Frame) (lit : frame.points ≠ []) (rates : List Nat) (p : Player)
    (playing : p.frame = some frame) (free : p.pending = none) (more : p.ahead ≠ []) :
    ∃ loops : List Nat,
      (feed (next transitionFn idle) rates p).1 <+: p.ahead ++ loops.flatMap (loopPass transitionFn frame) ∧
      (feed (next transitionFn idle) rates p).2.frame = some frame ∧
      (feed (next transitionFn idle) rates p).2.pending = none := by
  obtain ⟨loops, shown, still, alone, -⟩ := feed_follows (next transitionFn idle)
    (fun out q => ∃ loops : List Nat, out ++ q.ahead = p.ahead ++ loops.flatMap (loopPass transitionFn frame) ∧
      q.frame = some frame ∧ q.pending = none ∧ q.ahead ≠ [])
    rates (by
      rintro pps - out q ⟨loops, shown, still, alone, left⟩
      have settled : ¬ (q.unseen ∧ q.pending.isSome) := by simp [alone]
      obtain ⟨point, rest, ahead⟩ := List.exists_cons_of_ne_nil left
      by_cases last : rest = []
      · rw [last] at ahead
        rw [next_last _ _ _ q settled point ahead, turn_self _ _ q frame alone still]
        refine ⟨loops ++ [pps], ?_, rfl, rfl, TransitionPlan.pass_ne_nil lit _⟩
        rw [ahead] at shown
        simp [shown, loopPass]
      · rw [next_more _ _ _ q settled point rest ahead last]
        exact ⟨loops, by simpa [ahead] using shown, still, alone, last⟩)
    [] p ⟨[], by simp, playing, free, more⟩
  exact ⟨loops, ⟨_, by simpa using shown⟩, still, alone⟩

variable (rates : List Nat)

theorem feed_idle (p : Player) (settled : ¬ (p.unseen ∧ p.pending.isSome)) (empty : p.ahead = []) :
    feed (next transitionFn idle) rates p = (List.replicate rates.length idle, p) :=
  feed_constant _ idle p (fun pps => next_idle _ _ pps p settled empty) rates

theorem feed_ahead (p : Player) (settled : p.unseen = false) (left : p.ahead ≠ [])
    (enough : p.ahead.length ≤ rates.length) :
    ∃ pps later, later.length + p.ahead.length = rates.length ∧
      feed (next transitionFn idle) rates p =
        (p.ahead ++ (feed (next transitionFn idle) later (p.turn transitionFn { pps })).1,
          (feed (next transitionFn idle) later (p.turn transitionFn { pps })).2) := by
  induction rates generalizing p with
  | nil => simp_all
  | cons pps rates ih =>
    have noTurn : ¬ (p.unseen ∧ p.pending.isSome) := by simp [settled]
    obtain ⟨point, rest, ahead⟩ := List.exists_cons_of_ne_nil left
    by_cases last : rest = []
    · rw [last] at ahead
      refine ⟨pps, rates, by simp [ahead], ?_⟩
      rw [feed_cons, next_last _ _ _ p noTurn point ahead, ahead]
      simp
    · obtain ⟨rate, later, size, shown⟩ := ih { p with ahead := rest, unseen := false } rfl last
        (by simpa [ahead] using enough)
      refine ⟨rate, later, by simp only [ahead, List.length_cons] at size ⊢; omega, ?_⟩
      rw [feed_cons, next_more _ _ _ p noTurn point rest ahead last, shown, ahead]
      rfl

theorem feed_turns (p : Player) (frame : Frame) (waiting : p.pending = some frame)
    (left : p.ahead ≠ []) (enough : p.ahead.length ≤ rates.length) :
    ∃ before pps later, (before = [] ∨ before = p.ahead) ∧ before.length + later.length = rates.length ∧
      feed (next transitionFn idle) rates p =
        (before ++ (feed (next transitionFn idle) later (p.turn transitionFn { pps })).1,
          (feed (next transitionFn idle) later (p.turn transitionFn { pps })).2) := by
  by_cases settled : p.unseen = false
  · obtain ⟨pps, later, size, shown⟩ := feed_ahead transitionFn idle rates p settled left enough
    exact ⟨p.ahead, pps, later, .inr rfl, by omega, shown⟩
  · have unseen : p.unseen = true := by simpa using settled
    obtain ⟨pps, rest, rfl⟩ : ∃ pps rest, rates = pps :: rest :=
      List.exists_cons_of_ne_nil (by rintro rfl; simp_all)
    refine ⟨[], pps, pps :: rest, .inl rfl, by simp, ?_⟩
    rw [feed_cons, next_stale _ _ _ p unseen (by simp [waiting]), feed_cons]
    simp

@[simp] theorem perform_length (call : Call) (p : Player) : (p.perform transitionFn idle call).1.length = call.size := by
  cases call with
  | setPending => rfl
  | fillChunk => simp [perform]

theorem feed_perform_lengths (calls : List Call) (p : Player) :
    (feed (perform transitionFn idle) calls p).1.map List.length = calls.map Call.size := by
  induction calls generalizing p with
  | nil => rfl
  | cons call calls ih => simp [feed_cons, ih]

theorem feed_fills (calls : List Call) (fills : ∀ call ∈ calls, call.frame? = none) (p : Player) :
    (feed (perform transitionFn idle) calls p).1.flatten =
        (feed (next transitionFn idle) (calls.flatMap Call.rates) p).1 ∧
      (feed (perform transitionFn idle) calls p).2 = (feed (next transitionFn idle) (calls.flatMap Call.rates) p).2 := by
  induction calls generalizing p with
  | nil => simp
  | cons call calls ih =>
    have fill : p.perform transitionFn idle call = feed (next transitionFn idle) call.rates p := by
      cases call with
      | setPending frame => simpa [Call.frame?] using fills (.setPending frame)
      | fillChunk => rfl
    obtain ⟨shown, after⟩ := ih (fun call member => fills call (by simp [member]))
      (feed (next transitionFn idle) call.rates p).2
    rw [feed_cons, fill, List.flatMap_cons, feed_append]
    exact ⟨by rw [List.flatten_cons, shown], after⟩

/-- The stream from a turn to `frame` on: the seam, the frame and its loops, or the idle point if it is empty. -/
def StreamOf (outgoing : Option Frame) (frame : Frame) (pps : Nat) (points : List LaserPoint) : Prop :=
  if frame.points = [] then points = List.replicate points.length idle
  else ∃ loops : List Nat, points <+:
    (planSeam transitionFn { pps } outgoing frame).pass frame.points ++ loops.flatMap (loopPass transitionFn frame)

theorem feed_turned (p : Player) (frame : Frame) (pps : Nat) (waiting : p.pending = some frame) :
    let q := feed (next transitionFn idle) rates (p.turn transitionFn { pps })
    StreamOf transitionFn idle p.frame frame pps q.1 ∧ q.2.frame = some frame ∧ q.2.pending = none := by
  intro q
  have turned := turn_pending transitionFn { pps } p frame waiting
  unfold StreamOf
  split
  case isTrue empty =>
    have nothing : (p.turn transitionFn { pps }).ahead = [] := by
      simp [turned, planSeam_empty _ _ _ empty, TransitionPlan.pass, empty]
    have held : q = _ := feed_idle transitionFn idle rates _ (by simp [turned]) nothing
    exact ⟨by simp [held], by simp [held, turned], by simp [held, turned]⟩
  case isFalse lit =>
    obtain ⟨loops, shown, playing, free⟩ := feed_loops transitionFn idle frame lit rates
      (p.turn transitionFn { pps }) (by simp [turned]) (by simp [turned])
      (by rw [turned]; exact TransitionPlan.pass_ne_nil lit _)
    rw [turned] at shown
    exact ⟨⟨loops, by simpa [q, turned] using shown⟩, playing, free⟩

end Player

namespace PresentationEngine

/-- Unread transition points and unread points of the pass under way. -/
def unread (e : PresentationEngine) : Nat :=
  (e.transitionBuf.length - e.transitionCursor) + (e.content.length - e.cursor)

theorem view_ahead_length (e : PresentationEngine) : e.view.ahead.length = e.unread := by
  simp [view, unread]

section

variable {e : PresentationEngine} (reachable : e.Reachable) {calls : List Call}
  (fills : ∀ call ∈ calls, call.frame? = none)

include reachable fills

theorem play_fills :
    ∃ shown after, play calls e = some (shown, after) ∧
      shown.flatten = (feed (Player.next e.transitionFn e.idleBlank) (calls.flatMap Call.rates) e.view).1 ∧
      after.view = (feed (Player.next e.transitionFn e.idleBlank) (calls.flatMap Call.rates) e.view).2 := by
  obtain ⟨shown, after, played, -, -, same⟩ := play_view calls e reachable.fifo
    (⟨rfl, rfl⟩ : e.Configured e.transitionFn e.idleBlank)
  obtain ⟨flat, last⟩ := Player.feed_fills e.transitionFn e.idleBlank calls fills e.view
  rw [same] at flat last
  exact ⟨shown, after, played, flat, last⟩

/-- An empty frame is never left: there is no seam at which a waiting frame could be promoted. -/
theorem play_empty (empty : e.content = []) :
    ∃ shown after, play calls e = some (shown, after) ∧ after.currentBase = e.currentBase ∧
      after.pendingBase = e.pendingBase ∧ ∀ point ∈ shown.flatten, point = e.idleBlank := by
  obtain ⟨shown, after, played, flat, last⟩ := play_fills reachable fills
  have bare := reachable.fifo.noTransition empty
  rw [Player.feed_idle _ _ _ e.view (by simp [view, bare]) (by simp [view, bare, empty])] at flat last
  refine ⟨shown, after, played, congrArg Player.frame last, congrArg Player.pending last, ?_⟩
  rw [flat]
  exact fun point member => List.eq_of_mem_replicate member

end

/-- A waiting frame becomes current after at most the unread points, and from then on the stream is that frame's,
exactly if the current frame has points. -/
theorem pending_is_shown (e : PresentationEngine) (reachable : e.Reachable) (frame : Frame)
    (waiting : e.pendingBase = some frame) (calls : List Call) (fills : ∀ call ∈ calls, call.frame? = none)
    (enough : e.unread ≤ (calls.map Call.size).sum) :
    (∃ shown after before later pps, play calls e = some (shown, after) ∧
      after.currentBase = some frame ∧ after.pendingBase = none ∧
      shown.flatten = before ++ later ∧ before.length ≤ e.unread ∧
      (before = [] ∨ before = e.transitionBuf.drop e.transitionCursor ++ e.content.drop e.cursor) ∧
      Player.StreamOf e.transitionFn e.idleBlank e.currentBase frame pps later) ↔ e.content ≠ [] := by
  constructor
  · rintro ⟨shown, after, _, _, _, played, -, promoted, -⟩ empty
    obtain ⟨_, _, same, -, kept, -⟩ := play_empty reachable fills empty
    obtain ⟨-, rfl⟩ := Prod.mk.inj (Option.some.inj (played.symm.trans same))
    rw [kept, waiting] at promoted
    cases promoted
  · intro lit
    have inside := reachable.fifo.inside lit
    obtain ⟨shown, after, played, flat, last⟩ := play_fills reachable fills
    have total : (calls.flatMap Call.rates).length = (calls.map Call.size).sum := by
      simp [List.length_flatMap]
    have left : e.view.ahead ≠ [] := by
      rw [← List.length_pos_iff, view_ahead_length, unread]
      omega
    obtain ⟨before, pps, later, either, -, turned⟩ := Player.feed_turns e.transitionFn e.idleBlank
      (calls.flatMap Call.rates) e.view frame waiting left (by rw [view_ahead_length, total]; exact enough)
    obtain ⟨stream, playing, free⟩ := Player.feed_turned e.transitionFn e.idleBlank later e.view frame pps waiting
    rw [turned] at flat last
    refine ⟨shown, after, before, _, pps, played, ?_, ?_, flat, ?_, either, stream⟩
    · rw [← playing, ← last]
      rfl
    · rw [← free, ← last]
      rfl
    · rcases either with rfl | rfl
      · simp
      · exact Nat.le_of_eq (view_ahead_length e)

theorem pending_is_shown_two_point_frame :
    let a := LaserPoint.blanked 0 0
    let b : LaserPoint := { a with x := 1, r := 1 }
    let e := ((fresh (fun _ _ _ => .transition [a]) a).setPending { points := [b, b] }).setPending { points := [a] }
    ∃ shown after before later pps, play [.fillChunk [a, a, a] 3 30000] e = some (shown, after) ∧
      after.currentBase = some { points := [a] } ∧ after.pendingBase = none ∧
      shown.flatten = before ++ later ∧ before.length ≤ 2 ∧ (before = [] ∨ before = [b, b]) ∧
      Player.StreamOf (fun _ _ _ => .transition [a]) a (some { points := [b, b] }) { points := [a] } pps later :=
  (pending_is_shown _ ⟨_, _, [.setPending _, .setPending _], _, rfl⟩ _ rfl [.fillChunk _ 3 30000]
    (by simp [Call.frame?]) (by decide)).mpr (by decide)

/-- After an empty frame no later frame is ever reached: every call holds the idle point. -/
theorem empty_frame_is_never_left :
    let a := LaserPoint.blanked 0 0
    let lit : Frame := { points := [{ a with x := 1, r := 1 }] }
    let e := ((fresh (fun _ _ _ => .transition []) a).setPending { points := [] }).setPending lit
    e.Reachable ∧ e.pendingBase = some lit ∧
      ∀ calls : List Call, (∀ call ∈ calls, call.frame? = none) →
        ∃ shown after, play calls e = some (shown, after) ∧ after.currentBase = some { points := [] } ∧
          after.pendingBase = some lit ∧ ∀ point ∈ shown.flatten, point = a := by
  intro a lit e
  have reachable : e.Reachable := ⟨_, _, [.setPending _, .setPending _], _, rfl⟩
  exact ⟨reachable, rfl, fun calls fills => play_empty reachable fills rfl⟩

end PresentationEngine

namespace Passes

variable (transitionFn : TransitionFn) (first : Frame) (calls : List Call)

/-- The frames in the order of their submission; `first` came before the calls. -/
def frames : List Frame := first :: calls.filterMap Call.frame?

/-- How many frames have been submitted when call `k` starts. -/
def submitted (k : Nat) : Nat := 1 + ((calls.take k).filterMap Call.frame?).length

/-- How many points have been written when call `k` starts. -/
def written (k : Nat) : Nat := ((calls.take k).map Call.size).sum

/-- The plan for the seam between two submitted frames at the rate of call `k`. -/
def planAt (k source target : Nat) : Option TransitionPlan :=
  match calls[k]?, (frames first calls)[source]?, (frames first calls)[target]? with
  | some (.fillChunk _ _ pps), some outgoing, some incoming =>
    some (planSeam transitionFn { pps } (some outgoing) incoming)
  | _, _, _ => none

/-- Call `k` writes the last point before position `start`. -/
def Ends (k start : Nat) : Prop := written calls k < start ∧ start ≤ written calls (k + 1)

/-- The first point call `k` writes stands at position `start`. -/
def Resumes (k start : Nat) : Prop := written calls k = start ∧ start < written calls (k + 1)

/-- A seam from a pass over frame `source`, which ends at position `start`, to a pass over frame `target`:
it is planned at the rate of the call that composes it, and leads to the frame submitted last. It is
composed as the pass ends, or by the next call that writes, in place of an inserting self-loop. -/
structure Planned (source start target k : Nat) (plan : TransitionPlan) : Prop where
  planned : planAt transitionFn first calls k source target = some plan
  latest : target + 1 = submitted calls k
  timely : Ends calls k start ∨
    Resumes calls k start ∧ target ≠ source ∧ ∃ earlier inserted, earlier < k ∧ Ends calls earlier start ∧
      source + 1 = submitted calls earlier ∧ inserted ≠ [] ∧
      planAt transitionFn first calls earlier source source = some (.transition inserted)

/-- A self-loop transition among those that `yields` is about is not shown once a newer frame waits. -/
def NotStale (yields : List LaserPoint → Prop) (source start target k : Nat) (plan : TransitionPlan) : Prop :=
  target = source → ∀ inserted, plan = .transition inserted → yields inserted →
    ∀ later, k < later → Resumes calls later start → submitted calls later = source + 1

/-- A sequence of complete passes joined by seams, and the frame the last of them shows. -/
inductive Sequence (yields : List LaserPoint → Prop) : List LaserPoint → Nat → Prop
  | first : Sequence yields first.points 0
  | seam {points : List LaserPoint} {source target k : Nat} {plan : TransitionPlan} {incoming : Frame} :
    Sequence yields points source →
    Planned transitionFn first calls source points.length target k plan →
    NotStale calls yields source points.length target k plan →
    (frames first calls)[target]? = some incoming →
    Sequence yields (points ++ plan.pass incoming.points) target

theorem written_succ (k : Nat) (call : Call) (at_k : calls[k]? = some call) :
    written calls (k + 1) = written calls k + call.size := by
  simp [written, List.take_add_one, at_k]

theorem written_mono {k l : Nat} (before : k ≤ l) : written calls k ≤ written calls l := by
  have split : calls.take l = calls.take k ++ (calls.take l).drop k := by
    have taken := List.take_append_drop k (calls.take l)
    rwa [List.take_take, Nat.min_eq_left before, eq_comm] at taken
  rw [written, written, split]
  simp

theorem written_le_total (k : Nat) : written calls k ≤ written calls calls.length := by
  rcases Nat.le_total k calls.length with before | after
  · exact written_mono calls before
  · simp [written, List.take_of_length_le after]

theorem submitted_fill (k : Nat) (buffer : List LaserPoint) (maxPoints pps : Nat)
    (fill : calls[k]? = some (.fillChunk buffer maxPoints pps)) : submitted calls (k + 1) = submitted calls k := by
  simp [submitted, List.take_add_one, fill, Call.frame?]

theorem submitted_frame (k : Nat) (frame : Frame) (submits : calls[k]? = some (.setPending frame)) :
    submitted calls (k + 1) = submitted calls k + 1 ∧ (frames first calls)[submitted calls k]? = some frame := by
  obtain ⟨inside, at_k⟩ := List.getElem?_eq_some_iff.mp submits
  have split : calls.filterMap Call.frame? =
      (calls.take k).filterMap Call.frame? ++ frame :: (calls.drop (k + 1)).filterMap Call.frame? := by
    conv_lhs => rw [← List.take_append_drop k calls, List.drop_eq_getElem_cons inside, at_k]
    simp [Call.frame?]
  refine ⟨by simp [submitted, List.take_add_one, submits, Call.frame?, Nat.add_assoc], ?_⟩
  rw [frames, submitted, Nat.add_comm, List.getElem?_cons_succ, split, List.getElem?_append_right le_rfl]
  simp

/-- A position lies in one call. -/
theorem resumes_unique {k later start : Nat} (within : written calls k ≤ start) (inside : start < written calls (k + 1))
    (resumes : Resumes calls later start) : later = k := by
  obtain ⟨at_start, beyond⟩ := resumes
  rcases Nat.lt_trichotomy later k with before | same | after
  · have := written_mono calls (show later + 1 ≤ k from before)
    omega
  · exact same
  · have := written_mono calls (show k + 1 ≤ later from after)
    omega

theorem submitted_le_frames (k : Nat) : submitted calls k ≤ (frames first calls).length := by
  have := ((List.take_sublist k calls).filterMap Call.frame?).length_le
  simp only [submitted, frames, List.length_cons]
  omega

/-! ### Following a run -/

/-- The pass a player is in: the first one, or one behind a seam. The self-loop transition of a seam stays
replaceable as long as none of its points is out. -/
inductive InPass (k : Nat) (out : List LaserPoint) (p : Player) : Nat → Prop
  | first : out ++ p.ahead = first.points → p.unseen = false → InPass k out p 0
  | seam {points : List LaserPoint} {source target call : Nat} {plan : TransitionPlan} {incoming : Frame} :
    Sequence transitionFn first calls (· ≠ []) points source →
    Planned transitionFn first calls source points.length target call plan →
    call ≤ k →
    (frames first calls)[target]? = some incoming →
    out ++ p.ahead = points ++ plan.pass incoming.points →
    points.length ≤ out.length →
    (points.length < out.length → NotStale calls (· ≠ []) source points.length target call plan) →
    (p.unseen = true ↔ out.length = points.length ∧ target = source ∧ plan.inserts) →
    InPass k out p target

/-- A player during call `k`, with the points it has shown and the frame it shows. -/
structure Tracks (k : Nat) (out : List LaserPoint) (p : Player) (playing : Nat) : Prop where
  inPass : InPass transitionFn first calls k out p playing
  shows : p.frame = (frames first calls)[playing]?
  waits : p.pending =
    if playing + 1 = submitted calls k then none else (frames first calls)[submitted calls k - 1]?
  known : playing < submitted calls k
  left : p.ahead ≠ []

variable {transitionFn first calls} {k : Nat} {out : List LaserPoint} {p : Player} {playing : Nat}
  {buffer : List LaserPoint} {maxPoints pps : Nat}

theorem Tracks.free_iff (tracks : Tracks transitionFn first calls k out p playing) :
    p.pending = none ↔ playing + 1 = submitted calls k := by
  have known := tracks.known
  have bound := submitted_le_frames first calls k
  rw [tracks.waits]
  by_cases newest : playing + 1 = submitted calls k
  · simp [newest]
  · simp only [newest, if_false, List.getElem?_eq_none_iff, iff_false]
    omega

theorem Tracks.turn (tracks : Tracks transitionFn first calls k out p playing)
    (fill : calls[k]? = some (.fillChunk buffer maxPoints pps)) :
    ∃ plan incoming, (frames first calls)[submitted calls k - 1]? = some incoming ∧
      planAt transitionFn first calls k playing (submitted calls k - 1) = some plan ∧
      p.turn transitionFn { pps } =
        { frame := some incoming, pending := none, ahead := plan.pass incoming.points,
          unseen := p.pending.isNone && plan.inserts } := by
  have known := tracks.known
  have bound := submitted_le_frames first calls k
  obtain ⟨outgoing, at_playing⟩ : ∃ frame, (frames first calls)[playing]? = some frame :=
    ⟨_, List.getElem?_eq_getElem (by omega)⟩
  obtain ⟨incoming, at_latest⟩ : ∃ frame, (frames first calls)[submitted calls k - 1]? = some frame :=
    ⟨_, List.getElem?_eq_getElem (by omega)⟩
  have shows := tracks.shows.trans at_playing
  refine ⟨planSeam transitionFn { pps } (some outgoing) incoming, incoming, at_latest,
    by simp [planAt, fill, at_playing, at_latest], ?_⟩
  have waits := tracks.waits
  by_cases newest : playing + 1 = submitted calls k
  · have same : outgoing = incoming := by
      rw [← newest, Nat.add_sub_cancel, at_playing] at at_latest
      exact Option.some.inj at_latest
    rw [if_pos newest] at waits
    rw [Player.turn_self _ _ p outgoing waits shows, same]
    simp [waits]
  · rw [if_neg newest, at_latest] at waits
    rw [Player.turn_pending _ _ p incoming waits, shows]
    simp [waits]

theorem Tracks.replace (lit : ∀ frame ∈ frames first calls, frame.points ≠ [])
    (tracks : Tracks transitionFn first calls k out p playing)
    (fill : calls[k]? = some (.fillChunk buffer maxPoints pps)) (within : written calls k ≤ out.length)
    (inside : out.length < written calls (k + 1)) (unseen : p.unseen = true) (waiting : p.pending.isSome) :
    Tracks transitionFn first calls k out (p.turn transitionFn { pps }) (submitted calls k - 1) := by
  obtain ⟨plan, incoming, at_latest, planned, turned⟩ := tracks.turn fill
  have known := tracks.known
  have newer : playing + 1 ≠ submitted calls k := tracks.free_iff.not.mp (Option.isSome_iff_ne_none.mp waiting)
  have inPass := tracks.inPass
  cases inPass with
  | first _ seen => simp [seen] at unseen
  | @seam points source _ call old _ before seam earlier _ shown _ _ fresh =>
    obtain ⟨at_seam, rfl, inserts⟩ := fresh.mp unseen
    have previous : call < k := by
      refine Nat.lt_of_le_of_ne earlier ?_
      rintro rfl
      exact newer seam.latest
    have ends : Ends calls call points.length := by
      rcases seam.timely with ends | ⟨-, other, -⟩
      · exact ends
      · exact absurd rfl other
    have resumes : Resumes calls k points.length := by
      have := written_mono calls (show call + 1 ≤ k from previous)
      have := ends.2
      exact ⟨by omega, by omega⟩
    obtain ⟨inserted, loop, some⟩ : ∃ inserted, old = .transition inserted ∧ inserted ≠ [] := by
      cases old with
      | transition inserted => exact ⟨inserted, rfl, by simpa [TransitionPlan.inserts] using inserts⟩
      | coalesce => simp [TransitionPlan.inserts] at inserts
    have target : submitted calls k - 1 ≠ playing := by omega
    have isNew : Planned transitionFn first calls playing points.length (submitted calls k - 1) k plan :=
      { planned, latest := by omega
        timely := .inr ⟨resumes, target, call, inserted, previous, ends, seam.latest, some, loop ▸ seam.planned⟩ }
    have whole : out = points := List.append_inj_left shown at_seam
    refine { inPass := ?_, shows := by rw [turned, at_latest], waits := ?_, known := by omega, left := ?_ }
    · refine .seam before isNew (Nat.le_refl k) at_latest ?_ (Nat.le_of_eq at_seam.symm) (by omega) ?_
      · rw [turned, whole]
      · simp [turned, Option.isSome_iff_ne_none.mp waiting, target]
    · rw [if_pos (by omega), turned]
    · rw [turned]
      exact TransitionPlan.pass_ne_nil (lit incoming (List.mem_of_getElem? at_latest)) plan

theorem not_stale_of_settled {points : List LaserPoint} {source call : Nat} {plan : TransitionPlan}
    (tracks : Tracks transitionFn first calls k out p playing) (within : written calls k ≤ out.length)
    (inside : out.length < written calls (k + 1)) (settled : ¬ (p.unseen ∧ p.pending.isSome))
    (started : points.length ≤ out.length)
    (old : points.length < out.length → NotStale calls (· ≠ []) source points.length playing call plan)
    (fresh : p.unseen = true ↔ out.length = points.length ∧ playing = source ∧ plan.inserts) :
    NotStale calls (· ≠ []) source points.length playing call plan := by
  rcases Nat.lt_or_eq_of_le started with begun | at_seam
  · exact old begun
  rintro same inserted rfl some later after resumes
  have unseen : p.unseen = true := fresh.mpr ⟨at_seam.symm, same, by simpa [TransitionPlan.inserts] using some⟩
  have newest : playing + 1 = submitted calls k := tracks.free_iff.mp (by simpa [unseen] using settled)
  have here : later = k := resumes_unique calls (by omega) (by omega) resumes
  rw [here, ← newest, same]

/-- One more point of the pass under way. -/
theorem Tracks.more (tracks : Tracks transitionFn first calls k out p playing)
    (within : written calls k ≤ out.length) (inside : out.length < written calls (k + 1))
    (settled : ¬ (p.unseen ∧ p.pending.isSome)) {point : LaserPoint} {rest : List LaserPoint}
    (ahead : p.ahead = point :: rest) (more : rest ≠ []) :
    Tracks transitionFn first calls k (out ++ [point]) { p with ahead := rest, unseen := false } playing := by
  refine { inPass := ?_, shows := tracks.shows, waits := tracks.waits, known := tracks.known, left := more }
  have inPass := tracks.inPass
  cases inPass with
  | first shown => exact .first (by simpa [ahead] using shown) rfl
  | seam before seam earlier at_target shown started old fresh =>
    have current := not_stale_of_settled tracks within inside settled started old fresh
    refine .seam before seam earlier at_target (by simpa [ahead] using shown) ?_ (fun _ => current) ?_
    · rw [List.length_append]
      omega
    · simp only [List.length_append, List.length_singleton, Bool.false_eq_true, false_iff]
      omega

theorem Tracks.last (lit : ∀ frame ∈ frames first calls, frame.points ≠ [])
    (tracks : Tracks transitionFn first calls k out p playing)
    (fill : calls[k]? = some (.fillChunk buffer maxPoints pps)) (within : written calls k ≤ out.length)
    (inside : out.length < written calls (k + 1)) (settled : ¬ (p.unseen ∧ p.pending.isSome))
    {point : LaserPoint} (ahead : p.ahead = [point]) :
    Tracks transitionFn first calls k (out ++ [point]) (p.turn transitionFn { pps }) (submitted calls k - 1) := by
  obtain ⟨plan, incoming, at_latest, planned, turned⟩ := tracks.turn fill
  have known := tracks.known
  have complete : Sequence transitionFn first calls (· ≠ []) (out ++ [point]) playing := by
    have inPass := tracks.inPass
    cases inPass with
    | first shown =>
      rw [ahead] at shown
      exact shown ▸ .first
    | seam before seam earlier at_target shown started old fresh =>
      rw [ahead] at shown
      rw [shown]
      exact .seam before seam (not_stale_of_settled tracks within inside settled started old fresh) at_target
  have size : (out ++ [point]).length = out.length + 1 := by simp
  have isNew : Planned transitionFn first calls playing (out ++ [point]).length (submitted calls k - 1) k plan :=
    { planned, latest := by omega, timely := .inl ⟨by omega, by omega⟩ }
  refine { inPass := ?_, shows := by rw [turned, at_latest], waits := ?_, known := by omega, left := ?_ }
  · refine .seam complete isNew (Nat.le_refl k) at_latest ?_ le_rfl (fun begun => absurd begun (by omega)) ?_
    · rw [turned]
    · have self : p.pending = none ↔ submitted calls k - 1 = playing := by
        rw [tracks.free_iff]
        omega
      simp [turned, self]
  · rw [if_pos (by omega), turned]
  · rw [turned]
    exact TransitionPlan.pass_ne_nil (lit incoming (List.mem_of_getElem? at_latest)) plan

/-- One point of a call. -/
theorem Tracks.next (idle : LaserPoint) (lit : ∀ frame ∈ frames first calls, frame.points ≠ [])
    (tracks : Tracks transitionFn first calls k out p playing)
    (fill : calls[k]? = some (.fillChunk buffer maxPoints pps)) (within : written calls k ≤ out.length)
    (inside : out.length < written calls (k + 1)) :
    ∃ playing, Tracks transitionFn first calls k (out ++ [(p.next transitionFn idle pps).1])
      (p.next transitionFn idle pps).2 playing := by
  -- a player that owes no replacement shows the head of what is ahead
  have show_head : ∀ (q : Player) (current : Nat), ¬ (q.unseen ∧ q.pending.isSome) →
      Tracks transitionFn first calls k out q current →
      ∃ playing, Tracks transitionFn first calls k (out ++ [(q.next transitionFn idle pps).1])
        (q.next transitionFn idle pps).2 playing := by
    intro q current settled tracks
    obtain ⟨point, rest, ahead⟩ := List.exists_cons_of_ne_nil tracks.left
    by_cases more : rest = []
    · rw [more] at ahead
      rw [Player.next_last _ _ _ q settled point ahead]
      exact ⟨_, tracks.last lit fill within inside settled ahead⟩
    · rw [Player.next_more _ _ _ q settled point rest ahead more]
      exact ⟨_, tracks.more within inside settled ahead more⟩
  by_cases settled : p.unseen ∧ p.pending.isSome
  · rw [Player.next_stale _ _ _ p settled.1 settled.2]
    have replaced := tracks.replace lit fill within inside settled.1 settled.2
    have free : (p.turn transitionFn { pps }).pending = none :=
      replaced.free_iff.mpr (by have := tracks.known; omega)
    exact show_head _ _ (by simp [free]) replaced
  · exact show_head p playing settled tracks

theorem InPass.later (inPass : InPass transitionFn first calls k out p playing) (pending : Option Frame) :
    InPass transitionFn first calls (k + 1) out { p with pending } playing := by
  cases inPass with
  | first shown seen => exact .first shown seen
  | seam before seam earlier at_target shown started old fresh =>
    exact .seam before seam (Nat.le_succ_of_le earlier) at_target shown started old fresh

/-- A whole call. -/
theorem Tracks.perform (idle : LaserPoint) (lit : ∀ frame ∈ frames first calls, frame.points ≠ []) {call : Call}
    (at_k : calls[k]? = some call) (tracks : Tracks transitionFn first calls k out p playing)
    (start : out.length = written calls k) :
    ∃ playing, Tracks transitionFn first calls (k + 1) (out ++ (p.perform transitionFn idle call).1)
      (p.perform transitionFn idle call).2 playing := by
  cases call with
  | setPending frame =>
    obtain ⟨count, at_new⟩ := submitted_frame first calls k frame at_k
    have known := tracks.known
    have bound := submitted_le_frames first calls k
    obtain ⟨current, at_playing⟩ : ∃ frame, (frames first calls)[playing]? = some frame :=
      ⟨_, List.getElem?_eq_getElem (by omega)⟩
    have submits : p.submit frame = { p with pending := some frame } := by
      simp [Player.submit, tracks.shows, at_playing]
    refine ⟨playing, ?_⟩
    simp only [Player.perform, List.append_nil, submits]
    refine { inPass := tracks.inPass.later _, shows := tracks.shows, waits := ?_, known := by omega, left := tracks.left }
    rw [if_neg (by omega), count, Nat.add_sub_cancel, at_new]
  | fillChunk buffer maxPoints pps =>
    have size := written_succ calls k _ at_k
    have kept := feed_follows (Player.next transitionFn idle)
      (fun shown q => shown.length ≤ written calls (k + 1) →
        written calls k ≤ shown.length ∧ ∃ playing, Tracks transitionFn first calls k shown q playing)
      (Call.rates (.fillChunk buffer maxPoints pps)) (by
        intro rate member shown q before room
        obtain rfl : rate = pps := List.eq_of_mem_replicate member
        rw [List.length_append, List.length_singleton] at room ⊢
        obtain ⟨within, playing, tracks⟩ := before (by omega)
        exact ⟨by omega, tracks.next idle lit at_k within (by omega)⟩)
      out p (fun _ => ⟨by omega, playing, tracks⟩)
    obtain ⟨-, playing, after⟩ := kept (by
      rw [List.length_append, feed_length, Call.rates_length]
      omega)
    have same := submitted_fill calls k buffer maxPoints pps at_k
    refine ⟨playing, { inPass := after.inPass.later _, shows := after.shows, waits := ?_,
                       known := by rw [same]; exact after.known, left := after.left }⟩
    rw [same]
    exact after.waits

/-- The run up to any call. -/
theorem tracks_take (idle : LaserPoint) (lit : ∀ frame ∈ frames first calls, frame.points ≠ []) (p : Player)
    (start : Tracks transitionFn first calls 0 [] p 0) (k : Nat) (bound : k ≤ calls.length) :
    let run := feed (Player.perform transitionFn idle) (calls.take k) p
    run.1.flatten.length = written calls k ∧ ∃ playing, Tracks transitionFn first calls k run.1.flatten run.2 playing := by
  induction k with
  | zero => exact ⟨by simp [written], 0, by simpa using start⟩
  | succ k ih =>
    obtain ⟨size, playing, tracks⟩ := ih (by omega)
    obtain ⟨call, at_k⟩ : ∃ call, calls[k]? = some call := ⟨_, List.getElem?_eq_getElem (by omega)⟩
    obtain ⟨next, after⟩ := tracks.perform idle lit at_k size
    have whole : calls.take (k + 1) = calls.take k ++ [call] := by simp [List.take_add_one, at_k]
    simp only [whole, feed_append, feed_cons, feed_nil, List.flatten_append, List.flatten_singleton]
    refine ⟨?_, next, after⟩
    rw [List.length_append, size, written_succ calls k call at_k, Player.perform_length]

theorem Tracks.sequence (tracks : Tracks transitionFn first calls k out p playing)
    (atEnd : out.length = written calls calls.length) :
    ∃ points, Sequence transitionFn first calls (· ≠ []) points playing ∧ out <+: points := by
  have inPass := tracks.inPass
  cases inPass with
  | first shown _ => exact ⟨first.points, .first, ⟨_, shown⟩⟩
  | seam before seam _ at_target shown started old _ =>
    refine ⟨_, .seam before seam ?_ at_target, ⟨_, shown⟩⟩
    rcases Nat.lt_or_eq_of_le started with begun | at_seam
    · exact old begun
    · rintro - inserted - - later - resumes
      have := written_le_total calls (later + 1)
      have := resumes.2
      omega

end Passes

namespace PresentationEngine

theorem fresh_view (transitionFn : TransitionFn) (idle : LaserPoint) :
    (fresh transitionFn idle).view = { frame := none, pending := none, ahead := [], unseen := false } := rfl

/-- From the first submission on, and whatever the calls and their sizes are, the output is a prefix of a
sequence of complete passes over submitted frames. -/
theorem output_is_sequence (transitionFn : TransitionFn) (idle : LaserPoint) (before calls : List Call)
    (first : Frame) (fills : ∀ call ∈ before, call.frame? = none)
    (lit : ∀ frame ∈ Passes.frames first calls, frame.points ≠ []) :
    ∃ blanks shown after points playing,
      play (before ++ .setPending first :: calls) (fresh transitionFn idle) = some (blanks ++ [] :: shown, after) ∧
      blanks.length = before.length ∧ shown.map List.length = calls.map Call.size ∧
      Passes.Sequence transitionFn first calls (· ≠ []) points playing ∧ shown.flatten <+: points := by
  obtain ⟨all, after, played, -, -, same⟩ := play_view (before ++ .setPending first :: calls)
    (fresh transitionFn idle) (fresh_fifo transitionFn idle) (⟨rfl, rfl⟩ : Configured transitionFn idle _)
  have idles := (Player.feed_fills transitionFn idle before fills (fresh transitionFn idle).view).2
  rw [Player.feed_idle _ _ _ (fresh transitionFn idle).view (by simp [fresh_view]) rfl] at idles
  rw [feed_append, feed_cons, idles] at same
  set p : Player := { frame := some first, pending := none, ahead := first.points, unseen := false }
  have firstShown : Player.perform transitionFn idle (.setPending first) (fresh transitionFn idle).view = ([], p) := rfl
  simp only [firstShown, Prod.mk.injEq] at same
  have start : Passes.Tracks transitionFn first calls 0 [] p 0 :=
    { inPass := .first rfl rfl, shows := rfl, waits := rfl, known := by simp [Passes.submitted]
      left := lit first List.mem_cons_self }
  obtain ⟨size, playing, tracks⟩ := Passes.tracks_take idle lit p start calls.length le_rfl
  rw [List.take_length] at size tracks
  obtain ⟨points, sequence, shown⟩ := tracks.sequence size
  refine ⟨_, _, after, points, playing, by rw [played, ← same.1], by simp, ?_, sequence, shown⟩
  exact Player.feed_perform_lengths transitionFn idle calls p

theorem output_is_sequence_two_frames :
    let a := LaserPoint.blanked 0 0
    let b : LaserPoint := { a with x := 1, r := 1 }
    let calls := [Call.fillChunk [a, a] 2 30000, .setPending { points := [b, a] }, .fillChunk [a, a, a] 3 20000]
    ∃ blanks shown after points playing,
      play (.fillChunk [b] 1 30000 :: .setPending { points := [b] } :: calls)
        (fresh (fun _ _ _ => .transition [a]) a) = some (blanks ++ [] :: shown, after) ∧
      blanks.length = 1 ∧ shown.map List.length = [2, 0, 3] ∧
      Passes.Sequence (fun _ _ _ => .transition [a]) { points := [b] } calls (· ≠ []) points playing ∧
      shown.flatten <+: points :=
  output_is_sequence _ _ [.fillChunk [_] 1 30000]
    [.fillChunk [_, _] 2 30000, .setPending _, .fillChunk [_, _, _] 3 20000] _
    (by simp [Call.frame?]) (by decide)

/-- A self-loop without transition points is not replaced: composed at the end of a call, it is shown once
more although a newer frame waits. -/
theorem output_repeats_behind_empty_transition :
    let a := LaserPoint.blanked 0 0
    let b : LaserPoint := { a with x := 1, r := 1 }
    let calls := [Call.fillChunk [a] 1 30000, .setPending { points := [b] }, .fillChunk [a] 1 30000]
    ∃ after, play (.setPending { points := [a] } :: calls) (fresh (fun _ _ _ => .transition []) a) =
        some ([[], [a], [], [a]], after) ∧
      ¬ ∃ points playing,
        Passes.Sequence (fun _ _ _ => .transition []) { points := [a] } calls (fun _ => True) points playing ∧
        [a, a] <+: points := by
  intro a b calls
  refine ⟨_, rfl, ?_⟩
  rintro ⟨points, playing, sequence, shown⟩
  -- the only seam at position 1 that the sequence allows leads to the newer frame
  have opening : points = [a] ∧ playing = 0 ∨ [a, b] <+: points := by
    clear shown
    induction sequence with
    | first => exact .inl ⟨rfl, rfl⟩
    | @seam points source target k plan incoming _ planned notStale at_target ih =>
      rcases ih with ⟨rfl, rfl⟩ | more
      · have latest := planned.latest
        have plan_at := planned.planned
        match k with
        | 0 =>
          obtain rfl : target = 0 := by simpa [Passes.submitted] using latest
          obtain rfl : TransitionPlan.transition [] = plan := Option.some.inj plan_at
          have newest := notStale rfl [] rfl trivial 2 (by decide) (by simp [Passes.Resumes]; decide)
          exact absurd newest (by decide)
        | 1 => cases plan_at
        | 2 =>
          have count : Passes.submitted calls 2 = 2 := rfl
          obtain rfl : target = 1 := by omega
          obtain rfl : TransitionPlan.transition [] = plan := Option.some.inj plan_at
          obtain rfl : ({ points := [b] } : Frame) = incoming := Option.some.inj at_target
          exact .inr (List.prefix_refl _)
        | k + 3 => cases plan_at
      · exact .inr (more.trans (List.prefix_append _ _))
  rcases opening with ⟨rfl, -⟩ | opening
  · exact absurd shown.length_le (by decide)
  · have same := (List.prefix_of_prefix_length_le shown opening le_rfl).eq_of_length rfl
    exact absurd same (by decide)

end PresentationEngine

end LaserDac
