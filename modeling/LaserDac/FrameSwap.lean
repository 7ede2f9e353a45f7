import LaserDac.Engine

/-!
Frame swap over whole histories of calls. What a hardware frame should be is said without the engine's cache: the
latest frame that was submitted is shown, behind the seam from the frame before it or from itself, cut to the
capacity.
-/

namespace LaserDac

/-- What the owner of a frame-swap engine does. -/
inductive SwapCall
  | setPending (frame : Frame)
  | compose (pps : Nat)
  deriving DecidableEq, Repr

/-- The frame that is shown and the one that comes next. -/
structure Swap where
  current : Option Frame
  pending : Option Frame
  deriving DecidableEq, Repr

/-- The seam in front of a hardware frame. -/
inductive Seam
  | change (outgoing incoming : Frame)
  | selfLoop (frame : Frame)
  deriving DecidableEq, Repr

namespace Seam

def frame : Seam → Frame
  | change _ incoming => incoming
  | selfLoop frame => frame

def outgoing : Seam → Frame
  | change outgoing _ => outgoing
  | selfLoop frame => frame

/-- What a coalesced seam leaves of a frame: a change shows the shared point as the last of the outgoing frame, a
self-loop as the first. A single point is kept. -/
def coalesced : Seam → List LaserPoint
  | change _ incoming => if incoming.points.length > 1 then incoming.points.tail else incoming.points
  | selfLoop frame => if frame.points.length > 1 then frame.points.dropLast else frame.points

/-- The transition points of a seam and the authored points behind it. -/
def parts (transitionFn : TransitionFn) (pps : Nat) (seam : Seam) : List LaserPoint × List LaserPoint :=
  match planSeam transitionFn { pps } (some seam.outgoing) seam.frame with
  | .transition points => (points, seam.frame.points)
  | .coalesce => ([], seam.coalesced)

end Seam

namespace Swap

def step (shown : Swap) : SwapCall → Swap
  | .setPending frame =>
    match shown.current with
    | none => { shown with current := some frame }
    | some _ => { shown with pending := some frame }
  | .compose _ =>
    match shown.pending with
    | some frame => { current := some frame, pending := none }
    | none => shown

/-- What is to be shown after these calls. -/
def after (calls : List SwapCall) : Swap := calls.foldl step { current := none, pending := none }

/-- The seam that the next hardware frame is composed with. -/
def seam (shown : Swap) : Option Seam :=
  match shown.current, shown.pending with
  | some current, some pending => some (.change current pending)
  | some current, none => some (.selfLoop current)
  | none, _ => none

end Swap

/-- Shorten a frame to the capacity: transition points first, then the authored tail. -/
def fit (cap : Nat) (transition authored : List LaserPoint) : List LaserPoint :=
  ((transition ++ authored).drop (min ((transition ++ authored).length - cap) transition.length)).take cap

def hardwareFrame (transitionFn : TransitionFn) (idle : LaserPoint) (cap pps : Nat) (seam : Seam) : List LaserPoint :=
  if seam.frame.isEmpty then [idle] else fit cap (seam.parts transitionFn pps).1 (seam.parts transitionFn pps).2

variable {cap : Nat} {current : Frame}

/-- A frame cut to the capacity is a suffix of the transition and a prefix of the authored points, and an authored
point is only cut when no transition point is left. -/
theorem fit_spec (positive : 1 ≤ cap) (transition authored : List LaserPoint) (some_ : authored ≠ []) :
    1 ≤ (fit cap transition authored).length ∧ (fit cap transition authored).length ≤ cap ∧
      ∃ left kept, fit cap transition authored = left ++ kept ∧ left <:+ transition ∧ kept <+: authored ∧
        (kept ≠ authored → left = []) := by
  have nonempty : 0 < authored.length := List.length_pos_iff.mpr some_
  have size : (fit cap transition authored).length = min cap (transition.length + authored.length) := by
    rw [fit, List.length_take, List.length_drop, List.length_append]
    omega
  refine ⟨by omega, by omega, ?_⟩
  rcases Nat.lt_or_ge cap authored.length with over_ | fits
  · refine ⟨[], authored.take cap, ?_, List.nil_suffix, List.take_prefix _ _, fun _ => rfl⟩
    have all : min ((transition ++ authored).length - cap) transition.length = transition.length := by
      rw [List.length_append]
      omega
    rw [fit, all, List.drop_left, List.nil_append]
  · refine ⟨transition.drop ((transition ++ authored).length - cap), authored, ?_, List.drop_suffix _ _,
      List.prefix_rfl, fun cut => absurd rfl cut⟩
    have some_ : min ((transition ++ authored).length - cap) transition.length =
        (transition ++ authored).length - cap := by
      rw [List.length_append]
      omega
    have whole : ((transition ++ authored).drop ((transition ++ authored).length - cap)).length ≤ cap := by
      rw [List.length_drop]
      omega
    have within : (transition ++ authored).length - cap ≤ transition.length := by
      rw [List.length_append]
      omega
    rw [fit, some_, List.take_of_length_le whole, List.drop_append_of_le_length within]

/-! ### The engine -/

variable (fn : TransitionFn) (blank : LaserPoint) {e : PresentationEngine} {shown : Swap}

namespace PresentationEngine

/-- An engine with a capacity and an idle point. -/
def forSwap (transitionFn : TransitionFn) (idle : LaserPoint) (cap : Nat) : PresentationEngine :=
  ((new transitionFn).setFrameCapacity (some cap)).setIdleBlankPoint idle

def swapStep (e : PresentationEngine) : SwapCall → PresentationEngine
  | .setPending frame => e.setPending frame
  | .compose pps => (e.composeHardwareFrame pps).2

/-- The engine after these calls. -/
def swapRun (e : PresentationEngine) (calls : List SwapCall) : PresentationEngine := calls.foldl swapStep e

/-- The engine holds the frames that are shown, and unless it is dirty, what it drew last is the self-loop of the
current frame at the remembered rate. -/
structure Tracks (fn : TransitionFn) (blank : LaserPoint) (cap : Nat) (e : PresentationEngine) (shown : Swap) :
    Prop where
  current : e.currentBase = shown.current
  pending : e.pendingBase = shown.pending
  transitionFn : e.transitionFn = fn
  capacity : e.frameCapacity = some cap
  idle : e.idleBlank = blank
  waits : shown.current = none → shown.pending = none
  cached : e.drawableDirty = false → ∀ pps, e.frameSwapComposedPps = some pps →
    e.drawable = (shown.current.map fun frame => hardwareFrame fn blank cap pps (.selfLoop frame)).getD []

theorem forSwap_tracks (cap : Nat) :
    Tracks fn blank cap (forSwap fn blank cap) { current := none, pending := none } where
  current := rfl
  pending := rfl
  transitionFn := rfl
  capacity := rfl
  idle := rfl
  waits := fun _ => rfl
  cached := by rintro ⟨⟩

theorem clampToCapacity_drawable {transition authored : List LaserPoint} (capacity : e.frameCapacity = some cap)
    (drawable : e.drawable = transition ++ authored) (transitionLen : e.frameSwapTransitionLen = transition.length) :
    e.clampToCapacity.drawable = fit cap transition authored := by
  rw [clampToCapacity, capacity]
  dsimp only
  split
  · rw [transitionLen, drawable, fit]
  · rename_i fits
    rw [drawable] at fits
    have none_ : min ((transition ++ authored).length - cap) transition.length = 0 := by omega
    rw [fit, none_, List.drop_zero, List.take_of_length_le (Nat.le_of_not_lt fits), drawable]

theorem clampToCapacity_frame (e : PresentationEngine) :
    ∃ drawable len, e.clampToCapacity = { e with drawable, frameSwapTransitionLen := len } := by
  unfold clampToCapacity
  split
  · exact ⟨_, _, rfl⟩
  · split
    · exact ⟨_, _, rfl⟩
    · exact ⟨_, _, rfl⟩

theorem setPending_tracks {fn : TransitionFn} {blank : LaserPoint} (tracks : Tracks fn blank cap e shown)
    (frame : Frame) : Tracks fn blank cap (e.setPending frame) (shown.step (.setPending frame)) := by
  have same := tracks.current
  cases current : shown.current with
  | none =>
    rw [current] at same
    simp only [setPending, same, Swap.step, current]
    exact {
      current := rfl, pending := tracks.pending, transitionFn := tracks.transitionFn, capacity := tracks.capacity
      idle := tracks.idle, waits := by rintro ⟨⟩, cached := by rintro ⟨⟩ }
  | some =>
    rw [current] at same
    have cached := tracks.cached
    rw [current] at cached
    simp only [setPending, same, Swap.step, current]
    exact {
      current := rfl, pending := rfl, transitionFn := tracks.transitionFn, capacity := tracks.capacity
      idle := tracks.idle, waits := by rintro ⟨⟩, cached }

theorem parts_authored (pps : Nat) (seam : Seam) :
    (seam.frame.isEmpty → seam.parts fn pps = ([], [])) ∧
      (seam.frame.isEmpty = false → (seam.parts fn pps).2 ≠ []) := by
  constructor
  · intro empty
    have points : seam.frame.points = [] := List.isEmpty_iff.mp empty
    have plan : planSeam fn { pps } (some seam.outgoing) seam.frame = .transition [] := by
      unfold planSeam
      rw [Frame.firstPoint, points]
      cases (some seam.outgoing).bind Frame.lastPoint <;> rfl
    rw [Seam.parts, plan]
    simp [points]
  · intro some_
    have points : seam.frame.points ≠ [] := by
      intro none_
      simp [Frame.isEmpty, none_] at some_
    unfold Seam.parts
    split
    · exact points
    · cases seam with
      | change outgoing incoming =>
        simp only [Seam.coalesced]
        split
        · rename_i many
          intro none_
          have := congrArg List.length none_
          simp at this
          omega
        · exact points
      | selfLoop frame =>
        simp only [Seam.coalesced]
        split
        · rename_i many
          intro none_
          have := congrArg List.length none_
          simp at this
          omega
        · exact points

/-- What composing a change does once the parts of the seam have been drawn. -/
def swapped (pps : Nat) (pending : Frame) (drawn : PresentationEngine) : PresentationEngine :=
  { clampToCapacity (if drawn.drawable.isEmpty then { drawn with drawable := [drawn.idleBlank] } else drawn) with
    frameSwapComposedPps := some pps, pendingBase := none, currentBase := some pending, drawableDirty := true }

theorem compose_swapped {pending : Frame} (currentBase : e.currentBase = some current)
    (pendingBase : e.pendingBase = some pending) (pps : Nat) :
    let parts := (Seam.change current pending).parts e.transitionFn pps
    let after := swapped pps pending
      { e with drawable := parts.1 ++ parts.2, frameSwapTransitionLen := parts.1.length }
    e.composeHardwareFrame pps = (after.drawable, after) := by
  simp only [composeHardwareFrame, pendingBase, currentBase, Seam.parts, Seam.frame, Seam.outgoing]
  cases planSeam e.transitionFn { pps } (some current) pending with
  | transition => rfl
  | coalesce =>
    have same : pending.points.drop (coalescedCursor pending.points) = (Seam.change current pending).coalesced := by
      simp only [Seam.coalesced, coalescedCursor]
      split <;> simp
    simp only [same, List.nil_append, List.length_nil]
    rfl

/-- Clamping one point leaves it. -/
theorem clampToCapacity_single {point : LaserPoint} (positive : 1 ≤ cap) (capacity : e.frameCapacity = some cap)
    (drawable : e.drawable = [point]) : e.clampToCapacity = e := by
  rw [clampToCapacity, capacity]
  dsimp only
  rw [if_neg (by rw [drawable]; exact Nat.not_lt.mpr positive)]

theorem swapped_drawable (positive : 1 ≤ cap) (capacity : e.frameCapacity = some cap)
    {transition authored : List LaserPoint} (pps : Nat) (pending : Frame)
    (drawable : e.drawable = transition ++ authored) (len : e.frameSwapTransitionLen = transition.length) :
    (swapped pps pending e).drawable =
      if transition = [] ∧ authored = [] then [e.idleBlank] else fit cap transition authored := by
  unfold swapped
  by_cases empty : transition = [] ∧ authored = []
  · obtain ⟨rfl, rfl⟩ := empty
    have none_ : e.drawable.isEmpty = true := by rw [drawable]; rfl
    simp only [none_, if_true, and_self]
    exact congrArg PresentationEngine.drawable
      (clampToCapacity_single (e := { e with drawable := [e.idleBlank] }) positive capacity rfl)
  · have some_ : e.drawable.isEmpty = false := by
      rw [drawable, Bool.eq_false_iff]
      intro none_
      exact empty (List.append_eq_nil_iff.mp (List.isEmpty_iff.mp none_))
    simp only [some_, if_neg empty, Bool.false_eq_true, if_false]
    exact clampToCapacity_drawable capacity drawable len

theorem swapped_config (pps : Nat) (pending : Frame) (e : PresentationEngine) :
    (swapped pps pending e).transitionFn = e.transitionFn ∧
      (swapped pps pending e).frameCapacity = e.frameCapacity ∧
      (swapped pps pending e).idleBlank = e.idleBlank := by
  unfold swapped
  split
  all_goals
    obtain ⟨drawable, len, eq⟩ := clampToCapacity_frame (e := _)
    rw [eq]
    exact ⟨rfl, rfl, rfl⟩

variable {fn}

variable {blank}

theorem composed_change (positive : 1 ≤ cap) (tracks : Tracks fn blank cap e shown) {pending : Frame}
    (shownEq : shown.current = some current) (pendingEq : shown.pending = some pending) (pps : Nat) :
    (e.composeHardwareFrame pps).1 = hardwareFrame fn blank cap pps (.change current pending) ∧
      Tracks fn blank cap (e.composeHardwareFrame pps).2 { current := some pending, pending := none } := by
  obtain rfl := tracks.transitionFn
  have composed := compose_swapped (tracks.current.trans shownEq) (tracks.pending.trans pendingEq) pps
  obtain ⟨empty, some_⟩ := parts_authored e.transitionFn pps (.change current pending)
  rw [hardwareFrame]
  generalize (Seam.change current pending).parts e.transitionFn pps = parts at composed empty some_ ⊢
  obtain ⟨drawn, drawnEq⟩ : ∃ drawn : PresentationEngine,
      drawn = { e with drawable := parts.1 ++ parts.2, frameSwapTransitionLen := parts.1.length } := ⟨_, rfl⟩
  have drawable := swapped_drawable (e := drawn) positive (by rw [drawnEq]; exact tracks.capacity) pps pending
    (by rw [drawnEq]) (by rw [drawnEq])
  have idle : drawn.idleBlank = blank := by
    rw [drawnEq]
    exact tracks.idle
  obtain ⟨sameFn, sameCapacity, sameIdle⟩ := drawn.swapped_config pps pending
  dsimp only at composed
  rw [← drawnEq] at composed
  rw [composed]
  constructor
  · rw [drawable, idle]
    cases eq : (Seam.change current pending).frame.isEmpty with
    | true =>
      obtain rfl := empty eq
      simp
    | false =>
      rw [if_neg fun none_ => some_ eq none_.2]
      simp
  · exact {
      current := rfl
      pending := rfl
      transitionFn := by rw [sameFn, drawnEq]
      capacity := by rw [sameCapacity, drawnEq]; exact tracks.capacity
      idle := sameIdle.trans idle
      waits := by rintro ⟨⟩
      cached := by rintro ⟨⟩ }

theorem buildSelfLoopDrawable_parts (fn : TransitionFn) (pps : Nat) {frame : Frame} (some_ : frame.isEmpty = false) :
    let parts := (Seam.selfLoop frame).parts fn pps
    buildSelfLoopDrawable fn frame.points { pps } = (parts.1 ++ parts.2, parts.1.length) := by
  have points : frame.points ≠ [] := by
    intro none_
    simp [Frame.isEmpty, none_] at some_
  obtain ⟨last, lastEq⟩ : ∃ last, frame.points.getLast? = some last := by
    rwa [← Option.isSome_iff_exists, List.getLast?_isSome]
  obtain ⟨first, firstEq⟩ : ∃ first, frame.points.head? = some first := by
    rwa [← Option.isSome_iff_exists, List.isSome_head?]
  have plan : planSeam fn { pps } (some frame) frame = fn last first { pps } := by
    simp [planSeam, Frame.lastPoint, Frame.firstPoint, lastEq, firstEq]
  simp only [buildSelfLoopDrawable, lastEq, firstEq, Seam.parts, Seam.outgoing, Seam.frame, plan]
  cases fn last first { pps } with
  | transition => rfl
  | coalesce =>
    simp only [Seam.coalesced, List.nil_append, List.length_nil]
    split
    · rw [List.dropLast_eq_take]
    · rw [List.take_length]

theorem refreshed_selfLoop (tracks : Tracks fn blank cap e shown) (pps : Nat) :
    (e.refreshDrawableForFrameSwap { pps }).drawable =
        (shown.current.map fun frame => hardwareFrame fn blank cap pps (.selfLoop frame)).getD [] ∧
      (e.refreshDrawableForFrameSwap { pps }).frameSwapComposedPps = some pps ∧
      Tracks fn blank cap (e.refreshDrawableForFrameSwap { pps }) shown := by
  obtain ⟨after, afterEq⟩ : ∃ after, after = e.refreshDrawableForFrameSwap { pps } := ⟨_, rfl⟩
  -- what is drawn decides; the other fields are the same in every case
  suffices drawn : after.drawable =
        (shown.current.map fun frame => hardwareFrame fn blank cap pps (.selfLoop frame)).getD [] ∧
      ∃ drawable len, after = { e with
        drawable, drawableDirty := false, frameSwapTransitionLen := len, frameSwapComposedPps := some pps } by
    obtain ⟨drawable, list, len, eq⟩ := drawn
    rw [← afterEq]
    refine ⟨drawable, by rw [eq], ?_⟩
    exact {
      current := by rw [eq]; exact tracks.current
      pending := by rw [eq]; exact tracks.pending
      transitionFn := by rw [eq]; exact tracks.transitionFn
      capacity := by rw [eq]; exact tracks.capacity
      idle := by rw [eq]; exact tracks.idle
      waits := tracks.waits
      cached := fun _ rate composed => by
        have same : pps = rate := by simpa [eq] using composed
        rw [← same]
        exact drawable }
  have current := tracks.current
  rw [afterEq, refreshDrawableForFrameSwap]
  dsimp only
  cases shownEq : shown.current with
  | none =>
    rw [shownEq] at current
    simp only [current]
    exact ⟨rfl, _, _, rfl⟩
  | some frame =>
    rw [shownEq] at current
    simp only [current, Option.map_some, Option.getD_some]
    rw [hardwareFrame]
    cases empty : frame.isEmpty with
    | true =>
      simp only [if_true, Seam.frame, empty]
      exact ⟨by rw [tracks.idle], _, _, rfl⟩
    | false =>
      simp only [Bool.false_eq_true, if_false, Seam.frame, empty]
      have parts := buildSelfLoopDrawable_parts fn pps empty
      rw [← tracks.transitionFn] at parts ⊢
      generalize (Seam.selfLoop frame).parts e.transitionFn pps = both at parts ⊢
      dsimp only at parts
      obtain ⟨drawn, drawnEq⟩ : ∃ drawn : PresentationEngine, drawn = { e with
          drawable := both.1 ++ both.2, drawableDirty := false, frameSwapTransitionLen := both.1.length
          frameSwapComposedPps := some pps } := ⟨_, rfl⟩
      have fits := clampToCapacity_drawable (e := drawn) (by rw [drawnEq]; exact tracks.capacity)
        (by rw [drawnEq]) (by rw [drawnEq])
      obtain ⟨drawable, len, rest⟩ := drawn.clampToCapacity_frame
      rw [parts]
      simp only [← current, ← drawnEq]
      refine ⟨fits, drawable, len, ?_⟩
      rw [rest, drawnEq]

theorem compose_tracked (positive : 1 ≤ cap) (tracks : Tracks fn blank cap e shown) (pps : Nat) :
    (e.composeHardwareFrame pps).1 = (shown.seam.map (hardwareFrame fn blank cap pps)).getD [] ∧
      Tracks fn blank cap (e.composeHardwareFrame pps).2 (shown.step (.compose pps)) := by
  cases pending : shown.pending with
  | some =>
    obtain ⟨current, shownEq⟩ : ∃ current, shown.current = some current := by
      cases eq : shown.current with
      | none => simp [tracks.waits eq] at pending
      | some current => exact ⟨current, rfl⟩
    have composed := composed_change positive tracks shownEq pending pps
    simpa [Swap.step, Swap.seam, shownEq, pending] using composed
  | none =>
    obtain ⟨drawable, composedPps, refreshed⟩ := refreshed_selfLoop tracks pps
    have seam : (shown.seam.map (hardwareFrame fn blank cap pps)).getD [] =
        (shown.current.map fun frame => hardwareFrame fn blank cap pps (.selfLoop frame)).getD [] := by
      cases eq : shown.current <;> simp [Swap.seam, eq, pending]
    have step : shown.step (.compose pps) = shown := by simp [Swap.step, pending]
    rw [seam, step, composeHardwareFrame, tracks.pending, pending]
    dsimp only
    split
    · exact ⟨drawable, refreshed⟩
    · rename_i clean
      simp only [Bool.or_eq_true, bne_iff_ne, ne_eq, not_or, not_not, Bool.not_eq_true] at clean
      exact ⟨tracks.cached clean.1 pps clean.2, tracks⟩

variable (blank)

variable (fn)

theorem run_tracks (positive : 1 ≤ cap) (calls : List SwapCall) :
    Tracks fn blank cap ((forSwap fn blank cap).swapRun calls) (Swap.after calls) := by
  suffices general : ∀ e shown, Tracks fn blank cap e shown →
      Tracks fn blank cap (swapRun e calls) (calls.foldl Swap.step shown) by
    exact general _ _ (forSwap_tracks fn blank cap)
  induction calls with
  | nil => exact fun _ _ tracks => tracks
  | cons call calls ih =>
    intro e shown tracks
    refine ih _ _ ?_
    cases call with
    | setPending frame => exact setPending_tracks tracks frame
    | compose pps => exact (compose_tracked positive tracks pps).2

end PresentationEngine

namespace Swap

theorem foldl_submitted (submitted : List Frame) {last : Frame} (currentEq : shown.current = some current)
    (latest : submitted.getLast? = some last) :
    (submitted.map SwapCall.setPending).foldl step shown = { current := some current, pending := some last } := by
  induction submitted generalizing shown with
  | nil => simp at latest
  | cons frame submitted ih =>
    have first : shown.step (.setPending frame) = { current := some current, pending := some frame } := by
      simp [step, currentEq]
    rw [List.map_cons, List.foldl_cons, first]
    cases submitted with
    | nil =>
      obtain rfl : frame = last := by simpa using latest
      rfl
    | cons => exact ih rfl (by simpa using latest)

theorem foldl_composed (rates : List Nat) (pending : shown.pending = none) :
    (rates.map SwapCall.compose).foldl step shown = shown := by
  induction rates with
  | nil => rfl
  | cons pps rates ih =>
    have same : shown.step (.compose pps) = shown := by simp [step, pending]
    rw [List.map_cons, List.foldl_cons, same]
    exact ih

theorem foldl_current (calls : List SwapCall) (showing : shown.current.isSome) :
    (calls.foldl step shown).current.isSome := by
  induction calls generalizing shown with
  | nil => exact showing
  | cons call calls ih =>
    refine ih ?_
    obtain ⟨current, eq⟩ := Option.isSome_iff_exists.mp showing
    cases call with
    | setPending => simp [step, eq]
    | compose =>
      simp only [step]
      split
      · rfl
      · exact showing

theorem seam_isSome {calls : List SwapCall} {frame : Frame} (submitted : SwapCall.setPending frame ∈ calls) :
    (after calls).seam.isSome := by
  obtain ⟨before, rest, rfl⟩ := List.append_of_mem submitted
  have showing : ((after before).step (.setPending frame)).current.isSome := by
    cases eq : (after before).current <;> simp [step, eq]
  have still : (after (before ++ .setPending frame :: rest)).current.isSome := by
    rw [after, List.foldl_append, List.foldl_cons]
    exact foldl_current rest showing
  obtain ⟨current, eq⟩ := Option.isSome_iff_exists.mp still
  unfold seam
  rw [eq]
  cases (after (before ++ .setPending frame :: rest)).pending <;> rfl

end Swap

/-- What a hardware frame is: the idle point for an empty frame; otherwise what the capacity leaves of the transition
and the authored points of the seam, at the rate of the call. -/
structure Composed (fn : TransitionFn) (blank : LaserPoint) (cap pps : Nat) (seam : Seam) (frame : List LaserPoint) :
    Prop where
  some_ : 1 ≤ frame.length
  fits : frame.length ≤ cap
  idle : seam.frame.isEmpty → frame = [blank]
  parts : seam.frame.isEmpty = false → ∃ left kept, frame = left ++ kept ∧ left <:+ (seam.parts fn pps).1 ∧
    kept <+: (seam.parts fn pps).2 ∧ (kept ≠ (seam.parts fn pps).2 → left = [])

theorem hardwareFrame_composed (positive : 1 ≤ cap) (pps : Nat) (seam : Seam) :
    Composed fn blank cap pps seam (hardwareFrame fn blank cap pps seam) := by
  unfold hardwareFrame
  cases empty : seam.frame.isEmpty with
  | true =>
    rw [if_pos rfl]
    exact ⟨le_rfl, positive, fun _ => rfl, by simp [empty]⟩
  | false =>
    obtain ⟨some_, fits, parts⟩ := fit_spec positive (seam.parts fn pps).1 (seam.parts fn pps).2
      ((PresentationEngine.parts_authored fn pps seam).2 empty)
    rw [if_neg (by simp)]
    exact ⟨some_, fits, by simp [empty], fun _ => parts⟩

/-- Every hardware frame of every history of calls: what it is made of, and which seam it shows. A frame that was
submitted while another was shown comes behind the seam from that one, and from then on behind its own. -/
theorem frame_swap_composition (fn : TransitionFn) (blank : LaserPoint) {cap : Nat} (positive : 1 ≤ cap)
    (calls : List SwapCall) :
    (∀ pps seam, (Swap.after calls).seam = some seam →
      Composed fn blank cap pps seam
        (((PresentationEngine.forSwap fn blank cap).swapRun calls).composeHardwareFrame pps).1) ∧
    (∀ frame, SwapCall.setPending frame ∈ calls → (Swap.after calls).seam.isSome) ∧
    ∀ current, (Swap.after calls).current = some current →
      ∀ (submitted : List Frame) (latest : Frame), submitted.getLast? = some latest →
        (Swap.after (calls ++ submitted.map SwapCall.setPending)).seam = some (.change current latest) ∧
        ∀ (pps : Nat) (rates : List Nat), (Swap.after (calls ++ submitted.map SwapCall.setPending ++
          .compose pps :: rates.map SwapCall.compose)).seam = some (.selfLoop latest) := by
  refine ⟨fun pps seam due => ?_, fun frame submitted => Swap.seam_isSome submitted,
    fun current currentEq submitted latest last => ?_⟩
  · have tracks := PresentationEngine.run_tracks fn blank positive calls
    rw [(PresentationEngine.compose_tracked positive tracks pps).1, due]
    exact hardwareFrame_composed fn blank positive pps seam
  · have pending := Swap.foldl_submitted submitted currentEq last
    refine ⟨?_, fun pps rates => ?_⟩
    · rw [Swap.after, List.foldl_append]
      exact congrArg Swap.seam pending
    · rw [Swap.after, List.foldl_append, List.foldl_append, List.foldl_cons]
      have promoted : ((submitted.map SwapCall.setPending).foldl Swap.step (Swap.after calls)).step (.compose pps) =
          { current := some latest, pending := none } := by
        rw [pending]
        rfl
      have still : (rates.map SwapCall.compose).foldl Swap.step { current := some latest, pending := none } =
          { current := some latest, pending := none } := Swap.foldl_composed rates rfl
      exact congrArg Swap.seam ((congrArg (List.foldl Swap.step · _) promoted).trans still)

theorem frame_swap_composition_two_frames :
    Composed (fun _ _ _ => .transition [LaserPoint.blanked 1 1]) (LaserPoint.blanked 0 0) 2 100
      (.change ⟨[LaserPoint.blanked 2 2]⟩ ⟨[LaserPoint.blanked 3 3, LaserPoint.blanked 4 4]⟩)
      (((PresentationEngine.forSwap (fun _ _ _ => .transition [LaserPoint.blanked 1 1]) (LaserPoint.blanked 0 0) 2).swapRun
        [.setPending ⟨[LaserPoint.blanked 2 2]⟩, .compose 50,
          .setPending ⟨[LaserPoint.blanked 3 3, LaserPoint.blanked 4 4]⟩]).composeHardwareFrame 100).1 :=
  (frame_swap_composition _ _ (by decide) _).1 100 _ rfl

end LaserDac
