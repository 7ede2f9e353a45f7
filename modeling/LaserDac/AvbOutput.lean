import LaserDac.ResampleChunks

/-!
The samples of the AVB backend and the audio callback that plays them, over exact rationals. The spline overshoots its
points and its values are clamped; between two dark points it only undershoots, so the clamp leaves nothing of it.
-/

namespace LaserDac.Avb

/-- `f32::clamp` -/
def clamp (low high value : ℚ) : ℚ := if value < low then low else if high < value then high else value

/-- A point as it is resampled and played. -/
structure StreamPoint where
  x : ℚ
  y : ℚ
  r : ℚ
  g : ℚ
  b : ℚ
  i : ℚ
  deriving DecidableEq

instance : CatmullInterp StreamPoint where
  catmull s0 s1 s2 s3 t :=
    { x := clamp (-1) 1 (catmullRom s0.x s1.x s2.x s3.x t)
      y := clamp (-1) 1 (catmullRom s0.y s1.y s2.y s3.y t)
      r := clamp 0 1 (catmullRom s0.r s1.r s2.r s3.r t)
      g := clamp 0 1 (catmullRom s0.g s1.g s2.g s3.g t)
      b := clamp 0 1 (catmullRom s0.b s1.b s2.b s3.b t)
      i := clamp 0 1 (catmullRom s0.i s1.i s2.i s3.i t) }

/-- The channels that light up. -/
inductive Channel
  | r
  | g
  | b
  | i
  deriving DecidableEq

def StreamPoint.channel (p : StreamPoint) : Channel → ℚ
  | .r => p.r
  | .g => p.g
  | .b => p.b
  | .i => p.i

/-- `CHANNELS_XYRGB` -/
def channelsXyrgb : Nat := 5

/-- `CHANNELS_XYRGBI` -/
def channelsXyrgbi : Nat := 6

/-- What the callback works on: the queue of samples and the last position it has put out. -/
structure Playback where
  sink : AudioSinkState StreamPoint
  lastXy : ℚ × ℚ

/-- A frame as it was written, and the point that was popped for it. -/
structure AudioFrame (S : Type) where
  popped : Option StreamPoint
  slots : List S

/-- The point of the next frame: the one popped from the queue, or on an underrun a dark one where the last was. -/
def Playback.takePoint (playback : Playback) : Option StreamPoint × StreamPoint × Playback :=
  match playback.sink.queue with
  | point :: queue => (some point, point, { sink := { playback.sink with queue }, lastXy := (point.x, point.y) })
  | [] => (none, { x := playback.lastXy.1, y := playback.lastXy.2, r := 0, g := 0, b := 0, i := 0 }, playback)

def frameValues (shutterOpen : Bool) (length : Nat) (point : StreamPoint) : List ℚ :=
  if shutterOpen ∧ channelsXyrgb ≤ length then
    if channelsXyrgbi ≤ length then [-point.x, -point.y, point.r, point.g, point.b, point.i]
    else [-point.x, -point.y, point.r * point.i, point.g * point.i, point.b * point.i, 0]
  else [-point.x, -point.y, 0, 0, 0, 0]

section

variable {S : Type} (fromSample : ℚ → S)

def fillFrame (shutterOpen : Bool) (length : Nat) (playback : Playback) : AudioFrame S × Playback :=
  let (popped, point, playback) := playback.takePoint
  let values := frameValues shutterOpen length point
  ({ popped
     slots := (List.range length).map fun i => fromSample (if i < channelsXyrgbi then values.getD i 0 else 0) }, playback)

/-- Frame after frame; before each of them the backend may push points. -/
def fillFrames (shutterOpen : Bool) : List Nat → List (List StreamPoint) → Playback → List (AudioFrame S) × Playback
  | [], _, playback => ([], playback)
  | length :: lengths, pushes, playback =>
    let pushed := { playback with sink := (pushes.headD []).foldl AudioSinkState.pushPoint playback.sink }
    let (frame, playback) := fillFrame fromSample shutterOpen length pushed
    let (frames, playback) := fillFrames shutterOpen lengths pushes.tail playback
    (frame :: frames, playback)

/-- The lengths of the frames of a buffer; the last one may be cut short. -/
def frameLengths (dataLen outputChannels : Nat) : List Nat :=
  List.replicate (dataLen / outputChannels) outputChannels ++
    if dataLen % outputChannels = 0 then [] else [dataLen % outputChannels]

/-- Fill a buffer of the device. Frames of no channels are a panic. -/
def fillOutputBufferConverted (dataLen outputChannels : Nat) (shutterOpen : Bool) (pushes : List (List StreamPoint))
    (playback : Playback) : Option (List (AudioFrame S) × Playback) :=
  if outputChannels = 0 then none
  else some (fillFrames fromSample shutterOpen (frameLengths dataLen outputChannels) pushes playback)

end

/-! ### Darkness -/

theorem clamp_mem {low high : ℚ} (ordered : low ≤ high) (value : ℚ) :
    low ≤ clamp low high value ∧ clamp low high value ≤ high := by
  unfold clamp
  split
  · exact ⟨le_refl low, ordered⟩
  · split
    · exact ⟨ordered, le_refl high⟩
    · constructor <;> linarith

theorem clamp_of_nonpos {value : ℚ} (nonpos : value ≤ 0) : clamp 0 1 value = 0 := by
  unfold clamp
  split
  · rfl
  · rw [if_neg (by linarith)]
    linarith

theorem catmullRom_dark {s0 s3 t : ℚ} (before : 0 ≤ s0) (after : 0 ≤ s3) (nonneg : 0 ≤ t) (small : t ≤ 1) :
    catmullRom s0 0 0 s3 t ≤ 0 := by
  have factored : catmullRom s0 0 0 s3 t = -(t / 2 * (s0 * (1 - t) ^ 2 + s3 * (t * (1 - t)))) := by
    unfold catmullRom
    ring
  have inside : 0 ≤ t * (1 - t) := mul_nonneg nonneg (by linarith)
  rw [factored, neg_nonpos]
  positivity

theorem catmull_channel (s0 s1 s2 s3 : StreamPoint) (t : ℚ) (channel : Channel) :
    (CatmullInterp.catmull s0 s1 s2 s3 t : StreamPoint).channel channel =
      clamp 0 1 (catmullRom (s0.channel channel) (s1.channel channel) (s2.channel channel) (s3.channel channel) t) := by
  cases channel <;> rfl

theorem frameValues_dark {shutterOpen : Bool} {point : StreamPoint} (length : Nat)
    (dark : shutterOpen = false ∨ ∀ channel, point.channel channel = 0) {i : Nat} (colour : 2 ≤ i) :
    (frameValues shutterOpen length point).getD i 0 = 0 := by
  have values : ∃ x y, frameValues shutterOpen length point = [x, y, 0, 0, 0, 0] := by
    unfold frameValues
    rcases dark with closed | dark
    · exact ⟨_, _, if_neg (by simp [closed])⟩
    · have r : point.r = 0 := dark .r
      have g : point.g = 0 := dark .g
      have b : point.b = 0 := dark .b
      have i : point.i = 0 := dark .i
      refine ⟨-point.x, -point.y, ?_⟩
      simp [r, g, b, i]
  obtain ⟨x, y, values⟩ := values
  obtain ⟨k, rfl⟩ := Nat.exists_eq_add_of_le' colour
  rw [values]
  rcases k with _ | _ | _ | _ | k <;> simp

theorem takePoint_dark {playback : Playback} (underrun : playback.takePoint.1 = none) (channel : Channel) :
    playback.takePoint.2.1.channel channel = 0 := by
  unfold Playback.takePoint at underrun ⊢
  split at underrun
  · cases underrun
  · cases channel <;> rfl

theorem fillFrame_dark {S : Type} (fromSample : ℚ → S) (shutterOpen : Bool) (length : Nat) (playback : Playback)
    (dark : shutterOpen = false ∨ (fillFrame fromSample shutterOpen length playback).1.popped = none) {i : Nat}
    (colour : 2 ≤ i) {slot : S} (at_ : (fillFrame fromSample shutterOpen length playback).1.slots[i]? = some slot) :
    slot = fromSample 0 := by
  have values := frameValues_dark length (dark.imp id takePoint_dark) colour
  unfold fillFrame at at_
  rw [List.getElem?_map, Option.map_eq_some_iff] at at_
  obtain ⟨position, at_, rfl⟩ := at_
  obtain ⟨inside, rfl⟩ := List.getElem?_eq_some_iff.mp at_
  rw [List.getElem_range, values, ite_self]

theorem fillFrames_dark {S : Type} (fromSample : ℚ → S) (shutterOpen : Bool) (lengths : List Nat)
    (pushes : List (List StreamPoint)) (playback : Playback) :
    ∀ frame ∈ (fillFrames fromSample shutterOpen lengths pushes playback).1,
      shutterOpen = false ∨ frame.popped = none → ∀ i, 2 ≤ i → ∀ slot, frame.slots[i]? = some slot →
        slot = fromSample 0 := by
  induction lengths generalizing pushes playback with
  | nil => exact fun frame among => absurd among List.not_mem_nil
  | cons length lengths ih =>
    intro frame among dark i colour slot at_
    rcases List.mem_cons.mp among with rfl | later
    · exact fillFrame_dark fromSample shutterOpen length _ dark colour at_
    · exact ih _ _ frame later dark i colour slot at_

section

open StreamingResampler

variable {fromRate toRate : Nat} {inputs : List StreamPoint} {n arrived : Nat} {sample : StreamPoint}

theorem emitted_dark (emitted : Emitted fromRate toRate inputs n arrived sample) (rate : 1 ≤ toRate)
    {channel : Channel} (nonneg : ∀ point ∈ inputs, 0 ≤ point.channel channel) {first second : StreamPoint}
    (atFirst : inputs[sourceIndex fromRate toRate n]? = some first)
    (atSecond : inputs[sourceIndex fromRate toRate n + 1]? = some second) (dark : first.channel channel = 0)
    (dark' : second.channel channel = 0) : sample.channel channel = 0 := by
  obtain ⟨-, between, -, s0, s1, s2, s3, before, here, next, after, rfl⟩ := emitted
  obtain rfl : s1 = first := Option.some.inj (here.symm.trans atFirst)
  rw [catmull_channel, dark]
  refine clamp_of_nonpos ?_
  by_cases zero : sourceFraction fromRate toRate n = 0
  · rw [zero, catmullRom_zero]
  · have known := between zero
    rw [min_eq_left (by omega)] at next
    obtain rfl : s2 = second := Option.some.inj (next.symm.trans atSecond)
    rw [dark']
    exact catmullRom_dark (nonneg s0 (List.mem_of_getElem? before)) (nonneg s3 (List.mem_of_getElem? after))
      (sourceFraction_nonneg fromRate toRate n) (sourceFraction_le_one fromRate rate n)

theorem emitted_inRange (emitted : Emitted fromRate toRate inputs n arrived sample) :
    (-1 ≤ sample.x ∧ sample.x ≤ 1) ∧ (-1 ≤ sample.y ∧ sample.y ≤ 1) ∧
      ∀ channel, 0 ≤ sample.channel channel ∧ sample.channel channel ≤ 1 := by
  obtain ⟨-, -, -, s0, s1, s2, s3, -, -, -, -, rfl⟩ := emitted
  refine ⟨clamp_mem (by norm_num) _, clamp_mem (by norm_num) _, fun channel => ?_⟩
  rw [catmull_channel]
  exact clamp_mem (by norm_num) _

end

/-- The AVB output is dark where its input is, whatever the rates and the chunks, and where the shutter is closed or
nothing is queued, whatever the device. -/
theorem avb_dark (fromRate toRate : Nat) (rate : 1 ≤ fromRate) (rate' : 1 ≤ toRate) (chunks : List (List StreamPoint))
    (inRange : ∀ point ∈ chunks.flatten, ∀ channel, 0 ≤ point.channel channel ∧ point.channel channel ≤ 1) :
    (∃ (fresh r : StreamingResampler StreamPoint) (outputs : List (Nat × StreamPoint)),
      StreamingResampler.new fromRate toRate = some fresh ∧ fresh.feed chunks = some (outputs, r) ∧
      ∀ n arrived sample, outputs[n]? = some (arrived, sample) →
        (∀ channel first second,
          chunks.flatten[StreamingResampler.sourceIndex fromRate toRate n]? = some first →
          chunks.flatten[StreamingResampler.sourceIndex fromRate toRate n + 1]? = some second →
          first.channel channel = 0 → second.channel channel = 0 → sample.channel channel = 0) ∧
        (-1 ≤ sample.x ∧ sample.x ≤ 1) ∧ (-1 ≤ sample.y ∧ sample.y ≤ 1) ∧
        ∀ channel, 0 ≤ sample.channel channel ∧ sample.channel channel ≤ 1) ∧
    ∀ (S : Type) (fromSample : ℚ → S) (dataLen outputChannels : Nat) (shutterOpen : Bool)
      (pushes : List (List StreamPoint)) (playback playback' : Playback) (frames : List (AudioFrame S)),
      fillOutputBufferConverted fromSample dataLen outputChannels shutterOpen pushes playback =
        some (frames, playback') →
      ∀ frame ∈ frames, shutterOpen = false ∨ frame.popped = none →
        ∀ i, 2 ≤ i → ∀ slot, frame.slots[i]? = some slot → slot = fromSample 0 := by
  constructor
  · obtain ⟨fresh, created, heard, fromFresh, toFresh, silent⟩ := StreamingResampler.new_heard (T := StreamPoint) rate rate'
    obtain ⟨outputs, r, fed, -⟩ := StreamingResampler.feed_heard chunks heard
    refine ⟨fresh, r, outputs, created, fed, fun n arrived sample at_ => ?_⟩
    have emitted := StreamingResampler.feed_emitted heard silent chunks fed at_
    rw [fromFresh, toFresh] at emitted
    refine ⟨fun channel first second atFirst atSecond dark dark' => ?_, emitted_inRange emitted⟩
    exact emitted_dark emitted rate' (fun point among => (inRange point among channel).1) atFirst atSecond dark dark'
  · intro S fromSample dataLen outputChannels shutterOpen pushes playback playback' frames filled
    unfold fillOutputBufferConverted at filled
    split at filled
    · cases filled
    · obtain ⟨rfl, rfl⟩ := Prod.mk.inj (Option.some.inj filled)
      exact fillFrames_dark fromSample shutterOpen _ pushes playback

/-- A lit point between dark ones, at two samples a point. -/
theorem avb_dark_flash :
    ∃ (fresh r : StreamingResampler StreamPoint) (outputs : List (Nat × StreamPoint)),
      StreamingResampler.new 1 2 = some fresh ∧
      fresh.feed [[⟨0, 0, 0, 0, 0, 0⟩, ⟨0, 0, 0, 0, 0, 0⟩], [⟨0, 0, 1, 1, 1, 1⟩]] = some (outputs, r) ∧
      ∀ arrived sample, outputs[1]? = some (arrived, sample) → sample.channel .r = 0 := by
  obtain ⟨fresh, r, outputs, created, fed, dark⟩ :=
    (avb_dark 1 2 (by decide) (by decide) [[⟨0, 0, 0, 0, 0, 0⟩, ⟨0, 0, 0, 0, 0, 0⟩], [⟨0, 0, 1, 1, 1, 1⟩]] (by
      intro point among channel
      simp only [List.flatten_cons, List.flatten_nil, List.append_nil, List.cons_append, List.nil_append,
        List.mem_cons, List.not_mem_nil, or_false] at among
      rcases among with rfl | rfl | rfl <;> cases channel <;> norm_num [StreamPoint.channel])).1
  exact ⟨fresh, r, outputs, created, fed, fun arrived sample at_ =>
    (dark 1 arrived sample at_).1 .r _ _ rfl rfl rfl rfl⟩

end LaserDac.Avb
