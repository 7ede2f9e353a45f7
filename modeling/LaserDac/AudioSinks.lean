import LaserDac.FifoRequests
import LaserDac.Resample

/-!
The audio-clocked backends, AVB and oscilloscope. Both resample the points they are given to the rate of an audio
device and refuse a chunk whose samples do not fit into their queue, while the adapter sizes its chunks in points, by
the target alone.
-/

namespace LaserDac

/-- The queue between the backend and the audio callback. -/
structure AudioSinkState (P : Type) where
  queue : List P
  capacity : Nat
  sampleRate : Nat
  deriving DecidableEq, Repr

namespace AudioSinkState

variable {P : Type}

def new (capacity sampleRate : Nat) : AudioSinkState P := { queue := [], capacity, sampleRate }

variable (sink : AudioSinkState P)

def remainingCapacity : Nat := sink.capacity - sink.queue.length

/-- An empty chunk fits even into a full queue. -/
def hasCapacityFor (count : Nat) : Bool := count = 0 || sink.remainingCapacity ≥ count

def queuedPoints : Nat := sink.queue.length

def pushPoint (point : P) : AudioSinkState P :=
  if sink.queue.length < sink.capacity then { sink with queue := sink.queue ++ [point] } else sink

end AudioSinkState

/-- The fill in points of a rate, from the depth of a queue of audio samples; nothing without a queue. -/
def RuntimeAuthorityEstimator.estimatedFullness {P : Type} (source : Option (AudioSinkState P)) (pps : Nat) : Nat :=
  match source with
  | none => 0
  | some sink => if sink.sampleRate = 0 then sink.queuedPoints else sink.queuedPoints * pps / sink.sampleRate

variable {sampleRate pps : Nat}

section

variable {P : Type} [CatmullInterp P]

def pushChunkResampled (sink : AudioSinkState P) (samples : List P) (resampler : StreamingResampler P) :
    Option (AudioSinkState P × StreamingResampler P) := do
  let (outputs, resampler) ← resampler.process samples
  return (outputs.foldl AudioSinkState.pushPoint sink, resampler)

/-- What the two backends do once they are known to be connected: phase the resampler, reserve, resample. A panic
is `none`. -/
def writeResampled (convert : LaserPoint → P) (sampleRate pps : Nat) (points : List LaserPoint)
    (sink : AudioSinkState P) (resampler : StreamingResampler P) :
    Option (WriteOutcome × AudioSinkState P × StreamingResampler P) := do
  let resampler ← resampler.setRates (max pps 1) sampleRate
  let outputLen := resampler.pendingOutputCount points.length
  if sink.hasCapacityFor outputLen then
    let (sink, resampler) ← pushChunkResampled sink (points.map convert) resampler
    return (.written, sink, resampler)
  else return (.wouldBlock, sink, resampler)

namespace Avb

/-- `QUEUE_DURATION_MS` -/
def queueDurationMs : Nat := 200

/-- The samples that a queue of the given duration holds. -/
def queueCapacityForRate (sampleRate : Nat) : Nat := sampleRate * queueDurationMs / 1000

def defaultCapabilities : DacCapabilities where
  ppsMin := 1
  ppsMax := 100000
  maxPointsPerChunk := 4096
  outputModel := .networkFifo

structure RuntimeState (P : Type) where
  sink : AudioSinkState P
  streamFailed : Bool

def RuntimeState.new (sampleRate : Nat) : RuntimeState P where
  sink := .new (queueCapacityForRate sampleRate) sampleRate
  streamFailed := false

end Avb

/-- What a write to an AVB device goes by. -/
structure AvbBackend (P : Type) where
  runtime : Option (Avb.RuntimeState P)
  caps : DacCapabilities
  resampler : StreamingResampler P
  warnedPpsExceedsRate : Bool

namespace AvbBackend

/-- The device imposes no limit. -/
def targetBufferCeiling (_ : AvbBackend P) : Option Nat := none

def estimator (b : AvbBackend P) (pps : Nat) : Nat :=
  RuntimeAuthorityEstimator.estimatedFullness (b.runtime.map (·.sink)) pps

/-- A chunk is taken whole or not at all; `none` is a panic. -/
def tryWritePoints (convert : LaserPoint → P) (pps : Nat) (points : List LaserPoint) (b : AvbBackend P) :
    Option (Except Error WriteOutcome × AvbBackend P) :=
  match b.runtime with
  | none => some (.error (.disconnected "Not connected"), b)
  | some runtime =>
    if runtime.streamFailed then some (.error (.disconnected "AVB output stream failed"), b)
    else if points.isEmpty then some (.ok .written, b)
    else do
      let warned := b.warnedPpsExceedsRate || decide (pps > runtime.sink.sampleRate)
      let (outcome, sink, resampler) ←
        writeResampled convert runtime.sink.sampleRate pps points runtime.sink b.resampler
      return (.ok outcome,
        { b with runtime := some { runtime with sink }, resampler, warnedPpsExceedsRate := warned })

end AvbBackend

namespace Oscilloscope

/-- About 100 ms of audio. -/
def bufferCapacity (sampleRate : Nat) : Nat := max (sampleRate / 10) 4096

def capabilities (sampleRate : Nat) : DacCapabilities where
  ppsMin := 1
  ppsMax := 100000
  maxPointsPerChunk := bufferCapacity sampleRate
  outputModel := .networkFifo

structure RuntimeState (P : Type) where
  sink : AudioSinkState P
  connected : Bool

end Oscilloscope

/-- What a write to the oscilloscope goes by. -/
structure OscilloscopeBackend (P : Type) where
  sampleRate : Nat
  caps : DacCapabilities
  runtime : Option (Oscilloscope.RuntimeState P)
  resampler : StreamingResampler P

namespace OscilloscopeBackend

/-- The device imposes no limit. -/
def targetBufferCeiling (_ : OscilloscopeBackend P) : Option Nat := none

def estimator (b : OscilloscopeBackend P) (pps : Nat) : Nat :=
  RuntimeAuthorityEstimator.estimatedFullness (b.runtime.map (·.sink)) pps

def tryWritePoints (convert : LaserPoint → P) (pps : Nat) (points : List LaserPoint) (b : OscilloscopeBackend P) :
    Option (Except Error WriteOutcome × OscilloscopeBackend P) :=
  match b.runtime with
  | none => some (.error (.disconnected "Not connected"), b)
  | some runtime =>
    if runtime.connected = false then some (.error (.disconnected "Not connected"), b)
    else if points.isEmpty then some (.ok .written, b)
    else do
      let (outcome, sink, resampler) ← writeResampled convert b.sampleRate pps points runtime.sink b.resampler
      return (.ok outcome, { b with runtime := some { runtime with sink }, resampler })

end OscilloscopeBackend

/-! ### Acceptance -/

/-- The samples that the first points of a stream come to. -/
def samplesOf (sampleRate pps points : Nat) : Nat := if points = 0 then 0 else (points - 1) * sampleRate / pps + 1

/-- The samples that the points add to those of the carried ones fit into a queue. -/
def ChunkFits (capacity sampleRate pps carried points : Nat) : Prop :=
  samplesOf sampleRate pps (carried + points) ≤ samplesOf sampleRate pps carried + capacity

instance (capacity sampleRate pps carried points : Nat) : Decidable (ChunkFits capacity sampleRate pps carried points) :=
  inferInstanceAs (Decidable (_ ≤ _))

theorem ChunkFits.shorter {capacity carried points fewer : Nat} (fits : ChunkFits capacity sampleRate pps carried points)
    (shorter : fewer ≤ points) : ChunkFits capacity sampleRate pps carried fewer := by
  refine Nat.le_trans ?_ fits
  unfold samplesOf
  split
  · exact Nat.zero_le _
  · rw [if_neg (by omega)]
    exact Nat.succ_le_succ (Nat.div_le_div_right (Nat.mul_le_mul_right _ (by omega)))

variable (convert : LaserPoint → P)

theorem writeResampled_written (sink : AudioSinkState P) (points : List LaserPoint) {resampler : StreamingResampler P}
    (sound : resampler.Sound) (audible : 0 < sampleRate) (rate : 0 < pps) (empty : sink.queue = []) :
    ∃ outcome sink' resampler', writeResampled convert sampleRate pps points sink resampler =
        some (outcome, sink', resampler') ∧
      (outcome = .written ↔
        ChunkFits sink.capacity sampleRate pps (resampler.carried pps sampleRate) points.length) := by
  obtain ⟨phased, changed, sound, fromRate, toRate, nIn⟩ :=
    StreamingResampler.setRates_sound sound (max pps 1) sampleRate (by omega) audible
  rw [Nat.max_eq_left rate] at fromRate nIn
  have room : sink.hasCapacityFor (phased.pendingOutputCount points.length) = true ↔
      ChunkFits sink.capacity sampleRate pps (resampler.carried pps sampleRate) points.length := by
    have emittable (count : Nat) : phased.totalEmittable count = samplesOf sampleRate pps count := by
      rw [StreamingResampler.totalEmittable, fromRate, toRate]
      rfl
    rw [StreamingResampler.pendingOutputCount, sound.counted, emittable, emittable, nIn]
    simp only [AudioSinkState.hasCapacityFor, AudioSinkState.remainingCapacity, empty, List.length_nil, Nat.sub_zero,
      Bool.or_eq_true, decide_eq_true_eq, ChunkFits]
    omega
  obtain ⟨outputs, after, processed, -⟩ := StreamingResampler.process_sound (points.map convert) sound
  by_cases fits : ChunkFits sink.capacity sampleRate pps (resampler.carried pps sampleRate) points.length
  · refine ⟨.written, outputs.foldl AudioSinkState.pushPoint sink, after, ?_, iff_of_true rfl fits⟩
    simp [writeResampled, changed, room.mpr fits, pushChunkResampled, processed]
  · refine ⟨.wouldBlock, sink, phased, ?_, iff_of_false (by decide) fits⟩
    simp [writeResampled, changed, mt room.mp fits]

/-- Connected, with nothing queued, in some phase. -/
structure AvbBackend.Idle (sampleRate : Nat) (b : AvbBackend P) : Prop where
  runtime : b.runtime = some (.new sampleRate)
  caps : b.caps = Avb.defaultCapabilities
  sound : b.resampler.Sound

/-- Connected at this rate, with an empty queue. -/
structure OscilloscopeBackend.Idle (sampleRate : Nat) (b : OscilloscopeBackend P) : Prop where
  runtime : b.runtime = some { sink := .new (Oscilloscope.bufferCapacity sampleRate) sampleRate, connected := true }
  rate : b.sampleRate = sampleRate
  caps : b.caps = Oscilloscope.capabilities sampleRate
  sound : b.resampler.Sound

theorem AvbBackend.tryWritePoints_written {b : AvbBackend P} (idle : b.Idle sampleRate) (audible : 0 < sampleRate)
    (rate : 0 < pps) (points : List LaserPoint) :
    (∃ b', b.tryWritePoints convert pps points = some (.ok .written, b')) ↔ ChunkFits
      (Avb.queueCapacityForRate sampleRate) sampleRate pps (b.resampler.carried pps sampleRate) points.length := by
  rw [tryWritePoints, idle.runtime]
  by_cases none : points = []
  · exact iff_of_true ⟨b, by simp [none, Avb.RuntimeState.new]⟩ (by simp [none, ChunkFits])
  · obtain ⟨outcome, sink, resampler, written, exact_⟩ := writeResampled_written convert
      (.new (Avb.queueCapacityForRate sampleRate) sampleRate) points idle.sound audible rate rfl
    refine Iff.trans ?_ exact_
    simp only [Avb.RuntimeState.new, Bool.false_eq_true, if_false, List.isEmpty_iff, none]
    change (∃ b', (writeResampled convert sampleRate pps points _ _).bind _ = _) ↔ _
    rw [written]
    simp

theorem OscilloscopeBackend.tryWritePoints_written {b : OscilloscopeBackend P} (idle : b.Idle sampleRate)
    (audible : 0 < sampleRate) (rate : 0 < pps) (points : List LaserPoint) :
    (∃ b', b.tryWritePoints convert pps points = some (.ok .written, b')) ↔ ChunkFits
      (Oscilloscope.bufferCapacity sampleRate) sampleRate pps (b.resampler.carried pps sampleRate) points.length := by
  rw [tryWritePoints, idle.runtime]
  by_cases none : points = []
  · exact iff_of_true ⟨b, by simp [none]⟩ (by simp [none, ChunkFits])
  · obtain ⟨outcome, sink, resampler, written, exact_⟩ := writeResampled_written convert
      (.new (Oscilloscope.bufferCapacity sampleRate) sampleRate) points idle.sound audible rate rfl
    refine Iff.trans ?_ exact_
    simp only [Bool.true_eq_false, if_false, List.isEmpty_iff, none, idle.rate]
    change (∃ b', (writeResampled convert sampleRate pps points _ _).bind _ = _) ↔ _
    rw [written]
    simp

end

/-- What an empty device is asked for. -/
def requestedPoints (targetBuffer pps maxPoints : Nat) : Nat :=
  min ((targetBuffer * pps + nanosPerSecond - 1) / nanosPerSecond) maxPoints

/-- So many points are asked for; a chunk of that size is written exactly under the condition, and under it every
shorter one is too. -/
structure Served (request : Request) (n : Nat) (fits : Prop) (Written : List LaserPoint → Prop) : Prop where
  asked : request = .ask n
  whole : ∀ points : List LaserPoint, points.length = n → (Written points ↔ fits)
  shorter : fits → ∀ points : List LaserPoint, points.length ≤ n → Written points

theorem request_served {adapter : NetworkFifoAdapter} {capacity targetBuffer carried : Nat}
    {Written : List LaserPoint → Prop} (largest : 0 < adapter.maxPoints) (rate : 0 < pps) (positive : 0 < targetBuffer)
    (settled : adapter.writtenPps.getD pps = pps)
    (takes : ∀ points : List LaserPoint, Written points ↔ ChunkFits capacity sampleRate pps carried points.length) :
    Served (adapter.request (NetworkFifoAdapter.target targetBuffer pps none) pps 0)
      (requestedPoints targetBuffer pps adapter.maxPoints)
      (ChunkFits capacity sampleRate pps carried (requestedPoints targetBuffer pps adapter.maxPoints)) Written where
  asked := NetworkFifoAdapter.request_of_empty largest settled (Nat.mul_pos positive rate)
  whole points same := same ▸ takes points
  shorter fits points shorter := (takes points).mpr (fits.shorter shorter)

/-- The adapter asks an idle audio backend for a chunk of its target, and the backend takes it exactly if its samples
fit into the queue. -/
theorem audio_requests_accepted {P : Type} [CatmullInterp P] (convert : LaserPoint → P)
    (adapter : NetworkFifoAdapter) (sampleRate pps targetBuffer : Nat) (audible : 0 < sampleRate)
    (positive : 0 < targetBuffer) (settled : adapter.writtenPps.getD pps = pps) :
    (∀ b : AvbBackend P, b.Idle sampleRate → b.caps.Supports pps → adapter.maxPoints = b.caps.maxPointsPerChunk →
      Served
        (adapter.request (NetworkFifoAdapter.target targetBuffer pps b.targetBufferCeiling) pps (b.estimator pps))
        (requestedPoints targetBuffer pps adapter.maxPoints)
        (ChunkFits (Avb.queueCapacityForRate sampleRate) sampleRate pps (b.resampler.carried pps sampleRate)
          (requestedPoints targetBuffer pps adapter.maxPoints))
        fun points => ∃ b', b.tryWritePoints convert pps points = some (.ok .written, b')) ∧
    (∀ b : OscilloscopeBackend P, b.Idle sampleRate → b.caps.Supports pps →
      adapter.maxPoints = b.caps.maxPointsPerChunk →
      Served
        (adapter.request (NetworkFifoAdapter.target targetBuffer pps b.targetBufferCeiling) pps (b.estimator pps))
        (requestedPoints targetBuffer pps adapter.maxPoints)
        (ChunkFits (Oscilloscope.bufferCapacity sampleRate) sampleRate pps (b.resampler.carried pps sampleRate)
          (requestedPoints targetBuffer pps adapter.maxPoints))
        fun points => ∃ b', b.tryWritePoints convert pps points = some (.ok .written, b')) := by
  refine ⟨fun b idle supported same => ?_, fun b idle supported same => ?_⟩
  · rw [idle.caps] at supported same
    have empty : b.estimator pps = 0 := by
      simp [AvbBackend.estimator, idle.runtime, RuntimeAuthorityEstimator.estimatedFullness, Avb.RuntimeState.new,
        AudioSinkState.new, AudioSinkState.queuedPoints]
    rw [empty]
    exact request_served (same ▸ by decide) supported.1 positive settled
      (AvbBackend.tryWritePoints_written convert idle audible supported.1)
  · rw [idle.caps] at supported same
    have empty : b.estimator pps = 0 := by
      simp [OscilloscopeBackend.estimator, idle.runtime, RuntimeAuthorityEstimator.estimatedFullness,
        AudioSinkState.new, AudioSinkState.queuedPoints]
    have largest : 0 < Oscilloscope.bufferCapacity sampleRate := Nat.lt_of_lt_of_le (by decide) (Nat.le_max_right _ _)
    rw [empty]
    exact request_served (same ▸ largest) supported.1 positive settled
      (OscilloscopeBackend.tryWritePoints_written convert idle audible supported.1)

/-- A 48 kHz AVB device that has just been connected. -/
def AvbBackend.connected : AvbBackend (ℚ × ℚ) where
  runtime := some (.new 48000)
  caps := Avb.defaultCapabilities
  resampler := { fromRate := 1, toRate := 1, buf := [], bufStart := 0, nIn := 0, nOut := 0 }
  warnedPpsExceedsRate := false

/-- An oscilloscope at 48 kHz that has just been connected. -/
def OscilloscopeBackend.connected : OscilloscopeBackend (ℚ × ℚ) where
  sampleRate := 48000
  caps := Oscilloscope.capabilities 48000
  runtime := some { sink := .new (Oscilloscope.bufferCapacity 48000) 48000, connected := true }
  resampler := { fromRate := 1, toRate := 1, buf := [], bufStart := 0, nIn := 0, nOut := 0 }

theorem AvbBackend.connected_idle : AvbBackend.connected.Idle 48000 :=
  ⟨rfl, rfl, ⟨by decide, rfl, rfl, by decide, Nat.zero_le _⟩⟩

/-- At 7001 pps a target of 200 ms is a few samples short of the queue. -/
theorem audio_requests_accepted_most_of_queue :
    (NetworkFifoAdapter.mk 4096 none).request (NetworkFifoAdapter.target 200000000 7001 none) 7001
        (AvbBackend.connected.estimator 7001) = .ask 1401 ∧
      ∃ b', AvbBackend.connected.tryWritePoints (fun _ => (0, 0)) 7001 (List.replicate 1401 (.blanked 0 0)) =
        some (.ok .written, b') := by
  have served := (audio_requests_accepted (fun _ => ((0, 0) : ℚ × ℚ)) (.mk 4096 none) 48000 7001 200000000 (by decide)
    (by decide) rfl).1 AvbBackend.connected AvbBackend.connected_idle (by decide) rfl
  exact ⟨served.asked, (served.whole (List.replicate 1401 (.blanked 0 0)) List.length_replicate).mpr (by decide)⟩

/-- With a target of half a second at 10 kpps the first chunk does not fit into an empty queue of either backend,
and nothing is written however often it is tried again. -/
theorem audio_requests_refused :
    (NetworkFifoAdapter.mk 4096 none).request (NetworkFifoAdapter.target 500000000 10000 none) 10000
        (AvbBackend.connected.estimator 10000) = .ask 4096 ∧
      (AvbBackend.connected.tryWritePoints (fun _ => (0, 0)) 10000 (List.replicate 4096 (.blanked 0 0))).map
        (fun result => (result.1.toOption, result.2.estimator 10000)) = some (some .wouldBlock, 0) ∧
    (NetworkFifoAdapter.mk 4800 none).request (NetworkFifoAdapter.target 500000000 10000 none) 10000
        (OscilloscopeBackend.connected.estimator 10000) = .ask 4800 ∧
      (OscilloscopeBackend.connected.tryWritePoints (fun _ => (0, 0)) 10000 (List.replicate 4800 (.blanked 0 0))).map
        (fun result => (result.1.toOption, result.2.estimator 10000)) = some (some .wouldBlock, 0) := by
  decide +kernel

end LaserDac
