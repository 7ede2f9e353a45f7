import LaserDac.Sources

/-!
What a production does, the same for every source: the raw points are blanked, their colours go through the
delay line, and the result is cached. The pipeline and the chunk producer differ only in where the raw points
come from.
-/

namespace LaserDac

@[simp] theorem grown_length (n : Nat) (buffer : List LaserPoint) : (grown n buffer).length = max n buffer.length := by
  simp [grown]
  omega

theorem overwrite_length (buffer points : List LaserPoint) (fits : points.length ≤ buffer.length) :
    (overwrite buffer points).length = buffer.length := by
  simp [overwrite]
  omega

@[simp] theorem overwrite_take (buffer points : List LaserPoint) :
    (overwrite buffer points).take points.length = points := by
  simp [overwrite]

theorem applyBlanking_length (isArmed : Bool) (remaining : Nat) (points : List LaserPoint) (idlePolicy : IdlePolicy) :
    (applyBlanking isArmed remaining points idlePolicy).1.length = points.length := by
  unfold applyBlanking
  split
  · simp
  split
  · simp only [blankPrefix, List.length_append, List.length_map, List.length_take, List.length_drop]
    omega
  · rfl

namespace ColorDelayLine

@[simp] theorem apply_length (line : ColorDelayLine) (points : List LaserPoint) :
    (line.apply points).1.length = points.length := by
  rw [(apply_spec line points).1]
  simp [queue]

end ColorDelayLine

namespace Source

/-- The source is a slice pipeline. -/
def isPipeline : Source → Bool := read (fun _ => true) fun _ => false

def WellFormed : Source → Prop := read (fun p => p.cachedLen ≤ p.buf.length) fun p => p.cachedLen ≤ p.buf.length

/-- What no operation changes. -/
structure SameSettings (source after : Source) : Prop where
  startupBlank : after.startupBlank = source.startupBlank
  hasOutputFilter : after.hasOutputFilter = source.hasOutputFilter
  isPipeline : after.isPipeline = source.isPipeline

def blanked (isArmed : Bool) (raw : List LaserPoint) (source : Source) : List LaserPoint × Nat :=
  applyBlanking isArmed source.startupBlankRemaining raw source.idlePolicy

/-- A production that made a slice of the raw points. -/
structure Presents (pps : Nat) (isArmed : Bool) (colorDelay : Nat) (source : Source) (raw : List LaserPoint)
    (after : Source) : Prop extends SameSettings source after where
  wellFormed : after.WellFormed
  remaining : after.startupBlankRemaining = (source.blanked isArmed raw).2
  line : after.delayLine = ((source.lineFor colorDelay pps).apply (source.blanked isArmed raw).1).2
  cached : ∃ slice, after.cachedSlice = some slice ∧ slice.length = raw.length ∧
    (source.hasOutputFilter = false → slice = ((source.lineFor colorDelay pps).apply (source.blanked isArmed raw).1).1)

/-- A production that made nothing: the cache is empty, or the stream had ended before. -/
structure Starves (source after : Source) : Prop extends SameSettings source after where
  wellFormed : source.WellFormed → after.WellFormed
  remaining : after.startupBlankRemaining = source.startupBlankRemaining
  line : after.delayLine = source.delayLine
  cached : after.cachedSlice = none ∨ after = source ∧ source.isPipeline = false

/-- One production, of `n` points. -/
inductive Produces (source : Source) (pps : Nat) (isArmed : Bool) (colorDelay : Nat) (n : Nat) (after : Source) : Prop
  | chunk (targetPoints : Nat) (filter : FilterResponse) (respond : FillResponse)
      (made : source.produceChunk targetPoints pps isArmed colorDelay filter respond = some (n, after))
  | frame (filter : FilterResponse) (made : source.produceFrame pps isArmed filter = some (n, after))

end Source

variable {source after : Source} {colorDelay pps n : Nat} {isArmed : Bool}

namespace SlicePipeline

theorem present_presents (n pps : Nat) (isArmed filters : Bool) (kind : PresentedSliceKind) (isCyclic : Bool)
    (filter : FilterResponse) (p : SlicePipeline) (engine : PresentationEngine) (buf : List LaserPoint)
    (colorDelay : Nat) (fits : n ≤ buf.length) (wrap : SlicePipeline → Source)
    (pipeline : wrap = .fifo ∨ wrap = .frame) :
    Source.Presents pps isArmed colorDelay (wrap p) (buf.take n)
      (wrap (present n pps isArmed filters kind isCyclic filter { p with engine, buf })) := by
  set line := p.colorDelay.resize (durationToPoints p.colorDelayDuration pps) with lineEq
  set blanked := applyBlanking isArmed p.startupBlankRemaining (buf.take n) p.idlePolicy with blankedEq
  have size : (line.apply blanked.1).1.length = n := by
    rw [ColorDelayLine.apply_length, blankedEq, applyBlanking_length]
    simp [fits]
  set slice := (if filters && p.hasOutputFilter then
      overwrite (line.apply blanked.1).1 ((filter { pps, kind, isCyclic } (line.apply blanked.1).1).take n)
    else (line.apply blanked.1).1) with sliceEq
  have sliceSize : slice.length = n := by
    rw [sliceEq]
    split
    · rw [overwrite_length _ _ (by rw [size, List.length_take]; exact Nat.min_le_left _ _), size]
    · exact size
  have after : present n pps isArmed filters kind isCyclic filter { p with engine, buf } = { p with
      engine, buf := overwrite buf slice, colorDelay := (line.apply blanked.1).2,
      startupBlankRemaining := blanked.2, cachedLen := n, cached := true } := rfl
  have bufSize : (overwrite buf slice).length = buf.length := overwrite_length _ _ (by omega)
  have cached : (present n pps isArmed filters kind isCyclic filter { p with engine, buf }).cachedSlice =
      some slice := by
    rw [after]
    simp only [cachedSlice, if_true]
    rw [← sliceSize, overwrite_take]
  have plain : p.hasOutputFilter = false → slice = (line.apply blanked.1).1 := by
    intro none_
    rw [sliceEq, none_, Bool.and_false]
    rfl
  have rawSize : slice.length = (buf.take n).length := by
    rw [sliceSize]
    simp [fits]
  rcases pipeline with rfl | rfl
  all_goals exact {
    startupBlank := rfl
    hasOutputFilter := rfl
    isPipeline := rfl
    wellFormed := by
      change n ≤ (overwrite buf slice).length
      omega
    remaining := rfl
    line := rfl
    cached := ⟨slice, cached, rawSize, plain⟩ }

theorem fillChunk_fits {buffer buf : List LaserPoint} {maxPoints : Nat} {e engine : PresentationEngine}
    (filled : e.fillChunk buffer maxPoints pps = some (n, buf, engine)) : n ≤ buf.length := by
  simp only [PresentationEngine.fillChunk] at filled
  generalize (if e.drawableDirty then e.refreshDrawable else e) = e at filled
  split at filled
  · obtain ⟨rfl, rfl, -⟩ : _ = n ∧ _ = buf ∧ _ = engine := by simpa using filled
    simp
  · obtain ⟨⟨out, e⟩, -, eq⟩ := Option.bind_eq_some_iff.mp filled
    obtain ⟨rfl, rfl, -⟩ : _ = n ∧ _ = buf ∧ _ = engine := by simpa using eq
    simp

theorem invalidate_starves (p : SlicePipeline) (engine : PresentationEngine) (buf : List LaserPoint)
    (wrap : SlicePipeline → Source) (pipeline : wrap = .fifo ∨ wrap = .frame) :
    Source.Starves (wrap p) (wrap (invalidate { p with engine, buf })) := by
  rcases pipeline with rfl | rfl
  all_goals exact {
    startupBlank := rfl, hasOutputFilter := rfl, isPipeline := rfl, remaining := rfl, line := rfl
    wellFormed := fun _ => Nat.zero_le _
    cached := .inl rfl }

theorem reported_length {raw : List LaserPoint} (presents : Source.Presents pps isArmed colorDelay source raw after) :
    (after.cachedSlice.map List.length).getD 0 = raw.length := by
  obtain ⟨slice, cached, size, -⟩ := presents.cached
  simp [cached, size]

end SlicePipeline

namespace ChunkProducer

/-- A change of the buffer and of the stream's end only. -/
structure SameLine (p after : ChunkProducer) : Prop where
  line : after.colorDelayLine = p.colorDelayLine
  remaining : after.startupBlankRemaining = p.startupBlankRemaining
  startupBlank : after.startupBlank = p.startupBlank
  idlePolicy : after.idlePolicy = p.idlePolicy

theorem idlePoints_length (count : Nat) (isArmed : Bool) (p : ChunkProducer) (points : List LaserPoint)
    (made : p.idlePoints count isArmed = some points) : points.length = count := by
  unfold idlePoints at made
  split at made
  · split at made
    · simp at made
    · split at made
      all_goals
        obtain rfl := Option.some.inj made
        simp
    all_goals
      obtain rfl := Option.some.inj made
      simp
  · obtain rfl := Option.some.inj made
    simp

theorem fillIdleRange_spec (start stop : Nat) (isArmed : Bool) (p : ChunkProducer) (order : start ≤ stop)
    (fits : stop ≤ p.buf.length) :
    SameLine p (p.fillIdleRange start stop isArmed).2 ∧
      (p.fillIdleRange start stop isArmed).2.buf.length = p.buf.length := by
  unfold fillIdleRange
  split
  · exact ⟨⟨rfl, rfl, rfl, rfl⟩, rfl⟩
  · rename_i points made
    have size := idlePoints_length _ _ _ _ made
    refine ⟨⟨rfl, rfl, rfl, rfl⟩, ?_⟩
    simp [size]
    omega

/-- What filling the buffer may come to: points that it holds, or an empty cache. -/
def Filled (p : ChunkProducer) (after : Option Nat × ChunkProducer) : Prop :=
  SameLine p after.2 ∧
    match after.1 with
    | none => after.2.cachedSlice = none ∧ after.2.cachedLen = 0
    | some n => n ≠ 0 ∧ n ≤ after.2.buf.length

theorem fill_spec (targetPoints : Nat) (isArmed : Bool) (result : ChunkResult) (p : ChunkProducer)
    (positive : targetPoints ≠ 0) (fits : targetPoints ≤ p.buf.length) :
    Filled p (p.fill targetPoints isArmed result) := by
  have starved : Filled p (p.fill targetPoints isArmed .starved) := by
    have whole := fillIdleRange_spec 0 targetPoints isArmed p (Nat.zero_le _) fits
    simp only [fill]
    split <;> rename_i eq <;> rw [eq] at whole
    · exact ⟨whole.1, positive, by simpa [whole.2] using fits⟩
    · exact ⟨⟨whole.1.line, whole.1.remaining, whole.1.startupBlank, whole.1.idlePolicy⟩, rfl, rfl⟩
  cases result with
  | starved => exact starved
  | ended => exact ⟨⟨rfl, rfl, rfl, rfl⟩, rfl, rfl⟩
  | filled n =>
    cases n with
    | zero => exact starved
    | succ n =>
      have tail := fillIdleRange_spec (min (n + 1) targetPoints) targetPoints isArmed p (Nat.min_le_right _ _) fits
      simp only [fill]
      split
      · refine ⟨⟨rfl, rfl, rfl, rfl⟩, ?_⟩
        change min (n + 1) targetPoints ≠ 0 ∧ min (n + 1) targetPoints ≤ p.buf.length
        omega
      split <;> rename_i rest eq <;> rw [eq] at tail
      · exact ⟨tail.1, positive, by simpa [tail.2] using fits⟩
      split
      · exact ⟨⟨tail.1.line, tail.1.remaining, tail.1.startupBlank, tail.1.idlePolicy⟩, rfl, rfl⟩
      · refine ⟨tail.1, ?_⟩
        change min (n + 1) targetPoints ≠ 0 ∧ min (n + 1) targetPoints ≤ rest.buf.length
        have size : rest.buf.length = p.buf.length := tail.2
        omega

theorem present_presents (n pps : Nat) (isArmed : Bool) (colorDelay : Nat) (p rest : ChunkProducer)
    (same : SameLine p rest) (fits : n ≤ rest.buf.length) :
    Source.Presents pps isArmed colorDelay (.chunks p) (rest.buf.take n)
      (.chunks { applyBlankingAndColorDelay n pps isArmed colorDelay { rest with pendingRaw := rest.buf.take n } with
        cachedLen := n, cached := true }) := by
  set line := p.colorDelayLine.resize (durationToPoints colorDelay pps) with lineEq
  set blanked := applyBlanking isArmed p.startupBlankRemaining (rest.buf.take n) p.idlePolicy with blankedEq
  have size : (line.apply blanked.1).1.length = n := by
    rw [ColorDelayLine.apply_length, blankedEq, applyBlanking_length]
    simp [fits]
  have after : applyBlankingAndColorDelay n pps isArmed colorDelay { rest with pendingRaw := rest.buf.take n } =
      { rest with
        pendingRaw := rest.buf.take n, buf := overwrite rest.buf (line.apply blanked.1).1
        colorDelayLine := (line.apply blanked.1).2, startupBlankRemaining := blanked.2 } := by
    simp only [applyBlankingAndColorDelay, lineEq, blankedEq, same.line, same.remaining, same.idlePolicy]
  have bufSize : (overwrite rest.buf (line.apply blanked.1).1).length = rest.buf.length :=
    overwrite_length _ _ (by omega)
  rw [after]
  exact {
    startupBlank := same.startupBlank
    hasOutputFilter := rfl
    isPipeline := rfl
    wellFormed := by
      change n ≤ (overwrite rest.buf (line.apply blanked.1).1).length
      omega
    remaining := rfl
    line := rfl
    cached := by
      refine ⟨(line.apply blanked.1).1, ?_, by simp [size, fits], fun _ => rfl⟩
      change some ((overwrite rest.buf (line.apply blanked.1).1).take n) = _
      rw [← size, overwrite_take] }

end ChunkProducer

namespace Source

def Made (pps : Nat) (isArmed : Bool) (colorDelay : Nat) (source : Source) (n : Nat) (after : Source) : Prop :=
  if n = 0 then Starves source after
  else ∃ raw : List LaserPoint, raw.length = n ∧ Presents pps isArmed colorDelay source raw after

theorem Made.slice {raw : List LaserPoint} (presents : Presents pps isArmed colorDelay source raw after)
    (size : raw.length = n) (positive : n ≠ 0) : Made pps isArmed colorDelay source n after := by
  rw [Made, if_neg positive]
  exact ⟨raw, size, presents⟩

theorem fifo_made (p after : SlicePipeline) (targetPoints pps : Nat) (isArmed : Bool) (colorDelay : Nat)
    (filter : FilterResponse) (made : p.produceFifoChunk targetPoints pps isArmed filter = some after) :
    Made pps isArmed colorDelay (.fifo p) ((after.cachedSlice.map List.length).getD 0) (.fifo after) := by
  obtain ⟨⟨n, buf, engine⟩, filled, eq⟩ := Option.bind_eq_some_iff.mp made
  have fits := SlicePipeline.fillChunk_fits filled
  simp only at eq
  split at eq
  · obtain rfl := Option.some.inj eq
    exact SlicePipeline.invalidate_starves p engine buf .fifo (.inl rfl)
  · rename_i positive
    obtain rfl := Option.some.inj eq
    have presents := SlicePipeline.present_presents n pps isArmed engine.hasLogicalFrame .fifoChunk false filter p
      engine buf colorDelay fits .fifo (.inl rfl)
    have size : (buf.take n).length = n := by simp [fits]
    have length := (SlicePipeline.reported_length presents).trans size
    exact .slice presents (size.trans length.symm) fun zero => positive (length.symm.trans zero)

theorem frame_made (p : SlicePipeline) (pps : Nat) (isArmed : Bool) (colorDelay : Nat) (filter : FilterResponse) :
    Made pps isArmed colorDelay (.frame p)
      (((p.produceFrameSwap pps isArmed filter).cachedSlice.map List.length).getD 0)
      (.frame (p.produceFrameSwap pps isArmed filter)) := by
  unfold SlicePipeline.produceFrameSwap
  generalize p.engine.composeHardwareFrame pps = result
  obtain ⟨composed, engine⟩ := result
  dsimp only
  split
  · exact SlicePipeline.invalidate_starves p engine p.buf .frame (.inr rfl)
  · rename_i nonempty
    have fits : composed.length ≤ (overwrite (grown composed.length p.buf) composed).length := by
      rw [overwrite_length _ _ (by simp)]
      simp
    have presents := SlicePipeline.present_presents composed.length pps isArmed true .frameSwapFrame true filter p
      engine _ colorDelay fits .frame (.inr rfl)
    have size : ((overwrite (grown composed.length p.buf) composed).take composed.length).length = composed.length := by
      simp
    have length := (SlicePipeline.reported_length presents).trans size
    refine .slice presents (size.trans length.symm) fun zero => nonempty ?_
    exact List.isEmpty_iff.mpr (List.eq_nil_of_length_eq_zero (length.symm.trans zero))

theorem chunks_made (p : ChunkProducer) (targetPoints pps : Nat) (isArmed : Bool) (colorDelay : Nat)
    (respond : FillResponse) :
    Made pps isArmed colorDelay (.chunks p) (p.produceChunk targetPoints pps isArmed colorDelay respond).1
      (.chunks (p.produceChunk targetPoints pps isArmed colorDelay respond).2) := by
  unfold ChunkProducer.produceChunk
  split
  · exact {
      startupBlank := rfl, hasOutputFilter := rfl, isPipeline := rfl, remaining := rfl, line := rfl
      wellFormed := id
      cached := .inr ⟨rfl, rfl⟩ }
  split
  · exact {
      startupBlank := rfl, hasOutputFilter := rfl, isPipeline := rfl, remaining := rfl, line := rfl
      wellFormed := fun _ => Nat.zero_le _
      cached := .inl rfl }
  rename_i positive
  dsimp only
  generalize respond _ _ = answer
  set q : ChunkProducer := { p.ensureBuf targetPoints with
    buf := overwrite (p.ensureBuf targetPoints).buf (answer.2.take targetPoints) } with qEq
  have fits : targetPoints ≤ q.buf.length := by
    rw [qEq]
    dsimp only
    have room : (answer.2.take targetPoints).length ≤ (p.ensureBuf targetPoints).buf.length := by
      rw [List.length_take, ChunkProducer.ensureBuf, grown_length]
      omega
    rw [overwrite_length _ _ room]
    simp [ChunkProducer.ensureBuf]
  obtain ⟨same, spec⟩ := ChunkProducer.fill_spec targetPoints isArmed answer.1 q positive fits
  cases filled : q.fill targetPoints isArmed answer.1 with
  | mk count rest =>
    rw [filled] at same spec
    cases count with
    | none =>
      exact {
        startupBlank := same.startupBlank, hasOutputFilter := rfl, isPipeline := rfl
        remaining := same.remaining, line := same.line
        wellFormed := fun _ => by
          change rest.cachedLen ≤ rest.buf.length
          rw [spec.2]
          exact Nat.zero_le _
        cached := .inl spec.1 }
    | some n =>
      have presents := ChunkProducer.present_presents n pps isArmed colorDelay p rest
        ⟨same.line, same.remaining, same.startupBlank, same.idlePolicy⟩ spec.2
      exact .slice presents (by simp [spec.2]) spec.1

theorem Produces.made (produces : source.Produces pps isArmed colorDelay n after) :
    Made pps isArmed colorDelay source n after := by
  cases produces with
  | chunk targetPoints filter respond made =>
    cases source with
    | fifo p =>
      obtain ⟨q, chunk, eq⟩ := Option.map_eq_some_iff.mp made
      obtain ⟨rfl, rfl⟩ := Prod.mk.inj eq
      exact fifo_made p q targetPoints pps isArmed colorDelay filter chunk
    | frame => simp [produceChunk] at made
    | chunks p =>
      obtain ⟨rfl, rfl⟩ := Prod.mk.inj (Option.some.inj made)
      exact chunks_made p targetPoints pps isArmed colorDelay respond
  | frame filter made =>
    cases source with
    | frame p =>
      obtain ⟨rfl, rfl⟩ := Prod.mk.inj (Option.some.inj made)
      exact frame_made p pps isArmed colorDelay filter
    | fifo | chunks => simp [produceFrame] at made

theorem Produces.starves (produces : source.Produces pps isArmed colorDelay 0 after) : Starves source after := by
  simpa [Made] using produces.made

theorem Produces.presents (produces : source.Produces pps isArmed colorDelay n after) (positive : n ≠ 0) :
    ∃ raw : List LaserPoint, raw.length = n ∧ Presents pps isArmed colorDelay source raw after := by
  simpa [Made, positive] using produces.made

theorem Starves.cached_isSome (starves : Starves source after) (cached : after.cachedSlice.isSome) :
    source.cachedSlice.isSome := by
  rcases starves.cached with none_ | ⟨rfl, -⟩
  · simp [none_] at cached
  · exact cached

/-- What an operation other than a production leaves. -/
structure Becomes (source after : Source) (slice : Option (List LaserPoint)) (line : ColorDelayLine)
    (remaining : Nat) : Prop extends SameSettings source after where
  wellFormed : source.WellFormed → after.WellFormed
  cached : after.cachedSlice = slice
  line : after.delayLine = line
  remaining : after.startupBlankRemaining = remaining

theorem Becomes.refl {slice : Option (List LaserPoint)} (cached : source.cachedSlice = slice) :
    source.Becomes source slice source.delayLine source.startupBlankRemaining :=
  ⟨⟨rfl, rfl, rfl⟩, id, cached, rfl, rfl⟩

theorem Starves.becomes (starves : Starves source after) (pipeline : source.isPipeline) :
    source.Becomes after none source.delayLine source.startupBlankRemaining := by
  refine ⟨starves.toSameSettings, starves.wellFormed, ?_, starves.line, starves.remaining⟩
  rcases starves.cached with none_ | ⟨-, chunks⟩
  · exact none_
  · simp [pipeline] at chunks

theorem discardCached_becomes (source : Source) :
    source.Becomes source.discardCached none source.delayLine source.startupBlankRemaining := by
  cases source <;> exact ⟨⟨rfl, rfl, rfl⟩, fun _ => Nat.zero_le _, rfl, rfl, rfl⟩

theorem commitWritten_becomes (n : Nat) (isArmed : Bool) (source : Source) :
    source.Becomes (source.commitWritten n isArmed) none source.delayLine source.startupBlankRemaining := by
  cases source with
  | fifo | frame => exact ⟨⟨rfl, rfl, rfl⟩, fun _ => Nat.zero_le _, rfl, rfl, rfl⟩
  | chunks p =>
    change Becomes _ (.chunks (p.commitWritten n isArmed)) none p.colorDelayLine p.startupBlankRemaining
    unfold ChunkProducer.commitWritten
    split <;> exact ⟨⟨rfl, rfl, rfl⟩, fun _ => Nat.zero_le _, rfl, rfl, rfl⟩

theorem onDisarm_becomes (source : Source) :
    source.Becomes source.onDisarm source.cachedSlice source.delayLine.reset source.startupBlankRemaining := by
  cases source <;> exact ⟨⟨rfl, rfl, rfl⟩, id, rfl, rfl, rfl⟩

theorem armStartupBlank_becomes (pps : Nat) (source : Source) :
    source.Becomes (source.armStartupBlank pps) source.cachedSlice source.delayLine
      (durationToPoints source.startupBlank pps) := by
  cases source <;> exact ⟨⟨rfl, rfl, rfl⟩, id, rfl, rfl, rfl⟩

theorem onReconnect_becomes (maxPointsPerChunk : Nat) (capacity : Option Nat) (source : Source) :
    source.Becomes ((source.onReconnect maxPointsPerChunk).setFrameCapacity capacity) none source.delayLine.reset
      (if source.isPipeline then source.startupBlankRemaining else 0) := by
  cases source with
  | fifo p =>
    change Becomes _ (.fifo p.replayAfterReconnect) none p.colorDelay.reset p.startupBlankRemaining
    unfold SlicePipeline.replayAfterReconnect
    dsimp only
    split <;> exact ⟨⟨rfl, rfl, rfl⟩, fun _ => Nat.zero_le _, rfl, rfl, rfl⟩
  | frame p =>
    change Becomes _ (setFrameCapacity capacity (.frame p.replayAfterReconnect)) none p.colorDelay.reset
      p.startupBlankRemaining
    unfold SlicePipeline.replayAfterReconnect
    dsimp only
    split <;> exact ⟨⟨rfl, rfl, rfl⟩, fun _ => Nat.zero_le _, rfl, rfl, rfl⟩
  | chunks => exact ⟨⟨rfl, rfl, rfl⟩, fun _ => Nat.zero_le _, rfl, rfl, rfl⟩

/-- Changes that leave the output alone. -/
inductive Tuning (source : Source) : Source → Prop
  | reserveBuf (n : Nat) : Tuning source (source.reserveBuf n)
  | setColorDelay (nanos : Nat) : Tuning source (source.setColorDelay nanos)
  | submitFrame (frame : Frame) : Tuning source (source.submitFrame frame)
  | takeStopError : Tuning source source.takeStopError.2

theorem grown_take (n k : Nat) (buffer : List LaserPoint) (fits : k ≤ buffer.length) :
    (grown n buffer).take k = buffer.take k := by
  rw [grown, List.take_append_of_le_length fits]

theorem Tuning.becomes (tuning : Tuning source after) (wellFormed : source.WellFormed) :
    source.Becomes after source.cachedSlice source.delayLine source.startupBlankRemaining := by
  cases tuning with
  | reserveBuf n =>
    have room : ∀ k (buffer : List LaserPoint), k ≤ buffer.length → k ≤ (grown n buffer).length := by
      intro k buffer fits
      rw [grown_length]
      omega
    cases source with
    | fifo p | frame p | chunks p =>
      refine ⟨⟨rfl, rfl, rfl⟩, room _ _, ?_, rfl, rfl⟩
      change (if p.cached then some ((grown n p.buf).take p.cachedLen) else none) = _
      rw [grown_take n _ _ wellFormed]
      rfl
  | setColorDelay | submitFrame | takeStopError => cases source <;> exact ⟨⟨rfl, rfl, rfl⟩, id, rfl, rfl, rfl⟩

theorem Tuning.cached_isSome (tuning : Tuning source after) : after.cachedSlice.isSome = source.cachedSlice.isSome := by
  have flag : ∀ (cached : Bool) (slice slice' : List LaserPoint),
      (if cached then some slice else none).isSome = (if cached then some slice' else none).isSome := by
    intro cached slice slice'
    cases cached <;> rfl
  cases tuning <;> cases source <;> first | rfl | exact flag _ _ _

end Source

end LaserDac
