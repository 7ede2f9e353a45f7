import LaserDac.Production

/-!
The chunk producer against the history of its calls. From what was produced, committed, discarded and cleared follow
the stream time (`committedTotal`) and the points that an idle stream repeats (`repeatSource`).
-/

namespace LaserDac

/-- A call of the producer, with what the application's callback answers. -/
inductive ChunkCall
  | produceChunk (targetPoints pps : Nat) (isArmed : Bool) (colorDelay : Nat) (respond : FillResponse)
  | commitWritten (n : Nat) (isArmed : Bool)
  | discardCached
  | reserveBuf (n : Nat)
  | onReconnect (maxPointsPerChunk : Nat)
  | armStartupBlank (pps : Nat)
  | onDisarm
  | takeStopError

/-- What a call leaves in the history. -/
inductive Entry
  /-- A chunk of this raw content, after the idle fill and before blanking and colour delay, or no chunk. -/
  | produced (raw : Option (List LaserPoint))
  | committed (n : Nat) (isArmed : Bool)
  | discarded
  | cleared

/-- The points that were committed. -/
def committedTotal : List Entry → Nat
  | [] => 0
  | .committed n _ :: earlier => committedTotal earlier + n
  | _ :: earlier => committedTotal earlier

/-- The chunk that is produced and neither committed nor discarded. -/
def openChunk : List Entry → Option (List LaserPoint)
  | .produced raw :: _ => raw
  | _ => none

/-- What was committed of the last chunk that was committed as armed, unless a reconnect came since. -/
def repeatSource : List Entry → List LaserPoint
  | [] => []
  | .committed n true :: earlier => if n > 0 then ((openChunk earlier).getD []).take n else repeatSource earlier
  | .cleared :: _ => []
  | _ :: earlier => repeatSource earlier

/-- Points repeated over and over to a length; blanked ones if there are none. -/
def cyclic (count : Nat) (points : List LaserPoint) : List LaserPoint :=
  if points.length > 0 then
    (List.range count).map fun offset => points.getD (offset % points.length) (LaserPoint.blanked 0 0)
  else List.replicate count (LaserPoint.blanked 0 0)

theorem repeatSource_committed (history : List Entry) (shown : repeatSource history ≠ []) :
    ∃ later n raw earlier, history = later ++ .committed n true :: .produced (some raw) :: earlier ∧
      repeatSource history = raw.take n ∧ .cleared ∉ later := by
  induction history with
  | nil => exact absurd rfl shown
  | cons entry earlier ih =>
    have skip (same : repeatSource (entry :: earlier) = repeatSource earlier) (other : entry ≠ .cleared) :
        ∃ later n raw past, entry :: earlier = later ++ .committed n true :: .produced (some raw) :: past ∧
          repeatSource (entry :: earlier) = raw.take n ∧ .cleared ∉ later := by
      rw [same] at shown ⊢
      obtain ⟨later, n, raw, past, split, source, kept⟩ := ih shown
      refine ⟨entry :: later, n, raw, past, by rw [split, List.cons_append], source, ?_⟩
      rw [List.mem_cons, not_or]
      exact ⟨other.symm, kept⟩
    cases entry with
    | produced | discarded => exact skip rfl (by simp)
    | cleared => exact absurd rfl shown
    | committed n isArmed =>
      cases isArmed with
      | false => exact skip rfl (by simp)
      | true =>
        by_cases positive : n > 0
        · have source : repeatSource (.committed n true :: earlier) = ((openChunk earlier).getD []).take n :=
            if_pos positive
          cases earlier with
          | nil => simp [source, openChunk] at shown
          | cons entry earlier =>
            cases entry with
            | produced raw =>
              cases raw with
              | none => simp [source, openChunk] at shown
              | some raw => exact ⟨[], n, raw, earlier, rfl, source, List.not_mem_nil⟩
            | _ => simp [source, openChunk] at shown
        · exact skip (if_neg positive) (by simp)

variable {history : List Entry} {request : ChunkRequest} {room : List LaserPoint}

namespace ChunkProducer

/-! ### A production -/

/-- The request that the callback gets, and the room for its points, if it is called. -/
def asked (targetPoints pps : Nat) (p : ChunkProducer) : Option (ChunkRequest × List LaserPoint) :=
  if p.ended ∨ targetPoints = 0 then none
  else some ({ start := p.currentInstant, pps, targetPoints }, (p.ensureBuf targetPoints).buf.take targetPoints)

def answered (targetPoints : Nat) (written : List LaserPoint) (p : ChunkProducer) : ChunkProducer :=
  let p := p.ensureBuf targetPoints
  { p with buf := overwrite p.buf (written.take targetPoints) }

/-- The raw content of the chunk that is produced. -/
def rawChunk (targetPoints pps : Nat) (isArmed : Bool) (respond : FillResponse) (p : ChunkProducer) :
    Option (List LaserPoint) := do
  let (request, room) ← p.asked targetPoints pps
  let (result, written) := respond request room
  let (n, p) := (p.answered targetPoints written).fill targetPoints isArmed result
  n.map fun n => p.buf.take n

/-- Raw content after blanking, through the colour delay line, and the line after it. -/
def shown (pps : Nat) (isArmed : Bool) (colorDelay : Nat) (raw : List LaserPoint) (p : ChunkProducer) :
    List LaserPoint × ColorDelayLine :=
  (p.colorDelayLine.resize (durationToPoints colorDelay pps)).apply
    (applyBlanking isArmed p.startupBlankRemaining raw p.idlePolicy).1

def presented (pps : Nat) (isArmed : Bool) (colorDelay : Nat) : Option Nat × ChunkProducer → Nat × ChunkProducer
  | (none, p) => (0, p)
  | (some n, p) =>
    (n, { applyBlankingAndColorDelay n pps isArmed colorDelay { p with pendingRaw := p.buf.take n } with
      cachedLen := n, cached := true })

variable {targetPoints pps colorDelay : Nat} {isArmed : Bool} {respond : FillResponse} {p : ChunkProducer}

theorem produceChunk_unasked (unasked : p.asked targetPoints pps = none) :
    p.produceChunk targetPoints pps isArmed colorDelay respond = (0, if p.ended then p else p.invalidate) := by
  unfold asked at unasked
  unfold produceChunk
  by_cases ended : p.ended
  · simp [ended]
  · have zero : targetPoints = 0 := by simpa [ended] using unasked
    simp [ended, zero]

theorem produceChunk_asked (call : p.asked targetPoints pps = some (request, room)) :
    p.produceChunk targetPoints pps isArmed colorDelay respond = presented pps isArmed colorDelay
      ((p.answered targetPoints (respond request room).2).fill targetPoints isArmed (respond request room).1) := by
  unfold asked at call
  split at call
  · exact absurd call (by simp)
  · rename_i going
    obtain ⟨rfl, rfl⟩ := Prod.mk.inj (Option.some.inj call)
    rw [not_or] at going
    unfold produceChunk
    rw [if_neg going.1, if_neg going.2]
    rfl

theorem rawChunk_asked (call : p.asked targetPoints pps = some (request, room)) {n : Option Nat}
    {filled : ChunkProducer}
    (fill : (p.answered targetPoints (respond request room).2).fill targetPoints isArmed (respond request room).1 =
      (n, filled)) : p.rawChunk targetPoints pps isArmed respond = n.map fun n => filled.buf.take n := by
  simp only [rawChunk, call, Option.bind_eq_bind, Option.bind_some, fill]

theorem answered_fits (targetPoints : Nat) (written : List LaserPoint) (p : ChunkProducer) :
    targetPoints ≤ (p.answered targetPoints written).buf.length := by
  have room : (written.take targetPoints).length ≤ (p.ensureBuf targetPoints).buf.length := by
    rw [List.length_take, ensureBuf, grown_length]
    omega
  show targetPoints ≤ (overwrite (p.ensureBuf targetPoints).buf (written.take targetPoints)).length
  rw [overwrite_length _ _ room, ensureBuf, grown_length]
  exact Nat.le_max_left _ _

/-- What filling the buffer leaves alone. -/
structure SamePast (p after : ChunkProducer) : Prop where
  lastChunk : after.lastChunk = p.lastChunk
  currentInstant : after.currentInstant = p.currentInstant
  idlePolicy : after.idlePolicy = p.idlePolicy

theorem fillIdleRange_samePast (start stop : Nat) (isArmed : Bool) (p : ChunkProducer) :
    SamePast p (p.fillIdleRange start stop isArmed).2 := by
  unfold fillIdleRange
  split
  · exact ⟨rfl, rfl, rfl⟩
  · exact ⟨rfl, rfl, rfl⟩

theorem fill_samePast (targetPoints : Nat) (isArmed : Bool) (result : ChunkResult) (p : ChunkProducer) :
    SamePast p (p.fill targetPoints isArmed result).2 := by
  have starved : SamePast p (p.fill targetPoints isArmed .starved).2 := by
    have whole := fillIdleRange_samePast 0 targetPoints isArmed p
    simp only [fill]
    split <;> rename_i eq <;> rw [eq] at whole
    · exact whole
    · exact ⟨whole.lastChunk, whole.currentInstant, whole.idlePolicy⟩
  cases result with
  | starved => exact starved
  | ended => exact ⟨rfl, rfl, rfl⟩
  | filled n =>
    cases n with
    | zero => exact starved
    | succ n =>
      have tail := fillIdleRange_samePast (min (n + 1) targetPoints) targetPoints isArmed p
      simp only [fill]
      split
      · exact ⟨rfl, rfl, rfl⟩
      split <;> rename_i eq <;> rw [eq] at tail
      · exact tail
      split
      · exact ⟨tail.lastChunk, tail.currentInstant, tail.idlePolicy⟩
      · exact tail

/-- A production leaves what was committed alone, and the chunk, if there is one, with its raw content. -/
structure Producing (p : ChunkProducer) (raw : Option (List LaserPoint)) (after : ChunkProducer) : Prop
    extends SamePast p after where
  cached : after.cached = raw.isSome
  pendingRaw : ∀ points, raw = some points → after.pendingRaw = points

theorem asked_positive (call : p.asked targetPoints pps = some (request, room)) : targetPoints ≠ 0 := by
  unfold asked at call
  split at call
  · exact absurd call (by simp)
  · rename_i going
    exact fun zero => going (.inr zero)

theorem produceChunk_producing (going : p.ended = false) :
    Producing p (p.rawChunk targetPoints pps isArmed respond)
      (p.produceChunk targetPoints pps isArmed colorDelay respond).2 := by
  cases call : p.asked targetPoints pps with
  | none =>
    have nothing : p.rawChunk targetPoints pps isArmed respond = none := by simp [rawChunk, call]
    rw [produceChunk_unasked call, nothing, going]
    exact ⟨⟨rfl, rfl, rfl⟩, rfl, fun _ absent => by simp at absent⟩
  | some asking =>
    obtain ⟨request, room⟩ := asking
    have past := fill_samePast targetPoints isArmed (respond request room).1
      (p.answered targetPoints (respond request room).2)
    obtain ⟨-, spec⟩ := fill_spec targetPoints isArmed (respond request room).1 _ (asked_positive call)
      (answered_fits targetPoints (respond request room).2 p)
    rw [produceChunk_asked call]
    cases fill : (p.answered targetPoints (respond request room).2).fill targetPoints isArmed
      (respond request room).1 with
    | mk n filled =>
      rw [fill] at past spec
      rw [rawChunk_asked call fill]
      cases n with
      | none =>
        refine ⟨⟨past.lastChunk, past.currentInstant, past.idlePolicy⟩, ?_, fun _ absent => by simp at absent⟩
        show filled.cached = false
        by_contra cached
        simp [cachedSlice, cached] at spec
      | some =>
        refine ⟨⟨past.lastChunk, past.currentInstant, past.idlePolicy⟩, rfl, fun points same => ?_⟩
        exact Option.some.inj same

theorem produceChunk_shown {raw : List LaserPoint} (made : p.rawChunk targetPoints pps isArmed respond = some raw) :
    (p.produceChunk targetPoints pps isArmed colorDelay respond).2.cachedSlice =
        some (p.shown pps isArmed colorDelay raw).1 ∧
      (p.produceChunk targetPoints pps isArmed colorDelay respond).2.colorDelayLine =
        (p.shown pps isArmed colorDelay raw).2 := by
  cases call : p.asked targetPoints pps with
  | none => simp [rawChunk, call] at made
  | some asking =>
    obtain ⟨request, room⟩ := asking
    obtain ⟨same, spec⟩ := fill_spec targetPoints isArmed (respond request room).1 _ (asked_positive call)
      (answered_fits targetPoints (respond request room).2 p)
    rw [produceChunk_asked call]
    cases fill : (p.answered targetPoints (respond request room).2).fill targetPoints isArmed
      (respond request room).1 with
    | mk n filled =>
      rw [fill] at same spec
      rw [rawChunk_asked call fill] at made
      cases n with
      | none => simp at made
      | some n =>
        obtain rfl : filled.buf.take n = raw := Option.some.inj made
        have presents := present_presents n pps isArmed colorDelay p filled
          ⟨same.line, same.remaining, same.startupBlank, same.idlePolicy⟩ spec.2
        obtain ⟨slice, cached, -, unfiltered⟩ := presents.cached
        exact ⟨cached.trans (congrArg some (unfiltered rfl)), presents.line⟩

/-- The callback has nothing new. -/
def Starved : ChunkResult → Prop
  | .starved => True
  | .filled n => n = 0
  | .ended => False

theorem fill_starved (policy : p.idlePolicy = .repeatLast) {result : ChunkResult} (starved : Starved result) :
    p.fill targetPoints true result =
      (some targetPoints, { p with buf := cyclic targetPoints p.lastChunk ++ p.buf.drop targetPoints }) := by
  have points : p.idlePoints (targetPoints - 0) true = some (cyclic targetPoints p.lastChunk) := by
    simp only [idlePoints, policy, cyclic, Nat.sub_zero, if_true]
    split
    · rfl
    · rfl
  have filled : p.fillIdleRange 0 targetPoints true =
      (true, { p with buf := cyclic targetPoints p.lastChunk ++ p.buf.drop targetPoints }) := by
    simp only [fillIdleRange, points, List.take_zero, List.nil_append]
  cases result with
  | starved => simp only [fill, filled]
  | ended => exact starved.elim
  | filled n =>
    obtain rfl : n = 0 := starved
    simp only [fill, filled]

theorem rawChunk_starved (call : p.asked targetPoints pps = some (request, room)) (policy : p.idlePolicy = .repeatLast)
    (starved : Starved (respond request room).1) :
    p.rawChunk targetPoints pps true respond = some (cyclic targetPoints p.lastChunk) := by
  have repeats : (p.answered targetPoints (respond request room).2).idlePolicy = .repeatLast := policy
  rw [rawChunk_asked call (fill_starved repeats starved)]
  have size : (cyclic targetPoints p.lastChunk).length = targetPoints := by
    unfold cyclic
    split <;> simp
  show some ((cyclic targetPoints p.lastChunk ++ _).take targetPoints) = _
  rw [List.take_left' size]

def call (call : ChunkCall) (p : ChunkProducer) : ChunkProducer :=
  match call with
  | .produceChunk targetPoints pps isArmed colorDelay respond =>
    (p.produceChunk targetPoints pps isArmed colorDelay respond).2
  | .commitWritten n isArmed => p.commitWritten n isArmed
  | .discardCached => p.invalidate
  | .reserveBuf n => p.ensureBuf n
  | .onReconnect maxPointsPerChunk => p.onReconnect maxPointsPerChunk
  | .armStartupBlank pps => p.armStartupBlank pps
  | .onDisarm => p.onDisarm
  | .takeStopError => { p with stopError := false }

/-- What it leaves in the history. A stream that has ended is not asked for chunks, and keeps the one it has. -/
def entries (call : ChunkCall) (p : ChunkProducer) : List Entry :=
  match call with
  | .produceChunk targetPoints pps isArmed _ respond =>
    if p.ended then [] else [.produced (p.rawChunk targetPoints pps isArmed respond)]
  | .commitWritten n isArmed => [.committed n isArmed]
  | .discardCached => [.discarded]
  | .onReconnect _ => [.cleared]
  | _ => []

/-- The producer and its history after the calls. -/
def after : List ChunkCall → ChunkProducer × List Entry → ChunkProducer × List Entry
  | [], reached => reached
  | next :: calls, (p, history) => after calls (p.call next, p.entries next ++ history)

/-- Points are committed as armed only while a chunk is cached. -/
def Answers (next : ChunkCall) (p : ChunkProducer) : Prop :=
  match next with
  | .commitWritten n isArmed => isArmed = true → n > 0 → p.cached = true
  | _ => True

/-- So it is with every call of a sequence. -/
def Proper : List ChunkCall → ChunkProducer → Prop
  | [], _ => True
  | next :: calls, p => Answers next p ∧ Proper calls (p.call next)

theorem call_idlePolicy (next : ChunkCall) (p : ChunkProducer) : (p.call next).idlePolicy = p.idlePolicy := by
  cases next with
  | produceChunk =>
    cases going : p.ended with
    | true => simp [call, produceChunk, going]
    | false => exact (produceChunk_producing going).idlePolicy
  | commitWritten =>
    simp only [call, commitWritten, invalidate]
    split <;> rfl
  | _ => rfl

theorem addPoints_min (total n : Nat) :
    StreamInstant.addPoints (min total (2 ^ 64 - 1)) n = min (total + n) (2 ^ 64 - 1) := by
  unfold StreamInstant.addPoints
  omega

theorem call_currentInstant (next : ChunkCall) (counted : p.currentInstant = min (committedTotal history) (2 ^ 64 - 1)) :
    (p.call next).currentInstant = min (committedTotal (p.entries next ++ history)) (2 ^ 64 - 1) := by
  cases next with
  | produceChunk targetPoints pps isArmed colorDelay respond =>
    cases going : p.ended with
    | true => simpa [call, entries, produceChunk, going] using counted
    | false =>
      have made : Producing p _ (p.produceChunk targetPoints pps isArmed colorDelay respond).2 :=
        produceChunk_producing going
      simpa [call, entries, going, committedTotal] using made.currentInstant.trans counted
  | commitWritten =>
    simp only [call, commitWritten, invalidate, entries, List.singleton_append, committedTotal, ← addPoints_min,
      ← counted]
    split <;> rfl
  | _ => exact counted

/-- What the producer keeps is what its history says. -/
structure Keeps (history : List Entry) (p : ChunkProducer) : Prop where
  lastChunk : p.lastChunk = repeatSource history
  cached : p.cached = (openChunk history).isSome
  pendingRaw : ∀ raw, openChunk history = some raw → p.pendingRaw = raw

theorem Keeps.commit (keeps : Keeps history p) {n : Nat} {isArmed : Bool}
    (answers : Answers (.commitWritten n isArmed) p) :
    Keeps (.committed n isArmed :: history) (p.commitWritten n isArmed) := by
  refine ⟨?_, rfl, fun raw absent => by simp [openChunk] at absent⟩
  cases isArmed with
  | false => exact keeps.lastChunk
  | true =>
    by_cases positive : n > 0
    · have cached := answers rfl positive
      rw [keeps.cached, Option.isSome_iff_exists] at cached
      obtain ⟨raw, produced⟩ := cached
      simp [commitWritten, invalidate, repeatSource, positive, produced, keeps.pendingRaw raw produced]
    · simpa [commitWritten, invalidate, repeatSource, positive] using keeps.lastChunk

theorem Producing.keeps {raw : Option (List LaserPoint)} {after : ChunkProducer} (made : Producing p raw after)
    (keeps : Keeps history p) : Keeps (.produced raw :: history) after := by
  refine ⟨?_, made.cached, made.pendingRaw⟩
  rw [made.lastChunk]
  exact keeps.lastChunk

theorem Keeps.call (keeps : Keeps history p) {next : ChunkCall} (answers : Answers next p) :
    Keeps (p.entries next ++ history) (p.call next) := by
  cases next with
  | produceChunk targetPoints pps isArmed colorDelay respond =>
    cases going : p.ended with
    | true => simpa [ChunkProducer.call, entries, produceChunk, going] using keeps
    | false =>
      have made : Producing p _ (p.produceChunk targetPoints pps isArmed colorDelay respond).2 :=
        produceChunk_producing going
      simpa [ChunkProducer.call, entries, going] using made.keeps keeps
  | commitWritten => exact keeps.commit answers
  | discardCached => exact ⟨keeps.lastChunk, rfl, fun raw absent => by simp [entries, openChunk] at absent⟩
  | onReconnect => exact ⟨rfl, rfl, fun raw absent => by simp [entries, openChunk] at absent⟩
  | _ => exact ⟨keeps.lastChunk, keeps.cached, keeps.pendingRaw⟩

theorem after_idlePolicy (calls : List ChunkCall) (p : ChunkProducer) (history : List Entry) :
    (after calls (p, history)).1.idlePolicy = p.idlePolicy := by
  induction calls generalizing p history with
  | nil => rfl
  | cons next calls ih => exact (ih _ _).trans (call_idlePolicy next p)

theorem after_currentInstant (calls : List ChunkCall)
    (counted : p.currentInstant = min (committedTotal history) (2 ^ 64 - 1)) :
    (after calls (p, history)).1.currentInstant = min (committedTotal (after calls (p, history)).2) (2 ^ 64 - 1) := by
  induction calls generalizing p history with
  | nil => exact counted
  | cons next calls ih => exact ih (call_currentInstant next counted)

theorem Keeps.after {calls : List ChunkCall} (keeps : Keeps history p) (proper : Proper calls p) :
    Keeps (after calls (p, history)).2 (after calls (p, history)).1 := by
  induction calls generalizing p history with
  | nil => exact keeps
  | cons next calls ih => exact ih (keeps.call proper.1) proper.2

theorem asked_start (call : p.asked targetPoints pps = some (request, room)) : request.start = p.currentInstant := by
  unfold asked at call
  split at call
  · exact absurd call (by simp)
  · rw [← (Prod.mk.inj (Option.some.inj call)).1]

end ChunkProducer

open ChunkProducer in
/-- Whatever was called before, the callback is asked for points from the total of those committed on, as far as
instants go. As long as points are committed as armed only while a chunk is cached, what the producer repeats is
the raw content of a chunk that was committed right after it was produced, with no reconnect since, and a starved chunk
of an armed stream that repeats is that content over and over, blanked and sent through the colour delay line once. -/
theorem chunk_history (idlePolicy : IdlePolicy) (startupBlank initialCapacity : Nat) (calls : List ChunkCall)
    (p : ChunkProducer) (history : List Entry)
    (reached : after calls (ChunkProducer.new idlePolicy startupBlank initialCapacity, []) = (p, history))
    (targetPoints pps : Nat) (request : ChunkRequest) (room : List LaserPoint)
    (call : p.asked targetPoints pps = some (request, room)) :
    request.start = min (committedTotal history) (2 ^ 64 - 1) ∧
      (Proper calls (ChunkProducer.new idlePolicy startupBlank initialCapacity) →
        p.lastChunk = repeatSource history ∧
        (repeatSource history ≠ [] →
          ∃ later n raw earlier, history = later ++ .committed n true :: .produced (some raw) :: earlier ∧
            repeatSource history = raw.take n ∧ .cleared ∉ later) ∧
        ∀ colorDelay respond, idlePolicy = .repeatLast → Starved (respond request room).1 →
          let chunk := cyclic targetPoints (repeatSource history)
          let made := (p.produceChunk targetPoints pps true colorDelay respond).2
          p.rawChunk targetPoints pps true respond = some chunk ∧
            made.cachedSlice = some (p.shown pps true colorDelay chunk).1 ∧
            made.colorDelayLine = (p.shown pps true colorDelay chunk).2) := by
  have counted := after_currentInstant calls
    (show (ChunkProducer.new idlePolicy startupBlank initialCapacity).currentInstant =
      min (committedTotal []) (2 ^ 64 - 1) from rfl)
  have policy := after_idlePolicy calls (ChunkProducer.new idlePolicy startupBlank initialCapacity) []
  rw [reached] at counted policy
  refine ⟨(asked_start call).trans counted, fun proper => ?_⟩
  have keeps : Keeps [] (ChunkProducer.new idlePolicy startupBlank initialCapacity) :=
    ⟨rfl, rfl, fun raw absent => by simp [openChunk] at absent⟩
  have kept := keeps.after proper
  rw [reached] at kept
  refine ⟨kept.lastChunk, repeatSource_committed history, fun colorDelay respond repeats starved => ?_⟩
  have raw : p.rawChunk targetPoints pps true respond = some (cyclic targetPoints p.lastChunk) :=
    rawChunk_starved call (policy.trans repeats) starved
  rw [kept.lastChunk] at raw
  exact ⟨raw, produceChunk_shown raw⟩

/-- A lit point at this place. -/
def litAt (x : UInt32) : LaserPoint := { x, y := 0, r := 1000, g := 1000, b := 1000, intensity := 1000 }

/-- A callback that fills in these points, if it has any. -/
def fills (points : List LaserPoint) : FillResponse := fun _ _ => (.filled points.length, points)

/-- Two points are committed, and two others discarded. -/
def discardsSecond : List ChunkCall := [
  .produceChunk 2 1000 true 0 (fills [litAt 1, litAt 2]), .commitWritten 2 true,
  .produceChunk 2 1000 true 0 (fills [litAt 3, litAt 4]), .discardCached]

open ChunkProducer in
/-- The two that were committed repeat. -/
theorem chunk_history_repeats :
    let p := (after discardsSecond (ChunkProducer.new .repeatLast 0 4, [])).1
    (p.produceChunk 5 1000 true 0 (fills [])).2.cachedSlice =
      some [litAt 1, litAt 2, litAt 1, litAt 2, litAt 1] := by
  have proper : Proper discardsSecond (ChunkProducer.new .repeatLast 0 4) :=
    ⟨trivial, fun _ _ => rfl, trivial, trivial, trivial⟩
  obtain ⟨-, repeats⟩ := chunk_history .repeatLast 0 4 discardsSecond _ _ rfl 5 1000 _ _ rfl
  obtain ⟨-, -, starved⟩ := repeats proper
  refine (starved 0 (fills []) rfl rfl).2.1.trans ?_
  decide +kernel

open ChunkProducer in
/-- A point is produced and discarded, and a point is committed: the discarded one repeats. -/
theorem discarded_chunk_repeated :
    let reached := after [.produceChunk 1 1000 true 0 (fills [litAt 1]), .discardCached, .commitWritten 1 true]
      (ChunkProducer.new .repeatLast 0 4, [])
    repeatSource reached.2 = [] ∧ reached.1.lastChunk = [litAt 1] ∧
      (reached.1.produceChunk 2 1000 true 0 (fills [])).2.cachedSlice = some [litAt 1, litAt 1] := by
  decide +kernel

end LaserDac
