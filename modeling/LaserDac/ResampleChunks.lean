import LaserDac.AudioSinks

/-!
A stream resampled chunk by chunk. The resampler forgets all but two of its inputs, but its outputs are those of one
that keeps them all (`process_heard`). What they still depend on is how much of the stream had arrived when they were
due.
-/

namespace LaserDac.StreamingResampler

variable {T : Type}

/-! ### What a resampler has heard -/

def whole (fromRate toRate : Nat) (inputs : List T) (nOut : Nat) : StreamingResampler T where
  fromRate
  toRate
  buf := inputs
  bufStart := 0
  nIn := inputs.length
  nOut

/-- The inputs since the last reset; the last ones of them are retained. -/
structure Heard (inputs : List T) (r : StreamingResampler T) : Prop where
  sound : r.Sound
  nIn : r.nIn = inputs.length
  buf : r.buf = inputs.drop r.bufStart
  few : r.buf.length ≤ 2

theorem pruneTo_drop (targetStart : Nat) (buf : List T) (start : Nat) :
    start ≤ (pruneTo targetStart buf start).2 ∧
      (pruneTo targetStart buf start).1 = buf.drop ((pruneTo targetStart buf start).2 - start) := by
  fun_induction pruneTo targetStart buf start with
  | case1 sample next rest start more ih =>
    obtain ⟨later, dropped⟩ := ih
    refine ⟨by omega, ?_⟩
    rw [dropped]
    obtain ⟨further, known⟩ := Nat.exists_eq_add_of_le later
    rw [known, Nat.add_sub_cancel_left, Nat.add_assoc, Nat.add_sub_cancel_left, Nat.add_comm 1 further]
    rfl
  | case2 sample next rest start more => simp
  | case3 buf start => simp

theorem pruneTo_few (targetStart : Nat) (buf : List T) (start : Nat) :
    targetStart ≤ (pruneTo targetStart buf start).2 ∨ (pruneTo targetStart buf start).1.length ≤ 1 := by
  fun_induction pruneTo targetStart buf start with
  | case1 sample next rest start more ih => exact ih
  | case2 sample next rest start more => exact .inl (Nat.not_lt.mp more)
  | case3 buf start short =>
    right
    rcases buf with _ | ⟨sample, _ | ⟨next, rest⟩⟩
    · exact Nat.zero_le _
    · exact le_rfl
    · exact absurd rfl (short sample next rest)

theorem last_le_nextIdx {r : StreamingResampler T} (positive : 0 < r.fromRate ∧ 0 < r.toRate)
    (counted : r.nOut = r.totalEmittable r.nIn) : r.nIn - 1 ≤ r.nextIdx := by
  unfold totalEmittable at counted
  split at counted
  · omega
  · rw [nextIdx, Nat.le_div_iff_mul_le positive.2, counted]
    have remainder := Nat.lt_div_mul_add (a := (r.nIn - 1) * r.toRate) positive.1
    rw [Nat.add_mul]
    omega

theorem prune_heard {q : StreamingResampler T} {inputs : List T} (sound : q.prune.Sound) (nIn : q.nIn = inputs.length)
    (buf : q.buf = inputs.drop q.bufStart) : Heard inputs q.prune := by
  have retained : q.prune.bufStart + q.prune.buf.length = q.nIn := sound.retained
  have reached : q.nIn - 1 ≤ q.nextIdx := last_le_nextIdx sound.rates sound.counted
  have pruned : q.nextIdx - 1 ≤ q.prune.bufStart ∨ q.prune.buf.length ≤ 1 := pruneTo_few (q.nextIdx - 1) q.buf q.bufStart
  obtain ⟨later, dropped⟩ : q.bufStart ≤ q.prune.bufStart ∧ q.prune.buf = q.buf.drop (q.prune.bufStart - q.bufStart) :=
    pruneTo_drop (q.nextIdx - 1) q.buf q.bufStart
  refine ⟨sound, nIn, ?_, by omega⟩
  rw [dropped, buf, List.drop_drop, Nat.add_sub_cancel' later]

theorem sampleAt_eq {r : StreamingResampler T} {inputs : List T} {last : Nat} (buf : r.buf = inputs.drop r.bufStart)
    (abs : Int) (low : r.bufStart ≤ abs.toNat) (inside : r.bufStart ≤ last) :
    r.sampleAt abs last = inputs[(min (max abs 0) (last : Int)).toNat]? := by
  unfold sampleAt
  dsimp only
  rw [if_neg (by omega), buf, List.getElem?_drop]
  congr 1
  omega

variable [CatmullInterp T]

variable {inputs : List T}

theorem output_whole {r : StreamingResampler T} {last : Nat} (buf : r.buf = inputs.drop r.bufStart)
    (start : r.bufStart ≤ r.nextIdx - 1) (inside : r.bufStart ≤ last) :
    r.output last = (whole r.fromRate r.toRate inputs r.nOut).output last := by
  unfold nextIdx at start
  unfold output
  dsimp only [whole]
  generalize r.nOut * r.fromRate / r.toRate = idx at start
  rw [sampleAt_eq buf _ (by omega) inside, sampleAt_eq buf _ (by omega) inside, sampleAt_eq buf _ (by omega) inside,
    sampleAt_eq buf _ (by omega) inside]
  simp [sampleAt]

theorem emit_whole {last : Nat} (count : Nat) {r r' : StreamingResampler T} {samples : List T}
    (buf : r.buf = inputs.drop r.bufStart) (start : r.bufStart ≤ r.nextIdx - 1) (inside : r.bufStart ≤ last)
    (emitted : emit last count r = some (samples, r')) {i : Nat} {sample : T} (at_ : samples[i]? = some sample) :
    (whole r.fromRate r.toRate inputs (r.nOut + i)).output last = some sample := by
  induction count generalizing r samples i with
  | zero =>
    obtain ⟨rfl, rfl⟩ := Prod.mk.inj (Option.some.inj emitted)
    simp at at_
  | succ count ih =>
    rw [emit] at emitted
    simp only [Option.bind_eq_bind, Option.bind_eq_some_iff] at emitted
    obtain ⟨first, out, ⟨rest, after⟩, later, same⟩ := emitted
    obtain ⟨rfl, rfl⟩ := Prod.mk.inj (Option.some.inj same)
    cases i with
    | zero =>
      obtain rfl : first = sample := Option.some.inj at_
      rw [Nat.add_zero, ← output_whole buf start inside]
      exact out
    | succ i =>
      have followed := ih (r := { r with nOut := r.nOut + 1 }) buf
        (Nat.le_trans start (Nat.sub_le_sub_right nextIdx_mono 1)) inside later at_
      rw [show r.nOut + (i + 1) = r.nOut + 1 + i by omega]
      exact followed

theorem process_prunes {r r' : StreamingResampler T} {input samples : List T}
    (processed : r.process input = some (samples, r')) (some_ : r.nIn + input.length ≠ 0) :
    ∃ q : StreamingResampler T,
      emit (r.nIn + input.length - 1) (r.pendingOutputCount input.length)
        { r with buf := r.buf ++ input, nIn := r.nIn + input.length } = some (samples, q) ∧ q.prune = r' := by
  unfold process at processed
  dsimp only at processed
  rw [if_neg some_, Option.bind_eq_bind, Option.bind_eq_some_iff] at processed
  obtain ⟨⟨emitted, q⟩, due, same⟩ := processed
  obtain ⟨rfl, rfl⟩ := Prod.mk.inj (Option.some.inj same)
  exact ⟨q, due, rfl⟩

/-- A chunk is processed without a panic. Its outputs are as many as announced, and those of a resampler that kept
everything. -/
theorem process_heard (input : List T) {r : StreamingResampler T} (heard : Heard inputs r) :
    ∃ samples r', r.process input = some (samples, r') ∧ samples.length = r.pendingOutputCount input.length ∧
      Heard (inputs ++ input) r' ∧ r'.fromRate = r.fromRate ∧ r'.toRate = r.toRate ∧
      r'.nOut = r.nOut + samples.length ∧ ∀ i sample, samples[i]? = some sample →
        (whole r.fromRate r.toRate (inputs ++ input) (r.nOut + i)).output ((inputs ++ input).length - 1) = some sample := by
  obtain ⟨sound, nIn, buf, few⟩ := heard
  obtain ⟨samples, r', processed, length, sound', nIn', fromRate, toRate⟩ := process_sound input sound
  have total : r'.nIn = (inputs ++ input).length := by
    rw [nIn', nIn, List.length_append]
  have count : r'.nOut = r.nOut + samples.length := by
    have due := totalEmittable_mono r (Nat.le_add_right r.nIn input.length)
    have same : r'.totalEmittable r'.nIn = r.totalEmittable (r.nIn + input.length) := by
      rw [totalEmittable, totalEmittable, nIn', fromRate, toRate]
    rw [sound'.counted, same, length, pendingOutputCount, sound.counted]
    omega
  have retained := sound.retained
  have retained' := sound'.retained
  refine ⟨samples, r', processed, length, ?_⟩
  by_cases none : r.nIn + input.length = 0
  · have empty : r'.buf = [] := List.length_eq_zero_iff.mp (by omega)
    have silent : inputs ++ input = [] := List.length_eq_zero_iff.mp (by omega)
    refine ⟨⟨sound', total, ?_, ?_⟩, fromRate, toRate, count, fun i sample at_ => ?_⟩
    · rw [empty, silent, List.drop_nil]
    · simp [empty]
    · have inside := (List.getElem?_eq_some_iff.mp at_).1
      rw [length, pendingOutputCount, none, totalEmittable, if_pos rfl, Nat.zero_sub] at inside
      omega
  obtain ⟨q, emitted, rfl⟩ := process_prunes processed none
  have known : r.buf ++ input = (inputs ++ input).drop r.bufStart := by
    rw [List.drop_append_of_le_length (by omega), buf]
  have longer : r.bufStart + (r.buf ++ input).length = r.nIn + input.length := by
    rw [List.length_append]
    omega
  have kept : 0 < (r.buf ++ input).length := by
    have := sound.kept
    rw [List.length_append]
    omega
  obtain ⟨_, again, -⟩ := emit_total (r.pendingOutputCount input.length)
    { r with buf := r.buf ++ input, nIn := r.nIn + input.length } longer kept sound.start
  obtain ⟨rfl, rfl⟩ := Prod.mk.inj (Option.some.inj (again.symm.trans emitted))
  refine ⟨prune_heard sound' total known, fromRate, toRate, count, fun i sample at_ => ?_⟩
  rw [List.length_append, ← nIn]
  refine emit_whole _ (r := { r with buf := r.buf ++ input, nIn := r.nIn + input.length }) known sound.start ?_ emitted at_
  show r.bufStart ≤ r.nIn + input.length - 1
  rw [List.length_append] at longer kept
  omega

/-- Process chunk after chunk. Each output comes with the number of inputs that had arrived when it was emitted. -/
def feed : List (List T) → StreamingResampler T → Option (List (Nat × T) × StreamingResampler T)
  | [], r => some ([], r)
  | chunk :: chunks, r => do
    let (samples, r) ← r.process chunk
    let (rest, last) ← feed chunks r
    return (samples.map (Prod.mk r.nIn) ++ rest, last)

/-- The outputs of a stream: as many as its inputs are worth, each one that of a resampler that kept everything that
had arrived. -/
theorem feed_heard (chunks : List (List T)) {inputs : List T} {r : StreamingResampler T} (heard : Heard inputs r) :
    ∃ outputs r', feed chunks r = some (outputs, r') ∧ Heard (inputs ++ chunks.flatten) r' ∧
      r'.fromRate = r.fromRate ∧ r'.toRate = r.toRate ∧ r.nOut + outputs.length = r'.nOut ∧
      ∀ i arrived sample, outputs[i]? = some (arrived, sample) →
        arrived ≤ (inputs ++ chunks.flatten).length ∧ r.nOut + i < r.totalEmittable arrived ∧
        (whole r.fromRate r.toRate ((inputs ++ chunks.flatten).take arrived) (r.nOut + i)).output (arrived - 1) =
          some sample := by
  induction chunks generalizing inputs r with
  | nil =>
    refine ⟨[], r, rfl, ?_, rfl, rfl, rfl, fun i arrived sample at_ => ?_⟩
    · rw [List.flatten_nil, List.append_nil]
      exact heard
    · simp at at_
  | cons chunk chunks ih =>
    obtain ⟨samples, next, processed, length, heard', fromRate, toRate, moved, values⟩ := process_heard chunk heard
    obtain ⟨rest, last, fed, heardAll, fromRate', toRate', count, later⟩ := ih heard'
    rw [List.flatten_cons, ← List.append_assoc]
    refine ⟨samples.map (Prod.mk next.nIn) ++ rest, last, ?_, heardAll, fromRate'.trans fromRate,
      toRate'.trans toRate, ?_,
      fun i arrived sample at_ => ?_⟩
    · simp [feed, processed, fed]
    · rw [List.length_append, List.length_map]
      omega
    rcases Nat.lt_or_ge i samples.length with early | late
    · -- An output of the first chunk.
      rw [List.getElem?_append_left (by simpa using early), List.getElem?_map, Option.map_eq_some_iff] at at_
      obtain ⟨emitted, at_, same⟩ := at_
      obtain ⟨rfl, rfl⟩ := Prod.mk.inj same
      rw [heard'.nIn, List.take_left]
      refine ⟨by simp, ?_, values i emitted at_⟩
      rw [length, pendingOutputCount] at early
      rw [List.length_append, ← heard.nIn]
      omega
    · rw [List.getElem?_append_right (by simpa using late), List.length_map] at at_
      obtain ⟨here, due, value⟩ := later _ _ _ at_
      rw [show next.nOut + (i - samples.length) = r.nOut + i by omega] at due value
      rw [fromRate, toRate] at value
      refine ⟨here, ?_, value⟩
      rw [totalEmittable, fromRate, toRate] at due
      rw [totalEmittable]
      exact due

omit [CatmullInterp T] in
theorem new_heard {fromRate toRate : Nat} (rate : 1 ≤ fromRate) (rate' : 1 ≤ toRate) :
    ∃ fresh : StreamingResampler T, new fromRate toRate = some fresh ∧ Heard [] fresh ∧ fresh.fromRate = fromRate ∧
      fresh.toRate = toRate ∧ fresh.nOut = 0 := by
  refine ⟨_, if_pos ⟨rate, rate'⟩, ⟨⟨⟨rate, rate'⟩, rfl, rfl, ?_, ?_⟩, rfl, rfl, ?_⟩, rfl, rfl, rfl⟩ <;> simp

end LaserDac.StreamingResampler

namespace LaserDac.AudioSinkState

variable {P : Type}

/-- Push one point after another, while the audio callback pops: so many points before each push. A push that finds
the queue full fails. -/
def pushAmidPops : List (Nat × P) → AudioSinkState P → Option (AudioSinkState P)
  | [], sink => some sink
  | (pops, point) :: rest, sink =>
    let popped := { sink with queue := sink.queue.drop pops }
    if popped.queue.length < popped.capacity then pushAmidPops rest (popped.pushPoint point) else none

theorem pushAmidPops_isSome {pushes : List (Nat × P)} {sink : AudioSinkState P}
    (room : sink.queue.length + pushes.length ≤ sink.capacity) : (pushAmidPops pushes sink).isSome := by
  induction pushes generalizing sink with
  | nil => rfl
  | cons push pushes ih =>
    obtain ⟨pops, point⟩ := push
    rw [List.length_cons] at room
    have free : (sink.queue.drop pops).length < sink.capacity := by
      rw [List.length_drop]
      omega
    rw [pushAmidPops]
    dsimp only
    rw [if_pos free, pushPoint, if_pos free]
    refine ih ?_
    simp only [List.length_append, List.length_drop, List.length_singleton]
    omega

end LaserDac.AudioSinkState

namespace LaserDac.StreamingResampler

variable {T : Type} [CatmullInterp T]

/-- Whatever the chunks: the number of outputs is that of the whole stream, no read leaves the retained inputs, which
are at most two, and a chunk whose outputs were found to fit into the queue does fit. -/
theorem resampler_counts (fromRate toRate : Nat) (rate : 1 ≤ fromRate) (rate' : 1 ≤ toRate) (chunks : List (List T)) :
    ∃ (fresh r : StreamingResampler T) (outputs : List (Nat × T)),
      new fromRate toRate = some fresh ∧ fresh.feed chunks = some (outputs, r) ∧
      (outputs.length = if chunks.flatten.length = 0 then 0 else (chunks.flatten.length - 1) * toRate / fromRate + 1) ∧
      r.buf.length ≤ 2 ∧
      ∀ chunk, ∃ samples r', r.process chunk = some (samples, r') ∧
        samples.length = r.pendingOutputCount chunk.length ∧ r'.buf.length ≤ 2 ∧
        ∀ sink : AudioSinkState T, sink.hasCapacityFor (r.pendingOutputCount chunk.length) → ∀ pops : List Nat,
          pops.length = samples.length → (sink.pushAmidPops (pops.zip samples)).isSome := by
  obtain ⟨fresh, created, heard, fromFresh, toFresh, silent⟩ := new_heard (T := T) rate rate'
  obtain ⟨outputs, r, fed, heardAll, fromSame, toSame, count, -⟩ := feed_heard chunks heard
  refine ⟨fresh, r, outputs, created, fed, ?_, heardAll.few, fun chunk => ?_⟩
  · have total := heardAll.sound.counted
    rw [heardAll.nIn, totalEmittable, List.nil_append, toSame, toFresh, fromSame, fromFresh] at total
    rw [← total]
    omega
  · obtain ⟨samples, r', processed, length, heard', -⟩ := process_heard chunk heardAll
    refine ⟨samples, r', processed, length, heard'.few, fun sink room pops paired => ?_⟩
    rw [AudioSinkState.hasCapacityFor, AudioSinkState.remainingCapacity, ← length, Bool.or_eq_true, decide_eq_true_eq,
      decide_eq_true_eq] at room
    by_cases nothing : samples.length = 0
    · rw [List.length_eq_zero_iff.mp nothing, List.zip_nil_right]
      rfl
    · refine AudioSinkState.pushAmidPops_isSome ?_
      rw [List.length_zip, paired, min_self]
      omega

/-- Three inputs in two chunks are worth four outputs. -/
theorem resampler_counts_three :
    ∃ (fresh r : StreamingResampler ℚ) (outputs : List (Nat × ℚ)),
      new 2 3 = some fresh ∧ fresh.feed [[1, 2], [3]] = some (outputs, r) ∧ outputs.length = 4 := by
  obtain ⟨fresh, r, outputs, created, fed, length, -⟩ :=
    resampler_counts (T := ℚ) 2 3 (by decide) (by decide) [[1, 2], [3]]
  exact ⟨fresh, r, outputs, created, fed, length.trans (by decide)⟩

/-- The input that an output lies at, or after. -/
def sourceIndex (fromRate toRate n : Nat) : Nat := n * fromRate / toRate

/-- How far an output lies after it. -/
def sourceFraction (fromRate toRate n : Nat) : ℚ := (n * fromRate % toRate : Nat) / toRate

theorem sourceFraction_nonneg (fromRate toRate n : Nat) : 0 ≤ sourceFraction fromRate toRate n := by
  unfold sourceFraction
  positivity

theorem sourceFraction_le_one (fromRate : Nat) {toRate : Nat} (rate : 1 ≤ toRate) (n : Nat) :
    sourceFraction fromRate toRate n ≤ 1 := by
  unfold sourceFraction
  rw [div_le_one (by exact_mod_cast rate)]
  exact_mod_cast (Nat.mod_lt _ rate).le

/-- An output of a stream, emitted when so many inputs had arrived. -/
structure Emitted (fromRate toRate : Nat) (inputs : List T) (n arrived : Nat) (sample : T) : Prop where
  due : sourceIndex fromRate toRate n < arrived
  between : sourceFraction fromRate toRate n ≠ 0 → sourceIndex fromRate toRate n + 1 < arrived
  here : arrived ≤ inputs.length
  value : ∃ s0 s1 s2 s3,
    inputs[sourceIndex fromRate toRate n - 1]? = some s0 ∧ inputs[sourceIndex fromRate toRate n]? = some s1 ∧
    inputs[min (sourceIndex fromRate toRate n + 1) (arrived - 1)]? = some s2 ∧
    inputs[min (sourceIndex fromRate toRate n + 2) (arrived - 1)]? = some s3 ∧
    sample = CatmullInterp.catmull s0 s1 s2 s3 (sourceFraction fromRate toRate n)

omit [CatmullInterp T] in
theorem due_between {r : StreamingResampler T} (rates : 0 < r.fromRate ∧ 0 < r.toRate) {n arrived : Nat}
    (due : n < r.totalEmittable arrived) :
    sourceIndex r.fromRate r.toRate n < arrived ∧
      (sourceFraction r.fromRate r.toRate n ≠ 0 → sourceIndex r.fromRate r.toRate n + 1 < arrived) := by
  unfold totalEmittable at due
  split at due
  · exact absurd due (Nat.not_lt_zero _)
  rename_i some_
  have position : n * r.fromRate ≤ (arrived - 1) * r.toRate :=
    (Nat.le_div_iff_mul_le rates.1).mp (Nat.le_of_lt_succ due)
  have index := Nat.div_add_mod (n * r.fromRate) r.toRate
  unfold sourceIndex sourceFraction
  constructor
  · have bound : n * r.fromRate / r.toRate ≤ arrived - 1 := Nat.div_le_of_le_mul (by rwa [Nat.mul_comm r.toRate])
    omega
  · intro inside
    have remainder : n * r.fromRate % r.toRate ≠ 0 := by
      intro zero
      simp [zero] at inside
    have below : n * r.fromRate / r.toRate * r.toRate < (arrived - 1) * r.toRate := by
      rw [Nat.mul_comm]
      omega
    have := Nat.lt_of_mul_lt_mul_right below
    omega

variable {sample : T}

theorem emitted_of_output {fromRate toRate : Nat} {inputs : List T} {n arrived : Nat}
    (due : sourceIndex fromRate toRate n < arrived)
    (between : sourceFraction fromRate toRate n ≠ 0 → sourceIndex fromRate toRate n + 1 < arrived)
    (here : arrived ≤ inputs.length)
    (output : (whole fromRate toRate (inputs.take arrived) n).output (arrived - 1) = some sample) :
    Emitted fromRate toRate inputs n arrived sample := by
  refine ⟨due, between, here, ?_⟩
  have all : (whole fromRate toRate (inputs.take arrived) n).buf = (inputs.take arrived).drop 0 := rfl
  have read (abs : Int) : (whole fromRate toRate (inputs.take arrived) n).sampleAt abs (arrived - 1) =
      inputs[(min (max abs 0) ((arrived - 1 : Nat) : Int)).toNat]? := by
    rw [sampleAt_eq all abs (Nat.zero_le _) (Nat.zero_le _), List.getElem?_take_of_lt (by omega)]
  unfold StreamingResampler.output at output
  simp only [read, Option.bind_eq_bind, Option.bind_eq_some_iff] at output
  obtain ⟨s0, first, s1, second, s2, third, s3, fourth, same⟩ := output
  dsimp only [whole] at first second third fourth
  unfold sourceIndex at due ⊢
  generalize n * fromRate / toRate = idx at due first second third fourth ⊢
  refine ⟨s0, s1, s2, s3, ?_, ?_, ?_, ?_, (Option.some.inj same).symm⟩
  · rw [← first]
    congr 1
    omega
  · rw [← second]
    congr 1
    omega
  · rw [← third]
    congr 1
    omega
  · rw [← fourth]
    congr 1
    omega

theorem feed_emitted {fresh : StreamingResampler T} (heard : Heard [] fresh) (silent : fresh.nOut = 0)
    (chunks : List (List T)) {outputs : List (Nat × T)} {r : StreamingResampler T}
    (fed : fresh.feed chunks = some (outputs, r)) {n arrived : Nat} (at_ : outputs[n]? = some (arrived, sample)) :
    Emitted fresh.fromRate fresh.toRate chunks.flatten n arrived sample := by
  obtain ⟨_, _, again, -, -, -, -, values⟩ := feed_heard chunks heard
  obtain ⟨rfl, rfl⟩ := Prod.mk.inj (Option.some.inj (again.symm.trans fed))
  obtain ⟨here, due, value⟩ := values n arrived sample at_
  rw [silent, Nat.zero_add] at due value
  obtain ⟨reached, between⟩ := due_between heard.sound.rates due
  exact emitted_of_output reached between here value

theorem process_emitted {fresh : StreamingResampler T} (heard : Heard [] fresh) (silent : fresh.nOut = 0)
    (inputs : List T) {samples : List T} {r : StreamingResampler T}
    (processed : fresh.process inputs = some (samples, r)) {n : Nat} (at_ : samples[n]? = some sample) :
    Emitted fresh.fromRate fresh.toRate inputs n inputs.length sample := by
  have fed : fresh.feed [inputs] = some (samples.map (Prod.mk r.nIn), r) := by
    simp [feed, processed]
  obtain ⟨_, after, again, -, heard', -⟩ := process_heard inputs heard
  obtain ⟨-, same⟩ := Prod.mk.inj (Option.some.inj (processed.symm.trans again))
  have tagged : (samples.map (Prod.mk r.nIn))[n]? = some (inputs.length, sample) := by
    rw [List.getElem?_map, at_, same, heard'.nIn]
    rfl
  have emitted := feed_emitted heard silent [inputs] fed tagged
  rwa [List.flatten_singleton] at emitted

end LaserDac.StreamingResampler

namespace LaserDac

theorem catmull_eq (s0 s1 s2 s3 t : ℚ) : CatmullInterp.catmull s0 s1 s2 s3 t = catmullRom s0 s1 s2 s3 t := rfl

theorem catmullRom_zero (s0 s1 s2 s3 : ℚ) : catmullRom s0 s1 s2 s3 0 = s1 := by
  simp [catmullRom]

theorem catmullRom_sub (s0 s1 s2 s3 s3' t : ℚ) :
    catmullRom s0 s1 s2 s3 t - catmullRom s0 s1 s2 s3' t = (s3 - s3') * (t ^ 3 - t ^ 2) / 2 := by
  unfold catmullRom
  ring

theorem weight_bound {t : ℚ} (nonneg : 0 ≤ t) (small : t ≤ 1) : |(t ^ 3 - t ^ 2) / 2| ≤ 2 / 27 := by
  have root : 0 ≤ (3 * t - 2) ^ 2 * (3 * t + 1) := by positivity
  have inside : 0 ≤ t ^ 2 * (1 - t) := mul_nonneg (by positivity) (by linarith)
  rw [abs_le]
  constructor <;> nlinarith

namespace StreamingResampler

/-- Two runs over the same stream: the outputs are equal unless one of them was emitted before the input after the
next had arrived. -/
theorem Emitted.error {fromRate toRate : Nat} (rate : 1 ≤ toRate) {inputs : List ℚ} {n arrived : Nat} {y w : ℚ}
    (chunked : Emitted fromRate toRate inputs n arrived y) (atOnce : Emitted fromRate toRate inputs n inputs.length w) :
    let idx := sourceIndex fromRate toRate n
    let t := sourceFraction fromRate toRate n
    (y = w ∨ ∃ next after, inputs[idx + 1]? = some next ∧ inputs[idx + 2]? = some after ∧ arrived ≤ idx + 2 ∧
      w - y = (after - next) * (t ^ 3 - t ^ 2) / 2 ∧ |w - y| ≤ 2 / 27 * |after - next|) ∧
    (t = 0 → inputs[idx]? = some y ∧ inputs[idx]? = some w) := by
  dsimp only
  have nonneg := sourceFraction_nonneg fromRate toRate n
  have small := sourceFraction_le_one fromRate rate n
  obtain ⟨due, between, here, s0, s1, s2, s3, first, second, third, fourth, rfl⟩ := chunked
  obtain ⟨-, between', -, s0', s1', s2', s3', first', second', third', fourth', rfl⟩ := atOnce
  generalize sourceIndex fromRate toRate n = idx at *
  generalize sourceFraction fromRate toRate n = t at *
  obtain rfl : s0 = s0' := Option.some.inj (first.symm.trans first')
  obtain rfl : s1 = s1' := Option.some.inj (second.symm.trans second')
  rw [catmull_eq, catmull_eq]
  by_cases zero : t = 0
  · subst zero
    rw [catmullRom_zero, catmullRom_zero]
    exact ⟨.inl rfl, fun _ => ⟨second, second⟩⟩
  refine ⟨?_, fun same => absurd same zero⟩
  have two := between zero
  rw [min_eq_left (by omega)] at third third'
  obtain rfl : s2 = s2' := Option.some.inj (third.symm.trans third')
  by_cases known : idx + 2 < arrived
  · rw [min_eq_left (by omega)] at fourth fourth'
    obtain rfl : s3 = s3' := Option.some.inj (fourth.symm.trans fourth')
    exact .inl rfl
  -- The chunked run had the next input only and repeated it.
  rw [min_eq_right (by omega), show arrived - 1 = idx + 1 by omega] at fourth
  obtain rfl : s2 = s3 := Option.some.inj (third.symm.trans fourth)
  by_cases exists_ : idx + 2 < inputs.length
  · rw [min_eq_left (by omega)] at fourth'
    refine .inr ⟨s2, s3', third, fourth', by omega, catmullRom_sub .., ?_⟩
    rw [catmullRom_sub, mul_div_assoc, abs_mul, mul_comm]
    exact mul_le_mul_of_nonneg_right (weight_bound nonneg small) (abs_nonneg _)
  · rw [min_eq_right (by omega), show inputs.length - 1 = idx + 1 by omega] at fourth'
    obtain rfl : s2 = s3' := Option.some.inj (third.symm.trans fourth')
    exact .inl rfl

/-- What a chunking does to the outputs: not their number, and their values only by the tangent at a missing input. -/
theorem chunking_error (fromRate toRate : Nat) (rate : 1 ≤ fromRate) (rate' : 1 ≤ toRate) (chunks : List (List ℚ)) :
    ∃ (fresh r r' : StreamingResampler ℚ) (y : List (Nat × ℚ)) (w : List ℚ),
      new fromRate toRate = some fresh ∧ fresh.feed chunks = some (y, r) ∧
      fresh.process chunks.flatten = some (w, r') ∧ y.length = w.length ∧
      ∀ n arrived yn wn, y[n]? = some (arrived, yn) → w[n]? = some wn →
        let x := chunks.flatten
        let idx := sourceIndex fromRate toRate n
        let t := sourceFraction fromRate toRate n
        (yn = wn ∨ ∃ next after, x[idx + 1]? = some next ∧ x[idx + 2]? = some after ∧ arrived ≤ idx + 2 ∧
          wn - yn = (after - next) * (t ^ 3 - t ^ 2) / 2 ∧ |wn - yn| ≤ 2 / 27 * |after - next|) ∧
        (t = 0 → x[idx]? = some yn ∧ x[idx]? = some wn) := by
  obtain ⟨fresh, created, heard, fromFresh, toFresh, silent⟩ := new_heard (T := ℚ) rate rate'
  obtain ⟨y, r, fed, heardAll, fromSame, toSame, count, -⟩ := feed_heard chunks heard
  obtain ⟨w, r', processed, length, -⟩ := process_heard chunks.flatten heard
  refine ⟨fresh, r, r', y, w, created, fed, processed, ?_, fun n arrived yn wn atY atW => ?_⟩
  · have total := heardAll.sound.counted
    rw [totalEmittable, heardAll.nIn, List.nil_append, fromSame, toSame] at total
    rw [length, pendingOutputCount, totalEmittable, heard.nIn, List.length_nil, Nat.zero_add]
    omega
  · have chunked := feed_emitted heard silent chunks fed atY
    have atOnce := process_emitted heard silent chunks.flatten processed atW
    rw [fromFresh, toFresh] at chunked atOnce
    exact chunked.error rate' atOnce

/-- Two outputs for each input, with a border between two chunks after the second input: the output after the first
input is made without the third. -/
theorem chunking_error_halves :
    ∃ (fresh r r' : StreamingResampler ℚ) (y : List (Nat × ℚ)) (w : List ℚ),
      new 1 2 = some fresh ∧ fresh.feed [[0, 1], [5]] = some (y, r) ∧
      fresh.process [0, 1, 5] = some (w, r') ∧ y.length = w.length ∧
      y[1]? = some (2, 1 / 2) ∧ w[1]? = some (1 / 4) ∧
      (1 / 4 - 1 / 2 : ℚ) = (5 - 1) * (sourceFraction 1 2 1 ^ 3 - sourceFraction 1 2 1 ^ 2) / 2 ∧
      |(1 / 4 - 1 / 2 : ℚ)| ≤ 2 / 27 * |5 - 1| := by
  obtain ⟨fresh, r, r', y, w, created, fed, processed, same, error⟩ :=
    chunking_error 1 2 (by decide) (by decide) [[0, 1], [5]]
  have chunked : ((new 1 2).bind (feed [[(0 : ℚ), 1], [5]])).map (fun out => out.1[1]?) = some (some (2, 1 / 2)) := by
    decide +kernel
  have atOnce : ((new 1 2).bind (process [[(0 : ℚ), 1], [5]].flatten)).map (fun out => out.1[1]?) = some (some (1 / 4)) := by
    decide +kernel
  rw [created, Option.bind_some, fed] at chunked
  rw [created, Option.bind_some, processed] at atOnce
  have second := Option.some.inj chunked
  have whole := Option.some.inj atOnce
  obtain ⟨either, -⟩ := error 1 2 _ _ second whole
  obtain ⟨_, _, next, after, -, apart, bound⟩ := either.resolve_left (by norm_num)
  obtain rfl := Option.some.inj next
  obtain rfl := Option.some.inj after
  exact ⟨fresh, r, r', y, w, created, fed, processed, same, second, whole, apart, bound⟩

end StreamingResampler

end LaserDac
