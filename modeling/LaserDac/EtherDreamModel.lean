import LaserDac.EtherDreamProtocol

/-!
The simulated Ether Dream. It takes command bytes and the time and answers as a DAC of a given firmware would; points
are played lazily, when the clock is advanced. Times are nanoseconds.
-/

namespace LaserDac.EtherDream

open Bytes

/-- What the simulated firmware advertises and how it behaves. -/
structure FirmwareProfile where
  bufferCapacity : UInt16
  maxPointRate : UInt32
  versionString : Option (List UInt8)
  alwaysSetPlaybackFlags : UInt16
  ringPoints : UInt16
  naksFull : Bool
  beginWhileIdleAcked : Bool
  stopWhileIdleNaks : Bool
  staleFullnessUntilPrepare : Bool
  estopClearImmediate : Bool
  unknownCommandResetsTcp : Bool
  dataPartialWriteThenNakInvalid : Bool
  dataWhileIdleNakInvalid : Bool
  rateNakConsumesOneByte : Bool
  zeroRateHangs : Bool
  closeStopsPlayback : Bool
  lightEngineFlagsMirrorState : Bool
  deriving DecidableEq, Repr

/-- `FirmwareProfile::ed1_j4cdac` -/
def FirmwareProfile.ed1J4cdac : FirmwareProfile where
  bufferCapacity := 1799
  maxPointRate := 100000
  versionString := some [0x73, 0x69, 0x6d, 0x2d, 0x65, 0x64, 0x31, 0x2d, 0x6a, 0x34, 0x63, 0x64, 0x61, 0x63]
  alwaysSetPlaybackFlags := 0
  ringPoints := 1799
  naksFull := false
  beginWhileIdleAcked := true
  stopWhileIdleNaks := true
  staleFullnessUntilPrepare := true
  estopClearImmediate := true
  unknownCommandResetsTcp := true
  dataPartialWriteThenNakInvalid := true
  dataWhileIdleNakInvalid := true
  rateNakConsumesOneByte := true
  zeroRateHangs := true
  closeStopsPlayback := false
  lightEngineFlagsMirrorState := true

/-- What a command is answered with, if anything. -/
inductive Reply
  | response (response : DacResponse)
  | version (raw : List UInt8)
  | reset
  | hang
  deriving DecidableEq, Repr

def Reply.toBytes : Reply → List UInt8
  | .response frame => frame.write
  | .version raw => raw
  | .reset | .hang => []

/-- `NANOS_PER_SEC` -/
def nanosPerSec : Nat := 1000000000

/-- `WARMUP` -/
def warmup : Nat := 100000000

/-- `RATE_QUEUE_LEN` -/
def rateQueueLen : Nat := 200

/-- The state of a DAC, with the bytes it has not handled. -/
structure EtherDreamModel where
  profile : FirmwareProfile
  now : Nat
  input : List UInt8
  lightEngine : LightEngine
  warmupUntil : Option Nat
  interlockOk : Bool
  playback : Playback
  sticky : UInt16
  ring : List DacPoint
  pointCount : UInt32
  rateQueue : List UInt32
  segStart : Nat
  segRate : UInt32
  segPlayed : Nat
  hung : Bool
  acceptedTotal : Nat
  playedTotal : Nat
  underflows : Nat
  overfullWrites : Nat
  nakReplies : Nat
  recordOutput : Bool
  output : List DacPoint
  recordInput : Bool
  commands : List UInt8
  receivedPoints : List DacPoint
  inject : Option (UInt8 × List UInt8)
  replyOverride : Option (UInt8 × UInt8)
  deriving DecidableEq, Repr

variable (code : UInt8) (command : Command) (m : EtherDreamModel) {after middle : EtherDreamModel} {bytes : List UInt8}
  {time : Nat}

namespace EtherDreamModel

/-- A freshly booted DAC. -/
def new (profile : FirmwareProfile) : EtherDreamModel where
  profile
  now := 0
  input := []
  lightEngine := .ready
  warmupUntil := none
  interlockOk := true
  playback := .idle
  sticky := 0
  ring := []
  pointCount := 0
  rateQueue := []
  segStart := 0
  segRate := 0
  segPlayed := 0
  hung := false
  acceptedTotal := 0
  playedTotal := 0
  underflows := 0
  overfullWrites := 0
  nakReplies := 0
  recordOutput := false
  output := []
  recordInput := false
  commands := []
  receivedPoints := []
  inject := none
  replyOverride := none

/-- When the `k`-th point of the segment plays, rounded up. -/
def pointTime (k : Nat) (m : EtherDreamModel) : Nat :=
  let rate := max m.segRate.toNat 1
  m.segStart + (k * nanosPerSec + rate - 1) / rate

def startSegment (start : Nat) (rate : UInt32) (m : EtherDreamModel) : EtherDreamModel :=
  { m with segStart := start, segRate := rate, segPlayed := 0 }

def underflow (m : EtherDreamModel) : EtherDreamModel :=
  { m with
    underflows := m.underflows + 1, playback := .idle, sticky := m.sticky ||| 0x2, segRate := 0, pointCount := 0
    rateQueue := [] }

def estop (m : EtherDreamModel) : EtherDreamModel :=
  { m with
    lightEngine := .emergencyStop, warmupUntil := none, playback := .idle, sticky := m.sticky ||| 0x4, segRate := 0
    rateQueue := [], ring := if m.profile.staleFullnessUntilPrepare then m.ring else [] }

def due (now : Nat) (m : EtherDreamModel) : Nat := (now - m.segStart) * m.segRate.toNat / nanosPerSec

/-- One point is played. A point with the control bit takes the next queued rate into force. -/
def playPoint (point : DacPoint) (m : EtherDreamModel) : EtherDreamModel :=
  let m := { m with
    segPlayed := m.segPlayed + 1, playedTotal := m.playedTotal + 1, pointCount := m.pointCount + 1
    output := if m.recordOutput then m.output ++ [point] else m.output }
  if point.control &&& 0x8000 ≠ 0 then
    match m.rateQueue with
    | rate :: rest => { m with rateQueue := rest }.startSegment (m.pointTime m.segPlayed) rate
    | [] => m
  else m

/-- Play what is due of a ring; a ring that runs dry ends the stream. -/
def play (now : Nat) (m : EtherDreamModel) : List DacPoint → EtherDreamModel
  | [] => if m.due now ≤ m.segPlayed then { m with ring := [] } else { m with ring := [] }.underflow
  | point :: ring =>
    if m.due now ≤ m.segPlayed then { m with ring := point :: ring } else play now (m.playPoint point) ring

def warmed (now : Nat) (m : EtherDreamModel) : EtherDreamModel :=
  match m.warmupUntil with
  | some stop => if stop ≤ now then { m with warmupUntil := none, lightEngine := .ready } else m
  | none => m

/-- Advance the clock; an earlier time is ignored. -/
def advanceTo (now : Nat) (m : EtherDreamModel) : EtherDreamModel :=
  if now ≤ m.now then m
  else
    let m := { m with now }.warmed now
    if m.playback = .playing then m.play now m.ring else m

def setInterlock (ok : Bool) (m : EtherDreamModel) : EtherDreamModel :=
  let m := if m.interlockOk && !ok then m.estop else m
  { m with interlockOk := ok }

def triggerEstop (now : Nat) (m : EtherDreamModel) : EtherDreamModel := (m.advanceTo now).estop

def status (m : EtherDreamModel) : DacStatus :=
  let playing : Bool := m.playback = .playing
  { protocol := 0
    lightEngineState := m.lightEngine.toProtocol
    playbackState := m.playback.toProtocol
    source := 0
    lightEngineFlags :=
      if m.lightEngine = .emergencyStop then (if m.profile.lightEngineFlagsMirrorState then 0x3 else 0x1) else 0
    playbackFlags := m.profile.alwaysSetPlaybackFlags ||| m.sticky ||| (if playing then 0x1 else 0)
    sourceFlags := 0
    bufferFullness := UInt16.ofNat (min m.ring.length 65535)
    pointRate := if playing then m.segRate else 0
    pointCount := if playing then m.pointCount else 0 }

def respond (code command : UInt8) (m : EtherDreamModel) : DacResponse :=
  { response := code, command, dacStatus := m.status }

/-- `'p'` -/
def prepareStream (m : EtherDreamModel) : UInt8 × EtherDreamModel :=
  if m.playback ≠ .idle ∨ m.lightEngine ≠ .ready then (DacResponse.nakInvalid, m)
  else (DacResponse.ack, { m with playback := .prepared, ring := [], pointCount := 0, rateQueue := [], sticky := 0 })

/-- `'b'` and `'u'` with a rate in range -/
def beginOrUpdate (isUpdate : Bool) (rate : UInt32) (m : EtherDreamModel) : UInt8 × EtherDreamModel :=
  if isUpdate ∨ m.playback = .playing then
    (DacResponse.ack, if m.playback = .playing then m.startSegment m.now rate else m)
  else if m.playback = .prepared then
    (DacResponse.ack, { { m with playback := .playing }.startSegment m.now rate with pointCount := 0 })
  else if m.profile.beginWhileIdleAcked then (DacResponse.ack, m)
  else (DacResponse.nakInvalid, m)

/-- `'q'` with a rate in range -/
def queueRate (rate : UInt32) (m : EtherDreamModel) : UInt8 × EtherDreamModel :=
  (DacResponse.ack,
    if m.playback ≠ .idle ∧ m.rateQueue.length < rateQueueLen - 1 then { m with rateQueue := m.rateQueue ++ [rate] }
    else m)

/-- `'d'` once it has arrived whole. What does not fit is dealt with as the firmware does. -/
def data (points : List DacPoint) (m : EtherDreamModel) : UInt8 × EtherDreamModel :=
  if points = [] then (DacResponse.ack, m)
  else if m.playback = .idle then
    (if m.profile.dataWhileIdleNakInvalid then DacResponse.nakInvalid else DacResponse.ack, m)
  else
    let space := m.profile.ringPoints.toNat - m.ring.length
    let m := if points.length > space then { m with overfullWrites := m.overfullWrites + 1 } else m
    let (take, code) :=
      if points.length ≤ space then (points.length, DacResponse.ack)
      else if m.profile.naksFull then (0, DacResponse.nakFull)
      else if m.profile.dataPartialWriteThenNakInvalid then (space, DacResponse.nakInvalid)
      else (0, DacResponse.nakInvalid)
    (code, { m with ring := m.ring ++ points.take take, acceptedTotal := m.acceptedTotal + take })

/-- `'s'` -/
def stop (m : EtherDreamModel) : UInt8 × EtherDreamModel :=
  if m.playback = .idle then (if m.profile.stopWhileIdleNaks then DacResponse.nakInvalid else DacResponse.ack, m)
  else
    (DacResponse.ack,
      { m with
        playback := .idle, segRate := 0, rateQueue := []
        ring := if m.profile.staleFullnessUntilPrepare then m.ring else [] })

/-- `'c'` -/
def clearEmergencyStop (m : EtherDreamModel) : UInt8 × EtherDreamModel :=
  if !m.interlockOk then (DacResponse.nakStopCondition, m)
  else
    let m :=
      if m.lightEngine = .emergencyStop then
        if m.profile.estopClearImmediate then { m with lightEngine := .ready }
        else { m with lightEngine := .warmup, warmupUntil := some (m.now + warmup) }
      else m
    (if m.lightEngine ≠ .ready then DacResponse.nakStopCondition else DacResponse.ack, m)

/-- The reply to a rate that is out of range; `none` for one that is not. -/
def checkRate (cmd : UInt8) (rate : UInt32) (fullLen : Nat) (m : EtherDreamModel) :
    Option (Nat × Reply × EtherDreamModel) :=
  if rate = 0 ∧ m.profile.zeroRateHangs then some (fullLen, .hang, { m with hung := true })
  else if rate = 0 ∨ rate > m.profile.maxPointRate then
    some (if m.profile.rateNakConsumesOneByte then 1 else fullLen,
      .response (m.respond DacResponse.nakInvalid cmd), m)
  else none

def versionReply (version : List UInt8) : Reply :=
  .version (version.take 32 ++ List.replicate (32 - min version.length 32) 0)

/-- The command at the front of the input: the bytes it takes and its reply; `none` as long as it is incomplete. -/
def step (input : List UInt8) (m : EtherDreamModel) : Option (Nat × Reply × EtherDreamModel) :=
  match input with
  | [] => none
  | cmd :: arguments =>
    let answer (consumed : Nat) (done : UInt8 × EtherDreamModel) : Option (Nat × Reply × EtherDreamModel) :=
      some (consumed, .response (done.2.respond done.1 cmd), done.2)
    if cmd = 0x70 then answer 1 m.prepareStream
    else if cmd = 0x62 ∨ cmd = 0x75 then
      match (do let _ ← readU16; readU32 : Reader UInt32).run arguments with
      | none => none
      | some (rate, _) =>
        match m.checkRate cmd rate 7 with
        | some refused => some refused
        | none => answer 7 (m.beginOrUpdate (cmd = 0x75) rate)
    else if cmd = 0x71 then
      match readU32.run arguments with
      | none => none
      | some (rate, _) =>
        match m.checkRate cmd rate 5 with
        | some refused => some refused
        | none => answer 5 (m.queueRate rate)
    else if cmd = 0x64 then
      match readU16.run arguments with
      | none => none
      | some (n, payload) =>
        match (readMany DacPoint.read n.toNat).run payload with
        | none => none
        | some (points, _) => answer (3 + n.toNat * DacPoint.sizeBytes) (m.data points)
    else if cmd = 0x73 then answer 1 m.stop
    else if cmd = 0x00 ∨ cmd = 0xFF then answer 1 (DacResponse.ack, m.estop)
    else if cmd = 0x63 then answer 1 m.clearEmergencyStop
    else if cmd = 0x3F then answer 1 (DacResponse.ack, m)
    else if cmd = 0x76 ∧ m.profile.versionString.isSome then
      some (1, versionReply (m.profile.versionString.getD []), m)
    else if m.profile.unknownCommandResetsTcp then some (input.length, .reset, m)
    else answer 1 (DacResponse.nakInvalid, m)

/-- Whether the input starts with a whole command. -/
def commandComplete (input : List UInt8) : Bool :=
  match input with
  | [] => false
  | cmd :: arguments =>
    if cmd = 0x62 ∨ cmd = 0x75 then input.length ≥ 7
    else if cmd = 0x71 then input.length ≥ 5
    else if cmd = 0x64 then
      match readU16.run arguments with
      | none => false
      | some (n, payload) => payload.length ≥ n.toNat * DacPoint.sizeBytes
    else true

/-- Another client's commands; their replies are discarded. -/
def runInjected : Nat → List UInt8 → EtherDreamModel → EtherDreamModel
  | 0, _, m => m
  | fuel + 1, input, m =>
    match m.step input with
    | none => m
    | some (consumed, _, m) => runInjected fuel (input.drop consumed) m

def injected (input : List UInt8) (m : EtherDreamModel) : EtherDreamModel :=
  match input.head?, m.inject with
  | some op, some (want, other) =>
    if op = want && commandComplete input then runInjected (other.length + 1) other { m with inject := none } else m
  | _, _ => m

/-- A reply code that was to be given instead of the usual one, and the count of refusals. -/
def countReply (reply : Reply) (m : EtherDreamModel) : Reply × EtherDreamModel :=
  match reply with
  | .response response =>
    let (response, m) :=
      match m.replyOverride with
      | some (op, code) =>
        if op = response.command then ({ response with response := code }, { m with replyOverride := none })
        else (response, m)
      | none => (response, m)
    (.response response, if response.response ≠ DacResponse.ack then { m with nakReplies := m.nakReplies + 1 } else m)
  | reply => (reply, m)

def record (bytes : List UInt8) (m : EtherDreamModel) : EtherDreamModel :=
  match bytes with
  | [] => m
  | op :: rest =>
    let points :=
      if op = 0x64 then
        ((readMany DacPoint.read ((rest.length - 2) / DacPoint.sizeBytes)).run (rest.drop 2)).elim [] Prod.fst
      else []
    { m with commands := m.commands ++ [op], receivedPoints := m.receivedPoints ++ points }

/-- Take commands off the input, at most so many: their replies, the input that is left, and the model. -/
def processLoop (stopBefore : Option UInt8) : Nat → List UInt8 → EtherDreamModel →
    List Reply × List UInt8 × EtherDreamModel
  | 0, input, m => ([], input, m)
  | commands + 1, input, m =>
    if stopBefore.isSome ∧ input.head? = stopBefore then ([], input, m)
    else
      let ready := m.injected input
      if m.inject.isSome ∧ ready.inject.isNone ∧ ready.hung then ([], [], ready)
      else
        match ready.step input with
        | none => ([], input, ready)
        | some (consumed, reply, after) =>
          let (reply, after) := after.countReply reply
          let after := if after.recordInput then after.record (input.take consumed) else after
          if reply = .reset ∨ reply = .hang then ([reply], [], after)
          else
            let (replies, rest) := processLoop stopBefore commands (input.drop consumed) after
            (reply :: replies, rest)

/-- `process_with`; without a limit the loop ends by itself, since every round takes a byte. -/
def processWith (now : Nat) (input : List UInt8) (stopBefore : Option UInt8) (maxCommands : Option Nat)
    (m : EtherDreamModel) : List Reply × List UInt8 × EtherDreamModel :=
  let m := m.advanceTo now
  if m.hung then ([], [], m) else processLoop stopBefore (maxCommands.getD (input.length + 1)) input m

/-- Bytes arrive; an incomplete command is kept until the rest arrives. -/
def feed (now : Nat) (bytes : List UInt8) (m : EtherDreamModel) : List Reply × EtherDreamModel :=
  let (replies, input, after) := { m with input := [] }.processWith now (m.input ++ bytes) none none
  (replies, { after with input })

def execute (command : Command) (m : EtherDreamModel) : UInt8 × EtherDreamModel :=
  match command with
  | .prepareStream => m.prepareStream
  | .begin _ rate => m.beginOrUpdate false rate
  | .update _ rate => m.beginOrUpdate true rate
  | .pointRate rate => m.queueRate rate
  | .data points => m.data points
  | .stop => m.stop
  | .emergencyStop => (DacResponse.ack, m.estop)
  | .clearEmergencyStop => m.clearEmergencyStop
  | .ping => (DacResponse.ack, m)

/-- A rate that the firmware takes. -/
def Accepts (m : EtherDreamModel) (command : Command) : Prop :=
  ∀ rate, command.rate = some rate → 0 < rate ∧ rate ≤ m.profile.maxPointRate

variable {m}

theorem checkRate_none {command : Command} {rate : UInt32} (accepts : m.Accepts command)
    (carries : command.rate = some rate) (cmd : UInt8) (fullLen : Nat) : m.checkRate cmd rate fullLen = none := by
  obtain ⟨positive, small⟩ := accepts rate carries
  have nonzero : rate ≠ 0 := by
    rintro rfl
    exact absurd positive (by decide)
  simp [checkRate, nonzero, UInt32.not_lt.mpr small]

theorem step_write {command : Command} (accepts : m.Accepts command) (written : command.write = some bytes)
    (rest : List UInt8) :
    m.step (bytes ++ rest) = some (bytes.length,
      .response ((m.execute command).2.respond (m.execute command).1 command.startByte), (m.execute command).2) := by
  cases command with
  | begin lowWaterMark rate =>
    obtain rfl := Option.some.inj written
    simp [step, Command.startByte, List.append_assoc, Reads.u16 lowWaterMark _, Reads.u32 rate rest,
      checkRate_none accepts rfl, execute]
  | update lowWaterMark rate =>
    obtain rfl := Option.some.inj written
    simp [step, Command.startByte, List.append_assoc, Reads.u16 lowWaterMark _, Reads.u32 rate rest,
      checkRate_none accepts rfl, execute]
  | pointRate rate =>
    obtain rfl := Option.some.inj written
    simp [step, Command.startByte, Reads.u32 rate rest, checkRate_none accepts rfl, execute]
  | data points =>
    simp only [Command.write] at written
    split at written
    · simp at written
    · rename_i few
      obtain rfl := Option.some.inj written
      have count : (UInt16.ofNat points.length).toNat = points.length := by
        rw [UInt16.toNat_ofNat']
        omega
      simp [step, Command.startByte, List.append_assoc, Reads.u16 _ _, count, Reads.many DacPoint.reads points rest,
        execute]
      omega
  | prepareStream | stop | emergencyStop | clearEmergencyStop | ping => obtain rfl := Option.some.inj written; rfl

/-- Nothing is pending: no unread input, no hang, none of the tests' interventions. -/
structure Plain (m : EtherDreamModel) : Prop where
  input : m.input = []
  hung : m.hung = false
  inject : m.inject = none
  replyOverride : m.replyOverride = none
  recordInput : m.recordInput = false

/-- What playing leaves alone. -/
structure Frame (m after : EtherDreamModel) : Prop where
  profile : after.profile = m.profile
  now : after.now = m.now
  input : after.input = m.input
  lightEngine : after.lightEngine = m.lightEngine
  warmupUntil : after.warmupUntil = m.warmupUntil
  interlockOk : after.interlockOk = m.interlockOk
  segStart : after.segStart = m.segStart
  hung : after.hung = m.hung
  overfullWrites : after.overfullWrites = m.overfullWrites
  recordInput : after.recordInput = m.recordInput
  inject : after.inject = m.inject
  replyOverride : after.replyOverride = m.replyOverride

theorem Frame.trans (first : Frame m middle) (second : Frame middle after) :
    Frame m after where
  profile := second.profile.trans first.profile
  now := second.now.trans first.now
  input := second.input.trans first.input
  lightEngine := second.lightEngine.trans first.lightEngine
  warmupUntil := second.warmupUntil.trans first.warmupUntil
  interlockOk := second.interlockOk.trans first.interlockOk
  segStart := second.segStart.trans first.segStart
  hung := second.hung.trans first.hung
  overfullWrites := second.overfullWrites.trans first.overfullWrites
  recordInput := second.recordInput.trans first.recordInput
  inject := second.inject.trans first.inject
  replyOverride := second.replyOverride.trans first.replyOverride

theorem Frame.plain (frame : Frame m after) (plain : m.Plain) : after.Plain where
  input := frame.input.trans plain.input
  hung := frame.hung.trans plain.hung
  inject := frame.inject.trans plain.inject
  replyOverride := frame.replyOverride.trans plain.replyOverride
  recordInput := frame.recordInput.trans plain.recordInput

/-- What playing from a ring comes to, as long as no rate change is queued. -/
structure Played (now : Nat) (m : EtherDreamModel) (ring : List DacPoint) (after : EtherDreamModel) : Prop where
  left : after.ring = ring.drop (m.due now - m.segPlayed)
  fed : m.due now - m.segPlayed ≤ ring.length →
    after.playback = m.playback ∧ after.segRate = m.segRate ∧ after.segPlayed = max m.segPlayed (m.due now)
  dry : ring.length < m.due now - m.segPlayed → after.playback = .idle
  queue : after.rateQueue = []
  frame : Frame m after

theorem playPoint_eq (queue : m.rateQueue = []) (point : DacPoint) :
    m.playPoint point = { m with
      segPlayed := m.segPlayed + 1, playedTotal := m.playedTotal + 1, pointCount := m.pointCount + 1
      output := if m.recordOutput then m.output ++ [point] else m.output } := by
  simp [playPoint, queue]

theorem play_of_le {now : Nat} (ring : List DacPoint) (done : m.due now ≤ m.segPlayed) :
    m.play now ring = { m with ring } := by
  cases ring <;> exact if_pos done

theorem play_done {now : Nat} {ring : List DacPoint} (queue : m.rateQueue = []) (done : m.due now ≤ m.segPlayed) :
    Played now m ring (m.play now ring) := by
  have none_ : m.due now - m.segPlayed = 0 := Nat.sub_eq_zero_of_le done
  rw [play_of_le ring done]
  exact {
    left := by rw [none_, List.drop_zero]
    fed := fun _ => ⟨rfl, rfl, (Nat.max_eq_left done).symm⟩
    dry := fun short => absurd short (by rw [none_]; simp)
    queue
    frame := by constructor <;> rfl }

variable (m)

theorem play_played (now : Nat) (ring : List DacPoint) (m : EtherDreamModel) (queue : m.rateQueue = []) :
    Played now m ring (m.play now ring) := by
  induction ring generalizing m with
  | nil =>
    by_cases done : m.due now ≤ m.segPlayed
    · exact play_done queue done
    · rw [play, if_neg done]
      exact {
        left := (List.drop_nil).symm
        fed := fun enough => absurd enough (by rw [List.length_nil]; omega)
        dry := fun _ => rfl
        queue := rfl
        frame := by constructor <;> rfl }
  | cons point ring ih =>
    by_cases done : m.due now ≤ m.segPlayed
    · exact play_done queue done
    · rw [play, if_neg done]
      have next := playPoint_eq queue point
      have rest := ih (m.playPoint point) (by rw [next]; exact queue)
      have same : (m.playPoint point).due now = m.due now := by rw [next]; rfl
      have played : (m.playPoint point).segPlayed = m.segPlayed + 1 := by rw [next]
      have onward : m.due now - m.segPlayed = m.due now - (m.segPlayed + 1) + 1 := by omega
      exact {
        left := by rw [rest.left, same, played, onward, List.drop_succ_cons]
        fed := fun enough => by
          rw [List.length_cons] at enough
          obtain ⟨playback, segRate, segPlayed⟩ := rest.fed (by rw [same, played]; omega)
          rw [playback, segRate, segPlayed, same, played, next]
          exact ⟨rfl, rfl, by omega⟩
        dry := fun short => by
          rw [List.length_cons] at short
          exact rest.dry (by rw [same, played]; omega)
        queue := rest.queue
        frame := .trans (by rw [next]; constructor <;> rfl) rest.frame }

/-! ### Streams at one rate -/

/-- A model that plays at one rate only: no rate is queued, the points of the segment are played up to now, and
nothing is prepared or played unless the light engine is ready. -/
structure Steady (m : EtherDreamModel) : Prop where
  plain : m.Plain
  queue : m.rateQueue = []
  segment : m.playback = .playing → m.segStart ≤ m.now ∧ m.segPlayed = m.due m.now ∧ 0 < m.segRate
  dark : m.lightEngine ≠ .ready → m.playback = .idle
  warming : m.warmupUntil.isSome → m.lightEngine = .warmup

theorem new_steady (profile : FirmwareProfile) : (new profile).Steady :=
  ⟨⟨rfl, rfl, rfl, rfl, rfl⟩, rfl, by rintro ⟨⟩, fun _ => rfl, by rintro ⟨⟩⟩

def plays (time : Nat) (m : EtherDreamModel) : Nat := m.due time - m.due m.now

/-- What the clock does to a steady model. A stream that is not playing stays as it is; a playing one loses what
comes due, and ends when there is not enough. -/
structure Later (time : Nat) (m after : EtherDreamModel) : Prop where
  steady : after.Steady
  now : after.now = max m.now time
  profile : after.profile = m.profile
  interlockOk : after.interlockOk = m.interlockOk
  overfullWrites : after.overfullWrites = m.overfullWrites
  lightEngine : after.lightEngine = m.lightEngine ∨ m.lightEngine = .warmup ∧ after.lightEngine = .ready
  still : m.playback ≠ .playing → after.playback = m.playback ∧ after.ring = m.ring
  drained : m.playback = .playing → after.ring = m.ring.drop (m.plays time)
  onward : m.playback = .playing → m.plays time ≤ m.ring.length →
    after.playback = .playing ∧ after.segRate = m.segRate ∧ after.segStart = m.segStart
  ended : m.playback = .playing → m.ring.length < m.plays time → after.playback = .idle

theorem due_mono {early late : Nat} (order : early ≤ late) : m.due early ≤ m.due late :=
  Nat.div_le_div_right (Nat.mul_le_mul_right _ (Nat.sub_le_sub_right order _))

variable {m}

theorem Steady.ready (steady : m.Steady) (active : m.playback ≠ .idle) : m.lightEngine = .ready :=
  Classical.byContradiction fun other => active (steady.dark other)

theorem warmed_cases (now : Nat) (m : EtherDreamModel) :
    m.warmed now = m ∨
      m.warmupUntil.isSome ∧ m.warmed now = { m with warmupUntil := none, lightEngine := .ready } := by
  unfold warmed
  split
  · rename_i stop eq
    split
    · exact .inr ⟨by simp [eq], rfl⟩
    · exact .inl rfl
  · exact .inl rfl

theorem advanceTo_of_le (past : time ≤ m.now) : m.advanceTo time = m := if_pos past

theorem advanceTo_still (steady : m.Steady) (order : m.now < time) (other : m.playback ≠ .playing) :
    Later time m (m.advanceTo time) := by
  have last : max m.now time = time := Nat.max_eq_right (Nat.le_of_lt order)
  obtain ⟨input, hung, inject, replyOverride, recordInput⟩ := steady.plain
  rw [advanceTo, if_neg (Nat.not_le.mpr order)]
  dsimp only
  rcases warmed_cases time { m with now := time } with kept | ⟨pending, done⟩
  · rw [kept, if_neg other]
    exact {
      steady := ⟨⟨input, hung, inject, replyOverride, recordInput⟩, steady.queue, fun playing => absurd playing other,
        steady.dark, steady.warming⟩
      now := last.symm, profile := rfl, interlockOk := rfl, overfullWrites := rfl, lightEngine := .inl rfl
      still := fun _ => ⟨rfl, rfl⟩
      drained := fun playing => absurd playing other
      onward := fun playing => absurd playing other
      ended := fun playing => absurd playing other }
  · rw [done, if_neg other]
    exact {
      steady := ⟨⟨input, hung, inject, replyOverride, recordInput⟩, steady.queue, fun playing => absurd playing other,
        fun unready => absurd rfl unready, by rintro ⟨⟩⟩
      now := last.symm, profile := rfl, interlockOk := rfl, overfullWrites := rfl
      lightEngine := .inr ⟨steady.warming pending, rfl⟩
      still := fun _ => ⟨rfl, rfl⟩
      drained := fun playing => absurd playing other
      onward := fun playing => absurd playing other
      ended := fun playing => absurd playing other }

theorem advanceTo_playing (steady : m.Steady) (order : m.now < time) (playing : m.playback = .playing) :
    Later time m (m.advanceTo time) := by
  have ready : m.lightEngine = .ready := steady.ready (by rw [playing]; simp)
  have cold : m.warmupUntil.isSome = false := by
    rw [Bool.eq_false_iff]
    intro pending
    simp [steady.warming pending] at ready
  have kept : { m with now := time }.warmed time = { m with now := time } := by
    rcases warmed_cases time { m with now := time } with kept | ⟨pending, -⟩
    · exact kept
    · simp [cold] at pending
  obtain ⟨start, upToNow, positive⟩ := steady.segment playing
  have mono := m.due_mono (Nat.le_of_lt order)
  rw [advanceTo, if_neg (Nat.not_le.mpr order)]
  dsimp only
  rw [kept, if_pos playing]
  have played := play_played time m.ring { m with now := time } steady.queue
  have frame := played.frame
  generalize { m with now := time }.play time m.ring = after at played frame
  have comes : due time { m with now := time } - m.segPlayed = m.plays time := by rw [upToNow]; rfl
  have left := played.left
  have fed := played.fed
  have dry := played.dry
  dsimp only at left fed dry
  rw [comes] at left fed dry
  have lit : after.lightEngine = .ready := frame.lightEngine.trans ready
  exact {
    steady := {
      plain := frame.plain ⟨steady.plain.input, steady.plain.hung, steady.plain.inject, steady.plain.replyOverride,
        steady.plain.recordInput⟩
      queue := played.queue
      segment := fun still => by
        have enough : m.plays time ≤ m.ring.length := by
          by_contra short
          simp [dry (Nat.lt_of_not_le short)] at still
        obtain ⟨-, rate, count⟩ := fed enough
        have whole : after.due after.now = m.due time := by rw [due, frame.segStart, frame.now, rate]; rfl
        rw [whole, count, rate, frame.segStart, frame.now]
        refine ⟨Nat.le_trans start (Nat.le_of_lt order), ?_, positive⟩
        exact Nat.max_eq_right (by rw [upToNow]; exact mono)
      dark := fun unready => absurd lit unready
      warming := fun pending => by
        rw [frame.warmupUntil] at pending
        simp [cold] at pending }
    now := by rw [frame.now, Nat.max_eq_right (Nat.le_of_lt order)]
    profile := frame.profile
    interlockOk := frame.interlockOk
    overfullWrites := frame.overfullWrites
    lightEngine := .inl frame.lightEngine
    still := fun other => absurd playing other
    drained := fun _ => left
    onward := fun _ enough => ⟨(fed enough).1.trans playing, (fed enough).2.1, frame.segStart⟩
    ended := fun _ short => dry short }

theorem advanceTo_later (steady : m.Steady) (time : Nat) : Later time m (m.advanceTo time) := by
  rcases Nat.lt_or_ge m.now time with order | order
  · by_cases playing : m.playback = .playing
    · exact advanceTo_playing steady order playing
    · exact advanceTo_still steady order playing
  · have none_ : m.plays time = 0 := Nat.sub_eq_zero_of_le (m.due_mono order)
    rw [advanceTo_of_le order]
    exact {
      steady, now := (Nat.max_eq_left order).symm, profile := rfl, interlockOk := rfl, overfullWrites := rfl
      lightEngine := .inl rfl
      still := fun _ => ⟨rfl, rfl⟩
      drained := fun _ => by rw [none_, List.drop_zero]
      onward := fun playing _ => ⟨playing, rfl, rfl⟩
      ended := fun _ short => absurd short (by rw [none_]; exact Nat.not_lt_zero _) }

theorem due_congr (rate : after.segRate = m.segRate) (start : after.segStart = m.segStart) (time : Nat) :
    after.due time = m.due time := by
  rw [due, rate, start]
  rfl

/-- What plays in two stretches plays in one. -/
theorem Later.plays {first : Nat} (later : Later first m middle) (playing : m.playback = .playing)
    (enough : m.plays first ≤ m.ring.length) (second : Nat) :
    m.plays (max first second) = m.plays first + middle.plays second := by
  obtain ⟨-, rate, start⟩ := later.onward playing enough
  have past := m.due_mono (Nat.le_max_left m.now first)
  have same := due_congr rate start
  unfold EtherDreamModel.plays
  rw [later.now, same, same]
  rcases Nat.le_total first second with order | order
  · have mono := m.due_mono order
    rw [Nat.max_eq_right order]
    rcases Nat.le_total m.now first with ahead | ahead
    · have reached := m.due_mono ahead
      rw [Nat.max_eq_right ahead]
      omega
    · have reached := m.due_mono ahead
      rw [Nat.max_eq_left ahead]
      omega
  · have mono := m.due_mono (Nat.le_trans order (Nat.le_max_right m.now first))
    rw [Nat.max_eq_left order]
    omega

theorem Later.trans {first second : Nat} (one : Later first m middle) (two : Later second middle after) :
    Later (max first second) m after where
  steady := two.steady
  now := by rw [two.now, one.now, Nat.max_assoc]
  profile := two.profile.trans one.profile
  interlockOk := two.interlockOk.trans one.interlockOk
  overfullWrites := two.overfullWrites.trans one.overfullWrites
  lightEngine := by
    rcases one.lightEngine with same | ⟨warm, ready⟩
    · rw [← same]
      exact two.lightEngine
    · refine .inr ⟨warm, ?_⟩
      rcases two.lightEngine with same | ⟨-, ready⟩
      · rw [same, ready]
      · exact ready
  still := fun other => by
    obtain ⟨playback, ring⟩ := one.still other
    obtain ⟨same, kept⟩ := two.still (by rw [playback]; exact other)
    exact ⟨same.trans playback, kept.trans ring⟩
  drained := fun playing => by
    rcases Nat.lt_or_ge m.ring.length (m.plays first) with short | enough
    · have ended := one.ended playing short
      have gone := (two.still (by rw [ended]; simp)).2
      have more : m.plays first ≤ m.plays (max first second) :=
        Nat.sub_le_sub_right (m.due_mono (Nat.le_max_left _ _)) _
      rw [gone, one.drained playing, List.drop_eq_nil_of_le (Nat.le_of_lt short),
        List.drop_eq_nil_of_le (Nat.le_trans (Nat.le_of_lt short) more)]
    · rw [two.drained (one.onward playing enough).1, one.drained playing, List.drop_drop,
        one.plays playing enough second]
  onward := fun playing enough => by
    have more : m.plays first ≤ m.plays (max first second) :=
      Nat.sub_le_sub_right (m.due_mono (Nat.le_max_left _ _)) _
    have early := Nat.le_trans more enough
    obtain ⟨still, rate, start⟩ := one.onward playing early
    have rest : middle.plays second ≤ middle.ring.length := by
      rw [one.drained playing, List.length_drop]
      rw [one.plays playing early second] at enough
      omega
    obtain ⟨playing, sameRate, sameStart⟩ := two.onward still rest
    exact ⟨playing, sameRate.trans rate, sameStart.trans start⟩
  ended := fun playing short => by
    rcases Nat.lt_or_ge m.ring.length (m.plays first) with early | enough
    · have ended := one.ended playing early
      exact (two.still (by rw [ended]; simp)).1.trans ended
    · refine two.ended (one.onward playing enough).1 ?_
      rw [one.drained playing, List.length_drop]
      rw [one.plays playing enough second] at short
      omega

/-- What is played by then is what the elapsed time alone makes due, or one point more, depending on the phase. -/
theorem plays_bounds (start : m.segStart ≤ m.now) (order : m.now ≤ time) :
    (time - m.now) * m.segRate.toNat / nanosPerSec ≤ m.plays time ∧
      m.plays time ≤ (time - m.now) * m.segRate.toNat / nanosPerSec + 1 := by
  have whole : (time - m.segStart) * m.segRate.toNat =
      (m.now - m.segStart) * m.segRate.toNat + (time - m.now) * m.segRate.toNat := by
    rw [← Nat.add_mul]
    congr 1
    omega
  unfold plays due
  rw [whole]
  unfold nanosPerSec
  omega

variable (m)

/-! ### Commands to a steady model -/

def counted (code : UInt8) (m : EtherDreamModel) : EtherDreamModel :=
  if code ≠ DacResponse.ack then { m with nakReplies := m.nakReplies + 1 } else m

theorem counted_eq : ∃ n, m.counted code = { m with nakReplies := n } := by
  unfold counted
  split
  · exact ⟨_, rfl⟩
  · exact ⟨m.nakReplies, rfl⟩

/-- A command that has arrived whole: the clock is advanced, the command is executed and answered. -/
def handle (now : Nat) (command : Command) (m : EtherDreamModel) : DacResponse × EtherDreamModel :=
  let done := (m.advanceTo now).execute command
  (done.2.respond done.1 command.startByte, done.2.counted done.1)

variable {m}

theorem execute_plain (plain : m.Plain) (command : Command) : (m.execute command).2.Plain := by
  obtain ⟨input, hung, inject, replyOverride, recordInput⟩ := plain
  cases command <;> simp only [execute, prepareStream, beginOrUpdate, queueRate, data, stop, clearEmergencyStop, estop,
    startSegment]
  all_goals
    repeat' split
    all_goals exact ⟨input, hung, inject, replyOverride, recordInput⟩

theorem counted_plain (plain : m.Plain) (code : UInt8) : (m.counted code).Plain := by
  obtain ⟨input, hung, inject, replyOverride, recordInput⟩ := plain
  obtain ⟨n, eq⟩ := m.counted_eq code
  rw [eq]
  exact ⟨input, hung, inject, replyOverride, recordInput⟩

theorem injected_eq (plain : m.Plain) (input : List UInt8) : m.injected input = m := by
  unfold injected
  rw [plain.inject]
  split <;> simp_all

theorem countReply_eq (plain : m.Plain) (response : DacResponse) :
    m.countReply (.response response) = (.response response, m.counted response.response) := by
  simp only [countReply, plain.replyOverride, counted]

theorem processLoop_one {response : DacResponse} (plain : m.Plain)
    (step : m.step bytes = some (bytes.length, .response response, after)) (next : after.Plain) (fuel : Nat) :
    processLoop none (fuel + 2) bytes m = ([.response response], [], after.counted response.response) := by
  have recording := (counted_plain next response.response).recordInput
  have idle : processLoop none (fuel + 1) [] (after.counted response.response) =
      ([], [], after.counted response.response) := by
    simp [processLoop, injected_eq (counted_plain next _), (counted_plain next _).inject, EtherDreamModel.step]
  rw [processLoop]
  simp [injected_eq plain, plain.inject, step, countReply_eq next, recording, idle]

theorem feed_write {command : Command} (steady : m.Steady) (accepts : m.Accepts command)
    (written : command.write = some bytes) (now : Nat) :
    m.feed now bytes = ([.response (m.handle now command).1], (m.handle now command).2) := by
  have later := advanceTo_later steady now
  have plain := later.steady.plain
  have next := execute_plain plain command
  have same : ({ m with input := [] } : EtherDreamModel) = m := by rw [← steady.plain.input]
  have step := step_write (m := m.advanceTo now) (by intro rate; rw [later.profile]; exact accepts rate) written []
  rw [List.append_nil] at step
  obtain ⟨byte, rest, rfl⟩ : ∃ byte rest, bytes = byte :: rest := by
    cases bytes with
    | nil => simp [EtherDreamModel.step] at step
    | cons byte rest => exact ⟨byte, rest, rfl⟩
  have one := processLoop_one plain step next rest.length
  have inner : m.processWith now (byte :: rest) none none =
      ([.response (m.handle now command).1], [], (m.handle now command).2) := by
    simp only [processWith, plain.hung]
    exact one
  have kept : ({ (m.handle now command).2 with input := [] } : EtherDreamModel) = (m.handle now command).2 := by
    rw [← (counted_plain next _).input]
    rfl
  simp only [feed, same, steady.plain.input, List.nil_append, inner, kept]

variable (m)

def report (m : EtherDreamModel) : Status where
  protocol := 0
  lightEngine := m.lightEngine
  playback := m.playback
  dataSource := .networkStreaming
  lightEngineFlags := m.status.lightEngineFlags &&& 0x3F
  playbackFlags := m.status.playbackFlags &&& 0x7
  bufferFullness := m.status.bufferFullness
  pointRate := m.status.pointRate
  pointCount := m.status.pointCount

theorem status_report : Status.fromProtocol m.status = .ok m.report := by
  simp [Status.fromProtocol, status, report, DataSource.fromProtocol]

theorem counted_report : (m.counted code).report = m.report := by
  obtain ⟨n, eq⟩ := m.counted_eq code
  rw [eq]
  rfl

theorem counted_steady {m : EtherDreamModel} (steady : m.Steady) (code : UInt8) : (m.counted code).Steady := by
  have plain := counted_plain steady.plain code
  obtain ⟨n, eq⟩ := m.counted_eq code
  rw [eq] at plain ⊢
  exact ⟨plain, steady.queue, steady.segment, steady.dark, steady.warming⟩

/-- A command that neither queues a rate nor stops the DAC. -/
def Modest : Command → Prop
  | .pointRate _ => False
  | .emergencyStop => False
  | _ => True

theorem startSegment_segment {m : EtherDreamModel} {rate : UInt32} (positive : 0 < rate) :
    let after := m.startSegment m.now rate
    after.segStart ≤ after.now ∧ after.segPlayed = after.due after.now ∧ 0 < after.segRate := by
  refine ⟨le_rfl, ?_, positive⟩
  simp [due, startSegment]

theorem clearEmergencyStop_cases :
    (m.clearEmergencyStop.2 = m ∨
      m.lightEngine = .emergencyStop ∧
        (m.clearEmergencyStop.2 = { m with lightEngine := .ready } ∨
          m.clearEmergencyStop.2 = { m with lightEngine := .warmup, warmupUntil := some (m.now + warmup) })) ∧
    (m.clearEmergencyStop.1 = DacResponse.ack ∨ m.clearEmergencyStop.1 = DacResponse.nakStopCondition) := by
  unfold clearEmergencyStop
  split
  · exact ⟨.inl rfl, .inr rfl⟩
  · dsimp only
    by_cases stopped : m.lightEngine = .emergencyStop
    · by_cases immediate : m.profile.estopClearImmediate <;> simp [stopped, immediate]
    · rw [if_neg stopped]
      by_cases ready : m.lightEngine = .ready <;> simp [ready]

theorem execute_steady {m : EtherDreamModel} {command : Command} (steady : m.Steady) (modest : Modest command)
    (accepts : m.Accepts command) : (m.execute command).2.Steady := by
  have plain := execute_plain steady.plain command
  cases command with
  | prepareStream =>
    simp only [execute, prepareStream] at plain ⊢
    split
    · exact steady
    · rename_i able
      simp only [if_neg able] at plain
      have ready : m.lightEngine = .ready := by simpa using fun other => able (.inr other)
      exact ⟨plain, rfl, by rintro ⟨⟩, fun unready => absurd ready unready, steady.warming⟩
  | begin lowWaterMark rate =>
    have positive := (accepts rate rfl).1
    simp only [execute, beginOrUpdate, Bool.false_eq_true, false_or] at plain ⊢
    split
    · rename_i playing
      simp only [playing, if_true] at plain ⊢
      exact ⟨plain, steady.queue, fun _ => startSegment_segment positive, steady.dark, steady.warming⟩
    · rename_i other
      simp only [if_neg other] at plain
      split
      · rename_i prepared
        simp only [if_pos prepared] at plain
        have ready := steady.ready (by rw [prepared]; simp)
        exact ⟨plain, steady.queue, fun _ => startSegment_segment positive, fun unready => absurd ready unready,
          steady.warming⟩
      · split <;> exact steady
  | update lowWaterMark rate =>
    have positive := (accepts rate rfl).1
    simp only [execute, beginOrUpdate, true_or, if_true] at plain ⊢
    split
    · rename_i playing
      simp only [if_pos playing] at plain
      exact ⟨plain, steady.queue, fun _ => startSegment_segment positive, steady.dark, steady.warming⟩
    · exact steady
  | data points =>
    simp only [execute, data] at plain ⊢
    split
    · exact steady
    · rename_i some_
      simp only [if_neg some_] at plain
      split
      · exact steady
      · rename_i active
        simp only [if_neg active] at plain
        dsimp only at plain ⊢
        split
        all_goals
          rename_i fits
          simp only [fits] at plain
          exact ⟨plain, steady.queue, steady.segment, steady.dark, steady.warming⟩
  | stop =>
    simp only [execute, stop] at plain ⊢
    split
    · exact steady
    · rename_i active
      simp only [if_neg active] at plain
      exact ⟨plain, rfl, by rintro ⟨⟩, fun _ => rfl, steady.warming⟩
  | clearEmergencyStop =>
    simp only [execute] at plain ⊢
    rcases m.clearEmergencyStop_cases.1 with same | ⟨stopped, cleared | warms⟩
    · rw [same]
      exact steady
    · have idle : m.playback = .idle := steady.dark (by simp [stopped])
      rw [cleared] at plain ⊢
      refine ⟨plain, steady.queue, steady.segment, fun _ => idle, fun pending => ?_⟩
      have warming := steady.warming pending
      simp [stopped] at warming
    · have idle : m.playback = .idle := steady.dark (by simp [stopped])
      rw [warms] at plain ⊢
      exact ⟨plain, steady.queue, steady.segment, fun _ => idle, fun _ => rfl⟩
  | ping => exact steady
  | pointRate | emergencyStop => exact modest.elim

theorem execute_kept : (m.execute command).2.now = m.now ∧ (m.execute command).2.profile = m.profile := by
  cases command with
  | clearEmergencyStop =>
    rw [execute]
    rcases m.clearEmergencyStop_cases.1 with same | ⟨-, same | same⟩ <;> rw [same] <;> exact ⟨rfl, rfl⟩
  | _ =>
    simp only [execute, prepareStream, beginOrUpdate, queueRate, data, stop, estop, startSegment]
    repeat' split
    all_goals simp

/-- Every command is acknowledged or refused. -/
theorem execute_code : (m.execute command).1 = DacResponse.ack ∨ (Nak.fromProtocol (m.execute command).1).isSome := by
  cases command with
  | clearEmergencyStop =>
    rw [execute]
    rcases m.clearEmergencyStop_cases.2 with code | code <;> rw [code] <;> decide
  | _ =>
    simp only [execute, prepareStream, beginOrUpdate, queueRate, data, stop]
    repeat' split
    all_goals first | exact .inr rfl | simp

def taken (command : Command) (found : EtherDreamModel) : EtherDreamModel :=
  (found.execute command).2.counted (found.execute command).1

def replyTo (command : Command) (found : EtherDreamModel) : DacResponse :=
  (found.execute command).2.respond (found.execute command).1 command.startByte

theorem handle_found {found : EtherDreamModel} (reached : time ≤ found.now) (command : Command) :
    found.handle time command = (found.replyTo command, found.taken command) := by
  rw [handle, advanceTo_of_le reached]
  rfl

theorem taken_kept : (m.taken command).now = m.now ∧ (m.taken command).profile = m.profile := by
  obtain ⟨n, eq⟩ := (m.execute command).2.counted_eq (m.execute command).1
  rw [taken, eq]
  exact execute_kept command m

theorem taken_steady {m : EtherDreamModel} {command : Command} (steady : m.Steady) (modest : Modest command)
    (accepts : m.Accepts command) : (m.taken command).Steady :=
  counted_steady (execute_steady steady modest accepts) _

end EtherDreamModel

end LaserDac.EtherDream
