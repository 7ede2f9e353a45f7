import LaserDac.EtherDreamMoves

/-!
The Ether Dream backend and the simulated DAC over whole runs. At all times the ring holds no more than is advertised,
and everything that was ever sent was harmless and admitted (`Sound`).
-/

namespace LaserDac.EtherDream

open Runs Runs.Run Wire EtherDreamModel

namespace EtherDreamModel

variable {m : EtherDreamModel}

theorem taken_eq (command : Command) (m : EtherDreamModel) :
    ∃ n, m.taken command = { (m.execute command).2 with nakReplies := n } :=
  (m.execute command).2.counted_eq (m.execute command).1

theorem taken_prepareStream (idle : m.playback = .idle) (ready : m.lightEngine = .ready) :
    (m.execute .prepareStream).1 = DacResponse.ack ∧ (m.taken .prepareStream).playback = .prepared ∧
      (m.taken .prepareStream).ring = [] := by
  obtain ⟨n, eq⟩ := m.taken_eq .prepareStream
  rw [eq]
  simp [execute, prepareStream, idle, ready]

theorem prepareStream_acked (acked : (m.execute .prepareStream).1 = DacResponse.ack) :
    m.playback = .idle ∧ m.lightEngine = .ready := by
  by_contra busy
  simp only [execute, prepareStream] at acked
  rw [if_pos (not_and_or.mp busy)] at acked
  have differ : DacResponse.nakInvalid ≠ DacResponse.ack := by decide
  exact differ acked

theorem taken_begin (rate : UInt32) (m : EtherDreamModel) :
    (m.taken (.begin 0 rate)).ring = m.ring ∧
      ((m.taken (.begin 0 rate)).playback = if m.playback = .idle then .idle else .playing) := by
  obtain ⟨n, eq⟩ := m.taken_eq (.begin 0 rate)
  rw [eq]
  cases state : m.playback with
  | idle =>
    simp only [execute, beginOrUpdate, state]
    by_cases acked : m.profile.beginWhileIdleAcked <;> simp [acked, state]
  | prepared | playing => simp [execute, beginOrUpdate, state, startSegment]

theorem taken_update (rate : UInt32) (m : EtherDreamModel) :
    (m.taken (.update 0 rate)).ring = m.ring ∧ (m.taken (.update 0 rate)).playback = m.playback := by
  obtain ⟨n, eq⟩ := m.taken_eq (.update 0 rate)
  rw [eq]
  by_cases playing : m.playback = .playing
  · simp [execute, beginOrUpdate, playing, startSegment]
  · simp [execute, beginOrUpdate, playing]

theorem taken_data_idle (idle : m.playback = .idle) (points : List DacPoint) :
    (m.taken (.data points)).ring = m.ring ∧ (m.taken (.data points)).playback = .idle := by
  obtain ⟨n, eq⟩ := m.taken_eq (.data points)
  rw [eq]
  by_cases empty : points = []
  · simp [execute, data, empty, idle]
  · simp [execute, data, empty, idle]

/-- Points that fit are taken as they are. -/
theorem taken_data_fits {points : List DacPoint} (active : m.playback ≠ .idle)
    (fits : m.ring.length + points.length ≤ m.profile.ringPoints.toNat) :
    (m.execute (.data points)).1 = DacResponse.ack ∧ (m.taken (.data points)).ring = m.ring ++ points ∧
      (m.taken (.data points)).playback = m.playback ∧ (m.taken (.data points)).overfullWrites = m.overfullWrites := by
  have room : points.length ≤ m.profile.ringPoints.toNat - m.ring.length := by omega
  obtain ⟨n, eq⟩ := m.taken_eq (.data points)
  rw [eq]
  by_cases empty : points = []
  · simp [execute, data, empty]
  · simp [execute, data, empty, active, room, Nat.not_lt.mpr room]

variable {command : Command}

theorem taken_lightEngine (modest : Modest command) :
    (m.taken command).lightEngine = m.lightEngine ∨
      m.lightEngine = .emergencyStop ∧ command = .clearEmergencyStop := by
  obtain ⟨n, eq⟩ := m.taken_eq command
  rw [eq]
  cases command with
  | pointRate | emergencyStop => exact modest.elim
  | clearEmergencyStop =>
    rw [execute]
    rcases m.clearEmergencyStop_cases.1 with same | ⟨stopped, -⟩
    · rw [same]
      exact .inl rfl
    · exact .inr ⟨stopped, rfl⟩
  | _ =>
    left
    simp only [execute, prepareStream, beginOrUpdate, data, stop, startSegment]
    repeat' split
    all_goals rfl

theorem taken_interlockOk (command : Command) (m : EtherDreamModel) :
    (m.taken command).interlockOk = m.interlockOk := by
  obtain ⟨n, eq⟩ := m.taken_eq command
  rw [eq]
  cases command with
  | clearEmergencyStop =>
    rw [execute]
    rcases m.clearEmergencyStop_cases.1 with same | ⟨-, same | same⟩ <;> rw [same]
  | _ =>
    simp only [execute, prepareStream, beginOrUpdate, queueRate, data, stop, estop, startSegment]
    repeat' split
    all_goals rfl

theorem taken_ring (other : ∀ points, command ≠ .data points) :
    (m.taken command).ring.length ≤ m.ring.length ∧ (m.taken command).overfullWrites = m.overfullWrites := by
  obtain ⟨n, eq⟩ := m.taken_eq command
  rw [eq]
  cases command with
  | data points => exact absurd rfl (other points)
  | clearEmergencyStop =>
    rw [execute]
    rcases m.clearEmergencyStop_cases.1 with same | ⟨-, same | same⟩
    all_goals
      rw [same]
      exact ⟨le_rfl, rfl⟩
  | _ =>
    simp only [execute, prepareStream, beginOrUpdate, queueRate, stop, estop, startSegment]
    repeat' split
    all_goals simp

/-- The ring holds no more than is advertised, and never had to. -/
structure Sane (m : EtherDreamModel) : Prop where
  room : m.ring.length ≤ m.profile.bufferCapacity.toNat
  never : m.overfullWrites = 0

/-- The points of a command fit into what is advertised, if the DAC takes them at all. -/
def Fits (command : Command) (m : EtherDreamModel) : Prop :=
  ∀ points, command = .data points → m.playback ≠ .idle →
    m.ring.length + points.length ≤ m.profile.bufferCapacity.toNat

theorem Sane.taken (sane : m.Sane) (honest : m.profile.Honest) (fits : m.Fits command) : (m.taken command).Sane := by
  have profile := (m.taken_kept command).2
  by_cases points : ∃ points, command = .data points
  · obtain ⟨points, rfl⟩ := points
    by_cases idle : m.playback = .idle
    · have clean : (m.taken (.data points)).overfullWrites = m.overfullWrites := by
        obtain ⟨n, eq⟩ := m.taken_eq (.data points)
        rw [eq]
        by_cases empty : points = [] <;> simp [execute, data, empty, idle]
      refine ⟨?_, clean.trans sane.never⟩
      rw [(taken_data_idle idle points).1, profile]
      exact sane.room
    · have room := fits points rfl idle
      have ring := UInt16.le_iff_toNat_le.mp honest.ring
      obtain ⟨-, grown, -, clean⟩ := taken_data_fits idle (room.trans ring)
      refine ⟨?_, clean.trans sane.never⟩
      rw [grown, List.length_append, profile]
      exact room
  · obtain ⟨shorter, clean⟩ := taken_ring fun list same => points ⟨list, same⟩
    refine ⟨?_, clean.trans sane.never⟩
    rw [profile]
    exact shorter.trans sane.room

end EtherDreamModel

theorem Befallen.sane {time : Nat} {m found : EtherDreamModel} (befallen : Befallen time m found) (sane : m.Sane) :
    found.Sane := by
  refine ⟨?_, befallen.overfullWrites.trans sane.never⟩
  rw [befallen.profile]
  exact befallen.ring.trans sane.room

/-- Time has passed and nothing has stopped the DAC. -/
structure Survives (time : Nat) (m found : EtherDreamModel) : Prop where
  still : m.playback ≠ .playing → found.playback = m.playback ∧ found.ring = m.ring
  drained : m.playback = .playing → found.ring = m.ring.drop (m.plays time)

theorem Befallen.survives {time : Nat} {m found : EtherDreamModel} (befallen : Befallen time m found)
    (free : found.lightEngine ≠ .emergencyStop) : Survives time m found := by
  rcases befallen.course with stopped | ⟨ok, later⟩
  · exact absurd stopped free
  · exact ⟨later.still, later.drained⟩

theorem EtherDreamModel.Steady.plays_ge {m : EtherDreamModel} (steady : m.Steady) (playing : m.playback = .playing)
    {first last time : Nat} (early : m.now ≤ first) (late : last ≤ time) :
    (last - first) * m.segRate.toNat / 1000000000 ≤ m.plays time := by
  rcases Nat.le_total m.now time with order | order
  · have bounds := (plays_bounds (steady.segment playing).1 order).1
    refine le_trans ?_ bounds
    exact Nat.div_le_div_right (Nat.mul_le_mul_right _ (by omega))
  · have none_ : last - first = 0 := by omega
    rw [none_, Nat.zero_mul, Nat.zero_div]
    exact Nat.zero_le _

/-! ### What is sent -/

theorem write_head {command : Command} {bytes : List UInt8} (written : command.write = some bytes) :
    bytes.head? = some command.startByte := by
  cases command with
  | data =>
    rw [Command.write] at written
    split at written
    · simp at written
    · rw [← Option.some.inj written]
      rfl
  | _ =>
    rw [← Option.some.inj written]
    rfl

/-- What a command does to the DAC never hangs it nor stops it. -/
structure Unharmed (found after : EtherDreamModel) : Prop where
  hung : after.hung = false
  estop : after.lightEngine = .emergencyStop → found.lightEngine = .emergencyStop

/-- Everything that is sent is harmless and fits, and points are sent right after a check of their room, which the
ring keeps to unless the DAC has been stopped. -/
def Sound : Event EtherDreamModel → List (Event EtherDreamModel) → Prop
  | .handled _ bytes found after, earlier =>
    Unharmed found after ∧ after.overfullWrites = 0 ∧
      (bytes.head? = some 0x64 → ∃ fullness rest, earlier = .checked fullness :: rest ∧
        (found.lightEngine ≠ .emergencyStop → found.ring.length ≤ fullness))
  | _, _ => True

/-- A command finds the DAC ready, with the interlock closed. -/
def Bright : Event EtherDreamModel → Prop
  | .handled _ _ found _ => found.lightEngine = .ready ∧ found.interlockOk = true
  | _ => True

/-- Points come right after a check that has room for them. -/
def Admitted (command : Command) (capacity : Nat) (found : EtherDreamModel) (earlier : List (Event EtherDreamModel)) :
    Prop :=
  ∀ points, command = .data points → ∃ fullness rest, earlier = .checked fullness :: rest ∧
    points.length ≤ capacity - fullness ∧ (found.lightEngine ≠ .emergencyStop → found.ring.length ≤ fullness)

theorem Admitted.other {command : Command} (other : ∀ points, command ≠ .data points) (capacity : Nat)
    (found : EtherDreamModel) (earlier : List (Event EtherDreamModel)) : Admitted command capacity found earlier :=
  fun points same => absurd same (other points)

/-- What holds of the DAC and of the log at every moment of a run. -/
structure Kept (setting : Setting) (m : EtherDreamModel) (log : List (Event EtherDreamModel)) : Prop where
  steady : m.Steady
  honest : m.profile.Honest
  sane : m.Sane
  sound : Always Sound log
  calm : setting.Calm → m.lightEngine = .ready ∧ m.interlockOk = true ∧ ∀ event ∈ log, Bright event

namespace Kept

variable {setting : Setting} {m found : EtherDreamModel} {log : List (Event EtherDreamModel)} {command : Command}
  {bytes : List UInt8} {time : Nat}

section

variable (kept : Kept setting m log)

include kept

theorem note {event : Event EtherDreamModel} (sound : Sound event log) (bright : Bright event) :
    Kept setting m (event :: log) := by
  refine ⟨kept.steady, kept.honest, kept.sane, ⟨sound, kept.sound⟩, fun calm => ?_⟩
  obtain ⟨ready, closed, before⟩ := kept.calm calm
  exact ⟨ready, closed, List.forall_mem_cons.mpr ⟨bright, before⟩⟩

theorem replied (times : List Nat) : Kept setting m (times.map Event.replied ++ log) := by
  induction times with
  | nil => exact kept
  | cons time times ih => exact ih.note trivial trivial

theorem found_bright (calm : setting.Calm) (meets : setting.Meets time m found) :
    found.lightEngine = .ready ∧ found.interlockOk = true := by
  obtain ⟨ready, closed, -⟩ := kept.calm calm
  rw [meets.calm calm]
  have later := advanceTo_later kept.steady time
  refine ⟨?_, later.interlockOk.trans closed⟩
  rcases later.lightEngine with same | ⟨-, lit⟩
  · exact same.trans ready
  · exact lit

theorem fits (befallen : Befallen time m found) (admitted : Admitted command m.profile.bufferCapacity.toNat found log) :
    found.Fits command := by
  intro points same active
  obtain ⟨fullness, rest, -, room, bound⟩ := admitted points same
  have held := (befallen.sane kept.sane).room
  have below := bound (by rw [befallen.steady.ready active]; simp)
  rw [befallen.profile] at held ⊢
  omega

theorem handled (meets : setting.Meets time m found) (proper : Proper m.profile command)
    (written : command.write = some bytes) (admitted : Admitted command m.profile.bufferCapacity.toNat found log) :
    Kept setting (found.taken command) (.handled time bytes found (found.taken command) :: log) := by
  have befallen := meets.befallen kept.steady
  have honest : found.profile.Honest := befallen.profile ▸ kept.honest
  have steady : (found.taken command).Steady := by
    refine taken_steady befallen.steady proper.modest fun rate => ?_
    rw [befallen.profile]
    exact proper.accepts rate
  have sane := (befallen.sane kept.sane).taken honest (kept.fits befallen admitted)
  have unharmed : Unharmed found (found.taken command) := by
    refine ⟨steady.plain.hung, fun stopped => ?_⟩
    rcases taken_lightEngine (m := found) proper.modest with same | ⟨before, -⟩
    · exact same ▸ stopped
    · exact before
  refine ⟨steady, (found.taken_kept command).2 ▸ honest, sane, ⟨⟨unharmed, sane.never, fun isData => ?_⟩, kept.sound⟩,
    fun calm => ?_⟩
  · rw [write_head written] at isData
    cases command with
    | data points =>
      obtain ⟨fullness, rest, split, -, bound⟩ := admitted points rfl
      exact ⟨fullness, rest, split, bound⟩
    | _ => simp [Command.startByte] at isData
  · obtain ⟨ready, closed⟩ := kept.found_bright calm meets
    refine ⟨?_, (found.taken_interlockOk command).trans closed, ?_⟩
    · rcases taken_lightEngine (m := found) proper.modest with same | ⟨stopped, -⟩
      · exact same.trans ready
      · rw [ready] at stopped
        cases stopped
    · exact List.forall_mem_cons.mpr ⟨⟨ready, closed⟩, (kept.calm calm).2.2⟩

end

end Kept

variable {fullness : Nat} {turn : Turn}

namespace Client

variable {setting : Setting} {client after : Client EtherDreamModel}

/-- What holds of the client as well. -/
structure Fit (setting : Setting) (client : Client EtherDreamModel) : Prop where
  linked : client.Linked
  kept : Kept setting client.peer client.log
  ping : ∀ time, client.backend.lastPingTime = some time → time ≤ client.clock
  attempt : ∀ time, client.backend.lastEstopAttempt = some time → time ≤ client.clock

variable {found : EtherDreamModel} {time : Nat}

theorem Asked.fit {command : Command} (fit : client.Fit setting) (asked : Asked setting command client time found after)
    (proper : Proper client.peer.profile command)
    (admitted : Admitted command client.peer.profile.bufferCapacity.toNat found client.log) : after.Fit setting := by
  obtain ⟨times, bytes, written, log⟩ := asked.log
  refine ⟨asked.linked, ?_, fun time last => ?_, fun time last => ?_⟩
  · rw [log, asked.peer]
    exact (fit.kept.handled asked.meets proper written admitted).replied times
  · exact (fit.ping time (asked.backend ▸ last)).trans asked.clock
  · exact (fit.attempt time (asked.backend ▸ last)).trans asked.clock

theorem Switched.fit {first second : Command} {later : Nat} {next : EtherDreamModel} (fit : client.Fit setting)
    (switched : Switched setting first second client time found later next after)
    (proper : Proper client.peer.profile first) (properNext : Proper client.peer.profile second)
    (admitted : Admitted first client.peer.profile.bufferCapacity.toNat found client.log)
    (other : ∀ points, second ≠ .data points) : after.Fit setting := by
  obtain ⟨times, bytes, more, written, writtenNext, log⟩ := switched.log
  have profile : (found.taken first).profile = client.peer.profile :=
    (found.taken_kept first).2.trans (switched.meets.befallen fit.linked.steady).profile
  refine ⟨switched.linked, ?_, fun time last => ?_, fun time last => ?_⟩
  · rw [log, switched.peer]
    have kept := fit.kept.handled switched.meets proper written admitted
    exact (kept.handled switched.meetsNext (profile ▸ properNext) writtenNext (.other other _ _ _)).replied times
  · exact (fit.ping time (switched.backend ▸ last)).trans switched.clock
  · exact (fit.attempt time (switched.backend ▸ last)).trans switched.clock

/-- While the DAC plays, the client knows when it received the status. -/
def Anchored (client : Client EtherDreamModel) : Prop :=
  client.peer.playback = .playing →
    ∃ last, client.backend.lastStatusReceived = some last ∧ client.peer.now ≤ last ∧ last ≤ client.clock

/-- The estimate starts from the ring, at a time not after that of the status. -/
structure Based (client : Client EtherDreamModel) : Prop where
  active : client.peer.playback ≠ .idle
  anchor : ∃ anchor, client.backend.estimator.inner.anchorTime = some anchor ∧ anchor ≤ client.peer.now
  fullness : client.backend.estimator.inner.fullnessAtAnchor ≤ client.peer.ring.length
  draining : client.backend.estimator.inner.playing = true
  rate : client.peer.playback = .playing → client.backend.estimator.playingRate = client.peer.segRate

def Silent (estimator : DacRateEstimator) : Prop :=
  estimator.inner.fullnessAtAnchor = 0 ∨ estimator.inner.anchorTime = none

def Synced (client : Client EtherDreamModel) : Prop := Silent client.backend.estimator ∨ client.Based

/-- For an idle DAC the estimate is zero. -/
theorem Synced.silent (synced : client.Synced) (idle : client.peer.playback = .idle) :
    Silent client.backend.estimator := by
  rcases synced with silent | based
  · exact silent
  · exact absurd idle based.active

theorem Synced.congr (synced : client.Synced) (estimator : after.backend.estimator = client.backend.estimator)
    (peer : after.peer = client.peer) : after.Synced := by
  rcases synced with silent | based
  · exact .inl (estimator ▸ silent)
  · refine .inr ⟨peer ▸ based.active, ?_, ?_, ?_, ?_⟩
    · rw [estimator, peer]
      exact based.anchor
    · rw [estimator, peer]
      exact based.fullness
    · rw [estimator]
      exact based.draining
    · rw [estimator, peer]
      exact based.rate

/-- What holds between calls. -/
structure Rest (setting : Setting) (client : Client EtherDreamModel) : Prop where
  fit : client.Fit setting
  anchored : client.Anchored
  synced : client.Synced

theorem Fit.received (fit : client.Fit setting) : client.received.Fit setting :=
  ⟨{ fit.linked with }, fit.kept, fit.ping, fit.attempt⟩

theorem Fit.check (fit : client.Fit setting) (fullness : Nat) : (client.check fullness).Fit setting :=
  ⟨{ fit.linked with }, fit.kept.note trivial trivial, fit.ping, fit.attempt⟩

theorem received_anchored (linked : client.Linked) : client.received.Anchored :=
  fun _ => ⟨_, rfl, linked.receivedAt, linked.past⟩

theorem resync_synced (linked : client.Linked) : client.resync.Synced := by
  by_cases idle : client.peer.playback = .idle
  · refine .inl (.inl ?_)
    show (if (decide (client.status.playback = .idle) : Bool) then 0 else _) = 0
    rw [linked.playback, idle]
    rfl
  · refine .inr ⟨idle, ⟨_, rfl, linked.sentAt⟩, ?_, ?_, fun playing => ?_⟩
    · show (if (decide (client.status.playback = .idle) : Bool) then 0 else client.status.bufferFullness.toNat) ≤
        client.peer.ring.length
      rw [linked.playback, decide_eq_false idle, if_neg Bool.false_ne_true, linked.status, report_fullness]
      exact Nat.min_le_left _ _
    · show (!(decide (client.status.playback = .idle))) = true
      rw [linked.playback, decide_eq_false idle]
      rfl
    · have playing : client.peer.playback = .playing := playing
      show (if client.status.playback = .playing then client.status.pointRate else 0) = client.peer.segRate
      rw [linked.playback, if_pos playing, linked.status, report_rate playing]

theorem Fit.resync (fit : client.Fit setting) : client.resync.Rest setting :=
  ⟨⟨{ fit.linked with }, fit.kept, fit.ping, fit.attempt⟩, fun _ => ⟨_, rfl, fit.linked.receivedAt, fit.linked.past⟩,
    resync_synced fit.linked⟩

theorem Fit.settle (fit : client.Fit setting) (rate : UInt32) : (client.settle rate).Rest setting :=
  ⟨⟨{ fit.linked with }, fit.kept, fit.ping, fit.attempt⟩, fun _ => ⟨_, rfl, fit.linked.receivedAt, fit.linked.past⟩,
    (resync_synced fit.linked).congr rfl rfl⟩

section

variable (passed : Passed client after)

include passed

theorem Passed.fit (fit : client.Fit setting) : after.Fit setting := by
  have linked := passed.linked fit.linked
  obtain ⟨clock, tick, later, rfl⟩ := passed
  exact ⟨linked, fit.kept, fun time last => (fit.ping time last).trans later,
    fun time last => (fit.attempt time last).trans later⟩

theorem Passed.anchored (anchored : client.Anchored) : after.Anchored := by
  obtain ⟨clock, tick, later, rfl⟩ := passed
  intro playing
  obtain ⟨last, received, early, past⟩ := anchored playing
  exact ⟨last, received, early, past.trans later⟩

theorem Passed.synced (synced : client.Synced) : after.Synced := by
  obtain ⟨clock, tick, later, rfl⟩ := passed
  exact synced.congr rfl rfl

theorem Passed.rest (rest : client.Rest setting) : after.Rest setting :=
  ⟨passed.fit rest.fit, passed.anchored rest.anchored, passed.synced rest.synced⟩

end

/-! ### A pass over the loop -/

section

variable {capacity : UInt16} {rate : UInt32} {threshold : Nat} {points : List DacPoint} {retried : Bool}

theorem proper_prepareStream (profile : FirmwareProfile) : Proper profile .prepareStream :=
  proper_plain trivial rfl (by simp)

theorem Admits.fit {result : Except (Except Failure WriteOutcome) Nat} (fit : client.Fit setting)
    (admits : Admits setting capacity client result after) : after.Fit setting := by
  have others : ∀ points, Command.prepareStream ≠ .data points := by simp
  cases admits with
  | prepares idle asked => exact (asked.fit fit (proper_prepareStream _) (.other others _ _ _)).received
  | refused idle asked => exact (asked.fit fit (proper_prepareStream _) (.other others _ _ _)).resync.fit
  | still => exact fit
  | drains playing anchor passed => exact passed.fit fit
  | unknown => exact fit

theorem Admits.anchored (anchored : client.Anchored) (admits : Admits setting capacity client (.ok fullness) after) :
    after.Anchored := by
  cases admits with
  | prepares idle asked => exact received_anchored asked.linked
  | still => exact anchored
  | drains playing anchor passed => exact passed.anchored anchored
  | unknown => exact anchored

/-- The fullness that is gone by bounds the ring of whatever is found then, unless the DAC has been stopped. -/
def Bounds (setting : Setting) (fullness : Nat) (client : Client EtherDreamModel) : Prop :=
  ∀ time found, setting.Meets time client.peer found → client.clock ≤ time → found.lightEngine ≠ .emergencyStop →
    found.ring.length ≤ fullness

theorem Admits.bounds (fit : client.Fit setting) (anchored : client.Anchored)
    (same : capacity = client.peer.profile.bufferCapacity)
    (admits : Admits setting capacity client (.ok fullness) after) : Bounds setting fullness after := by
  have room := fit.kept.sane.room
  rw [← same] at room
  intro time found meets late free
  cases admits with
  | @prepares _ before prepared idle asked accepted =>
    obtain ⟨wasIdle, ready⟩ := prepareStream_acked accepted
    obtain ⟨-, state, ring⟩ := taken_prepareStream wasIdle ready
    have peer : prepared.received.peer = before.taken .prepareStream := asked.peer
    have survives := (meets.befallen (show prepared.peer.Steady from asked.linked.steady)).survives free
    rw [peer] at survives
    rw [(survives.still (by rw [state]; simp)).2, ring]
    exact Nat.le_refl 0
  | still prepared =>
    have survives := (meets.befallen fit.linked.steady).survives free
    rw [(survives.still (by rw [prepared]; simp)).2, Nat.min_eq_left room]
  | @drains last _ playing anchor passed =>
    obtain ⟨last', known, early, -⟩ := anchored playing
    obtain rfl : last = last' := Option.some.inj (anchor.symm.trans known)
    have peer : after.peer = client.peer := by
      obtain ⟨_, _, _, rfl⟩ := passed
      rfl
    rw [peer] at meets
    have survives := (meets.befallen fit.linked.steady).survives free
    have due := fit.linked.steady.plays_ge playing early late
    rw [survives.drained playing, List.length_drop, Nat.min_eq_left room]
    omega
  | unknown =>
    rw [Nat.min_eq_left room]
    exact (meets.befallen fit.linked.steady).ring

/-- Points may be sent: the check that was just made has room for them. -/
def Cleared (setting : Setting) (points : List DacPoint) (client : Client EtherDreamModel) : Prop :=
  ∃ fullness rest, client.log = .checked fullness :: rest ∧
    points.length ≤ client.peer.profile.bufferCapacity.toNat - fullness ∧ Bounds setting fullness client

theorem Cleared.admitted (cleared : client.Cleared setting points) (meets : setting.Meets time client.peer found)
    (late : client.clock ≤ time) :
    Admitted (.data points) client.peer.profile.bufferCapacity.toNat found client.log := by
  intro list same
  cases same
  obtain ⟨fullness, rest, split, fits, bounds⟩ := cleared
  exact ⟨fullness, rest, split, fits, bounds time found meets late⟩

theorem Cleared.few (cleared : client.Cleared setting points) : points.length ≤ 65535 := by
  obtain ⟨fullness, rest, -, fits, -⟩ := cleared
  have small := client.peer.profile.bufferCapacity.toNat_lt
  omega

theorem Delivers.fit (fit : client.Fit setting) (fair : Fair client.peer.profile rate)
    (cleared : client.Cleared setting points) (delivers : Delivers setting rate points client time found after) :
    after.Fit setting := by
  cases delivers with
  | alone same asked => exact asked.fit fit (proper_data cleared.few) (cleared.admitted asked.meets asked.late)
  | switching playing switched =>
    exact switched.fit fit (proper_data cleared.few) (proper_update fair)
      (cleared.admitted switched.meets switched.late) (by simp)

theorem begin_fit (fit : client.Fit setting) (fair : Fair client.peer.profile rate)
    (asked : Asked setting (.begin 0 rate) client time found after) : after.Fit setting :=
  asked.fit fit (proper_begin fair) (.other (by simp) _ _ _)

def Leaves (setting : Setting) (after : Client EtherDreamModel) : Turn → Prop
  | .again => after.Fit setting ∧ after.peer.playback = .idle
  | .landed => after.Fit setting
  | .done result => result = .ok .wouldBlock ∧ after.Rest setting

theorem Begins.leaves (fit : client.Fit setting) (fair : Fair client.peer.profile rate)
    (begins : Begins setting rate threshold retried client turn after) : Leaves setting after turn := by
  cases begins with
  | again idle => exact ⟨fit, idle⟩
  | ends prepared asked idle => exact ⟨begin_fit fit fair asked, idle⟩
  | begins prepared asked => exact begin_fit fit fair asked
  | landed => exact fit

theorem Sends.leaves (fit : client.Fit setting) (fair : Fair client.peer.profile rate)
    (cleared : client.Cleared setting points) (sends : Sends setting rate threshold points retried client turn after) :
    Leaves setting after turn := by
  cases sends with
  | dropped delivers refused idle => exact ⟨(delivers.fit fit fair cleared).received, idle⟩
  | refused delivers => exact ⟨rfl, (delivers.fit fit fair cleared).received.resync⟩
  | taken delivers accepted begins =>
    have mid := delivers.fit fit fair cleared
    exact begins.leaves mid (delivers.linked.2 ▸ fair)

theorem Admits.synced (synced : client.Synced) (admits : Admits setting capacity client (.ok fullness) after) :
    after.Synced := by
  cases admits with
  | prepares idle asked =>
    have silent := synced.silent idle
    rw [← asked.backend] at silent
    exact .inl silent
  | still => exact synced
  | drains playing anchor passed => exact passed.synced synced
  | unknown => exact synced

theorem Admits.idle (idle : client.peer.playback = .idle) (admits : Admits setting capacity client (.ok fullness) after)
    : fullness = 0 := by
  cases admits with
  | prepares => rfl
  | still prepared => simp [idle] at prepared
  | drains playing => simp [idle] at playing
  | unknown playing => simp [idle] at playing

theorem Admits.cleared (fit : client.Fit setting) (anchored : client.Anchored)
    (same : capacity = client.peer.profile.bufferCapacity) (admits : Admits setting capacity client (.ok fullness) after)
    (fits : points.length ≤ capacity.toNat - fullness) : (after.check fullness).Cleared setting points := by
  have bounds : Bounds setting fullness after := admits.bounds fit anchored same
  refine ⟨fullness, after.log, rfl, ?_, bounds⟩
  show points.length ≤ after.peer.profile.bufferCapacity.toNat - fullness
  rw [(admits.linked fit.linked).2, ← same]
  exact fits

/-- The estimate is in order, or will be: the DAC is idle and the points fit into its ring. -/
def Ready (capacity : UInt16) (points : List DacPoint) (client : Client EtherDreamModel) : Prop :=
  client.Synced ∨ client.peer.playback = .idle ∧ points.length ≤ capacity.toNat

theorem Turns.leaves (fit : client.Fit setting) (anchored : client.Anchored) (ready : client.Ready capacity points)
    (same : capacity = client.peer.profile.bufferCapacity) (fair : Fair client.peer.profile rate)
    (turns : Turns setting rate capacity threshold points retried client turn after) : Leaves setting after turn := by
  cases turns with
  | refused admits =>
    cases admits with
    | refused idle asked =>
      exact ⟨rfl, (asked.fit fit (proper_prepareStream _) (.other (by simp) _ _ _)).resync⟩
  | @waits fullness mid _ admits full waits =>
    have profile := (admits.linked fit.linked).2
    have fitCheck := (admits.fit fit).check fullness
    cases waits with
    | begins prepared asked => exact ⟨rfl, (begin_fit fitCheck (profile ▸ fair) asked).settle rate⟩
    | waits other =>
      have anchoredMid : mid.Anchored := admits.anchored anchored
      refine ⟨rfl, fitCheck, anchoredMid, ?_⟩
      rcases ready with synced | ⟨idle, fits⟩
      · exact (admits.synced synced).congr rfl rfl
      · rw [admits.idle idle] at full
        omega
  | @sends fullness mid _ _ admits fits sends =>
    have profile := (admits.linked fit.linked).2
    exact sends.leaves ((admits.fit fit).check fullness) (profile ▸ fair) (admits.cleared fit anchored same fits)

theorem Turns.small (turns : Turns setting rate capacity threshold points retried client .again after) :
    points.length ≤ capacity.toNat := by
  cases turns with
  | sends admits fits sends => omega

end

section

variable {pps : UInt32} {rate : UInt32} {threshold : Nat} {points : List DacPoint} {outcome : WriteOutcome}

theorem Delivery.rest (rest : client.Rest setting) (fair : Fair client.peer.profile rate)
    (delivery : Delivery setting rate threshold points client outcome after) : after.Rest setting := by
  obtain ⟨fit, anchored, synced⟩ := rest
  -- the second pass starts from an idle DAC
  have again {mid last : Client EtherDreamModel} {turn : Turn}
      (first : Turns setting rate client.peer.profile.bufferCapacity threshold points false client .again mid)
      (second : Turns setting rate client.peer.profile.bufferCapacity threshold points true mid turn last) :
      Leaves setting last turn := by
    obtain ⟨fitMid, idle⟩ := first.leaves fit anchored (.inl synced) rfl fair
    have profile := (first.again fit.linked).2.2.2
    have unplayed : mid.Anchored := fun playing => absurd (idle.symm.trans playing) (by simp)
    exact second.leaves fitMid unplayed (.inr ⟨idle, first.small⟩) (by rw [profile]) (by rw [profile]; exact fair)
  cases delivery with
  | blocked turns => exact (turns.leaves fit anchored (.inl synced) rfl fair).2
  | @written last turns =>
    have landed : last.Fit setting := turns.leaves fit anchored (.inl synced) rfl fair
    exact landed.settle rate
  | blockedAgain first second => exact (again first second).2
  | @writtenAgain _ last first second =>
    have landed : last.Fit setting := again first second
    exact landed.settle rate

section

variable (fit : client.Fit setting)

include fit

theorem Fit.attempted : client.attempted.Fit setting :=
  ⟨{ fit.linked with }, fit.kept, fit.ping, fun _ same => (Option.some.inj same).symm.le⟩

theorem Fit.pinged : client.pinged.Fit setting :=
  ⟨{ fit.linked with }, fit.kept, fun _ same => (Option.some.inj same).symm.le, fit.attempt⟩

theorem ping_fit (asked : Asked setting .ping client time found after) : after.Fit setting :=
  asked.fit fit (proper_plain trivial rfl (by simp)) (.other (by simp) _ _ _)

theorem Fit.rest_stopped (stopped : client.peer.lightEngine = .emergencyStop) (silent : Silent client.backend.estimator)
    : client.Rest setting := by
  refine ⟨fit, fun playing => ?_, .inl silent⟩
  have ready := fit.linked.steady.ready (by rw [playing]; simp)
  rw [stopped] at ready
  cases ready

end

theorem Passed.backend (passed : Passed client after) : after.backend = client.backend := by
  obtain ⟨_, _, _, rfl⟩ := passed
  rfl

theorem Clears.rest {result : Option WriteOutcome} (rest : client.Rest setting)
    (stopped : client.peer.lightEngine = .emergencyStop) (clears : Clears setting client result after) :
    after.Rest setting := by
  have idle := rest.fit.linked.steady.dark (by rw [stopped]; simp)
  have silent := rest.synced.silent idle
  have cleared {mid cleared : Client EtherDreamModel} {time : Nat} {found : EtherDreamModel}
      (passed : Passed client mid) (asked : Asked setting .clearEmergencyStop mid.attempted time found cleared) :
      cleared.Fit setting ∧ Silent cleared.backend.estimator := by
    refine ⟨asked.fit (passed.fit rest.fit).attempted (proper_plain trivial rfl (by simp)) (.other (by simp) _ _ _), ?_⟩
    rw [asked.backend]
    show Silent mid.backend.estimator
    rw [passed.backend]
    exact silent
  cases clears with
  | early passed => exact passed.rest rest
  | refused passed asked still =>
    obtain ⟨fit, zero⟩ := cleared passed asked
    exact fit.rest_stopped still zero
  | confirms passed asked confirms =>
    obtain ⟨fit, zero⟩ := cleared passed asked
    cases confirms with
    | stopped asked still => exact (ping_fit fit asked).rest_stopped still (asked.backend ▸ zero)
    | waits asked => exact (ping_fit fit asked).resync
    | ready asked => exact (ping_fit fit asked).resync

theorem Awaits.rest (rest : client.Rest setting) (unready : client.peer.lightEngine ≠ .ready)
    (awaits : Awaits setting client after) : after.Rest setting := by
  have silent := rest.synced.silent (rest.fit.linked.steady.dark unready)
  cases awaits with
  | early passed => exact passed.rest rest
  | @pings mid _ _ _ passed asked =>
    refine ⟨(ping_fit (passed.fit rest.fit).pinged asked).received, received_anchored asked.linked, .inl ?_⟩
    show Silent _
    have same : mid.pinged.backend.estimator = client.backend.estimator := by
      show mid.backend.estimator = _
      rw [passed.backend]
    rw [← same, ← asked.backend] at silent
    exact silent

/-- A write leaves the client at rest. -/
theorem Writes.rest (rest : client.Rest setting) (writes : Writes setting pps points client outcome after) :
    after.Rest setting := by
  cases writes with
  | nothing => exact rest
  | delivers ready delivery => exact delivery.rest rest (clampRate_fair rest.fit.linked.honest pps)
  | awaits unready running awaits => exact awaits.rest rest unready
  | stopped stopped clears => exact clears.rest rest stopped
  | cleared stopped clears delivery =>
    have mid := clears.rest rest stopped
    exact delivery.rest mid (clampRate_fair mid.fit.linked.honest pps)

end

end Client

namespace Line

variable {setting : Setting} {line : Line EtherDreamModel} {stream : Stream}

/-- A fresh connection to a DAC that has just been switched on; its first status arrived at this time. -/
def greeted (profile : FirmwareProfile) (time : Nat) : Stream where
  dac := {
    bufferCapacity := profile.bufferCapacity
    maxPointRate := profile.maxPointRate
    status := (EtherDreamModel.new profile).report }
  commandBuffer := []
  pointBuffer := []
  statusSentAt := 0
  statusReceivedAt := time

/-- The backend that has it. -/
def joined (profile : FirmwareProfile) (time : Nat) : Line EtherDreamModel where
  backend := {
    lastStatusReceived := some time
    lastPointRate := 0
    lastPingTime := none
    lastEstopAttempt := none
    estimator := .new }
  stream := some (greeted profile time)
  socket := {
    peer := EtherDreamModel.new profile
    peerTime := 0
    incoming := []
    sent := []
    clock := time
    tick := 0
    log := [] }

/-- What holds between calls, connected or not. -/
structure Resting (setting : Setting) (line : Line EtherDreamModel) : Prop where
  kept : Kept setting line.socket.peer line.socket.log
  client : ∀ stream, line.stream = some stream → (line.client stream).Rest setting

theorem joined_resting (setting : Setting) {profile : FirmwareProfile} (honest : profile.Honest) (time : Nat) :
    (joined profile time).Resting setting := by
  have kept : Kept setting (EtherDreamModel.new profile) [] :=
    ⟨new_steady profile, honest, ⟨Nat.zero_le _, rfl⟩, trivial, fun _ => ⟨rfl, rfl, by simp⟩⟩
  refine ⟨kept, fun stream same => ?_⟩
  obtain rfl := Option.some.inj same
  have linked : ((joined profile time).client (greeted profile time)).Linked :=
    ⟨rfl, rfl, new_steady profile, honest, rfl, rfl, rfl, le_rfl, Nat.zero_le _, le_rfl⟩
  refine ⟨⟨linked, kept, by rintro _ ⟨⟩, by rintro _ ⟨⟩⟩, ?_, .inl (.inl rfl)⟩
  rintro ⟨⟩

theorem after_resting {after : Client EtherDreamModel} (rest : after.Rest setting) :
    (Line.after after false).Resting setting := by
  refine ⟨rest.fit.kept, fun stream same => ?_⟩
  obtain rfl := Option.some.inj same
  exact rest

theorem tryWritePoints_writes (setting : Setting) (connected : line.stream = some stream)
    (linked : (line.client stream).Linked) (pps : UInt32) (points : List LaserPoint) :
    ∃ outcome after, tryWritePoints setting.env pps points line = (some (.ok outcome), Line.after after false) ∧
      Client.Writes setting pps (points.map (DacPoint.ofLaserPoint setting.coordinate)) (line.client stream) outcome
        after := by
  obtain ⟨result, after, ran, outcome, rfl, writes⟩ := Client.writePoints_writes setting linked pps points
  refine ⟨outcome, after, ?_, writes⟩
  simp only [tryWritePoints, connected, ran]
  rfl

theorem stop_stops (setting : Setting) (connected : line.stream = some stream)
    (linked : (line.client stream).Linked) :
    ∃ time found after, Client.Asked setting .stop (line.client stream) time found after ∧
      stop setting.env line = (some (.ok ()), Line.after after.resync false) := by
  have proper : Proper (line.client stream).peer.profile .stop := Client.proper_plain trivial rfl (by simp)
  obtain ⟨result, after, ran, time, found, asked, rfl⟩ := Client.request_asked setting linked proper
  have ran : Client.request setting.env Stream.stop (line.client stream) = _ := ran
  refine ⟨time, found, after, asked, ?_⟩
  simp only [stop, connected, ran]
  rcases answer_cases .stop found with ⟨-, answer⟩ | ⟨nak, mem, -, answer⟩
  · rw [answer]
  · obtain rfl := List.mem_singleton.mp mem
    rw [answer]
    rfl

theorem Resting.perform (resting : line.Resting setting) (call : Call) :
    (line.perform setting.env call).Resting setting := by
  cases connected : line.stream with
  | none =>
    have closed {after : Line EtherDreamModel} (same : after.stream = none)
        (socket : after.socket.peer = line.socket.peer ∧ after.socket.log = line.socket.log) :
        after.Resting setting := by
      refine ⟨?_, fun stream some_ => ?_⟩
      · rw [socket.1, socket.2]
        exact resting.kept
      · rw [same] at some_
        cases some_
    cases call with
    | write =>
      simp only [Line.perform, tryWritePoints, connected]
      exact resting
    | stop =>
      simp only [Line.perform, stop, connected]
      exact resting
    | disconnect =>
      simp only [Line.perform, disconnect, connected]
      exact resting
    | wait => exact closed connected ⟨rfl, rfl⟩
  | some stream =>
    have rest := resting.client stream connected
    cases call with
    | write pps points =>
      obtain ⟨outcome, after, result, writes⟩ := tryWritePoints_writes setting connected rest.fit.linked pps points
      simp only [Line.perform, result]
      exact after_resting (writes.rest rest)
    | stop =>
      obtain ⟨time, found, after, asked, result⟩ := stop_stops setting connected rest.fit.linked
      simp only [Line.perform, result]
      exact after_resting
        (asked.fit rest.fit (Client.proper_plain trivial rfl (by simp)) (.other (by simp) _ _ _)).resync
    | disconnect =>
      simp only [Line.perform, disconnect, connected]
      split
      · have proper : Proper (line.client stream).peer.profile .stop := Client.proper_plain trivial rfl (by simp)
        obtain ⟨result, after, ran, time, found, asked, rfl⟩ := Client.request_asked setting rest.fit.linked proper
        have ran : Client.request setting.env Stream.stop (line.client stream) = _ := ran
        rw [ran]
        exact ⟨(asked.fit rest.fit proper (.other (by simp) _ _ _)).kept, by rintro stream ⟨⟩⟩
      · exact ⟨resting.kept, by rintro stream ⟨⟩⟩
    | wait time =>
      refine ⟨resting.kept, fun stream' same => ?_⟩
      obtain rfl : stream = stream' := Option.some.inj (connected.symm.trans same)
      have passed : Client.Passed (line.client stream) ((line.perform setting.env (.wait time)).client stream) :=
        ⟨_, _, Nat.le_add_right _ _, rfl⟩
      exact passed.rest rest

theorem Resting.run (resting : line.Resting setting) (calls : List Call) :
    (line.run setting.env calls).Resting setting := by
  induction calls generalizing line with
  | nil => exact resting
  | cons call calls ih => exact ih (resting.perform call)

end Line

/-- Surroundings in which the clock goes on by `pause` whenever it is read, commands arrive at once and replies are
read whole. -/
def prompt (pause : Nat) : Setting where
  pause := fun _ => pause
  lag := fun _ => 0
  disturbances := fun _ => []
  reads := fun _ => [.data 22]
  coordinate := fun _ => 0
  prompt := fun _ => by simp [Covers, DacResponse.sizeBytes]

/-- A firmware with a small ring. -/
def FirmwareProfile.small (ringPoints : UInt16) : FirmwareProfile :=
  { FirmwareProfile.ed1J4cdac with bufferCapacity := ringPoints, ringPoints }

/-- So many dark points. -/
def blanks (n : Nat) : List LaserPoint := List.replicate n (LaserPoint.blanked 0 0)

end LaserDac.EtherDream
