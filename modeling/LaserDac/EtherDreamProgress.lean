import LaserDac.EtherDreamDelivery

/-!
The Ether Dream backend neither harms the DAC nor refuses forever. A call that a ready DAC refuses had no room, came
too early after an attempt to make the DAC ready, or has just found it ready (`Held`).
-/

namespace LaserDac.EtherDream

open Runs Wire EtherDreamModel

instance : ∀ event, Decidable (Bright event)
  | .handled _ _ found _ => inferInstanceAs (Decidable (found.lightEngine = .ready ∧ found.interlockOk = true))
  | .checked _ | .replied _ => inferInstanceAs (Decidable True)

instance (events : List (Event EtherDreamModel)) : Decidable (Undisturbed events) :=
  inferInstanceAs (Decidable (∀ _ ∈ _, _))

/-- What a command does harms the DAC in no way. -/
def Harmless : Event EtherDreamModel → Prop
  | .handled _ _ found after => Unharmed found after
  | _ => True

theorem harmless_of_sound {log : List (Event EtherDreamModel)} (sound : Always Sound log) :
    ∀ event ∈ log, Harmless event := by
  induction log with
  | nil => simp
  | cons event earlier ih =>
    refine List.forall_mem_cons.mpr ⟨?_, ih sound.2⟩
    cases event with
    | handled => exact sound.1.1
    | checked | replied => trivial

namespace Line

/-- A call, and another one after each of these pauses. -/
def attempts {σ : Type} (env : Env σ) (pps : UInt32) (points : List LaserPoint) :
    List Nat → Line σ → List (Option (Except Failure WriteOutcome)) × Line σ
  | [], line => ([(tryWritePoints env pps points line).1], (tryWritePoints env pps points line).2)
  | pause :: pauses, line =>
    let call := tryWritePoints env pps points line
    let others := attempts env pps points pauses (call.2.perform env (.wait pause))
    (call.1 :: others.1, others.2)

/-- A pause takes a second at least, and as long as the rate in force needs for a full ring. -/
def Pauses (line : Line EtherDreamModel) (pause : Nat) : Prop :=
  1000000000 ≤ pause ∧ (line.socket.peer.playback = .playing →
    line.socket.peer.profile.bufferCapacity.toNat * 1000000000 ≤ pause * line.socket.peer.segRate.toNat)

instance (line : Line EtherDreamModel) (pause : Nat) : Decidable (line.Pauses pause) :=
  inferInstanceAs (Decidable (_ ∧ _))

/-- All the pauses between the calls are long enough. -/
def Patient (env : Env EtherDreamModel) (pps : UInt32) (points : List LaserPoint) :
    List Nat → Line EtherDreamModel → Prop
  | [], _ => True
  | pause :: pauses, line =>
    let call := tryWritePoints env pps points line
    call.2.Pauses pause ∧ Patient env pps points pauses (call.2.perform env (.wait pause))

/-- What has happened since. -/
def since {σ : Type} (line after : Line σ) : List (Event σ) :=
  after.socket.log.take (after.socket.log.length - line.socket.log.length)

theorem since_eq {σ : Type} {line after : Line σ} {new : List (Event σ)}
    (log : after.socket.log = new ++ line.socket.log) : line.since after = new := by
  unfold since
  rw [log, List.length_append, Nat.add_sub_cancel]
  exact List.take_left

end Line

variable {capacity : UInt16}

namespace Client

variable {setting : Setting} {client after : Client EtherDreamModel} {pps : UInt32} {rate : UInt32}
  {points : List DacPoint}

/-- The ways in which a call is refused if all of its commands find the DAC ready. -/
inductive Held (setting : Setting) (pps : UInt32) (points : List DacPoint) (client : Client EtherDreamModel) :
    Client EtherDreamModel → Prop
  | full {after : Client EtherDreamModel}
      (stalls : Stalls setting (client.rateFor pps) client.peer.profile.bufferCapacity points client after) :
      Held setting pps points client after
  | tried {after : Client EtherDreamModel} (unready : client.peer.lightEngine ≠ .ready) (passed : Passed client after)
      (recent : Recent client.backend.lastEstopAttempt after.clock estopRetryInterval) :
      Held setting pps points client after
  | asked {after : Client EtherDreamModel} (unready : client.peer.lightEngine ≠ .ready) (passed : Passed client after)
      (recent : Recent client.backend.lastPingTime after.clock warmupPingInterval) :
      Held setting pps points client after
  | found {after : Client EtherDreamModel} (unready : client.peer.lightEngine ≠ .ready)
      (ready : after.peer.lightEngine = .ready) (idle : after.peer.playback = .idle)
      (profile : after.peer.profile = client.peer.profile) : Held setting pps points client after

theorem stopped_found {time : Nat} {m found : EtherDreamModel} (steady : m.Steady) (meets : setting.Meets time m found)
    (stopped : m.lightEngine = .emergencyStop) : found.lightEngine = .emergencyStop := by
  rcases (meets.befallen steady).course with stops | ⟨ok, later⟩
  · exact stops
  · rcases later.lightEngine with same | ⟨warm, -⟩
    · exact same.trans stopped
    · have warm : m.lightEngine = .warmup := warm
      rw [stopped] at warm
      cases warm

theorem Confirms.log {result : Option WriteOutcome} (confirms : Confirms setting client result after) :
    ∃ new, after.log = new ++ client.log := by
  cases confirms with
  | stopped asked =>
    obtain ⟨new, log, -⟩ := asked.exchange
    exact ⟨new, log⟩
  | waits asked =>
    obtain ⟨new, log, -⟩ := asked.exchange
    exact ⟨new, log⟩
  | ready asked =>
    obtain ⟨new, log, -⟩ := asked.exchange
    exact ⟨new, log⟩

theorem Clears.held {result : Option WriteOutcome} (linked : client.Linked)
    (stopped : client.peer.lightEngine = .emergencyStop) (clears : Clears setting client result after) :
    ∃ new, after.log = new ++ client.log ∧ (Undisturbed new →
      Passed client after ∧ Recent client.backend.lastEstopAttempt after.clock estopRetryInterval ∧
        result = some .wouldBlock) := by
  have dimmed {mid cleared : Client EtherDreamModel} {time : Nat} {found : EtherDreamModel} (passed : Passed client mid)
      (asked : Asked setting .clearEmergencyStop mid.attempted time found cleared) :
      ∃ new, cleared.log = new ++ client.log ∧ ¬ Undisturbed new := by
    obtain ⟨new, log, exchange⟩ := asked.exchange
    obtain ⟨clock, tick, -, rfl⟩ := passed
    refine ⟨new, log, fun undisturbed => ?_⟩
    have dark := stopped_found linked.steady asked.meets stopped
    rw [exchange.ready undisturbed] at dark
    cases dark
  cases clears with
  | early passed recent =>
    refine ⟨[], ?_, fun _ => ⟨passed, recent, rfl⟩⟩
    obtain ⟨clock, tick, -, rfl⟩ := passed
    rfl
  | refused passed asked =>
    obtain ⟨new, log, dark⟩ := dimmed passed asked
    exact ⟨new, log, fun undisturbed => absurd undisturbed dark⟩
  | confirms passed asked confirms =>
    obtain ⟨before, log, dark⟩ := dimmed passed asked
    obtain ⟨new, logAfter⟩ := confirms.log
    refine ⟨new ++ before, by rw [logAfter, log, List.append_assoc], fun undisturbed => ?_⟩
    exact absurd undisturbed.split.2 dark

theorem Awaits.held (linked : client.Linked) (unready : client.peer.lightEngine ≠ .ready)
    (awaits : Awaits setting client after) :
    ∃ new, after.log = new ++ client.log ∧ (Undisturbed new → Held setting pps points client after) := by
  cases awaits with
  | early passed recent =>
    refine ⟨[], ?_, fun _ => .asked unready passed recent⟩
    obtain ⟨clock, tick, -, rfl⟩ := passed
    rfl
  | @pings mid last time found passed asked =>
    obtain ⟨new, log, exchange⟩ := asked.exchange
    have profile := asked.profile
    have meets := asked.meets
    obtain ⟨clock, tick, -, rfl⟩ := passed
    refine ⟨new, log, fun undisturbed => ?_⟩
    have ready := exchange.ready undisturbed
    have survives := survives_of_ready linked.steady meets ready
    have idle := linked.steady.dark unready
    obtain ⟨n, eq⟩ := found.taken_eq .ping
    refine .found unready ?_ ?_ profile
    · show last.peer.lightEngine = .ready
      rw [asked.peer, eq]
      exact ready
    · show last.peer.playback = .idle
      rw [asked.peer, eq]
      exact (survives.still (by rw [idle]; simp)).1.trans idle

theorem Writes.held {outcome : WriteOutcome} (rest : client.Rest setting) (some_ : points ≠ [])
    (writes : Writes setting pps points client outcome after) :
    ∃ new, after.log = new ++ client.log ∧
      (Undisturbed new → outcome = .written ∨ Held setting pps points client after) := by
  have linked := rest.fit.linked
  cases writes with
  | nothing empty => exact absurd empty some_
  | delivers ready delivery =>
    obtain ⟨new, log, told⟩ := delivery.delivered rest (clampRate_fair linked.honest pps)
    exact ⟨new, log, fun undisturbed => (told undisturbed).2.imp_right .full⟩
  | awaits unready running awaits =>
    obtain ⟨new, log, held⟩ := awaits.held linked unready
    exact ⟨new, log, fun undisturbed => .inr (held undisturbed)⟩
  | stopped stopped clears =>
    obtain ⟨new, log, held⟩ := clears.held linked stopped
    refine ⟨new, log, fun undisturbed => .inr ?_⟩
    obtain ⟨passed, recent, -⟩ := held undisturbed
    exact .tried (by rw [stopped]; simp) passed recent
  | cleared stopped clears delivery =>
    obtain ⟨before, log, held⟩ := clears.held linked stopped
    have mid := clears.rest rest stopped
    obtain ⟨new, logAfter, -⟩ := delivery.delivered mid (clampRate_fair mid.fit.linked.honest pps)
    refine ⟨new ++ before, by rw [logAfter, log, List.append_assoc], fun undisturbed => ?_⟩
    obtain ⟨-, -, same⟩ := held undisturbed.split.2
    cases same

/-- A client whose owner has waited: the stream has drained, if it is not over, and no attempt is recent. -/
structure Aged (client : Client EtherDreamModel) : Prop where
  unprepared : client.peer.playback ≠ .prepared
  drained : client.peer.playback = .playing → ∀ last, client.backend.lastStatusReceived = some last →
    client.peer.profile.bufferCapacity.toNat * 1000000000 ≤ (client.clock - last) * client.peer.segRate.toNat
  ping : ¬ Recent client.backend.lastPingTime client.clock warmupPingInterval
  attempt : ¬ Recent client.backend.lastEstopAttempt client.clock estopRetryInterval

theorem Recent.earlier {last : Option Nat} {now before interval : Nat} (recent : Recent last now interval)
    (order : before ≤ now) : Recent last before interval := by
  obtain ⟨time, same, short⟩ := recent
  exact ⟨time, same, by omega⟩

theorem Passed.clock (passed : Passed client after) : client.clock ≤ after.clock := by
  obtain ⟨clock, tick, later, rfl⟩ := passed
  exact later

theorem Passed.peer (passed : Passed client after) : after.peer = client.peer := by
  obtain ⟨clock, tick, later, rfl⟩ := passed
  rfl

section

variable (small : points.length ≤ capacity.toNat)

include small

theorem Stalls.active (stalls : Stalls setting rate capacity points client after) : client.peer.playback ≠ .idle := by
  intro idle
  obtain ⟨fullness, mid, admits, full, -⟩ := stalls
  rw [admits.idle idle] at full
  omega

theorem Stalls.unprepared (stalls : Stalls setting rate capacity points client after) :
    after.peer.playback ≠ .prepared ∧ after.peer.profile = client.peer.profile := by
  have active := stalls.active small
  obtain ⟨fullness, mid, admits, full, waits⟩ := stalls
  have profile : mid.peer.profile = client.peer.profile := by
    cases admits with
    | prepares idle => exact absurd idle active
    | still => rfl
    | drains playing anchor passed => rw [passed.peer]
    | unknown => rfl
  cases waits with
  | @begins time found last prepared asked =>
    refine ⟨?_, asked.profile.trans profile⟩
    show last.peer.playback ≠ .prepared
    rw [asked.peer, (taken_begin rate found).2]
    split <;> simp
  | waits other =>
    refine ⟨fun prepared => ?_, profile⟩
    -- a prepared stream that leaves no room holds something
    cases admits with
    | prepares idle => exact absurd idle active
    | still was =>
      have empty : client.peer.ring.length = 0 := by
        have none_ : ¬ 0 < client.peer.ring.length := fun holds => other ⟨prepared, holds⟩
        omega
      rw [empty] at full
      omega
    | drains playing anchor passed =>
      have same : mid.peer.playback = .prepared := prepared
      rw [passed.peer, playing] at same
      cases same
    | unknown playing =>
      have same : client.peer.playback = .prepared := prepared
      rw [playing] at same
      cases same

theorem Stalls.aged (same : capacity = client.peer.profile.bufferCapacity) (anchored : client.Anchored)
    (stalls : Stalls setting rate capacity points client after) : ¬ client.Aged := by
  intro aged
  have active := stalls.active small
  obtain ⟨fullness, mid, admits, full, waits⟩ := stalls
  cases admits with
  | prepares idle => exact active idle
  | still prepared => exact aged.unprepared prepared
  | @drains last _ playing anchor passed =>
    have drained := aged.drained playing last anchor
    have later := passed.clock
    have played : capacity.toNat ≤ (mid.clock - last) * client.peer.segRate.toNat / 1000000000 := by
      rw [Nat.le_div_iff_mul_le (by decide), same]
      exact drained.trans (Nat.mul_le_mul_right _ (by omega))
    have bound := capacity.toNat_lt
    omega
  | unknown playing anchor =>
    obtain ⟨last, known, -, -⟩ := anchored playing
    rw [anchor] at known
    cases known

end

theorem Held.unready (small : points.length ≤ client.peer.profile.bufferCapacity.toNat)
    (ready : client.peer.lightEngine = .ready) (idle : client.peer.playback = .idle) :
    ¬ Held setting pps points client after := by
  intro held
  cases held with
  | full stalls => exact stalls.active small idle
  | tried unready => exact unready ready
  | asked unready => exact unready ready
  | found unready => exact unready ready

theorem Held.aged (small : points.length ≤ client.peer.profile.bufferCapacity.toNat) (anchored : client.Anchored)
    (aged : client.Aged) (held : Held setting pps points client after) :
    after.peer.lightEngine = .ready ∧ after.peer.playback = .idle := by
  cases held with
  | full stalls => exact absurd aged (stalls.aged small rfl anchored)
  | tried unready passed recent => exact absurd (recent.earlier passed.clock) aged.attempt
  | asked unready passed recent => exact absurd (recent.earlier passed.clock) aged.ping
  | found unready ready idle => exact ⟨ready, idle⟩

theorem Held.unprepared (steady : client.peer.Steady)
    (small : points.length ≤ client.peer.profile.bufferCapacity.toNat) (held : Held setting pps points client after) :
    after.peer.playback ≠ .prepared ∧ after.peer.profile = client.peer.profile := by
  have unlit (unready : client.peer.lightEngine ≠ .ready) (passed : Passed client after) :
      after.peer.playback ≠ .prepared ∧ after.peer.profile = client.peer.profile := by
    rw [passed.peer]
    exact ⟨by rw [steady.dark unready]; simp, rfl⟩
  cases held with
  | full stalls => exact stalls.unprepared small
  | tried unready passed => exact unlit unready passed
  | asked unready passed => exact unlit unready passed
  | found unready ready idle profile => exact ⟨by rw [idle]; simp, profile⟩

def wait (pause : Nat) (client : Client EtherDreamModel) : Client EtherDreamModel :=
  { client with wire := { client.wire with
      socket := { client.wire.socket with clock := client.wire.socket.clock + pause } } }

theorem wait_passed (pause : Nat) (client : Client EtherDreamModel) : Passed client (client.wait pause) :=
  ⟨_, _, Nat.le_add_right _ _, rfl⟩

theorem Rest.aged {pause : Nat} (rest : client.Rest setting) (unprepared : client.peer.playback ≠ .prepared)
    (long : (Line.after client false).Pauses pause) : (client.wait pause).Aged := by
  obtain ⟨second, ring⟩ := long
  have due {last : Option Nat} {interval : Nat} (past : ∀ time, last = some time → time ≤ client.clock)
      (short : interval ≤ 1000000000) : ¬ Recent last (client.wait pause).clock interval := by
    rintro ⟨time, same, recent⟩
    have before := past time same
    have later : (client.wait pause).clock = client.clock + pause := rfl
    omega
  refine ⟨unprepared, fun playing last received => ?_, due rest.fit.ping (by decide), due rest.fit.attempt (by decide)⟩
  have playing : client.peer.playback = .playing := playing
  obtain ⟨last', known, -, past⟩ := rest.anchored playing
  obtain rfl : last = last' := Option.some.inj (received.symm.trans known)
  have later : (client.wait pause).clock = client.clock + pause := rfl
  exact (ring playing).trans (Nat.mul_le_mul_right _ (by omega))

section

variable {pauses : List Nat} {pause : Nat} {chunk : List LaserPoint}

/-- The calls with these pauses between them succeed, if the DAC is ready. -/
def Succeeds (setting : Setting) (pps : UInt32) (chunk : List LaserPoint) (pauses : List Nat)
    (client : Client EtherDreamModel) : Prop :=
  (Line.after client false).Patient setting.env pps chunk pauses →
    Undisturbed ((Line.after client false).since
      ((Line.after client false).attempts setting.env pps chunk pauses).2) →
    some (.ok .written) ∈ ((Line.after client false).attempts setting.env pps chunk pauses).1

section

variable (rest : client.Rest setting)

include rest

theorem Rest.call (pps : UInt32) (some_ : chunk ≠ []) :
    ∃ outcome after new, Line.tryWritePoints setting.env pps chunk (Line.after client false) =
        (some (.ok outcome), Line.after after false) ∧ after.Rest setting ∧ after.log = new ++ client.log ∧
      (Undisturbed new → outcome = .written ∨
        Held setting pps (chunk.map (DacPoint.ofLaserPoint setting.coordinate)) client after) := by
  have connected : (Line.after client false).stream = some client.wire.stream := rfl
  obtain ⟨outcome, after, result, writes⟩ :=
    Line.tryWritePoints_writes setting connected rest.fit.linked pps chunk
  have filled : chunk.map (DacPoint.ofLaserPoint setting.coordinate) ≠ [] := by simpa using some_
  obtain ⟨new, log, held⟩ := Writes.held rest filled writes
  exact ⟨outcome, after, new, result, Writes.rest rest writes, log, held⟩

theorem attempts_log (pps : UInt32) (some_ : chunk ≠ []) (pauses : List Nat) :
    ∃ new, ((Line.after client false).attempts setting.env pps chunk pauses).2.socket.log = new ++ client.log := by
  induction pauses generalizing client with
  | nil =>
    obtain ⟨outcome, after, new, result, -, log, -⟩ := rest.call pps some_
    refine ⟨new, ?_⟩
    rw [Line.attempts, result]
    exact log
  | cons pause pauses ih =>
    obtain ⟨outcome, after, new, result, restAfter, log, -⟩ := rest.call pps some_
    obtain ⟨more, logMore⟩ := ih ((wait_passed pause after).rest restAfter)
    refine ⟨more ++ new, ?_⟩
    rw [Line.attempts, result, List.append_assoc, ← log]
    exact logMore

/-- A call that nothing holds succeeds. -/
theorem Rest.succeeds (some_ : chunk ≠ [])
    (free : ∀ after, ¬ Held setting pps (chunk.map (DacPoint.ofLaserPoint setting.coordinate)) client after) :
    Succeeds setting pps chunk [] client := by
  intro patient undisturbed
  obtain ⟨outcome, after, new, result, -, log, held⟩ := rest.call pps some_
  have whole : (Line.after client false).since (Line.after after false) = new := Line.since_eq log
  rw [Line.attempts, result, whole] at undisturbed
  rw [Line.attempts, result]
  rcases held undisturbed with rfl | held
  · exact List.mem_singleton_self _
  · exact absurd held (free after)

theorem Rest.succeeds_later (some_ : chunk ≠ [])
    (next : ∀ after, after.Rest setting → (Line.after after false).Pauses pause →
      Held setting pps (chunk.map (DacPoint.ofLaserPoint setting.coordinate)) client after →
      Succeeds setting pps chunk pauses (after.wait pause)) : Succeeds setting pps chunk (pause :: pauses) client := by
  intro patient undisturbed
  obtain ⟨outcome, after, new, result, restAfter, log, held⟩ := rest.call pps some_
  obtain ⟨more, logMore⟩ := attempts_log ((wait_passed pause after).rest restAfter) pps some_ pauses
  generalize known : (Line.after (after.wait pause) false).attempts setting.env pps chunk pauses = others at logMore
  have same : (Line.after client false).attempts setting.env pps chunk (pause :: pauses) =
      (some (.ok outcome) :: others.1, others.2) := by
    rw [Line.attempts, result, ← known]
    rfl
  have whole : (Line.after client false).since others.2 = more ++ new := by
    refine Line.since_eq ?_
    show _ = more ++ new ++ client.log
    rw [List.append_assoc, ← log]
    exact logMore
  have later : (Line.after (after.wait pause) false).since others.2 = more := Line.since_eq logMore
  rw [same, whole] at undisturbed
  rw [same]
  rcases held undisturbed.split.2 with rfl | held
  · exact List.mem_cons_self
  · rw [Line.Patient, result] at patient
    have onward := next after restAfter patient.1 held patient.2
    rw [known, later] at onward
    exact List.mem_cons_of_mem _ (onward undisturbed.split.1)

theorem Rest.three (some_ : chunk ≠ []) (small : chunk.length ≤ client.peer.profile.bufferCapacity.toNat)
    (first second : Nat) : Succeeds setting pps chunk [first, second] client := by
  have small : (chunk.map (DacPoint.ofLaserPoint setting.coordinate)).length ≤
      client.peer.profile.bufferCapacity.toNat := by
    rw [List.length_map]
    exact small
  refine rest.succeeds_later some_ fun held restHeld long why => ?_
  obtain ⟨unprepared, profile⟩ := why.unprepared rest.fit.linked.steady small
  have waited := (wait_passed first held).rest restHeld
  have aged : (held.wait first).Aged := restHeld.aged unprepared long
  refine waited.succeeds_later some_ fun known restKnown _ why => ?_
  have smallHeld : (chunk.map (DacPoint.ofLaserPoint setting.coordinate)).length ≤
      (held.wait first).peer.profile.bufferCapacity.toNat := by
    show _ ≤ held.peer.profile.bufferCapacity.toNat
    rw [profile]
    exact small
  obtain ⟨ready, idle⟩ := why.aged smallHeld waited.anchored aged
  have smallKnown : (chunk.map (DacPoint.ofLaserPoint setting.coordinate)).length ≤
      (known.wait second).peer.profile.bufferCapacity.toNat := by
    show _ ≤ known.peer.profile.bufferCapacity.toNat
    rw [(why.unprepared waited.fit.linked.steady smallHeld).2]
    exact smallHeld
  exact ((wait_passed second known).rest restKnown).succeeds some_ fun after => Held.unready smallKnown ready idle

end

end

end Client

namespace Line

variable {setting : Setting} {line : Line EtherDreamModel}

/-- Only a disconnect closes the connection. -/
theorem Resting.connected (resting : line.Resting setting) {call : Call} (other : call ≠ .disconnect)
    (connected : line.stream.isSome) : (line.perform setting.env call).stream.isSome := by
  obtain ⟨stream, connected⟩ := Option.isSome_iff_exists.mp connected
  have rest := resting.client stream connected
  cases call with
  | disconnect => exact absurd rfl other
  | write pps points =>
    obtain ⟨outcome, after, result, -⟩ := tryWritePoints_writes setting connected rest.fit.linked pps points
    rw [Line.perform, result]
    rfl
  | stop =>
    obtain ⟨time, found, after, -, result⟩ := stop_stops setting connected rest.fit.linked
    rw [Line.perform, result]
    rfl
  | wait =>
    show line.stream.isSome = true
    rw [connected]
    rfl

theorem Resting.run_connected (resting : line.Resting setting) {calls : List Call}
    (others : ∀ call ∈ calls, call ≠ .disconnect) (connected : line.stream.isSome) :
    (line.run setting.env calls).stream.isSome := by
  induction calls generalizing line with
  | nil => exact connected
  | cons call calls ih =>
    obtain ⟨other, others⟩ := List.forall_mem_cons.mp others
    exact ih (resting.perform call) others (resting.connected other connected)

end Line

/-- Whatever was called before, with whatever delays, stops and interlock events: no command hangs the DAC or stops it.
And if from now on the DAC is found ready, with the interlock closed, and the owner waits long enough between calls,
then one of the next three calls succeeds. -/
theorem never_wedged (setting : Setting) (profile : FirmwareProfile) (honest : profile.Honest) (time : Nat)
    (calls : List Call) :
    let line := (Line.joined profile time).run setting.env calls
    (∀ event ∈ line.socket.log, Harmless event) ∧
      ((∀ call ∈ calls, call ≠ .disconnect) →
        ∀ (pps : UInt32) (points : List LaserPoint) (first second : Nat), points ≠ [] →
          points.length ≤ line.socket.peer.profile.bufferCapacity.toNat →
          line.Patient setting.env pps points [first, second] →
          Undisturbed (line.since (line.attempts setting.env pps points [first, second]).2) →
          some (.ok .written) ∈ (line.attempts setting.env pps points [first, second]).1) := by
  intro line
  have joined := Line.joined_resting setting honest time
  have resting : line.Resting setting := joined.run calls
  refine ⟨harmless_of_sound resting.kept.sound, fun others pps points first second some_ small => ?_⟩
  obtain ⟨stream, connected⟩ := Option.isSome_iff_exists.mp (joined.run_connected others rfl)
  have same : line = Line.after (line.client stream) false := by
    show line = { backend := line.backend, stream := some stream, socket := line.socket }
    rw [← connected]
  have rest := resting.client stream connected
  rw [same]
  exact rest.three some_ small first second

/-- A ring that is almost full, and a chunk that fills it. -/
theorem never_wedged_full :
    let line := (Line.joined (FirmwareProfile.small 4) 0).run (prompt 100000).env [.write 1000 (blanks 3)]
    some (.ok .written) ∈ (line.attempts (prompt 100000).env 1000 (blanks 4) [1000000000, 1000000000]).1 := by
  have progress := (never_wedged (prompt 100000) (FirmwareProfile.small 4) ⟨by decide, by decide, by decide⟩ 0
    [.write 1000 (blanks 3)]).2 (by simp) 1000 (blanks 4) 1000000000 1000000000 (by decide) (by decide +kernel)
  refine progress ⟨?_, ?_, trivial⟩ ?_
  · decide +kernel
  · decide +kernel
  · decide +kernel

end LaserDac.EtherDream
