import LaserDac.EtherDreamClient

/-!
What a call of the backend can do. A command that is sent finds the DAC in some state and is answered (`Asked`). The
answers decide how the room is judged (`Admits`) and made (`Waits`), and how the points are sent (`Sends`) and begun
(`Begins`).
-/

namespace LaserDac.EtherDream

open Runs Runs.Run Wire EtherDreamModel

def refusals : Command → List Nak
  | .prepareStream => [.invalid]
  | .begin _ _ => [.invalid]
  | .data _ => [.invalid, .full]
  | .stop => [.invalid]
  | .clearEmergencyStop => [.stopCondition]
  | _ => []

variable {command : Command} {capacity : UInt16}

theorem execute_refusal {found : EtherDreamModel} {nak : Nak}
    (refused : Nak.fromProtocol (found.execute command).1 = some nak) : nak ∈ refusals command := by
  have acked : Nak.fromProtocol DacResponse.ack = none := by decide
  have invalid : Nak.fromProtocol DacResponse.nakInvalid = some .invalid := by decide
  have full : Nak.fromProtocol DacResponse.nakFull = some .full := by decide
  have stopped : Nak.fromProtocol DacResponse.nakStopCondition = some .stopCondition := by decide
  cases command with
  | clearEmergencyStop =>
    rw [execute] at refused
    rcases found.clearEmergencyStop_cases.2 with code | code
    · rw [code, acked] at refused
      cases refused
    · rw [code, stopped] at refused
      cases refused
      exact List.mem_singleton_self _
  | update => simp [execute, beginOrUpdate, acked] at refused
  | _ =>
    simp only [execute, prepareStream, beginOrUpdate, queueRate, data, stop] at refused
    repeat' split at refused
    all_goals simp only [acked, invalid, full, Option.some.injEq, reduceCtorEq] at refused
    all_goals
      subst refused
      exact List.mem_of_elem_eq_true rfl

theorem answer_cases (command : Command) (found : EtherDreamModel) :
    (found.execute command).1 = DacResponse.ack ∧ verdict (answerTo command found).refusal = .ok () ∨
      ∃ nak ∈ refusals command, (found.execute command).1 ≠ DacResponse.ack ∧
        verdict (answerTo command found).refusal = .error (.response (found.replyTo command) (.nak nak)) := by
  have refusal : (answerTo command found).refusal =
      (Nak.fromProtocol (found.execute command).1).map fun nak => .response (found.replyTo command) (.nak nak) := rfl
  rw [refusal]
  rcases execute_code command found with acked | refused
  · left
    rw [acked]
    exact ⟨rfl, rfl⟩
  · obtain ⟨nak, code⟩ := Option.isSome_iff_exists.mp refused
    refine .inr ⟨nak, execute_refusal code, ?_, ?_⟩
    · intro acked
      rw [acked] at code
      cases code
    · rw [code]
      rfl

theorem report_fullness (m : EtherDreamModel) : m.report.bufferFullness.toNat = min m.ring.length 65535 := by
  simp only [EtherDreamModel.report, EtherDreamModel.status]
  rw [UInt16.toNat_ofNat']
  omega

theorem report_rate {m : EtherDreamModel} (playing : m.playback = .playing) : m.report.pointRate = m.segRate := by
  simp [EtherDreamModel.report, EtherDreamModel.status, playing]

variable {after : Client EtherDreamModel} {profile : FirmwareProfile} {rate : UInt32} {points : List DacPoint}

namespace Client

variable {setting : Setting} {client : Client EtherDreamModel}

theorem Linked.playback (linked : client.Linked) : client.status.playback = client.peer.playback := by
  rw [linked.status]
  rfl

theorem Linked.idle_first (linked : client.Linked) (retried : Bool) :
    client.status.playback = .idle ∧ !retried ↔ client.peer.playback = .idle ∧ retried = false := by
  rw [linked.playback, Bool.not_eq_true']

/-- A command has been sent, the DAC has handled it then, and its answer has been read. -/
structure Asked (setting : Setting) (command : Command) (client : Client EtherDreamModel) (time : Nat)
    (found : EtherDreamModel) (after : Client EtherDreamModel) : Prop where
  meets : setting.Meets time client.peer found
  late : client.clock ≤ time
  peer : after.peer = found.taken command
  log : ∃ (times : List Nat) (bytes : List UInt8), command.write = some bytes ∧
    after.log = times.map Event.replied ++ .handled time bytes found (found.taken command) :: client.log
  linked : after.Linked
  backend : after.backend = client.backend
  profile : after.peer.profile = client.peer.profile
  clock : client.clock ≤ after.clock

/-- Two commands have been sent at once; the second one finds what has become of the DAC since the first. -/
structure Switched (setting : Setting) (first second : Command) (client : Client EtherDreamModel) (time : Nat)
    (found : EtherDreamModel) (later : Nat) (next : EtherDreamModel) (after : Client EtherDreamModel) : Prop where
  meets : setting.Meets time client.peer found
  meetsNext : setting.Meets later (found.taken first) next
  late : client.clock ≤ time
  lateNext : client.clock ≤ later
  peer : after.peer = next.taken second
  log : ∃ (times : List Nat) (bytes more : List UInt8), first.write = some bytes ∧ second.write = some more ∧
    after.log = times.map Event.replied ++ .handled later more next (next.taken second) ::
      .handled time bytes found (found.taken first) :: client.log
  linked : after.Linked
  backend : after.backend = client.backend
  profile : after.peer.profile = client.peer.profile
  clock : client.clock ≤ after.clock

theorem request_asked (setting : Setting) (linked : client.Linked) (proper : Proper client.peer.profile command) :
    Ends (request setting.env fun stream => stream.enqueue command) client fun result after =>
      ∃ time found, Asked setting command client time found after ∧
        result = verdict (answerTo command found).refusal := by
  obtain ⟨events, answers, after, result, exchanged⟩ := request_exchanged setting linked (List.cons_ne_nil command [])
    (List.forall_mem_singleton.mpr proper)
  obtain ⟨times, log⟩ := exchanged.log
  have serves := exchanged.serves
  generalize last : after.peer = peer at serves
  cases serves with
  | @cons _ _ bytes time _ found _ _ _ meets late written rest =>
    cases rest
    refine ⟨_, after, result, time, found, ?_, ?_⟩
    · exact ⟨meets, late, last, ⟨times, bytes, written, log⟩, exchanged.linked, exchanged.backend, exchanged.profile,
        exchanged.clock⟩
    · rw [List.findSome?_singleton]

theorem request_switched (setting : Setting) (linked : client.Linked) {first second : Command}
    (proper : Proper client.peer.profile first) (properNext : Proper client.peer.profile second)
    (willing : refusals second = []) :
    Ends (request setting.env fun stream => (stream.enqueue first).enqueue second) client fun result after =>
      ∃ time found later next, Switched setting first second client time found later next after ∧
        result = verdict (answerTo first found).refusal := by
  obtain ⟨events, answers, after, result, exchanged⟩ := request_exchanged setting linked
    (List.cons_ne_nil first [second]) (List.forall_mem_cons.mpr ⟨proper, List.forall_mem_singleton.mpr properNext⟩)
  obtain ⟨times, log⟩ := exchanged.log
  have serves := exchanged.serves
  generalize last : after.peer = peer at serves
  cases serves with
  | @cons _ _ bytes time _ found _ _ _ meets late written rest =>
    cases rest with
    | @cons _ _ more later _ next _ _ _ meetsNext lateNext writtenNext rest =>
      cases rest
      refine ⟨_, after, result, time, found, later, next, ?_, ?_⟩
      · exact ⟨meets, meetsNext, late, lateNext, last, ⟨times, bytes, more, written, writtenNext, log⟩,
          exchanged.linked, exchanged.backend, exchanged.profile, exchanged.clock⟩
      · have accepted : (answerTo second next).refusal = none := by
          rcases answer_cases second next with ⟨-, acked⟩ | ⟨nak, mem, -⟩
          · cases refusal : (answerTo second next).refusal with
            | none => rfl
            | some =>
              rw [refusal] at acked
              cases acked
          · rw [willing] at mem
            cases mem
        rw [List.findSome?_cons, List.findSome?_singleton, accepted]
        cases (answerTo first found).refusal <;> rfl

def Passed (client after : Client EtherDreamModel) : Prop :=
  ∃ clock tick, client.clock ≤ clock ∧
    after = { client with wire := { client.wire with socket := { client.wire.socket with clock, tick } } }

theorem now_passed (setting : Setting) (client : Client EtherDreamModel) :
    Ends (now setting.env) client fun time after => Passed client after ∧ time = after.clock :=
  ⟨_, _, rfl, ⟨_, _, Nat.le_add_right _ _, rfl⟩, rfl⟩

theorem proper_plain (modest : Modest command) (free : command.rate = none) (other : ∀ points, command ≠ .data points) :
    Proper profile command where
  modest := modest
  accepts rate carries := by
    rw [free] at carries
    cases carries
  few points same := absurd same (other points)

def Fair (profile : FirmwareProfile) (rate : UInt32) : Prop := 0 < rate ∧ rate ≤ profile.maxPointRate

theorem proper_begin (fair : Fair profile rate) :
    Proper profile (.begin 0 rate) where
  modest := trivial
  accepts _ carries := Option.some.inj carries ▸ fair
  few _ same := by cases same

theorem request_begin (setting : Setting) (linked : client.Linked) (fair : Fair client.peer.profile rate) :
    Ends (request setting.env (Stream.begin 0 rate)) client fun result after =>
      ∃ time found, Asked setting (.begin 0 rate) client time found after ∧
        result = verdict (answerTo (.begin 0 rate) found).refusal := by
  have asks := request_asked setting linked (proper_begin fair)
  exact asks

theorem proper_update (fair : Fair profile rate) :
    Proper profile (.update 0 rate) where
  modest := trivial
  accepts _ carries := Option.some.inj carries ▸ fair
  few _ same := by cases same

theorem proper_data (few : points.length ≤ 65535) :
    Proper profile (.data points) where
  modest := trivial
  accepts _ carries := by cases carries
  few _ same := by
    cases same
    exact few

/-- How the fullness is found, and what else that comes to: an idle DAC is prepared, unless it refuses; the ring of a
prepared stream stays as it is; that of a playing one is taken to drain since its status was received. -/
inductive Admits (setting : Setting) (capacity : UInt16) (client : Client EtherDreamModel) :
    Except (Except Failure WriteOutcome) Nat → Client EtherDreamModel → Prop
  | prepares {time : Nat} {found : EtherDreamModel} {after : Client EtherDreamModel}
      (idle : client.peer.playback = .idle) (asked : Asked setting .prepareStream client time found after)
      (accepted : (found.execute .prepareStream).1 = DacResponse.ack) :
      Admits setting capacity client (.ok 0) after.received
  | refused {time : Nat} {found : EtherDreamModel} {after : Client EtherDreamModel}
      (idle : client.peer.playback = .idle) (asked : Asked setting .prepareStream client time found after)
      (refused : (found.execute .prepareStream).1 ≠ DacResponse.ack) :
      Admits setting capacity client (.error (.ok .wouldBlock)) after.resync
  | still (prepared : client.peer.playback = .prepared) :
      Admits setting capacity client (.ok (min client.peer.ring.length capacity.toNat)) client
  | drains {last : Nat} {after : Client EtherDreamModel} (playing : client.peer.playback = .playing)
      (anchor : client.backend.lastStatusReceived = some last) (passed : Passed client after) :
      Admits setting capacity client
        (.ok (min client.peer.ring.length capacity.toNat -
          min ((after.clock - last) * client.peer.segRate.toNat / 1000000000) 65535)) after
  | unknown (playing : client.peer.playback = .playing) (anchor : client.backend.lastStatusReceived = none) :
      Admits setting capacity client (.ok (min client.peer.ring.length capacity.toNat)) client

theorem fullness_admits (setting : Setting) (linked : client.Linked) (capacity : UInt16) :
    Ends (fullness setting.env capacity) client (Admits setting capacity client) := by
  have ring : min client.status.bufferFullness.toNat capacity.toNat = min client.peer.ring.length capacity.toNat := by
    rw [linked.status, report_fullness]
    have small := capacity.toNat_lt
    omega
  unfold fullness
  refine Ends.state ?_
  dsimp only
  rw [linked.playback]
  cases state : client.peer.playback with
  | idle =>
    rw [if_pos rfl]
    refine Ends.bind (request_asked setting linked (proper_plain trivial rfl (by simp) : Proper _ .prepareStream)) ?_
    rintro result after ⟨time, found, asked, rfl⟩
    rcases answer_cases .prepareStream found with ⟨accepted, answer⟩ | ⟨nak, -, refused, answer⟩
    · rw [answer]
      exact ⟨_, _, rfl, .prepares state asked accepted⟩
    · rw [answer]
      exact ⟨_, _, rfl, .refused state asked refused⟩
  | prepared =>
    rw [if_neg (by simp)]
    refine ⟨_, client, rfl, ?_⟩
    rw [ring]
    exact .still state
  | playing =>
    have positive := (linked.steady.segment state).2.2
    rw [if_neg (by simp), linked.status, report_rate state, if_pos positive, ← linked.status]
    unfold decayFullness
    simp only [decide_true, Bool.not_true, Bool.false_eq_true, if_false, ring]
    cases anchor : client.backend.lastStatusReceived with
    | none => exact ⟨_, client, rfl, .unknown state anchor⟩
    | some => exact ⟨_, _, rfl, .drains state anchor ⟨_, _, Nat.le_add_right _ _, rfl⟩⟩

theorem Passed.linked (passed : Passed client after) (linked : client.Linked) : after.Linked := by
  obtain ⟨clock, tick, later, rfl⟩ := passed
  exact { linked with past := linked.past.trans later }

theorem Admits.linked {result : Except (Except Failure WriteOutcome) Nat}
    (admits : Admits setting capacity client result after) (linked : client.Linked) :
    after.Linked ∧ after.peer.profile = client.peer.profile := by
  cases admits with
  | prepares _ asked => exact ⟨{ asked.linked with }, asked.profile⟩
  | refused _ asked => exact ⟨{ asked.linked with }, asked.profile⟩
  | still => exact ⟨linked, rfl⟩
  | drains _ _ passed =>
    refine ⟨passed.linked linked, ?_⟩
    obtain ⟨_, _, _, rfl⟩ := passed
    rfl
  | unknown => exact ⟨linked, rfl⟩

/-- There is no room: a prepared stream that holds something is begun, and otherwise nothing is done. -/
inductive Waits (setting : Setting) (rate : UInt32) (client : Client EtherDreamModel) : Client EtherDreamModel → Prop
  | waits (other : ¬ (client.peer.playback = .prepared ∧ 0 < client.peer.ring.length)) :
      Waits setting rate client client
  | begins {time : Nat} {found : EtherDreamModel} {after : Client EtherDreamModel}
      (prepared : client.peer.playback = .prepared) (asked : Asked setting (.begin 0 rate) client time found after) :
      Waits setting rate client (after.settle rate)

theorem beginForRoom_waits (setting : Setting) (linked : client.Linked) (fair : Fair client.peer.profile rate) :
    Ends (beginForRoom setting.env rate) client fun turn after =>
      turn = .done (.ok .wouldBlock) ∧ Waits setting rate client after := by
  have holds : (client.status.playback = .prepared ∧ client.status.bufferFullness > 0) ↔
      (client.peer.playback = .prepared ∧ 0 < client.peer.ring.length) := by
    rw [linked.playback, gt_iff_lt, UInt16.lt_iff_toNat_lt, linked.status, report_fullness]
    refine and_congr_right fun _ => ?_
    show 0 < min client.peer.ring.length 65535 ↔ _
    omega
  unfold beginForRoom
  refine Ends.state ?_
  refine Ends.iteIff holds (fun prepared => ?_) fun other => ⟨_, _, rfl, rfl, .waits other⟩
  refine Ends.bind (request_begin setting linked fair) ?_
  rintro result after ⟨time, found, asked, rfl⟩
  rcases answer_cases (.begin 0 rate) found with ⟨-, answer⟩ | ⟨nak, -, -, answer⟩
  · rw [answer]
    exact ⟨_, _, rfl, rfl, .begins prepared.1 asked⟩
  · rw [answer]
    exact ⟨_, _, rfl, rfl, .begins prepared.1 asked⟩

/-- After the data: another pass if the DAC is idle and this is the first one; a prepared stream that holds enough is
begun. -/
inductive Begins (setting : Setting) (rate : UInt32) (threshold : Nat) (retried : Bool)
    (client : Client EtherDreamModel) : Turn → Client EtherDreamModel → Prop
  | again (idle : client.peer.playback = .idle) (first : retried = false) :
      Begins setting rate threshold retried client .again client
  | ends {time : Nat} {found : EtherDreamModel} {after : Client EtherDreamModel}
      (prepared : client.peer.playback = .prepared) (asked : Asked setting (.begin 0 rate) client time found after)
      (idle : after.peer.playback = .idle) (first : retried = false) :
      Begins setting rate threshold retried client .again after
  | begins {time : Nat} {found : EtherDreamModel} {after : Client EtherDreamModel}
      (prepared : client.peer.playback = .prepared) (asked : Asked setting (.begin 0 rate) client time found after)
      (other : ¬ (after.peer.playback = .idle ∧ retried = false)) :
      Begins setting rate threshold retried client .landed after
  | landed (other : ¬ (client.peer.playback = .idle ∧ retried = false)) :
      Begins setting rate threshold retried client .landed client

theorem landed_turn (linked : after.Linked) (retried : Bool) :
    Ends (landed retried) after fun turn last => last = after ∧
      (turn = .again ∧ after.peer.playback = .idle ∧ retried = false ∨
        turn = .landed ∧ ¬ (after.peer.playback = .idle ∧ retried = false)) := by
  unfold landed
  refine Ends.state ?_
  refine Ends.iteIff (linked.idle_first retried) (fun idle => ?_) fun other => ?_
  · exact ⟨_, _, rfl, rfl, .inl ⟨rfl, idle⟩⟩
  · exact ⟨_, _, rfl, rfl, .inr ⟨rfl, other⟩⟩

theorem beginIfReached_begins (setting : Setting) (linked : client.Linked) (fair : Fair client.peer.profile rate)
    (threshold : Nat) (retried : Bool) :
    Ends (beginIfReached setting.env rate threshold retried) client
      (Begins setting rate threshold retried client) := by
  unfold beginIfReached
  refine Ends.state ?_
  refine Ends.iteIff (linked.idle_first retried) (fun idle => ?_) fun other => ?_
  · exact ⟨_, _, rfl, .again idle.1 idle.2⟩
  rw [linked.playback]
  refine Ends.ite (fun reached => ?_) fun _ => ⟨_, _, rfl, .landed other⟩
  refine Ends.bind (request_begin setting linked fair) ?_
  rintro result after ⟨time, found, asked, rfl⟩
  have lands : Ends (landed retried) after (Begins setting rate threshold retried client) := by
    refine (landed_turn asked.linked retried).post ?_
    rintro turn last ⟨rfl, ⟨rfl, idle, first⟩ | ⟨rfl, other⟩⟩
    · exact .ends reached.1 asked idle first
    · exact .begins reached.1 asked other
  rcases answer_cases (.begin 0 rate) found with ⟨-, answer⟩ | ⟨nak, mem, -, answer⟩
  · rw [answer]
    exact lands
  · obtain rfl := List.mem_singleton.mp mem
    rw [answer]
    exact lands

/-- The points have been sent, with the rate after them if another one is in force. -/
inductive Delivers (setting : Setting) (rate : UInt32) (points : List DacPoint) (client : Client EtherDreamModel)
    (time : Nat) (found : EtherDreamModel) (after : Client EtherDreamModel) : Prop
  | alone (same : ¬ (client.peer.playback = .playing ∧ client.peer.segRate ≠ rate))
      (asked : Asked setting (.data points) client time found after)
  | switching {later : Nat} {next : EtherDreamModel} (playing : client.peer.playback = .playing)
      (switched : Switched setting (.data points) (.update 0 rate) client time found later next after)

theorem Delivers.linked {time : Nat} {found : EtherDreamModel}
    (delivers : Delivers setting rate points client time found after) :
    after.Linked ∧ after.peer.profile = client.peer.profile := by
  cases delivers with
  | alone _ asked => exact ⟨asked.linked, asked.profile⟩
  | switching _ switched => exact ⟨switched.linked, switched.profile⟩

/-- What sending the points comes to. -/
inductive Sends (setting : Setting) (rate : UInt32) (threshold : Nat) (points : List DacPoint) (retried : Bool)
    (client : Client EtherDreamModel) : Turn → Client EtherDreamModel → Prop
  | dropped {time : Nat} {found : EtherDreamModel} {after : Client EtherDreamModel}
      (delivers : Delivers setting rate points client time found after)
      (refused : (found.execute (.data points)).1 ≠ DacResponse.ack) (idle : after.peer.playback = .idle)
      (first : retried = false) : Sends setting rate threshold points retried client .again after.received
  | refused {time : Nat} {found : EtherDreamModel} {after : Client EtherDreamModel}
      (delivers : Delivers setting rate points client time found after)
      (refused : (found.execute (.data points)).1 ≠ DacResponse.ack)
      (other : ¬ (after.peer.playback = .idle ∧ retried = false)) :
      Sends setting rate threshold points retried client (.done (.ok .wouldBlock)) after.received.resync
  | taken {time : Nat} {found : EtherDreamModel} {mid after : Client EtherDreamModel} {turn : Turn}
      (delivers : Delivers setting rate points client time found mid)
      (accepted : (found.execute (.data points)).1 = DacResponse.ack)
      (begins : Begins setting rate threshold retried mid turn after) :
      Sends setting rate threshold points retried client turn after

theorem sendPoints_sends (setting : Setting) (linked : client.Linked) (fair : Fair client.peer.profile rate)
    (threshold : Nat) (few : points.length ≤ 65535) (retried : Bool) :
    Ends (sendPoints setting.env rate threshold points retried) client
      (Sends setting rate threshold points retried client) := by
  have switches : (client.status.playback = .playing ∧ client.status.pointRate ≠ rate) ↔
      (client.peer.playback = .playing ∧ client.peer.segRate ≠ rate) := by
    rw [linked.playback]
    refine and_congr_right fun playing => ?_
    rw [linked.status, report_rate playing]
  unfold sendPoints
  refine Ends.state ?_
  dsimp only
  have delivered : Ends (request setting.env fun stream =>
      if client.status.playback = .playing ∧ client.status.pointRate ≠ rate then (stream.data points).update 0 rate
      else stream.data points) client fun result after =>
      ∃ time found, Delivers setting rate points client time found after ∧
        result = verdict (answerTo (.data points) found).refusal := by
    by_cases switch : client.status.playback = .playing ∧ client.status.pointRate ≠ rate
    · simp only [if_pos switch]
      refine (request_switched setting linked (proper_data few) (proper_update fair) rfl).post ?_
      rintro result after ⟨time, found, later, next, switched, rfl⟩
      exact ⟨time, found, .switching (switches.mp switch).1 switched, rfl⟩
    · simp only [if_neg switch]
      refine (request_asked setting linked (proper_data few)).post ?_
      rintro result after ⟨time, found, asked, rfl⟩
      exact ⟨time, found, .alone (mt switches.mpr switch) asked, rfl⟩
  refine Ends.bind delivered ?_
  rintro result after ⟨time, found, delivers, rfl⟩
  obtain ⟨linkedAfter, profile⟩ := delivers.linked
  rcases answer_cases (.data points) found with ⟨accepted, answer⟩ | ⟨nak, mem, refused, answer⟩
  · rw [answer]
    refine (beginIfReached_begins setting linkedAfter (profile ▸ fair) threshold retried).post ?_
    exact fun turn last begins => .taken delivers accepted begins
  · rw [answer]
    have own : nakCommand (.response (found.replyTo (.data points)) (.nak nak)) ≠
        some (Command.update 0 rate).startByte := by
      show some (0x64 : UInt8) ≠ some 0x75
      decide
    have linkedReceived : after.received.Linked := { linkedAfter with }
    have refuses : Ends (do
        update received
        let client ← state
        if client.status.playback = .idle ∧ !retried then return .again
        else
          update resync
          return .done (.ok .wouldBlock) : Run (Client EtherDreamModel) Turn) after
        (Sends setting rate threshold points retried client) := by
      refine Ends.update ?_
      refine Ends.state ?_
      refine Ends.iteIff (linkedReceived.idle_first retried) (fun idle => ?_) fun other => ?_
      · exact ⟨_, _, rfl, .dropped delivers refused idle.1 idle.2⟩
      · exact ⟨_, _, rfl, .refused delivers refused other⟩
    dsimp only
    rw [if_neg own]
    rcases List.mem_pair.mp mem with rfl | rfl
    · exact refuses
    · exact refuses

/-- What one pass over the loop comes to. -/
inductive Turns (setting : Setting) (rate : UInt32) (capacity : UInt16) (threshold : Nat) (points : List DacPoint)
    (retried : Bool) (client : Client EtherDreamModel) : Turn → Client EtherDreamModel → Prop
  | refused {result : Except Failure WriteOutcome} {after : Client EtherDreamModel}
      (admits : Admits setting capacity client (.error result) after) :
      Turns setting rate capacity threshold points retried client (.done result) after
  | waits {fullness : Nat} {mid after : Client EtherDreamModel}
      (admits : Admits setting capacity client (.ok fullness) mid) (full : capacity.toNat - fullness < points.length)
      (waits : Waits setting rate (mid.check fullness) after) :
      Turns setting rate capacity threshold points retried client (.done (.ok .wouldBlock)) after
  | sends {fullness : Nat} {mid after : Client EtherDreamModel} {turn : Turn}
      (admits : Admits setting capacity client (.ok fullness) mid) (fits : points.length ≤ capacity.toNat - fullness)
      (sends : Sends setting rate threshold points retried (mid.check fullness) turn after) :
      Turns setting rate capacity threshold points retried client turn after

theorem turn_turns (setting : Setting) (linked : client.Linked) (fair : Fair client.peer.profile rate)
    (capacity : UInt16) (threshold : Nat) (points : List DacPoint) (retried : Bool) :
    Ends (turn setting.env rate capacity threshold points retried) client
      (Turns setting rate capacity threshold points retried client) := by
  unfold turn
  refine Ends.bind (fullness_admits setting linked capacity) fun result mid admits => ?_
  obtain ⟨linkedMid, profile⟩ := admits.linked linked
  cases result with
  | error => exact ⟨_, _, rfl, .refused admits⟩
  | ok fullness =>
    refine Ends.update ?_
    have linkedCheck : (mid.check fullness).Linked := { linkedMid with }
    have fairCheck : Fair (mid.check fullness).peer.profile rate := profile ▸ fair
    refine Ends.ite (fun full => ?_) fun fits => ?_
    · refine (beginForRoom_waits setting linkedCheck fairCheck).post ?_
      rintro turn after ⟨rfl, waits⟩
      exact .waits admits full waits
    · have room : points.length ≤ capacity.toNat - fullness := Nat.le_of_not_lt fits
      have few : points.length ≤ 65535 := by
        have small := capacity.toNat_lt
        omega
      exact (sendPoints_sends setting linkedCheck fairCheck threshold few retried).post fun turn after sends =>
        .sends admits room sends

theorem Turns.again {threshold : Nat} {retried : Bool}
    (turns : Turns setting rate capacity threshold points retried client .again after) (linked : client.Linked) :
    retried = false ∧ after.peer.playback = .idle ∧ after.Linked ∧ after.peer.profile = client.peer.profile := by
  cases turns with
  | sends admits fits sends =>
    obtain ⟨-, profile⟩ := admits.linked linked
    cases sends with
    | dropped delivers _ idle first =>
      obtain ⟨linkedAfter, same⟩ := delivers.linked
      exact ⟨first, idle, { linkedAfter with }, same.trans profile⟩
    | taken delivers _ begins =>
      obtain ⟨linkedAfter, same⟩ := delivers.linked
      cases begins with
      | again idle first => exact ⟨first, idle, linkedAfter, same.trans profile⟩
      | ends _ asked idle first => exact ⟨first, idle, asked.linked, asked.profile.trans (same.trans profile)⟩

/-- A pass that ends the call refuses. -/
theorem Turns.done {threshold : Nat} {retried : Bool} {result : Except Failure WriteOutcome}
    (turns : Turns setting rate capacity threshold points retried client (.done result) after) :
    result = .ok .wouldBlock := by
  cases turns with
  | refused admits =>
    cases admits
    rfl
  | waits => rfl
  | sends admits fits sends =>
    cases sends with
    | refused => rfl
    | taken delivers accepted begins => cases begins

theorem clampRate_fair (honest : profile.Honest) (pps : UInt32) :
    Fair profile (clampRate pps profile.maxPointRate) := by
  have positive : 0 < profile.maxPointRate.toNat := UInt32.lt_iff_toNat_lt.mp honest.rate
  have high : ¬ profile.maxPointRate < 1 := by
    rw [UInt32.lt_iff_toNat_lt]
    exact Nat.not_lt.mpr positive
  unfold Fair clampRate
  dsimp only
  rw [if_neg high]
  generalize (if pps = 0 then profile.maxPointRate / 16 else pps) = rate
  split
  · exact ⟨by decide, UInt32.not_lt.mp high⟩
  · rename_i low
    split
    · exact ⟨honest.rate, UInt32.le_refl _⟩
    · rename_i small
      refine ⟨?_, UInt32.not_lt.mp small⟩
      rw [UInt32.lt_iff_toNat_lt] at low ⊢
      exact Nat.not_lt.mp low

def Turn.next : Turn → Bool ⊕ Option (Except Failure WriteOutcome)
  | .again => .inl true
  | .done result => .inr (some result)
  | .landed => .inr none

theorem turn_next (setting : Setting) (linked : client.Linked) (fair : Fair client.peer.profile rate)
    (capacity : UInt16) (threshold : Nat) (points : List DacPoint) (retried : Bool)
    {k : Turn → Run (Client EtherDreamModel) (Bool ⊕ Option (Except Failure WriteOutcome))}
    (next : ∀ turn, k turn = Pure.pure turn.next) :
    Ends (turn setting.env rate capacity threshold points retried >>= k) client fun next after =>
      ∃ turn, next = turn.next ∧ Turns setting rate capacity threshold points retried client turn after := by
  refine Ends.bind (turn_turns setting linked fair _ _ _ _) fun turn after turns => ?_
  rw [next]
  exact Ends.pure ⟨turn, rfl, turns⟩

/-- What the loop comes to: at most two passes, the second one after the DAC was found idle. -/
inductive Delivery (setting : Setting) (rate : UInt32) (threshold : Nat) (points : List DacPoint)
    (client : Client EtherDreamModel) : WriteOutcome → Client EtherDreamModel → Prop
  | blocked {after : Client EtherDreamModel}
      (turns : Turns setting rate client.peer.profile.bufferCapacity threshold points false client
        (.done (.ok .wouldBlock)) after) : Delivery setting rate threshold points client .wouldBlock after
  | written {after : Client EtherDreamModel}
      (turns : Turns setting rate client.peer.profile.bufferCapacity threshold points false client .landed after) :
      Delivery setting rate threshold points client .written (after.settle rate)
  | blockedAgain {mid after : Client EtherDreamModel}
      (first : Turns setting rate client.peer.profile.bufferCapacity threshold points false client .again mid)
      (second : Turns setting rate client.peer.profile.bufferCapacity threshold points true mid
        (.done (.ok .wouldBlock)) after) : Delivery setting rate threshold points client .wouldBlock after
  | writtenAgain {mid after : Client EtherDreamModel}
      (first : Turns setting rate client.peer.profile.bufferCapacity threshold points false client .again mid)
      (second : Turns setting rate client.peer.profile.bufferCapacity threshold points true mid .landed after) :
      Delivery setting rate threshold points client .written (after.settle rate)

def rateFor (pps : UInt32) (client : Client EtherDreamModel) : UInt32 := clampRate pps client.peer.profile.maxPointRate

def thresholdFor (pps : UInt32) (client : Client EtherDreamModel) : Nat :=
  beginThreshold (client.rateFor pps) client.peer.profile.bufferCapacity

theorem deliver_delivers (setting : Setting) (linked : client.Linked) (pps : UInt32) (points : List DacPoint) :
    Ends (deliver setting.env pps points) client fun result after => ∃ outcome, result = .ok outcome ∧
      Delivery setting (client.rateFor pps) (client.thresholdFor pps) points client outcome after := by
  have maxRate : effectiveMaxRate client.wire.stream.dac.maxPointRate = client.peer.profile.maxPointRate := by
    have positive := linked.honest.rate
    rw [linked.maxRate, effectiveMaxRate, if_neg]
    rintro zero
    exact absurd positive (by rw [zero]; decide)
  have capacity : effectiveCapacity client.wire.stream.dac.bufferCapacity = client.peer.profile.bufferCapacity := by
    have positive := linked.honest.capacity
    rw [linked.capacity, effectiveCapacity, if_neg]
    rintro zero
    exact absurd positive (by rw [zero]; decide)
  have fair : Fair client.peer.profile (client.rateFor pps) := clampRate_fair linked.honest pps
  unfold deliver
  refine Ends.state ?_
  dsimp only
  rw [maxRate, capacity]
  refine Ends.bind (M := fun result after =>
    result = some (.ok .wouldBlock) ∧
        Delivery setting (client.rateFor pps) (client.thresholdFor pps) points client .wouldBlock after ∨
      result = none ∧ Delivery setting (client.rateFor pps) (client.thresholdFor pps) points client .written
        (after.settle (client.rateFor pps))) ?_ ?_
  · refine Ends.iterate (turn_next setting linked fair _ _ _ _ (by intro turn; cases turn <;> rfl)) ?_ ?_
    · rintro retried mid ⟨turn, next, first⟩
      cases turn with
      | done result => cases next
      | landed => cases next
      | again =>
        cases next
        obtain ⟨-, -, linkedMid, profile⟩ := first.again linked
        have fairMid : Fair mid.peer.profile (client.rateFor pps) := by
          rw [profile]
          exact fair
        refine Ends.iterate (turn_next setting linkedMid fairMid _ _ _ _ (by intro turn; cases turn <;> rfl)) ?_ ?_
        · rintro retried last ⟨turn, next, second⟩
          cases turn with
          | done result => cases next
          | landed => cases next
          | again => exact absurd (second.again linkedMid).1 (by simp)
        · rintro result last ⟨turn, next, second⟩
          cases turn with
          | again => cases next
          | landed =>
            cases next
            exact .inr ⟨rfl, .writtenAgain first second⟩
          | done result =>
            obtain rfl := second.done
            cases next
            exact .inl ⟨rfl, .blockedAgain first second⟩
    · rintro result after ⟨turn, next, turns⟩
      cases turn with
      | again => cases next
      | landed =>
        cases next
        exact .inr ⟨rfl, .written turns⟩
      | done result =>
        obtain rfl := turns.done
        cases next
        exact .inl ⟨rfl, .blocked turns⟩
  · rintro result after (⟨rfl, delivery⟩ | ⟨rfl, delivery⟩)
    · exact ⟨_, _, rfl, _, rfl, delivery⟩
    · exact ⟨_, _, rfl, _, rfl, delivery⟩

/-- A ping after the clear. -/
inductive Confirms (setting : Setting) (client : Client EtherDreamModel) :
    Option WriteOutcome → Client EtherDreamModel → Prop
  | stopped {time : Nat} {found : EtherDreamModel} {after : Client EtherDreamModel}
      (asked : Asked setting .ping client time found after) (stopped : after.peer.lightEngine = .emergencyStop) :
      Confirms setting client (some .wouldBlock) after
  | waits {time : Nat} {found : EtherDreamModel} {after : Client EtherDreamModel}
      (asked : Asked setting .ping client time found after) (unready : after.peer.lightEngine ≠ .ready) :
      Confirms setting client (some .wouldBlock) after.resync
  | ready {time : Nat} {found : EtherDreamModel} {after : Client EtherDreamModel}
      (asked : Asked setting .ping client time found after) (ready : after.peer.lightEngine = .ready) :
      Confirms setting client none after.resync

theorem Linked.lightEngine (linked : client.Linked) : client.status.lightEngine = client.peer.lightEngine := by
  rw [linked.status]
  rfl

theorem request_ping (setting : Setting) (linked : client.Linked) :
    Ends (request setting.env Stream.ping) client fun result after =>
      ∃ time found, Asked setting .ping client time found after ∧ result = .ok () := by
  have proper : Proper client.peer.profile .ping := proper_plain trivial rfl (by simp)
  have asks := request_asked setting linked proper
  refine asks.post ?_
  rintro result after ⟨time, found, asked, rfl⟩
  exact ⟨time, found, asked, rfl⟩

theorem confirmClear_confirms (setting : Setting) (linked : client.Linked) :
    Ends (confirmClear setting.env) client fun result after =>
      ∃ outcome, result = .ok outcome ∧ Confirms setting client outcome after := by
  unfold confirmClear
  refine Ends.bind (request_ping setting linked) ?_
  rintro result after ⟨time, found, asked, rfl⟩
  refine Ends.state ?_
  rw [asked.linked.lightEngine]
  refine Ends.ite (fun stopped => ?_) fun free => ?_
  · exact Ends.pure ⟨_, rfl, .stopped asked stopped⟩
  · refine Ends.update ?_
    refine Ends.ite (fun unready => ?_) fun ready => ?_
    · exact Ends.pure ⟨_, rfl, .waits asked unready⟩
    · exact Ends.pure ⟨_, rfl, .ready asked (Classical.not_not.mp ready)⟩

def attempted (client : Client EtherDreamModel) : Client EtherDreamModel :=
  { client with backend := { client.backend with lastEstopAttempt := some client.clock } }

def pinged (client : Client EtherDreamModel) : Client EtherDreamModel :=
  { client with backend := { client.backend with lastPingTime := some client.clock } }

def Recent (last : Option Nat) (now interval : Nat) : Prop := ∃ time, last = some time ∧ now - time < interval

theorem isDue_iff (last : Option Nat) (now interval : Nat) :
    isDue last now interval = true ↔ ¬ Recent last now interval := by
  cases last with
  | none | some => simp [isDue, Recent]

/-- What becomes of an emergency stop: nothing if it was tried lately, and otherwise a clear and a ping. -/
inductive Clears (setting : Setting) (client : Client EtherDreamModel) :
    Option WriteOutcome → Client EtherDreamModel → Prop
  | early {after : Client EtherDreamModel} (passed : Passed client after)
      (recent : Recent client.backend.lastEstopAttempt after.clock estopRetryInterval) :
      Clears setting client (some .wouldBlock) after
  | refused {mid after : Client EtherDreamModel} {time : Nat} {found : EtherDreamModel} (passed : Passed client mid)
      (asked : Asked setting .clearEmergencyStop mid.attempted time found after)
      (stopped : after.peer.lightEngine = .emergencyStop) : Clears setting client (some .wouldBlock) after
  | confirms {mid cleared after : Client EtherDreamModel} {time : Nat} {found : EtherDreamModel}
      {outcome : Option WriteOutcome} (passed : Passed client mid)
      (asked : Asked setting .clearEmergencyStop mid.attempted time found cleared)
      (confirms : Confirms setting cleared outcome after) : Clears setting client outcome after

theorem clearStop_clears (setting : Setting) (linked : client.Linked) :
    Ends (clearStop setting.env) client fun result after =>
      ∃ outcome, result = .ok outcome ∧ Clears setting client outcome after := by
  unfold clearStop
  refine Ends.bind (now_passed setting client) ?_
  rintro time mid ⟨passed, rfl⟩
  have backend : mid.backend = client.backend := by
    obtain ⟨_, _, _, rfl⟩ := passed
    rfl
  refine Ends.state ?_
  refine Ends.iteIff (isDue_iff _ _ _) (fun due => ?_) fun early => ?_
  · refine Ends.update ?_
    have linkedMid : mid.attempted.Linked := { passed.linked linked with }
    have proper : Proper mid.attempted.peer.profile .clearEmergencyStop := proper_plain trivial rfl (by simp)
    have asks := request_asked setting linkedMid proper
    refine Ends.bind asks ?_
    rintro result cleared ⟨time, found, asked, rfl⟩
    have confirms : Ends (confirmClear setting.env) cleared fun result after =>
        ∃ outcome, result = .ok outcome ∧ Clears setting client outcome after := by
      refine (confirmClear_confirms setting asked.linked).post ?_
      rintro result after ⟨outcome, rfl, confirms⟩
      exact ⟨outcome, rfl, .confirms passed asked confirms⟩
    rcases answer_cases .clearEmergencyStop found with ⟨-, answer⟩ | ⟨nak, mem, -, answer⟩
    · rw [answer]
      exact confirms
    · obtain rfl := List.mem_singleton.mp mem
      rw [answer]
      refine Ends.state ?_
      rw [asked.linked.lightEngine]
      refine Ends.ite (fun _ => ?_) fun other => absurd rfl other
      refine Ends.ite (fun stopped => ?_) fun _ => confirms
      exact Ends.pure ⟨_, rfl, .refused passed asked stopped⟩
  · refine Ends.pure ⟨_, rfl, .early passed ?_⟩
    rw [← backend]
    exact Classical.not_not.mp early

/-- What becomes of a warmup: nothing if the DAC was asked lately, and otherwise a ping. -/
inductive Awaits (setting : Setting) (client : Client EtherDreamModel) : Client EtherDreamModel → Prop
  | early {after : Client EtherDreamModel} (passed : Passed client after)
      (recent : Recent client.backend.lastPingTime after.clock warmupPingInterval) : Awaits setting client after
  | pings {mid after : Client EtherDreamModel} {time : Nat} {found : EtherDreamModel} (passed : Passed client mid)
      (asked : Asked setting .ping mid.pinged time found after) : Awaits setting client after.received

theorem awaitReady_awaits (setting : Setting) (linked : client.Linked) :
    Ends (awaitReady setting.env) client fun result after =>
      result = .ok .wouldBlock ∧ Awaits setting client after := by
  unfold awaitReady
  refine Ends.bind (now_passed setting client) ?_
  rintro time mid ⟨passed, rfl⟩
  have backend : mid.backend = client.backend := by
    obtain ⟨_, _, _, rfl⟩ := passed
    rfl
  refine Ends.state ?_
  refine Ends.iteIff (isDue_iff _ _ _) (fun due => ?_) fun early => ?_
  · refine Ends.update ?_
    have linkedMid : mid.pinged.Linked := { passed.linked linked with }
    refine Ends.bind (request_ping setting linkedMid) ?_
    rintro result after ⟨time, found, asked, rfl⟩
    exact Ends.update (Ends.pure ⟨rfl, .pings passed asked⟩)
  · refine Ends.pure ⟨rfl, .early passed ?_⟩
    rw [← backend]
    exact Classical.not_not.mp early

/-- What a write comes to. -/
inductive Writes (setting : Setting) (pps : UInt32) (points : List DacPoint) (client : Client EtherDreamModel) :
    WriteOutcome → Client EtherDreamModel → Prop
  | nothing (empty : points = []) : Writes setting pps points client .wouldBlock client
  | delivers {outcome : WriteOutcome} {after : Client EtherDreamModel} (ready : client.peer.lightEngine = .ready)
      (delivery : Delivery setting (client.rateFor pps) (client.thresholdFor pps) points client outcome after) :
      Writes setting pps points client outcome after
  | awaits {after : Client EtherDreamModel} (unready : client.peer.lightEngine ≠ .ready)
      (running : client.peer.lightEngine ≠ .emergencyStop) (awaits : Awaits setting client after) :
      Writes setting pps points client .wouldBlock after
  | stopped {outcome : WriteOutcome} {after : Client EtherDreamModel}
      (stopped : client.peer.lightEngine = .emergencyStop) (clears : Clears setting client (some outcome) after) :
      Writes setting pps points client outcome after
  | cleared {outcome : WriteOutcome} {mid after : Client EtherDreamModel}
      (stopped : client.peer.lightEngine = .emergencyStop) (clears : Clears setting client none mid)
      (delivery : Delivery setting (mid.rateFor pps) (mid.thresholdFor pps) points mid outcome after) :
      Writes setting pps points client outcome after

theorem Clears.linked {outcome : Option WriteOutcome} (linked : client.Linked)
    (clears : Clears setting client outcome after) : after.Linked := by
  cases clears with
  | early passed => exact passed.linked linked
  | refused passed asked => exact asked.linked
  | confirms passed asked confirms =>
    cases confirms with
    | stopped asked => exact asked.linked
    | waits asked => exact { asked.linked with }
    | ready asked => exact { asked.linked with }

theorem writePoints_writes (setting : Setting) (linked : client.Linked) (pps : UInt32) (points : List LaserPoint) :
    Ends (writePoints setting.env pps points) client fun result after => ∃ outcome, result = .ok outcome ∧
      Writes setting pps (points.map (DacPoint.ofLaserPoint setting.coordinate)) client outcome after := by
  unfold writePoints
  refine Ends.state ?_
  refine Ends.ite (fun empty => ?_) fun some_ => ?_
  · exact Ends.pure ⟨_, rfl, .nothing (by rw [empty]; rfl)⟩
  · have awaits (unready : client.peer.lightEngine ≠ .ready) (running : client.peer.lightEngine ≠ .emergencyStop) :
        Ends (awaitReady setting.env) client fun result after => ∃ outcome, result = .ok outcome ∧
          Writes setting pps (points.map (DacPoint.ofLaserPoint setting.coordinate)) client outcome after := by
      refine (awaitReady_awaits setting linked).post ?_
      rintro result after ⟨rfl, awaits⟩
      exact ⟨_, rfl, .awaits unready running awaits⟩
    rw [linked.lightEngine]
    cases engine : client.peer.lightEngine with
    | warmup | cooldown => exact awaits (by simp [engine]) (by simp [engine])
    | ready =>
      refine (deliver_delivers setting linked pps _).post ?_
      rintro result after ⟨outcome, rfl, delivery⟩
      exact ⟨outcome, rfl, .delivers engine delivery⟩
    | emergencyStop =>
      refine Ends.bind (clearStop_clears setting linked) ?_
      rintro result mid ⟨outcome, rfl, clears⟩
      cases outcome with
      | some outcome => exact Ends.pure ⟨outcome, rfl, .stopped engine clears⟩
      | none =>
        refine (deliver_delivers setting (clears.linked linked) pps _).post ?_
        rintro result after ⟨outcome, rfl, delivery⟩
        exact ⟨outcome, rfl, .cleared engine clears delivery⟩

end Client

end LaserDac.EtherDream
