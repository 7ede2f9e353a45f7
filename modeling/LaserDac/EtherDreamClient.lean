import LaserDac.EtherDreamSync
import LaserDac.EtherDreamModel

/-!
The backend as the single client of the simulated DAC. Commands travel for any time, replies arrive in any pieces, and
between any two commands the DAC may be stopped or its interlock opened or closed.
-/

namespace LaserDac.EtherDream

open Runs Runs.Run Wire EtherDreamModel

/-- Something that befalls the DAC, and when. -/
inductive Disturbance
  | estop (time : Nat)
  | interlock (time : Nat) (ok : Bool)
  deriving DecidableEq, Repr

def Disturbance.strike (deadline : Nat) (m : EtherDreamModel) : Disturbance → EtherDreamModel
  | estop time => m.triggerEstop (min time deadline)
  | interlock time ok => (m.advanceTo (min time deadline)).setInterlock ok

/-- The surroundings of a backend that is connected to the simulated DAC: all delays, what befalls the DAC before it
handles a command, and how the replies are cut into reads. -/
structure Setting where
  pause : Nat → Nat
  lag : Nat → Nat
  disturbances : Nat → List Disturbance
  reads : Nat → List ReadOutcome
  coordinate : UInt32 → Int16
  prompt : ∀ tick, Covers DacResponse.sizeBytes (reads tick)

namespace Setting

/-- The other end is a model that the setting disturbs. -/
def env (setting : Setting) : Env EtherDreamModel where
  pause := setting.pause
  lag := setting.lag
  disturb := fun tick time m => ((setting.disturbances tick).foldl (Disturbance.strike time) m).advanceTo time
  react := fun time bytes m => ((m.feed time bytes).1.flatMap Reply.toBytes, (m.feed time bytes).2)
  writes := fun _ => none
  reads := setting.reads
  coordinate := setting.coordinate

/-- Nothing befalls the DAC. -/
def Calm (setting : Setting) : Prop := ∀ tick, setting.disturbances tick = []

/-- What a command that is handled at a time finds the DAC to be. -/
def Meets (setting : Setting) (time : Nat) (m found : EtherDreamModel) : Prop :=
  ∃ tick, found = setting.env.disturb tick time m

end Setting

/-- The firmware advertises a capacity and a rate, and its ring holds what it advertises. -/
structure FirmwareProfile.Honest (profile : FirmwareProfile) : Prop where
  capacity : 0 < profile.bufferCapacity
  ring : profile.bufferCapacity ≤ profile.ringPoints
  rate : 0 < profile.maxPointRate

variable {m found last : EtherDreamModel} {events : List (Event EtherDreamModel)} {commands : List Command}
  {setting : Setting} {time start : Nat} {answers : List Answer} {command : Command}

theorem estop_steady (steady : m.Steady) : m.estop.Steady :=
  ⟨⟨steady.plain.input, steady.plain.hung, steady.plain.inject, steady.plain.replyOverride, steady.plain.recordInput⟩,
    rfl, by rintro ⟨⟩, fun _ => rfl, by rintro ⟨⟩⟩

theorem interlock_steady (steady : m.Steady) (ok : Bool) : ({ m with interlockOk := ok } : EtherDreamModel).Steady :=
  ⟨⟨steady.plain.input, steady.plain.hung, steady.plain.inject, steady.plain.replyOverride, steady.plain.recordInput⟩,
    steady.queue, steady.segment, steady.dark, steady.warming⟩

theorem EtherDreamModel.Later.interlock {after : EtherDreamModel} (later : Later time m after) (ok : Bool) :
    Later time { m with interlockOk := ok } { after with interlockOk := ok } :=
  { later with steady := interlock_steady later.steady ok, interlockOk := rfl }

/-- What may have become of a DAC by a time: time has passed, with the interlock at most, or it is stopped. -/
structure Befallen (time : Nat) (m found : EtherDreamModel) : Prop where
  steady : found.Steady
  now : found.now = max m.now time
  profile : found.profile = m.profile
  overfullWrites : found.overfullWrites = m.overfullWrites
  ring : found.ring.length ≤ m.ring.length
  course : found.lightEngine = .emergencyStop ∨ ∃ ok, Later time { m with interlockOk := ok } found

theorem EtherDreamModel.Later.ring {after : EtherDreamModel} (later : Later time m after) :
    after.ring.length ≤ m.ring.length := by
  by_cases playing : m.playback = .playing
  · rw [later.drained playing, List.length_drop]
    exact Nat.sub_le _ _
  · rw [(later.still playing).2]

namespace Befallen

section

variable (befallen : Befallen time m found)

include befallen

theorem advanceTo (next : Nat) : Befallen (max time next) m (found.advanceTo next) := by
  have later := advanceTo_later befallen.steady next
  refine {
    steady := later.steady
    now := by rw [later.now, befallen.now, Nat.max_assoc]
    profile := later.profile.trans befallen.profile
    overfullWrites := later.overfullWrites.trans befallen.overfullWrites
    ring := Nat.le_trans later.ring befallen.ring
    course := ?_ }
  rcases befallen.course with stopped | ⟨ok, course⟩
  · left
    rcases later.lightEngine with same | ⟨warm, -⟩
    · exact same.trans stopped
    · rw [stopped] at warm
      cases warm
  · exact .inr ⟨ok, course.trans later⟩

theorem estop :
    Befallen time m found.estop where
  steady := estop_steady befallen.steady
  now := befallen.now
  profile := befallen.profile
  overfullWrites := befallen.overfullWrites
  ring := by
    have smaller : found.estop.ring.length ≤ found.ring.length := by
      unfold EtherDreamModel.estop
      dsimp only
      split
      · exact le_rfl
      · exact Nat.zero_le _
    exact Nat.le_trans smaller befallen.ring
  course := .inl rfl

theorem interlock (ok : Bool) : Befallen time m { found with interlockOk := ok } where
  steady := interlock_steady befallen.steady ok
  now := befallen.now
  profile := befallen.profile
  overfullWrites := befallen.overfullWrites
  ring := befallen.ring
  course := by
    rcases befallen.course with stopped | ⟨was, course⟩
    · exact .inl stopped
    · exact .inr ⟨ok, course.interlock ok⟩

theorem strike {deadline : Nat} (inTime : time ≤ deadline) (disturbance : Disturbance) :
    ∃ next ≤ deadline, Befallen next m (disturbance.strike deadline found) := by
  cases disturbance with
  | estop at_ =>
    exact ⟨max time (min at_ deadline), by omega, (befallen.advanceTo (min at_ deadline)).estop⟩
  | interlock at_ ok =>
    refine ⟨max time (min at_ deadline), by omega, ?_⟩
    have moved := befallen.advanceTo (min at_ deadline)
    simp only [Disturbance.strike, setInterlock]
    split
    · exact moved.estop.interlock ok
    · exact moved.interlock ok

end

theorem strikes {deadline : Nat} (disturbances : List Disturbance) (befallen : Befallen time m found)
    (inTime : time ≤ deadline) :
    ∃ next ≤ deadline, Befallen next m (disturbances.foldl (Disturbance.strike deadline) found) := by
  induction disturbances generalizing found time with
  | nil => exact ⟨time, inTime, befallen⟩
  | cons disturbance disturbances ih =>
    obtain ⟨next, early, struck⟩ := befallen.strike inTime disturbance
    exact ih struck early

end Befallen

theorem Setting.Meets.befallen (meets : setting.Meets time m found) (steady : m.Steady) : Befallen time m found := by
  obtain ⟨tick, rfl⟩ := meets
  have start : Befallen 0 m m := {
    steady, now := (Nat.max_zero _).symm, profile := rfl, overfullWrites := rfl, ring := le_rfl
    course := .inr ⟨m.interlockOk, by
      have later := advanceTo_later steady 0
      rwa [advanceTo_of_le (Nat.zero_le _)] at later⟩ }
  obtain ⟨next, early, struck⟩ := start.strikes (setting.disturbances tick) (Nat.zero_le time)
  have done := struck.advanceTo time
  rw [Nat.max_eq_right early] at done
  exact done

theorem Setting.Meets.calm (calm : setting.Calm) (meets : setting.Meets time m found) : found = m.advanceTo time := by
  obtain ⟨tick, rfl⟩ := meets
  simp only [env, calm tick, List.foldl_nil]

/-! ### Serving commands -/

/-- A command that does not harm the DAC: it neither queues a rate nor stops it, its rate is in range, and its points
can be counted. -/
structure Proper (profile : FirmwareProfile) (command : Command) : Prop where
  modest : Modest command
  accepts : ∀ rate, command.rate = some rate → 0 < rate ∧ rate ≤ profile.maxPointRate
  few : ∀ points, command = .data points → points.length ≤ 65535

theorem Proper.write {profile : FirmwareProfile} (proper : Proper profile command) :
    ∃ bytes, command.write = some bytes := by
  cases command with
  | data points =>
    rw [Command.write, if_neg (Nat.not_lt.mpr (proper.few points rfl))]
    exact ⟨_, rfl⟩
  | _ => exact ⟨_, rfl⟩

theorem Proper.cut {profile : FirmwareProfile} (proper : Proper profile command) : command.cut = command := by
  cases command with
  | data points => rw [Command.cut, List.take_of_length_le (proper.few points rfl)]
  | _ => rfl

def answerTo (command : Command) (found : EtherDreamModel) : Answer :=
  { unsolicited := [], reply := found.replyTo command, status := (found.taken command).report }

theorem answerTo_for (command : Command) (found : EtherDreamModel) :
    (answerTo command found).For command.startByte where
  few := Nat.zero_le _
  other := by simp [answerTo]
  skipped := by simp [answerTo]
  valid := by simp [answerTo]
  command := rfl
  code := execute_code command found
  status := by
    change Status.fromProtocol (found.execute command).2.status = .ok (found.taken command).report
    rw [status_report, taken, counted_report]

/-- The DAC serves commands one after the other, none before the start: the events, the newest first, its answers,
and what it is in the end. -/
inductive Serves (setting : Setting) (start : Nat) :
    List Command → EtherDreamModel → List (Event EtherDreamModel) → List Answer → EtherDreamModel → Prop
  | nil (m : EtherDreamModel) : Serves setting start [] m [] [] m
  | cons {command : Command} {commands : List Command} {bytes : List UInt8} {time : Nat} {m found last : EtherDreamModel}
      {events : List (Event EtherDreamModel)} {answers : List Answer} (meets : setting.Meets time m found)
      (later : start ≤ time) (written : command.write = some bytes)
      (rest : Serves setting start commands (found.taken command) events answers last) :
      Serves setting start (command :: commands) m (events ++ [.handled time bytes found (found.taken command)])
        (answerTo command found :: answers) last

theorem Serves.earlier {early : Nat} (order : early ≤ start)
    (serves : Serves setting start commands m events answers last) :
    Serves setting early commands m events answers last := by
  induction serves with
  | nil m => exact .nil m
  | cons meets later written _ ih => exact .cons meets (Nat.le_trans order later) written ih

theorem Serves.status (serves : Serves setting start commands m events answers last) :
    ∀ answer, answers.getLast? = some answer → answer.status = last.report := by
  induction serves with
  | nil => simp
  | @cons command commands bytes time m found last events answers meets later written rest ih =>
    intro answer eq
    cases rest with
    | nil =>
      obtain rfl : answerTo command found = answer := by simpa using eq
      rfl
    | cons => exact ih answer (by simpa using eq)

theorem Serves.answers_for (serves : Serves setting start commands m events answers last) :
    List.Forall₂ (fun command answer => Answer.For command.startByte answer) commands answers := by
  induction serves with
  | nil => exact .nil
  | @cons command commands bytes time m found last events answers meets later written rest ih =>
    exact .cons (answerTo_for command found) ih

/-- What sending commands comes to. -/
structure Sent (setting : Setting) (commands : List Command) (wire : Wire EtherDreamModel)
    (stamps : List (UInt8 × Nat)) (events : List (Event EtherDreamModel)) (answers : List Answer)
    (sending : Wire EtherDreamModel) : Prop where
  serves : Serves setting wire.socket.clock commands wire.socket.peer events answers sending.socket.peer
  stream : sending.stream = wire.stream
  log : sending.socket.log = events ++ wire.socket.log
  incoming : sending.socket.incoming.map Prod.fst =
    wire.socket.incoming.map Prod.fst ++ answers.flatMap Answer.bytes
  starts : stamps.map Prod.fst = commands.map Command.startByte
  clock : wire.socket.clock ≤ sending.socket.clock
  peerTime : sending.socket.peerTime = sending.socket.peer.now
  onward : wire.socket.peer.now ≤ sending.socket.peer.now
  steady : sending.socket.peer.Steady
  profile : sending.socket.peer.profile = wire.socket.peer.profile
  stamped : ∀ stamp ∈ stamps, stamp.2 ≤ sending.socket.peer.now
  unsent : commands = [] → sending = wire
  last : commands ≠ [] → ∃ byte ∈ sending.socket.incoming, byte.2 = sending.socket.peer.now
  kept : ∀ byte ∈ wire.socket.incoming, byte ∈ sending.socket.incoming

theorem delivered_peer (setting : Setting) {bytes : List UInt8} {s : Socket EtherDreamModel} (steady : s.peer.Steady)
    (proper : Proper s.peer.profile command) (written : command.write = some bytes) :
    ∃ time found, time = max s.peerTime s.clock + setting.lag s.tick ∧ setting.Meets time s.peer found ∧
      s.delivered setting.env bytes =
        { s with
          peer := found.taken command, peerTime := time
          incoming := s.incoming ++ (answerTo command found).bytes.map fun byte => (byte, time)
          sent := s.sent ++ bytes, tick := s.tick + 1
          log := .handled time bytes found (found.taken command) :: s.log } := by
  obtain ⟨time, timeEq⟩ : ∃ time, time = max s.peerTime s.clock + setting.lag s.tick := ⟨_, rfl⟩
  obtain ⟨found, foundEq⟩ : ∃ found, found = setting.env.disturb s.tick time s.peer := ⟨_, rfl⟩
  have meets : setting.Meets time s.peer found := ⟨s.tick, foundEq⟩
  have befallen := meets.befallen steady
  have reached : time ≤ found.now := by
    rw [befallen.now]
    exact Nat.le_max_right _ _
  have accepts : found.Accepts command := by
    intro rate
    rw [befallen.profile]
    exact proper.accepts rate
  have fed := feed_write befallen.steady accepts written time
  rw [handle_found reached] at fed
  refine ⟨time, found, timeEq, meets, ?_⟩
  have react : setting.env.react time bytes found = ((answerTo command found).bytes, found.taken command) := by
    change ((found.feed time bytes).1.flatMap Reply.toBytes, (found.feed time bytes).2) = _
    rw [fed]
    simp [Reply.toBytes, answerTo, Answer.bytes]
  rw [Socket.delivered]
  change ({ s with
    peer := (setting.env.react _ bytes (setting.env.disturb s.tick _ s.peer)).2, peerTime := _, incoming := _, sent := _
    tick := _, log := _ } : Socket EtherDreamModel) = _
  rw [show max s.peerTime s.clock + setting.env.lag s.tick = time from timeEq.symm, ← foundEq, react]

/-- A command has been sent: it was stamped before it met the DAC, and the answer is under way. -/
structure Handed (setting : Setting) (command : Command) (wire : Wire EtherDreamModel) (stamp : Nat)
    (bytes : List UInt8) (time : Nat) (found : EtherDreamModel) (served : Wire EtherDreamModel) : Prop where
  meets : setting.Meets time wire.socket.peer found
  written : command.write = some bytes
  passed : wire.socket.clock ≤ stamp
  late : stamp ≤ time
  ordered : wire.socket.peer.now ≤ time
  served : served = { wire with socket := { wire.socket with
    peer := found.taken command, peerTime := time, clock := stamp
    incoming := wire.socket.incoming ++ (answerTo command found).bytes.map fun byte => (byte, time)
    sent := wire.socket.sent ++ bytes, tick := wire.socket.tick + 2
    log := .handled time bytes found (found.taken command) :: wire.socket.log } }

theorem send_handed (setting : Setting) {wire : Wire EtherDreamModel} (steady : wire.socket.peer.Steady)
    (time : wire.socket.peerTime = wire.socket.peer.now) (proper : Proper wire.socket.peer.profile command) :
    ∃ stamp bytes at_ found timed served, onSocket (instant setting.env) wire = (some stamp, timed) ∧
      onSocket (writeAll setting.env bytes) timed = (some true, served) ∧
      Handed setting command wire stamp bytes at_ found served := by
  obtain ⟨bytes, written⟩ := proper.write
  let timed : Wire EtherDreamModel := { wire with socket := { wire.socket with
    clock := wire.socket.clock + setting.pause wire.socket.tick, tick := wire.socket.tick + 1 } }
  obtain ⟨at_, found, atEq, meets, delivered⟩ := delivered_peer setting (s := timed.socket) steady proper written
  have late : max timed.socket.peerTime timed.socket.clock ≤ at_ := by
    rw [atEq]
    exact Nat.le_add_right _ _
  refine ⟨timed.socket.clock, bytes, at_, found, timed, { timed with socket := timed.socket.delivered setting.env bytes },
    rfl, ?_, meets, written, Nat.le_add_right _ _, (Nat.le_max_right _ _).trans late, ?_, ?_⟩
  · rw [onSocket, zoom, writeAll_whole fun _ => rfl]
  · rw [← time]
    exact (Nat.le_max_left _ _).trans late
  · rw [delivered]

section

variable {wire served sending : Wire EtherDreamModel} {stamp : Nat} {bytes : List UInt8}
  (handed : Handed setting command wire stamp bytes time found served)

include handed

theorem Handed.served_kept (steady : wire.socket.peer.Steady) (proper : Proper wire.socket.peer.profile command) :
    served.socket.peer.Steady ∧ served.socket.peer.now = time ∧
      served.socket.peer.profile = wire.socket.peer.profile := by
  have befallen := handed.meets.befallen steady
  obtain ⟨now, profile⟩ := found.taken_kept command
  rw [handed.served]
  refine ⟨taken_steady befallen.steady proper.modest fun rate => ?_, ?_, ?_⟩
  · rw [befallen.profile]
    exact proper.accepts rate
  · rw [now, befallen.now, Nat.max_eq_right handed.ordered]
  · rw [profile, befallen.profile]

theorem Handed.sent {stamps : List (UInt8 × Nat)} (steady : wire.socket.peer.Steady)
    (proper : Proper wire.socket.peer.profile command)
    (sent : Sent setting commands served stamps events answers sending) :
    Sent setting (command :: commands) wire ((command.startByte, stamp) :: stamps)
      (events ++ [.handled time bytes found (found.taken command)]) (answerTo command found :: answers) sending := by
  obtain ⟨-, reached, profile⟩ := handed.served_kept steady proper
  have onward := sent.onward
  rw [reached] at onward
  have start : wire.socket.clock ≤ served.socket.clock := by
    rw [handed.served]
    exact handed.passed
  exact {
    serves := .cons handed.meets (handed.passed.trans handed.late) handed.written (by
      have serves := sent.serves.earlier start
      rwa [handed.served] at serves)
    stream := by rw [sent.stream, handed.served]
    log := by
      rw [sent.log, handed.served, List.append_assoc]
      rfl
    incoming := by
      rw [sent.incoming, handed.served, List.flatMap_cons, List.map_append, List.append_assoc, List.map_map]
      simp [Function.comp_def]
    starts := by rw [List.map_cons, List.map_cons, sent.starts]
    clock := start.trans sent.clock
    peerTime := sent.peerTime
    onward := handed.ordered.trans onward
    steady := sent.steady
    profile := sent.profile.trans profile
    stamped := List.forall_mem_cons.mpr ⟨handed.late.trans onward, sent.stamped⟩
    unsent := by simp
    last := fun _ => by
      by_cases empty : commands = []
      · refine ⟨((answerTo command found).reply.response, time), ?_, ?_⟩
        · rw [sent.unsent empty, handed.served]
          exact List.mem_append_right _ (by simp [Answer.bytes, DacResponse.write, answerTo])
        · rw [sent.unsent empty, reached]
      · exact sent.last empty
    kept := fun byte mem => sent.kept byte (by
      rw [handed.served]
      exact List.mem_append_left _ mem) }

end

theorem sendAll_sent (setting : Setting) (commands : List Command) (wire : Wire EtherDreamModel)
    (steady : wire.socket.peer.Steady) (time : wire.socket.peerTime = wire.socket.peer.now)
    (proper : ∀ command ∈ commands, Proper wire.socket.peer.profile command) :
    ∃ stamps events answers sending, sendAll setting.env commands wire = (some (.ok stamps), sending) ∧
      Sent setting commands wire stamps events answers sending := by
  induction commands generalizing wire with
  | nil =>
    exact ⟨[], [], [], wire, rfl, {
      serves := .nil _, stream := rfl, log := rfl, incoming := by simp, starts := rfl, clock := le_rfl
      peerTime := time, onward := le_rfl, steady, profile := rfl, stamped := by simp
      unsent := fun _ => rfl, last := fun some_ => absurd rfl some_, kept := fun _ mem => mem }⟩
  | cons command commands ih =>
    obtain ⟨own, proper⟩ := List.forall_mem_cons.mp proper
    obtain ⟨stamp, bytes, at_, found, timed, served, first, second, handed⟩ := send_handed setting steady time own
    obtain ⟨steadyServed, reached, profile⟩ := handed.served_kept steady own
    have timeServed : served.socket.peerTime = served.socket.peer.now := by
      rw [reached, handed.served]
    rw [← profile] at proper
    obtain ⟨stamps, events, answers, sending, rest, sent⟩ := ih served steadyServed timeServed proper
    refine ⟨_, _, _, sending, ?_, handed.sent steady own sent⟩
    rw [sendAll, bind_of_result first]
    simp only [handed.written]
    rw [bind_of_result second]
    simp only [if_true]
    rw [bind_of_result rest]
    rfl

namespace Client

variable {σ : Type}

def peer (client : Client σ) : σ := client.wire.socket.peer

def clock (client : Client σ) : Nat := client.wire.socket.clock

def log (client : Client σ) : List (Event σ) := client.wire.socket.log

/-- Nothing is under way, and what the client knows of the DAC is how the last command left it. -/
structure Linked (client : Client EtherDreamModel) : Prop where
  incoming : client.wire.socket.incoming = []
  status : client.status = client.peer.report
  steady : client.peer.Steady
  honest : client.peer.profile.Honest
  capacity : client.wire.stream.dac.bufferCapacity = client.peer.profile.bufferCapacity
  maxRate : client.wire.stream.dac.maxPointRate = client.peer.profile.maxPointRate
  peerTime : client.wire.socket.peerTime = client.peer.now
  sentAt : client.wire.stream.statusSentAt ≤ client.peer.now
  receivedAt : client.peer.now ≤ client.wire.stream.statusReceivedAt
  past : client.wire.stream.statusReceivedAt ≤ client.clock

/-- What a request comes to: the DAC has served the commands, and the client has read its answers. -/
structure Exchanged (setting : Setting) (commands : List Command) (client : Client EtherDreamModel)
    (events : List (Event EtherDreamModel)) (answers : List Answer) (after : Client EtherDreamModel) : Prop where
  serves : Serves setting client.clock commands client.peer events answers after.peer
  log : ∃ times : List Nat, after.log = times.map Event.replied ++ (events ++ client.log)
  linked : after.Linked
  backend : after.backend = client.backend
  profile : after.peer.profile = client.peer.profile
  clock : client.clock ≤ after.clock

section

variable {client : Client EtherDreamModel} (linked : client.Linked)
  (proper : ∀ command ∈ commands, Proper client.peer.profile command)

include linked proper

theorem Linked.safe : ∀ command ∈ commands, ∀ rate, command.rate = some rate →
    ¬ OutOfRange client.wire.stream.dac.maxPointRate rate := by
  intro command mem rate carries
  obtain ⟨positive, small⟩ := (proper command mem).accepts rate carries
  rw [linked.maxRate]
  rintro (rfl | ⟨-, large⟩)
  · exact absurd positive (by decide)
  · exact absurd large (UInt32.not_lt.mpr small)

theorem Linked.sendQueued_sent (setting : Setting) :
    ∃ wire stamps events answers sending,
      sendQueued setting.env (client.wire.queue commands) = (some (.ok stamps), sending) ∧
      wire.socket = client.wire.socket ∧ wire.stream.dac = client.wire.stream.dac ∧
      Sent setting commands wire stamps events answers sending := by
  obtain ⟨sends, -, kept⟩ := client.wire.stream.queued_spec commands
  have uncut : commands.map Command.cut = commands := by
    rw [List.map_congr_left fun command mem => (proper command mem).cut, List.map_id']
  obtain ⟨stamps, events, answers, sending, result, sent⟩ := sendAll_sent setting commands
    { client.wire.queue commands with stream := { (client.wire.queue commands).stream with commandBuffer := [] } }
    linked.steady linked.peerTime proper
  refine ⟨_, stamps, events, answers, sending, ?_, ?_, ?_, sent⟩
  · rw [sendQueued, queue, sends, uncut, ← result]
    rfl
  · rfl
  · exact kept.dac

end

/-- Once the answers to what was sent have been read, nothing is under way, and the client knows the last of them. -/
theorem Linked.of_answered {client : Client EtherDreamModel} {wire sending after : Wire EtherDreamModel}
    {stamps : List (UInt8 × Nat)} (linked : client.Linked) (some_ : commands ≠ [])
    (socket : wire.socket = client.wire.socket) (dac : wire.stream.dac = client.wire.stream.dac)
    (sent : Sent setting commands wire stamps events answers sending)
    (size : (answers.map Answer.size).sum = sending.socket.incoming.length)
    (answered : Answered stamps answers sending after) : ({ client with wire := after } : Client EtherDreamModel).Linked := by
  have consumed := answered.consumed
  have asked : stamps ≠ [] := by
    intro empty
    have starts := sent.starts
    rw [empty] at starts
    exact some_ (List.map_eq_nil_iff.mp starts.symm)
  obtain ⟨receivedPast, -, arrived⟩ := answered.receivedAt asked
  obtain ⟨byte, mem, byteTime⟩ := sent.last some_
  obtain ⟨lastAnswer, lastEq⟩ : ∃ answer, answers.getLast? = some answer := by
    rw [← Option.isSome_iff_exists, List.getLast?_isSome]
    intro empty
    have lengths := sent.serves.answers_for.length_eq
    rw [empty] at lengths
    exact some_ (List.length_eq_zero_iff.mp lengths)
  obtain ⟨stamp, stampEq⟩ : ∃ stamp, stamps.getLast? = some stamp := by
    rwa [← Option.isSome_iff_exists, List.getLast?_isSome]
  have sameDac : sending.stream.dac = client.wire.stream.dac := by rw [sent.stream, dac]
  have profile : after.socket.peer.profile = client.wire.socket.peer.profile := by
    rw [consumed.peer, sent.profile, socket]
  exact {
    incoming := by
      change after.socket.incoming = []
      rw [consumed.incoming, size, List.drop_length]
    status := by
      change after.stream.dac.status = after.socket.peer.report
      rw [answered.status lastAnswer lastEq, sent.serves.status lastAnswer lastEq, consumed.peer]
    steady := by
      change after.socket.peer.Steady
      rw [consumed.peer]
      exact sent.steady
    honest := by
      change after.socket.peer.profile.Honest
      rw [profile]
      exact linked.honest
    capacity := by
      change after.stream.dac.bufferCapacity = after.socket.peer.profile.bufferCapacity
      rw [answered.dac, profile, sameDac]
      exact linked.capacity
    maxRate := by
      change after.stream.dac.maxPointRate = after.socket.peer.profile.maxPointRate
      rw [answered.dac, profile, sameDac]
      exact linked.maxRate
    peerTime := by
      change after.socket.peerTime = after.socket.peer.now
      rw [consumed.peerTime, sent.peerTime, consumed.peer]
    sentAt := by
      change after.stream.statusSentAt ≤ after.socket.peer.now
      rw [answered.sentAt stamp stampEq, consumed.peer]
      exact sent.stamped stamp (List.mem_of_getLast? stampEq)
    receivedAt := by
      change after.socket.peer.now ≤ after.stream.statusReceivedAt
      rw [consumed.peer, ← byteTime]
      exact arrived byte (by rw [size, List.take_length]; exact mem)
    past := receivedPast }

theorem request_exchanged (setting : Setting) {client : Client EtherDreamModel} (linked : client.Linked)
    (some_ : commands ≠ []) (proper : ∀ command ∈ commands, Proper client.peer.profile command) :
    ∃ events answers after,
      request setting.env (fun stream => commands.foldl Stream.enqueue stream) client =
        (some (verdict (answers.findSome? Answer.refusal)), after) ∧
      Exchanged setting commands client events answers after := by
  obtain ⟨wire, stamps, events, answers, sending, sendsAll, socket, dac, sent⟩ := linked.sendQueued_sent proper setting
  have paired : List.Forall₂ (fun start answer => Answer.For start answer) (commands.map Command.startByte) answers :=
    List.forall₂_map_left_iff.mpr sent.serves.answers_for
  rw [← sent.starts] at paired
  have front : sending.socket.incoming.map Prod.fst = answers.flatMap Answer.bytes ++ [] := by
    rw [sent.incoming, socket, linked.incoming, List.append_nil]
    rfl
  have prompt : setting.env.Prompt := setting.prompt
  obtain ⟨after, received, answered⟩ := recvAll_answers prompt stamps answers (List.forall₂_map_left_iff.mp paired) none
    sending [] front
  rw [Option.none_or] at received
  have submitted := (submit_safe setting.env (queue_inRange _ (linked.safe proper)) sendsAll).trans received
  have consumed := answered.consumed
  refine ⟨events, answers, { client with wire := after }, ?_, ?_⟩
  · change ((submit setting.env (client.wire.queue commands)).1,
      ({ client with wire := (submit setting.env (client.wire.queue commands)).2 } : Client EtherDreamModel)) = _
    rw [submitted]
  · have size : (answers.map Answer.size).sum = sending.socket.incoming.length := by
      rw [← Answer.bytes_size, ← List.append_nil (answers.flatMap _), ← front, List.length_map]
    have serves := sent.serves
    rw [socket, ← consumed.peer] at serves
    obtain ⟨times, log⟩ := answered.log
    exact {
      serves
      log := ⟨times, by
        change after.socket.log = _
        rw [log, sent.log, socket]
        rfl⟩
      linked := linked.of_answered some_ socket dac sent size answered
      backend := rfl
      profile := by
        change after.socket.peer.profile = client.wire.socket.peer.profile
        rw [consumed.peer, sent.profile, socket]
      clock := by
        have start := sent.clock
        rw [socket] at start
        exact start.trans consumed.clock }

end Client

end LaserDac.EtherDream
