import LaserDac.EtherDreamCourse

/-!
What a write to the Ether Dream puts into its ring, as long as the DAC is ready. If a rate change was sent together
with the points and found the stream ended, the points are sent again.
-/

namespace LaserDac.EtherDream

open Runs Runs.Run Wire EtherDreamModel

def Event.appended : Event EtherDreamModel → List DacPoint
  | .handled _ _ found after => after.ring.drop found.ring.length
  | _ => []

def Event.restarts : Event EtherDreamModel → Bool
  | .handled _ _ found after => found.playback = .idle && after.playback ≠ .idle
  | _ => false

/-- The points that were put into the ring, the latest event first. -/
def appended : List (Event EtherDreamModel) → List DacPoint
  | [] => []
  | event :: earlier => appended earlier ++ event.appended

def restarted (events : List (Event EtherDreamModel)) : Bool := events.any Event.restarts

/-- Those that were put into it since the last stream started. -/
def inStream : List (Event EtherDreamModel) → List DacPoint
  | [] => []
  | event :: earlier => if event.restarts then event.appended else inStream earlier ++ event.appended

/-- If the DAC handles two commands one after the other, no stream ends between them. -/
def GoesOn : Event EtherDreamModel → Event EtherDreamModel → Prop
  | .handled _ _ next _, .handled _ _ found _ => found.playback ≠ .idle → next.playback ≠ .idle
  | _, _ => True

instance : DecidableRel GoesOn
  | .handled _ _ next _, .handled _ _ found _ =>
    inferInstanceAs (Decidable (found.playback ≠ .idle → next.playback ≠ .idle))
  | .handled .., .checked _ | .handled .., .replied _ | .checked _, _ | .replied _, _ => inferInstanceAs (Decidable True)

/-- Between two commands that are sent together no stream ends. -/
abbrev Unbroken (events : List (Event EtherDreamModel)) : Prop := events.IsChain GoesOn

section

variable (later earlier : List (Event EtherDreamModel))

include later

theorem appended_append : appended (later ++ earlier) = appended earlier ++ appended later := by
  induction later with
  | nil => rw [List.nil_append, appended, List.append_nil]
  | cons event later ih => rw [List.cons_append, appended, ih, appended, List.append_assoc]

theorem inStream_append :
    inStream (later ++ earlier) =
      if restarted later then inStream later else inStream earlier ++ appended later := by
  induction later with
  | nil => simp [restarted, appended]
  | cons event later ih =>
    by_cases restarts : event.restarts
    · simp [inStream, restarted, restarts]
    · by_cases before : restarted later
      · have whole : restarted (event :: later) = true := by
          simp only [restarted, List.any_cons, Bool.or_eq_true] at before ⊢
          exact .inr before
        rw [if_pos before] at ih
        rw [if_pos whole, List.cons_append, inStream, inStream, if_neg restarts, if_neg restarts, ih]
      · have whole : ¬ restarted (event :: later) = true := by
          simp only [restarted, List.any_cons, Bool.or_eq_true] at before ⊢
          exact not_or.mpr ⟨restarts, before⟩
        rw [if_neg before] at ih
        rw [if_neg whole, List.cons_append, inStream, if_neg restarts, ih, appended, List.append_assoc]

theorem restarted_append : restarted (later ++ earlier) = (restarted later || restarted earlier) := List.any_append

end

/-- Events that put these points into the ring and start no stream. -/
structure Puts (points : List DacPoint) (events : List (Event EtherDreamModel)) : Prop where
  appended : appended events = points
  restarted : restarted events = false

theorem Puts.append {points more : List DacPoint} {later earlier : List (Event EtherDreamModel)}
    (puts : Puts more later) (before : Puts points earlier) : Puts (points ++ more) (later ++ earlier) := by
  refine ⟨?_, ?_⟩
  · rw [appended_append, puts.appended, before.appended]
  · rw [restarted_append, puts.restarted, before.restarted, Bool.or_false]

theorem Puts.nil : Puts [] [] := ⟨rfl, rfl⟩

theorem replied_puts (times : List Nat) : Puts [] (times.map Event.replied) := by
  induction times with
  | nil => exact .nil
  | cons time times ih => exact ⟨by simp [EtherDream.appended, ih.appended, Event.appended], ih.restarted⟩

variable {found : EtherDreamModel}

theorem handled_puts {command : Command} (other : ∀ points, command ≠ .data points)
    (idle : found.playback = .idle → (found.taken command).playback = .idle) (time : Nat) (bytes : List UInt8) :
    Puts [] [.handled time bytes found (found.taken command)] := by
  refine ⟨?_, ?_⟩
  · exact List.drop_eq_nil_of_le (taken_ring other).1
  · by_cases was : found.playback = .idle
    · simp [restarted, Event.restarts, idle was]
    · simp [restarted, Event.restarts, was]

theorem begin_puts (rate : UInt32) (found : EtherDreamModel) (time : Nat) (bytes : List UInt8) :
    Puts [] [.handled time bytes found (found.taken (.begin 0 rate))] := by
  refine handled_puts (by simp) (fun idle => ?_) time bytes
  rw [(taken_begin rate found).2, if_pos idle]

theorem update_puts (rate : UInt32) (found : EtherDreamModel) (time : Nat) (bytes : List UInt8) :
    Puts [] [.handled time bytes found (found.taken (.update 0 rate))] := by
  refine handled_puts (by simp) (fun idle => ?_) time bytes
  rw [(taken_update rate found).2, idle]

theorem data_puts_idle (idle : found.playback = .idle) (points : List DacPoint) (time : Nat) (bytes : List UInt8) :
    Puts [] [.handled time bytes found (found.taken (.data points))] := by
  obtain ⟨ring, still⟩ := taken_data_idle idle points
  refine ⟨?_, ?_⟩
  · show (found.taken (.data points)).ring.drop found.ring.length = []
    rw [ring, List.drop_length]
  · simp [restarted, Event.restarts, still]

theorem data_puts {points : List DacPoint} (active : found.playback ≠ .idle)
    (fits : found.ring.length + points.length ≤ found.profile.ringPoints.toNat) (time : Nat) (bytes : List UInt8) :
    Puts points [.handled time bytes found (found.taken (.data points))] := by
  obtain ⟨-, ring, -, -⟩ := taken_data_fits active fits
  refine ⟨?_, ?_⟩
  · show (found.taken (.data points)).ring.drop found.ring.length = points
    rw [ring, List.drop_left]
  · simp [restarted, Event.restarts, active]

theorem inStream_nil {events : List (Event EtherDreamModel)} (none_ : appended events = []) : inStream events = [] := by
  induction events with
  | nil => rfl
  | cons event earlier ih =>
    obtain ⟨before, last⟩ := List.append_eq_nil_iff.mp none_
    rw [inStream, ih before, last]
    exact ite_self []

theorem Puts.inStream {points : List DacPoint} {later earlier : List (Event EtherDreamModel)}
    (puts : Puts points later) (none_ : EtherDream.appended earlier = []) :
    inStream (later ++ earlier) = points ∧ EtherDream.appended (later ++ earlier) = points := by
  rw [inStream_append, appended_append, puts.restarted, puts.appended, none_, inStream_nil none_]
  exact ⟨rfl, rfl⟩

/-! ### What sending the points comes to -/

theorem Survives.idle {time : Nat} {m : EtherDreamModel} (survives : Survives time m found)
    (idle : found.playback = .idle) : m.playback ≠ .prepared := by
  intro prepared
  rw [(survives.still (by rw [prepared]; simp)).1, prepared] at idle
  cases idle

/-- Every command of these finds the DAC ready. -/
def Undisturbed (events : List (Event EtherDreamModel)) : Prop := ∀ event ∈ events, Bright event

theorem Undisturbed.split {later earlier : List (Event EtherDreamModel)}
    (undisturbed : Undisturbed (later ++ earlier)) : Undisturbed later ∧ Undisturbed earlier :=
  ⟨fun event mem => undisturbed event (List.mem_append_left _ mem),
    fun event mem => undisturbed event (List.mem_append_right _ mem)⟩

/-- A DAC that is found ready has survived. -/
theorem survives_of_ready {setting : Setting} {time : Nat} {m : EtherDreamModel} (steady : m.Steady)
    (meets : setting.Meets time m found) (ready : found.lightEngine = .ready) : Survives time m found := by
  refine (meets.befallen steady).survives ?_
  rw [ready]
  simp

def Exchange (command : Command) (time : Nat) (found : EtherDreamModel) (new : List (Event EtherDreamModel)) : Prop :=
  ∃ (times : List Nat) (bytes : List UInt8),
    new = times.map Event.replied ++ [.handled time bytes found (found.taken command)]

namespace Exchange

variable {command : Command} {time : Nat} {found : EtherDreamModel} {new : List (Event EtherDreamModel)}

theorem puts {points : List DacPoint} (exchange : Exchange command time found new)
    (puts : ∀ bytes, Puts points [.handled time bytes found (found.taken command)]) : Puts points new := by
  obtain ⟨times, bytes, rfl⟩ := exchange
  have whole := (replied_puts times).append (puts bytes)
  rwa [List.append_nil] at whole

theorem ready (exchange : Exchange command time found new) (undisturbed : Undisturbed new) :
    found.lightEngine = .ready := by
  obtain ⟨times, bytes, rfl⟩ := exchange
  exact (undisturbed _ List.mem_concat_self).1

end Exchange

namespace Client

variable {setting : Setting} {client after : Client EtherDreamModel} {rate : UInt32} {threshold : Nat}
  {points : List DacPoint} {retried : Bool}

theorem Asked.exchange {command : Command} {time : Nat} {found : EtherDreamModel}
    (asked : Asked setting command client time found after) :
    ∃ new, after.log = new ++ client.log ∧ Exchange command time found new := by
  obtain ⟨times, bytes, -, log⟩ := asked.log
  refine ⟨_, ?_, times, bytes, rfl⟩
  rw [log, List.append_assoc]
  rfl

/-- The points are dropped by an idle DAC, or taken; then the stream goes on unless it was broken. -/
def Sent (client after : Client EtherDreamModel) (points : List DacPoint) (found : EtherDreamModel)
    (new : List (Event EtherDreamModel)) : Prop :=
  found.playback = .idle ∧ client.peer.playback ≠ .prepared ∧ Puts [] new ∧ after.peer.playback = .idle ∨
    found.playback ≠ .idle ∧ (found.execute (.data points)).1 = DacResponse.ack ∧ Puts points new ∧
      (after.peer.playback = .idle → client.peer.playback = .playing ∧ ¬ Unbroken new)

theorem Delivers.sent {time : Nat} {found : EtherDreamModel} (fit : client.Fit setting)
    (cleared : client.Cleared setting points) (delivers : Delivers setting rate points client time found after) :
    ∃ new, after.log = new ++ client.log ∧ (Undisturbed new → Sent client after points found new) := by
  -- points that were admitted fit, if the stream is still there
  have room (meets : setting.Meets time client.peer found) (late : client.clock ≤ time)
      (active : found.playback ≠ .idle) :
      found.ring.length + points.length ≤ found.profile.ringPoints.toNat := by
    have befallen := meets.befallen fit.linked.steady
    have fits := fit.kept.fits befallen (cleared.admitted meets late) points rfl active
    have ring := UInt16.le_iff_toNat_le.mp fit.linked.honest.ring
    rw [befallen.profile] at fits ⊢
    exact fits.trans ring
  cases delivers with
  | alone same asked =>
    obtain ⟨new, log, exchange⟩ := asked.exchange
    refine ⟨new, log, fun undisturbed => ?_⟩
    have survives := survives_of_ready fit.linked.steady asked.meets (exchange.ready undisturbed)
    by_cases idle : found.playback = .idle
    · refine .inl ⟨idle, survives.idle idle, exchange.puts (data_puts_idle idle points time), ?_⟩
      rw [asked.peer]
      exact (taken_data_idle idle points).2
    · have fits := room asked.meets asked.late idle
      obtain ⟨acked, -, state, -⟩ := taken_data_fits idle fits
      refine .inr ⟨idle, acked, exchange.puts (data_puts idle fits time), fun ended => ?_⟩
      rw [asked.peer, state] at ended
      exact absurd ended idle
  | @switching later next playing switched =>
    obtain ⟨times, bytes, more, -, -, log⟩ := switched.log
    refine ⟨times.map Event.replied ++ ([.handled later more next (next.taken (.update 0 rate))] ++
      [.handled time bytes found (found.taken (.data points))]), by simp [log], ?_⟩
    intro undisturbed
    have lit := undisturbed.split.2.split
    have survives := survives_of_ready fit.linked.steady switched.meets (lit.2 _ (List.mem_singleton_self _)).1
    have state : after.peer.playback = next.playback := by
      rw [switched.peer, (taken_update rate next).2]
    have update := update_puts rate next later more
    by_cases idle : found.playback = .idle
    · obtain ⟨-, still⟩ := taken_data_idle idle points
      have befallen := switched.meets.befallen fit.linked.steady
      have steady : (found.taken (.data points)).Steady :=
        taken_steady befallen.steady trivial (fun _ carries => by cases carries)
      have survivesNext := survives_of_ready steady switched.meetsNext (lit.1 _ (List.mem_singleton_self _)).1
      refine .inl ⟨idle, survives.idle idle, ?_, ?_⟩
      · exact (replied_puts times).append (update.append (data_puts_idle idle points time bytes))
      · rw [state, (survivesNext.still (by rw [still]; simp)).1, still]
    · have fits := room switched.meets switched.late idle
      obtain ⟨acked, -, -, -⟩ := taken_data_fits idle fits
      refine .inr ⟨idle, acked, ?_, fun ended => ⟨playing, fun unbroken => ?_⟩⟩
      · have puts := (replied_puts times).append (update.append (data_puts idle fits time bytes))
        rwa [List.append_nil, List.append_nil] at puts
      · have together := (List.isChain_append.mp unbroken).2.1
        exact (List.isChain_cons_cons.mp together).1 idle (state ▸ ended)

variable {turn : Turn}

theorem Begins.told (fit : client.Fit setting) (begins : Begins setting rate threshold retried client turn after) :
    ∃ new, after.log = new ++ client.log ∧ (Undisturbed new → Puts [] new ∧
      (turn = .again ∧ client.peer.playback = .idle ∧ retried = false ∨
        turn = .landed ∧ (client.peer.playback = .idle → retried = true))) := by
  cases begins with
  | again idle first => exact ⟨[], rfl, fun _ => ⟨.nil, .inl ⟨rfl, idle, first⟩⟩⟩
  | landed other => exact ⟨[], rfl, fun _ => ⟨.nil, .inr ⟨rfl, fun idle => by simpa [idle] using other⟩⟩⟩
  | @ends time found after prepared asked idle first =>
    obtain ⟨new, log, exchange⟩ := asked.exchange
    refine ⟨new, log, fun undisturbed => ?_⟩
    have survives := survives_of_ready fit.linked.steady asked.meets (exchange.ready undisturbed)
    rw [asked.peer, (taken_begin rate found).2, (survives.still (by rw [prepared]; simp)).1, prepared] at idle
    cases idle
  | @begins time found after prepared asked other =>
    obtain ⟨new, log, exchange⟩ := asked.exchange
    refine ⟨new, log, fun _ => ⟨exchange.puts (begin_puts rate found time), .inr ⟨rfl, fun idle => ?_⟩⟩⟩
    rw [prepared] at idle
    cases idle

/-- Points that are sent to a stream land, or the stream has ended; then they were not taken, or it was broken. -/
def Lands (client : Client EtherDreamModel) (points : List DacPoint) (turn : Turn)
    (new : List (Event EtherDreamModel)) : Prop :=
  turn = .landed ∧ Puts points new ∨
    turn = .again ∧ client.peer.playback = .playing ∧ (Puts [] new ∨ Puts points new ∧ ¬ Unbroken new)

theorem Sends.told (fit : client.Fit setting) (fair : Fair client.peer.profile rate)
    (cleared : client.Cleared setting points) (active : client.peer.playback ≠ .idle)
    (fresh : retried = true → client.peer.playback = .prepared)
    (sends : Sends setting rate threshold points retried client turn after) :
    ∃ new, after.log = new ++ client.log ∧ (Undisturbed new → Lands client points turn new) := by
  have playing (other : client.peer.playback ≠ .prepared) : client.peer.playback = .playing := by
    cases state : client.peer.playback with
    | idle => exact absurd state active
    | prepared => exact absurd state other
    | playing => rfl
  cases sends with
  | dropped delivers refused =>
    obtain ⟨new, log, sent⟩ := delivers.sent fit cleared
    refine ⟨new, log, fun undisturbed => ?_⟩
    rcases sent undisturbed with ⟨-, other, puts, -⟩ | ⟨-, acked, -, -⟩
    · exact .inr ⟨rfl, playing other, .inl puts⟩
    · exact absurd acked refused
  | refused delivers refused other =>
    obtain ⟨new, log, sent⟩ := delivers.sent fit cleared
    refine ⟨new, log, fun undisturbed => ?_⟩
    rcases sent undisturbed with ⟨-, unprepared, -, idle⟩ | ⟨-, acked, -, -⟩
    · have second : retried = true := by simpa [idle] using other
      exact absurd (fresh second) unprepared
    · exact absurd acked refused
  | taken delivers accepted begins =>
    obtain ⟨sending, log, sent⟩ := delivers.sent fit cleared
    obtain ⟨beginning, logAfter, told⟩ := begins.told (delivers.fit fit fair cleared)
    refine ⟨beginning ++ sending, by rw [logAfter, log, List.append_assoc], fun undisturbed => ?_⟩
    obtain ⟨begun, turns⟩ := told undisturbed.split.1
    rcases sent undisturbed.split.2 with ⟨-, unprepared, puts, idle⟩ | ⟨-, -, puts, ended⟩
    · rcases turns with ⟨rfl, -, -⟩ | ⟨rfl, second⟩
      · exact .inr ⟨rfl, playing unprepared, .inl (begun.append puts)⟩
      · exact absurd (fresh (second idle)) unprepared
    · have whole := begun.append puts
      rw [List.append_nil] at whole
      rcases turns with ⟨rfl, idle, -⟩ | ⟨rfl, -⟩
      · obtain ⟨was, broken⟩ := ended idle
        exact .inr ⟨rfl, was, .inr ⟨whole, fun unbroken => broken (List.isChain_append.mp unbroken).2.1⟩⟩
      · exact .inl ⟨rfl, whole⟩

theorem Admits.told {capacity : UInt16} {fullness : Nat}
    (admits : Admits setting capacity client (.ok fullness) after) :
    ∃ new, after.log = new ++ client.log ∧ appended new = [] ∧ after.peer.playback ≠ .idle ∧
      (client.peer.playback = .idle → restarted new = true ∧ after.peer.playback = .prepared) := by
  cases admits with
  | @prepares time found after idle asked accepted =>
    obtain ⟨new, log, times, bytes, rfl⟩ := asked.exchange
    obtain ⟨wasIdle, ready⟩ := prepareStream_acked accepted
    obtain ⟨-, prepared, empty⟩ := taken_prepareStream wasIdle ready
    have state : after.received.peer.playback = .prepared := by
      show after.peer.playback = .prepared
      rw [asked.peer, prepared]
    refine ⟨_, log, ?_, ?_, fun _ => ⟨?_, state⟩⟩
    · rw [appended_append, (replied_puts times).appended, List.append_nil]
      show (found.taken .prepareStream).ring.drop found.ring.length = []
      rw [empty, List.drop_nil]
    · rw [state]
      simp
    · rw [restarted_append]
      simp [restarted, Event.restarts, wasIdle, prepared]
  | still prepared => exact ⟨[], rfl, rfl, by simp [prepared], fun idle => by simp [prepared] at idle⟩
  | drains playing anchor passed =>
    obtain ⟨clock, tick, -, rfl⟩ := passed
    have state : client.peer.playback ≠ .idle := by simp [playing]
    exact ⟨[], rfl, rfl, state, fun idle => absurd idle state⟩
  | unknown playing => exact ⟨[], rfl, rfl, by simp [playing], fun idle => by simp [playing] at idle⟩

theorem Waits.told (waits : Waits setting rate client after) : ∃ new, after.log = new ++ client.log ∧ Puts [] new := by
  cases waits with
  | waits => exact ⟨[], rfl, .nil⟩
  | @begins time found after prepared asked =>
    obtain ⟨new, log, exchange⟩ := asked.exchange
    exact ⟨new, log, exchange.puts (begin_puts rate found time)⟩

/-- There is no room for the points, and at most a stream is begun. -/
def Stalls (setting : Setting) (rate : UInt32) (capacity : UInt16) (points : List DacPoint)
    (client after : Client EtherDreamModel) : Prop :=
  ∃ fullness mid, Admits setting capacity client (.ok fullness) mid ∧ capacity.toNat - fullness < points.length ∧
    Waits setting rate (mid.check fullness) after

/-- What a pass comes to and puts into the ring. -/
structure Told (setting : Setting) (rate : UInt32) (capacity : UInt16) (points : List DacPoint)
    (client after : Client EtherDreamModel) (turn : Turn) (new : List (Event EtherDreamModel)) : Prop where
  done : ∀ result, turn = .done result → appended new = [] ∧ Stalls setting rate capacity points client after
  again : turn = .again → appended new = [] ∨ appended new = points ∧ ¬ Unbroken new
  landed : turn = .landed → inStream new = points ∧ appended new = points ∧
    (client.peer.playback = .idle → restarted new = true)
  idle : client.peer.playback = .idle → points.length ≤ capacity.toNat → turn = .landed

theorem Turns.told {capacity : UInt16} (fit : client.Fit setting) (anchored : client.Anchored)
    (same : capacity = client.peer.profile.bufferCapacity) (fair : Fair client.peer.profile rate)
    (second : retried = true → client.peer.playback = .idle)
    (turns : Turns setting rate capacity threshold points retried client turn after) :
    ∃ new, after.log = new ++ client.log ∧
      (Undisturbed new → Told setting rate capacity points client after turn new) := by
  cases turns with
  | refused admits =>
    cases admits with
    | @refused time found after idle asked refused =>
      obtain ⟨new, log, exchange⟩ := asked.exchange
      -- an idle DAC that is ready does not refuse
      refine ⟨new, log, fun undisturbed => ?_⟩
      have ready := exchange.ready undisturbed
      have survives := survives_of_ready fit.linked.steady asked.meets ready
      have still := (survives.still (by rw [idle]; simp)).1.trans idle
      exact absurd (taken_prepareStream still ready).1 refused
  | @waits fullness mid _ admits full waits =>
    obtain ⟨admitting, log, none_, -, -⟩ := admits.told
    obtain ⟨waiting, logAfter, puts⟩ := waits.told
    refine ⟨waiting ++ ([.checked fullness] ++ admitting), ?_, fun _ => ⟨fun _ _ => ⟨?_, ?_⟩, by simp, by simp,
      fun idle few => ?_⟩⟩
    · rw [logAfter, List.append_assoc, List.append_assoc, ← log]
      rfl
    · rw [appended_append, appended_append, none_, puts.appended]
      rfl
    · exact ⟨fullness, mid, admits, full, waits⟩
    · rw [admits.idle idle] at full
      omega
  | @sends fullness mid _ _ admits fits sends =>
    have profile := (admits.linked fit.linked).2
    obtain ⟨admitting, log, none_, active, fresh⟩ := admits.told
    obtain ⟨sending, logAfter, told⟩ := sends.told ((admits.fit fit).check fullness) (profile ▸ fair)
      (admits.cleared fit anchored same fits) active fun again => (fresh (second again)).2
    refine ⟨sending ++ ([.checked fullness] ++ admitting), ?_, fun undisturbed => ?_⟩
    · rw [logAfter, List.append_assoc, List.append_assoc, ← log]
      rfl
    · have before : appended ([.checked fullness] ++ admitting) = [] := by
        rw [appended_append, none_]
        rfl
      rcases told undisturbed.split.1 with ⟨rfl, puts⟩ | ⟨rfl, playing, taken⟩
      · obtain ⟨inside, whole⟩ := puts.inStream before
        refine ⟨by simp, by simp, fun _ => ⟨inside, whole, fun idle => ?_⟩, fun _ _ => rfl⟩
        rw [restarted_append, restarted_append, (fresh idle).1, Bool.or_true, Bool.or_true]
      · refine ⟨by simp, fun _ => ?_, by simp, fun idle _ => ?_⟩
        · rw [appended_append, before, List.nil_append]
          rcases taken with puts | ⟨puts, broken⟩
          · exact .inl puts.appended
          · refine .inr ⟨puts.appended, fun unbroken => broken (List.isChain_append.mp unbroken).1⟩
        · have prepared : (mid.check fullness).peer.playback = .prepared := (fresh idle).2
          rw [prepared] at playing
          cases playing

/-- A call that is refused puts nothing into the ring; one that succeeds puts the points into the current stream, and
if no stream was broken it puts nothing else there. -/
def Delivered (points : List DacPoint) (new : List (Event EtherDreamModel)) : WriteOutcome → Prop
  | .wouldBlock => appended new = []
  | .written => inStream new = points ∧ (Unbroken new → appended new = points)

/-- Points that need a second pass land in it. -/
theorem Turns.twice {mid : Client EtherDreamModel} (rest : client.Rest setting) (fair : Fair client.peer.profile rate)
    (first : Turns setting rate client.peer.profile.bufferCapacity threshold points false client .again mid)
    (second : Turns setting rate client.peer.profile.bufferCapacity threshold points true mid turn after) :
    ∃ new, after.log = new ++ client.log ∧ (Undisturbed new → turn = .landed ∧ Delivered points new .written) := by
  obtain ⟨fit, anchored, synced⟩ := rest
  obtain ⟨fitMid, idle⟩ := first.leaves fit anchored (.inl synced) rfl fair
  have profile := (first.again fit.linked).2.2.2
  have unplayed : mid.Anchored := fun playing => absurd (idle.symm.trans playing) (by simp)
  obtain ⟨before, log, told⟩ := first.told fit anchored rfl fair (by simp)
  obtain ⟨new, logAfter, toldAgain⟩ := second.told fitMid unplayed (by rw [profile]) (by rw [profile]; exact fair)
    fun _ => idle
  refine ⟨new ++ before, by rw [logAfter, log, List.append_assoc], fun undisturbed => ?_⟩
  have last := toldAgain undisturbed.split.1
  have landed := last.idle idle first.small
  obtain ⟨inside, whole, restarts⟩ := last.landed landed
  refine ⟨landed, ?_, fun unbroken => ?_⟩
  · rw [inStream_append, restarts idle, if_pos rfl, inside]
  · rcases (told undisturbed.split.2).again rfl with none_ | ⟨-, broken⟩
    · rw [appended_append, none_, whole, List.nil_append]
    · exact absurd (List.isChain_append.mp unbroken).2.1 broken

theorem Delivery.delivered {outcome : WriteOutcome} (rest : client.Rest setting) (fair : Fair client.peer.profile rate)
    (delivery : Delivery setting rate threshold points client outcome after) :
    ∃ new, after.log = new ++ client.log ∧ (Undisturbed new → Delivered points new outcome ∧
      (outcome = .written ∨ Stalls setting rate client.peer.profile.bufferCapacity points client after)) := by
  cases delivery with
  | blocked turns =>
    obtain ⟨new, log, told⟩ := turns.told rest.fit rest.anchored rfl fair (by simp)
    refine ⟨new, log, fun undisturbed => ?_⟩
    obtain ⟨none_, stalls⟩ := (told undisturbed).done _ rfl
    exact ⟨none_, .inr stalls⟩
  | written turns =>
    obtain ⟨new, log, told⟩ := turns.told rest.fit rest.anchored rfl fair (by simp)
    refine ⟨new, log, fun undisturbed => ?_⟩
    obtain ⟨inside, whole, -⟩ := (told undisturbed).landed rfl
    exact ⟨⟨inside, fun _ => whole⟩, .inl rfl⟩
  | blockedAgain first second =>
    obtain ⟨new, log, told⟩ := first.twice rest fair second
    exact ⟨new, log, fun undisturbed => by cases (told undisturbed).1⟩
  | writtenAgain first second =>
    obtain ⟨new, log, told⟩ := first.twice rest fair second
    exact ⟨new, log, fun undisturbed => ⟨(told undisturbed).2, .inl rfl⟩⟩

end Client

/-- Whatever was called before and whatever the delays: a call that is refused puts nothing into the ring, and one that
succeeds puts its chunk into the stream that is current when it returns; nothing else is put into any stream, unless one
ended between points and the rate that was sent with them. -/
theorem exactly_once (setting : Setting) (calm : setting.Calm) (profile : FirmwareProfile) (honest : profile.Honest)
    (time : Nat) (calls : List Call) (pps : UInt32) (points : List LaserPoint) :
    let line := (Line.joined profile time).run setting.env calls
    let call := Line.tryWritePoints setting.env pps points line
    let chunk := points.map (DacPoint.ofLaserPoint setting.coordinate)
    (line.stream.isSome → ∃ outcome, call.1 = some (.ok outcome)) ∧
      ∃ new, call.2.socket.log = new ++ line.socket.log ∧
        (call.1 = some (.ok .wouldBlock) → appended new = []) ∧
        (call.1 = some (.ok .written) → inStream new = chunk ∧ (Unbroken new → appended new = chunk)) := by
  intro line call chunk
  have resting : line.Resting setting := (Line.joined_resting setting honest time).run calls
  cases connected : line.stream with
  | none =>
    have same : call = (some (.error .disconnected), line) := by
      simp only [call, Line.tryWritePoints, connected]
    rw [same]
    exact ⟨by simp, [], rfl, by simp, by simp⟩
  | some stream =>
    have rest := resting.client stream connected
    obtain ⟨outcome, after, result, writes⟩ :=
      Line.tryWritePoints_writes setting connected rest.fit.linked pps points
    have same : call = (some (.ok outcome), Line.after after false) := result
    obtain ⟨ready, -, -⟩ := rest.fit.kept.calm calm
    have told : ∃ new, after.log = new ++ (line.client stream).log ∧
        (Undisturbed new → Client.Delivered chunk new outcome) := by
      cases writes with
      | nothing empty => exact ⟨[], rfl, fun _ => rfl⟩
      | delivers ready delivery =>
        obtain ⟨new, log, told⟩ := delivery.delivered rest (Client.clampRate_fair rest.fit.linked.honest pps)
        exact ⟨new, log, fun undisturbed => (told undisturbed).1⟩
      | awaits unready running awaits => exact absurd ready unready
      | stopped stopped clears => simp [ready] at stopped
      | cleared stopped clears delivery => simp [ready] at stopped
    obtain ⟨new, log, delivered⟩ := told
    -- in a calm setting every command finds the DAC ready
    have undisturbed : Undisturbed new := by
      have bright := ((writes.rest rest).fit.kept.calm calm).2.2
      rw [log] at bright
      exact fun event mem => bright event (List.mem_append_left _ mem)
    rw [same]
    refine ⟨fun _ => ⟨outcome, rfl⟩, new, log, fun blocked => ?_, fun written => ?_⟩
    · obtain rfl := Except.ok.inj (Option.some.inj blocked)
      exact delivered undisturbed
    · obtain rfl := Except.ok.inj (Option.some.inj written)
      exact delivered undisturbed

/-- The DAC plays two points. -/
def playingTwo : Line EtherDreamModel :=
  (Line.joined (FirmwareProfile.small 4) 0).run (prompt 100000).env [.write 1000 (blanks 2)]

/-- Two points, and then one at another rate. -/
theorem exactly_once_two_rates :
    let call := Line.tryWritePoints (prompt 100000).env 2000 (blanks 1) playingTwo
    let chunk := (blanks 1).map (DacPoint.ofLaserPoint (prompt 100000).coordinate)
    call.1 = some (.ok .written) ∧ ∃ new, call.2.socket.log = new ++ playingTwo.socket.log ∧
      inStream new = chunk ∧ Unbroken new ∧ appended new = chunk := by
  have once := exactly_once (prompt 100000) (fun _ => rfl) (FirmwareProfile.small 4) ⟨by decide, by decide, by decide⟩ 0
    [.write 1000 (blanks 2)] 2000 (blanks 1)
  have written : (Line.tryWritePoints (prompt 100000).env 2000 (blanks 1) playingTwo).1 = some (.ok .written) := by
    decide +kernel
  have unbroken : Unbroken (Line.tryWritePoints (prompt 100000).env 2000 (blanks 1) playingTwo).2.socket.log := by
    decide +kernel
  dsimp only at once ⊢
  rw [← playingTwo] at once
  obtain ⟨-, new, log, -, delivered⟩ := once
  rw [log] at unbroken
  have newer := (List.isChain_append.mp unbroken).1
  exact ⟨written, new, log, (delivered written).1, newer, (delivered written).2 newer⟩

/-- Surroundings in which one command arrives a second late. -/
def delayed (tick : Nat) : Setting := { prompt 100000 with lag := fun now => if now = tick then 1000000000 else 0 }

/-- Two points play at 1000 points a second, and another one comes with a switch to 2000 points a second. It is taken,
and everything has been played when the switch arrives; then it is sent again. -/
theorem points_taken_twice :
    let line := (Line.joined (FirmwareProfile.small 4) 0).run (delayed 19).env [.write 1000 (blanks 2)]
    let call := Line.tryWritePoints (delayed 19).env 2000 (blanks 1) line
    let chunk := (blanks 1).map (DacPoint.ofLaserPoint (delayed 19).coordinate)
    call.1 = some (.ok .written) ∧ appended call.2.socket.log = appended line.socket.log ++ (chunk ++ chunk) := by
  decide +kernel

end LaserDac.EtherDream
