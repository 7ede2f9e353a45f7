import LaserDac.LaserCube

/-!
The pacing of the LaserCube transport. A packet is sent only if all of it fits below the cutoff, so the device
is never estimated fuller than that; every packet shortens the queue, so a pass ends; and an empty device gets a
packet, if the one the queue calls for fits into it at all.
-/

namespace LaserDac.LaserCube

open Runs Runs.Run

/-- How full the device is estimated. -/
def TransportState.buffered (state : TransportState) : Nat := state.bufferTotal - state.freeEstimate

/-- What the device is to be filled to. -/
def TransportState.target (state : TransportState) : Nat := min state.profile.remoteBufferCutoff state.bufferTotal

namespace Transport

def intended (t : Transport) : Nat := min t.state.profile.maxUdpSamplesPerPacket t.worker.queue.length

theorem sendBudget_lt_intended (t : Transport) :
    sendBudget {
      queueLen := t.worker.queue.length
      freeEstimate := t.state.freeEstimate
      bufferTotal := t.state.bufferTotal
      remoteBufferCutoff := t.state.profile.remoteBufferCutoff
      perTickPacketBudget := t.state.profile.maxUdpSamplesPerPacket } < t.intended ↔
    t.state.target - t.state.buffered < t.intended := by
  simp only [sendBudget, intended, TransportState.target, TransportState.buffered]
  omega

/-- The outcomes of an attempt to send a packet. -/
inductive Attempt (ok : Bool) (now : Nat) (t : Transport) : Bool × Transport → Prop
  | nothing (empty : t.intended = 0) : Attempt ok now t (false, t)
  | wait (positive : t.intended ≠ 0) (full : t.state.target - t.state.buffered < t.intended) :
    Attempt ok now t (false, t.putOff (now + t.state.profile.waitBufferSleep))
  | oversized (many : maxUdpSamples < t.intended) :
    Attempt ok now t (false, t.putOff (now + t.state.profile.waitBufferSleep))
  | failed (positive : t.intended ≠ 0) (few : t.intended ≤ maxUdpSamples) (down : ok = false)
    (fits : t.intended ≤ t.state.target - t.state.buffered) :
    Attempt ok now t (false, (t.putOff (now + t.state.profile.waitBufferSleep)).record
      (.packet t.worker.packetSequence t.worker.transferSequence (t.worker.queue.take t.intended) false))
  | sent (positive : t.intended ≠ 0) (few : t.intended ≤ maxUdpSamples) (up : ok = true)
    (fits : t.intended ≤ t.state.target - t.state.buffered) :
    Attempt ok now t ((t.record
      (.packet t.worker.packetSequence t.worker.transferSequence (t.worker.queue.take t.intended) true)).packetSent now
        (t.worker.queue.take t.intended) (t.worker.queue.drop t.intended))

theorem intended_le_queue (t : Transport) : t.intended ≤ t.worker.queue.length := Nat.min_le_right _ _

theorem sendOnePacket_attempt (ok : Bool) (now : Nat) (t : Transport) : t.Attempt ok now (t.sendOnePacket ok now) := by
  have within := t.intended_le_queue
  have size : ((t.worker.queue.take t.intended).map Sample.point).length = t.intended := by
    rw [List.length_map, List.length_take]
    omega
  have restored : (t.mapWorker fun w => { w with
      queue := t.worker.queue.take t.intended ++ t.worker.queue.drop t.intended }) = t := by
    rw [List.take_append_drop]
    rfl
  have named : min t.state.profile.maxUdpSamplesPerPacket t.worker.queue.length = t.intended := rfl
  unfold sendOnePacket
  simp only [named, sendBudget_lt_intended, restored]
  by_cases empty : t.intended = 0
  · rw [if_pos empty]
    exact .nothing empty
  rw [if_neg empty]
  by_cases full : t.state.target - t.state.buffered < t.intended
  · rw [if_pos full]
    exact .wait empty full
  rw [if_neg full, encodeSamplePacket, size]
  by_cases many : t.intended > maxUdpSamples
  · rw [if_pos many]
    exact .oversized many
  rw [if_neg many]
  dsimp only
  cases ok with
  | false => exact .failed empty (Nat.le_of_not_lt many) rfl (Nat.le_of_not_lt full)
  | true => exact .sent empty (Nat.le_of_not_lt many) rfl (Nat.le_of_not_lt full)

section

variable (now : Nat) (packet rest : List Sample) (t : Transport)

@[simp] theorem packetSent_state : (t.packetSent now packet rest).2.state = t.state.recordSend now packet.length := rfl
@[simp] theorem packetSent_queue : (t.packetSent now packet rest).2.worker.queue = rest := rfl
@[simp] theorem packetSent_log : (t.packetSent now packet rest).2.log = t.log := rfl

end

theorem sendOnePacket_shortens (ok : Bool) (now : Nat) (t : Transport) (more : (t.sendOnePacket ok now).1 = true) :
    (t.sendOnePacket ok now).2.worker.queue.length < t.worker.queue.length := by
  have attempt := t.sendOnePacket_attempt ok now
  have within := t.intended_le_queue
  generalize t.sendOnePacket ok now = result at more attempt
  cases attempt with
  | sent positive few up fits =>
    rw [packetSent_queue, List.length_drop]
    omega
  | _ => cases more

theorem Attempt.buffered_le {ok : Bool} {now : Nat} {t : Transport} {result : Bool × Transport}
    (attempt : t.Attempt ok now result) (estimate : t.state.freeEstimate ≤ t.state.bufferTotal)
    {packetSequence transferSequence : UInt8} {samples : List Sample}
    (sent : result.2.log = .packet packetSequence transferSequence samples true :: t.log) :
    result.2.state.buffered ≤ result.2.state.target ∧ result.2.state.freeEstimate ≤ result.2.state.bufferTotal := by
  have within := t.intended_le_queue
  cases attempt with
  | sent positive few up fits =>
    have size : (t.worker.queue.take t.intended).length = t.intended := by
      rw [List.length_take]
      omega
    rw [packetSent_state, size]
    simp only [TransportState.target, TransportState.buffered] at fits
    simp only [TransportState.buffered, TransportState.target, TransportState.recordSend, record]
    omega
  | failed => simp [record, putOff, mapWorker] at sent
  | _ => simp [putOff, mapWorker] at sent

/-- The same, but for how many points are reserved. -/
structure SamePacing (t t' : Transport) : Prop where
  worker : t'.worker = t.worker
  state : t'.state = { t.state with hostQueueLen := t'.state.hostQueueLen }
  done : t'.done = t.done

theorem SamePacing.refl (t : Transport) : SamePacing t t := ⟨rfl, rfl, rfl⟩

theorem SamePacing.trans {t t' t'' : Transport} (first : SamePacing t t') (later : SamePacing t' t'') :
    SamePacing t t'' := by
  refine ⟨later.worker.trans first.worker, ?_, later.done.trans first.done⟩
  rw [later.state, first.state]

theorem Caller.step_samePacing (caller : Caller) (t : Transport) : SamePacing t (caller.step t).2 := by
  unfold Caller.step
  split <;> (repeat' split) <;> exact ⟨rfl, rfl, rfl⟩

theorem act_samePacing (t : Transport) (action : Action) : SamePacing t (t.act action) := by
  cases action with
  | resume index =>
    rw [act, resume]
    split
    · exact .refl t
    · rename_i caller _
      have step := Caller.step_samePacing caller { t with callers := t.callers.eraseIdx index }
      split <;> rename_i eq <;> rw [eq] at step <;> exact ⟨step.worker, step.state, step.done⟩
  | _ => exact ⟨rfl, rfl, rfl⟩

theorem interleave_samePacing (env : Env) (t : Transport) : SamePacing t (t.interleave env) := by
  have acts : ∀ actions : List Action, ∀ t : Transport, SamePacing t (actions.foldl act t) := by
    intro actions
    induction actions with
    | nil => exact SamePacing.refl
    | cons action actions ih => exact fun t => (t.act_samePacing action).trans (ih _)
  obtain ⟨worker, state, done⟩ := acts (env.schedule t.tick) t
  exact ⟨worker, state, done⟩

end Transport

/-! ### A pass -/

section

variable (env : Env) (now : Nat)

variable {t : Transport}

theorem turn_of_running (running : t.tick < env.fuel) : turn env t = (some (t.interleave env), t.interleave env) := by
  rw [turn, bind_state, if_pos running]
  rfl

theorem topUp_due (running : t.tick < env.fuel) (due : t.worker.nextSendDue ≤ now) (waiting : t.worker.queue ≠ []) :
    topUp env now t =
      let attempt := (t.interleave env).sendOnePacket (env.sendData (t.interleave env).tick) now
      (some (if attempt.1 then .inl () else .inr ()), attempt.2) := by
  rw [topUp, bind_state, if_pos ⟨due, waiting⟩,
    bind_of_result (turn_of_running env running)]
  rfl

theorem topUp_idle (idle : ¬ (t.worker.nextSendDue ≤ now ∧ t.worker.queue ≠ [])) :
    topUp env now t = (some (.inr ()), t) := by
  rw [topUp, bind_state, if_neg idle]
  rfl

theorem sendOnePacket_tick (ok : Bool) (t : Transport) : (t.sendOnePacket ok now).2.tick = t.tick := by
  have attempt := t.sendOnePacket_attempt ok now
  generalize t.sendOnePacket ok now = result at attempt
  cases attempt <;> rfl

theorem iterate_topUp_returns (rounds : Nat) (t : Transport) (enough : t.worker.queue.length < rounds)
    (running : t.tick + rounds ≤ env.fuel) : (iterate rounds (fun _ => topUp env now) () t).1 = some () := by
  induction rounds generalizing t with
  | zero => omega
  | succ rounds ih =>
    by_cases due : t.worker.nextSendDue ≤ now ∧ t.worker.queue ≠ []
    · have round := topUp_due env now (by omega) due.1 due.2
      rw [iterate, bind_of_result round]
      by_cases more : ((t.interleave env).sendOnePacket (env.sendData (t.interleave env).tick) now).1
      · rw [if_pos more]
        have shorter := (t.interleave env).sendOnePacket_shortens _ now more
        rw [(t.interleave_samePacing env).worker] at shorter
        have tick : ((t.interleave env).sendOnePacket (env.sendData (t.interleave env).tick) now).2.tick = t.tick + 1 :=
          sendOnePacket_tick now _ _
        exact ih _ (by omega) (by omega)
      · rw [if_neg more]
        rfl
    · rw [iterate, bind_of_result (topUp_idle env now due)]
      rfl

/-- The number of packets handed to the data socket. -/
def packets (log : List Event) : Nat :=
  log.countP fun event => match event with
    | .packet _ _ _ _ => true
    | _ => false

theorem Caller.step_packets (caller : Caller) (t : Transport) : packets (caller.step t).2.log = packets t.log := by
  unfold Caller.step
  split <;> (repeat' split) <;> simp [packets, Transport.raise, Transport.record]

theorem act_packets (t : Transport) (action : Action) : packets (t.act action).log = packets t.log := by
  cases action with
  | resume index =>
    rw [Transport.act, Transport.resume]
    split
    · rfl
    · rename_i caller _
      have step := Caller.step_packets caller { t with callers := t.callers.eraseIdx index }
      split <;> rename_i eq <;> rw [eq] at step <;> exact step
  | _ => simp [Transport.act, Transport.call, packets, Transport.record]

theorem interleave_packets (t : Transport) : packets (t.interleave env).log = packets t.log := by
  have acts : ∀ actions : List Action, ∀ t : Transport, packets (actions.foldl Transport.act t).log = packets t.log := by
    intro actions
    induction actions with
    | nil => exact fun _ => rfl
    | cons action actions ih => exact fun t => (ih _).trans (act_packets t action)
  exact acts (env.schedule t.tick) t

theorem sendOnePacket_packets (ok : Bool) (t : Transport) : packets t.log ≤ packets (t.sendOnePacket ok now).2.log := by
  have attempt := t.sendOnePacket_attempt ok now
  generalize t.sendOnePacket ok now = result at attempt
  cases attempt <;> simp [packets, Transport.record, Transport.putOff, Transport.mapWorker]

theorem topUp_follows :
    Follows (fun t t' => packets t.log ≤ packets t'.log) (fun _ => True) (topUp env now) fun _ _ => True := by
  refine Follows.bind (M := fun _ _ => True) (Follows.state fun _ => id) fun t => ?_
  refine Follows.ite (fun _ => ?_) fun _ => Follows.pure fun _ => id
  refine Follows.bind (M := fun t t' => t = t') ?_ fun t => ?_
  · refine Follows.bind (M := fun _ _ => True) (Follows.state fun _ => id) fun t => ?_
    refine Follows.ite (fun _ => ?_) fun _ => Follows.cut
    refine Follows.bind (M := fun _ _ => True) ?_ fun _ => Follows.state fun _ _ => rfl
    exact Follows.update (fun t _ => .single (Nat.le_of_eq (interleave_packets env t).symm)) fun _ => id
  · refine Follows.bind (M := fun _ _ => True) (Follows.update ?_ fun _ _ => trivial) fun _ => Follows.pure fun _ => id
    rintro _ rfl
    exact .single (sendOnePacket_packets now _ t)

theorem iterate_topUp_follows (rounds : Nat) :
    Follows (fun t t' => packets t.log ≤ packets t'.log) (fun _ => True) (iterate rounds (fun _ => topUp env now) ())
      fun _ _ => True := by
  refine Follows.iterate (fun _ _ => True) (fun _ => ?_) rounds ()
  refine (topUp_follows env now).post fun next _ _ => ?_
  cases next <;> trivial

/-- A packet is handed to the socket exactly if the device is taken to have room for it. -/
theorem sendOnePacket_hands (ok : Bool) (t : Transport) (positive : t.intended ≠ 0)
    (few : t.intended ≤ maxUdpSamples) :
    packets t.log < packets (t.sendOnePacket ok now).2.log ↔ t.intended ≤ t.state.target - t.state.buffered := by
  have attempt := t.sendOnePacket_attempt ok now
  generalize t.sendOnePacket ok now = result at attempt
  cases attempt with
  | nothing empty => exact absurd empty positive
  | wait _ full => exact iff_of_false (Nat.lt_irrefl _) (Nat.not_le_of_lt full)
  | oversized many => omega
  | failed _ _ _ fits =>
    exact iff_of_true (by simp [packets, Transport.record, Transport.putOff, Transport.mapWorker]) fits
  | sent _ _ _ fits => exact iff_of_true (by simp [packets, Transport.record]) fits

theorem sendOnePacket_more (ok : Bool) (t : Transport) (more : (t.sendOnePacket ok now).1 = true) :
    packets t.log < packets (t.sendOnePacket ok now).2.log := by
  have attempt := t.sendOnePacket_attempt ok now
  generalize t.sendOnePacket ok now = result at more attempt
  cases attempt with
  | sent => simp [packets, Transport.record]
  | _ => cases more

theorem forConnection_packet (connectionType : ConnectionType) (bufferTotal : Nat) :
    0 < (ConnectionProfile.forConnection connectionType bufferTotal).maxUdpSamplesPerPacket ∧
      (ConnectionProfile.forConnection connectionType bufferTotal).maxUdpSamplesPerPacket ≤ maxUdpSamples := by
  cases connectionType <;> simp [ConnectionProfile.forConnection, ConnectionProfile.desktop,
    ConnectionProfile.unknownConservative, maxUdpSamples]

theorem trySendDuePacket_of_running (running : t.tick < env.fuel)
    (agree : (t.interleave env).worker.activeGeneration = (t.interleave env).generation) :
    trySendDuePacket env now t =
      iterate ((t.interleave env).worker.queue.length + 1) (fun _ => topUp env now) ()
        ((t.interleave env).record (.pass (t.interleave env).generation)) := by
  rw [trySendDuePacket, bind_of_result (turn_of_running env running), bind_update, if_neg (not_not.mpr agree)]

theorem trySendDuePacket_returns (t : Transport) (running : t.tick + t.worker.queue.length + 2 ≤ env.fuel) :
    (trySendDuePacket env now t).1 = some () := by
  have started : t.tick < env.fuel := by omega
  have same := t.interleave_samePacing env
  by_cases agree : (t.interleave env).worker.activeGeneration = (t.interleave env).generation
  · rw [trySendDuePacket_of_running env now started agree]
    refine iterate_topUp_returns env now _ _ (Nat.lt_succ_self _) ?_
    change t.tick + 1 + ((t.interleave env).worker.queue.length + 1) ≤ env.fuel
    rw [same.worker]
    omega
  · rw [trySendDuePacket, bind_of_result (turn_of_running env started), bind_update, if_pos agree]
    rfl

/-- A pass with points due hands out a packet exactly if its first attempt has room. -/
theorem trySendDuePacket_hands (t : Transport) (running : t.tick + 2 ≤ env.fuel)
    (agree : (t.interleave env).worker.activeGeneration = (t.interleave env).generation)
    (due : t.worker.nextSendDue ≤ now) (positive : t.intended ≠ 0) (few : t.intended ≤ maxUdpSamples) :
    packets t.log < packets (trySendDuePacket env now t).2.log ↔ t.intended ≤ t.state.target - t.state.buffered := by
  have same := t.interleave_samePacing env
  rw [trySendDuePacket_of_running env now (by omega) agree]
  set started := (t.interleave env).record (.pass (t.interleave env).generation) with startedEq
  have again : Transport.SamePacing t (started.interleave env) := by
    refine .trans ?_ (started.interleave_samePacing env)
    exact ⟨same.worker, same.state, same.done⟩
  have waiting : started.worker.queue ≠ [] := by
    change (t.interleave env).worker.queue ≠ []
    rw [same.worker]
    intro empty
    simp [Transport.intended, empty] at positive
  have first := topUp_due env now (t := started) (by change t.tick + 1 < env.fuel; omega)
    (by change (t.interleave env).worker.nextSendDue ≤ now; rw [same.worker]; exact due) waiting
  have intended : (started.interleave env).intended = t.intended := by
    rw [Transport.intended, again.worker, again.state]
    rfl
  have handed := sendOnePacket_hands now (env.sendData (started.interleave env).tick) (started.interleave env)
    (intended ▸ positive) (intended ▸ few)
  rw [intended, again.state] at handed
  have before : packets (started.interleave env).log = packets t.log := by
    rw [interleave_packets, startedEq]
    change packets (t.interleave env).log = _
    exact interleave_packets env t
  rw [← before, iterate, bind_of_result first]
  by_cases more : ((started.interleave env).sendOnePacket (env.sendData (started.interleave env).tick) now).1
  · -- what follows a packet takes none back
    rw [if_pos more]
    have sent := sendOnePacket_more now _ _ more
    refine iff_of_true ?_ (handed.mp sent)
    exact (iterate_topUp_follows env now (t.interleave env).worker.queue.length).keeps
      (I := fun after : Transport => packets (started.interleave env).log < packets after.log)
      (fun _ _ less more => Nat.lt_of_lt_of_le less more) _ trivial sent
  · rw [if_neg more]
    exact handed

end

/-- The packet the queue calls for fits into an empty device. -/
def Transport.Fits (t : Transport) : Prop := t.intended ≤ t.state.target

instance (t : Transport) : Decidable t.Fits := inferInstanceAs (Decidable (_ ≤ _))

/-- An estimated fill that never exceeds the target, passes that end, and an empty device that gets a packet exactly
if the packet fits into it. -/
theorem pacing_sound (connectionType : ConnectionType) (profileTotal : Nat) (env : Env) (now : Nat) (t : Transport)
    (profile : t.state.profile = .forConnection connectionType profileTotal)
    (estimate : t.state.freeEstimate ≤ t.state.bufferTotal) :
    (∀ ok packetSequence transferSequence samples,
      (t.sendOnePacket ok now).2.log = .packet packetSequence transferSequence samples true :: t.log →
        (t.sendOnePacket ok now).2.state.buffered ≤ (t.sendOnePacket ok now).2.state.target ∧
          (t.sendOnePacket ok now).2.state.freeEstimate ≤ (t.sendOnePacket ok now).2.state.bufferTotal) ∧
    (t.tick + t.worker.queue.length + 2 ≤ env.fuel → (trySendDuePacket env now t).1 = some ()) ∧
    (t.worker.queue ≠ [] → (t.interleave env).worker.activeGeneration = (t.interleave env).generation →
      t.worker.nextSendDue ≤ now → t.state.freeEstimate = t.state.bufferTotal → t.tick + 2 ≤ env.fuel →
        (packets t.log < packets (trySendDuePacket env now t).2.log ↔ t.Fits)) := by
  refine ⟨?_, trySendDuePacket_returns env now t, ?_⟩
  · intro ok packetSequence transferSequence samples sent
    exact (t.sendOnePacket_attempt ok now).buffered_le estimate sent
  · intro waiting agree due empty running
    obtain ⟨some_, few⟩ := forConnection_packet connectionType profileTotal
    rw [← profile] at some_ few
    have queued := List.length_pos_of_ne_nil waiting
    have unbuffered : t.state.buffered = 0 := by
      rw [TransportState.buffered, empty, Nat.sub_self]
    have positive : t.intended ≠ 0 := by
      rw [Transport.intended]
      omega
    have hands := trySendDuePacket_hands env now t running agree due positive
      (Nat.le_trans (Nat.min_le_left _ _) few)
    rw [unbuffered] at hands
    exact hands

/-- What a device of this capacity reports while it is empty. -/
def Status.empty (bufferMax : UInt16) : Status where
  outputEnabled := true
  interlockEnabled := false
  pointRate := 30000
  pointRateMax := 30000
  bufferFree := bufferMax
  bufferMax

/-- So many points wait for such a device. -/
def Transport.waiting (bufferMax : UInt16) (points : Nat) : Transport :=
  (Transport.start (.empty bufferMax) (.forConnection .ethernetServer bufferMax.toNat) 0).mapWorker fun w =>
    { w with queue := List.replicate points { generation := 0, point := ⟨0, 0, 0, 0, 0⟩ } }

/-- Nobody else acts and the sockets work. -/
def Env.quiet (fuel : Nat) : Env where
  schedule _ := []
  now _ := 0
  sendData _ := true
  sendCommand _ := true
  receiveCommand _ := none
  receiveData _ := none
  fuel

theorem pacing_sound_eighty_points :
    (Transport.waiting 80 80).Fits ∧ packets (Transport.waiting 80 80).log <
      packets (trySendDuePacket (.quiet 100) 0 (Transport.waiting 80 80)).2.log :=
  ⟨by decide, ((pacing_sound .ethernetServer 80 (.quiet 100) 0 (Transport.waiting 80 80) rfl (by decide)).2.2
    (by decide) rfl (by decide) rfl (by decide)).mpr (by decide)⟩

/-- An empty device of one point less gets no packet, at any time: the attempt only puts the next one off. -/
theorem full_packet_never_sent :
    (Transport.waiting 79 80).state.freeEstimate = (Transport.waiting 79 80).state.bufferTotal ∧
      (Transport.waiting 79 80).worker.queue ≠ [] ∧ ∀ ok now,
        (Transport.waiting 79 80).sendOnePacket ok now = (false, (Transport.waiting 79 80).putOff (now + 6000000)) :=
  ⟨rfl, by decide, fun _ _ => rfl⟩

end LaserDac.LaserCube
