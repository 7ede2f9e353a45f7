import LaserDac.LaserCubeSteps

/-!
The accounting of the LaserCube transport's host queue. Callers reserve room before they send, the worker gives
it back as it sends or drops points, and a disable clears the count. The count is exact as long as nothing is
reserved outside the worker's queue when it is cleared.
-/

namespace LaserDac.LaserCube

open Runs

/-- A disable is processed only while nothing is reserved outside the worker's queue. -/
@[reducible] def ClearsIdle : Event → List Event → Prop
  | .processed command reserved, _ => command.enables = false → reserved = 0
  | _, _ => True

instance : ∀ event earlier, Decidable (ClearsIdle event earlier) := Event.decidableLaw

/-- The generation is raised only while nothing is reserved outside the worker's queue. -/
@[reducible] def RaisesIdle : Event → List Event → Prop
  | .raised _ reserved, _ => reserved = 0
  | _, _ => True

instance : ∀ event earlier, Decidable (RaisesIdle event earlier) := Event.decidableLaw

/-- A call of `enqueue` is in progress. -/
def Caller.enqueues : Caller → Bool
  | enqueue _ _ => true
  | reserved _ _ => true
  | loaded _ _ _ => true
  | refused _ => true
  | _ => false

/-- The chunks that callers have handed over and the worker has not settled. -/
def Transport.handedOver (t : Transport) : List Enqueue := t.worker.received.toList ++ t.channel

/-- The points in these chunks. -/
def pointsOf (chunks : List Enqueue) : Nat := (chunks.map (·.points.length)).sum

theorem reserved_eq (t : Transport) : t.reserved = (t.callers.map Caller.points).sum + pointsOf t.handedOver := by
  unfold Transport.reserved pointsOf Transport.handedOver
  cases t.worker.received <;> simp; omega

structure Counted (t : Transport) : Prop where
  total : t.state.hostQueueLen = t.worker.queue.length + t.reserved
  room : t.state.hostQueueLen ≤ t.state.hostQueueCapacity
  dropped : t.dropped = true → t.done = true

variable {caller : Caller}

theorem Caller.Starts.points_eq (starts : caller.Starts) : caller.points = 0 := by
  cases caller <;> first | rfl | exact starts.elim

theorem PriorityCommand.sender_points {command : PriorityCommand} : ∀ caller ∈ command.sender, caller.points = 0 := by
  cases command <;> simp [PriorityCommand.sender, Caller.points]

variable {t t' : Transport}

theorem Caller.Moves.counted {next : Option Caller} (moves : caller.Moves t next t')
    (total : t.state.hostQueueLen = t.worker.queue.length + (caller.points + t.reserved))
    (room : t.state.hostQueueLen ≤ t.state.hostQueueCapacity) (dropped : t.dropped = true → t.done = true) :
    Counted { t' with callers := next.toList ++ t'.callers } := by
  -- A caller that holds no reservation before and after the action changes no term of the sum.
  have idle (next : Option Caller) (before : caller.points = 0) (after : ∀ caller ∈ next, caller.points = 0) :
      t.state.hostQueueLen = t.worker.queue.length + { t with callers := next.toList ++ t.callers }.reserved := by
    rw [total, before, Nat.zero_add]
    cases next with
    | none => rfl
    | some next =>
      simp only [Transport.reserved, Option.toList_some, List.singleton_append, List.map_cons, List.sum_cons,
        after next rfl, Nat.zero_add]
  cases moves with
  | full => exact ⟨idle none rfl (by simp), room, dropped⟩
  | reserve fits =>
    refine ⟨?_, fits, dropped⟩
    simp only [Transport.reserved, Caller.points, Option.toList_some, List.singleton_append, List.map_cons,
      List.sum_cons] at total ⊢
    omega
  | load | overflow =>
    refine ⟨?_, room, dropped⟩
    simp only [Transport.reserved, Caller.points, Option.toList_some, List.singleton_append, List.map_cons,
      List.sum_cons] at total ⊢
    omega
  | accept =>
    refine ⟨?_, room, dropped⟩
    simp only [Transport.reserved, Caller.points, Option.toList_none, List.nil_append, Transport.record,
      List.map_append, List.map_cons, List.map_nil, List.sum_append, List.sum_cons, List.sum_nil] at total ⊢
    omega
  | release =>
    refine ⟨?_, Nat.le_trans (Nat.sub_le _ _) room, dropped⟩
    simp only [Transport.reserved, Caller.points, Option.toList_none, List.nil_append,
      TransportState.releaseHostPoints] at total ⊢
    omega
  | enable => exact ⟨idle (some _) rfl (by simp [Caller.points]), room, dropped⟩
  | disable starts => exact ⟨idle (some _) starts.points_eq (by simp [Caller.points]), room, dropped⟩
  | send | lost => exact ⟨idle _ rfl PriorityCommand.sender_points, room, dropped⟩
  | joined ended => exact ⟨idle none rfl (by simp), room, fun _ => ended⟩
  | wait => exact ⟨idle (some _) rfl (by simp [Caller.points]), room, dropped⟩

theorem Step.counted {env : Env} (step : Step env t t') (counted : Counted t) (clears : Always ClearsIdle t'.log) :
    Counted t' := by
  obtain ⟨total, room, dropped⟩ := counted
  cases step with
  | tick => exact ⟨total, room, dropped⟩
  | call caller starts =>
    refine ⟨?_, room, dropped⟩
    simp only [Transport.call, Transport.record, Transport.reserved, List.map_cons, List.sum_cons, starts.points_eq,
      Nat.zero_add] at total ⊢
    exact total
  | move caller next others among moves =>
    refine moves.counted ?_ room dropped
    have sum := (among.map Caller.points).sum_nat
    simp only [Transport.reserved, List.map_cons, List.sum_cons] at total sum ⊢
    omega
  | priority command =>
    have clear : command.enables = false → t.reserved = 0 :=
      (clears.of_suffix (List.suffix_append _ _)).1
    cases dark : command.enables with
    | true => exact ⟨total, room, dropped⟩
    | false => exact ⟨((Nat.zero_add _).trans (clear dark)).symm, Nat.zero_le _, dropped⟩
  | hangUp working gone => simp [dropped gone] at working
  | receive chunk rest working free first =>
    refine ⟨?_, room, dropped⟩
    simp only [Transport.receive, Transport.record, Transport.reserved, first, free, List.map_cons, List.sum_cons,
      Option.map_none, Option.map_some, Option.getD_none, Option.getD_some] at total ⊢
    omega
  | stale chunk working received =>
    refine ⟨?_, Nat.le_trans (Nat.sub_le _ _) room, dropped⟩
    simp only [Transport.reserved, received, TransportState.releaseHostPoints, Option.map_none, Option.map_some,
      Option.getD_none, Option.getD_some] at total ⊢
    omega
  | fresh chunk _ _ _ working received =>
    refine ⟨?_, room, dropped⟩
    simp only [Transport.reserved, received, Enqueue.samples, List.length_append, List.length_map, Option.map_none,
      Option.map_some, Option.getD_none, Option.getD_some] at total ⊢
    omega
  | abandon working gone => simp [dropped gone] at working
  | tuned working tuned =>
    refine ⟨?_, ?_, ?_⟩
    · simp only [Transport.reserved, tuned.hostQueueLen, tuned.queue, tuned.callers, tuned.channel, tuned.received]
      exact total
    · rw [tuned.hostQueueLen, tuned.hostQueueCapacity]
      exact room
    · rw [tuned.dropped, tuned.done]
      exact dropped
  | pass | failed => exact ⟨total, room, dropped⟩
  | sent now working checked few =>
    refine ⟨?_, Nat.le_trans (Nat.sub_le _ _) room, dropped⟩
    have size := congrArg List.length (List.take_append_drop t.intended t.worker.queue)
    rw [List.length_append] at size
    rw [Transport.packetSent_state, Transport.packetSent_queue]
    change t.state.hostQueueLen - (t.worker.queue.take t.intended).length = (t.worker.queue.drop t.intended).length + t.reserved
    omega
  | finish working free stopped =>
    refine ⟨?_, Nat.le_trans (Nat.sub_le _ _) room, fun _ => rfl⟩
    simp only [Transport.reserved, free, TransportState.releaseHostPoints, List.map_nil, List.sum_nil, Option.map_none,
      Option.getD_none] at total ⊢
    omega

/-- A chunk a caller is about to send is of this generation. -/
def Caller.Current (generation : Nat) : Caller → Prop
  | loaded read _ points => points ≠ [] → read = generation
  | _ => True

/-- Points that are handed over, or are about to be, are of the current generation. -/
structure AllCurrent (t : Transport) : Prop where
  chunks : ∀ chunk ∈ t.handedOver, chunk.points ≠ [] → chunk.generation = t.generation
  callers : ∀ caller ∈ t.callers, caller.Current t.generation

theorem allCurrent_of_reserved_eq_zero (none : t.reserved = 0) : AllCurrent t := by
  rw [reserved_eq, Nat.add_eq_zero_iff] at none
  obtain ⟨callers, chunks⟩ := none
  rw [List.sum_eq_zero_iff_forall_eq_nat] at callers
  rw [pointsOf, List.sum_eq_zero_iff_forall_eq_nat] at chunks
  refine ⟨fun chunk member some_ => ?_, fun caller member => ?_⟩
  · exact absurd (List.length_eq_zero_iff.mp (chunks _ (List.mem_map_of_mem member))) some_
  · have empty := callers _ (List.mem_map_of_mem member)
    cases caller with
    | loaded => exact fun some_ => absurd (List.length_eq_zero_iff.mp empty) some_
    | _ => trivial

theorem Caller.Moves.allCurrent {next : Option Caller} (moves : caller.Moves t next t') (current : AllCurrent t)
    (own : caller.Current t.generation) (raises : Always RaisesIdle t'.log) :
    AllCurrent { t' with callers := next.toList ++ t'.callers } := by
  obtain ⟨chunks, callers⟩ := current
  have joined {next : Caller} {generation : Nat} (own : next.Current generation)
      (others : ∀ caller ∈ t.callers, caller.Current generation) :
      ∀ caller ∈ next :: t.callers, caller.Current generation := by
    simpa using ⟨own, others⟩
  cases moves with
  | full => exact ⟨chunks, callers⟩
  | reserve => exact ⟨chunks, joined trivial callers⟩
  | load => exact ⟨chunks, joined (fun _ => rfl) callers⟩
  | overflow => exact ⟨chunks, joined trivial callers⟩
  | accept =>
    refine ⟨?_, callers⟩
    intro chunk member
    rcases List.mem_append.mp member with received | sent
    · exact chunks chunk (List.mem_append_left _ received)
    · rcases List.mem_append.mp sent with earlier | last
      · exact chunks chunk (List.mem_append_right _ earlier)
      · rw [List.mem_singleton.mp last]
        exact own
  | release => exact ⟨chunks, callers⟩
  | enable => exact ⟨chunks, joined trivial callers⟩
  | disable =>
    obtain ⟨chunks, callers⟩ := allCurrent_of_reserved_eq_zero (t := { t with generation := t.generation + 1 }) raises.1
    exact ⟨chunks, joined trivial callers⟩
  | @send command => cases command with
    | shutdown => exact ⟨chunks, joined trivial callers⟩
    | _ => exact ⟨chunks, callers⟩
  | @lost command => cases command with
    | shutdown => exact ⟨chunks, joined trivial callers⟩
    | _ => exact ⟨chunks, callers⟩
  | joined => exact ⟨chunks, callers⟩
  | wait => exact ⟨chunks, joined trivial callers⟩

theorem Step.allCurrent {env : Env} (step : Step env t t') (current : AllCurrent t) (raises : Always RaisesIdle t'.log)
    : AllCurrent t' := by
  obtain ⟨chunks, callers⟩ := current
  have inChannel : ∀ chunk ∈ t.channel, chunk.points ≠ [] → chunk.generation = t.generation :=
    fun chunk member => chunks chunk (List.mem_append_right _ member)
  cases step with
  | call =>
    refine ⟨chunks, ?_⟩
    intro other member
    rcases List.mem_cons.mp member with rfl | earlier
    · cases other <;> trivial
    · exact callers other earlier
  | move caller next others among moves =>
    refine moves.allCurrent ⟨chunks, fun other member => ?_⟩ ?_ raises
    · exact callers other (among.mem_iff.mpr (List.mem_cons_of_mem _ member))
    · exact callers caller (among.mem_iff.mpr List.mem_cons_self)
  | receive chunk rest working free first =>
    refine ⟨?_, callers⟩
    rw [first] at inChannel
    exact inChannel
  | stale | fresh => exact ⟨inChannel, callers⟩
  | tuned working tuned =>
    refine ⟨?_, ?_⟩
    · rw [Transport.handedOver, tuned.received, tuned.channel, tuned.generation]
      exact chunks
    · rw [tuned.callers, tuned.generation]
      exact callers
  | finish working free =>
    refine ⟨?_, callers⟩
    intro chunk member
    rw [Transport.handedOver, free] at member
    simp at member
  | _ => exact ⟨chunks, callers⟩

/-- The points handed over that carry the current generation. -/
def Transport.currentPoints (t : Transport) : Nat :=
  pointsOf (t.handedOver.filter (·.generation = t.generation))

theorem AllCurrent.currentPoints_eq (current : AllCurrent t) : t.currentPoints = pointsOf t.handedOver := by
  have chunks := current.chunks
  unfold Transport.currentPoints pointsOf
  generalize t.handedOver = handed at chunks
  induction handed with
  | nil => rfl
  | cons chunk rest ih =>
    have later := ih fun chunk member => chunks chunk (List.mem_cons_of_mem _ member)
    by_cases same : chunk.generation = t.generation
    · simp [same, later]
    · have empty : chunk.points = [] := by
        by_contra some_
        exact same (chunks chunk List.mem_cons_self some_)
      simp [same, later, empty]

/-- The host queue's count covers the worker's queue and what is handed over, and stays within its capacity, if
every clear finds nothing reserved outside the queue. If the same holds whenever the generation is raised, it is
exactly the queue and the handed over points of the current generation while no `enqueue` is in progress. -/
theorem host_queue_accounted (status : Status) (profile : ConnectionProfile) (now : Nat) (env : Env)
    (actions : List Action)
    (clears : Always ClearsIdle ((Transport.start status profile now).moment env actions).log) :
    let t := (Transport.start status profile now).moment env actions
    t.worker.queue.length ≤ t.state.hostQueueLen ∧
    t.worker.queue.length + pointsOf t.handedOver ≤ t.state.hostQueueCapacity ∧
    (Always RaisesIdle t.log → (∀ caller ∈ t.callers, caller.enqueues = false) →
      t.state.hostQueueLen = t.worker.queue.length + t.currentPoints) := by
  have idle : Idle (Transport.start status profile now).own := ⟨rfl, rfl⟩
  have counted := moment_keeps env actions ClearsIdle Counted idle ⟨rfl, Nat.zero_le _, by simp [Transport.start]⟩
    (fun t t' holds assumed step => step.counted holds assumed) clears
  have current := moment_keeps env actions RaisesIdle AllCurrent idle
    ⟨by simp [Transport.handedOver, Transport.start], by simp [Transport.start]⟩
    (fun t t' holds assumed step => step.allCurrent holds assumed)
  generalize (Transport.start status profile now).moment env actions = t at counted current
  obtain ⟨total, room, -⟩ := counted
  rw [reserved_eq] at total
  refine ⟨by omega, by omega, fun raises calm => ?_⟩
  have none : (t.callers.map Caller.points).sum = 0 := by
    rw [List.sum_eq_zero_iff_forall_eq_nat]
    intro points member
    obtain ⟨caller, among, rfl⟩ := List.mem_map.mp member
    have quiet := calm caller among
    cases caller <;> first | rfl | simp [Caller.enqueues] at quiet
  rw [(current raises).currentPoints_eq]
  omega

theorem host_queue_accounted_five_points :
    let t := Transport.small.moment (.acting 0 (Action.wholeSetOutput false ++ Action.wholeSetOutput true) 9)
      (Action.wholeEnqueue 5)
    t.state.hostQueueLen = t.worker.queue.length + t.currentPoints ∧ t.currentPoints = 5 :=
  ⟨(host_queue_accounted (.empty 300) (.forConnection .ethernetServer 300) 0
    (.acting 0 (Action.wholeSetOutput false ++ Action.wholeSetOutput true) 9) (Action.wholeEnqueue 5)
      (by decide +kernel)).2.2 (by decide +kernel) (by decide +kernel), by decide +kernel⟩

/-- Points enqueued after a disable that the worker has not processed yet are not counted once it has: the count
falls below the worker's queue, and more is accepted than the capacity. -/
theorem disable_uncounts_later_points :
    let t := Transport.small.moment (.acting 0 (Action.wholeSetOutput false ++ Action.wholeEnqueue 640) 7)
      (Action.wholeEnqueue 500)
    t.callers.isEmpty ∧ t.state.hostQueueLen < t.worker.queue.length ∧
      t.state.hostQueueCapacity < t.worker.queue.length + pointsOf t.handedOver := by
  decide +kernel

end LaserDac.LaserCube
