import LaserDac.EtherDreamClock
import LaserDac.EtherDreamSteps

/-!
Bytes that arrive in pieces. The simulated Ether Dream answers the same to a sequence of bytes in whatever pieces it
arrives. The exception is a byte on which the firmware resets the connection: it takes all the input there is along
with it.
-/

namespace LaserDac.EtherDream

open Bytes

variable {now : Nat}

namespace EtherDreamModel

structure Kept (m after : EtherDreamModel) : Prop where
  profile : after.profile = m.profile
  now : after.now = m.now
  input : after.input = m.input
  inject : after.inject = m.inject
  replyOverride : after.replyOverride = m.replyOverride

theorem Kept.refl (m : EtherDreamModel) : Kept m m := ⟨rfl, rfl, rfl, rfl, rfl⟩

variable {m after : EtherDreamModel}

theorem Kept.trans {middle : EtherDreamModel} (first : Kept m middle) (second : Kept middle after) :
    Kept m after where
  profile := second.profile.trans first.profile
  now := second.now.trans first.now
  input := second.input.trans first.input
  inject := second.inject.trans first.inject
  replyOverride := second.replyOverride.trans first.replyOverride

/-- None of the tests' interventions is pending. -/
structure Quiet (m : EtherDreamModel) : Prop where
  inject : m.inject = none
  replyOverride : m.replyOverride = none

theorem Kept.quiet (kept : Kept m after) (quiet : m.Quiet) : after.Quiet :=
  ⟨kept.inject.trans quiet.inject, kept.replyOverride.trans quiet.replyOverride⟩

theorem execute_awake (command : Command) (m : EtherDreamModel) :
    Kept m (m.execute command).2 ∧ (m.execute command).2.hung = m.hung := by
  cases command <;> simp only [execute, prepareStream, beginOrUpdate, queueRate, data, stop, clearEmergencyStop, estop,
    startSegment]
  all_goals
    repeat' split
    all_goals exact ⟨⟨rfl, rfl, rfl, rfl, rfl⟩, by simp⟩

theorem Result.kept {reply : Reply} (result : Result m reply after) : Kept m after := by
  rcases result with ⟨-, command, rfl⟩ | ⟨-, rfl⟩
  · exact (execute_awake command m).1
  · exact ⟨rfl, rfl, rfl, rfl, rfl⟩

theorem Result.hung {reply : Reply} (result : Result m reply after) (awake : m.hung = false) :
    after.hung = true ↔ reply = .hang := by
  rcases result with ⟨answers, command, rfl⟩ | ⟨hangs, rfl⟩
  · rw [(execute_awake command m).2, awake]
    exact ⟨by rintro ⟨⟩, fun hangs => absurd hangs answers⟩
  · exact ⟨fun _ => hangs, fun _ => rfl⟩

/-! ### Rounds of the loop -/

def booked (reply : Reply) (bytes : List UInt8) (m : EtherDreamModel) : EtherDreamModel :=
  let m := (m.countReply reply).2
  if m.recordInput then m.record bytes else m

theorem countReply_quiet (quiet : m.Quiet) (reply : Reply) :
    (m.countReply reply).1 = reply ∧ Kept m (m.countReply reply).2 ∧ (m.countReply reply).2.hung = m.hung := by
  cases reply with
  | response response =>
    unfold countReply
    dsimp only
    split
    · next pending =>
      rw [quiet.replyOverride] at pending
      cases pending
    · dsimp only
      split
      all_goals exact ⟨rfl, ⟨rfl, rfl, rfl, rfl, rfl⟩, rfl⟩
  | version | reset | hang => exact ⟨rfl, .refl m, rfl⟩

theorem booked_kept (quiet : m.Quiet) (reply : Reply) (bytes : List UInt8) :
    Kept m (m.booked reply bytes) ∧ (m.booked reply bytes).hung = m.hung := by
  obtain ⟨-, kept, awake⟩ := countReply_quiet quiet reply
  unfold booked
  dsimp only
  split
  · cases bytes with
    | nil => exact ⟨kept, awake⟩
    | cons => exact ⟨⟨kept.profile, kept.now, kept.input, kept.inject, kept.replyOverride⟩, awake⟩
  · exact ⟨kept, awake⟩

theorem injected_quiet (quiet : m.Quiet) (input : List UInt8) : m.injected input = m := by
  unfold injected
  rw [quiet.inject]
  split <;> simp_all

section

variable {input : List UInt8} {consumed : Nat} {reply : Reply}

theorem processLoop_incomplete (quiet : m.Quiet) (step : m.step input = none) (fuel : Nat) :
    processLoop none (fuel + 1) input m = ([], input, m) := by
  simp [processLoop, injected_quiet quiet, quiet.inject, step]

theorem processLoop_ends (quiet : m.Quiet) (step : m.step input = some (consumed, reply, after))
    (ends : reply = .reset ∨ reply = .hang) (fuel : Nat) :
    processLoop none (fuel + 1) input m = ([reply], [], after.booked reply (input.take consumed)) := by
  have same := (countReply_quiet ((step_stepped step).result.kept.quiet quiet) reply).1
  simp [processLoop, injected_quiet quiet, quiet.inject, step, same, ends, booked]

theorem processLoop_goes (quiet : m.Quiet) (step : m.step input = some (consumed, reply, after))
    (goes : ¬ (reply = .reset ∨ reply = .hang)) (fuel : Nat) :
    processLoop none (fuel + 1) input m =
      (reply :: (processLoop none fuel (input.drop consumed) (after.booked reply (input.take consumed))).1,
        (processLoop none fuel (input.drop consumed) (after.booked reply (input.take consumed))).2) := by
  have same := (countReply_quiet ((step_stepped step).result.kept.quiet quiet) reply).1
  simp [processLoop, injected_quiet quiet, quiet.inject, step, same, goes, booked]

end

theorem processLoop_fuel (quiet : m.Quiet) {fuel other : Nat} {input : List UInt8} (enough : input.length < fuel)
    (enoughToo : input.length < other) : processLoop none fuel input m = processLoop none other input m := by
  induction fuel generalizing input m other with
  | zero => exact absurd enough (Nat.not_lt_zero _)
  | succ fuel ih =>
    obtain ⟨other, rfl⟩ := Nat.exists_eq_succ_of_ne_zero (Nat.ne_of_gt (Nat.zero_lt_of_lt enoughToo))
    cases step : m.step input with
    | none => rw [processLoop_incomplete quiet step, processLoop_incomplete quiet step]
    | some taken =>
      obtain ⟨consumed, reply, after⟩ := taken
      have stepped := step_stepped step
      by_cases ends : reply = .reset ∨ reply = .hang
      · rw [processLoop_ends quiet step ends, processLoop_ends quiet step ends]
      · have next := stepped.result.kept.quiet quiet
        have onward := (booked_kept next reply (input.take consumed)).1.quiet next
        have fewer : (input.drop consumed).length < input.length := by
          have positive := stepped.positive
          have within := stepped.within
          rw [List.length_drop]
          omega
        rw [processLoop_goes quiet step ends, processLoop_goes quiet step ends,
          ih onward (by omega) (show _ < other by omega)]

def drain (input : List UInt8) (m : EtherDreamModel) : List Reply × List UInt8 × EtherDreamModel :=
  processLoop none (input.length + 1) input m

theorem drain_goes {after : EtherDreamModel} {input : List UInt8} {consumed : Nat} {reply : Reply} (quiet : m.Quiet)
    (step : m.step input = some (consumed, reply, after)) (goes : ¬ (reply = .reset ∨ reply = .hang)) :
    m.drain input =
      (reply :: ((after.booked reply (input.take consumed)).drain (input.drop consumed)).1,
        ((after.booked reply (input.take consumed)).drain (input.drop consumed)).2) := by
  have stepped := step_stepped step
  have next := stepped.result.kept.quiet quiet
  have positive := stepped.positive
  have within := stepped.within
  have fewer : (input.drop consumed).length < input.length := by
    rw [List.length_drop]
    omega
  unfold drain
  rw [processLoop_goes quiet step goes,
    processLoop_fuel ((booked_kept next _ _).1.quiet next) fewer (Nat.lt_succ_self _)]

/-- What was not taken is the end of the input, nothing after a hang; a drained model has only moved on by commands. -/
structure Drained (input : List UInt8) (m : EtherDreamModel) (rest : List UInt8) (after : EtherDreamModel) : Prop where
  ending : rest <:+ input
  kept : Kept m after
  hung : after.hung = true → rest = []

theorem drain_append (quiet : m.Quiet) (awake : m.hung = false) {first : List UInt8}
    (calm : ∀ byte ∈ first, ¬ m.profile.Resets byte) (second : List UInt8) :
    Drained first m (m.drain first).2.1 (m.drain first).2.2 ∧
      m.drain (first ++ second) =
        if (m.drain first).2.2.hung then ((m.drain first).1, [], (m.drain first).2.2)
        else ((m.drain first).1 ++ ((m.drain first).2.2.drain ((m.drain first).2.1 ++ second)).1,
          ((m.drain first).2.2.drain ((m.drain first).2.1 ++ second)).2) := by
  induction length : first.length using Nat.strong_induction_on generalizing first m with
  | h size ih =>
    cases step : m.step first with
    | none =>
      have stays : m.drain first = ([], first, m) := processLoop_incomplete quiet step _
      rw [stays]
      exact ⟨⟨List.suffix_rfl, .refl m, fun hung => absurd hung (by simp [awake])⟩, by simp [awake]⟩
    | some taken =>
      obtain ⟨consumed, reply, after⟩ := taken
      have stepped := step_stepped step
      have next := stepped.result.kept.quiet quiet
      have known : reply ≠ .reset := by
        intro reset
        obtain ⟨byte, head, resets⟩ := stepped.reset reset
        exact calm byte (List.mem_of_mem_head? head) resets
      have whole := stepped.more known second
      have same : (first ++ second).take consumed = first.take consumed :=
        List.take_append_of_le_length stepped.within
      obtain ⟨kept, waking⟩ := booked_kept next reply (first.take consumed)
      have keptAll := stepped.result.kept.trans kept
      by_cases hangs : reply = .hang
      · have hung : (after.booked reply (first.take consumed)).hung = true :=
          waking.trans ((stepped.result.hung awake).mpr hangs)
        have ends : m.drain first = ([reply], [], after.booked reply (first.take consumed)) :=
          processLoop_ends quiet step (.inr hangs) _
        have endsToo : m.drain (first ++ second) = ([reply], [], after.booked reply (first.take consumed)) := by
          rw [← same]
          exact processLoop_ends quiet whole (.inr hangs) _
        rw [ends, endsToo]
        exact ⟨⟨List.nil_suffix, keptAll, fun _ => rfl⟩, by simp [hung]⟩
      · have goes : ¬ (reply = .reset ∨ reply = .hang) := not_or.mpr ⟨known, hangs⟩
        have awakeStill : (after.booked reply (first.take consumed)).hung = false := by
          rw [waking, Bool.eq_false_iff]
          exact fun hung => hangs ((stepped.result.hung awake).mp hung)
        have fewer : (first.drop consumed).length < size := by
          have positive := stepped.positive
          have within := stepped.within
          rw [List.length_drop]
          omega
        have calmStill : ∀ byte ∈ first.drop consumed,
            ¬ (after.booked reply (first.take consumed)).profile.Resets byte := by
          rw [keptAll.profile]
          exact fun byte member => calm byte (List.mem_of_mem_drop member)
        obtain ⟨drained, onward⟩ := ih _ fewer (keptAll.quiet quiet) awakeStill calmStill rfl
        rw [drain_goes quiet step goes, drain_goes quiet whole goes, same,
          List.drop_append_of_le_length stepped.within, onward]
        refine ⟨⟨drained.ending.trans (List.drop_suffix _ _), keptAll.trans drained.kept, drained.hung⟩, ?_⟩
        dsimp only
        split
        · rfl
        · rfl

theorem feedU64_drain (past : now ≤ m.now) (awake : m.hung = false) (bytes : List UInt8) :
    m.feedU64 now bytes =
      (({ m with input := [] }.drain (m.input ++ bytes)).1,
        { ({ m with input := [] }.drain (m.input ++ bytes)).2.2 with
          input := ({ m with input := [] }.drain (m.input ++ bytes)).2.1 }) := by
  have reached : m.advanceToU64 now = m := if_pos past
  unfold feedU64 feed processWith
  rw [reached, advanceTo_of_le (m := { m with input := [] }) past]
  simp only [awake, Bool.false_eq_true, if_false]
  rfl

theorem feedU64_hung (past : now ≤ m.now) (hung : m.hung = true) (bytes : List UInt8) :
    m.feedU64 now bytes = ([], { m with input := [] }) := by
  have reached : m.advanceToU64 now = m := if_pos past
  unfold feedU64 feed processWith
  rw [reached, advanceTo_of_le (m := { m with input := [] }) past]
  simp only [hung, if_true]

theorem feedU64_append (quiet : m.Quiet) (past : now ≤ m.now) {first : List UInt8}
    (calm : ∀ byte ∈ m.input ++ first, ¬ m.profile.Resets byte) (second : List UInt8) :
    (∃ after input, (m.feedU64 now first).2 = { after with input } ∧ Kept { m with input := [] } after ∧
        input <:+ m.input ++ first) ∧
      m.feedU64 now (first ++ second) =
        ((m.feedU64 now first).1 ++ ((m.feedU64 now first).2.feedU64 now second).1,
          ((m.feedU64 now first).2.feedU64 now second).2) := by
  by_cases hung : m.hung = true
  · rw [feedU64_hung past hung, feedU64_hung past hung, feedU64_hung (m := { m with input := [] }) past hung]
    exact ⟨⟨{ m with input := [] }, [], rfl, .refl _, List.nil_suffix⟩, rfl⟩
  · have awake := Bool.not_eq_true _ ▸ hung
    obtain ⟨drained, onward⟩ := drain_append (m := { m with input := [] }) ⟨quiet.inject, quiet.replyOverride⟩ awake
      calm second
    rw [feedU64_drain past awake, feedU64_drain past awake, ← List.append_assoc, onward]
    generalize { m with input := [] }.drain (m.input ++ first) = part at drained onward
    obtain ⟨replies, rest, after⟩ := part
    dsimp only at drained ⊢
    refine ⟨⟨after, rest, rfl, drained.kept, drained.ending⟩, ?_⟩
    have reached : now ≤ after.now := past.trans_eq drained.kept.now.symm
    by_cases hangs : after.hung = true
    · rw [feedU64_hung (m := { after with input := rest }) reached hangs]
      simp [hangs]
    · have empty : after.input = [] := drained.kept.input
      have same : { after with input := [] } = after := by rw [← empty]
      rw [if_neg hangs, feedU64_drain (m := { after with input := rest }) reached (Bool.not_eq_true _ ▸ hangs)]
      dsimp only
      rw [same]

/-- Pieces that arrive one after another at some time: the replies to all of them, and the model. -/
def feedAll (now : Nat) : List (List UInt8) → EtherDreamModel → List Reply × EtherDreamModel
  | [], m => ([], m)
  | piece :: pieces, m =>
    let (replies, m) := m.feedU64 now piece
    let (more, m) := feedAll now pieces m
    (replies ++ more, m)

theorem feedAll_reached {m : EtherDreamModel} (quiet : m.Quiet) (past : now ≤ m.now) (piece : List UInt8)
    (pieces : List (List UInt8)) (calm : ∀ byte ∈ m.input ++ (piece :: pieces).flatten, ¬ m.profile.Resets byte) :
    m.feedAll now (piece :: pieces) = m.feedU64 now (piece :: pieces).flatten := by
  induction pieces generalizing piece m with
  | nil => simp [feedAll]
  | cons next pieces ih =>
    rw [List.flatten_cons] at calm ⊢
    obtain ⟨⟨after, input, left, kept, ending⟩, whole⟩ := feedU64_append quiet past
      (fun byte member => calm byte (List.mem_append.mpr ((List.mem_append.mp member).imp_right fun here =>
        List.mem_append_left _ here))) (next :: pieces).flatten
    have quietNext : ({ after with input } : EtherDreamModel).Quiet :=
      ⟨kept.inject.trans quiet.inject, kept.replyOverride.trans quiet.replyOverride⟩
    have calmNext : ∀ byte ∈ input ++ (next :: pieces).flatten, ¬ after.profile.Resets byte := by
      rw [kept.profile]
      intro byte member
      refine calm byte ?_
      rw [← List.append_assoc]
      rw [List.mem_append] at member ⊢
      exact member.imp_left (ending.subset ·)
    have rest := ih (m := { after with input }) quietNext (past.trans_eq kept.now.symm) next calmNext
    rw [whole, feedAll]
    simp only [left, rest]

/-- In whatever pieces bytes arrive at some time, the replies, the model and the bytes that stay unread are those that
they come to in one piece, if no byte among them resets the connection. -/
theorem feedAll_flatten {m : EtherDreamModel} (quiet : m.inject = none ∧ m.replyOverride = none) (now : Nat)
    {pieces : List (List UInt8)} (some : pieces ≠ [])
    (calm : ∀ byte ∈ m.input ++ pieces.flatten, ¬ m.profile.Resets byte) :
    m.feedAll now pieces = m.feedU64 now pieces.flatten := by
  obtain ⟨time, reached, lasting⟩ := advanceToU64_lasting now m
  obtain ⟨piece, pieces, rfl⟩ := List.exists_cons_of_ne_nil some
  have there : (m.advanceToU64 now).advanceToU64 now = m.advanceToU64 now := if_pos (advanceToU64_now now m)
  have brought (bytes : List UInt8) : m.feedU64 now bytes = (m.advanceToU64 now).feedU64 now bytes := by
    unfold feedU64
    rw [there]
  have broughtAll : m.feedAll now (piece :: pieces) = (m.advanceToU64 now).feedAll now (piece :: pieces) := by
    rw [feedAll, feedAll, brought]
  rw [brought, broughtAll]
  refine feedAll_reached ⟨lasting.inject.trans quiet.1, lasting.replyOverride.trans quiet.2⟩ (advanceToU64_now now m)
    piece pieces ?_
  rw [lasting.input, lasting.profile]
  exact calm

/-- A rate that is out of range, cut in two, whose first byte is refused and whose other bytes are commands. -/
theorem feedAll_flatten_refused :
    (new .ed1J4cdac).feedAll 0 [[0x70, 0x62, 0x3F], [], [0x3F, 0x3F, 0x3F, 0x3F], [0x3F, 0x64]] =
        (new .ed1J4cdac).feedU64 0 [0x70, 0x62, 0x3F, 0x3F, 0x3F, 0x3F, 0x3F, 0x3F, 0x64] ∧
      ((new .ed1J4cdac).feedU64 0 [0x70, 0x62, 0x3F, 0x3F, 0x3F, 0x3F, 0x3F, 0x3F, 0x64]).1.length = 8 :=
  ⟨feedAll_flatten ⟨rfl, rfl⟩ 0 (by simp) (by decide +kernel), by decide +kernel⟩

/-- Bytes that do not reset the connection, after an unread one that does: in one piece, the ping is lost with the
connection, while after it, it is answered. -/
theorem feedAll_remainder :
    let m := ((new .ed1J4cdac).feedU64 0 [0x62, 0x01, 0x01]).2
    (m.inject = none ∧ m.replyOverride = none) ∧ m.input = [0x62, 0x01, 0x01] ∧
      (∀ byte ∈ [[0xFF, 0xFF, 0xFF, 0xFF], [0x3F]].flatten, ¬ m.profile.Resets byte) ∧
      m.feedAll 0 [[0xFF, 0xFF, 0xFF, 0xFF], [0x3F]] ≠ m.feedU64 0 [[0xFF, 0xFF, 0xFF, 0xFF], [0x3F]].flatten ∧
      (m.feedAll 0 [[0xFF, 0xFF, 0xFF, 0xFF], [0x3F]]).1.length = 3 ∧
      (m.feedU64 0 [[0xFF, 0xFF, 0xFF, 0xFF], [0x3F]].flatten).1.length = 2 := by
  decide +kernel

end EtherDreamModel

end LaserDac.EtherDream
