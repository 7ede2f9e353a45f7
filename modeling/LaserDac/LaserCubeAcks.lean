import LaserDac.LaserCubeMoves
import LaserDac.SequenceSlots

/-!
What the LaserCube worker knows of its packets in flight. Packets carry sequence numbers of one byte; the ledger of a
run numbers them without bound.
-/

namespace LaserDac.LaserCube

open Runs Runs.Run SequenceSlots

/-- The packets of a run, numbered from its start. -/
structure Ledger where
  /-- The samples of each packet sent. -/
  sent : List Nat
  /-- The packet of the last data ACK that was applied. -/
  last : Option Nat
  /-- The packets an ACK has come for, applied or not. -/
  acknowledged : List Nat

namespace Ledger

/-- The first packet that is newer than the last ACK applied. -/
def firstNew (ledger : Ledger) : Nat :=
  match ledger.last with
  | some last => last + 1
  | none => 0

def empty : Ledger := { sent := [], last := none, acknowledged := [] }

def send (samples : Nat) (ledger : Ledger) : Ledger := { ledger with sent := ledger.sent ++ [samples] }

def acknowledge (index : Nat) (ledger : Ledger) : Ledger :=
  { ledger with
    last := if ledger.firstNew ≤ index then some index else ledger.last
    acknowledged := index :: ledger.acknowledged }

/-- An ACK of a packet that was sent, not too long before the last one applied. -/
def Recent (index : Nat) (ledger : Ledger) : Prop :=
  index < ledger.sent.length ∧ ledger.firstNew ≤ index + 129

theorem firstNew_acknowledge {index : Nat} {ledger : Ledger} (new : ledger.firstNew ≤ index) :
    (ledger.acknowledge index).firstNew = index + 1 := by
  rw [acknowledge, if_pos new, firstNew]

end Ledger

/-- The counts are those of the newer packets. -/
structure Booked (ledger : Ledger) (t : Transport) : Prop where
  sequence : t.worker.packetSequence = UInt8.ofNat ledger.sent.length
  last : t.state.lastDataAckSequence = ledger.last.map UInt8.ofNat
  reached : ledger.firstNew ≤ ledger.sent.length
  window : ledger.sent.length ≤ ledger.firstNew + 127
  slots : Holds ledger.firstNew ledger.sent t.worker.packetSampleCounts
  passed : ∀ index ∈ ledger.acknowledged, index < ledger.firstNew

/-! ### One acknowledgement -/

theorem freeSlots_eq (first : UInt8) (count : Nat) (small : count ≤ 256) (counts : UInt8 → Nat) (slot : UInt8) :
    Transport.freeSlots first count counts slot = if (slot - first).toNat < count then 0 else counts slot := by
  induction count generalizing first counts with
  | zero => rfl
  | succ count ih =>
    rw [Transport.freeSlots, ih (first + 1) (by omega)]
    by_cases here : slot = first
    · subst here
      simp
    · have apart : (slot - first).toNat = (slot - (first + 1)).toNat + 1 := by
        have differ : slot.toNat ≠ first.toNat := fun same => here (UInt8.toNat_inj.mp same)
        have := slot.toNat_lt
        have := first.toNat_lt
        rw [toNat_sub, toNat_sub, UInt8.toNat_add]
        simp only [UInt8.reduceToNat]
        omega
      rw [apart, Function.update_of_ne here]
      simp only [Nat.add_lt_add_iff_right]

theorem applyCommandAck_eq (now : Nat) (freeSpace : UInt16) (t : Transport) :
    t.applyCommandAck now freeSpace = t.mapState fun s =>
      { s with freeEstimate := min (freeSpace.toNat - t.inFlightSamples) s.bufferTotal, lastEstimate := now } := rfl

theorem applyDataAck_rejected {t : Transport} {last sequence : UInt8}
    (known : t.state.lastDataAckSequence = some last) (old : Transport.seqNewer last sequence = false) (now : Nat)
    (freeSpace : UInt16) :
    t.applyDataAck now sequence freeSpace = t.mapWorker fun w =>
      { w with packetSampleCounts := Function.update w.packetSampleCounts sequence 0 } := by
  unfold Transport.applyDataAck
  rw [known]
  simp [old]

/-- A newer one frees the slots from where the last left off, and is then a report like one without a packet. -/
theorem applyDataAck_applied {t : Transport} {first sequence : UInt8}
    (starts : t.state.lastDataAckSequence = none ∧ first = 0 ∨
      ∃ last, t.state.lastDataAckSequence = some last ∧ Transport.seqNewer last sequence = true ∧ first = last + 1)
    (now : Nat) (freeSpace : UInt16) :
    t.applyDataAck now sequence freeSpace =
      ((t.mapWorker fun w => { w with
        packetSampleCounts := Transport.freeSlots first (sequence - first).toNat
          (Function.update w.packetSampleCounts sequence 0) }).applyCommandAck now freeSpace).mapState fun s =>
            { s with lastDataAckSequence := some sequence } := by
  unfold Transport.applyDataAck
  rcases starts with ⟨unknown, rfl⟩ | ⟨last, known, newer, rfl⟩
  · rw [unknown]
    rfl
  · rw [known]
    simp only [newer, if_true]
    rfl

section

variable {ledger : Ledger} {t : Transport} {index : Nat}

/-- What the counts come to. -/
theorem Booked.inFlight (booked : Booked ledger t) : t.inFlightSamples = (ledger.sent.drop ledger.firstNew).sum :=
  booked.slots.sum (by have := booked.window; omega)

theorem freed_slots (counts : UInt8 → Nat) {first : Nat} (low : first ≤ index) (high : index < first + 256)
    (slot : UInt8) :
    Transport.freeSlots (UInt8.ofNat first) (UInt8.ofNat index - UInt8.ofNat first).toNat
      (Function.update counts (UInt8.ofNat index) 0) slot =
      if position first slot < index + 1 then 0 else counts slot := by
  have count : (UInt8.ofNat index - UInt8.ofNat first).toNat = index - first := by
    have at_ := position_ofNat low high
    unfold position at at_
    omega
  have place : position first slot = first + (slot - UInt8.ofNat first).toNat := rfl
  rw [freeSlots_eq _ _ (by omega), count]
  by_cases here : slot = UInt8.ofNat index
  · rw [here, Function.update_self, position_ofNat low high, if_pos (Nat.lt_succ_self _), ite_self]
  · have elsewhere : position first slot ≠ index := fun same => here (same ▸ (ofNat_position first slot).symm)
    rw [Function.update_of_ne here]
    by_cases earlier : position first slot < index
    · rw [if_pos (by omega), if_pos (by omega)]
    · rw [if_neg (by omega), if_neg (by omega)]

section

variable (booked : Booked ledger t)

include booked

theorem Booked.seqNewer_iff {last : Nat} (applied : ledger.last = some last) (recent : ledger.Recent index) :
    Transport.seqNewer (UInt8.ofNat last) (UInt8.ofNat index) = true ↔ ledger.firstNew ≤ index := by
  have window := booked.window
  obtain ⟨known, near⟩ := recent
  have first : ledger.firstNew = last + 1 := by rw [Ledger.firstNew, applied]
  rw [first] at window near ⊢
  simp only [Transport.seqNewer, toNat_sub, toNat_ofNat, Bool.and_eq_true, decide_eq_true_eq]
  omega

theorem Booked.stale (recent : ledger.Recent index) (old : index < ledger.firstNew) (now : Nat) (freeSpace : UInt16) :
    t.applyDataAck now (UInt8.ofNat index) freeSpace = t := by
  have window := booked.window
  have empty : t.worker.packetSampleCounts (UInt8.ofNat index) = 0 :=
    booked.slots.stale old (by have := recent.2; omega) booked.reached
  have kept : Function.update t.worker.packetSampleCounts (UInt8.ofNat index) 0 = t.worker.packetSampleCounts := by
    rw [← empty, Function.update_eq_self]
  cases applied : ledger.last with
  | none =>
    rw [Ledger.firstNew, applied] at old
    exact absurd old (Nat.not_lt_zero _)
  | some last =>
    have rejected : Transport.seqNewer (UInt8.ofNat last) (UInt8.ofNat index) = false := by
      rw [← Bool.not_eq_true, booked.seqNewer_iff applied recent]
      omega
    have known : t.state.lastDataAckSequence = some (UInt8.ofNat last) := by rw [booked.last, applied]; rfl
    rw [applyDataAck_rejected known rejected, Transport.mapWorker, kept]

theorem Booked.applied (recent : ledger.Recent index) (new : ledger.firstNew ≤ index) (now : Nat) (freeSpace : UInt16) :
    Booked (ledger.acknowledge index) (t.applyDataAck now (UInt8.ofNat index) freeSpace) ∧
      (t.applyDataAck now (UInt8.ofNat index) freeSpace).state.freeEstimate =
        min (freeSpace.toNat - (ledger.sent.drop (index + 1)).sum) t.state.bufferTotal ∧
      (t.applyDataAck now (UInt8.ofNat index) freeSpace).state.bufferTotal = t.state.bufferTotal := by
  have window := booked.window
  have starts : t.state.lastDataAckSequence = none ∧ UInt8.ofNat ledger.firstNew = 0 ∨
      ∃ last, t.state.lastDataAckSequence = some last ∧ Transport.seqNewer last (UInt8.ofNat index) = true ∧
        UInt8.ofNat ledger.firstNew = last + 1 := by
    rw [booked.last]
    cases applied : ledger.last with
    | none =>
      left
      rw [Ledger.firstNew, applied]
      exact ⟨rfl, rfl⟩
    | some last =>
      right
      refine ⟨UInt8.ofNat last, rfl, (booked.seqNewer_iff applied recent).mpr new, ?_⟩
      rw [Ledger.firstNew, applied]
      exact UInt8.ofNat_add last 1
  have freed := booked.slots.release (Nat.le_succ_of_le new) recent.1 (by omega)
    (freed_slots t.worker.packetSampleCounts new (by have := recent.1; omega))
  have first := Ledger.firstNew_acknowledge new
  have left : (t.mapWorker fun w => { w with
      packetSampleCounts := Transport.freeSlots (UInt8.ofNat ledger.firstNew)
        (UInt8.ofNat index - UInt8.ofNat ledger.firstNew).toNat
        (Function.update w.packetSampleCounts (UInt8.ofNat index) 0) }).inFlightSamples = _ := freed.sum (by omega)
  rw [applyDataAck_applied starts, applyCommandAck_eq, left]
  refine ⟨⟨booked.sequence, ?_, ?_, ?_, ?_, ?_⟩, rfl, rfl⟩
  · rw [Ledger.acknowledge, if_pos new]
    rfl
  · rw [first]
    exact recent.1
  · rw [first]
    show ledger.sent.length ≤ index + 1 + 127
    omega
  · rw [first]
    exact freed
  · rw [first]
    intro other among
    rcases List.mem_cons.mp among with rfl | earlier
    · exact Nat.lt_succ_self _
    · exact Nat.lt_succ_of_lt (Nat.lt_of_lt_of_le (booked.passed other earlier) new)

theorem Booked.late (old : index < ledger.firstNew) : Booked (ledger.acknowledge index) t := by
  have same : (ledger.acknowledge index).last = ledger.last := if_neg (Nat.not_le.mpr old)
  have first : (ledger.acknowledge index).firstNew = ledger.firstNew := by rw [Ledger.firstNew, same, Ledger.firstNew]
  refine ⟨booked.sequence, same ▸ booked.last, first ▸ booked.reached, first ▸ booked.window, first ▸ booked.slots, ?_⟩
  rw [first]
  intro other among
  rcases List.mem_cons.mp among with rfl | earlier
  · exact old
  · exact booked.passed other earlier

/-- A packet takes the next slot. -/
theorem Booked.send (window : ledger.sent.length < ledger.firstNew + 127) (now : Nat) (packet rest : List Sample) :
    Booked (ledger.send packet.length) (t.packetSent now packet rest).2 := by
  have reached := booked.reached
  refine ⟨?_, booked.last, ?_, ?_, ?_, booked.passed⟩
  · show t.worker.packetSequence + 1 = UInt8.ofNat (ledger.sent ++ [packet.length]).length
    rw [booked.sequence, List.length_append]
    exact (UInt8.ofNat_add _ 1).symm
  · show ledger.firstNew ≤ (ledger.sent ++ [packet.length]).length
    rw [List.length_append]
    omega
  · show (ledger.sent ++ [packet.length]).length ≤ ledger.firstNew + 127
    rw [List.length_append]
    exact window
  · show Holds ledger.firstNew (ledger.sent ++ [packet.length])
      (Function.update t.worker.packetSampleCounts t.worker.packetSequence packet.length)
    rw [booked.sequence]
    exact booked.slots.push reached (by omega) packet.length

theorem Booked.kept {t' : Transport} (counts : t'.worker.packetSampleCounts = t.worker.packetSampleCounts)
    (sequence : t'.worker.packetSequence = t.worker.packetSequence)
    (last : t'.state.lastDataAckSequence = t.state.lastDataAckSequence) : Booked ledger t' :=
  ⟨sequence.trans booked.sequence, last.trans booked.last, booked.reached, booked.window, counts ▸ booked.slots,
    booked.passed⟩

end

end

/-- The states of runs within the window, with the ledger of the run: never more than 127 packets are newer than the
last ACK applied, and an ACK comes for a packet that is not more than 128 older than that one's. -/
inductive Books : Transport → Ledger → Prop
  | start (status : Status) (profile : ConnectionProfile) (now : Nat) : Books (.start status profile now) .empty
  | sent {t : Transport} {ledger : Ledger} (books : Books t ledger) (now : Nat) (packet rest : List Sample)
    (window : ledger.sent.length < ledger.firstNew + 127) :
    Books (t.packetSent now packet rest).2 (ledger.send packet.length)
  | data {t : Transport} {ledger : Ledger} (books : Books t ledger) (now index : Nat) (freeSpace : UInt16)
    (recent : ledger.Recent index) :
    Books (t.applyDataAck now (UInt8.ofNat index) freeSpace) (ledger.acknowledge index)
  | kept {t t' : Transport} {ledger : Ledger} (books : Books t ledger)
    (counts : t'.worker.packetSampleCounts = t.worker.packetSampleCounts)
    (sequence : t'.worker.packetSequence = t.worker.packetSequence)
    (last : t'.state.lastDataAckSequence = t.state.lastDataAckSequence) : Books t' ledger

variable {ledger : Ledger}

theorem Books.booked {t : Transport} (books : Books t ledger) : Booked ledger t := by
  induction books with
  | start => exact ⟨rfl, rfl, Nat.zero_le _, Nat.zero_le _, fun _ => rfl, fun _ among => absurd among List.not_mem_nil⟩
  | sent _ now packet rest window ih => exact ih.send window now packet rest
  | data _ now index freeSpace recent ih =>
    rcases Nat.lt_or_ge index _ with old | new
    · rw [ih.stale recent old]
      exact ih.late old
    · exact (ih.applied recent new now freeSpace).1
  | kept _ counts sequence last ih => exact ih.kept counts sequence last

theorem Books.move {env : Env} {now : Nat} {t t' : Transport} (books : Books t ledger) (move : Move env now t t')
    (window : ledger.sent.length < ledger.firstNew + 127)
    (recent : ∀ sequence freeSpace, env.receiveData t.tick = some (some (sequence, freeSpace)) →
      ∃ index, ledger.Recent index ∧ sequence = UInt8.ofNat index) : ∃ ledger', Books t' ledger' := by
  cases move with
  | idle same => exact ⟨_, books.kept same.counts same.sequence same.lastDataAckSequence⟩
  | rate pointRate =>
    rcases setRate_cases env pointRate t with same | ⟨rate, log, changed⟩
    · exact ⟨_, books.kept same.counts same.sequence same.lastDataAckSequence⟩
    · rw [changed]
      exact ⟨_, books.kept rfl rfl rfl⟩
  | decay =>
    refine ⟨_, books.kept rfl rfl ?_⟩
    show (t.state.decayFreeEstimate now).lastDataAckSequence = _
    unfold TransportState.decayFreeEstimate
    dsimp only
    split <;> rfl
  | sent packet rest => exact ⟨_, books.sent now packet rest window⟩
  | message message =>
    refine ⟨_, books.kept ?_ ?_ ?_⟩ <;>
    · cases message with
      | fullInfo =>
        unfold Transport.applyMessage Transport.reconcileOutputEnable
        dsimp only
        split
        · rfl
        · rw [sendRepeated_eq]
          rfl
      | ack =>
        unfold Transport.applyMessage Transport.applyCommandAck
        generalize t.inFlightSamples = inFlight
        rfl
      | response => rfl
  | data sequence freeSpace received =>
    obtain ⟨index, near, rfl⟩ := recent sequence freeSpace received
    exact ⟨_, books.data now index freeSpace near⟩

/-- The bookkeeping of data ACKs, at every moment of every run within the window: slots are occupied by packets in
flight only, an applied ACK discounts what was sent after its packet, and one that is not newer changes nothing. -/
theorem ack_bookkeeping {t : Transport} {ledger : Ledger} (books : Books t ledger) :
    (∀ slot, t.worker.packetSampleCounts slot ≠ 0 → ∃ index, slot = UInt8.ofNat index ∧ index < ledger.sent.length ∧
      (∀ last, ledger.last = some last → last < index) ∧ index ∉ ledger.acknowledged) ∧
    ∀ (now index : Nat) (freeSpace : UInt16), ledger.Recent index →
      let after := t.applyDataAck now (UInt8.ofNat index) freeSpace
      ((∀ last, ledger.last = some last → last < index) →
        after.state.freeEstimate = min t.state.bufferTotal (freeSpace.toNat - (ledger.sent.drop (index + 1)).sum) ∧
        after.state.bufferTotal = t.state.bufferTotal) ∧
      (¬ (∀ last, ledger.last = some last → last < index) →
        after.state.freeEstimate = t.state.freeEstimate ∧ after.state.lastEstimate = t.state.lastEstimate ∧
        after.state.lastDataAckSequence = t.state.lastDataAckSequence) := by
  have booked := books.booked
  have newer (index : Nat) : (∀ last, ledger.last = some last → last < index) ↔ ledger.firstNew ≤ index := by
    unfold Ledger.firstNew
    cases ledger.last with
    | none => simp
    | some last => simp
  constructor
  · intro slot occupied
    rw [booked.slots slot] at occupied
    have inside : position ledger.firstNew slot < ledger.sent.length := by
      by_contra outside
      exact occupied (List.getD_eq_default _ _ (Nat.le_of_not_lt outside))
    have low := le_position ledger.firstNew slot
    refine ⟨_, (ofNat_position ledger.firstNew slot).symm, inside, (newer _).mpr low, fun among => ?_⟩
    exact absurd (booked.passed _ among) (Nat.not_lt.mpr low)
  · intro now index freeSpace recent
    refine ⟨fun new => ?_, fun old => ?_⟩
    · obtain ⟨-, free, total⟩ := booked.applied recent ((newer index).mp new) now freeSpace
      exact ⟨free.trans (min_comm _ _), total⟩
    · rw [newer, Nat.not_le] at old
      rw [booked.stale recent old]
      exact ⟨rfl, rfl, rfl⟩

/-- A worker for a device of 300 points that has sent packets of these sizes. -/
def Transport.sending : List Nat → Transport
  | [] => .small
  | size :: sizes => ((sending sizes).packetSent 0 (List.replicate size { generation := 0, point := ⟨0, 0, 0, 0, 0⟩ }) []).2

/-- Its ledger. -/
def Ledger.sending : List Nat → Ledger
  | [] => .empty
  | size :: sizes => (sending sizes).send size

theorem sending_books (sizes : List Nat) (few : sizes.length ≤ 127) :
    Books (.sending sizes) (.sending sizes) ∧ (Ledger.sending sizes).sent.length = sizes.length ∧
      (Ledger.sending sizes).firstNew = 0 := by
  induction sizes with
  | nil => exact ⟨.start _ _ _, rfl, rfl⟩
  | cons size sizes ih =>
    rw [List.length_cons] at few
    obtain ⟨books, length, first⟩ := ih (by omega)
    have sent := books.sent 0 (List.replicate size { generation := 0, point := ⟨0, 0, 0, 0, 0⟩ }) [] (by omega)
    rw [List.length_replicate] at sent
    refine ⟨sent, ?_, first⟩
    show ((Ledger.sending sizes).sent ++ [size]).length = sizes.length + 1
    rw [List.length_append, length]
    rfl

/-- Packets of 80 and 40 points: the ACK of the first one with 220 points free leaves 180. -/
theorem ack_bookkeeping_two_packets :
    ((Transport.sending [40, 80]).applyDataAck 0 (UInt8.ofNat 0) 220).state.freeEstimate = 180 := by
  have books := (sending_books [40, 80] (by decide)).1
  have applied := ((ack_bookkeeping books).2 0 0 220 ⟨by decide, by decide⟩).1 fun _ known => by cases known
  rw [applied.1]
  decide +kernel

/-- What the device reports its free space in. -/
inductive Report
  /-- A data ACK of the packet with this number. -/
  | data (index : Nat) (freeSpace : UInt16)
  | command (freeSpace : UInt16)
  | fullInfo (status : Status)

/-- The samples of the packets newer than the last ACK applied that were not acknowledged themselves. -/
def Ledger.outstanding (ledger : Ledger) : Nat :=
  ((((ledger.sent.drop ledger.firstNew).zipIdx ledger.firstNew).filter fun packet =>
    packet.2 ∉ ledger.acknowledged).map Prod.fst).sum

theorem Booked.outstanding {t : Transport} (booked : Booked ledger t) :
    ledger.outstanding = (ledger.sent.drop ledger.firstNew).sum := by
  have all : ((ledger.sent.drop ledger.firstNew).zipIdx ledger.firstNew).filter
      (fun packet => packet.2 ∉ ledger.acknowledged) = (ledger.sent.drop ledger.firstNew).zipIdx ledger.firstNew := by
    refine List.filter_eq_self.mpr fun packet among => decide_eq_true fun acknowledged => ?_
    have late := List.le_snd_of_mem_zipIdx among
    exact absurd (booked.passed _ acknowledged) (Nat.not_lt.mpr late)
  rw [Ledger.outstanding, all, List.zipIdx_map_fst]

namespace Report

/-- The room that a report states. -/
def freeSpace : Report → Nat
  | data _ freeSpace => freeSpace.toNat
  | command freeSpace => freeSpace.toNat
  | fullInfo status => status.bufferFree.toNat

/-- What the worker does with a report. -/
def apply (env : Env) (now : Nat) (t : Transport) : Report → Transport
  | data index freeSpace => t.applyDataAck now (UInt8.ofNat index) freeSpace
  | command freeSpace => t.applyMessage env now (.ack freeSpace)
  | fullInfo status => t.applyMessage env now (.fullInfo status)

/-- A data ACK that is not newer than the last one is rejected. -/
def Applied (ledger : Ledger) : Report → Prop
  | data index _ => ledger.firstNew ≤ index
  | _ => True

/-- The packets that a report acknowledges. -/
def enter (ledger : Ledger) : Report → Ledger
  | data index _ => ledger.acknowledge index
  | _ => ledger

/-- A data ACK comes within the window, and a full-info report only while nothing is in flight. -/
def Settled (ledger : Ledger) : Report → Prop
  | data index _ => ledger.Recent index
  | command _ => True
  | fullInfo _ => ledger.outstanding = 0

end Report

/-- After a report the estimate leaves room for what is in flight, if the window is kept and full-info reports come
while nothing is. -/
theorem reports_discounted (env : Env) (now : Nat) {t : Transport} {ledger : Ledger} (books : Books t ledger)
    (report : Report) (settled : report.Settled ledger) (applied : report.Applied ledger) :
    (report.apply env now t).state.freeEstimate ≤ report.freeSpace - (report.enter ledger).outstanding ∧
      (report.apply env now t).state.freeEstimate ≤ (report.apply env now t).state.bufferTotal := by
  have booked := books.booked
  cases report with
  | data index freeSpace =>
    obtain ⟨after, free, total⟩ := booked.applied settled applied now freeSpace
    have left := after.outstanding
    rw [Ledger.firstNew_acknowledge applied] at left
    show (t.applyDataAck now (UInt8.ofNat index) freeSpace).state.freeEstimate ≤
      freeSpace.toNat - (ledger.acknowledge index).outstanding ∧
        (t.applyDataAck now (UInt8.ofNat index) freeSpace).state.freeEstimate ≤
          (t.applyDataAck now (UInt8.ofNat index) freeSpace).state.bufferTotal
    rw [free, total, left]
    exact ⟨Nat.min_le_left _ _, Nat.min_le_right _ _⟩
  | command freeSpace =>
    show (t.applyCommandAck now freeSpace).state.freeEstimate ≤ freeSpace.toNat - ledger.outstanding ∧
      (t.applyCommandAck now freeSpace).state.freeEstimate ≤ (t.applyCommandAck now freeSpace).state.bufferTotal
    rw [applyCommandAck_eq, booked.inFlight, booked.outstanding]
    exact ⟨Nat.min_le_left _ _, Nat.min_le_right _ _⟩
  | fullInfo status =>
    have nothing : ledger.outstanding = 0 := settled
    have reported : (t.applyMessage env now (.fullInfo status)).state = t.state.applyStatus status now := by
      unfold Transport.applyMessage Transport.reconcileOutputEnable
      dsimp only
      split
      · rfl
      · rw [sendRepeated_eq]
        rfl
    show (t.applyMessage env now (.fullInfo status)).state.freeEstimate ≤ status.bufferFree.toNat - ledger.outstanding ∧
      (t.applyMessage env now (.fullInfo status)).state.freeEstimate ≤
        (t.applyMessage env now (.fullInfo status)).state.bufferTotal
    rw [reported, nothing]
    exact ⟨Nat.min_le_left _ _, Nat.min_le_right _ _⟩

/-- A command ACK while 40 points are in flight. -/
theorem reports_discounted_command :
    ((Report.command 220).apply (.quiet 0) 0 (.sending [40])).state.freeEstimate ≤ 180 := by
  have books := (sending_books [40] (by decide)).1
  have discounted := (reports_discounted (.quiet 0) 0 books (.command 220) trivial trivial).1
  exact discounted.trans (by decide +kernel)

/-- A packet of 80 points is on its way to an empty device when it reports that all its 300 points are free. -/
theorem status_not_discounted :
    Books (.sending [80]) (.sending [80]) ∧ (Ledger.sending [80]).outstanding = 80 ∧
      ¬ ((Report.fullInfo (.empty 300)).apply (.quiet 0) 0 (.sending [80])).state.freeEstimate ≤
        (Report.fullInfo (.empty 300)).freeSpace - ((Report.fullInfo (.empty 300)).enter (.sending [80])).outstanding := by
  refine ⟨(sending_books [80] (by decide)).1, by decide +kernel, by decide +kernel⟩

end LaserDac.LaserCube
