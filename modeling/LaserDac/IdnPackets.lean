import LaserDac.IdnStream
import LaserDac.Runs

/-!
What the steps of a write do: the state before a frame is sent, the first datagram of a wave, each further one, and the
fragments of a frame. Whatever these keep, a write keeps (`Keeps`), and so does every sequence of calls.
-/

namespace LaserDac.Idn

open LaserDac.Attempts LaserDac.Attempts.Attempt LaserDac.Runs

def Event.isAnchor : Event → Bool
  | .anchored _ _ _ => true
  | _ => false

theorem always_anchors {holds : Event → List Event → Prop}
    (free : ∀ found reason anchorUs earlier, holds (.anchored found reason anchorUs) earlier) {anchors log : List Event}
    (isAnchors : ∀ event ∈ anchors, event.isAnchor = true) (always : Always holds log) :
    Always holds (anchors ++ log) := by
  induction anchors with
  | nil => exact always
  | cons event anchors ih =>
    obtain ⟨isAnchor, others⟩ := List.forall_mem_cons.mp isAnchors
    cases event with
    | anchored found reason anchorUs => exact ⟨free found reason anchorUs _, ih others⟩
    | _ => cases isAnchor

/-- The datagrams that went out, each with the stream as it was then, the newest first. -/
def outgoing : List Event → List (Stream × Datagram)
  | [] => []
  | .sent found datagram :: earlier => (found, datagram) :: outgoing earlier
  | _ :: earlier => outgoing earlier

theorem outgoing_anchors {anchors : List Event} (isAnchors : ∀ event ∈ anchors, event.isAnchor = true)
    (log : List Event) : outgoing (anchors ++ log) = outgoing log := by
  induction anchors with
  | nil => rfl
  | cons event anchors ih =>
    obtain ⟨isAnchor, others⟩ := List.forall_mem_cons.mp isAnchors
    cases event with
    | anchored => exact ih others
    | _ => cases isAnchor

/-- The bookkeeping of a config that was written, if one was. -/
def Stream.announcing (needsConfig : Bool) (now : Nat) (stream : Stream) : Stream :=
  { stream with lastConfigTime := if needsConfig then some now else stream.lastConfigTime
                previousFormat := if needsConfig then some stream.pointFormat else stream.previousFormat }

def Stream.withAnchor (anchorUs points pps : Nat) (stream : Stream) : Stream :=
  { stream with timestampAnchorUs := anchorUs, pointsSinceAnchor := points, anchorPps := pps }

theorem Stream.announcing_eq (needsConfig : Bool) (now : Nat) (stream : Stream) :
    (if needsConfig then stream.writeConfig now else stream) = stream.announcing needsConfig now := by
  cases needsConfig
  all_goals rfl

variable {sender : Sender}

namespace Sender

variable (network : Network) {P : Type} [Point P]

def sent (datagram : Datagram) (sender : Sender) : Sender :=
  { sender with sends := sender.sends + 1, log := .sent sender.stream datagram :: sender.log }

def unsent (datagram : Datagram) (sender : Sender) : Sender :=
  { sender with sends := sender.sends + 1, log := .failed sender.stream datagram :: sender.log }

theorem send_bind {α : Type} (datagram : Datagram) (next : Unit → Sending α) (sender : Sender) :
    (send network datagram >>= next) sender =
      if network.delivers sender.sends then next () (sender.sent datagram)
      else (.error .io, sender.unsent datagram) := by
  have result : send network datagram sender = if network.delivers sender.sends then (.ok (), sender.sent datagram)
      else (.error .io, sender.unsent datagram) := rfl
  split
  · next delivered =>
    rw [if_pos delivered] at result
    exact bind_ok result
  · next lost =>
    rw [if_neg lost] at result
    exact bind_error result

/-- The sender when the first datagram of a wave is handed over. -/
def opening (sender : Sender) : Sender :=
  let now := network.clock sender.reads
  { sender with stream := sender.stream.nextSequence.announcing (sender.stream.needsConfig now) now
                reads := sender.reads + 1 }

def openingPacket (points : List P) (command : UInt8) (sender : Sender) : Datagram :=
  sender.stream.firstPacket (sender.stream.needsConfig (network.clock sender.reads)) command points

/-- The sender after the first datagram of a wave has gone out. -/
def opened (points : List P) (command : UInt8) (sender : Sender) : Sender :=
  let now := network.clock sender.reads
  let pointsToSend := sender.stream.firstShare (sender.stream.needsConfig now) points
  ((sender.opening network).sent (sender.openingPacket network points command)).withStream fun stream =>
    (stream.advance now pointsToSend).countFrame

variable (points : List P)

theorem buildAndSendFirstPacket_eq (command : UInt8) (sender : Sender) :
    buildAndSendFirstPacket network points command sender =
      if network.delivers sender.sends then
        (.ok (sender.stream.sequence,
          sender.stream.firstShare (sender.stream.needsConfig (network.clock sender.reads)) points),
          sender.opened network points command)
      else (.error .io, (sender.opening network).unsent (sender.openingPacket network points command)) := by
  unfold buildAndSendFirstPacket
  rw [bind_ok (rfl : now network sender = _), bind_state]
  simp only [Stream.announcing_eq]
  rw [bind_update, bind_update, send_bind]
  rfl

/-- The sender when a further datagram of a wave is handed over. -/
def following (sender : Sender) : Sender :=
  { sender with stream := sender.stream.nextSequence, reads := sender.reads + 1 }

/-- The sender after a further datagram of a wave has gone out. -/
def followed (points : List P) (sender : Sender) : Sender :=
  (sender.following.sent (sender.stream.continuationPacket points)).withStream
    (Stream.advance (network.clock sender.reads) (Stream.continuationShare points))

theorem sendContinuation_eq (sender : Sender) :
    sendContinuation network points sender =
      if network.delivers sender.sends then (.ok (Stream.continuationShare points), sender.followed network points)
      else (.error .io, sender.following.unsent (sender.stream.continuationPacket points)) := by
  unfold sendContinuation
  rw [bind_state, bind_update, bind_ok (rfl : now network _ = _), send_bind]
  rfl

def fragmenting (index : Nat) (needsConfig : Bool) (now : Nat) (sender : Sender) : Sender :=
  { sender with stream := sender.stream.nextSequence.announcing (needsConfig && index = 0) now }

theorem sendFrameFragment_eq (index numFragments : Nat) (needsConfig : Bool)
    (tsStart frameDurationUs now : Nat) (firstCommand : UInt8) (sender : Sender) :
    sendFrameFragment network points index numFragments needsConfig tsStart frameDurationUs now firstCommand sender =
      let datagram := sender.stream.fragment points index numFragments needsConfig tsStart frameDurationUs firstCommand
      if network.delivers sender.sends then (.ok (), (sender.fragmenting index needsConfig now).sent datagram)
      else (.error .io, (sender.fragmenting index needsConfig now).unsent datagram) := by
  unfold sendFrameFragment
  simp only [Stream.announcing_eq]
  rw [bind_state, bind_update, bind_update]
  rfl

/-- The sender after it has waited for an acknowledgement. -/
def awaited (left : Nat) (received : Bool) (sender : Sender) : Sender :=
  { sender with waits := sender.waits + 1, log := .ackAwaited left received :: sender.log }

theorem recvAcknowledge_eq (left : Nat) (sender : Sender) :
    recvAcknowledge network left sender =
      if network.acknowledges sender.waits then (.ok (), sender.awaited left true)
      else (.error .response, sender.awaited left false) := by
  unfold recvAcknowledge
  cases network.acknowledges sender.waits
  all_goals rfl

theorem needsConfig_false {stream : Stream} {now : Nat} (needless : stream.needsConfig now = false) :
    stream.frameCount ≠ 0 ∧ stream.previousFormat = some stream.pointFormat := by
  have none_ := of_decide_eq_false needless
  push Not at none_
  exact ⟨none_.1, none_.2.1⟩

theorem announcing_previousFormat (stream : Stream) (now : Nat) :
    (stream.nextSequence.announcing (stream.needsConfig now) now).previousFormat = some stream.pointFormat := by
  cases needs : stream.needsConfig now with
  | true => rfl
  | false => exact (needsConfig_false needs).2

/-- A wave has begun: its format is announced and the frame is counted. -/
structure Primed (sender : Sender) : Prop where
  wave : sender.stream.frameMode = .wave
  counted : sender.stream.frameCount ≠ 0
  announced : sender.stream.previousFormat = some sender.stream.pointFormat

theorem opened_primed (command : UInt8) (wave : sender.stream.frameMode = .wave) :
    Primed (sender.opened network points command) :=
  ⟨wave, Nat.succ_ne_zero _, announcing_previousFormat sender.stream _⟩

theorem followed_primed (primed : Primed sender) :
    Primed (sender.followed network points) := ⟨primed.wave, primed.counted, primed.announced⟩

/-- Only anchors have moved. -/
structure Reanchored (before after : Sender) : Prop where
  stream : ∃ anchorUs points pps, after.stream = before.stream.withAnchor anchorUs points pps
  sends : after.sends = before.sends
  log : ∃ anchors : List Event, (∀ event ∈ anchors, event.isAnchor = true) ∧ after.log = anchors ++ before.log

theorem Reanchored.refl (sender : Sender) : Reanchored sender sender := ⟨⟨_, _, _, rfl⟩, rfl, [], by simp, rfl⟩

theorem Reanchored.trans {first second third : Sender} (before : Reanchored first second)
    (onward : Reanchored second third) : Reanchored first third := by
  obtain ⟨⟨_, _, _, stream⟩, sends, anchors, isAnchors, log⟩ := before
  obtain ⟨⟨a, n, p, stream'⟩, sends', anchors', isAnchors', log'⟩ := onward
  refine ⟨⟨a, n, p, by rw [stream', stream]; rfl⟩, sends'.trans sends, anchors' ++ anchors, ?_, ?_⟩
  · intro event member
    exact (List.mem_append.mp member).elim (isAnchors' event) (isAnchors event)
  · rw [log', log, List.append_assoc]

theorem anchor_reanchored (reason : AnchorReason) (anchorUs : Nat) (sender : Sender) :
    Reanchored sender (sender.anchor reason anchorUs) :=
  ⟨⟨_, _, _, rfl⟩, rfl, [.anchored sender.stream reason anchorUs], by simp [Event.isAnchor], rfl⟩

theorem read_reanchored (sender : Sender) : Reanchored sender { sender with reads := sender.reads + 1 } :=
  ⟨⟨_, _, _, rfl⟩, rfl, [], by simp, rfl⟩

theorem anchorAfterGap_reanchored (elapsedUs : Nat) (sender : Sender) :
    Reanchored sender (sender.anchorAfterGap network elapsedUs) := by
  unfold anchorAfterGap
  split
  · dsimp only
    split
    · exact (read_reanchored sender).trans (anchor_reanchored _ _ _)
    · exact read_reanchored sender
  · exact .refl sender

theorem anchorOnRate_reanchored (sender : Sender) : Reanchored sender sender.anchorOnRate := by
  unfold anchorOnRate
  split
  · exact anchor_reanchored _ _ _
  · exact .refl sender

theorem prepared_reanchored (sender : Sender) :
    Reanchored (sender.withStream Stream.updateMatch) (sender.prepared network) := by
  unfold prepared
  dsimp only
  refine (read_reanchored _).trans ?_
  split
  · exact anchor_reanchored _ _ _
  · exact (anchorAfterGap_reanchored network _ _).trans (anchorOnRate_reanchored _)

theorem updateMatch_eq (stream : Stream) : ∃ serviceDataMatch, stream.updateMatch = { stream with serviceDataMatch } := by
  unfold Stream.updateMatch
  split
  · exact ⟨_, rfl⟩
  · exact ⟨_, rfl⟩

theorem prepared_frameMode (sender : Sender) : (sender.prepared network).stream.frameMode = sender.stream.frameMode := by
  obtain ⟨_, _, _, anchored⟩ := (prepared_reanchored network sender).stream
  obtain ⟨_, matched⟩ := updateMatch_eq sender.stream
  rw [anchored, withStream, matched]
  rfl

theorem preparePoints_eq {Q : Type} (points : List Q) (running : sender.stream.scanSpeed ≠ 0) :
    preparePoints network points sender =
      (.ok (if points.length < minSamplesPerFrame then padPoints points else points), sender.prepared network) := by
  unfold preparePoints
  rw [bind_state, if_neg running, bind_update]
  rfl

theorem preparePoints_stopped {Q : Type} (points : List Q) (stopped : sender.stream.scanSpeed = 0) :
    preparePoints network points sender = (.error (.protocol .invalidScanSpeed), sender) := by
  unfold preparePoints
  rw [bind_state, if_pos stopped]
  rfl

/-! ### Fragments -/

def framed (now points numFragments : Nat) (before after : Sender) : Sender :=
  { after with
    stream := (after.stream.advance now points).countFrame
    log := .framed before.stream (before.stream.timestampAt (before.stream.pointsSinceAnchor + points)) numFragments
      :: after.log }

theorem fragmentLoop_leaves {numFragments base rem : Nat} {needsConfig : Bool} {tsStart frameDurationUs now : Nat}
    {firstCommand : UInt8} {J : Nat → Sender → Prop} {F : Sender → Prop}
    (step : ∀ (index : Nat) (points : List P) (sender : Sender), J index sender →
      let datagram := sender.stream.fragment points index numFragments needsConfig tsStart frameDurationUs firstCommand
      if network.delivers sender.sends then J (index + 1) ((sender.fragmenting index needsConfig now).sent datagram)
      else F ((sender.fragmenting index needsConfig now).unsent datagram)) (left index : Nat) (points : List P)
    (kept : J index sender) :
    Leaves (fun _ => J (index + left)) (fun _ => F)
      (fragmentLoop network numFragments base rem needsConfig tsStart frameDurationUs now firstCommand left index points
        sender) := by
  induction left generalizing index points sender with
  | zero => exact kept
  | succ left ih =>
    rw [fragmentLoop]
    apply Leaves.bind (M := fun _ => J (index + 1))
    · have handed := step index (points.take (base + if index < rem then 1 else 0)) sender kept
      rw [sendFrameFragment_eq]
      dsimp only at handed ⊢
      split at handed
      · next delivered =>
        rw [if_pos delivered]
        exact handed
      · next lost =>
        rw [if_neg lost]
        exact handed
    · intro _ after kept
      have rest := ih (index + 1) (points.drop (base + if index < rem then 1 else 0)) kept
      rw [Nat.add_assoc, Nat.add_comm 1 left] at rest
      exact rest

/-- A frame keeps what its fragments hand on to each other and what is left when one of them is lost or all are
sent. The clock is read once, and the fragments are made for the stream as it is then. -/
theorem writeFrameFragmented_keeps (firstCommand : UInt8) (J : Nat → Sender → Prop)
    (I : Sender → Prop) (start : J 0 { sender with reads := sender.reads + 1 })
    (step : ∀ (index : Nat) (own : List P) (after : Sender), J index after →
      let now := network.clock sender.reads
      let needsConfig := sender.stream.needsConfig now
      let datagram := after.stream.fragment own index (sender.stream.numFragments needsConfig points) needsConfig
        sender.stream.currentTimestampUs (sender.stream.durationUs points.length) firstCommand
      if network.delivers after.sends then J (index + 1) ((after.fragmenting index needsConfig now).sent datagram)
      else I ((after.fragmenting index needsConfig now).unsent datagram))
    (finish : ∀ last,
      let now := network.clock sender.reads
      let numFragments := sender.stream.numFragments (sender.stream.needsConfig now) points
      J numFragments last → I (framed now points.length numFragments sender last)) :
    I (writeFrameFragmented network points firstCommand sender).2 := by
  have leaves : Leaves (fun _ => I) (fun _ => I) (writeFrameFragmented network points firstCommand sender) := by
    unfold writeFrameFragmented
    rw [bind_ok (rfl : now network sender = _), bind_state]
    refine Leaves.bind (fragmentLoop_leaves network step _ 0 points start) fun _ last kept => ?_
    rw [Nat.zero_add] at kept
    exact finish last kept
  exact leaves.both

theorem numFragments_ne_zero (stream : Stream) (needsConfig : Bool) (points : List P) :
    stream.numFragments needsConfig points ≠ 0 := Nat.ne_of_gt (Nat.lt_of_lt_of_le Nat.one_pos (Nat.le_max_right _ _))

/-- What the steps of a write keep. -/
structure Keeps (I : Sender → Prop) : Prop where
  opens : ∀ {P : Type} [Point P] (points : List P) (command : UInt8) (sender : Sender), I sender →
    sender.stream.scanSpeed ≠ 0 → sender.stream.frameMode = .wave →
      if network.delivers (sender.prepared network).sends then
        I ((sender.prepared network).opened network points command)
      else I (((sender.prepared network).opening network).unsent
        ((sender.prepared network).openingPacket network points command))
  follows : ∀ {P : Type} [Point P] (points : List P) (sender : Sender), I sender → Primed sender →
      if network.delivers sender.sends then I (sender.followed network points)
      else I (sender.following.unsent (sender.stream.continuationPacket points))
  frames : ∀ {P : Type} [Point P] (points : List P) (command : UInt8) (sender : Sender), I sender →
    sender.stream.scanSpeed ≠ 0 → sender.stream.frameMode = .frame →
      I (writeFrameFragmented network points command (sender.prepared network)).2
  awaits : ∀ (left : Nat) (sender : Sender), I sender → I (recvAcknowledge network left sender).2

namespace Keeps

variable {network} {I : Sender → Prop}

section

variable (keeps : Keeps network I)

include keeps

theorem continuationLoop (fuel : Nat) (points : List P) (kept : I sender) (primed : Primed sender) :
    I (continuationLoop network fuel points sender).2 := by
  induction fuel generalizing points sender with
  | zero => exact kept
  | succ fuel ih =>
    rw [Sender.continuationLoop]
    split
    · exact kept
    have step := keeps.follows points sender kept primed
    have result := sendContinuation_eq network points sender
    split at step
    · next delivered =>
      rw [if_pos delivered] at result
      rw [bind_ok result]
      split
      · exact ih _ step (followed_primed network points primed)
      · exact step
    · next lost =>
      rw [if_neg lost] at result
      rw [bind_error result]
      exact step

variable (points : List P)

theorem rest (done : Nat) (kept : I sender) (primed : Primed sender) :
    I ((if done < points.length then writeFrameContinuation network (points.drop done) else return ()) sender).2 := by
  split
  · exact keeps.continuationLoop _ _ kept primed
  · exact kept

theorem wave (command : UInt8) (kept : I sender) (running : sender.stream.scanSpeed ≠ 0)
    (mode : sender.stream.frameMode = .wave) {next : UInt16 × Nat → Sending Unit}
    (onward : ∀ first after, I after → Primed after → I (next first after).2) :
    I ((buildAndSendFirstPacket network points command >>= next) (sender.prepared network)).2 := by
  have step := keeps.opens points command sender kept running mode
  have result := buildAndSendFirstPacket_eq network points command (sender.prepared network)
  split at step
  · next delivered =>
    rw [if_pos delivered] at result
    rw [bind_ok result]
    exact onward _ _ step (opened_primed network points command ((prepared_frameMode network sender).trans mode))
  · next lost =>
    rw [if_neg lost] at result
    rw [bind_error result]
    exact step

theorem frame (command : UInt8) (kept : I sender) (running : sender.stream.scanSpeed ≠ 0)
    (mode : sender.stream.frameMode = .frame) {next : UInt16 → Sending Unit}
    (onward : ∀ first after, I after → I (next first after).2) :
    I ((writeFrameFragmented network points command >>= next) (sender.prepared network)).2 := by
  have step := keeps.frames points command sender kept running mode
  cases result : writeFrameFragmented network points command (sender.prepared network) with
  | mk answer after =>
    rw [result] at step
    cases answer with
    | ok first =>
      rw [bind_ok result]
      exact onward first after step
    | error =>
      rw [bind_error result]
      exact step

theorem writeFrame (kept : I sender) : I (writeFrame network points sender).2 := by
  unfold Sender.writeFrame
  split
  · exact kept
  by_cases stopped : sender.stream.scanSpeed = 0
  · rw [bind_error (preparePoints_stopped network points stopped)]
    exact kept
  rw [bind_ok (preparePoints_eq network points stopped), bind_state, prepared_frameMode]
  cases mode : sender.stream.frameMode with
  | wave => exact keeps.wave _ _ kept stopped mode fun first _ kept primed => keeps.rest _ first.2 kept primed
  | frame => exact keeps.frame _ _ kept stopped mode fun _ _ kept => kept

theorem await (left : Nat) (kept : I sender) (primed : Primed sender) {next : Unit → Sending Unit}
    (onward : ∀ after, I after → Primed after → I (next () after).2) :
    I ((recvAcknowledge network left >>= next) sender).2 := by
  have step := keeps.awaits left sender kept
  have result := recvAcknowledge_eq network left sender
  split at result
  · rw [result] at step
    rw [bind_ok result]
    exact onward _ step ⟨primed.wave, primed.counted, primed.announced⟩
  · rw [result] at step
    rw [bind_error result]
    exact step

theorem writeFrameWithAck (kept : I sender) : I (writeFrameWithAck network points sender).2 := by
  unfold Sender.writeFrameWithAck
  split
  · exact kept
  by_cases stopped : sender.stream.scanSpeed = 0
  · rw [bind_error (preparePoints_stopped network points stopped)]
    exact kept
  rw [bind_ok (preparePoints_eq network points stopped), bind_state, prepared_frameMode]
  cases mode : sender.stream.frameMode with
  | wave =>
    exact keeps.wave _ _ kept stopped mode fun first after kept primed =>
      keeps.await _ kept primed fun after kept primed => keeps.rest _ first.2 kept primed
  | frame => exact keeps.frame _ _ kept stopped mode fun _ after kept => keeps.awaits 0 after kept

theorem run (calls : List Call)
    (format : ∀ format, .setPointFormat format ∈ calls → ∀ sender, I sender → I (sender.setPointFormat format))
    (mode : ∀ mode, .setFrameMode mode ∈ calls → ∀ sender, I sender → I (sender.setFrameMode mode))
    (speed : ∀ pps, .setScanSpeed pps ∈ calls → ∀ sender, I sender → I (sender.setScanSpeed pps)) (kept : I sender) :
    I (Sender.run network calls sender) := by
  induction calls generalizing sender with
  | nil => exact kept
  | cons call calls ih =>
    refine ih (fun f member => format f (.tail _ member)) (fun m member => mode m (.tail _ member))
      (fun pps member => speed pps (.tail _ member)) ?_
    cases call with
    | setPointFormat f => exact format f List.mem_cons_self sender kept
    | setFrameMode m => exact mode m List.mem_cons_self sender kept
    | setScanSpeed pps => exact speed pps List.mem_cons_self sender kept
    | writeFrame points =>
      cases points
      all_goals exact keeps.writeFrame _ kept
    | writeFrameWithAck points =>
      cases points
      all_goals exact keeps.writeFrameWithAck _ kept

end

end Keeps

end Sender

end LaserDac.Idn
