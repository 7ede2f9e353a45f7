import LaserDac.IdnReception

/-!
What a write sends if every send succeeds: all points of the frame, in order, in datagrams that fit into a packet and
say their own length. In wave mode every datagram is a chunk of its own; in frame mode the fragments are numbered, and
the last one says that it is the last.
-/

namespace LaserDac.Idn

open LaserDac.Cursors LaserDac.Attempts LaserDac.Attempts.Attempt LaserDac.Runs

theorem le_mul_divCeil (points most : Nat) (positive : 0 < most) : points ≤ most * divCeil points most := by
  have := Nat.div_add_mod (points + most - 1) most
  have := Nat.mod_lt (points + most - 1) positive
  rw [divCeil]
  omega

theorem evenShare_le_most (points most : Nat) : evenShare points most ≤ most := by
  rcases Nat.eq_zero_or_pos most with rfl | positive
  · rw [evenShare, divCeil, Nat.div_zero, Nat.div_zero]
  · rcases Nat.eq_zero_or_pos (divCeil points most) with zero | some
    · rw [evenShare, zero, Nat.div_zero]
      exact Nat.zero_le _
    · exact Nat.div_le_of_le_mul (by
        rw [Nat.mul_comm]
        exact le_mul_divCeil points most positive)

variable {points index most : Nat}

theorem evenShare_of_le (few : points ≤ most) : evenShare points most = points := by
  rcases Nat.eq_zero_or_pos points with rfl | some
  · exact Nat.zero_div _
  · have one : divCeil points most = 1 := Nat.div_eq_of_lt_le (by omega) (by omega)
    rw [evenShare, one, Nat.div_one]

theorem divCeil_le (some : 0 < points) (positive : 0 < most) : divCeil points most ≤ points := by
  obtain ⟨points, rfl⟩ := Nat.exists_eq_succ_of_ne_zero some.ne'
  obtain ⟨most, rfl⟩ := Nat.exists_eq_succ_of_ne_zero positive.ne'
  have product : (most + 1) * (points + 1) = most * points + most + points + 1 := by ring
  refine Nat.div_le_of_le_mul ?_
  change points + 1 + (most + 1) - 1 ≤ (most + 1) * (points + 1)
  omega

theorem evenShare_pos (some : 0 < points) (positive : 0 < most) : 0 < evenShare points most := by
  refine Nat.div_pos (divCeil_le some positive) (Nat.pos_of_ne_zero fun zero => ?_)
  have covered := le_mul_divCeil points most positive
  rw [zero, Nat.mul_zero] at covered
  omega

/-! ### Datagrams -/

theorem samples_length {P : Type} [Point P] (points : List P) :
    (points.map Point.write).flatten.length = points.length * Point.sizeBytes P := by
  induction points with
  | nil => rw [List.length_nil, Nat.zero_mul]; rfl
  | cons point points ih =>
    rw [List.map_cons, List.flatten_cons, List.length_append, ih, Point.write_length, List.length_cons, Nat.succ_mul,
      Nat.add_comm]

theorem config_write_length (stream : Stream) : stream.config.write.length = stream.configSize true := by
  change (stream.config.header.write ++ stream.pointFormat.descriptors.flatMap writeU16).length = _
  unfold Stream.configSize
  cases stream.pointFormat
  all_goals rfl

theorem configSize_le (stream : Stream) (needsConfig : Bool) : stream.configSize needsConfig ≤ 44 := by
  unfold Stream.configSize
  cases needsConfig with
  | false => exact Nat.zero_le _
  | true =>
    cases stream.pointFormat
    all_goals decide

theorem Datagram.write_length (datagram : Datagram) :
    datagram.write.length = 12 + ((datagram.config.elim [] Config.write).length +
      ((datagram.chunk.elim [] SampleChunkHeader.write).length + datagram.samples.flatten.length)) := by
  have left := (Carries.left_body datagram).length
  rw [Datagram.body, List.length_append, List.length_append] at left
  exact left.symm

variable {P : Type} [Point P] [Received P]

theorem sizeBytes_bounds : 0 < Point.sizeBytes P ∧ Point.sizeBytes P ≤ 20 := by
  rw [Received.sizeBytes_eq]
  cases Received.format P
  all_goals decide

/-- The stream is set for points of this type, on this service and in this mode. -/
structure Tuned (P : Type) [Point P] [Received P] (serviceId : UInt8) (mode : FrameMode) (stream : Stream) : Prop where
  format : stream.pointFormat = Received.format P
  service : stream.serviceId = serviceId
  mode : stream.frameMode = mode

theorem Carries.of_points {found : Stream} {datagram : Datagram} {kind : ChunkKind} {own : List P}
    (format : found.pointFormat = Received.format P) (mode : found.frameMode = kind.frameMode)
    (content : datagram.contentId = found.contentId (kind.flag datagram.config.isSome) kind.byte)
    (config : datagram.config = none ∨ kind.isSequel = false ∧ datagram.config = some found.config)
    (header : if kind.isSequel then datagram.chunk = none
      else ∃ durationUs, datagram.chunk = some (.new found.sdmFlags durationUs))
    (samples : datagram.samples = own.map Point.write)
    (size : datagram.msgSize = 8 + found.configSize datagram.config.isSome + (if kind.isSequel then 0 else 4) +
      own.length * Point.sizeBytes P)
    (fits : datagram.msgSize + 4 ≤ maxUdpPayload) :
    Carries found datagram kind (own.map Received.received) := by
  have whole : datagram.msgSize + PacketHeader.sizeBytes = datagram.write.length := by
    have configs : (datagram.config.elim [] Config.write).length = found.configSize datagram.config.isSome := by
      rcases config with none | ⟨-, own⟩
      · rw [none]
        rfl
      · rw [own]
        exact config_write_length found
    have chunks : (datagram.chunk.elim [] SampleChunkHeader.write).length = if kind.isSequel then 0 else 4 := by
      cases sequel : kind.isSequel with
      | true =>
        rw [sequel] at header
        have none : datagram.chunk = none := header
        rw [none]
        rfl
      | false =>
        rw [sequel] at header
        obtain ⟨durationUs, new⟩ := header
        rw [new]
        rfl
    rw [Datagram.write_length, configs, chunks, samples, samples_length, size, PacketHeader.sizeBytes]
    omega
  refine ⟨content, mode, config, header, ?_, ?_, whole, ?_⟩
  · rw [samples, format, List.length_map]
    exact Takes.many Received.takes own
  · rw [samples, samples_length, List.length_map, format, Received.sizeBytes_eq]
  · rw [← whole]
    exact fits

theorem share_fits {count configSize : Nat} (small : configSize ≤ 44) (most : count ≤ maxPointsPerPacket P configSize) :
    4 + 8 + configSize + 4 + count * Point.sizeBytes P ≤ maxUdpPayload := by
  have product := (Nat.le_div_iff_mul_le sizeBytes_bounds.1).mp most
  dsimp only [PacketHeader.sizeBytes, ChannelMessageHeader.sizeBytes, SampleChunkHeader.sizeBytes, maxUdpPayload] at *
  omega

theorem maxPointsPerPacket_pos {configSize : Nat} (small : configSize ≤ 44) : 0 < maxPointsPerPacket P configSize := by
  obtain ⟨positive, most⟩ := sizeBytes_bounds (P := P)
  refine Nat.div_pos ?_ positive
  dsimp only [PacketHeader.sizeBytes, ChannelMessageHeader.sizeBytes, SampleChunkHeader.sizeBytes, maxUdpPayload]
  omega

variable {numFragments : Nat}

namespace Sender

variable {network : Network} {serviceId : UInt8} {mode : FrameMode} {sender : Sender}

theorem chunkType_wave {stream : Stream} (wave : stream.frameMode = .wave) (isFirst isOnly : Bool) :
    stream.chunkType isFirst isOnly = idnvalCnktypeLpgrfWave := by
  unfold Stream.chunkType
  rw [wave]

/-- The first datagram of a wave. -/
theorem opening_carries (tuned : Tuned P serviceId .wave sender.stream) (points : List P) (command : UInt8) :
    Carries (sender.opening network).stream (sender.openingPacket network points command) .wave
      ((points.take (sender.stream.firstShare (sender.stream.needsConfig (network.clock sender.reads)) points)).map
        Received.received) := by
  unfold openingPacket opening
  generalize sender.stream.needsConfig (network.clock sender.reads) = needsConfig
  have brings : (sender.stream.firstPacket needsConfig command points).config.isSome = needsConfig := by
    cases needsConfig
    all_goals rfl
  have share : (points.take (sender.stream.firstShare needsConfig points)).length =
      sender.stream.firstShare needsConfig points := by
    rw [List.length_take]
    exact Nat.min_eq_left (Nat.div_le_self _ _)
  have fits := share_fits (P := P) (configSize_le sender.stream needsConfig) (evenShare_le_most points.length _)
  refine Carries.of_points tuned.format tuned.mode ?_ ?_ ⟨_, rfl⟩ rfl ?_ ?_
  · rw [brings]
    change sender.stream.contentId needsConfig (sender.stream.chunkType true _) = _
    rw [chunkType_wave tuned.mode]
    rfl
  · cases needsConfig with
    | true => exact .inr ⟨rfl, rfl⟩
    | false => exact .inl rfl
  · rw [brings, share]
    rfl
  · change 8 + sender.stream.configSize needsConfig + 4 + sender.stream.firstShare needsConfig points *
      Point.sizeBytes P + 4 ≤ maxUdpPayload
    change 4 + 8 + _ + 4 + sender.stream.firstShare needsConfig points * _ ≤ _ at fits
    omega

/-- A further datagram of a wave. -/
theorem following_carries (tuned : Tuned P serviceId .wave sender.stream) (points : List P) :
    Carries sender.following.stream (sender.stream.continuationPacket points) .wave
      ((points.take (Stream.continuationShare points)).map Received.received) := by
  have share : (points.take (Stream.continuationShare points)).length = Stream.continuationShare points := by
    rw [List.length_take]
    exact Nat.min_eq_left (Nat.div_le_self _ _)
  have fits := share_fits (P := P) (Nat.zero_le 44) (evenShare_le_most points.length _)
  refine Carries.of_points tuned.format tuned.mode ?_ (.inl rfl) ⟨_, rfl⟩ rfl ?_ ?_
  · change sender.stream.contentId false (sender.stream.chunkType false false) = _
    rw [chunkType_wave tuned.mode]
    rfl
  · rw [share]
    rfl
  · change 8 + 4 + Stream.continuationShare points * Point.sizeBytes P + 4 ≤ maxUdpPayload
    change 4 + 8 + 0 + 4 + Stream.continuationShare points * _ ≤ _ at fits
    omega

def fragmentKind (numFragments index : Nat) : ChunkKind :=
  if numFragments = 1 then .frame
  else if index = 0 then .frameFirst
  else .frameSequel (index = numFragments - 1)

theorem fragment_contentId {Q : Type} [Point Q] (stream : Stream) (own : List Q) (inside : index < numFragments)
    (needsConfig : Bool) (tsStart frameDurationUs : Nat) (command : UInt8) :
    let datagram := stream.fragment own index numFragments needsConfig tsStart frameDurationUs command
    let kind := fragmentKind numFragments index
    datagram.contentId = stream.contentId (kind.flag datagram.config.isSome) kind.byte := by
  unfold Stream.fragment fragmentKind
  rcases Nat.eq_zero_or_pos index with rfl | later
  · rcases Nat.lt_or_ge 1 numFragments with several | single
    · have more : numFragments ≠ 1 := by omega
      have last : 0 ≠ numFragments - 1 := by omega
      cases needsConfig
      all_goals simp [more, last, ChunkKind.flag, ChunkKind.isSequel, ChunkKind.byte]
    · obtain rfl : numFragments = 1 := by omega
      cases needsConfig
      all_goals simp [ChunkKind.flag, ChunkKind.isSequel, ChunkKind.byte]
  · have more : numFragments ≠ 1 := by omega
    simp [more, later.ne', ChunkKind.flag, ChunkKind.isSequel, ChunkKind.isLast, ChunkKind.byte]

theorem fragmentKind_isSequel (inside : index < numFragments) :
    (fragmentKind numFragments index).isSequel = decide (index ≠ 0) := by
  unfold fragmentKind
  split_ifs with single first
  · obtain rfl : index = 0 := by omega
    rfl
  · rw [first]
    rfl
  · exact (decide_eq_true first).symm

theorem fragmentKind_frameMode (numFragments index : Nat) : (fragmentKind numFragments index).frameMode = .frame := by
  unfold fragmentKind
  split_ifs
  all_goals rfl

/-- A fragment of a frame. -/
theorem fragmenting_carries (tuned : Tuned P serviceId .frame sender.stream) (own : List P)
    (inside : index < numFragments) (needsConfig : Bool) (tsStart frameDurationUs now : Nat) (command : UInt8)
    (most : own.length ≤ maxPointsPerPacket P (sender.stream.configSize needsConfig)) :
    Carries (sender.fragmenting index needsConfig now).stream
      (sender.stream.fragment own index numFragments needsConfig tsStart frameDurationUs command)
      (fragmentKind numFragments index) (own.map Received.received) := by
  have fits := share_fits (P := P) (configSize_le sender.stream needsConfig) most
  have content := fragment_contentId sender.stream own inside needsConfig tsStart frameDurationUs command
  have mode : sender.stream.frameMode = (fragmentKind numFragments index).frameMode :=
    tuned.mode.trans (fragmentKind_frameMode numFragments index).symm
  have sequel := fragmentKind_isSequel inside
  rcases Nat.eq_zero_or_pos index with rfl | later
  · have first : (fragmentKind numFragments 0).isSequel = false := sequel
    have brings : (sender.stream.fragment own 0 numFragments needsConfig tsStart frameDurationUs command).config.isSome =
        needsConfig := by
      cases needsConfig
      all_goals rfl
    have size : (sender.stream.fragment own 0 numFragments needsConfig tsStart frameDurationUs command).msgSize =
        8 + sender.stream.configSize needsConfig + 4 + own.length * Point.sizeBytes P := by
      cases needsConfig
      all_goals rfl
    refine Carries.of_points tuned.format mode content ?_ ?_ rfl ?_ ?_
    · cases needsConfig with
      | true => exact .inr ⟨first, rfl⟩
      | false => exact .inl rfl
    · rw [first]
      exact ⟨_, rfl⟩
    · rw [brings, first]
      exact size
    · rw [size]
      omega
  · have further : (fragmentKind numFragments index).isSequel = true := sequel.trans (decide_eq_true later.ne')
    have notFirst : decide (index = 0) = false := decide_eq_false later.ne'
    have without : (sender.stream.fragment own index numFragments needsConfig tsStart frameDurationUs command).config =
        none := by
      unfold Stream.fragment
      dsimp only
      rw [notFirst, Bool.and_false]
      rfl
    have headless : (sender.stream.fragment own index numFragments needsConfig tsStart frameDurationUs command).chunk =
        none := by
      unfold Stream.fragment
      dsimp only
      rw [notFirst]
      rfl
    have size : (sender.stream.fragment own index numFragments needsConfig tsStart frameDurationUs command).msgSize =
        8 + own.length * Point.sizeBytes P := by
      unfold Stream.fragment
      dsimp only
      rw [notFirst, Bool.and_false]
      rfl
    refine Carries.of_points tuned.format mode content (.inl without) ?_ rfl ?_ ?_
    · rw [further]
      exact headless
    · rw [without, further]
      exact size
    · rw [size]
      omega

end Sender

/-! ### What goes out -/

def Stream.settings (stream : Stream) : PointFormat × UInt8 × FrameMode × Nat :=
  (stream.pointFormat, stream.serviceId, stream.frameMode, stream.scanSpeed)

theorem Tuned.of_settings {serviceId : UInt8} {mode : FrameMode} {before after : Stream}
    (tuned : Tuned P serviceId mode before) (same : after.settings = before.settings) : Tuned P serviceId mode after := by
  simp only [Stream.settings, Prod.mk.injEq] at same
  obtain ⟨format, service, frameMode, -⟩ := same
  exact ⟨format.trans tuned.format, service.trans tuned.service, frameMode.trans tuned.mode⟩

def Chunk (serviceId : UInt8) (out : Stream × Datagram) (chunk : ChunkKind × List ReceivedPoint) : Prop :=
  Carries out.1 out.2 chunk.1 chunk.2 ∧ out.1.serviceId = serviceId

/-- Between these states these chunks have gone out, in this order, and nothing else. -/
structure Emits (serviceId : UInt8) (before after : Sender) (chunks : List (ChunkKind × List ReceivedPoint)) : Prop where
  settings : after.stream.settings = before.stream.settings
  sent : ∃ sent, outgoing after.log = sent ++ outgoing before.log ∧
    List.Forall₂ (Chunk serviceId) sent chunks.reverse ∧ ∀ out ∈ sent, out.1.pointFormat = before.stream.pointFormat

namespace Emits

variable {serviceId : UInt8} {before between after : Sender} {first second : List (ChunkKind × List ReceivedPoint)}

theorem nothing (settings : after.stream.settings = before.stream.settings)
    (log : outgoing after.log = outgoing before.log) : Emits serviceId before after [] :=
  ⟨settings, [], log, .nil, by simp⟩

theorem one {found : Stream} {datagram : Datagram} {chunk : ChunkKind × List ReceivedPoint}
    (settings : after.stream.settings = before.stream.settings)
    (log : outgoing after.log = (found, datagram) :: outgoing before.log)
    (carries : Carries found datagram chunk.1 chunk.2) (service : found.serviceId = serviceId)
    (format : found.pointFormat = before.stream.pointFormat) : Emits serviceId before after [chunk] :=
  ⟨settings, [(found, datagram)], log, .cons ⟨carries, service⟩ .nil, by simpa using format⟩

theorem trans (head : Emits serviceId before between first) (tail : Emits serviceId between after second) :
    Emits serviceId before after (first ++ second) := by
  obtain ⟨settings, sent, log, chunks, formats⟩ := head
  obtain ⟨settings', sent', log', chunks', formats'⟩ := tail
  have format : between.stream.pointFormat = before.stream.pointFormat := congrArg (fun settings => settings.1) settings
  rw [format] at formats'
  refine ⟨settings'.trans settings, sent' ++ sent, ?_, ?_, List.forall_mem_append.mpr ⟨formats', formats⟩⟩
  · rw [log', log, List.append_assoc]
  · rw [List.reverse_append]
    exact List.rel_append chunks' chunks

end Emits

namespace Sender

variable (network : Network) {serviceId : UInt8} {sender : Sender}

theorem opened_emits (tuned : Tuned P serviceId .wave sender.stream) (points : List P) (command : UInt8) :
    Emits serviceId sender (sender.opened network points command) [(.wave,
      (points.take (sender.stream.firstShare (sender.stream.needsConfig (network.clock sender.reads)) points)).map
        Received.received)] :=
  .one rfl rfl (opening_carries tuned points command) tuned.service rfl

theorem followed_emits (tuned : Tuned P serviceId .wave sender.stream) (points : List P) :
    Emits serviceId sender (sender.followed network points)
      [(.wave, (points.take (Stream.continuationShare points)).map Received.received)] :=
  .one rfl rfl (following_carries tuned points) tuned.service rfl

theorem continuationLoop_delivered {network : Network} (delivers : ∀ sends, network.delivers sends = true)
    {J : List P → Sender → Prop}
    (step : ∀ points sender, J points sender →
      J (points.drop (Stream.continuationShare points)) (sender.followed network points))
    (fuel : Nat) {points : List P} (enough : points.length ≤ fuel) (kept : J points sender) :
    ∃ after, continuationLoop network fuel points sender = (.ok (), after) ∧ J [] after := by
  induction fuel generalizing points sender with
  | zero =>
    obtain rfl := List.eq_nil_of_length_eq_zero (Nat.le_zero.mp enough)
    exact ⟨sender, rfl, kept⟩
  | succ fuel ih =>
    rw [continuationLoop]
    by_cases empty : points = []
    · obtain rfl := empty
      exact ⟨sender, rfl, kept⟩
    · rw [if_neg (by simpa using empty)]
      have sends := sendContinuation_eq network points sender
      rw [if_pos (delivers _)] at sends
      rw [bind_ok sends]
      have share : 0 < Stream.continuationShare points :=
        evenShare_pos (List.length_pos_of_ne_nil empty) (maxPointsPerPacket_pos (Nat.zero_le 44))
      have onward := step points sender kept
      split
      · refine ih ?_ onward
        rw [List.length_drop]
        omega
      · next done =>
        rw [List.drop_eq_nil_of_le (Nat.le_of_not_lt done)] at onward
        exact ⟨_, rfl, onward⟩

theorem continuationLoop_emits {network : Network} (delivers : ∀ sends, network.delivers sends = true) (points : List P)
    (tuned : Tuned P serviceId .wave sender.stream) :
    ∃ chunks after, continuationLoop network points.length points sender = (.ok (), after) ∧
      Emits serviceId sender after chunks ∧ (∀ chunk ∈ chunks, chunk.1 = .wave) ∧
      chunks.flatMap Prod.snd = points.map Received.received := by
  have start : ∃ chunks, Emits serviceId sender sender chunks ∧ (∀ chunk ∈ chunks, chunk.1 = .wave) ∧
      chunks.flatMap Prod.snd ++ points.map Received.received = points.map Received.received :=
    ⟨[], .nothing rfl rfl, by simp, rfl⟩
  obtain ⟨after, loop, chunks, emits, waves, all⟩ := continuationLoop_delivered delivers (J := fun rest between =>
    ∃ chunks, Emits serviceId sender between chunks ∧ (∀ chunk ∈ chunks, chunk.1 = .wave) ∧
      chunks.flatMap Prod.snd ++ rest.map Received.received = points.map Received.received) (by
    rintro rest between ⟨chunks, emits, waves, all⟩
    have out := followed_emits network (tuned.of_settings emits.settings) rest
    refine ⟨_, emits.trans out, ?_, ?_⟩
    · exact List.forall_mem_append.mpr ⟨waves, by simp⟩
    · rw [List.flatMap_append, List.flatMap_singleton, List.append_assoc, ← List.map_append, List.take_append_drop]
      exact all) _ le_rfl start
  refine ⟨chunks, after, loop, emits, waves, ?_⟩
  rw [← all, List.map_nil, List.append_nil]

variable {network : Network}

/-- A wave goes out whole, in order. -/
theorem wave_emits (delivers : ∀ sends, network.delivers sends = true)
    (tuned : Tuned P serviceId .wave sender.stream) (points : List P) (command : UInt8) :
    ∃ chunks after, (do
        let (_, pointsToSend) ← buildAndSendFirstPacket network points command
        if pointsToSend < points.length then writeFrameContinuation network (points.drop pointsToSend)
        else return () : Sending Unit) sender = (.ok (), after) ∧
      Emits serviceId sender after chunks ∧ (∀ chunk ∈ chunks, chunk.1 = .wave) ∧
      chunks.flatMap Prod.snd = points.map Received.received := by
  have sends := buildAndSendFirstPacket_eq network points command sender
  rw [if_pos (delivers _)] at sends
  rw [bind_ok sends]
  have out := opened_emits network tuned points command
  dsimp only
  split
  · obtain ⟨chunks, after, loop, emits, waves, rest⟩ :=
      continuationLoop_emits delivers _ (tuned.of_settings out.settings)
    refine ⟨_, after, loop, out.trans emits, List.forall_mem_cons.mpr ⟨rfl, waves⟩, ?_⟩
    rw [List.flatMap_append, rest, List.flatMap_singleton, ← List.map_append, List.take_append_drop]
  · next done =>
    refine ⟨_, _, rfl, out, by simp, ?_⟩
    rw [List.flatMap_singleton, List.take_of_length_le (Nat.le_of_not_lt done)]

theorem fragmentLoop_emits (delivers : ∀ sends, network.delivers sends = true) {base rem : Nat} {needsConfig : Bool}
    {tsStart frameDurationUs now : Nat} {command : UInt8} (few : rem ≤ numFragments)
    (most : ∀ stream : Stream, stream.pointFormat = Received.format P → base + (if 0 < rem then 1 else 0) ≤
      maxPointsPerPacket P (stream.configSize needsConfig)) {left : Nat}
    (count : index + left = numFragments) {points : List P} (length : points.length = left * base + (rem - index))
    (tuned : Tuned P serviceId .frame sender.stream) :
    ∃ chunks after, fragmentLoop network numFragments base rem needsConfig tsStart frameDurationUs now command left index
        points sender = (.ok (), after) ∧
      Emits serviceId sender after chunks ∧
      chunks.map Prod.fst = (List.range' index left).map (fragmentKind numFragments) ∧
      chunks.flatMap Prod.snd = points.map Received.received := by
  induction left generalizing index points sender with
  | zero =>
    have none : points.length = 0 := by omega
    obtain rfl := List.eq_nil_of_length_eq_zero none
    exact ⟨[], sender, rfl, .nothing rfl rfl, rfl, rfl⟩
  | succ left ih =>
    rw [fragmentLoop]
    generalize share : base + (if index < rem then 1 else 0) = own
    have small : (points.take own).length ≤ base + if 0 < rem then 1 else 0 := by
      rw [List.length_take]
      split_ifs at share ⊢
      all_goals omega
    have carries := fragmenting_carries tuned (points.take own) (by omega : index < numFragments) needsConfig tsStart
      frameDurationUs now command (small.trans (most _ tuned.format))
    have sends := sendFrameFragment_eq network (points.take own) index numFragments needsConfig tsStart frameDurationUs
      now command sender
    dsimp only at sends
    rw [if_pos (delivers _)] at sends
    rw [bind_ok sends]
    have out : Emits serviceId sender ((sender.fragmenting index needsConfig now).sent (sender.stream.fragment
        (points.take own) index numFragments needsConfig tsStart frameDurationUs command))
        [(fragmentKind numFragments index, (points.take own).map Received.received)] :=
      .one rfl rfl carries tuned.service rfl
    have rest : (points.drop own).length = left * base + (rem - (index + 1)) := by
      rw [Nat.succ_mul] at length
      rw [List.length_drop]
      split_ifs at share
      all_goals omega
    obtain ⟨chunks, after, loop, emits, kinds, points⟩ := ih (by omega) rest (tuned.of_settings out.settings)
    refine ⟨_, after, loop, out.trans emits, ?_, ?_⟩
    · rw [List.map_append, kinds]
      rfl
    · rw [List.flatMap_append, points, List.flatMap_singleton, ← List.map_append, List.take_append_drop]

theorem fragment_most {room : Nat} (positive : 0 < room) (enough : divCeil points room ≤ numFragments)
    (some : 0 < numFragments) : points / numFragments + (if 0 < points % numFragments then 1 else 0) ≤ room := by
  have covered : points ≤ room * numFragments :=
    (le_mul_divCeil points room positive).trans (Nat.mul_le_mul_left _ enough)
  have parts := Nat.div_add_mod points numFragments
  split
  · next uneven =>
    have : numFragments * (points / numFragments) < numFragments * room := by
      rw [Nat.mul_comm numFragments room]
      omega
    exact Nat.lt_of_mul_lt_mul_left this
  · exact (Nat.div_le_div_right covered).trans (le_of_eq (Nat.mul_div_cancel _ some))

theorem frame_emits (delivers : ∀ sends, network.delivers sends = true)
    (tuned : Tuned P serviceId .frame sender.stream) (points : List P) (command : UInt8) :
    ∃ chunks first after, writeFrameFragmented network points command sender = (.ok first, after) ∧
      Emits serviceId sender after chunks ∧
      (∃ numFragments, 0 < numFragments ∧
        chunks.map Prod.fst = (List.range' 0 numFragments).map (fragmentKind numFragments)) ∧
      chunks.flatMap Prod.snd = points.map Received.received := by
  unfold writeFrameFragmented
  rw [bind_ok (rfl : now network sender = _), bind_state]
  dsimp only
  generalize sender.stream.needsConfig (network.clock sender.reads) = needsConfig
  have some : 0 < sender.stream.numFragments needsConfig points :=
    Nat.pos_of_ne_zero (numFragments_ne_zero sender.stream needsConfig points)
  have most : ∀ stream : Stream, stream.pointFormat = Received.format P →
      points.length / sender.stream.numFragments needsConfig points +
        (if 0 < points.length % sender.stream.numFragments needsConfig points then 1 else 0) ≤
      maxPointsPerPacket P (stream.configSize needsConfig) := by
    intro stream format
    have room := maxPointsPerPacket_pos (P := P) (configSize_le stream needsConfig)
    have same : stream.configSize needsConfig = sender.stream.configSize needsConfig := by
      unfold Stream.configSize
      rw [format, tuned.format]
    refine fragment_most room ?_ some
    rw [same] at room ⊢
    unfold Stream.numFragments
    dsimp only
    rw [Nat.max_eq_left room]
    exact Nat.le_max_left _ _
  have tunedNow : Tuned P serviceId .frame { sender with reads := sender.reads + 1 }.stream := tuned
  obtain ⟨chunks, after, loop, emits, kinds, all⟩ := fragmentLoop_emits delivers
    (Nat.mod_lt points.length some).le most (Nat.zero_add _) (Nat.div_add_mod _ _).symm tunedNow
  rw [bind_ok loop]
  exact ⟨chunks, _, _, rfl, ⟨emits.settings, emits.sent⟩, ⟨_, some, kinds⟩, all⟩

theorem prepared_emits (network : Network) (serviceId : UInt8) (sender : Sender) :
    Emits serviceId sender (sender.prepared network) [] := by
  obtain ⟨⟨_, _, _, stream⟩, -, anchors, isAnchors, log⟩ := prepared_reanchored network sender
  obtain ⟨_, matched⟩ := updateMatch_eq sender.stream
  refine .nothing ?_ ?_
  · rw [stream, withStream, matched]
    rfl
  · rw [log, outgoing_anchors isAnchors]
    rfl

end Sender

def FrameMode.Shapes (kinds : List ChunkKind) : FrameMode → Prop
  | .wave => ∀ kind ∈ kinds, kind = .wave
  | .frame => ∃ numFragments, 0 < numFragments ∧
      kinds = (List.range' 0 numFragments).map (Sender.fragmentKind numFragments)

/-- The points of a frame, which is padded if it is short. -/
def framePoints {Q : Type} (points : List Q) : List Q :=
  if points.length < minSamplesPerFrame then padPoints points else points

theorem framePoints_eq_nil {Q : Type} {points : List Q} : framePoints points = [] ↔ points = [] := by
  rcases List.eq_nil_or_concat points with rfl | ⟨earlier, last, rfl⟩
  · exact iff_of_true rfl rfl
  · unfold framePoints padPoints
    split
    all_goals simp

namespace Sender

variable {network : Network} {serviceId : UInt8} {mode : FrameMode} {sender : Sender}

/-- A write has sent these points, all of them, in chunks of this mode. Without a rate nothing is sent, and an empty
frame is nothing. -/
def Writes (serviceId : UInt8) (mode : FrameMode) (sender after : Sender) (points : List ReceivedPoint) : Prop :=
  if sender.stream.scanSpeed = 0 ∨ points = [] then after = sender
  else ∃ chunks, Emits serviceId sender after chunks ∧ mode.Shapes (chunks.map Prod.fst) ∧
    chunks.flatMap Prod.snd = points

theorem Writes.intro {points : List P} {after : Sender} (empty : points = [] → after = sender)
    (stopped : sender.stream.scanSpeed = 0 → after = sender)
    (running : sender.stream.scanSpeed ≠ 0 → points ≠ [] → ∃ chunks, Emits serviceId sender after chunks ∧
      mode.Shapes (chunks.map Prod.fst) ∧ chunks.flatMap Prod.snd = (framePoints points).map Received.received) :
    Writes serviceId mode sender after ((framePoints points).map Received.received) := by
  unfold Writes
  split
  · next idle => exact idle.elim stopped fun none => empty (framePoints_eq_nil.mp (List.map_eq_nil_iff.mp none))
  · next busy =>
    rw [not_or, List.map_eq_nil_iff, framePoints_eq_nil] at busy
    exact running busy.1 busy.2

theorem writeFrame_writes (delivers : ∀ sends, network.delivers sends = true)
    (tuned : Tuned P serviceId mode sender.stream) (points : List P) :
    Writes serviceId mode sender (writeFrame network points sender).2 ((framePoints points).map Received.received) := by
  refine .intro (fun empty => ?_) (fun stopped => ?_) fun running some => ?_
  · rw [empty]
    rfl
  · unfold writeFrame
    split
    · rfl
    · rw [bind_error (preparePoints_stopped network points stopped)]
  · have ready := prepared_emits network serviceId sender
    have tunedReady := tuned.of_settings ready.settings
    rw [writeFrame, if_neg (by simpa using some), bind_ok (preparePoints_eq network points running), bind_state,
      tunedReady.mode]
    cases mode with
    | wave =>
      obtain ⟨chunks, after, sends, emits, waves, all⟩ :=
        wave_emits delivers tunedReady (framePoints points) idncmdRtCnlmsg
      refine ⟨chunks, ?_, by simpa [FrameMode.Shapes] using waves, all⟩
      dsimp only
      rw [← framePoints, sends]
      exact ready.trans emits
    | frame =>
      obtain ⟨chunks, first, after, sends, emits, kinds, all⟩ :=
        frame_emits delivers tunedReady (framePoints points) idncmdRtCnlmsg
      refine ⟨chunks, ?_, kinds, all⟩
      dsimp only
      rw [← framePoints, bind_ok sends]
      exact ready.trans emits

/-- In frame mode the acknowledgement is awaited after the last fragment. -/
theorem writeFrameWithAck_writes (delivers : ∀ sends, network.delivers sends = true)
    (tuned : Tuned P serviceId .frame sender.stream) (points : List P) :
    Writes serviceId .frame sender (writeFrameWithAck network points sender).2
      ((framePoints points).map Received.received) := by
  refine .intro (fun empty => ?_) (fun stopped => ?_) fun running some => ?_
  · rw [empty]
    rfl
  · unfold writeFrameWithAck
    split
    · rfl
    · rw [bind_error (preparePoints_stopped network points stopped)]
  · have ready := prepared_emits network serviceId sender
    have tunedReady := tuned.of_settings ready.settings
    obtain ⟨chunks, first, after, sends, emits, kinds, all⟩ :=
      frame_emits delivers tunedReady (framePoints points) idncmdRtCnlmsgAckreq
    have awaits : Emits serviceId after (recvAcknowledge network 0 after).2 [] := by
      rw [recvAcknowledge_eq]
      split
      all_goals exact .nothing rfl rfl
    rw [writeFrameWithAck, if_neg (by simpa using some), bind_ok (preparePoints_eq network points running), bind_state,
      tunedReady.mode]
    dsimp only
    rw [← framePoints, bind_ok sends]
    refine ⟨chunks, ?_, kinds, all⟩
    rw [← List.append_nil chunks]
    exact ready.trans (emits.trans awaits)

end Sender

end LaserDac.Idn
