import LaserDac.IdnParser

/-!
The parser against arbitrary packets. It never leaves a buffer and looks at nothing past the declared message, and the
entry of a source and channel depends on that source's and channel's own packets only.
-/

namespace LaserDac.Idn

open LaserDac.Cursors

/-- Where the declared message ends. -/
def messageEnd (data : List UInt8) : Nat := 4 + beAt data 4 2

variable {data : List UInt8} {config : Option ChannelConfig} {cursor : Cursor}

theorem fieldAt_ok {start count : Nat} (room : start + count ≤ data.length) :
    fieldAt data start count = .ok (beAt data start count) := by
  rw [fieldAt, if_pos room]
  rfl

/-- What the header of the data says, if the data is long enough to have one. -/
def headerOf (data : List UInt8) : ChunkMetadata :=
  metadataOf (beAt data 4 2) (UInt16.ofNat (beAt data 2 2)) (UInt16.ofNat (beAt data 6 2)) (UInt32.ofNat (beAt data 8 4))

/-- Data that starts with a channel message of a legal size and holds all of it. -/
def Framed (data : List UInt8) : Prop :=
  12 ≤ messageEnd data ∧ messageEnd data ≤ 4 + 0xFF00 ∧ messageEnd data ≤ data.length ∧
    UInt16.ofNat (beAt data 6 2) &&& idnflgContentidChannelmsg ≠ 0

theorem parseMetadata_framed (framed : Framed data) : parseMetadata data = .ok (headerOf data) := by
  obtain ⟨low, high, whole, channel⟩ := framed
  have size := low
  rw [messageEnd] at size high whole
  unfold parseMetadata
  rw [if_neg (by omega), fieldAt_ok (by omega), fieldAt_ok (by omega), fieldAt_ok (by omega), fieldAt_ok (by omega)]
  change (if _ then _ else if _ then _ else if _ then _ else _) = _
  rw [if_neg (by omega), if_neg (by omega), if_neg channel]
  rfl

theorem parseMetadata_unframed (unframed : ¬ Framed data) : parseMetadata data = .error .fail := by
  unfold parseMetadata
  split
  · rfl
  next long =>
    rw [fieldAt_ok (by omega), fieldAt_ok (by omega), fieldAt_ok (by omega), fieldAt_ok (by omega)]
    change (if _ then _ else if _ then _ else if _ then _ else _) = _
    split_ifs with size cut foreign
    · rfl
    · rfl
    · rfl
    · rw [Framed, messageEnd] at unframed
      exact absurd ⟨by omega, by omega, by omega, foreign⟩ unframed

/-- The length of a config that starts here, by its word count. -/
def configLength (data : List UInt8) (position : Nat) : Nat := 4 + 4 * (UInt8.ofNat (beAt data position 1)).toNat

theorem parseChannelConfig_advances {after : Cursor} {config : ChannelConfig}
    (run : parseChannelConfig.run cursor = some (config, after)) :
    configLength cursor.data cursor.position ≤ cursor.ahead.length ∧
      after = cursor.advance (configLength cursor.data cursor.position) := by
  obtain ⟨⟨wordCount, middle⟩, first, rest⟩ := Option.bind_eq_some_iff.mp run
  have onward : Advances (1 + (1 + (1 + wordCount.toNat * 2 * 2))) (do
      let flags ← readU8
      let _serviceId ← readU8
      let serviceMode ← readU8
      let descriptors ← readMany readU16 (wordCount.toNat * 2)
      return configOf flags serviceMode descriptors) :=
    Advances.u8.bind fun _ => Advances.u8.bind fun _ => Advances.u8.bind fun _ => (Advances.many Advances.u16 _).map _
  obtain ⟨room, moved⟩ := Advances.u8.trans first onward rest
  have inside : cursor.position + 1 ≤ cursor.data.length := by
    rw [Cursor.ahead, List.length_drop] at room
    omega
  have count : UInt8.ofNat (beAt cursor.data cursor.position 1) = wordCount :=
    (Prod.mk.inj (Option.some.inj ((run_readU8 inside).symm.trans first))).1
  have whole : configLength cursor.data cursor.position = 1 + (1 + (1 + (1 + wordCount.toNat * 2 * 2))) := by
    rw [configLength, count]
    omega
  rw [whole]
  exact ⟨room, moved⟩

theorem sampleSize_pos (format : SampleFormat) : 0 < format.sampleSize := by
  cases format
  all_goals decide

theorem decodeSamples_cases (metadata : ChunkMetadata) (state : ChannelState) (update : StateUpdate)
    (durationUs : UInt32) (within : cursor.position ≤ cursor.data.length) :
    decodeSamples metadata state update durationUs cursor = .error .fail ∨
      ∃ points : List ReceivedPoint,
        points.length * state.format.sampleSize = cursor.data.length - cursor.position ∧
        decodeSamples metadata state update durationUs cursor =
          .ok ⟨some (chunkOf metadata durationUs state.format points), update⟩ := by
  unfold decodeSamples
  rw [if_pos within]
  dsimp only [orCrash, bind, Except.bind]
  by_cases uneven : (cursor.data.length - cursor.position) % state.format.sampleSize ≠ 0
  · exact .inl (if_pos uneven)
  rw [if_neg uneven]
  cases read : (readMany (readPoint state.format)
      ((cursor.data.length - cursor.position) / state.format.sampleSize)).run cursor with
  | none => exact .inl rfl
  | some result =>
    obtain ⟨points, after⟩ := result
    refine .inr ⟨points, ?_, rfl⟩
    rw [readMany_length read]
    exact Nat.div_mul_cancel (Nat.dvd_of_mod_eq_zero (not_not.mp uneven))

/-- The length of the sample chunk header, which sequels do not have. -/
def chunkHeaderLength (chunkType : ChunkType) : Nat := if chunkType = .frameSequel then 0 else 4

/-- A chunk that was decoded from here: its samples are the rest of the message. -/
structure Decoded (metadata : ChunkMetadata) (format : SampleFormat) (cursor : Cursor) (chunk : ParsedChunk) : Prop where
  origin : ∃ durationUs, chunk = chunkOf metadata durationUs format chunk.points
  start : cursor.position + chunkHeaderLength metadata.chunkType ≤ cursor.data.length
  samples : chunk.points.length * format.sampleSize =
    cursor.data.length - (cursor.position + chunkHeaderLength metadata.chunkType)

theorem decodeChunk_cases (metadata : ChunkMetadata) (state : ChannelState) (update : StateUpdate)
    (within : cursor.position ≤ cursor.data.length) :
    decodeChunk metadata state update cursor = .error .fail ∨
      decodeChunk metadata state update cursor = .ok ⟨none, .remove⟩ ∨
      ∃ chunk, Decoded metadata state.format cursor chunk ∧
        decodeChunk metadata state update cursor = .ok ⟨some chunk, update⟩ := by
  unfold decodeChunk
  by_cases sequel : metadata.chunkType = .frameSequel
  · rw [if_pos sequel]
    have length : chunkHeaderLength metadata.chunkType = 0 := if_pos sequel
    rcases decodeSamples_cases metadata state update 0 within with failed | ⟨points, samples, decoded⟩
    · exact .inl failed
    · refine .inr (.inr ⟨_, ⟨⟨_, rfl⟩, ?_, ?_⟩, decoded⟩)
      · rw [length]
        exact within
      · rw [length]
        exact samples
  · rw [if_neg sequel]
    have length : chunkHeaderLength metadata.chunkType = 4 := if_neg sequel
    cases read : readU32.run cursor with
    | none => exact .inl rfl
    | some result =>
      obtain ⟨flagsDuration, after⟩ := result
      have inside := Advances.u32.inside read within
      obtain ⟨-, rfl⟩ := Advances.u32 read
      dsimp only [orFail, bind, Except.bind]
      by_cases mismatch : (flagsDuration >>> 24).toUInt8 &&& 0x30 ≠ state.serviceDataMatch
      · rw [if_pos mismatch]
        exact .inr (.inl rfl)
      rw [if_neg mismatch]
      rcases decodeSamples_cases metadata state update (flagsDuration &&& 0x00FFFFFF) inside with
        failed | ⟨points, samples, decoded⟩
      · exact .inl failed
      · refine .inr (.inr ⟨_, ⟨⟨_, rfl⟩, ?_, ?_⟩, decoded⟩)
        · rw [length]
          exact inside
        · rw [length]
          exact samples

theorem parseWithState_cases (metadata : ChunkMetadata) (cached : Option ChannelState) (config : Option ChannelConfig)
    (within : cursor.position ≤ cursor.data.length) :
    parseWithState metadata cached config cursor = .error .fail ∨
      (∃ update, (update = .remove ∨ ∃ state, channelState config cached = some state ∧
          update = stateUpdateForConfig config state (config.any ChannelConfig.closesChannel)) ∧
        parseWithState metadata cached config cursor = .ok ⟨none, update⟩) ∨
      ∃ state chunk, channelState config cached = some (some state) ∧ Decoded metadata state.format cursor chunk ∧
        parseWithState metadata cached config cursor =
          .ok ⟨some chunk, stateUpdateForConfig config (some state) (config.any ChannelConfig.closesChannel)⟩ := by
  unfold parseWithState
  cases found : channelState config cached with
  | none => exact .inr (.inl ⟨_, .inl rfl, rfl⟩)
  | some state =>
    dsimp only
    by_cases void : metadata.chunkType = .void
    · rw [if_pos void]
      exact .inr (.inl ⟨_, .inr ⟨state, rfl, rfl⟩, rfl⟩)
    rw [if_neg void]
    cases state with
    | none => exact .inl rfl
    | some state =>
      dsimp only
      by_cases accepts : serviceModeAcceptsChunk state.serviceMode metadata.chunkType = true
      · rw [if_pos accepts]
        rcases decodeChunk_cases metadata state _ within with failed | removed | ⟨chunk, decoded, parsed⟩
        · exact .inl failed
        · exact .inr (.inl ⟨_, .inl rfl, removed⟩)
        · exact .inr (.inr ⟨state, chunk, rfl, decoded, parsed⟩)
      · rw [if_neg accepts]
        exact .inr (.inl ⟨_, .inr ⟨some state, rfl, rfl⟩, rfl⟩)

theorem beAt_take {stop start count : Nat} (inside : start + count ≤ stop) :
    beAt (data.take stop) start count = beAt data start count := by
  rw [beAt, beAt, List.drop_take, List.take_take, Nat.min_eq_left (by omega)]

/-- The declared message, from the packet header on. -/
def messageOf (data : List UInt8) : List UInt8 := data.take (messageEnd data)

theorem Framed.length (framed : Framed data) : (messageOf data).length = messageEnd data := by
  rw [messageOf, List.length_take, Nat.min_eq_left framed.2.2.1]

theorem parseFrameDataWithMetadata_framed (framed : Framed data) (cached : Option ChannelState) :
    parseFrameDataWithMetadata data (headerOf data) cached = parseMessage (messageOf data) (headerOf data) cached := by
  have whole : 4 + (headerOf data).totalSize ≤ data.length := framed.2.2.1
  unfold parseFrameDataWithMetadata
  dsimp only
  rw [if_pos whole]
  rfl

/-- Where a message goes on after its header and its config. -/
def configEnd (data : List UInt8) : Nat := 12 + if (headerOf data).hasConfig then configLength data 12 else 0

/-- Where the samples of a message begin. -/
def sampleStart (data : List UInt8) : Nat := configEnd data + chunkHeaderLength (headerOf data).chunkType

def configIn (data : List UInt8) : Option ChannelConfig :=
  if (headerOf data).hasConfig then (parseChannelConfig.run ⟨messageOf data, 12⟩).map Prod.fst else none

theorem parseMessage_eq (framed : Framed data) :
    (∀ cached, parseMessage (messageOf data) (headerOf data) cached = .error .fail) ∨
      configEnd data ≤ messageEnd data ∧ ∀ cached, parseMessage (messageOf data) (headerOf data) cached =
        parseWithState (headerOf data) cached (configIn data) ⟨messageOf data, configEnd data⟩ := by
  unfold parseMessage configIn configEnd
  dsimp only
  by_cases config : (headerOf data).hasConfig = true
  · rw [if_pos config, if_pos config]
    simp only [if_pos config]
    cases read : parseChannelConfig.run ⟨messageOf data, 12⟩ with
    | none => exact .inl fun _ => rfl
    | some result =>
      obtain ⟨carried, after⟩ := result
      obtain ⟨room, rfl⟩ := parseChannelConfig_advances read
      have long : 12 + configLength (messageOf data) 12 ≤ messageEnd data := by
        rw [Cursor.ahead, List.length_drop, framed.length] at room
        have := framed.1
        exact Nat.add_le_of_le_sub' this room
      have same : configLength (messageOf data) 12 = configLength data 12 := by
        rw [configLength] at long
        rw [configLength, configLength, messageOf, beAt_take (by omega)]
      rw [same] at long
      refine .inr ⟨long, fun cached => ?_⟩
      rw [← same]
      rfl
  · rw [if_neg config, if_neg config]
    simp only [if_neg config]
    exact .inr ⟨framed.1, fun _ => trivial⟩

theorem parseMessage_cases (framed : Framed data) (cached : Option ChannelState) :
    parseMessage (messageOf data) (headerOf data) cached = .error .fail ∨
      (∃ update, (update = .remove ∨ ∃ state, channelState (configIn data) cached = some state ∧
          update = stateUpdateForConfig (configIn data) state ((configIn data).any ChannelConfig.closesChannel)) ∧
        parseMessage (messageOf data) (headerOf data) cached = .ok ⟨none, update⟩) ∨
      ∃ state chunk, channelState (configIn data) cached = some (some state) ∧ chunk.format = state.format ∧
        sampleStart data ≤ messageEnd data ∧
        chunk.points.length * chunk.format.sampleSize = messageEnd data - sampleStart data ∧
        parseMessage (messageOf data) (headerOf data) cached = .ok ⟨some chunk,
          stateUpdateForConfig (configIn data) (some state) ((configIn data).any ChannelConfig.closesChannel)⟩ := by
  rcases parseMessage_eq framed with failed | ⟨long, onward⟩
  · exact .inl (failed cached)
  have within : (Cursor.mk (messageOf data) (configEnd data)).position ≤ (messageOf data).length := by
    rw [framed.length]
    exact long
  rw [onward cached]
  rcases parseWithState_cases (headerOf data) cached (configIn data) within with
    failed | without | ⟨state, chunk, found, decoded, parsed⟩
  · exact .inl failed
  · exact .inr (.inl without)
  · obtain ⟨⟨_, origin⟩, room, samples⟩ := decoded
    have format : chunk.format = state.format := by rw [origin]; rfl
    rw [framed.length] at room samples
    rw [← format] at samples
    exact .inr (.inr ⟨state, chunk, found, format, room, samples, parsed⟩)

theorem channelState_routed (routed : config.any ChannelConfig.hasRouting = true) (cached : Option ChannelState) :
    channelState config cached = channelState config none := by
  cases config with
  | none => cases routed
  | some config =>
    have routes : config.hasRouting = true := routed
    unfold channelState
    dsimp only
    rw [if_pos routes, if_pos routes]

theorem channelState_unrouted (unrouted : config.any ChannelConfig.hasRouting = false) (cached : Option ChannelState) :
    channelState config cached = some cached := by
  cases config with
  | none => rfl
  | some config =>
    have stays : config.hasRouting = false := unrouted
    unfold channelState
    dsimp only
    rw [stays]
    rfl

theorem stateUpdateForConfig_store {state : Option ChannelState} {close : Bool} {stored : ChannelState}
    (update : stateUpdateForConfig config state close = .store stored) :
    config.any ChannelConfig.hasRouting = true ∧ state = some stored := by
  unfold stateUpdateForConfig at update
  split_ifs at update with closes routed
  refine ⟨routed, ?_⟩
  cases state with
  | none => cases update
  | some => rw [StateUpdate.store.inj update]

theorem parseMessage_stores (framed : Framed data) {cached : Option ChannelState} {parsed : ParsedPacket}
    {state : ChannelState} (result : parseMessage (messageOf data) (headerOf data) cached = .ok parsed)
    (update : parsed.stateUpdate = .store state) :
    (configIn data).any ChannelConfig.hasRouting = true ∧ channelState (configIn data) none = some (some state) := by
  rcases parseMessage_cases framed cached with
    failed | ⟨_, removes | ⟨kept, found, rfl⟩, without⟩ | ⟨kept, chunk, found, -, -, -, decoded⟩
  · rw [failed] at result
    cases result
  · rw [without] at result
    obtain rfl := Except.ok.inj result
    rw [removes] at update
    cases update
  · rw [without] at result
    obtain rfl := Except.ok.inj result
    obtain ⟨routed, rfl⟩ := stateUpdateForConfig_store update
    exact ⟨routed, (channelState_routed routed cached).symm.trans found⟩
  · rw [decoded] at result
    obtain rfl := Except.ok.inj result
    obtain ⟨routed, rest⟩ := stateUpdateForConfig_store update
    obtain rfl := Option.some.inj rest
    exact ⟨routed, (channelState_routed routed cached).symm.trans found⟩

theorem parseMessage_routed (framed : Framed data) (routed : (configIn data).any ChannelConfig.hasRouting = true)
    (cached : Option ChannelState) :
    parseMessage (messageOf data) (headerOf data) cached = parseMessage (messageOf data) (headerOf data) none := by
  rcases parseMessage_eq framed with failed | ⟨-, onward⟩
  · rw [failed, failed]
  · rw [onward, onward]
    unfold parseWithState
    rw [channelState_routed routed cached]

/-! ### Sequences of packets -/

variable {Address : Type}

/-- The source and channel of a packet, if it holds a channel message. -/
def keyOf (packet : Address × List UInt8) : Option (ParserChannelKey Address) :=
  match parseMetadata packet.2 with
  | .ok metadata => some ⟨packet.1, metadata.channelId⟩
  | .error _ => none

/-- The config that a packet gets accepted. Nothing but the packet decides it. -/
def acceptedConfig (data : List UInt8) : Option ChannelState :=
  match parseMetadata data with
  | .error _ => none
  | .ok metadata =>
    match parseFrameDataWithMetadata data metadata none with
    | .ok ⟨_, .store state⟩ => some state
    | _ => none

/-- The config that a message brings for its channel. -/
def routedConfig (data : List UInt8) : Option ChannelState :=
  if (configIn data).any ChannelConfig.hasRouting then (channelState (configIn data) none).join else none

variable {source : Address}

theorem keyOf_framed (framed : Framed data) : keyOf (source, data) = some ⟨source, (headerOf data).channelId⟩ := by
  unfold keyOf
  rw [parseMetadata_framed framed]

theorem keyOf_unframed (unframed : ¬ Framed data) : keyOf (source, data) = none := by
  unfold keyOf
  rw [parseMetadata_unframed unframed]

theorem acceptedConfig_none (framed : Framed data) (state : ChannelState) :
    acceptedConfig data = some state ↔
      ∃ chunk, parseMessage (messageOf data) (headerOf data) none = .ok ⟨chunk, .store state⟩ := by
  unfold acceptedConfig
  rw [parseMetadata_framed framed]
  dsimp only
  rw [parseFrameDataWithMetadata_framed framed]
  constructor
  · intro accepted
    split at accepted
    · next chunk stored parsed =>
      obtain rfl := Option.some.inj accepted
      exact ⟨chunk, parsed⟩
    · cases accepted
  · rintro ⟨chunk, parsed⟩
    rw [parsed]

theorem acceptedConfig_iff (framed : Framed data) (cached : Option ChannelState) (state : ChannelState) :
    acceptedConfig data = some state ↔
      ∃ chunk, parseMessage (messageOf data) (headerOf data) cached = .ok ⟨chunk, .store state⟩ := by
  rw [acceptedConfig_none framed]
  constructor
  · rintro ⟨chunk, parsed⟩
    exact ⟨chunk, (parseMessage_routed framed (parseMessage_stores framed parsed rfl).1 cached).trans parsed⟩
  · rintro ⟨chunk, parsed⟩
    exact ⟨chunk, (parseMessage_routed framed (parseMessage_stores framed parsed rfl).1 cached).symm.trans parsed⟩

variable [DecidableEq Address]

namespace FrameParser

/-- The parser after packets. -/
def after (parser : FrameParser Address) (packets : List (Address × List UInt8)) : FrameParser Address :=
  packets.foldl (fun parser packet => (parser.parseFrameData packet.1 packet.2).2) parser

/-- The packets, each with what is returned for it. -/
def results : FrameParser Address → List (Address × List UInt8) →
    List ((Address × List UInt8) × Except Halt (Option ParsedChunk))
  | _, [] => []
  | parser, packet :: packets =>
    (packet, (parser.parseFrameData packet.1 packet.2).1) ::
      results (parser.parseFrameData packet.1 packet.2).2 packets

end FrameParser

def StateUpdate.entry (cached : Option ChannelState) : StateUpdate → Option ChannelState
  | .none => cached
  | .store state => some state
  | .remove => Option.none

/-- The last config that was accepted for a source and channel. -/
def lastAccepted (key : ParserChannelKey Address) (packets : List (Address × List UInt8)) : Option ChannelState :=
  packets.foldl (fun last packet =>
    if keyOf packet = some key then (acceptedConfig packet.2).or last else last) none

variable (parser : FrameParser Address) {key : ParserChannelKey Address}

namespace FrameParser

def settle (parser : FrameParser Address) (key : ParserChannelKey Address) :
    Except Halt ParsedPacket → Except Halt (Option ParsedChunk) × FrameParser Address
  | .error halt => (.error halt, parser)
  | .ok parsed => (.ok parsed.chunk, parser.apply key parsed.stateUpdate)

theorem parseFrameData_framed (source : Address) (framed : Framed data) :
    parser.parseFrameData source data = parser.settle ⟨source, (headerOf data).channelId⟩
      (parseMessage (messageOf data) (headerOf data) (parser.channels ⟨source, (headerOf data).channelId⟩)) := by
  unfold parseFrameData
  rw [parseMetadata_framed framed]
  dsimp only
  rw [parseFrameDataWithMetadata_framed framed]
  rfl

theorem parseFrameData_unframed (source : Address) (unframed : ¬ Framed data) :
    parser.parseFrameData source data = (.error .fail, parser) := by
  unfold parseFrameData
  rw [parseMetadata_unframed unframed]

theorem apply_other {other : ParserChannelKey Address} (differ : other ≠ key) (update : StateUpdate) :
    (parser.apply key update).channels other = parser.channels other := by
  cases update with
  | none => rfl
  | store | remove => exact Function.update_of_ne differ _ _

theorem apply_self (key : ParserChannelKey Address) (update : StateUpdate) :
    (parser.apply key update).channels key = update.entry (parser.channels key) := by
  cases update with
  | none => rfl
  | store | remove => exact Function.update_self _ _ _

theorem parseFrameData_other {packet : Address × List UInt8} (other : keyOf packet ≠ some key) :
    (parser.parseFrameData packet.1 packet.2).2.channels key = parser.channels key := by
  obtain ⟨source, data⟩ := packet
  by_cases framed : Framed data
  · rw [keyOf_framed framed] at other
    rw [parser.parseFrameData_framed source framed]
    cases parseMessage (messageOf data) (headerOf data) (parser.channels ⟨source, (headerOf data).channelId⟩) with
    | error => rfl
    | ok parsed => exact parser.apply_other (fun same => other (congrArg some same.symm)) parsed.stateUpdate
  · rw [parser.parseFrameData_unframed source framed]

theorem parseFrameData_own {first second : FrameParser Address} {packet : Address × List UInt8}
    (own : keyOf packet = some key) (same : first.channels key = second.channels key) :
    (first.parseFrameData packet.1 packet.2).1 = (second.parseFrameData packet.1 packet.2).1 ∧
      (first.parseFrameData packet.1 packet.2).2.channels key =
        (second.parseFrameData packet.1 packet.2).2.channels key := by
  obtain ⟨source, data⟩ := packet
  by_cases framed : Framed data
  · rw [keyOf_framed framed] at own
    obtain rfl := Option.some.inj own
    rw [first.parseFrameData_framed source framed, second.parseFrameData_framed source framed, same]
    cases parseMessage (messageOf data) (headerOf data) (second.channels ⟨source, (headerOf data).channelId⟩) with
    | error => exact ⟨rfl, same⟩
    | ok =>
      refine ⟨rfl, ?_⟩
      rw [settle, settle, apply_self, apply_self, same]
  · rw [keyOf_unframed framed] at own
    cases own

theorem results_filter (packets : List (Address × List UInt8)) {first second : FrameParser Address}
    (same : first.channels key = second.channels key) :
    (first.results packets).filter (fun result => keyOf result.1 = some key) =
      second.results (packets.filter fun packet => keyOf packet = some key) := by
  induction packets generalizing first second with
  | nil => rfl
  | cons packet packets ih =>
    rw [results]
    by_cases own : keyOf packet = some key
    · obtain ⟨answer, entry⟩ := parseFrameData_own own same
      rw [List.filter_cons_of_pos (by simpa using own), List.filter_cons_of_pos (by simpa using own), results,
        ih entry, answer]
    · rw [List.filter_cons_of_neg (by simpa using own), List.filter_cons_of_neg (by simpa using own)]
      exact ih ((first.parseFrameData_other own).trans same)

theorem parseFrameData_fail {parser : FrameParser Address} {halt : Halt}
    (failed : (parser.parseFrameData source data).1 = .error halt) :
    (parser.parseFrameData source data).2 = parser ∧ halt = .fail := by
  by_cases framed : Framed data
  · rw [parser.parseFrameData_framed source framed] at failed ⊢
    rcases parseMessage_cases framed (parser.channels ⟨source, (headerOf data).channelId⟩) with
      fails | ⟨_, -, without⟩ | ⟨_, _, -, -, -, -, decoded⟩
    · rw [fails] at failed ⊢
      exact ⟨rfl, (Except.error.inj failed).symm⟩
    · rw [without] at failed
      cases failed
    · rw [decoded] at failed
      cases failed
  · rw [parser.parseFrameData_unframed source framed] at failed ⊢
    exact ⟨rfl, (Except.error.inj failed).symm⟩

end FrameParser

/-- An entry that is still there is the last config that was accepted. -/
def Accounted (parser : FrameParser Address) (key : ParserChannelKey Address) (last : Option ChannelState) : Prop :=
  ∀ state, parser.channels key = some state → last = some state

theorem Accounted.step {parser : FrameParser Address} {last : Option ChannelState}
    (accounted : Accounted parser key last) (packet : Address × List UInt8) :
    Accounted (parser.parseFrameData packet.1 packet.2).2 key
      (if keyOf packet = some key then (acceptedConfig packet.2).or last else last) := by
  intro state entry
  by_cases own : keyOf packet = some key
  · rw [if_pos own]
    obtain ⟨source, data⟩ := packet
    have framed : Framed data := by
      by_contra unframed
      rw [keyOf_unframed unframed] at own
      cases own
    rw [keyOf_framed framed] at own
    obtain rfl := Option.some.inj own
    rw [parser.parseFrameData_framed source framed] at entry
    have accepted := acceptedConfig_iff framed (parser.channels ⟨source, (headerOf data).channelId⟩)
    cases found : acceptedConfig data with
    | some other =>
      obtain ⟨chunk, parsed⟩ := (accepted other).mp found
      rw [parsed, FrameParser.settle, FrameParser.apply_self] at entry
      rw [Option.some_or]
      exact entry
    | none =>
      rw [Option.none_or]
      -- nothing was stored, so what is there now was there before
      apply accounted
      cases result : parseMessage (messageOf data) (headerOf data)
          (parser.channels ⟨source, (headerOf data).channelId⟩) with
      | error halt =>
        rw [result] at entry
        exact entry
      | ok parsed =>
        rw [result, FrameParser.settle, FrameParser.apply_self] at entry
        obtain ⟨chunk, update⟩ := parsed
        cases update with
        | none => exact entry
        | store stored =>
          rw [(accepted stored).mpr ⟨chunk, result⟩] at found
          cases found
        | remove => cases entry
  · rw [if_neg own]
    rw [parser.parseFrameData_other own] at entry
    exact accounted state entry

theorem Accounted.after (packets : List (Address × List UInt8)) (key : ParserChannelKey Address) :
    Accounted (FrameParser.new.after packets) key (lastAccepted key packets) := by
  suffices general : ∀ (parser : FrameParser Address) (last : Option ChannelState), Accounted parser key last →
      Accounted (parser.after packets) key (packets.foldl (fun last packet =>
        if keyOf packet = some key then (acceptedConfig packet.2).or last else last) last) from
    general _ _ fun _ entry => by cases entry
  induction packets with
  | nil => exact fun _ _ accounted => accounted
  | cons packet packets ih => exact fun parser last accounted => ih _ _ (accounted.step packet)

theorem chunk_format {packets : List (Address × List UInt8)} {chunk : ParsedChunk}
    (returned : ((FrameParser.new.after packets).parseFrameData source data).1 = .ok (some chunk)) :
    chunk.points.length * chunk.format.sampleSize = (messageOf data).length - sampleStart data ∧
      sampleStart data ≤ (messageOf data).length ∧
      ((routedConfig data).or (lastAccepted ⟨source, (headerOf data).channelId⟩ packets)).map ChannelState.format =
        some chunk.format := by
  by_cases framed : Framed data
  · rw [FrameParser.parseFrameData_framed _ source framed] at returned
    rcases parseMessage_cases framed ((FrameParser.new.after packets).channels ⟨source, (headerOf data).channelId⟩) with
      fails | ⟨_, -, without⟩ | ⟨state, found, stateEq, format, start, samples, decoded⟩
    · rw [fails] at returned
      cases returned
    · rw [without] at returned
      cases returned
    · rw [decoded] at returned
      obtain rfl := Option.some.inj (Except.ok.inj returned)
      rw [framed.length]
      refine ⟨samples, start, ?_⟩
      rw [format]
      cases routed : (configIn data).any ChannelConfig.hasRouting with
      | true =>
        have own : routedConfig data = some state := by
          rw [routedConfig, if_pos routed, ← channelState_routed routed, stateEq]
          rfl
        rw [own]
        rfl
      | false =>
        have none_ : routedConfig data = none := by
          rw [routedConfig, routed]
          rfl
        have entry := Option.some.inj ((channelState_unrouted routed _).symm.trans stateEq)
        rw [none_, Option.none_or, Accounted.after packets _ state entry]
        rfl
  · rw [FrameParser.parseFrameData_unframed _ source framed] at returned
    cases returned

theorem messageOf_header (long : 12 ≤ messageEnd data) :
    messageEnd (messageOf data) = messageEnd data ∧ headerOf (messageOf data) = headerOf data ∧
      beAt (messageOf data) 6 2 = beAt data 6 2 := by
  have field : ∀ start count, start + count ≤ 12 → beAt (messageOf data) start count = beAt data start count :=
    fun start count inside => beAt_take (inside.trans long)
  refine ⟨?_, ?_, field 6 2 (by decide)⟩
  · rw [messageEnd, messageEnd, field 4 2 (by decide)]
  · rw [headerOf, headerOf, field 4 2 (by decide), field 2 2 (by decide), field 6 2 (by decide), field 8 4 (by decide)]

theorem framed_messageOf (data : List UInt8) : Framed (messageOf data) ↔ Framed data := by
  by_cases long : 12 ≤ messageEnd data
  · obtain ⟨sameEnd, -, sameContent⟩ := messageOf_header long
    unfold Framed
    rw [sameEnd, sameContent, messageOf, List.length_take]
    simp only [Nat.le_min, le_refl, true_and]
  · constructor
    · rintro ⟨low, -, whole, -⟩
      have short : (messageOf data).length ≤ messageEnd data := List.length_take_le _ _
      omega
    · exact fun framed => absurd framed.1 long

/-- Nothing past the declared message matters. -/
theorem parseFrameData_message (source : Address) (data : List UInt8) :
    parser.parseFrameData source (messageOf data) = parser.parseFrameData source data := by
  by_cases framed : Framed data
  · obtain ⟨sameEnd, sameHeader, -⟩ := messageOf_header framed.1
    have same : messageOf (messageOf data) = messageOf data := by
      rw [messageOf, sameEnd, messageOf, List.take_take, Nat.min_self]
    rw [parser.parseFrameData_framed source ((framed_messageOf data).mpr framed),
      parser.parseFrameData_framed source framed, same, sameHeader]
  · rw [parser.parseFrameData_unframed source (fun message => framed ((framed_messageOf data).mp message)),
      parser.parseFrameData_unframed source framed]

/-- Whatever packets came before, from whatever sources: a packet does not crash the parser, nothing past its declared
message matters, a chunk uses up its sample bytes in the format of the last accepted config of its source and channel,
and a failure leaves every entry as it was. What is returned for a source and channel is the same without the packets
of the others. -/
theorem frameParser_isolates_channels :
    (∀ (earlier : List (Address × List UInt8)) (source : Address) (data : List UInt8),
      let parser := FrameParser.new.after earlier
      (parser.parseFrameData source data).1 ≠ .error .crash ∧
      parser.parseFrameData source (messageOf data) = parser.parseFrameData source data ∧
      (∀ chunk, (parser.parseFrameData source data).1 = .ok (some chunk) →
        chunk.points.length * chunk.format.sampleSize = (messageOf data).length - sampleStart data ∧
        sampleStart data ≤ (messageOf data).length ∧
        ((routedConfig data).or (lastAccepted ⟨source, (headerOf data).channelId⟩ earlier)).map ChannelState.format =
          some chunk.format) ∧
      ((parser.parseFrameData source data).1 = .error .fail → (parser.parseFrameData source data).2 = parser)) ∧
    ∀ (packets : List (Address × List UInt8)) (key : ParserChannelKey Address),
      (FrameParser.new.results packets).filter (fun result => keyOf result.1 = some key) =
        FrameParser.new.results (packets.filter fun packet => keyOf packet = some key) := by
  refine ⟨fun earlier source data => ⟨?_, ?_, ?_, ?_⟩, fun packets key => ?_⟩
  · intro crashed
    cases (FrameParser.parseFrameData_fail crashed).2
  · exact parseFrameData_message _ source data
  · exact fun chunk returned => chunk_format returned
  · exact fun failed => (FrameParser.parseFrameData_fail failed).1
  · exact FrameParser.results_filter packets rfl

end LaserDac.Idn
