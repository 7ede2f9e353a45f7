import LaserDac.IdnParser

/-!
What the classification of a descriptor array promises about the decoding. Descriptors place the channels of a sample
one after another (`walk`); for each format the parser reads its channels at fixed places (`layout`).
-/

namespace LaserDac.Idn

open LaserDac.Cursors

/-- Where a channel lies in a sample. -/
structure Slot where
  id : UInt16
  offset : Nat
  width : Nat
  deriving DecidableEq, Repr

/-- The channels that the descriptors declare, from this offset on. A void tag steps over its suffix words, a break
ends the group, and a precision modifier widens the channel before it. -/
def walk (offset : Nat) : Nat → List UInt16 → List Slot
  | _, [] => []
  | skip + 1, _ :: rest => walk offset skip rest
  | 0, desc :: rest =>
    if desc &&& 0xF000 = 0x0000 then walk offset (desc &&& 0x000F).toNat rest
    else if desc &&& 0xFF00 = 0x1000 then []
    else if desc &&& 0xF000 = 0x1000 ∨ desc = descPrecision16bit then walk offset 0 rest
    else if rest.head? = some descPrecision16bit then ⟨desc, offset, 2⟩ :: walk (offset + 2) 0 rest
    else ⟨desc, offset, 1⟩ :: walk (offset + 1) 0 rest

def place (offset : Nat) : List Channel → List Slot
  | [] => []
  | channel :: channels => ⟨channel.id, offset, channel.bytes⟩ :: place (offset + channel.bytes) channels

variable {descriptors : List UInt16} {format : SampleFormat}

theorem walk_gathered {skip : Nat} {channels : List Channel}
    (gathered : gatherChannels skip descriptors = some channels) (offset : Nat) :
    walk offset skip descriptors = place offset channels := by
  induction descriptors generalizing skip channels offset with
  | nil =>
    rw [gatherChannels] at gathered
    obtain rfl := Option.some.inj gathered
    rw [walk, place]
  | cons desc rest ih =>
    cases skip with
    | succ =>
      rw [gatherChannels] at gathered
      rw [walk]
      exact ih gathered offset
    | zero =>
      rw [gatherChannels] at gathered
      rw [walk]
      by_cases void : desc &&& 0xF000 = 0x0000
      · rw [if_pos void] at gathered ⊢
        exact ih gathered offset
      by_cases broken : desc &&& 0xFF00 = 0x1000
      · rw [if_neg void, if_pos broken] at gathered ⊢
        obtain rfl := Option.some.inj gathered
        rfl
      by_cases space : desc &&& 0xF000 = 0x1000
      · rw [if_neg void, if_neg broken, if_pos space] at gathered
        rw [if_neg void, if_neg broken, if_pos (.inl space)]
        exact ih gathered offset
      by_cases stray : desc = descPrecision16bit
      · rw [if_neg void, if_neg broken, if_neg space, if_pos stray] at gathered
        cases gathered
      rw [if_neg void, if_neg broken, if_neg space, if_neg stray] at gathered
      rw [if_neg void, if_neg broken, if_neg (not_or.mpr ⟨space, stray⟩)]
      by_cases wide : rest.head? = some descPrecision16bit
      · rw [if_pos wide] at gathered ⊢
        obtain ⟨others, more, rfl⟩ := Option.map_eq_some_iff.mp gathered
        obtain ⟨tail, rfl⟩ : ∃ tail, rest = descPrecision16bit :: tail := List.head?_eq_some_iff.mp wide
        rw [place, ← ih more]
        -- the modifier is stepped over, here by its own rule
        rfl
      · rw [if_neg wide] at gathered ⊢
        obtain ⟨others, more, rfl⟩ := Option.map_eq_some_iff.mp gathered
        rw [place, ← ih more]

theorem gatherChannels_bytes {skip : Nat} {channels : List Channel}
    (gathered : gatherChannels skip descriptors = some channels) :
    ∀ channel ∈ channels, 1 ≤ channel.bytes ∧ channel.bytes ≤ 2 := by
  induction descriptors generalizing skip channels with
  | nil =>
    rw [gatherChannels] at gathered
    obtain rfl := Option.some.inj gathered
    simp
  | cons desc rest ih =>
    cases skip with
    | succ =>
      rw [gatherChannels] at gathered
      exact ih gathered
    | zero =>
      rw [gatherChannels] at gathered
      split_ifs at gathered
      · exact ih gathered
      · obtain rfl := Option.some.inj gathered
        simp
      · exact ih gathered
      · obtain ⟨others, more, rfl⟩ := Option.map_eq_some_iff.mp gathered
        exact List.forall_mem_cons.mpr ⟨⟨one_le_two, le_rfl⟩, ih more⟩
      · obtain ⟨others, more, rfl⟩ := Option.map_eq_some_iff.mp gathered
        exact List.forall_mem_cons.mpr ⟨⟨le_rfl, one_le_two⟩, ih more⟩

/-- The channels that are read for a format, as wide as they are read. -/
def SampleFormat.channels : SampleFormat → List Channel
  | .xy => [⟨descX, 2⟩, ⟨descY, 2⟩]
  | .xyrgb => [⟨descX, 2⟩, ⟨descY, 2⟩, ⟨descRed638, 1⟩, ⟨descGreen532, 1⟩, ⟨descBlue460, 1⟩]
  | .xyrgbi => [⟨descX, 2⟩, ⟨descY, 2⟩, ⟨descRed638, 1⟩, ⟨descGreen532, 1⟩, ⟨descBlue460, 1⟩, ⟨descIntensity, 1⟩]
  | .xyrgbHighRes => [⟨descX, 2⟩, ⟨descY, 2⟩, ⟨descRed638, 2⟩, ⟨descGreen532, 2⟩, ⟨descBlue460, 2⟩]
  | .extended =>
    [⟨descX, 2⟩, ⟨descY, 2⟩, ⟨descRed638, 2⟩, ⟨descGreen532, 2⟩, ⟨descBlue460, 2⟩, ⟨descIntensity, 2⟩, ⟨descUser1, 2⟩,
      ⟨descUser2, 2⟩, ⟨descUser3, 2⟩, ⟨descXPrime, 2⟩]

/-- Where the parser reads the channels of a format. -/
def SampleFormat.layout (format : SampleFormat) : List Slot := place 0 format.channels

/-- The number in a channel's place in a sample. -/
def channelValue (layout : List Slot) (sample : List UInt8) (id : UInt16) : Nat :=
  match layout.find? fun slot => slot.id = id with
  | some slot => beAt sample slot.offset slot.width
  | none => 0

/-- The point with these values in its channels. -/
def SampleFormat.pointOf (format : SampleFormat) (value : UInt16 → Nat) : ReceivedPoint :=
  let coordinate (id : UInt16) : ℚ := normalizeI16Coordinate (UInt16.ofNat (value id)).toInt16
  let byte (id : UInt16) : ℚ := scaleU8 (UInt8.ofNat (value id))
  let word (id : UInt16) : ℚ := scaleU16 (UInt16.ofNat (value id))
  let (r, g, b) : ℚ × ℚ × ℚ := match format with
    | .xy => (0, 0, 0)
    | .xyrgb => (byte descRed638, byte descGreen532, byte descBlue460)
    | .xyrgbi => (byte descRed638 * byte descIntensity, byte descGreen532 * byte descIntensity,
        byte descBlue460 * byte descIntensity)
    | .xyrgbHighRes => (word descRed638, word descGreen532, word descBlue460)
    | .extended => (word descRed638 * word descIntensity, word descGreen532 * word descIntensity,
        word descBlue460 * word descIntensity)
  { x := coordinate descX, y := coordinate descY, r, g, b }

theorem readPoint_layout (format : SampleFormat) {sample : List UInt8} (whole : sample.length = format.sampleSize) :
    (readPoint format).run ⟨sample, 0⟩ =
      some (format.pointOf (channelValue format.layout sample), ⟨sample, format.sampleSize⟩) := by
  cases format with
  | extended =>
    simp only [SampleFormat.sampleSize] at whole
    have each : ∀ position, position + 2 ≤ sample.length →
        ∃ value, readU16.run ⟨sample, position⟩ = some (value, ⟨sample, position + 2⟩) :=
      fun _ room => ⟨_, run_readU16 room⟩
    obtain ⟨users, skipped⟩ := run_readMany each 4 (by omega : 12 + 4 * 2 ≤ sample.length)
    simp (disch := omega) only [readPoint, readColors, StateT.run_bind, StateT.run_pure, run_readI16, run_readU16,
      skipped, Option.bind_eq_bind, Option.bind_some, Option.pure_def, Nat.reduceAdd, Nat.reduceMul]
    rfl
  | _ =>
    simp only [SampleFormat.sampleSize] at whole
    simp (disch := omega) only [readPoint, readColors, StateT.run_bind, StateT.run_pure, run_readI16, run_readU8,
      run_readU16, Option.bind_eq_bind, Option.bind_some, Option.pure_def, Nat.reduceAdd]
    rfl

theorem matchFormat_ids {ids : List UInt16} {totalBytes : Nat} (matched : matchFormat ids totalBytes = some format) :
    ids = format.channels.map Channel.id ∧ totalBytes = format.sampleSize := by
  unfold matchFormat at matched
  split_ifs at matched with xy xyrgb highRes xyrgbi extended
  all_goals
    obtain rfl := Option.some.inj matched
    assumption

theorem SampleFormat.channels_shape (format : SampleFormat) :
    ∃ rest width, format.channels = ⟨descX, 2⟩ :: ⟨descY, 2⟩ :: rest ∧ (width = 1 ∨ width = 2) ∧
      (∀ channel ∈ rest, channel.bytes = width) ∧ format.sampleSize = 4 + width * rest.length := by
  cases format with
  | xy => exact ⟨[], 1, rfl, .inl rfl, by simp, rfl⟩
  | xyrgb | xyrgbi => exact ⟨_, 1, rfl, .inl rfl, by simp, rfl⟩
  | xyrgbHighRes | extended => exact ⟨_, 2, rfl, .inr rfl, by simp, rfl⟩

variable {channels : List Channel}

theorem sum_bytes_bounds (bytes : ∀ channel ∈ channels, 1 ≤ channel.bytes ∧ channel.bytes ≤ 2) :
    channels.length ≤ (channels.map Channel.bytes).sum ∧ (channels.map Channel.bytes).sum ≤ 2 * channels.length := by
  induction channels with
  | nil => simp
  | cons channel channels ih =>
    obtain ⟨here, others⟩ := List.forall_mem_cons.mp bytes
    have := ih others
    rw [List.map_cons, List.sum_cons, List.length_cons]
    omega

theorem uniform_eq {expected : List Channel} {width : Nat} (extreme : width = 1 ∨ width = 2)
    (uniform : ∀ channel ∈ expected, channel.bytes = width) (ids : channels.map Channel.id = expected.map Channel.id)
    (bytes : ∀ channel ∈ channels, 1 ≤ channel.bytes ∧ channel.bytes ≤ 2)
    (total : (channels.map Channel.bytes).sum = width * expected.length) : channels = expected := by
  induction expected generalizing channels with
  | nil => exact List.map_eq_nil_iff.mp ids
  | cons first expected ih =>
    obtain ⟨⟨id, size⟩, rest, rfl, sameId, ids⟩ := List.map_eq_cons_iff.mp ids
    obtain ⟨firstWidth, uniform⟩ := List.forall_mem_cons.mp uniform
    obtain ⟨here, others⟩ := List.forall_mem_cons.mp bytes
    have bounds := sum_bytes_bounds others
    have count : rest.length = expected.length := by simpa using congrArg List.length ids
    rw [List.map_cons, List.sum_cons, List.length_cons, Nat.mul_add, Nat.mul_one] at total
    simp only at here total
    have sameSize : size = width := by
      rcases extreme with rfl | rfl
      all_goals omega
    rw [ih uniform ids others (by omega)]
    congr 1
    obtain ⟨firstId, firstSize⟩ := first
    obtain rfl : id = firstId := sameId
    obtain rfl : firstSize = width := firstWidth
    rw [sameSize]

theorem channels_eq (ids : channels.map Channel.id = format.channels.map Channel.id)
    (total : (channels.map Channel.bytes).sum = format.sampleSize)
    (bytes : ∀ channel ∈ channels, 1 ≤ channel.bytes ∧ channel.bytes ≤ 2)
    (wide : ∀ channel ∈ channels.take 2, channel.bytes = 2) : channels = format.channels := by
  obtain ⟨rest, width, shape, extreme, uniform, size⟩ := format.channels_shape
  rw [shape] at ids ⊢
  obtain ⟨⟨_, x⟩, _, rfl, rfl, afterX⟩ := List.map_eq_cons_iff.mp ids
  obtain ⟨⟨_, y⟩, _, rfl, rfl, afterY⟩ := List.map_eq_cons_iff.mp afterX
  obtain ⟨rfl, rfl⟩ : x = 2 ∧ y = 2 := by simpa using wide
  simp only [List.map_cons, List.sum_cons] at total
  have others := (List.forall_mem_cons.mp (List.forall_mem_cons.mp bytes).2).2
  rw [uniform_eq extreme uniform afterY others (by omega)]

theorem classifyFormat_eq_some (accepted : classifyFormat descriptors = some format) :
    ∃ channels, gatherChannels 0 descriptors = some channels ∧
      channels.map Channel.id = format.channels.map Channel.id ∧
      (channels.map Channel.bytes).sum = format.sampleSize := by
  obtain ⟨channels, gathered, matched⟩ := Option.bind_eq_some_iff.mp accepted
  exact ⟨channels, gathered, matchFormat_ids matched⟩

theorem place_take_widths (offset : Nat) (channels : List Channel) (count : Nat) :
    ((place offset channels).take count).map Slot.width = (channels.take count).map Channel.bytes := by
  induction channels generalizing offset count with
  | nil => simp [place]
  | cons channel channels ih =>
    cases count with
    | zero => rfl
    | succ =>
      rw [place, List.take_succ_cons, List.take_succ_cons, List.map_cons, List.map_cons, ih]

/-- An accepted format places every channel where the parser reads it if the first two channels, X and Y, are wide. -/
theorem walk_layout (accepted : classifyFormat descriptors = some format)
    (wide : ∀ slot ∈ (walk 0 0 descriptors).take 2, slot.width = 2) : walk 0 0 descriptors = format.layout := by
  obtain ⟨channels, gathered, ids, total⟩ := classifyFormat_eq_some accepted
  rw [walk_gathered gathered] at wide ⊢
  have wideChannels : ∀ channel ∈ channels.take 2, channel.bytes = 2 := by
    have widths := place_take_widths 0 channels 2
    intro channel member
    have listed : channel.bytes ∈ ((place 0 channels).take 2).map Slot.width := by
      rw [widths]
      exact List.mem_map_of_mem member
    obtain ⟨slot, here, same⟩ := List.mem_map.mp listed
    rw [← same]
    exact wide slot here
  rw [channels_eq ids total (gatherChannels_bytes gathered) wideChannels]
  rfl

/-- The format the parser is to find for a point format. -/
def PointFormat.sampleFormat : PointFormat → SampleFormat
  | .xyrgbi => .xyrgbi
  | .xyrgbHighRes => .xyrgbHighRes
  | .extended => .extended

/-- The words of a channel: its tag, and the precision modifier if it is wide. -/
def Channel.words (channel : Channel) : List UInt16 :=
  if channel.bytes = 2 then [channel.id, descPrecision16bit] else [channel.id]

/-- Descriptors of these channels with zero words in front of each, as many as the numbers say, and at the end. -/
def padded (tail : Nat) : List Channel → List Nat → List UInt16
  | [], _ => List.replicate tail 0
  | channel :: channels, pads =>
    List.replicate (pads.headD 0) 0 ++ channel.words ++ padded tail channels pads.tail

def Channel.IsTag (channel : Channel) : Prop :=
  channel.id &&& 0xF000 ≠ 0x0000 ∧ channel.id &&& 0xFF00 ≠ 0x1000 ∧ channel.id &&& 0xF000 ≠ 0x1000 ∧
    channel.id ≠ descPrecision16bit ∧ (channel.bytes = 1 ∨ channel.bytes = 2)

instance (channel : Channel) : Decidable channel.IsTag := by
  unfold Channel.IsTag
  infer_instance

theorem gatherChannels_zeros (count : Nat) (rest : List UInt16) :
    gatherChannels 0 (List.replicate count 0 ++ rest) = gatherChannels 0 rest := by
  induction count with
  | zero => rfl
  | succ count ih => exact ih

theorem padded_head (tail : Nat) {channels : List Channel} (tags : ∀ channel ∈ channels, channel.IsTag)
    (pads : List Nat) : (padded tail channels pads).head? ≠ some descPrecision16bit := by
  have zero : (0 : UInt16) ≠ descPrecision16bit := by decide
  cases channels with
  | nil =>
    cases tail with
    | zero => simp [padded]
    | succ => simpa [padded, List.replicate_succ] using zero
  | cons channel =>
    have tag := (tags channel List.mem_cons_self).2.2.2.1
    rw [padded]
    cases pads.headD 0 with
    | zero =>
      by_cases wide : channel.bytes = 2
      all_goals simpa [Channel.words, wide] using tag
    | succ => simpa [List.replicate_succ] using zero

theorem gatherChannels_padded (tail : Nat) {channels : List Channel} (tags : ∀ channel ∈ channels, channel.IsTag)
    (pads : List Nat) : gatherChannels 0 (padded tail channels pads) = some channels := by
  induction channels generalizing pads with
  | nil =>
    have zeros := gatherChannels_zeros tail []
    rw [List.append_nil] at zeros
    exact zeros
  | cons channel channels ih =>
    obtain ⟨tag, others⟩ := List.forall_mem_cons.mp tags
    obtain ⟨void, broken, space, precision, width⟩ := tag
    rw [padded, List.append_assoc, gatherChannels_zeros]
    rcases width with narrow | wide
    · have words : channel.words = [channel.id] := if_neg (by omega)
      rw [words, List.singleton_append, gatherChannels, if_neg void, if_neg broken, if_neg space, if_neg precision,
        if_neg (padded_head tail others pads.tail), ih others, ← narrow]
      rfl
    · have words : channel.words = [channel.id, descPrecision16bit] := if_pos wide
      rw [words, List.cons_append, gatherChannels, if_neg void, if_neg broken, if_neg space, if_neg precision]
      change (gatherChannels 0 (padded tail channels pads.tail)).map _ = _
      rw [ih others, ← wide]
      rfl

variable (format : PointFormat)

theorem channels_tags : ∀ channel ∈ format.sampleFormat.channels, channel.IsTag := by
  cases format
  all_goals decide

theorem channels_descriptors : format.sampleFormat.channels.flatMap Channel.words = format.descriptors := by
  cases format
  all_goals rfl

theorem matchFormat_channels (format : SampleFormat) :
    matchFormat (format.channels.map Channel.id) (format.channels.map Channel.bytes).sum = some format := by
  cases format
  all_goals decide

theorem classifyFormat_padded (pads : List Nat) (tail : Nat) :
    classifyFormat (padded tail format.sampleFormat.channels pads) = some format.sampleFormat := by
  rw [classifyFormat, gatherChannels_padded tail (channels_tags format) pads]
  exact matchFormat_channels format.sampleFormat

theorem padded_nil (channels : List Channel) : padded 0 channels [] = channels.flatMap Channel.words := by
  induction channels with
  | nil => rfl
  | cons channel channels ih =>
    rw [List.flatMap_cons, ← ih]
    rfl

/-- The sender's own arrays are accepted. -/
theorem classifyFormat_descriptors : classifyFormat format.descriptors = some format.sampleFormat := by
  rw [← channels_descriptors, ← padded_nil]
  exact classifyFormat_padded format [] 0

/-- The parser reads every channel of an accepted format where the descriptors place it exactly if X and Y, the first
two channels, are wide; and with any zero words in front of its channels and at the end an array of the sender is accepted
with its format. -/
theorem classifyFormat_places (descriptors : List UInt16) (pads : List Nat) (tail : Nat) :
    (∀ format : SampleFormat, classifyFormat descriptors = some format →
      ((walk 0 0 descriptors = format.layout ∧
        ∀ sample, sample.length = format.sampleSize →
          (readPoint format).run ⟨sample, 0⟩ =
            some (format.pointOf (channelValue (walk 0 0 descriptors) sample), ⟨sample, format.sampleSize⟩)) ↔
        ∀ slot ∈ (walk 0 0 descriptors).take 2, slot.width = 2)) ∧
    ∀ format : PointFormat,
      format.sampleFormat.channels.flatMap Channel.words = format.descriptors ∧
      classifyFormat (padded tail format.sampleFormat.channels pads) = some format.sampleFormat := by
  refine ⟨fun format accepted => ⟨fun ⟨same, _⟩ => ?_, fun wide => ?_⟩, fun format => ?_⟩
  · rw [same]
    cases format
    all_goals decide
  · have same := walk_layout accepted wide
    refine ⟨same, fun sample whole => ?_⟩
    rw [same]
    exact readPoint_layout format whole
  · exact ⟨channels_descriptors format, classifyFormat_padded format pads tail⟩

theorem classifyFormat_places_xyrgb :
    classifyFormat [0, descX, descPrecision16bit, descY, descPrecision16bit, descRed638, descGreen532, descBlue460] =
      some .xyrgb ∧
    walk 0 0 [0, descX, descPrecision16bit, descY, descPrecision16bit, descRed638, descGreen532, descBlue460] =
      SampleFormat.layout .xyrgb :=
  have accepted : classifyFormat [0, descX, descPrecision16bit, descY, descPrecision16bit, descRed638, descGreen532,
      descBlue460] = some .xyrgb := by decide +kernel
  ⟨accepted, (((classifyFormat_places _ [] 0).1 _ accepted).mpr (by decide +kernel)).1⟩

/-- Eight-bit coordinates with two wide colours have the size of a sample with wide coordinates: the array is accepted,
and the byte of Y is read as the low byte of X. -/
theorem classifyFormat_narrow_coordinates :
    classifyFormat [descX, descY, descRed638, descPrecision16bit, descGreen532, descPrecision16bit, descBlue460, 0] =
      some .xyrgb ∧
    walk 0 0 [descX, descY, descRed638, descPrecision16bit, descGreen532, descPrecision16bit, descBlue460, 0] =
      [⟨descX, 0, 1⟩, ⟨descY, 1, 1⟩, ⟨descRed638, 2, 2⟩, ⟨descGreen532, 4, 2⟩, ⟨descBlue460, 6, 1⟩] ∧
    SampleFormat.layout .xyrgb =
      [⟨descX, 0, 2⟩, ⟨descY, 2, 2⟩, ⟨descRed638, 4, 1⟩, ⟨descGreen532, 5, 1⟩, ⟨descBlue460, 6, 1⟩] := by
  decide +kernel

end LaserDac.Idn
