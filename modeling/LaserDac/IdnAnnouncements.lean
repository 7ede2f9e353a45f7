import LaserDac.IdnParser

/-!
What an IDN server says of itself: the scan response, the service map and acknowledgements, with the server's builders
and the client's readers. Names stand in padded fields of 20 bytes; the client's receive buffer cuts a long service
map.
-/

namespace LaserDac.Idn

open LaserDac.Cursors

/-- `str::as_bytes` -/
def asBytes (s : String) : List UInt8 := s.toByteArray.data.toList

/-- `str::char_indices`, from this index on. -/
def charIndices : Nat → List Char → List (Nat × Char)
  | _, [] => []
  | index, char :: rest => (index, char) :: charIndices (index + char.utf8Size) rest

/-- The largest index up to `max` that lies on a character boundary. -/
def floorCharBoundary (s : String) (max : Nat) : Nat :=
  if max ≥ (asBytes s).length then (asBytes s).length
  else (((charIndices 0 s.toList).takeWhile (·.1 ≤ max)).getLast?.map Prod.fst).getD 0

def zeroPadded (size : Nat) (bytes : List UInt8) : List UInt8 := bytes ++ List.replicate (size - bytes.length) 0

def copyPaddedName (size : Nat) (s : String) : List UInt8 :=
  zeroPadded size ((asBytes s).take (floorCharBoundary s size))

/-- Up to the first zero; text that is not UTF-8 is dropped. -/
def nullTerminatedStr (bytes : List UInt8) : String :=
  (String.fromUTF8? (bytes.take (bytes.idxOf 0)).toByteArray).getD ""

/-- The longest text that the name begins with and that fits into so many bytes. -/
structure Shortens (max : Nat) (name short : String) : Prop where
  begins : short.toList <+: name.toList
  fits : (asBytes short).length ≤ max
  longest : ∀ other : String, other.toList <+: name.toList → (asBytes other).length ≤ max →
    other.toList <+: short.toList

def encoded (chars : List Char) : List UInt8 := chars.flatMap String.utf8EncodeChar

theorem asBytes_eq (s : String) : asBytes s = encoded s.toList := by
  rw [asBytes, ← String.utf8Encode_toList]
  exact List.toList_data_toByteArray

@[simp] theorem encoded_append (first second : List Char) :
    encoded (first ++ second) = encoded first ++ encoded second :=
  List.flatMap_append

theorem encoded_cons_length (char : Char) (chars : List Char) :
    (encoded (char :: chars)).length = char.utf8Size + (encoded chars).length := by
  rw [encoded, List.flatMap_cons, List.length_append, String.length_utf8EncodeChar, encoded]

theorem zero_notMem_utf8EncodeChar {char : Char} (nonzero : char ≠ '\x00') : 0 ∉ String.utf8EncodeChar char := by
  have value : char.val.toNat ≠ 0 := by
    intro zero
    exact nonzero (Char.ext (UInt32.toNat_inj.mp zero))
  have byte (n : Nat) (low : 0 < n) (high : n < 256) : 0 ≠ UInt8.ofNat n := by
    intro zero
    have same := congrArg UInt8.toNat zero
    rw [UInt8.toNat_ofNat_of_lt' high] at same
    exact low.ne same
  unfold String.utf8EncodeChar
  dsimp only
  -- all bytes of a longer character have their top bit set
  split
  · simp only [List.mem_singleton]
    exact byte _ (by omega) (by omega)
  · split
    · simp only [List.mem_cons, List.not_mem_nil, or_false, not_or]
      exact ⟨byte _ (by omega) (by omega), byte _ (by omega) (by omega)⟩
    · split
      · simp only [List.mem_cons, List.not_mem_nil, or_false, not_or]
        exact ⟨byte _ (by omega) (by omega), byte _ (by omega) (by omega), byte _ (by omega) (by omega)⟩
      · simp only [List.mem_cons, List.not_mem_nil, or_false, not_or]
        exact ⟨byte _ (by omega) (by omega), byte _ (by omega) (by omega), byte _ (by omega) (by omega),
          byte _ (by omega) (by omega)⟩

theorem charIndices_last {chars : List Char} {index max : Nat} (start : index ≤ max)
    (beyond : max < index + (encoded chars).length) :
    ∃ before char after, chars = before ++ char :: after ∧
      ((charIndices index chars).takeWhile (·.1 ≤ max)).getLast? = some (index + (encoded before).length, char) ∧
      index + (encoded before).length ≤ max ∧ max < index + (encoded before).length + char.utf8Size := by
  induction chars generalizing index with
  | nil => exact absurd beyond (Nat.not_lt.mpr start)
  | cons char chars ih =>
    rw [encoded_cons_length] at beyond
    rw [charIndices, List.takeWhile_cons_of_pos (by simpa using start)]
    by_cases onward : index + char.utf8Size ≤ max
    · obtain ⟨before, last, after, rfl, found, low, high⟩ := ih onward (by omega)
      refine ⟨char :: before, last, after, rfl, ?_, ?_⟩
      · rw [encoded_cons_length, List.getLast?_cons, found, Option.getD_some, ← Nat.add_assoc]
      · rw [encoded_cons_length, ← Nat.add_assoc]
        exact ⟨low, high⟩
    · refine ⟨[], char, chars, rfl, ?_, start, by simpa [encoded] using onward⟩
      have none : (charIndices (index + char.utf8Size) chars).takeWhile (·.1 ≤ max) = [] := by
        cases chars with
        | nil => rfl
        | cons => exact List.takeWhile_cons_of_neg (by simpa using onward)
      rw [none]
      rfl

theorem floorCharBoundary_spec (s : String) (max : Nat) :
    ∃ short, Shortens max s short ∧ floorCharBoundary s max = (asBytes short).length := by
  unfold floorCharBoundary
  split
  · next fits => exact ⟨s, ⟨List.prefix_refl _, fits, fun _ begins _ => begins⟩, rfl⟩
  · next beyond =>
    rw [asBytes_eq] at beyond
    obtain ⟨before, char, after, split, found, low, high⟩ :=
      charIndices_last (Nat.zero_le max) (by omega : max < 0 + (encoded s.toList).length)
    rw [Nat.zero_add] at low high
    have bytes : asBytes (String.ofList before) = encoded before := by rw [asBytes_eq, String.toList_ofList]
    refine ⟨String.ofList before, ⟨?_, ?_, fun other begins fits => ?_⟩, ?_⟩
    · rw [String.toList_ofList, split]
      exact List.prefix_append _ _
    · rw [bytes]
      exact low
    · rw [String.toList_ofList]
      by_cases short : other.toList.length ≤ before.length
      · exact List.prefix_of_prefix_length_le begins (split ▸ List.prefix_append _ _) short
      · have more : before ++ [char] <+: other.toList := by
          refine List.prefix_of_prefix_length_le ?_ begins ?_
          · rw [split]
            exact ⟨after, by simp⟩
          · rw [List.length_append, List.length_singleton]
            omega
        obtain ⟨rest, whole⟩ := more
        rw [asBytes_eq, ← whole, encoded_append, encoded_append, List.length_append, List.length_append,
          encoded_cons_length] at fits
        omega
    · rw [found, bytes]
      simp

theorem asBytes_prefix {name short : String} (begins : short.toList <+: name.toList) :
    (asBytes name).take (asBytes short).length = asBytes short := by
  obtain ⟨rest, whole⟩ := begins
  rw [asBytes_eq name, ← whole, encoded_append, ← asBytes_eq, List.take_left]

theorem nullTerminatedStr_copyPaddedName {name : String} (size : Nat) (noZero : '\x00' ∉ name.toList) :
    Shortens size name (nullTerminatedStr (copyPaddedName size name)) := by
  obtain ⟨short, shortens, boundary⟩ := floorCharBoundary_spec name size
  have bytes : copyPaddedName size name = zeroPadded size (asBytes short) := by
    rw [copyPaddedName, boundary, asBytes_prefix shortens.begins]
  have nonzero : 0 ∉ asBytes short := by
    rw [asBytes_eq, encoded, List.mem_flatMap]
    rintro ⟨char, member, zero⟩
    exact zero_notMem_utf8EncodeChar (fun same => noZero (same ▸ shortens.begins.subset member)) zero
  have text : nullTerminatedStr (zeroPadded size (asBytes short)) = short := by
    have ends : (zeroPadded size (asBytes short)).idxOf 0 = (asBytes short).length := by
      rw [zeroPadded, List.idxOf_append_of_notMem nonzero]
      cases size - (asBytes short).length with
      | zero => rfl
      | succ => rw [List.replicate_succ, List.idxOf_cons_self, Nat.add_zero]
    rw [nullTerminatedStr, ends, zeroPadded, List.take_left]
    have valid : (asBytes short).toByteArray = short.toByteArray := ByteArray.ext List.data_toByteArray
    rw [valid, String.fromUTF8?, dif_pos short.isValidUTF8]
    rfl
  rw [bytes, text]
  exact shortens

@[simp] theorem copyPaddedName_length (size : Nat) (name : String) : (copyPaddedName size name).length = size := by
  obtain ⟨short, shortens, boundary⟩ := floorCharBoundary_spec name size
  have fits := shortens.fits
  rw [copyPaddedName, boundary, asBytes_prefix shortens.begins, zeroPadded, List.length_append, List.length_replicate]
  omega

def idncmdScanResponse : UInt8 := 0x11
def idncmdServicemapResponse : UInt8 := 0x13
def idncmdRtAck : UInt8 := 0x47

structure Relay where
  relayNumber : UInt8
  name : String
  deriving DecidableEq, Repr

structure Service where
  serviceId : UInt8
  serviceType : UInt8
  name : String
  flags : UInt8
  relayNumber : UInt8
  deriving DecidableEq, Repr

def buildScanResponse (flags : UInt8) (sequence : UInt16) (unitId : Vector UInt8 16) (hostname : String)
    (protocolVersion status : UInt8) : List UInt8 :=
  PacketHeader.write ⟨idncmdScanResponse, flags, sequence⟩ ++ [40, protocolVersion, status, 0x00] ++ unitId.toList ++
    copyPaddedName 20 hostname

def writeRelay (relay : Relay) : List UInt8 :=
  [0x00, 0x00, 0x00, relay.relayNumber] ++ copyPaddedName 20 relay.name

def writeService (service : Service) : List UInt8 :=
  [service.serviceId, service.serviceType, service.flags, service.relayNumber] ++ copyPaddedName 20 service.name

def buildServicemapResponse (flags : UInt8) (sequence : UInt16) (services : List Service) (relays : List Relay) :
    List UInt8 :=
  PacketHeader.write ⟨idncmdServicemapResponse, flags, sequence⟩ ++
    [4, 24, UInt8.ofNat relays.length, UInt8.ofNat services.length] ++ relays.flatMap writeRelay ++
    services.flatMap writeService

/-- The latency takes four bytes. -/
def buildAckResponseFull (flags : UInt8) (sequence : UInt16) (resultCode linkQuality : UInt8) (latencyUs : UInt32) :
    List UInt8 :=
  PacketHeader.write ⟨idncmdRtAck, flags, sequence⟩ ++
    [12, resultCode, 0x00, 0x00, 0x00, 0x00, 0x00, linkQuality] ++ writeU32 latencyUs

/-! ### The client's readers -/

def PacketHeader.read : Reader PacketHeader := do
  let command ← readU8
  let flags ← readU8
  let sequence ← readU16
  return { command, flags, sequence }

structure ScanResponse where
  structSize : UInt8
  protocolVersion : UInt8
  status : UInt8
  reserved : UInt8
  unitId : List UInt8
  hostname : List UInt8
  deriving DecidableEq, Repr

namespace ScanResponse

def sizeBytes : Nat := 40

def read : Reader ScanResponse := do
  let structSize ← readU8
  let protocolVersion ← readU8
  let status ← readU8
  let reserved ← readU8
  let unitId ← readMany readU8 16
  let hostname ← readMany readU8 20
  return { structSize, protocolVersion, status, reserved, unitId, hostname }

def hostnameStr (response : ScanResponse) : String := nullTerminatedStr response.hostname

end ScanResponse

/-- Only addresses of IPv4 are supported. -/
def processScanResponse (data : List UInt8) (isIpv4 : Bool) : Option ScanResponse :=
  if data.length < PacketHeader.sizeBytes + ScanResponse.sizeBytes then none
  else do
    let (header, cursor) ← PacketHeader.read.run ⟨data, 0⟩
    if header.command ≠ idncmdScanResponse then none
    else do
      let (response, _) ← ScanResponse.read.run cursor
      if isIpv4 then some response else none

structure ServiceMapResponseHeader where
  structSize : UInt8
  entrySize : UInt8
  relayEntryCount : UInt8
  serviceEntryCount : UInt8
  deriving DecidableEq, Repr

def ServiceMapResponseHeader.sizeBytes : Nat := 4

def ServiceMapResponseHeader.read : Reader ServiceMapResponseHeader := do
  let structSize ← readU8
  let entrySize ← readU8
  let relayEntryCount ← readU8
  let serviceEntryCount ← readU8
  return { structSize, entrySize, relayEntryCount, serviceEntryCount }

structure ServiceMapEntry where
  serviceId : UInt8
  serviceType : UInt8
  flags : UInt8
  relayNumber : UInt8
  name : List UInt8
  deriving DecidableEq, Repr

namespace ServiceMapEntry

def sizeBytes : Nat := 24

def read : Reader ServiceMapEntry := do
  let serviceId ← readU8
  let serviceType ← readU8
  let flags ← readU8
  let relayNumber ← readU8
  let name ← readMany readU8 20
  return { serviceId, serviceType, flags, relayNumber, name }

def nameStr (entry : ServiceMapEntry) : String := nullTerminatedStr entry.name

end ServiceMapEntry

inductive ServiceType where
  | laserProjector
  | uart
  | dmx512
  | unknown (value : UInt8)
  deriving DecidableEq, Repr

def ServiceType.fromByte (value : UInt8) : ServiceType :=
  if 0x80 ≤ value ∧ value ≤ 0xBF then .laserProjector
  else if value = 0x04 then .uart
  else if value = 0x05 then .dmx512
  else .unknown value

/-- What the client knows of a relay. -/
structure RelayInfo where
  relayNumber : UInt8
  name : String
  deriving DecidableEq, Repr

def RelayInfo.fromEntry (entry : ServiceMapEntry) : RelayInfo where
  relayNumber := entry.relayNumber
  name := entry.nameStr

/-- What the client knows of a service. -/
structure ServiceInfo where
  serviceId : UInt8
  serviceType : ServiceType
  name : String
  flags : UInt8
  relayNumber : UInt8
  deriving DecidableEq, Repr

def ServiceInfo.fromEntry (entry : ServiceMapEntry) : ServiceInfo where
  serviceId := entry.serviceId
  serviceType := .fromByte entry.serviceType
  name := entry.nameStr
  flags := entry.flags
  relayNumber := entry.relayNumber

/-- `&bytes[..count]` -/
def sliceTo (count : Nat) (bytes : List UInt8) : Except Halt (List UInt8) :=
  orCrash (if count ≤ bytes.length then some (bytes.take count) else none)

/-- `&bytes[start..]` -/
def sliceFrom (start : Nat) (bytes : List UInt8) : Except Halt (List UInt8) :=
  orCrash (if start ≤ bytes.length then some (bytes.drop start) else none)

/-- `entry_buf[..bytes.len()].copy_from_slice(bytes)` with an array of zeros. -/
def copyIntoEntry (bytes : List UInt8) : Except Halt (List UInt8) :=
  orCrash (if bytes.length ≤ ServiceMapEntry.sizeBytes then some (zeroPadded ServiceMapEntry.sizeBytes bytes) else none)

/-- Up to `count` entries, as long as a whole one is left; with them, what is left after them. -/
def parseServiceMapEntries {T : Type} (convert : ServiceMapEntry → T) (entrySize : Nat) :
    Nat → List UInt8 → Except Halt (List T × List UInt8)
  | 0, cursor => .ok ([], cursor)
  | count + 1, cursor =>
    if cursor.length < entrySize then .ok ([], cursor)
    else do
      let bytes ← sliceTo (min entrySize ServiceMapEntry.sizeBytes) cursor
      let entryBuf ← copyIntoEntry bytes
      let (entry, _) ← orFail (ServiceMapEntry.read.run ⟨entryBuf, 0⟩)
      let cursor ← sliceFrom entrySize cursor
      let (entries, cursor) ← parseServiceMapEntries convert entrySize count cursor
      return (convert entry :: entries, cursor)

def skipHeaderExtra (mapHeader : ServiceMapResponseHeader) (cursor : List UInt8) : Except Halt (List UInt8) :=
  let headerExtra := mapHeader.structSize.toNat - ServiceMapResponseHeader.sizeBytes
  if headerExtra > 0 ∧ cursor.length ≥ headerExtra then sliceFrom headerExtra cursor else .ok cursor

def parseServiceMap (mapHeader : ServiceMapResponseHeader) (cursor : List UInt8) :
    Except Halt (List RelayInfo × List ServiceInfo) := do
  let cursor ← skipHeaderExtra mapHeader cursor
  let entrySize := mapHeader.entrySize.toNat
  let (relays, cursor) ← parseServiceMapEntries .fromEntry entrySize mapHeader.relayEntryCount.toNat cursor
  let (services, _) ← parseServiceMapEntries .fromEntry entrySize mapHeader.serviceEntryCount.toNat cursor
  return (relays, services)

/-- What the client makes of a datagram: nothing, if it is not the response that it waits for. -/
def decodeServiceMap (expectedSeq : UInt16) (data : List UInt8) :
    Except Halt (Option (List RelayInfo × List ServiceInfo)) :=
  if data.length < PacketHeader.sizeBytes + ServiceMapResponseHeader.sizeBytes then .ok none
  else
    match PacketHeader.read.run ⟨data, 0⟩ with
    | none => .ok none
    | some (header, cursor) =>
      if header.command ≠ idncmdServicemapResponse ∨ header.sequence ≠ expectedSeq then .ok none
      else do
        let (mapHeader, cursor) ← orFail (ServiceMapResponseHeader.read.run cursor)
        let found ← parseServiceMap mapHeader cursor.ahead
        return some found

/-- The client's receive buffer. -/
def recvBufferSize : Nat := 1500

/-- The datagrams that arrive before the deadline, one after another until the response is among them. What does not
fit into the receive buffer is discarded. -/
def recvServiceMap (expectedSeq : UInt16) : List (List UInt8) → Except Halt (Option (List RelayInfo × List ServiceInfo))
  | [] => .ok none
  | datagram :: later => do
    match ← decodeServiceMap expectedSeq (datagram.take recvBufferSize) with
    | none => recvServiceMap expectedSeq later
    | some found => return some found

/-- An acknowledgement as the client lays it out. -/
structure AcknowledgeResponse where
  structSize : UInt8
  resultCode : Int8
  inputEventFlags : UInt16
  pipelineEventFlags : UInt16
  statusFlags : UInt8
  linkQuality : UInt8
  latencyUs : UInt16
  deriving DecidableEq, Repr

namespace AcknowledgeResponse

def sizeBytes : Nat := 10

def read : Reader AcknowledgeResponse := do
  let structSize ← readU8
  let resultCode ← readU8
  let inputEventFlags ← readU16
  let pipelineEventFlags ← readU16
  let statusFlags ← readU8
  let linkQuality ← readU8
  let latencyUs ← readU16
  return {
    structSize, resultCode := resultCode.toInt8, inputEventFlags, pipelineEventFlags, statusFlags, linkQuality,
    latencyUs }

end AcknowledgeResponse

variable {bytes : List UInt8} {entrySize : Nat}

theorem takes_octets {count : Nat} (length : bytes.length = count) : Takes (readMany readU8 count) bytes bytes := by
  have takes := Takes.many Takes.u8 bytes
  have flat : bytes.flatMap writeU8 = bytes := List.flatMap_singleton' bytes
  rwa [flat, List.map_id', length] at takes

theorem PacketHeader.takes (header : PacketHeader) : Takes PacketHeader.read header.write header := by
  have takes : Takes PacketHeader.read (_ ++ (_ ++ _)) header :=
    (Takes.u8 header.command).bind ((Takes.u8 header.flags).bind ((Takes.u16 header.sequence).map _))
  rwa [PacketHeader.write, List.append_assoc]

theorem ScanResponse.takes (structSize protocolVersion status reserved : UInt8) {unitId hostname : List UInt8}
    (unitId_length : unitId.length = 16) (hostname_length : hostname.length = 20) :
    Takes ScanResponse.read ([structSize, protocolVersion, status, reserved] ++ (unitId ++ hostname))
      ⟨structSize, protocolVersion, status, reserved, unitId, hostname⟩ :=
  (Takes.u8 _).bind ((Takes.u8 _).bind ((Takes.u8 _).bind ((Takes.u8 _).bind
    ((takes_octets unitId_length).bind ((takes_octets hostname_length).map _)))))

theorem ServiceMapResponseHeader.takes (structSize entrySize relayEntryCount serviceEntryCount : UInt8) :
    Takes ServiceMapResponseHeader.read [structSize, entrySize, relayEntryCount, serviceEntryCount]
      ⟨structSize, entrySize, relayEntryCount, serviceEntryCount⟩ :=
  (Takes.u8 _).bind ((Takes.u8 _).bind ((Takes.u8 _).bind ((Takes.u8 _).map _)))

namespace ServiceMapEntry

def write (entry : ServiceMapEntry) : List UInt8 :=
  [entry.serviceId, entry.serviceType, entry.flags, entry.relayNumber] ++ entry.name

theorem write_injective {first second : ServiceMapEntry} (same : first.write = second.write) : first = second := by
  obtain ⟨serviceId, serviceType, flags, relayNumber, name⟩ := first
  simp only [write, List.cons_append, List.nil_append, List.cons.injEq] at same
  obtain ⟨rfl, rfl, rfl, rfl, rfl⟩ := same
  rfl

/-- Any 24 bytes are an entry. -/
theorem read_bytes (length : bytes.length = sizeBytes) :
    ∃ entry : ServiceMapEntry, entry.write = bytes ∧ ∃ after, read.run ⟨bytes, 0⟩ = some (entry, after) := by
  rcases bytes with _ | ⟨serviceId, _ | ⟨serviceType, _ | ⟨flags, _ | ⟨relayNumber, name⟩⟩⟩⟩
  iterate 4 simp [sizeBytes] at length
  have takes : Takes read ([serviceId, serviceType, flags, relayNumber] ++ name)
      ⟨serviceId, serviceType, flags, relayNumber, name⟩ :=
    (Takes.u8 _).bind ((Takes.u8 _).bind ((Takes.u8 _).bind ((Takes.u8 _).bind
      ((takes_octets (by simpa [sizeBytes] using length)).map _))))
  exact ⟨⟨serviceId, serviceType, flags, relayNumber, name⟩, rfl, _, takes ⟨_, 0⟩ [] (List.append_nil _).symm⟩

end ServiceMapEntry

/-! ### The entries of a service map -/

section

variable {T : Type} (convert : ServiceMapEntry → T)

theorem parseServiceMapEntries_short (count : Nat) (short : bytes.length < entrySize) :
    parseServiceMapEntries convert entrySize count bytes = .ok ([], bytes) := by
  cases count with
  | zero => rfl
  | succ => exact if_pos short

/-- The bytes of an entry, of which there may be fewer or more than it takes. -/
def entryBytes (entrySize : Nat) (bytes : List UInt8) : List UInt8 :=
  zeroPadded ServiceMapEntry.sizeBytes (bytes.take (min entrySize ServiceMapEntry.sizeBytes))

theorem parseServiceMapEntries_step (count : Nat) (enough : entrySize ≤ bytes.length) :
    ∃ entry : ServiceMapEntry, entry.write = entryBytes entrySize bytes ∧
      ∀ entries rest, parseServiceMapEntries convert entrySize count (bytes.drop entrySize) = .ok (entries, rest) →
        parseServiceMapEntries convert entrySize (count + 1) bytes = .ok (convert entry :: entries, rest) := by
  have taken : sliceTo (min entrySize ServiceMapEntry.sizeBytes) bytes =
      .ok (bytes.take (min entrySize ServiceMapEntry.sizeBytes)) := by
    rw [sliceTo, if_pos ((Nat.min_le_left _ _).trans enough)]
    rfl
  have small : (bytes.take (min entrySize ServiceMapEntry.sizeBytes)).length ≤ ServiceMapEntry.sizeBytes :=
    (List.length_take_le _ _).trans (Nat.min_le_right _ _)
  have copied : copyIntoEntry (bytes.take (min entrySize ServiceMapEntry.sizeBytes)) =
      .ok (entryBytes entrySize bytes) := by
    rw [copyIntoEntry, if_pos small]
    rfl
  have dropped : sliceFrom entrySize bytes = .ok (bytes.drop entrySize) := by
    rw [sliceFrom, if_pos enough]
    rfl
  have length : (entryBytes entrySize bytes).length = ServiceMapEntry.sizeBytes := by
    rw [entryBytes, zeroPadded, List.length_append, List.length_replicate]
    exact Nat.add_sub_of_le small
  obtain ⟨entry, written, after, read⟩ := ServiceMapEntry.read_bytes length
  refine ⟨entry, written, fun entries rest onward => ?_⟩
  rw [parseServiceMapEntries, if_neg (Nat.not_lt.mpr enough), taken]
  change (copyIntoEntry _ >>= _) = _
  rw [copied]
  change (orFail (ServiceMapEntry.read.run ⟨entryBytes entrySize bytes, 0⟩) >>= _) = _
  rw [read]
  change (sliceFrom entrySize bytes >>= _) = _
  rw [dropped]
  change (parseServiceMapEntries convert entrySize count (bytes.drop entrySize) >>= _) = _
  rw [onward]
  rfl

/-- The entry is what stands at this position, and all of its bytes are inside. -/
structure LiesAt (entrySize : Nat) (bytes : List UInt8) (position : Nat) (entry : ServiceMapEntry) : Prop where
  inside : position + entrySize ≤ bytes.length
  written : entry.write = entryBytes entrySize (bytes.drop position)

theorem LiesAt.behind {start position : Nat} {entry : ServiceMapEntry}
    (lies : LiesAt entrySize (bytes.drop start) position entry) (room : start ≤ bytes.length) :
    LiesAt entrySize bytes (start + position) entry := by
  obtain ⟨inside, written⟩ := lies
  rw [List.length_drop] at inside
  rw [List.drop_drop] at written
  exact ⟨by omega, written⟩

theorem parseServiceMapEntries_inside (entrySize count : Nat) (bytes : List UInt8) :
    ∃ entries : List ServiceMapEntry,
      parseServiceMapEntries convert entrySize count bytes =
        .ok (entries.map convert, bytes.drop (entries.length * entrySize)) ∧
      entries.length ≤ count ∧ entries.length * entrySize ≤ bytes.length ∧
      ∀ i entry, entries[i]? = some entry → LiesAt entrySize bytes (i * entrySize) entry := by
  induction count generalizing bytes with
  | zero => exact ⟨[], by simp [parseServiceMapEntries], le_rfl, by simp, by simp⟩
  | succ count ih =>
    by_cases short : bytes.length < entrySize
    · exact ⟨[], by simpa using parseServiceMapEntries_short convert (count + 1) short, by simp, by simp, by simp⟩
    · have enough := Nat.not_lt.mp short
      obtain ⟨entry, written, step⟩ := parseServiceMapEntries_step convert count enough
      obtain ⟨entries, parsed, bound, room, lies⟩ := ih (bytes.drop entrySize)
      refine ⟨entry :: entries, ?_, Nat.succ_le_succ bound, ?_, fun i found stored => ?_⟩
      · rw [step _ _ parsed, List.drop_drop, List.length_cons, Nat.succ_mul, Nat.add_comm entrySize]
        rfl
      · rw [List.length_drop] at room
        rw [List.length_cons, Nat.succ_mul]
        omega
      · cases i with
        | zero =>
          obtain rfl : entry = found := Option.some.inj stored
          exact ⟨by simpa using enough, by simpa using written⟩
        | succ i =>
          rw [Nat.succ_mul, Nat.add_comm]
          exact (lies i found stored).behind enough

theorem parseServiceMapEntries_written (entries : List ServiceMapEntry)
    (sized : ∀ entry ∈ entries, entry.write.length = ServiceMapEntry.sizeBytes) (more : List UInt8) (length : Nat) :
    parseServiceMapEntries convert ServiceMapEntry.sizeBytes entries.length
        ((entries.flatMap ServiceMapEntry.write ++ more).take length) =
      .ok ((entries.take (length / ServiceMapEntry.sizeBytes)).map convert,
        ((entries.flatMap ServiceMapEntry.write ++ more).take length).drop
          (min entries.length (length / ServiceMapEntry.sizeBytes) * ServiceMapEntry.sizeBytes)) := by
  induction entries generalizing length with
  | nil => simp [parseServiceMapEntries]
  | cons entry entries ih =>
    obtain ⟨first, others⟩ := List.forall_mem_cons.mp sized
    by_cases short : length < ServiceMapEntry.sizeBytes
    · rw [parseServiceMapEntries_short convert _ ((List.length_take_le _ _).trans_lt short), Nat.div_eq_of_lt short]
      simp
    · obtain ⟨length, rfl⟩ := Nat.exists_eq_add_of_le (Nat.not_lt.mp short)
      rw [List.flatMap_cons, List.append_assoc]
      generalize onward : entries.flatMap ServiceMapEntry.write ++ more = rest at ih
      have head : ((entry.write ++ rest).take (ServiceMapEntry.sizeBytes + length)) =
          entry.write ++ rest.take length := by rw [← first, List.take_length_add_append]
      have enough : ServiceMapEntry.sizeBytes ≤ (entry.write ++ rest.take length).length := by
        rw [List.length_append, first]
        exact Nat.le_add_right _ _
      rw [head]
      obtain ⟨found, written, step⟩ := parseServiceMapEntries_step convert entries.length enough
      obtain rfl : found = entry := by
        apply ServiceMapEntry.write_injective
        rw [written, entryBytes, Nat.min_self, List.take_left' first, zeroPadded, first, Nat.sub_self]
        exact List.append_nil _
      rw [List.drop_left' first] at step
      rw [List.length_cons, step _ _ (ih others length), Nat.add_div_left _ (by decide), List.take_succ_cons,
        Nat.succ_min_succ, Nat.succ_mul, Nat.add_comm (_ * _), ← List.drop_drop, List.drop_left' first]
      rfl

end

theorem written_length {entries : List ServiceMapEntry}
    (sized : ∀ entry ∈ entries, entry.write.length = ServiceMapEntry.sizeBytes) :
    (entries.flatMap ServiceMapEntry.write).length = entries.length * ServiceMapEntry.sizeBytes := by
  rw [List.length_flatMap, List.map_congr_left sized, List.map_const', List.sum_replicate, smul_eq_mul]

theorem parseServiceMap_written {relays services : List ServiceMapEntry}
    (relays_sized : ∀ entry ∈ relays, entry.write.length = ServiceMapEntry.sizeBytes)
    (services_sized : ∀ entry ∈ services, entry.write.length = ServiceMapEntry.sizeBytes)
    (relays_bound : relays.length ≤ 255) (services_bound : services.length ≤ 255) (length : Nat) :
    parseServiceMap ⟨4, 24, UInt8.ofNat relays.length, UInt8.ofNat services.length⟩
        ((relays.flatMap ServiceMapEntry.write ++ services.flatMap ServiceMapEntry.write).take length) =
      .ok ((relays.take (length / ServiceMapEntry.sizeBytes)).map .fromEntry,
        (services.take (length / ServiceMapEntry.sizeBytes - relays.length)).map .fromEntry) := by
  have relayCount : (UInt8.ofNat relays.length).toNat = relays.length :=
    UInt8.toNat_ofNat_of_lt' (Nat.lt_succ_of_le relays_bound)
  have serviceCount : (UInt8.ofNat services.length).toNat = services.length :=
    UInt8.toNat_ofNat_of_lt' (Nat.lt_succ_of_le services_bound)
  have rest (convert : ServiceMapEntry → ServiceInfo) : ∃ left,
      parseServiceMapEntries convert ServiceMapEntry.sizeBytes services.length
        (((relays.flatMap ServiceMapEntry.write ++ services.flatMap ServiceMapEntry.write).take length).drop
          (min relays.length (length / ServiceMapEntry.sizeBytes) * ServiceMapEntry.sizeBytes)) =
      .ok ((services.take (length / ServiceMapEntry.sizeBytes - relays.length)).map convert, left) := by
    by_cases all : relays.length ≤ length / ServiceMapEntry.sizeBytes
    · rw [Nat.min_eq_left all, List.drop_take, List.drop_left' (written_length relays_sized), ← Nat.sub_mul_div,
        Nat.mul_comm]
      have parsed := parseServiceMapEntries_written convert services services_sized []
        (length - ServiceMapEntry.sizeBytes * relays.length)
      rw [List.append_nil] at parsed
      exact ⟨_, parsed⟩
    · have some := Nat.not_le.mp all
      rw [Nat.min_eq_right some.le, Nat.sub_eq_zero_of_le some.le]
      refine ⟨_, parseServiceMapEntries_short convert _ ?_⟩
      have longest := List.length_take_le length
        (relays.flatMap ServiceMapEntry.write ++ services.flatMap ServiceMapEntry.write)
      have remainder := Nat.mod_lt length (by decide : ServiceMapEntry.sizeBytes > 0)
      have whole := Nat.div_add_mod' length ServiceMapEntry.sizeBytes
      rw [List.length_drop]
      omega
  obtain ⟨left, parsed⟩ := rest .fromEntry
  rw [parseServiceMap, skipHeaderExtra, if_neg fun extra => Nat.lt_irrefl 0 extra.1, relayCount, serviceCount]
  change (parseServiceMapEntries RelayInfo.fromEntry ServiceMapEntry.sizeBytes _ _ >>= _) = _
  rw [parseServiceMapEntries_written _ relays relays_sized]
  change (parseServiceMapEntries ServiceInfo.fromEntry ServiceMapEntry.sizeBytes _ _ >>= _) = _
  rw [parsed]
  rfl

theorem parseServiceMap_inside (mapHeader : ServiceMapResponseHeader) (bytes : List UInt8) :
    ∃ (relays services : List ServiceMapEntry) (start : Nat),
      parseServiceMap mapHeader bytes = .ok (relays.map .fromEntry, services.map .fromEntry) ∧
      relays.length ≤ mapHeader.relayEntryCount.toNat ∧ services.length ≤ mapHeader.serviceEntryCount.toNat ∧
      ∀ i entry, (relays ++ services)[i]? = some entry →
        LiesAt mapHeader.entrySize.toNat bytes (start + i * mapHeader.entrySize.toNat) entry := by
  obtain ⟨start, room, skipped⟩ : ∃ start ≤ bytes.length, skipHeaderExtra mapHeader bytes = .ok (bytes.drop start) := by
    unfold skipHeaderExtra
    dsimp only
    split
    · next extra =>
      refine ⟨_, extra.2, ?_⟩
      rw [sliceFrom, if_pos extra.2]
      rfl
    · exact ⟨0, Nat.zero_le _, rfl⟩
  let entrySize := mapHeader.entrySize.toNat
  obtain ⟨relays, parsed, relays_bound, relays_room, relays_lie⟩ :=
    parseServiceMapEntries_inside RelayInfo.fromEntry entrySize mapHeader.relayEntryCount.toNat (bytes.drop start)
  obtain ⟨services, rest, services_bound, -, services_lie⟩ :=
    parseServiceMapEntries_inside ServiceInfo.fromEntry entrySize mapHeader.serviceEntryCount.toNat
      ((bytes.drop start).drop (relays.length * entrySize))
  refine ⟨relays, services, start, ?_, relays_bound, services_bound, fun i entry found => LiesAt.behind ?_ room⟩
  · rw [parseServiceMap, skipped]
    change (parseServiceMapEntries RelayInfo.fromEntry _ _ _ >>= _) = _
    rw [parsed]
    change (parseServiceMapEntries ServiceInfo.fromEntry _ _ _ >>= _) = _
    rw [rest]
    rfl
  · rw [List.getElem?_append] at found
    split at found
    · exact relays_lie i entry found
    · next later =>
      have lies := (services_lie _ entry found).behind relays_room
      rwa [← Nat.add_mul, Nat.add_sub_of_le (Nat.not_lt.mp later)] at lies

section

variable (flags : UInt8) (sequence : UInt16)

theorem decodeServiceMap_short {body : List UInt8} (short : body.length < ServiceMapResponseHeader.sizeBytes) :
    decodeServiceMap sequence (PacketHeader.write ⟨idncmdServicemapResponse, flags, sequence⟩ ++ body) = .ok none := by
  refine if_pos ?_
  rw [List.length_append]
  exact Nat.add_lt_add_left short _

theorem decodeServiceMap_body (structSize entrySize relayEntryCount serviceEntryCount : UInt8) (rest : List UInt8) :
    decodeServiceMap sequence (PacketHeader.write ⟨idncmdServicemapResponse, flags, sequence⟩ ++
        ([structSize, entrySize, relayEntryCount, serviceEntryCount] ++ rest)) =
      (parseServiceMap ⟨structSize, entrySize, relayEntryCount, serviceEntryCount⟩ rest).map some := by
  let header : PacketHeader := ⟨idncmdServicemapResponse, flags, sequence⟩
  let body := [structSize, entrySize, relayEntryCount, serviceEntryCount] ++ rest
  let cursor : Cursor := ⟨header.write ++ body, 0⟩
  have ahead : (cursor.advance header.write.length).ahead = body := Cursor.ahead_advance rfl
  have left : ((cursor.advance header.write.length).advance 4).ahead = rest := Cursor.ahead_advance ahead
  have read := ServiceMapResponseHeader.takes structSize entrySize relayEntryCount serviceEntryCount _ rest ahead
  have long : ¬ (header.write ++ body).length < PacketHeader.sizeBytes + ServiceMapResponseHeader.sizeBytes := by
    rw [Nat.not_lt, List.length_append]
    exact Nat.add_le_add_left (Nat.le_add_left 4 rest.length) 4
  rw [decodeServiceMap, if_neg long, header.takes cursor body rfl]
  dsimp only
  rw [if_neg fun other => other.elim (absurd rfl) (absurd rfl), read]
  change (parseServiceMap _ ((cursor.advance header.write.length).advance 4).ahead >>= _) = _
  rw [left]
  cases parseServiceMap ⟨structSize, entrySize, relayEntryCount, serviceEntryCount⟩ rest <;> rfl

def relayEntry (relay : Relay) : ServiceMapEntry := ⟨0, 0, 0, relay.relayNumber, copyPaddedName 20 relay.name⟩

def serviceEntry (service : Service) : ServiceMapEntry :=
  ⟨service.serviceId, service.serviceType, service.flags, service.relayNumber, copyPaddedName 20 service.name⟩

theorem relayEntry_sized (relays : List Relay) :
    ∀ entry ∈ relays.map relayEntry, entry.write.length = ServiceMapEntry.sizeBytes := by
  rintro _ member
  obtain ⟨relay, -, rfl⟩ := List.mem_map.mp member
  simp [relayEntry, ServiceMapEntry.write, ServiceMapEntry.sizeBytes]

theorem serviceEntry_sized (services : List Service) :
    ∀ entry ∈ services.map serviceEntry, entry.write.length = ServiceMapEntry.sizeBytes := by
  rintro _ member
  obtain ⟨service, -, rfl⟩ := List.mem_map.mp member
  simp [serviceEntry, ServiceMapEntry.write, ServiceMapEntry.sizeBytes]

theorem buildServicemapResponse_length (services : List Service) (relays : List Relay) :
    (buildServicemapResponse flags sequence services relays).length =
      8 + (relays.length + services.length) * ServiceMapEntry.sizeBytes := by
  have relays_length := written_length (relayEntry_sized relays)
  have services_length := written_length (serviceEntry_sized services)
  rw [List.flatMap_map, List.length_map] at relays_length services_length
  rw [buildServicemapResponse, List.length_append, List.length_append, Nat.add_mul, ← relays_length, ← services_length,
    ← Nat.add_assoc]
  rfl

theorem decodeServiceMap_built {services : List Service} {relays : List Relay} (services_bound : services.length ≤ 255)
    (relays_bound : relays.length ≤ 255) (length : Nat) :
    decodeServiceMap sequence ((buildServicemapResponse flags sequence services relays).take (8 + length)) =
      .ok (some (((relays.map relayEntry).take (length / ServiceMapEntry.sizeBytes)).map .fromEntry,
        ((services.map serviceEntry).take (length / ServiceMapEntry.sizeBytes - relays.length)).map .fromEntry)) := by
  have built : (buildServicemapResponse flags sequence services relays).take (8 + length) =
      PacketHeader.write ⟨idncmdServicemapResponse, flags, sequence⟩ ++
        ([4, 24, UInt8.ofNat (relays.map relayEntry).length, UInt8.ofNat (services.map serviceEntry).length] ++
          ((relays.map relayEntry).flatMap ServiceMapEntry.write ++
            (services.map serviceEntry).flatMap ServiceMapEntry.write).take length) := by
    let headers := PacketHeader.write ⟨idncmdServicemapResponse, flags, sequence⟩ ++
      [4, 24, UInt8.ofNat relays.length, UInt8.ofNat services.length]
    let entries := relays.flatMap writeRelay ++ services.flatMap writeService
    have count : headers.length = 8 := rfl
    have taken : (headers ++ entries).take (8 + length) = headers ++ entries.take length := by
      rw [← count, List.take_length_add_append]
    rw [List.flatMap_map, List.flatMap_map, List.length_map, List.length_map, ← List.append_assoc]
    rw [← List.append_assoc] at taken
    exact taken
  have parsed := parseServiceMap_written (relayEntry_sized relays) (serviceEntry_sized services)
    (by simpa using relays_bound) (by simpa using services_bound) length
  rw [built, decodeServiceMap_body, parsed, List.length_map]
  rfl

theorem processScanResponse_built (unitId : Vector UInt8 16) (hostname : String) (protocolVersion status : UInt8) :
    processScanResponse (buildScanResponse flags sequence unitId hostname protocolVersion status) true =
      some ⟨40, protocolVersion, status, 0, unitId.toList, copyPaddedName 20 hostname⟩ := by
  let header : PacketHeader := ⟨idncmdScanResponse, flags, sequence⟩
  let body := [40, protocolVersion, status, 0] ++ (unitId.toList ++ copyPaddedName 20 hostname)
  have built : buildScanResponse flags sequence unitId hostname protocolVersion status = header.write ++ body := by
    rw [buildScanResponse, List.append_assoc, List.append_assoc]
  have long : ¬ (header.write ++ body).length < PacketHeader.sizeBytes + ScanResponse.sizeBytes := by
    simp [header, body, PacketHeader.write, PacketHeader.sizeBytes, ScanResponse.sizeBytes, writeU8]
  let cursor : Cursor := ⟨header.write ++ body, 0⟩
  have ahead : (cursor.advance header.write.length).ahead = body := Cursor.ahead_advance rfl
  have read := ScanResponse.takes 40 protocolVersion status 0 unitId.length_toList (copyPaddedName_length 20 hostname)
    (cursor.advance header.write.length) [] (by rw [ahead, List.append_nil])
  rw [built, processScanResponse, if_neg long, header.takes cursor body rfl]
  dsimp only [Option.bind_eq_bind, Option.bind_some]
  rw [if_neg (absurd rfl), read]
  rfl

end

/-- The type that a service of this byte is of. -/
def ServiceType.Names (byte : UInt8) : ServiceType → Prop
  | .laserProjector => 0x80 ≤ byte ∧ byte ≤ 0xBF
  | .uart => byte = 0x04
  | .dmx512 => byte = 0x05
  | .unknown value => value = byte ∧ ¬ (0x80 ≤ byte ∧ byte ≤ 0xBF) ∧ byte ≠ 0x04 ∧ byte ≠ 0x05

theorem ServiceType.fromByte_names (byte : UInt8) : (fromByte byte).Names byte := by
  unfold fromByte
  split_ifs with projector uart dmx
  · exact projector
  · exact uart
  · exact dmx
  · exact ⟨rfl, projector, uart, dmx⟩

/-- What the client is to know of a relay. -/
structure RelayInfo.Says (relayNumber : UInt8) (Named : String → Prop) (info : RelayInfo) : Prop where
  relayNumber : info.relayNumber = relayNumber
  name : Named info.name

/-- What the client is to know of a service. -/
structure ServiceInfo.Says (serviceId serviceType flags relayNumber : UInt8) (Named : String → Prop)
    (info : ServiceInfo) : Prop where
  serviceId : info.serviceId = serviceId
  serviceType : info.serviceType.Names serviceType
  flags : info.flags = flags
  relayNumber : info.relayNumber = relayNumber
  name : Named info.name

/-- The client knows the relay by its number and shortened name. -/
def RelayInfo.Of (relay : Relay) : RelayInfo → Prop := RelayInfo.Says relay.relayNumber (Shortens 20 relay.name)

/-- The client knows the service, by its shortened name. -/
def ServiceInfo.Of (service : Service) : ServiceInfo → Prop :=
  ServiceInfo.Says service.serviceId service.serviceType service.flags service.relayNumber (Shortens 20 service.name)

/-- What is known of a relay stands in this entry. -/
def RelayInfo.Shows (entry : ServiceMapEntry) : RelayInfo → Prop := RelayInfo.Says entry.relayNumber (· = entry.nameStr)

/-- What is known of a service stands in this entry. -/
def ServiceInfo.Shows (entry : ServiceMapEntry) : ServiceInfo → Prop :=
  ServiceInfo.Says entry.serviceId entry.serviceType entry.flags entry.relayNumber (· = entry.nameStr)

theorem RelayInfo.fromEntry_shows (entries : List ServiceMapEntry) :
    List.Forall₂ RelayInfo.Shows entries (entries.map .fromEntry) := by
  rw [List.forall₂_map_right_iff, List.forall₂_same]
  exact fun entry _ => ⟨rfl, rfl⟩

theorem ServiceInfo.fromEntry_shows (entries : List ServiceMapEntry) :
    List.Forall₂ ServiceInfo.Shows entries (entries.map .fromEntry) := by
  rw [List.forall₂_map_right_iff, List.forall₂_same]
  exact fun entry _ => ⟨rfl, ServiceType.fromByte_names entry.serviceType, rfl, rfl, rfl⟩

/-- The client recovers what the server says of itself in a scan response. It recovers all relays and services of a
service map, with up to 255 of each, from the whole datagram, and the first 62 of them from what its receive buffer
takes. Whatever else a service map holds, no slice is out of range, there are no more entries than announced, and they
lie in the datagram one after another. -/
theorem announcements_recovered (flags : UInt8) (sequence : UInt16) :
    (∀ (unitId : Vector UInt8 16) (hostname : String) (protocolVersion status : UInt8), '\x00' ∉ hostname.toList →
      ∃ response,
        processScanResponse (buildScanResponse flags sequence unitId hostname protocolVersion status) true =
          some response ∧
        response.unitId = unitId.toList ∧ response.status = status ∧ response.protocolVersion = protocolVersion ∧
        Shortens 20 hostname response.hostnameStr) ∧
    (∀ (services : List Service) (relays : List Relay), services.length ≤ 255 → relays.length ≤ 255 →
      (∀ service ∈ services, '\x00' ∉ service.name.toList) → (∀ relay ∈ relays, '\x00' ∉ relay.name.toList) →
      ∃ relayInfos serviceInfos,
        List.Forall₂ RelayInfo.Of relays relayInfos ∧ List.Forall₂ ServiceInfo.Of services serviceInfos ∧
        decodeServiceMap sequence (buildServicemapResponse flags sequence services relays) =
          .ok (some (relayInfos, serviceInfos)) ∧
        ∀ earlier later, (∀ datagram ∈ earlier, decodeServiceMap sequence (datagram.take recvBufferSize) = .ok none) →
          recvServiceMap sequence (earlier ++ buildServicemapResponse flags sequence services relays :: later) =
            .ok (some (relayInfos.take 62, serviceInfos.take (62 - relays.length)))) ∧
    ∀ (body datagram : List UInt8),
      datagram = PacketHeader.write ⟨idncmdServicemapResponse, flags, sequence⟩ ++ body →
      ∃ found, decodeServiceMap sequence datagram = .ok found ∧
        ∀ relays services, found = some (relays, services) →
          ∃ (relayEntries serviceEntries : List ServiceMapEntry) (start : Nat),
            List.Forall₂ RelayInfo.Shows relayEntries relays ∧ List.Forall₂ ServiceInfo.Shows serviceEntries services ∧
            relayEntries.length ≤ (body.getD 2 0).toNat ∧ serviceEntries.length ≤ (body.getD 3 0).toNat ∧
            ∀ i entry, (relayEntries ++ serviceEntries)[i]? = some entry →
              LiesAt (body.getD 1 0).toNat datagram (start + i * (body.getD 1 0).toNat) entry := by
  refine ⟨?_, ?_, ?_⟩
  · intro unitId hostname protocolVersion status noZero
    exact ⟨_, processScanResponse_built flags sequence unitId hostname protocolVersion status, rfl, rfl, rfl,
      nullTerminatedStr_copyPaddedName 20 noZero⟩
  · intro services relays services_bound relays_bound services_noZero relays_noZero
    refine ⟨(relays.map relayEntry).map .fromEntry, (services.map serviceEntry).map .fromEntry, ?_, ?_, ?_, ?_⟩
    · rw [List.forall₂_map_right_iff, List.forall₂_map_right_iff, List.forall₂_same]
      exact fun relay member => ⟨rfl, nullTerminatedStr_copyPaddedName 20 (relays_noZero relay member)⟩
    · rw [List.forall₂_map_right_iff, List.forall₂_map_right_iff, List.forall₂_same]
      exact fun service member => ⟨rfl, ServiceType.fromByte_names service.serviceType, rfl, rfl,
        nullTerminatedStr_copyPaddedName 20 (services_noZero service member)⟩
    · have decoded := decodeServiceMap_built flags sequence services_bound relays_bound
        ((relays.length + services.length) * ServiceMapEntry.sizeBytes)
      rw [← buildServicemapResponse_length flags sequence, List.take_length, Nat.mul_div_cancel _ (by decide),
        Nat.add_sub_cancel_left, List.take_of_length_le (by simp), List.take_of_length_le (by simp)] at decoded
      exact decoded
    · intro earlier later ignored
      induction earlier with
      | nil =>
        have decoded := decodeServiceMap_built flags sequence services_bound relays_bound 1492
        rw [List.map_take, List.map_take] at decoded
        rw [List.nil_append, recvServiceMap, recvBufferSize, decoded]
        rfl
      | cons datagram earlier ih =>
        obtain ⟨first, others⟩ := List.forall_mem_cons.mp ignored
        rw [List.cons_append, recvServiceMap, first]
        exact ih others
  · rintro body datagram rfl
    by_cases short : body.length < ServiceMapResponseHeader.sizeBytes
    · exact ⟨none, decodeServiceMap_short flags sequence short, by simp⟩
    · rcases body with _ | ⟨structSize, _ | ⟨entrySize, _ | ⟨relayEntryCount, _ | ⟨serviceEntryCount, rest⟩⟩⟩⟩
      iterate 4 simp [ServiceMapResponseHeader.sizeBytes] at short
      obtain ⟨relays, services, start, parsed, relays_bound, services_bound, lies⟩ :=
        parseServiceMap_inside ⟨structSize, entrySize, relayEntryCount, serviceEntryCount⟩ rest
      refine ⟨some (relays.map .fromEntry, services.map .fromEntry), ?_, ?_⟩
      · have decoded := decodeServiceMap_body flags sequence structSize entrySize relayEntryCount serviceEntryCount rest
        rwa [parsed] at decoded
      · intro relayInfos serviceInfos same
        obtain ⟨rfl, rfl⟩ := Prod.mk.inj (Option.some.inj same)
        refine ⟨relays, services, 8 + start, RelayInfo.fromEntry_shows relays, ServiceInfo.fromEntry_shows services,
          relays_bound, services_bound, fun i entry found => ?_⟩
        rw [Nat.add_assoc]
        exact (lies i entry found).behind (Nat.le_add_left 8 rest.length)

/-- A projector, and a relay with a longer name than its field holds. -/
theorem announcements_recovered_laser :
    (∃ response, processScanResponse (buildScanResponse 0 7 (.replicate 16 1) "host" 0x10 0) true = some response ∧
      response.unitId = List.replicate 16 1 ∧ response.status = 0 ∧ response.protocolVersion = 0x10 ∧
      Shortens 20 "host" response.hostnameStr) ∧
    ∃ relay service, RelayInfo.Of ⟨1, "überlanger Relaisname"⟩ relay ∧
      ServiceInfo.Of ⟨1, 0x80, "Laser1", 0, 1⟩ service ∧
      recvServiceMap 7 [buildServicemapResponse 0 7 [⟨1, 0x80, "Laser1", 0, 1⟩] [⟨1, "überlanger Relaisname"⟩]] =
        .ok (some ([relay], [service])) := by
  refine ⟨(announcements_recovered 0 7).1 (.replicate 16 1) "host" 0x10 0 (by decide), ?_⟩
  obtain ⟨_, _, _ | ⟨relay, ⟨⟩⟩, _ | ⟨service, ⟨⟩⟩, -, received⟩ :=
    (announcements_recovered 0 7).2.1 [⟨1, 0x80, "Laser1", 0, 1⟩] [⟨1, "überlanger Relaisname"⟩] (by decide) (by decide)
      (by decide) (by decide)
  exact ⟨_, _, relay, service, received [] [] (by simp)⟩

/-- One more than fit into the client's buffer. -/
def manyServices : List Service := List.replicate 63 ⟨1, 0x80, "Laser1", 0, 0⟩

/-- A service map of 63 entries is longer than the receive buffer. -/
theorem recvServiceMap_truncated : ∃ services,
    recvServiceMap 0 [buildServicemapResponse 0 0 manyServices []] = .ok (some ([], services)) ∧
      services.length = 62 := by
  have bound : manyServices.length ≤ 255 := by decide
  have none : ([] : List Relay).length ≤ 255 := Nat.zero_le _
  have decoded := decodeServiceMap_built 0 0 bound none 1492
  refine ⟨((manyServices.map serviceEntry).take 62).map .fromEntry, ?_, rfl⟩
  rw [recvServiceMap, recvBufferSize, decoded]
  rfl

namespace AcknowledgeResponse

theorem takes (response : AcknowledgeResponse) (resultCode : UInt8) :
    Takes read
      ([response.structSize, resultCode] ++ (writeU16 response.inputEventFlags ++
        (writeU16 response.pipelineEventFlags ++ ([response.statusFlags, response.linkQuality] ++
          writeU16 response.latencyUs))))
      { response with resultCode := resultCode.toInt8 } :=
  (Takes.u8 _).bind ((Takes.u8 _).bind ((Takes.u16 _).bind ((Takes.u16 _).bind
    ((Takes.u8 _).bind ((Takes.u8 _).bind ((Takes.u16 _).map _))))))

/-- What an acknowledgement is to say when nothing has happened; its size is that of the client's type. -/
structure Says (resultCode linkQuality : UInt8) (latencyUs : UInt16) (response : AcknowledgeResponse) : Prop where
  structSize : response.structSize.toNat = sizeBytes
  resultCode : response.resultCode = resultCode.toInt8
  inputEventFlags : response.inputEventFlags = 0
  pipelineEventFlags : response.pipelineEventFlags = 0
  statusFlags : response.statusFlags = 0
  linkQuality : response.linkQuality = linkQuality
  latencyUs : response.latencyUs = latencyUs

end AcknowledgeResponse

/-- The client's reader on the body of an acknowledgement. -/
def decodeAck (datagram : List UInt8) : Option AcknowledgeResponse :=
  (AcknowledgeResponse.read.run ⟨datagram.drop PacketHeader.sizeBytes, 0⟩).map Prod.fst

theorem writeU32_small (value : UInt16) : writeU32 value.toUInt32 = writeU16 0 ++ writeU16 value := by
  have small := value.toNat_lt
  have upper : value.toNat / 256 / 256 = 0 := by omega
  rw [writeU32, UInt16.toNat_toUInt32, toBe, toBe, upper, List.append_assoc]
  rfl

/-- No acknowledgement that the server builds says what it is to say: the client finds 12 for the size, and the upper
half of the latency for the latency. The other fields agree. -/
theorem decodeAck_disagrees (flags : UInt8) (sequence : UInt16) (resultCode linkQuality : UInt8) (latencyUs : UInt16) :
    ∃ response,
      decodeAck (buildAckResponseFull flags sequence resultCode linkQuality latencyUs.toUInt32) = some response ∧
      ¬ response.Says resultCode linkQuality latencyUs ∧
      response = { structSize := 12, resultCode := resultCode.toInt8, inputEventFlags := 0, pipelineEventFlags := 0,
                   statusFlags := 0, linkQuality, latencyUs := 0 } := by
  let response : AcknowledgeResponse :=
    { structSize := 12, resultCode := resultCode.toInt8, inputEventFlags := 0, pipelineEventFlags := 0,
      statusFlags := 0, linkQuality, latencyUs := 0 }
  have size : (12 : UInt8).toNat ≠ AcknowledgeResponse.sizeBytes := by decide
  refine ⟨response, ?_, fun agreed => size agreed.structSize, rfl⟩
  have body : (buildAckResponseFull flags sequence resultCode linkQuality latencyUs.toUInt32).drop
      PacketHeader.sizeBytes = ([12, resultCode] ++ (writeU16 0 ++ (writeU16 0 ++ ([0, linkQuality] ++ writeU16 0)))) ++
        writeU16 latencyUs := by
    rw [buildAckResponseFull, writeU32_small]
    rfl
  rw [decodeAck, body, response.takes resultCode ⟨_, 0⟩ (writeU16 latencyUs) rfl]
  rfl

/-- A latency of a millisecond is read as none. -/
theorem decodeAck_millisecond :
    decodeAck (buildAckResponseFull 0 1 0 0xFF 1000) =
      some { structSize := 12, resultCode := 0, inputEventFlags := 0, pipelineEventFlags := 0, statusFlags := 0,
             linkQuality := 0xFF, latencyUs := 0 } := by
  decide

end LaserDac.Idn
