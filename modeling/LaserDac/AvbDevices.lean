import LaserDac.Tally

/-!
The identity of AVB devices. The audio outputs with enough channels are sorted and numbered per name, up to case and
white space. A stable id has the slug of the name in its place, which is coarser.
-/

namespace LaserDac.Avb

open Tally

/-- `char::is_whitespace` -/
def isWhitespace (c : Char) : Bool :=
  let n := c.toNat
  (0x9 ≤ n && n ≤ 0xD) || n == 0x20 || n == 0x85 || n == 0xA0 || n == 0x1680 || (0x2000 ≤ n && n ≤ 0x200A) ||
    n == 0x2028 || n == 0x2029 || n == 0x202F || n == 0x205F || n == 0x3000

def splitWhitespace (text : List Char) : List (List Char) := (text.splitOnP isWhitespace).filter (· ≠ [])

def trim (text : List Char) : List Char := (text.dropWhile isWhitespace).rdropWhile isWhitespace

/-- Words with single spaces between them, in lower case as far as they are ASCII. -/
def normalized (name : String) : List Char :=
  (trim ([' '].intercalate (splitWhitespace name.toList))).map Char.toLower

def normalizeDeviceName (name : String) : String := String.ofList (normalized name)

def blacklistedDeviceNames : List String := ["studio display speakers"]

def isBlacklistedDevice (name : String) : Bool := blacklistedDeviceNames.any (normalizeDeviceName name == ·)

/-- Letters and digits; any others in a row become one dash. -/
def slugChars : Bool → List Char → List Char
  | _, [] => []
  | prevDash, ch :: rest =>
    if ch.isAlphanum then ch :: slugChars false rest
    else if prevDash then slugChars true rest
    else '-' :: slugChars true rest

def slugifyDeviceId (name : String) : String :=
  String.ofList (((slugChars false (normalized name)).dropWhile (· == '-')).rdropWhile (· == '-'))

structure OutputConfigRange where
  channels : Nat
  minSampleRate : Nat
  maxSampleRate : Nat
  deriving DecidableEq, Repr

/-- An output as the host enumerates it. The name may be unreadable. -/
structure AudioDevice (D : Type) where
  name : Option String
  outputConfigRanges : List OutputConfigRange
  /-- Channels and sample rate. -/
  defaultOutput : Option (Nat × Nat)
  device : D
  deriving DecidableEq, Repr

structure DeviceRecord (D : Type) where
  name : String
  device : D
  outputConfigRanges : List OutputConfigRange
  defaultOutputChannels : Option Nat
  defaultOutputSampleRate : Option Nat
  deriving DecidableEq, Repr

@[ext] structure AvbSelector where
  name : String
  duplicateIndex : Nat
  deriving DecidableEq, Repr

structure DeviceCandidate (D : Type) where
  selector : AvbSelector
  device : D
  outputConfigRanges : List OutputConfigRange
  defaultOutputSampleRate : Option Nat
  deriving DecidableEq, Repr

variable {D E : Type}

def minChannels : Nat := 5

def supportsRequiredChannels (record : DeviceRecord D) : Bool :=
  record.outputConfigRanges.any (·.channels ≥ minChannels) || record.defaultOutputChannels.any (· ≥ minChannels)

def isAccepted (record : DeviceRecord D) : Bool := !isBlacklistedDevice record.name && supportsRequiredChannels record

def compareRecords (a b : DeviceRecord D) : Ordering :=
  (compare (normalizeDeviceName a.name) (normalizeDeviceName b.name)).then (compare a.name b.name)

def sortRecords (records : List (DeviceRecord D)) : List (DeviceRecord D) :=
  records.insertionSort fun a b => (compareRecords a b).isLE

def candidateOf (indexed : DeviceRecord D × Nat) : DeviceCandidate D where
  selector := { name := indexed.1.name, duplicateIndex := indexed.2 }
  device := indexed.1.device
  outputConfigRanges := indexed.1.outputConfigRanges
  defaultOutputSampleRate := indexed.1.defaultOutputSampleRate

def indexRecords (records : List (DeviceRecord D)) : List (DeviceRecord D × Nat) :=
  number (fun record => normalizeDeviceName record.name) 65535 (fun _ => 0) records

def collectCandidatesFromRecords (records : List (DeviceRecord D)) : List (DeviceCandidate D) :=
  (indexRecords (sortRecords (records.filter isAccepted))).map candidateOf

def recordOf (device : AudioDevice D) : Option (DeviceRecord D) :=
  device.name.map fun name =>
    { name, device := device.device, outputConfigRanges := device.outputConfigRanges,
      defaultOutputChannels := device.defaultOutput.map Prod.fst,
      defaultOutputSampleRate := device.defaultOutput.map Prod.snd }

def DeviceRecord.mapDevice (f : String → D → E) (record : DeviceRecord D) : DeviceRecord E :=
  { record with device := f record.name record.device }

/-- The handle of a device is kept only for the names that `keepDevice` accepts. -/
def keptDevice (keepDevice : String → Bool) (name : String) (device : D) : Option D :=
  if keepDevice name then some device else none

def collectDeviceRecords (keepDevice : String → Bool) (devices : List (AudioDevice D)) :
    List (DeviceRecord (Option D)) :=
  (devices.filterMap recordOf).map (.mapDevice (keptDevice keepDevice))

def collectCandidates (keepDevice : String → Bool) (devices : List (AudioDevice D)) :
    List (DeviceCandidate (Option D)) :=
  collectCandidatesFromRecords (collectDeviceRecords keepDevice devices)

def discover (devices : List (AudioDevice D)) : List AvbSelector :=
  (collectCandidates (fun _ => false) devices).map (·.selector)

/-- The candidate with the selector's name and number, among those whose name differs at most in case and white
space. -/
def selectDevice (devices : List (AudioDevice D)) (selector : AvbSelector) : Option D :=
  let key := normalizeDeviceName selector.name
  let candidates := collectCandidates (fun name => normalizeDeviceName name == key) devices
  (candidates.find? fun candidate =>
    candidate.selector.name == selector.name && candidate.selector.duplicateIndex == selector.duplicateIndex).bind
      (·.device)

def formatStableId (name : String) (deviceIndex : Nat) : String :=
  "avb" ++ ":" ++ slugifyDeviceId name ++ ":" ++ toString deviceIndex

/-- What a scan says of a device. -/
structure DiscoveredDevice where
  stableId : String
  name : String
  deviceIndex : Nat
  scanDuplicateCount : Nat
  deriving DecidableEq, Repr

/-- `AvbDiscoverer::scan` -/
def scan (devices : List (AudioDevice D)) : List DiscoveredDevice :=
  let selectors := discover devices
  selectors.map fun selector =>
    { stableId := formatStableId selector.name selector.duplicateIndex
      name := selector.name
      deviceIndex := selector.duplicateIndex
      scanDuplicateCount :=
        selectors.countP fun other => normalizeDeviceName other.name == normalizeDeviceName selector.name }

theorem isLE_compareRecords {a b : DeviceRecord D} :
    (compareRecords a b).isLE = true ↔
      toLex (normalizeDeviceName a.name, a.name) ≤ toLex (normalizeDeviceName b.name, b.name) := by
  rw [Prod.Lex.toLex_le_toLex, compareRecords]
  dsimp only
  cases order : compare (normalizeDeviceName a.name) (normalizeDeviceName b.name) with
  | lt => exact ⟨fun _ => .inl (compare_lt_iff_lt.mp order), fun _ => rfl⟩
  | eq =>
    rw [compare_eq_iff_eq] at order
    rw [order, Ordering.eq_then, Ordering.isLE_iff_ne_gt, ← Ne, compare_le_iff_le]
    simp
  | gt =>
    rw [compare_gt_iff_gt] at order
    refine ⟨fun le => (by cases le), fun le => ?_⟩
    rcases le with before | ⟨same, -⟩
    · exact absurd before order.asymm
    · exact absurd same order.ne'

theorem sortRecords_pairwise (records : List (DeviceRecord D)) :
    (sortRecords records).Pairwise fun a b => (compareRecords a b).isLE = true := by
  have : Std.Total fun a b : DeviceRecord D => (compareRecords a b).isLE = true :=
    ⟨fun a b => by
      rw [isLE_compareRecords, isLE_compareRecords]
      exact le_total _ _⟩
  have : IsTrans (DeviceRecord D) fun a b => (compareRecords a b).isLE = true :=
    ⟨fun a b c ab bc => by
      rw [isLE_compareRecords] at ab bc ⊢
      exact ab.trans bc⟩
  exact List.pairwise_insertionSort _ _

theorem sortRecords_perm (records : List (DeviceRecord D)) : (sortRecords records).Perm records :=
  List.perm_insertionSort _ _

theorem sortRecords_map (f : String → D → E) (records : List (DeviceRecord D)) :
    sortRecords (records.map (.mapDevice f)) = (sortRecords records).map (.mapDevice f) := by
  unfold sortRecords
  exact (List.map_insertionSort _ _ (DeviceRecord.mapDevice f) records fun _ _ _ _ => Iff.rfl).symm

theorem sortRecords_eq_of_perm {records other : List (DeviceRecord D)} (perm : other.Perm records)
    (distinct : (records.map (·.name)).Nodup) : sortRecords other = sortRecords records := by
  have sorted := (sortRecords_perm other).trans (perm.trans (sortRecords_perm records).symm)
  refine List.Perm.eq_of_pairwise (fun a b inOther inRecords ab ba => ?_) (sortRecords_pairwise other)
    (sortRecords_pairwise records) sorted
  rw [isLE_compareRecords] at ab ba
  have same : a.name = b.name := congrArg (fun key => (ofLex key).2) (ab.antisymm ba)
  have member (record : DeviceRecord D) (found : record ∈ sortRecords records) : record ∈ records :=
    (sortRecords_perm records).mem_iff.mp found
  exact List.inj_on_of_nodup_map distinct (member a (sorted.mem_iff.mp inOther)) (member b inRecords) same

def DeviceCandidate.mapDevice (f : String → D → E) (candidate : DeviceCandidate D) : DeviceCandidate E :=
  { candidate with device := f candidate.selector.name candidate.device }

theorem collectCandidatesFromRecords_map (f : String → D → E) (records : List (DeviceRecord D)) :
    collectCandidatesFromRecords (records.map (.mapDevice f)) =
      (collectCandidatesFromRecords records).map (.mapDevice f) := by
  have unchanged : isAccepted ∘ DeviceRecord.mapDevice f = isAccepted := by
    funext record
    simp only [Function.comp_apply, isAccepted, supportsRequiredChannels, DeviceRecord.mapDevice]
  have accepted : (records.map (DeviceRecord.mapDevice f)).filter isAccepted =
      (records.filter isAccepted).map (.mapDevice f) := by rw [List.filter_map, unchanged]
  rw [collectCandidatesFromRecords, accepted, sortRecords_map, indexRecords,
    number_map _ fun _ => rfl, collectCandidatesFromRecords, List.map_map, List.map_map]
  rfl

def candidates (devices : List (AudioDevice D)) : List (DeviceCandidate D) :=
  collectCandidatesFromRecords (devices.filterMap recordOf)

theorem collectCandidates_eq (keepDevice : String → Bool) (devices : List (AudioDevice D)) :
    collectCandidates keepDevice devices = (candidates devices).map (.mapDevice (keptDevice keepDevice)) :=
  collectCandidatesFromRecords_map _ _

theorem discover_eq (devices : List (AudioDevice D)) : discover devices = (candidates devices).map (·.selector) := by
  rw [discover, collectCandidates_eq, List.map_map]
  rfl

def accepted (devices : List (AudioDevice D)) : List (DeviceRecord D) := (devices.filterMap recordOf).filter isAccepted

section

variable {devices : List (AudioDevice D)}

section

variable (few : devices.length < 65535)

include few

theorem indexed_roomy : Roomy 65535 (sortRecords (accepted devices)).length (fun _ : String => 0) := by
  intro _
  have sorted := (sortRecords_perm (accepted devices)).length_eq
  have filtered := List.length_filter_le isAccepted (devices.filterMap recordOf)
  have readable := List.length_filterMap_le recordOf devices
  rw [Nat.zero_add, sorted]
  exact (filtered.trans readable).trans few.le

theorem candidates_pairwise :
    (candidates devices).Pairwise fun a b =>
      normalizeDeviceName a.selector.name = normalizeDeviceName b.selector.name →
        a.selector.duplicateIndex ≠ b.selector.duplicateIndex := by
  rw [candidates, collectCandidatesFromRecords, List.pairwise_map]
  exact (number_pairwise (indexed_roomy few)).imp fun less same => (less same).ne

theorem selectors_nodup : ((candidates devices).map (·.selector)).Nodup := by
  rw [List.Nodup, List.pairwise_map]
  refine (candidates_pairwise few).imp fun {a b} apart same => ?_
  exact apart (by rw [same]) (by rw [same])

theorem selectDevice_eq {candidate : DeviceCandidate D} (member : candidate ∈ candidates devices) :
    selectDevice devices candidate.selector = some candidate.device := by
  let keepDevice := fun name => normalizeDeviceName name == normalizeDeviceName candidate.selector.name
  let matching := fun other : DeviceCandidate (Option D) =>
    other.selector.name == candidate.selector.name &&
      other.selector.duplicateIndex == candidate.selector.duplicateIndex
  have found : (candidates devices).find? (matching ∘ .mapDevice (keptDevice keepDevice)) = some candidate := by
    obtain ⟨before, after, split⟩ := List.append_of_mem member
    refine List.find?_eq_some_iff_append.mpr ⟨?_, before, after, split, fun other earlier => ?_⟩
    · simp [matching, DeviceCandidate.mapDevice]
    · have distinct := selectors_nodup few
      rw [split, List.map_append, List.nodup_append] at distinct
      have apart := distinct.2.2 other.selector (List.mem_map_of_mem earlier) candidate.selector
        (List.mem_map_of_mem List.mem_cons_self)
      simp only [matching, DeviceCandidate.mapDevice, Function.comp_apply, Bool.not_eq_true', Bool.and_eq_false_iff,
        beq_eq_false_iff_ne]
      by_contra both
      rw [not_or, not_not, not_not] at both
      exact apart (AvbSelector.ext both.1 both.2)
  have kept : keepDevice candidate.selector.name = true := beq_self_eq_true _
  rw [selectDevice]
  change ((collectCandidates keepDevice devices).find? matching).bind (·.device) = _
  rw [collectCandidates_eq, List.find?_map, found, Option.map_some, Option.bind_some]
  dsimp only [DeviceCandidate.mapDevice, keptDevice]
  rw [if_pos kept]

end

theorem exists_candidate {record : DeviceRecord D} (member : record ∈ accepted devices) :
    ∃ candidate ∈ candidates devices,
      normalizeDeviceName candidate.selector.name = normalizeDeviceName record.name ∧
        candidate.selector.duplicateIndex = 0 := by
  have sorted : record ∈ sortRecords (accepted devices) := (sortRecords_perm _).mem_iff.mpr member
  obtain ⟨first, same, found⟩ : ∃ first : DeviceRecord D, normalizeDeviceName first.name =
      normalizeDeviceName record.name ∧ (first, 0) ∈ indexRecords (sortRecords (accepted devices)) :=
    exists_first sorted
  exact ⟨_, List.mem_map_of_mem found, same, rfl⟩

theorem candidate_accepted {candidate : DeviceCandidate D} (member : candidate ∈ candidates devices) :
    ∃ record ∈ accepted devices, record.name = candidate.selector.name := by
  obtain ⟨indexed, found, rfl⟩ := List.mem_map.mp member
  have stored : indexed.1 ∈ (indexRecords _).map Prod.fst := List.mem_map_of_mem found
  rw [indexRecords, map_fst_number] at stored
  exact ⟨indexed.1, (sortRecords_perm _).mem_iff.mp stored, rfl⟩

end

theorem colon_notMem_slugChars (prevDash : Bool) (text : List Char) : ':' ∉ slugChars prevDash text := by
  induction text generalizing prevDash with
  | nil => exact List.not_mem_nil
  | cons ch rest ih =>
    rw [slugChars]
    split
    · next letter =>
      rw [List.mem_cons, not_or]
      refine ⟨?_, ih false⟩
      rintro rfl
      exact absurd letter (by decide)
    · split
      · exact ih true
      · rw [List.mem_cons, not_or]
        exact ⟨by decide, ih true⟩

theorem colon_notMem_slug (name : String) : ':' ∉ (slugifyDeviceId name).toList := by
  rw [slugifyDeviceId, String.toList_ofList]
  intro member
  have inside := (List.rdropWhile_prefix _ _).subset member
  exact colon_notMem_slugChars false _ ((List.dropWhile_suffix _).subset inside)

theorem formatStableId_inj {a b : String} {i j : Nat} (same : formatStableId a i = formatStableId b j) :
    slugifyDeviceId a = slugifyDeviceId b ∧ i = j := by
  have parts : (slugifyDeviceId a).toList ++ ':' :: i.repr.toList =
      (slugifyDeviceId b).toList ++ ':' :: j.repr.toList := by
    have chars := congrArg String.toList same
    simpa [formatStableId] using chars
  have digits : ':' ∉ i.repr.toList := by
    rw [Nat.toList_repr]
    intro colon
    exact absurd (Nat.isDigit_of_mem_toDigits (by decide) (by decide) colon) (by decide)
  obtain ⟨slugs, -, numbers⟩ := (List.append_cons_inj_of_notMem (colon_notMem_slug a) digits).mp parts
  exact ⟨String.toList_inj.mp slugs, Nat.repr_injective (String.toList_inj.mp numbers)⟩

theorem slugifyDeviceId_congr {a b : String} (same : normalizeDeviceName a = normalizeDeviceName b) :
    slugifyDeviceId a = slugifyDeviceId b := by
  have chars : normalized a = normalized b := by
    have lists := congrArg String.toList same
    rwa [normalizeDeviceName, normalizeDeviceName, String.toList_ofList, String.toList_ofList] at lists
  rw [slugifyDeviceId, slugifyDeviceId, chars]

theorem scan_stableIds (devices : List (AudioDevice D)) :
    (scan devices).map (·.stableId) =
      (candidates devices).map fun candidate =>
        formatStableId candidate.selector.name candidate.selector.duplicateIndex := by
  rw [scan, discover_eq, List.map_map, List.map_map]
  rfl

/-- Accepted names with one slug are counted together. -/
def SlugsCounted (devices : List (AudioDevice D)) : Prop :=
  ∀ a ∈ accepted devices, ∀ b ∈ accepted devices, slugifyDeviceId a.name = slugifyDeviceId b.name →
    normalizeDeviceName a.name = normalizeDeviceName b.name

instance (devices : List (AudioDevice D)) : Decidable (SlugsCounted devices) :=
  inferInstanceAs (Decidable (∀ a ∈ accepted devices, ∀ b ∈ accepted devices, _ → _))

theorem stableIds_nodup_iff {devices : List (AudioDevice D)} (few : devices.length < 65535) :
    ((scan devices).map (·.stableId)).Nodup ↔ SlugsCounted devices := by
  rw [scan_stableIds]
  constructor
  · intro distinct a accepted_a b accepted_b slugs
    obtain ⟨first, member_first, counted_first, zero_first⟩ := exists_candidate accepted_a
    obtain ⟨second, member_second, counted_second, zero_second⟩ := exists_candidate accepted_b
    have ids : formatStableId first.selector.name first.selector.duplicateIndex =
        formatStableId second.selector.name second.selector.duplicateIndex := by
      rw [formatStableId, formatStableId, zero_first, zero_second, slugifyDeviceId_congr counted_first,
        slugifyDeviceId_congr counted_second, slugs]
    obtain rfl := List.inj_on_of_nodup_map distinct member_first member_second ids
    exact counted_first.symm.trans counted_second
  · intro counted
    rw [List.Nodup, List.pairwise_map]
    refine (candidates_pairwise few).imp_of_mem fun {a b} member_a member_b apart ids => ?_
    obtain ⟨slugs, indices⟩ := formatStableId_inj ids
    obtain ⟨first, accepted_first, name_first⟩ := candidate_accepted member_a
    obtain ⟨second, accepted_second, name_second⟩ := candidate_accepted member_b
    rw [← name_first, ← name_second] at slugs apart
    exact apart (counted first accepted_first second accepted_second slugs) indices

theorem candidates_eq_of_perm {devices other : List (AudioDevice D)} (perm : other.Perm devices)
    (distinct : (devices.filterMap (·.name)).Nodup) : candidates other = candidates devices := by
  have names : (devices.filterMap recordOf).map (·.name) = devices.filterMap (·.name) := by
    rw [List.map_filterMap]
    congr
    funext device
    rw [recordOf, Option.map_map]
    exact Option.map_id'
  have accepted_names : ((accepted devices).map (·.name)).Nodup := by
    rw [← names] at distinct
    exact distinct.sublist (List.filter_sublist.map _)
  have sorted := sortRecords_eq_of_perm ((perm.filterMap recordOf).filter isAccepted) accepted_names
  rw [candidates, collectCandidatesFromRecords, sorted]
  rfl

/-- Selectors and ids tell the devices of a list apart, a selector leads back to its device, and if the names differ,
the order of the list does not matter. -/
structure Identified (devices : List (AudioDevice D)) : Prop where
  made : discover devices = (candidates devices).map (·.selector)
  selectors : (discover devices).Nodup
  stableIds : ((scan devices).map (·.stableId)).Nodup
  resolves : ∀ candidate ∈ candidates devices, selectDevice devices candidate.selector = some candidate.device
  order : (devices.filterMap (·.name)).Nodup → ∀ other : List (AudioDevice D), other.Perm devices →
    candidates other = candidates devices ∧ scan other = scan devices

/-- Devices are identified if and only if accepted names with one slug are counted together. -/
theorem identified_iff (devices : List (AudioDevice D)) (few : devices.length < 65535) :
    Identified devices ↔ SlugsCounted devices := by
  constructor
  · exact fun identified => (stableIds_nodup_iff few).mp identified.stableIds
  · intro counted
    refine ⟨discover_eq devices, ?_, (stableIds_nodup_iff few).mpr counted, fun _ => selectDevice_eq few, ?_⟩
    · rw [discover_eq]
      exact selectors_nodup few
    · intro distinct other perm
      have same := candidates_eq_of_perm perm distinct
      exact ⟨same, by rw [scan, scan, discover_eq, discover_eq, same]⟩

/-- An interface with eight channels. -/
def interface (name : String) (device : D) : AudioDevice D where
  name := some name
  outputConfigRanges := [{ channels := 8, minSampleRate := 44100, maxSampleRate := 96000 }]
  defaultOutput := none
  device := device

/-- Two interfaces of one name, a third one, and an output that is left out. -/
theorem identified_three :
    SlugsCounted [interface "MOTU AVB" 0, interface "Studio Display Speakers" 1, interface "motu  avb" 2,
        interface "Scarlett" 3] ∧
      Identified [interface "MOTU AVB" 0, interface "Studio Display Speakers" 1, interface "motu  avb" 2,
        interface "Scarlett" 3] := by
  have counted : SlugsCounted [interface "MOTU AVB" 0, interface "Studio Display Speakers" 1,
      interface "motu  avb" 2, interface "Scarlett" 3] := by decide +kernel
  exact ⟨counted, (identified_iff _ (by decide)).mpr counted⟩

/-- A space and a dash are the same in a slug, and count as different names. -/
theorem stableIds_collide :
    (scan [interface "MOTU AVB" 0, interface "MOTU-AVB" 1]).map (·.stableId) =
      ["avb:motu-avb:0", "avb:motu-avb:0"] := by
  decide +kernel

end LaserDac.Avb
