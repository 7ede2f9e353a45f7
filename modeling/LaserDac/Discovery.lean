import LaserDac.World

/-!
The registry of discoverers. A registry is built by `register`, which refuses an empty prefix and one that is taken.
Opening by id asks one discoverer only if the id has a prefix.
-/

namespace LaserDac.Discovery

/-- A device that was found. The data to connect it with is the discoverer's own. -/
structure DiscoveredDevice (κ : Type) where
  stableId : String
  legacyIds : List String
  name : String
  discovererIndex : Option Nat
  connectData : κ
  deriving DecidableEq

/-- What a scan finds at the time, and how a device is connected. -/
structure Discoverer (κ : Type) where
  idPrefix : String
  scan : List (DiscoveredDevice κ)
  connect : κ → Except Error Backend

structure DacInfo where
  id : String
  name : String
  caps : DacCapabilities
  deriving DecidableEq

/-- An opened device. -/
structure Dac where
  info : DacInfo
  backend : Backend
  /-- The id that a reconnect looks for. -/
  reconnectTarget : String
  deriving DecidableEq

/-- Discoverers whose prefixes are not empty and all different. -/
structure DacDiscovery (κ : Type) where
  discoverers : List (Discoverer κ)
  named : ∀ d ∈ discoverers, d.idPrefix ≠ ""
  distinct : (discoverers.map Discoverer.idPrefix).Nodup

variable {κ : Type}

/-- The id is the device's own or one it once had. -/
def DiscoveredDevice.answersTo (id : String) (device : DiscoveredDevice κ) : Bool :=
  device.stableId == id || device.legacyIds.any (· == id)

/-- What stands before the first colon, if there is one. -/
def splitPrefix (id : String) : Option String :=
  if id.toList.contains ':' then some (String.ofList (id.toList.takeWhile (· ≠ ':'))) else none

namespace DacDiscovery

/-- The source panics where this is `none`. -/
def register (d : Discoverer κ) (this : DacDiscovery κ) : Option (DacDiscovery κ) :=
  if fresh : d.idPrefix ≠ "" ∧ d.idPrefix ∉ this.discoverers.map Discoverer.idPrefix then
    some {
      discoverers := this.discoverers ++ [d]
      named := by
        intro other among
        rcases List.mem_append.mp among with old | new
        · exact this.named other old
        · exact List.mem_singleton.mp new ▸ fresh.1
      distinct := by
        rw [List.map_append, List.nodup_append]
        refine ⟨this.distinct, List.nodup_singleton _, ?_⟩
        rintro a old b new rfl
        exact fresh.2 (List.mem_singleton.mp new ▸ old) }
  else none

def scanOne (idx : Nat) (this : DacDiscovery κ) : List (DiscoveredDevice κ) :=
  match this.discoverers[idx]? with
  | some d => d.scan.map fun device => { device with discovererIndex := some idx }
  | none => []

/-- The devices of all discoverers, in the order of registration. -/
def scan (this : DacDiscovery κ) : List (DiscoveredDevice κ) :=
  (List.range this.discoverers.length).flatMap fun idx => this.scanOne idx

/-- Only the discoverer that found a device connects it. -/
def connect (device : DiscoveredDevice κ) (this : DacDiscovery κ) : Except Error Backend :=
  match device.discovererIndex with
  | none => .error (.invalidConfig "DiscoveredDevice has no discoverer_index — was it produced by a registry scan?")
  | some idx =>
    match this.discoverers[idx]? with
    | none => .error (.invalidConfig ("discoverer for " ++ device.stableId ++ " not found in registry"))
    | some d => d.connect device.connectData

def openDiscovered (device : DiscoveredDevice κ) (this : DacDiscovery κ) : Except Error Dac := do
  let backend ← this.connect device
  return {
    info := { id := device.stableId, name := device.name, caps := backend.caps }
    backend
    reconnectTarget := device.stableId }

/-- Open the first of these devices that answers to the id. -/
def openAmong (id : String) (discovered : List (DiscoveredDevice κ)) (this : DacDiscovery κ) : Except Error Dac :=
  match discovered.find? (·.answersTo id) with
  | some device => this.openDiscovered device
  | none => .error (.disconnected ("DAC not found: " ++ id))

/-- An id with a known prefix narrows the scan to one discoverer. -/
def openById (id : String) (this : DacDiscovery κ) : Except Error Dac :=
  match this.discoverers.findIdx? (·.idPrefix == (splitPrefix id).getD ""), splitPrefix id with
  | some idx, _ => this.openAmong id (this.scanOne idx)
  | none, some idPrefix =>
    .error (.disconnected ("DAC not found: " ++ id ++ " (no discoverer registered for prefix " ++ idPrefix.quote ++ ")"))
  | none, none => this.openAmong id this.scan

end DacDiscovery

/-! ### Dispatch -/

/-- A discoverer whose devices answer to ids with its own prefix only, which has no colon. -/
structure Discoverer.Namespaced (d : Discoverer κ) : Prop where
  plain : ':' ∉ d.idPrefix.toList
  ids : ∀ device ∈ d.scan, ∀ id ∈ device.stableId :: device.legacyIds, ∃ rest, id = d.idPrefix ++ ":" ++ rest

variable {this : DacDiscovery κ} {id : String}

theorem takeWhile_colon {plain rest : List Char} (none : ':' ∉ plain) :
    (plain ++ ':' :: rest).takeWhile (· ≠ ':') = plain := by
  rw [List.takeWhile_append_of_pos]
  · simp
  · intro c among
    simpa using fun same : c = ':' => none (same ▸ among)

theorem Discoverer.Namespaced.answers {d : Discoverer κ} (namespaced : d.Namespaced) {device : DiscoveredDevice κ}
    (found : device ∈ d.scan) (answers : device.answersTo id) : splitPrefix id = some d.idPrefix := by
  have among : id ∈ device.stableId :: device.legacyIds := by
    simp only [DiscoveredDevice.answersTo, Bool.or_eq_true, beq_iff_eq, List.any_eq_true] at answers
    rcases answers with rfl | ⟨other, legacy, rfl⟩
    · exact List.mem_cons_self
    · exact List.mem_cons_of_mem _ legacy
  obtain ⟨rest, rfl⟩ := namespaced.ids device found id among
  have letters : (d.idPrefix ++ ":" ++ rest).toList = d.idPrefix.toList ++ ':' :: rest.toList := by simp
  rw [splitPrefix, letters, takeWhile_colon namespaced.plain]
  simp

/-- A discoverer finds nothing for an id that has another prefix, or none. -/
theorem find_scanOne (namespaced : ∀ d ∈ this.discoverers, d.Namespaced) (idx : Nat)
    (other : ∀ d, this.discoverers[idx]? = some d → splitPrefix id ≠ some d.idPrefix) :
    (this.scanOne idx).find? (·.answersTo id) = none := by
  unfold DacDiscovery.scanOne
  split
  · rename_i d at_
    rw [List.find?_eq_none]
    intro device found answers
    obtain ⟨scanned, inside, rfl⟩ := List.mem_map.mp found
    exact other d at_ ((namespaced d (List.mem_of_getElem? at_)).answers inside answers)
  · rfl

/-- A search through several lists that can succeed in one of them only is a search through that one. -/
theorem find_flatMap {α β : Type} {p : β → Bool} {f : α → List β} {only : α} {l : List α}
    (nothing : ∀ a ∈ l, a ≠ only → (f a).find? p = none) (among : only ∈ l) :
    (l.flatMap f).find? p = (f only).find? p := by
  rw [List.find?_flatMap]
  cases found : l.findSome? (fun a => (f a).find? p) with
  | none => exact (List.findSome?_eq_none_iff.mp found only among).symm
  | some b =>
    obtain ⟨a, inside, first⟩ := List.exists_of_findSome?_eq_some found
    by_cases same : a = only
    · rw [← same, first]
    · rw [nothing a inside same] at first
      cases first

theorem idPrefix_inj {i j : Nat} {d d' : Discoverer κ} (first : this.discoverers[i]? = some d)
    (second : this.discoverers[j]? = some d') (same : d.idPrefix = d'.idPrefix) : i = j := by
  have inside : i < (this.discoverers.map Discoverer.idPrefix).length := by
    rw [List.length_map]
    exact (List.getElem?_eq_some_iff.mp first).1
  refine (List.getElem?_inj inside this.distinct).mp ?_
  rw [List.getElem?_map, List.getElem?_map, first, second, Option.map_some, Option.map_some, same]

theorem openById_cases (namespaced : ∀ d ∈ this.discoverers, d.Namespaced) (id : String) :
    this.openById id = this.openAmong id this.scan ∨
      this.scan.find? (·.answersTo id) = none ∧ ∃ msg, this.openById id = .error (.disconnected msg) := by
  unfold DacDiscovery.openById
  split
  · rename_i idx chosen
    left
    obtain ⟨inside, own, -⟩ := List.findIdx?_eq_some_iff_getElem.mp chosen
    have at_ : this.discoverers[idx]? = some this.discoverers[idx] := List.getElem?_eq_getElem inside
    unfold DacDiscovery.openAmong
    have everything : this.scan.find? (·.answersTo id) = (this.scanOne idx).find? (·.answersTo id) := by
      refine find_flatMap (fun other _ apart => ?_) (List.mem_range.mpr inside)
      refine find_scanOne namespaced other fun d there same => apart ?_
      rw [same, Option.getD_some, beq_iff_eq] at own
      exact (idPrefix_inj at_ there own).symm
    rw [everything]
  · rename_i idPrefix missing colon
    refine .inr ⟨?_, _, rfl⟩
    rw [colon, List.findIdx?_eq_none_iff] at missing
    rw [DacDiscovery.scan, List.find?_flatMap, List.findSome?_eq_none_iff]
    intro idx _
    refine find_scanOne namespaced idx fun d there same => ?_
    have apart := missing d (List.mem_of_getElem? there)
    rw [colon, Option.some.injEq] at same
    simp [same] at apart
  · exact .inl rfl

/-- Opening by id opens what a scan of everything would, and fails whenever that would. -/
theorem openById_scans_enough (this : DacDiscovery κ) (namespaced : ∀ d ∈ this.discoverers, d.Namespaced)
    (id : String) : (this.openById id).toOption = (this.openAmong id this.scan).toOption := by
  rcases openById_cases namespaced id with same | ⟨nothing, msg, failed⟩
  · rw [same]
  · rw [failed, DacDiscovery.openAmong, nothing]
    rfl

/-- Two protocols with a device each, the second of which still answers to an older id. -/
def twoProtocols : DacDiscovery Nat where
  discoverers := [
    { idPrefix := "helios", scan := [⟨"helios:1", [], "Helios", none, 0⟩], connect := fun _ => .error .stopped },
    { idPrefix := "idn", scan := [⟨"idn:aa", ["idn:host"], "IDN", none, 7⟩]
      connect := fun serial => .ok ⟨serial, false, ⟨1, 100000, 1000, .networkFifo⟩⟩ }]
  named := by decide
  distinct := by decide

theorem twoProtocols_namespaced : ∀ d ∈ twoProtocols.discoverers, d.Namespaced := by
  rw [twoProtocols, List.forall_mem_cons, List.forall_mem_singleton]
  constructor
  · exact ⟨by decide, by simpa using ⟨"1", by decide⟩⟩
  · exact ⟨by decide, by simpa using ⟨⟨"aa", by decide⟩, "host", by decide⟩⟩

theorem openById_scans_enough_twoProtocols :
    (twoProtocols.openById "idn:host").toOption = (twoProtocols.openAmong "idn:host" twoProtocols.scan).toOption :=
  openById_scans_enough twoProtocols twoProtocols_namespaced "idn:host"

theorem openDiscovered_target {device : DiscoveredDevice κ} {dac : Dac}
    (opened : this.openDiscovered device = .ok dac) : dac.reconnectTarget = device.stableId := by
  unfold DacDiscovery.openDiscovered at opened
  cases connected : this.connect device with
  | error e =>
    rw [connected] at opened
    cases opened
  | ok backend =>
    rw [connected] at opened
    cases opened
    rfl

/-- A device opened under any of its ids is opened again under its reconnect target, if no id is shared. -/
theorem openById_reconnects (this : DacDiscovery κ) (namespaced : ∀ d ∈ this.discoverers, d.Namespaced)
    (unshared : ∀ a ∈ this.scan, ∀ b ∈ this.scan, ∀ id, a.answersTo id → b.answersTo id → a = b) (id : String)
    (dac : Dac) (opened : this.openById id = .ok dac) : this.openById dac.reconnectTarget = .ok dac := by
  rcases openById_cases namespaced id with same | ⟨-, msg, failed⟩
  swap
  · rw [failed] at opened
    cases opened
  rw [same, DacDiscovery.openAmong] at opened
  cases found : this.scan.find? (·.answersTo id) with
  | none =>
    rw [found] at opened
    cases opened
  | some device =>
    rw [found] at opened
    have own : device.answersTo device.stableId := by simp [DiscoveredDevice.answersTo]
    have again : this.scan.find? (·.answersTo device.stableId) = some device := by
      cases first : this.scan.find? (·.answersTo device.stableId) with
      | none => exact absurd own (List.find?_eq_none.mp first device (List.mem_of_find?_eq_some found))
      | some other =>
        rw [unshared other (List.mem_of_find?_eq_some first) device (List.mem_of_find?_eq_some found) _
          (List.find?_some first) own]
    rw [openDiscovered_target opened]
    rcases openById_cases namespaced device.stableId with same | ⟨nothing, -⟩
    · rw [same, DacDiscovery.openAmong, again]
      exact opened
    · rw [again] at nothing
      cases nothing

theorem openById_reconnects_twoProtocols : ∃ dac, twoProtocols.openById "idn:host" = .ok dac ∧
    twoProtocols.openById dac.reconnectTarget = .ok dac := by
  refine ⟨⟨⟨"idn:aa", "IDN", _⟩, ⟨7, false, ⟨1, 100000, 1000, .networkFifo⟩⟩, "idn:aa"⟩, rfl, ?_⟩
  refine openById_reconnects twoProtocols twoProtocols_namespaced ?_ "idn:host" _ rfl
  have listed : twoProtocols.scan =
      [⟨"helios:1", [], "Helios", some 0, 0⟩, ⟨"idn:aa", ["idn:host"], "IDN", some 1, 7⟩] := rfl
  rw [listed]
  simp [DiscoveredDevice.answersTo]
  rintro id (rfl | rfl) <;> decide

/-- Any number of further registrations. -/
inductive Grows : DacDiscovery κ → DacDiscovery κ → Prop
  | refl (start : DacDiscovery κ) : Grows start start
  | step {start next later : DacDiscovery κ} {d : Discoverer κ} (registered : start.register d = some next)
      (rest : Grows next later) : Grows start later

theorem register_keeps {next : DacDiscovery κ} {d d' : Discoverer κ} {idx : Nat}
    (registered : this.register d = some next) (at_ : this.discoverers[idx]? = some d') :
    next.discoverers[idx]? = some d' := by
  unfold DacDiscovery.register at registered
  split at registered
  · cases registered
    rw [List.getElem?_append_left (List.getElem?_eq_some_iff.mp at_).1, at_]
  · cases registered

theorem Grows.keeps {later : DacDiscovery κ} {d : Discoverer κ} {idx : Nat} (grows : Grows this later)
    (at_ : this.discoverers[idx]? = some d) : later.discoverers[idx]? = some d := by
  induction grows with
  | refl => exact at_
  | step registered _ ih => exact ih (register_keeps registered at_)

/-- A device of a scan is connected by the discoverer that found it, whatever is registered after the scan. -/
theorem scanned_connects (this later : DacDiscovery κ) (grows : Grows this later) (device : DiscoveredDevice κ)
    (scanned : device ∈ this.scan) :
    ∃ d ∈ this.discoverers, (∃ found ∈ d.scan, device = { found with discovererIndex := device.discovererIndex }) ∧
      later.connect device = d.connect device.connectData := by
  obtain ⟨idx, -, among⟩ := List.mem_flatMap.mp scanned
  unfold DacDiscovery.scanOne at among
  split at among
  · rename_i d at_
    obtain ⟨found, inside, rfl⟩ := List.mem_map.mp among
    refine ⟨d, List.mem_of_getElem? at_, ⟨found, inside, rfl⟩, ?_⟩
    simp only [DacDiscovery.connect, grows.keeps at_]
  · cases among

theorem scanned_connects_twoProtocols : ∃ later,
    twoProtocols.register ⟨"avb", [], fun _ => .error .stopped⟩ = some later ∧ ∃ d ∈ twoProtocols.discoverers, (∃ found ∈ d.scan, found.stableId = "idn:aa") ∧
      later.connect ⟨"idn:aa", ["idn:host"], "IDN", some 1, 7⟩ = d.connect 7 := by
  obtain ⟨later, registered⟩ : ∃ later, twoProtocols.register ⟨"avb", [], fun _ => .error .stopped⟩ = some later :=
    ⟨_, rfl⟩
  refine ⟨later, registered, ?_⟩
  obtain ⟨d, among, ⟨found, inside, same⟩, connected⟩ := scanned_connects twoProtocols later
    (.step registered (.refl _)) ⟨"idn:aa", ["idn:host"], "IDN", some 1, 7⟩ (by decide)
  exact ⟨d, among, ⟨found, inside, (congrArg DiscoveredDevice.stableId same).symm⟩, connected⟩

end LaserDac.Discovery
