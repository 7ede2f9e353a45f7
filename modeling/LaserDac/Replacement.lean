import LaserDac.Sessions

/-!
The reconnect loop as a contract: what it has done to every backend it obtained by the time it returns, and
what the driver does with the one it returns. The events since the loop was entered are sorted by the backend
they concern; the other threads only add events that concern none.
-/

namespace LaserDac

open Runs Runs.Run

/-- A command to the backend, an answer of it, or a verdict on it. -/
def Event.concerns (b : Nat) : Event → Bool
  | .opened backend _ _ => backend == b
  | .closed backend _ => backend == b
  | .wrote backend _ _ _ _ _ => backend == b
  | .blanks backend _ => backend == b
  | .resetBuffer backend _ => backend == b
  | .connected backend _ => backend == b
  | .disconnected backend => backend == b
  | .stopped backend => backend == b
  | .obtained backend => backend == b
  | .validated backend _ _ => backend == b
  | .connect backend _ => backend == b
  | .installed backend _ _ => backend == b
  | _ => false

def Event.isOpening : Event → Bool
  | .opening _ _ => true
  | _ => false

def history (b : Nat) (events : List Event) : List Event := events.filter (·.concerns b)

def openings (events : List Event) : Nat := events.countP (·.isOpening)

def since (before after : World) : List Event := after.log.take (after.log.length - before.log.length)

/-- The last that happened to the backend is a close command and then a disconnect. -/
def Discarded (b : Nat) (own : List Event) : Prop := ∃ ok rest, own = .disconnected b :: .closed b ok :: rest

/-- How a backend came to be connected: it said so, or it said no and connecting it succeeded. -/
inductive Established (b : Nat) : List Event → Prop
  | already : Established b [.connected b true]
  | connects : Established b [.connect b true, .connected b false]

/-- Obtained, validated as scanned, connected, closed, and validated with what it then reports: nothing else. -/
def Vetted (backend : Backend) (own : List Event) : Prop :=
  ∃ scanned established, Established backend.id established ∧
    own = .validated backend.id backend.caps true :: .closed backend.id true ::
      (established ++ [.validated backend.id scanned true, .obtained backend.id])

/-- An event that concerns no backend and opens none. -/
structure Event.Aside (event : Event) : Prop where
  nobody : ∀ b, event.concerns b = false
  opening : event.isOpening = false

/-- An event that concerns this backend, which is not new. -/
structure Event.About (b : Nat) (event : Event) : Prop where
  only : ∀ c, event.concerns c = (b == c)
  opening : event.isOpening = false
  known : ∀ c, event ≠ .obtained c

theorem history_cons (b : Nat) (event : Event) (events : List Event) :
    history b (event :: events) = if event.concerns b then event :: history b events else history b events :=
  List.filter_cons ..

theorem openings_cons (event : Event) (events : List Event) :
    openings (event :: events) = openings events + if event.isOpening then 1 else 0 :=
  List.countP_cons ..

/-- After this many attempts, every backend that was obtained is gone. Numbers from `next` on are unused. -/
structure Cleared (count : Nat) (events : List Event) (next : Nat) : Prop where
  opened : openings events = count
  unused : ∀ b, next ≤ b → history b events = []
  discarded : ∀ b, .obtained b ∈ events → Discarded b (history b events)

/-- The same, except for the backend at hand, of which this is known. -/
structure Trying (count b : Nat) (own : List Event) (events : List Event) (next : Nat) : Prop where
  opened : openings events = count
  unused : ∀ c, next ≤ c → history c events = []
  numbered : b < next
  own : history b events = own
  discarded : ∀ c, c ≠ b → .obtained c ∈ events → Discarded c (history c events)

/-- An assertion on the events that the other threads cannot disturb. -/
def Undisturbed (φ : List Event → Nat → Prop) : Prop :=
  ∀ event events next, event.Aside → φ events next → φ (event :: events) next

section

variable {count b next : Nat} {own events : List Event} {event : Event}

theorem Event.Aside.history (aside : event.Aside) (c : Nat) :
    LaserDac.history c (event :: events) = LaserDac.history c events := by
  rw [history_cons, aside.nobody, if_neg Bool.false_ne_true]

theorem Event.Aside.not_obtained (aside : event.Aside) (c : Nat) (member : .obtained c ∈ event :: events) :
    .obtained c ∈ events := by
  rcases List.mem_cons.mp member with rfl | earlier
  · have nobody := aside.nobody c
    simp [Event.concerns] at nobody
  · exact earlier

theorem Event.About.history_other (about : event.About b) {c : Nat} (other : c ≠ b) :
    LaserDac.history c (event :: events) = LaserDac.history c events := by
  rw [history_cons, about.only, if_neg]
  simpa using fun same : b = c => other same.symm

theorem Event.About.earlier (about : event.About b) {c : Nat} (member : .obtained c ∈ event :: events) :
    .obtained c ∈ events := by
  rcases List.mem_cons.mp member with rfl | earlier
  · exact absurd rfl (about.known c)
  · exact earlier

theorem Cleared.undisturbed (count : Nat) : Undisturbed (Cleared count) := by
  intro event events next aside cleared
  refine ⟨?_, fun b unused => ?_, fun b member => ?_⟩
  · rw [openings_cons, aside.opening, cleared.opened]
    rfl
  · rw [aside.history]
    exact cleared.unused b unused
  · rw [aside.history]
    exact cleared.discarded b (aside.not_obtained b member)

theorem Trying.undisturbed (count b : Nat) (own : List Event) : Undisturbed (Trying count b own) := by
  intro event events next aside trying
  refine ⟨?_, fun c unused => ?_, trying.numbered, ?_, fun c other member => ?_⟩
  · rw [openings_cons, aside.opening, trying.opened]
    rfl
  · rw [aside.history]
    exact trying.unused c unused
  · rw [aside.history]
    exact trying.own
  · rw [aside.history]
    exact trying.discarded c other (aside.not_obtained c member)

theorem Cleared.opening (cleared : Cleared count events next) (held : Nat) (connected : Bool) :
    Cleared (count + 1) (.opening held connected :: events) next := by
  refine ⟨?_, fun b unused => ?_, fun b member => ?_⟩
  · rw [openings_cons, cleared.opened]
    rfl
  · exact cleared.unused b unused
  · exact cleared.discarded b (List.mem_of_ne_of_mem (by simp) member)

/-- A new backend takes the next number. -/
theorem Cleared.obtain (cleared : Cleared count events next) :
    Trying count next [.obtained next] (.obtained next :: events) (next + 1) := by
  refine ⟨?_, fun c unused => ?_, Nat.lt_succ_self next, ?_, fun c other member => ?_⟩
  · rw [openings_cons, cleared.opened]
    rfl
  · have other : (next == c) = false := by
      rw [beq_eq_false_iff_ne]
      omega
    rw [history_cons, Event.concerns, other, if_neg Bool.false_ne_true]
    exact cleared.unused c (Nat.le_of_succ_le unused)
  · rw [history_cons, Event.concerns, beq_self_eq_true, if_pos rfl, cleared.unused next (Nat.le_refl next)]
  · have differs : (next == c) = false := by simpa using fun same : next = c => other same.symm
    rw [history_cons, Event.concerns, differs, if_neg Bool.false_ne_true]
    refine cleared.discarded c (List.mem_of_ne_of_mem ?_ member)
    rintro ⟨⟩
    exact other rfl

theorem Trying.about (trying : Trying count b own events next) (about : event.About b) :
    Trying count b (event :: own) (event :: events) next := by
  refine ⟨?_, fun c unused => ?_, trying.numbered, ?_, fun c other member => ?_⟩
  · rw [openings_cons, about.opening, trying.opened]
    rfl
  · have other : c ≠ b := by
      have := trying.numbered
      omega
    rw [about.history_other other]
    exact trying.unused c unused
  · rw [history_cons, about.only, beq_self_eq_true, if_pos rfl, trying.own]
  · rw [about.history_other other]
    exact trying.discarded c other (about.earlier member)

theorem Trying.cleared {ok : Bool} {rest : List Event}
    (trying : Trying count b (.disconnected b :: .closed b ok :: rest) events next) : Cleared count events next := by
  refine ⟨trying.opened, trying.unused, fun c member => ?_⟩
  by_cases same : c = b
  · subst same
    exact ⟨ok, rest, trying.own⟩
  · exact trying.discarded c same member

end

theorem Event.About.closed (b : Nat) (ok : Bool) : (Event.closed b ok).About b := ⟨fun _ => rfl, rfl, nofun⟩
theorem Event.About.disconnected (b : Nat) : (Event.disconnected b).About b := ⟨fun _ => rfl, rfl, nofun⟩
theorem Event.About.connected (b : Nat) (ok : Bool) : (Event.connected b ok).About b := ⟨fun _ => rfl, rfl, nofun⟩
theorem Event.About.connect (b : Nat) (ok : Bool) : (Event.connect b ok).About b := ⟨fun _ => rfl, rfl, nofun⟩

theorem Event.About.validated (b : Nat) (caps : DacCapabilities) (ok : Bool) : (Event.validated b caps ok).About b :=
  ⟨fun _ => rfl, rfl, nofun⟩

/-! ### The loop -/

section

variable (env : Env) (maxRetries : Option UInt32) (base : World)

/-- The events since `base` and the next unused number meet the assertion. -/
def Since (φ : List Event → Nat → Prop) (w : World) : Prop :=
  ∃ events, w.log = events ++ base.log ∧ φ events w.nextBackend

def Limited (events : List Event) (_next : Nat) : Prop :=
  ∀ limit, maxRetries = some limit → openings events ≤ limit.toNat

/-- The program stays within the limit wherever it is cut off, and leads from one assertion to the other. -/
def Tries {α : Type} (φ : List Event → Nat → Prop) (m : Run World α) (ψ : α → List Event → Nat → Prop) : Prop :=
  Follows (fun w w' => Since base (Limited maxRetries) w → Since base (Limited maxRetries) w') (Since base φ) m
    fun a => Since base (ψ a)

end

variable {w : World}

section

variable {env : Env} {maxRetries : Option UInt32} {base : World} {α β : Type} {φ : List Event → Nat → Prop}
  {ψ : α → List Event → Nat → Prop}

variable {event : Event}

theorem Since.record {χ : List Event → Nat → Prop} (known : Since base φ w)
    (holds : ∀ events, φ events w.nextBackend → χ (event :: events) w.nextBackend) : Since base χ (w.record event) := by
  obtain ⟨events, log, known⟩ := known
  exact ⟨event :: events, congrArg (event :: ·) log, holds events known⟩

theorem Limited.undisturbed : Undisturbed (Limited maxRetries) := by
  intro event events next aside limited limit eq
  rw [openings_cons, aside.opening]
  exact limited limit eq

theorem Event.Aside.edge (before after : Word) : (Event.edge before after).Aside := ⟨fun _ => rfl, rfl⟩

theorem Since.interleave (undisturbed : Undisturbed φ) (known : Since base φ w) : Since base φ (w.interleave env) := by
  have acts : ∀ actions : List Action, ∀ w : World, Since base φ w → Since base φ (actions.foldl World.act w) := by
    intro actions
    induction actions with
    | nil => exact fun _ => id
    | cons action actions ih =>
      intro w known
      refine ih _ ?_
      by_cases same : (w.shared.act action).desired = w.desired
      · rw [World.act, if_pos same]
        exact known
      · rw [World.act, if_neg same]
        exact Since.record known fun events => undisturbed _ events _ (.edge _ _)
  exact acts _ w known

variable {answer : World → α} {m : Run World α}

namespace Tries

theorem bind {m : Run World β} {k : β → Run World α} (χ : β → List Event → Nat → Prop)
    (first : Tries maxRetries base φ m χ) (rest : ∀ b, Tries maxRetries base (χ b) (k b) ψ) :
    Tries maxRetries base φ (m >>= k) ψ :=
  Follows.bind first rest

theorem pure {a : α} (holds : ∀ events next, φ events next → ψ a events next) :
    Tries maxRetries base φ (Pure.pure a : Run World α) ψ :=
  Follows.pure fun _ ⟨events, log, known⟩ => ⟨events, log, holds events _ known⟩

theorem weaken {φ' : List Event → Nat → Prop} {ψ' : α → List Event → Nat → Prop} (judged : Tries maxRetries base φ m ψ)
    (before : ∀ events next, φ' events next → φ events next)
    (after : ∀ a events next, ψ a events next → ψ' a events next) : Tries maxRetries base φ' m ψ' :=
  Follows.weaken judged (fun _ ⟨events, log, known⟩ => ⟨events, log, before events _ known⟩)
    fun a _ ⟨events, log, known⟩ => ⟨events, log, after a events _ known⟩

theorem ite {c : Prop} [Decidable c] {m' : Run World α} (yes : c → Tries maxRetries base φ m ψ)
    (no : ¬ c → Tries maxRetries base φ m' ψ) : Tries maxRetries base φ (if c then m else m') ψ :=
  Follows.ite yes no

theorem assuming {fact : Prop} (known : ∀ events next, φ events next → fact)
    (judged : fact → Tries maxRetries base φ m ψ) : Tries maxRetries base φ m ψ :=
  Follows.assuming (fun _ ⟨events, _, holds⟩ => known events _ holds) judged

theorem forSome {ι : Type} {φ : ι → List Event → Nat → Prop} (judged : ∀ i, Tries maxRetries base (φ i) m ψ) :
    Tries maxRetries base (fun events next => ∃ i, φ i events next) m ψ :=
  fun w ⟨events, log, i, holds⟩ => judged i w ⟨events, log, holds⟩

theorem access (undisturbed : Undisturbed φ) : Tries maxRetries base φ (access env) fun _ => φ := by
  refine Follows.bind (M := fun _ => Since base φ) (Follows.state fun _ => id) fun w => ?_
  refine Follows.ite (fun _ => ?_) fun _ => Follows.cut
  exact Follows.update (fun w _ => .single (Since.interleave Limited.undisturbed)) fun w =>
    Since.interleave undisturbed

theorem query (undisturbed : Undisturbed φ) : Tries maxRetries base φ (query env answer) fun _ => φ := by
  refine bind (fun _ => φ) (access undisturbed) fun _ => ?_
  exact Follows.bind (M := fun _ => Since base φ) (Follows.state fun _ => id) fun w => Follows.pure fun _ => id

theorem command (undisturbed : Undisturbed φ) {event : World → α → Event}
    (limited : ∀ w events, φ events w.nextBackend → Limited maxRetries events w.nextBackend →
      Limited maxRetries (event w (answer w) :: events) w.nextBackend)
    (holds : ∀ w events, φ events w.nextBackend → ψ (answer w) (event w (answer w) :: events) w.nextBackend) :
    Tries maxRetries base φ (command env answer event) ψ := by
  refine command_follows env (access undisturbed) (fun w known => ?_) fun w known => known.record (holds w)
  rintro ⟨events, log, below⟩
  obtain ⟨same, log', known⟩ := known
  obtain rfl : same = events := List.append_cancel_right (log'.symm.trans log)
  exact ⟨event w (answer w) :: same, congrArg (event w (answer w) :: ·) log, limited w same known below⟩

theorem iterate {round : β → Run World (β ⊕ α)} (i : β → List Event → Nat → Prop)
    (step : ∀ b, Tries maxRetries base (i b) (round b) fun result events count => match result with
      | .inl b => i b events count
      | .inr a => ψ a events count) (fuel : Nat) (b : β) : Tries maxRetries base (i b) (iterate fuel round b) ψ := by
  refine Follows.iterate (fun b => Since base (i b)) (fun b => ?_) fuel b
  refine Follows.post (step b) fun result _ holds => ?_
  cases result <;> exact holds

end Tries

theorem Limited.other (other : event.isOpening = false) {events : List Event} {next : Nat}
    (limited : Limited maxRetries events next) : Limited maxRetries (event :: events) next := by
  intro limit eq
  rw [openings_cons, other]
  exact limited limit eq

variable {count : Nat} {own : List Event}

theorem command_trying (b : Nat) {event : α → Event} (about : ∀ a, (event a).About b) :
    Tries maxRetries base (Trying count b own) (command env answer fun _ => event) fun a =>
      Trying count b (event a :: own) :=
  .command (Trying.undisturbed count b own) (fun _ _ _ => Limited.other (about _).opening) fun _ _ trying =>
    trying.about (about _)

theorem closeAndDisconnect_tries (b : Nat) :
    Tries maxRetries base (Trying count b own) (closeAndDisconnect env b) fun _ => Cleared count := by
  refine .bind _ (command_trying b (.closed b)) fun ok => ?_
  exact (command_trying b fun _ => .disconnected b).weaken (fun _ _ => id) fun _ _ _ => Trying.cleared

theorem note_trying {b : Nat} (about : event.About b) :
    Tries maxRetries base (Trying count b own) (note event) fun _ => Trying count b (event :: own) := by
  refine Follows.update (fun w _ => .single fun limited => ?_) fun w trying => ?_
  · exact limited.record fun _ => Limited.other about.opening
  · exact trying.record fun _ trying => trying.about about

theorem validate_tries (expectedFrameSwap : Bool) (info : DacCapabilities) (backend : Backend) :
    Tries maxRetries base (Trying count backend.id own) (validate env expectedFrameSwap info backend)
      fun rejected => Trying count backend.id (.validated backend.id info rejected.isNone :: own) := by
  refine .ite (fun _ => ?_) fun _ => ?_
  · exact .bind _ (note_trying (.validated ..)) fun _ => .pure fun _ _ => id
  refine .bind (fun _ => Trying count backend.id own) ?_ fun pps => ?_
  · have rate (pps : Nat) : (Event.rate pps).Aside := ⟨fun _ => rfl, rfl⟩
    exact .command (Trying.undisturbed _ _ _) (fun _ _ _ => Limited.other rfl) fun _ events =>
      Trying.undisturbed _ _ _ _ events _ (rate _)
  refine Follows.bind (M := fun _ => Since base (Trying count backend.id own)) (Follows.state fun _ => id) fun w => ?_
  exact Tries.bind _ (note_trying (.validated ..)) fun _ => .pure fun _ _ => id

theorem establish_tries (backend : Backend) :
    Tries maxRetries base (Trying count backend.id own) (establish env backend) fun result events next =>
      result.2.id = backend.id ∧ ∃ answers, (result.1 = none → Established backend.id answers) ∧
        Trying count backend.id (answers ++ own) events next := by
  refine .bind _ (command_trying backend.id (.connected backend.id)) fun connected => ?_
  refine .ite (fun yes => ?_) fun no => ?_
  · subst yes
    exact .pure fun events next trying => ⟨rfl, [.connected backend.id true], fun _ => .already, trying⟩
  obtain rfl : connected = false := Bool.eq_false_iff.mpr no
  unfold Backend.connect
  split
  · exact .pure fun events next trying => ⟨rfl, [.connected backend.id false], nofun, trying⟩
  refine .bind _ (command_trying backend.id fun result : Option Error × DacCapabilities =>
    .connect backend.id result.1.isNone) fun result => ?_
  obtain ⟨error, caps⟩ := result
  dsimp only
  split
  · exact .pure fun events next trying => ⟨rfl, [.connect backend.id false, .connected backend.id false], nofun, trying⟩
  · exact .pure fun events next trying =>
      ⟨rfl, [.connect backend.id true, .connected backend.id false], fun _ => .connects, trying⟩
  · refine .bind _ (command_trying backend.id fun _ => .disconnected backend.id) fun _ => ?_
    exact .pure fun events next trying =>
      ⟨rfl, [.disconnected backend.id, .connect backend.id true, .connected backend.id false], nofun, trying⟩

def Returned (count : Nat) (result : Except SessionExit (DacCapabilities × Backend)) (events : List Event)
    (next : Nat) : Prop :=
  match result with
  | .error _ => Cleared count events next
  | .ok (info, backend) => info = backend.caps ∧ ∃ own, Vetted backend own ∧ Trying count backend.id own events next

def Attempted (count : Nat) (result : Option (Except SessionExit (DacCapabilities × Backend))) (events : List Event)
    (next : Nat) : Prop :=
  match result with
  | some result => Returned count result events next
  | none => Cleared count events next

theorem obtainBackend_tries (isFrameSwap : Bool) (caps : DacCapabilities) :
    Tries maxRetries base (Cleared count) (obtainBackend isFrameSwap caps) fun backend =>
      Trying count backend.id [.obtained backend.id] := by
  refine Follows.bind (M := fun w w' => w = w' ∧ Since base (Cleared count) w) 
    (Follows.state fun w known => ⟨rfl, known⟩) fun w => ?_
  refine Follows.bind (M := fun _ => Since base (Trying count w.nextBackend [.obtained w.nextBackend])) ?_ fun _ =>
    Follows.pure fun _ => id
  refine Follows.update ?_ ?_
  · rintro _ ⟨rfl, -⟩
    refine .single ?_
    rintro ⟨events, log, limited⟩
    exact ⟨.obtained w.nextBackend :: events, congrArg (Event.obtained w.nextBackend :: ·) log, Limited.other rfl limited⟩
  · rintro _ ⟨rfl, events, log, cleared⟩
    exact ⟨.obtained w.nextBackend :: events, congrArg (Event.obtained w.nextBackend :: ·) log, cleared.obtain⟩

theorem openDevice_tries (room : ∀ limit, maxRetries = some limit → count < limit.toNat) :
    Tries maxRetries base (Cleared count) (openDevice env) fun _ => Cleared (count + 1) := by
  refine .command (Cleared.undisturbed count) ?_ fun w events cleared => cleared.opening _ _
  intro w events cleared _ limit eq
  rw [openings_cons, cleared.opened]
  exact room limit eq

theorem attempt_tries (expectedFrameSwap : Bool) (room : ∀ limit, maxRetries = some limit → count < limit.toNat) :
    Tries maxRetries base (Cleared count) (attempt env expectedFrameSwap) (Attempted (count + 1)) := by
  refine .bind _ (openDevice_tries room) fun opened => ?_
  split
  · refine .pure fun events next cleared => ?_
    split <;> exact cleared
  · exact .pure fun _ _ => id
  rename_i scanned isFrameSwap caps
  refine .bind _ (obtainBackend_tries isFrameSwap caps) fun backend => ?_
  refine .bind _ (validate_tries expectedFrameSwap scanned backend) fun rejected => ?_
  cases rejected with
  | some => exact .bind _ (closeAndDisconnect_tries _) fun _ => .pure fun _ _ => id
  | none =>
  refine .bind _ (establish_tries backend) fun result => ?_
  obtain ⟨failure, connected⟩ := result
  -- From here on the record of the backend is known up to how it was connected.
  refine .assuming (fun _ _ known => known.1) fun same : connected.id = backend.id => ?_
  rw [← same]
  refine Tries.weaken (.forSome fun answers => ?_) (fun _ _ known => known.2) fun _ _ _ => id
  refine .assuming (fun _ _ known => known.1) fun established => ?_
  refine Tries.weaken (φ := Trying (count + 1) connected.id
    (answers ++ [.validated connected.id scanned true, .obtained connected.id])) ?_ (fun _ _ known => known.2)
    fun _ _ _ => id
  cases failure with
  | some error =>
    refine .bind _ (closeAndDisconnect_tries _) fun _ => .pure fun events next cleared => ?_
    split
    · exact cleared
    split <;> exact cleared
  | none =>
    refine .bind _ (command_trying connected.id (.closed connected.id)) fun closed => ?_
    refine .ite (fun yes => ?_) fun _ => .bind _ (closeAndDisconnect_tries _) fun _ => .pure fun _ _ => id
    subst yes
    refine .bind _ (validate_tries expectedFrameSwap connected.caps connected) fun rejected => ?_
    cases rejected with
    | some => exact .bind _ (closeAndDisconnect_tries _) fun _ => .pure fun _ _ => id
    | none => exact .pure fun events next trying => ⟨rfl, _, ⟨scanned, answers, established rfl, rfl⟩, trying⟩

theorem sleepWithStop_tries (duration : Nat) :
    Tries maxRetries base (Cleared count) (sleepWithStop env duration) fun _ => Cleared count := by
  have undisturbed := Cleared.undisturbed count
  refine .bind _ (.query undisturbed) fun start => ?_
  refine .iterate (fun _ => Cleared count) (fun _ => ?_) _ _
  refine .bind _ (.query undisturbed) fun stop => ?_
  refine .ite (fun _ => .pure fun _ _ => id) fun _ => ?_
  refine .bind _ (.query undisturbed) fun now => ?_
  refine .ite (fun _ => ?_) fun _ => ?_
  · exact .bind _ (.query undisturbed) fun stop => .pure fun _ _ => id
  · exact .bind _ (.access undisturbed) fun _ => .pure fun _ _ => id

/-- The counter is the number of attempts, until it saturates. -/
def Counted (retries : Nat) (events : List Event) (next : Nat) : Prop :=
  ∃ count, (retries < 2 ^ 32 - 1 → count = retries) ∧ Cleared count events next

theorem Counted.undisturbed (retries : Nat) : Undisturbed (Counted retries) :=
  fun event events next aside ⟨count, exact, cleared⟩ =>
    ⟨count, exact, Cleared.undisturbed count event events next aside cleared⟩

theorem Counted.room {retries count : Nat} (exact : retries < 2 ^ 32 - 1 → count = retries)
    (below : limitReached maxRetries retries = false) (limit : UInt32) (eq : maxRetries = some limit) :
    count < limit.toNat := by
  subst eq
  have below : retries < limit.toNat := by simpa [limitReached] using below
  have bounded := limit.toNat_lt
  rw [exact (by omega)]
  exact below

theorem Counted.succ {retries count : Nat} (exact : retries < 2 ^ 32 - 1 → count = retries)
    (below : min (retries + 1) (2 ^ 32 - 1) < 2 ^ 32 - 1) : count + 1 = min (retries + 1) (2 ^ 32 - 1) := by
  rw [exact (by omega)]
  omega

theorem reconnectBackendWithRetry_tries (policy : ReconnectPolicy) (expectedFrameSwap : Bool) :
    Tries policy.maxRetries base (Cleared 0) (reconnectBackendWithRetry env policy expectedFrameSwap)
      fun result events next => ∃ count, Returned count result events next := by
  refine .bind _ (.query (Cleared.undisturbed 0)) fun flapping => ?_
  refine Tries.weaken (φ := Counted 0) ?_ (fun _ _ cleared => ⟨0, fun _ => rfl, cleared⟩) fun _ _ _ => id
  refine .iterate Counted (fun retries => ?_) _ _
  refine .bind _ (.query (Counted.undisturbed retries)) fun stop => ?_
  -- Within a round the number of attempts so far is fixed.
  refine .forSome fun count => ?_
  refine .assuming (fun _ _ known => known.1) fun exact => ?_
  refine Tries.weaken (φ := Cleared count) ?_ (fun _ _ known => known.2) fun _ _ _ => id
  refine .ite (fun _ => .pure fun _ _ cleared => ⟨count, cleared⟩) fun _ => ?_
  refine .ite (fun _ => .pure fun _ _ cleared => ⟨count, cleared⟩) fun below => ?_
  refine .bind (fun _ => Cleared count) ?_ fun interrupted => ?_
  · exact .ite (fun _ => sleepWithStop_tries _) fun _ => .pure fun _ _ => id
  refine .ite (fun _ => .pure fun _ _ cleared => ⟨count, cleared⟩) fun _ => ?_
  refine .bind _ (attempt_tries _ (Counted.room exact (Bool.eq_false_iff.mpr below))) fun result => ?_
  cases result with
  | some result => exact .pure fun events next returned => ⟨count + 1, returned⟩
  | none => exact .pure fun events next cleared => ⟨count + 1, Counted.succ exact, cleared⟩

end

/-! ### What the loop and the driver guarantee -/

theorem since_eq {before after : World} {events : List Event} (log : after.log = events ++ before.log) :
    since before after = events := by
  simp [since, log]

/-- The contract of the reconnect loop, entered in `before`: its result, or nothing if it was cut off, and the
state it reached. -/
structure Reconnects (maxRetries : Option UInt32) (before : World)
    (outcome : Option (Except SessionExit (DacCapabilities × Backend)) × World) : Prop where
  bounded : ∀ limit, maxRetries = some limit → openings (since before outcome.2) ≤ limit.toNat
  discarded : ∀ result, outcome.1 = some result → ∀ b, .obtained b ∈ since before outcome.2 →
    (∀ info backend, result = .ok (info, backend) → backend.id ≠ b) → Discarded b (history b (since before outcome.2))
  vetted : ∀ info backend, outcome.1 = some (.ok (info, backend)) →
    info = backend.caps ∧ Vetted backend (history backend.id (since before outcome.2))

theorem reconnectBackendWithRetry_reconnects (env : Env) (policy : ReconnectPolicy) (expectedFrameSwap : Bool)
    (w : World) : Reconnects policy.maxRetries w (reconnectBackendWithRetry env policy expectedFrameSwap w) := by
  have judged : Tries policy.maxRetries w (Cleared 0) (reconnectBackendWithRetry env policy expectedFrameSwap) _ :=
    reconnectBackendWithRetry_tries policy expectedFrameSwap
  have entered : Since w (Cleared 0) w := ⟨[], rfl, rfl, fun _ _ => rfl, nofun⟩
  have within : Since w (Limited policy.maxRetries) w := ⟨[], rfl, fun _ _ => Nat.zero_le _⟩
  obtain ⟨below, log, limited⟩ := judged.keeps (fun _ _ holds keeps => keeps holds) w entered within
  have returns := (judged w entered).2
  refine ⟨?_, fun result eq b member other => ?_, fun info backend eq => ?_⟩
  · rw [since_eq log]
    exact limited
  · obtain ⟨events, log, count, returned⟩ := returns _ eq
    rw [since_eq log] at member ⊢
    rcases result with exit | ⟨info, backend⟩
    · exact returned.discarded b member
    · obtain ⟨-, own, -, trying⟩ := returned
      exact trying.discarded b (Ne.symm (other info backend rfl)) member
  · obtain ⟨events, log, count, same, own, vetted, trying⟩ := returns _ eq
    rw [since_eq log, trying.own]
    exact ⟨same, vetted⟩

theorem updatePpsBounds_accepts (shared : Shared) (caps : DacCapabilities) :
    (shared.updatePpsBounds caps.ppsMin caps.ppsMax).1 = decide (caps.Supports shared.rate.pps) := by
  unfold Shared.updatePpsBounds DacCapabilities.Supports
  by_cases inRange : caps.ppsMin ≤ shared.rate.pps ∧ shared.rate.pps ≤ caps.ppsMax
  · rw [if_neg (by omega)]
    simp [inRange]
  · rw [if_pos (by omega)]
    simp [inRange]

/-- What the driver does with the backend that the loop returned in `returned`: the moment of the installation
is right after the next turn of the other threads, if the run is not cut off before. -/
def Replaces (env : Env) (info : DacCapabilities) (backend : Backend) (returned : World)
    (outcome : Option (Option SessionExit) × World) : Prop :=
  let moment := returned.interleave env
  if backend.caps.Supports moment.shared.rate.pps then
    outcome = (some none,
      moment.install env info backend (moment.shared.updatePpsBounds backend.caps.ppsMin backend.caps.ppsMax).2)
  else ∀ result, outcome.1 = some result → result = some .incompatibleDevice ∧
    ∃ ok, history backend.id (since moment outcome.2) = [.disconnected backend.id, .closed backend.id ok]

/-- A replacement is installed only at a rate it supports. -/
def InstallsInRange : Event → List Event → Prop
  | .installed _ pps caps, _ => caps.Supports pps
  | _, _ => True

theorem closeAndDisconnect_history (env : Env) (b : Nat) (w : World) (result : Unit)
    (eq : (closeAndDisconnect env b w).1 = some result) :
    ∃ ok, history b (since w (closeAndDisconnect env b w).2) = [.disconnected b, .closed b ok] := by
  have undisturbed (own : List Event) : Undisturbed fun events _ => history b events = own := by
    intro event events next aside known
    rw [aside.history, known]
  have closes : Tries none w (fun events _ => history b events = []) (closeAndDisconnect env b) fun _ events _ =>
      ∃ ok, history b events = [.disconnected b, .closed b ok] := by
    refine .bind (fun ok events _ => history b events = [.closed b ok]) ?_ fun ok => ?_
    · refine .command (undisturbed []) (fun _ _ _ => Limited.other rfl) fun _ events known => ?_
      rw [history_cons, Event.concerns, beq_self_eq_true, if_pos rfl, known]
    · refine .command (undisturbed _) (fun _ _ _ => Limited.other rfl) fun _ events known => ⟨ok, ?_⟩
      rw [history_cons, Event.concerns, beq_self_eq_true, if_pos rfl, known]
  obtain ⟨events, log, known⟩ := (closes w ⟨[], rfl, rfl⟩).2 result eq
  rw [since_eq log]
  exact known

theorem access_of_running (env : Env) (running : w.tick < env.fuel) : access env w = (some (), w.interleave env) := by
  change (if w.tick < env.fuel then Run.update (World.interleave env) else Run.cut) w = _
  rw [if_pos running]
  rfl

theorem reconnect_returned (env : Env) {policy : ReconnectPolicy} (configured : env.reconnectPolicy = some policy)
    {returned : World} {info : DacCapabilities} {backend : Backend}
    (found : reconnectBackendWithRetry env policy w.source.isFrame w = (some (.ok (info, backend)), returned))
    (running : returned.tick < env.fuel) :
    reconnect env w =
      let moment := returned.interleave env
      let bounds := moment.shared.updatePpsBounds backend.caps.ppsMin backend.caps.ppsMax
      if bounds.1 then (some none, moment.install env info backend bounds.2)
      else (closeAndDisconnect env backend.id >>= fun _ => pure (some .incompatibleDevice)) moment := by
  rw [reconnect, configured]
  dsimp only
  rw [bind_state, bind_of_result found]
  dsimp only
  rw [bind_of_result (access_of_running env running), bind_state]
  by_cases accepted : ((returned.interleave env).shared.updatePpsBounds backend.caps.ppsMin backend.caps.ppsMax).1
  · rw [if_pos accepted, if_pos accepted]
    rfl
  · rw [if_neg accepted, if_neg accepted]

theorem reconnect_replaces (env : Env) {policy : ReconnectPolicy} (configured : env.reconnectPolicy = some policy)
    {returned : World} {info : DacCapabilities} {backend : Backend}
    (found : reconnectBackendWithRetry env policy w.source.isFrame w = (some (.ok (info, backend)), returned))
    (running : returned.tick < env.fuel) : Replaces env info backend returned (reconnect env w) := by
  rw [reconnect_returned env configured found running, Replaces]
  dsimp only
  rw [updatePpsBounds_accepts]
  by_cases inRange : backend.caps.Supports (returned.interleave env).shared.rate.pps
  · rw [if_pos inRange, if_pos (decide_eq_true inRange)]
  · rw [if_neg inRange, if_neg (by simpa using inRange)]
    intro result eq
    have closed := closeAndDisconnect_history env backend.id (returned.interleave env)
    simp only [bind, pure] at eq ⊢
    cases done : closeAndDisconnect env backend.id (returned.interleave env) with
    | mk answer =>
      rw [done] at eq closed
      cases answer with
      | none => cases eq
      | some answer =>
        cases eq
        exact ⟨rfl, closed answer rfl⟩

theorem InstallsInRange.step (w w' : World) (always : Always InstallsInRange w.log) (_ : Always (fun _ _ => True) w'.log)
    (step : Step w w') : Always InstallsInRange w'.log := by
  cases step with
  | silent | tuned => exact always
  | @noted event allowed =>
    refine ⟨?_, always⟩
    cases allowed with
    | neutral => cases event <;> trivial
    | _ => trivial
  | installed env info backend shared gone position fresh bounds =>
    refine ⟨?_, always⟩
    have accepted := updatePpsBounds_accepts w.shared backend.caps
    rw [← bounds] at accepted
    have same : shared.rate.pps = w.shared.rate.pps := Shared.updatePpsBounds_pps bounds
    rw [InstallsInRange, same]
    exact of_decide_eq_true accepted.symm
  | _ => exact ⟨trivial, always⟩

theorem replacements_are_vetted (env : Env) :
    (∀ policy expectedFrameSwap w,
      Reconnects policy.maxRetries w (reconnectBackendWithRetry env policy expectedFrameSwap w)) ∧
    (∀ policy w info backend returned, env.reconnectPolicy = some policy →
      reconnectBackendWithRetry env policy w.source.isFrame w = (some (.ok (info, backend)), returned) →
      returned.tick < env.fuel → Replaces env info backend returned (reconnect env w)) ∧
    ∀ session : Session, Always InstallsInRange (session.after env).log := by
  refine ⟨reconnectBackendWithRetry_reconnects env, ?_, fun session => ?_⟩
  · intro policy w info backend returned configured found running
    exact reconnect_replaces env configured found running
  · refine session.after_keeps env (fun _ _ => True) (fun w => Always InstallsInRange w.log) trivial InstallsInRange.step ?_
    exact Always.of_forall (fun _ _ => trivial) _

/-- Two devices are opened; the first one cannot be connected. -/
def Env.reopening : Env := { Env.calm 60 with
  isConnected := fun _ => false
  connect := fun tick => (if tick < 8 then some (.backend "timed out") else none, (Session.queue 0 0).caps)
  openDevice := fun _ => .device (Session.queue 0 0).caps false (Session.queue 0 0).caps
  reconnectPolicy := some { maxRetries := some 2, backoff := 0 } }

theorem replacements_are_vetted_second_device :
    Reconnects (some 2) (Session.queue 0 0).start
      (reconnectBackendWithRetry .reopening { maxRetries := some 2, backoff := 0 } false (Session.queue 0 0).start) ∧
    ((reconnectBackendWithRetry .reopening { maxRetries := some 2, backoff := 0 } false
      (Session.queue 0 0).start).1.map fun result => result.toOption.map (·.2.id)) = some (some 2) :=
  ⟨(replacements_are_vetted .reopening).1 { maxRetries := some 2, backoff := 0 } false (Session.queue 0 0).start,
    by decide +kernel⟩

end LaserDac
