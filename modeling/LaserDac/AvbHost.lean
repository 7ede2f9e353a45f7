import LaserDac.Gates

/-!
Access to the audio host. Whoever needs the host requests a session, waits while the host is busy, and gives up at a
deadline; a teardown goes on without a session then. A host of one stream never starts a second one.
-/

namespace LaserDac.Avb

open Gates

/-! ### Streams and who has them -/

/-- What a thread has to do with a stream. -/
inductive Burden where
  | none
  /-- It has started a stream that is not counted yet. -/
  | starting (stream : Nat)
  /-- It has a stream that runs and is counted. -/
  | whole (stream : Nat)
  /-- It has stopped a stream that is still counted. -/
  | stopped (stream : Nat)
  deriving DecidableEq, Repr

namespace Burden

def carries : Burden → Option Nat
  | none => .none
  | starting stream => some stream
  | whole stream => some stream
  | stopped stream => some stream

def runs : Burden → Option Nat
  | starting stream => some stream
  | whole stream => some stream
  | _ => .none

def counts : Burden → Option Nat
  | whole stream => some stream
  | stopped stream => some stream
  | _ => .none

theorem carries_of_runs {burden : Burden} {stream : Nat} (runs : burden.runs = some stream) :
    burden.carries = some stream := by
  cases burden <;> first | exact runs | cases runs

theorem carries_of_counts {burden : Burden} {stream : Nat} (counts : burden.counts = some stream) :
    burden.carries = some stream := by
  cases burden <;> first | exact counts | cases counts

end Burden

/-- The streams: those nobody is busy with, those that run, the counter, the number of the next one, and what each
thread has to do with them. -/
structure Books (Thread : Type) where
  owned : Finset Nat
  running : Finset Nat
  live : Nat
  next : Nat
  burden : Thread → Burden

namespace Books

variable {Thread : Type}

def Bears (books : Books Thread) (part : Burden → Option Nat) (stream : Nat) : Prop :=
  stream ∈ books.owned ∨ ∃ thread, part (books.burden thread) = some stream

structure Balanced (books : Books Thread) : Prop where
  unique : ∀ first second stream, (books.burden first).carries = some stream →
    (books.burden second).carries = some stream → first = second
  apart : ∀ thread stream, (books.burden thread).carries = some stream → stream ∉ books.owned
  fresh : ∀ stream, books.Bears Burden.carries stream → stream < books.next
  running : ∀ stream, stream ∈ books.running ↔ books.Bears Burden.runs stream
  counted : ∃ counted : Finset Nat, books.live = counted.card ∧
    ∀ stream, stream ∈ counted ↔ books.Bears Burden.counts stream

def start : Books Thread where
  owned := ∅
  running := ∅
  live := 0
  next := 0
  burden _ := .none

theorem start_balanced : (start : Books Thread).Balanced where
  unique _ _ _ carries := by cases carries
  apart _ _ carries := by cases carries
  fresh _ bears := by simp [start, Bears, Burden.carries] at bears
  running _ := by simp [start, Bears, Burden.runs]
  counted := ⟨∅, rfl, fun _ => by simp [start, Bears, Burden.counts]⟩

variable [DecidableEq Thread]

def assign (books : Books Thread) (thread : Thread) (burden : Burden) : Books Thread :=
  { books with burden := Function.update books.burden thread burden }

/-- What can happen to a stream. -/
inductive Entry : Books Thread → Books Thread → Prop where
  | claim {books thread stream} : books.burden thread = .none → stream ∈ books.owned →
      Entry books ({ books with owned := books.owned.erase stream }.assign thread (.whole stream))
  | start {books thread} : books.burden thread = .none →
      Entry books ({ books with running := insert books.next books.running, next := books.next + 1 }.assign thread
        (.starting books.next))
  | count {books thread stream} : books.burden thread = .starting stream →
      Entry books ({ books with live := books.live + 1 }.assign thread (.whole stream))
  | stop {books thread stream} : books.burden thread = .whole stream →
      Entry books ({ books with running := books.running.erase stream }.assign thread (.stopped stream))
  | discount {books thread stream} : books.burden thread = .stopped stream →
      Entry books ({ books with live := books.live - 1 }.assign thread .none)
  | give {books thread stream} : books.burden thread = .whole stream →
      Entry books ({ books with owned := insert stream books.owned }.assign thread .none)

/-- A stream is owned, or a thread other than this one has it in this way. -/
def Elsewhere (books : Books Thread) (thread : Thread) (part : Burden → Option Nat) (stream : Nat) : Prop :=
  stream ∈ books.owned ∨ ∃ other, other ≠ thread ∧ part (books.burden other) = some stream

section

variable (books : Books Thread)

include books

variable (thread : Thread)

theorem bears_iff (part : Burden → Option Nat) (stream : Nat) :
    books.Bears part stream ↔ books.Elsewhere thread part stream ∨ part (books.burden thread) = some stream := by
  unfold Bears Elsewhere
  constructor
  · rintro (owned | ⟨other, has⟩)
    · exact .inl (.inl owned)
    · by_cases same : other = thread
      · exact .inr (same ▸ has)
      · exact .inl (.inr ⟨other, same, has⟩)
  · rintro ((owned | ⟨other, -, has⟩) | has)
    · exact .inl owned
    · exact .inr ⟨other, has⟩
    · exact .inr ⟨thread, has⟩

variable (burden : Burden)

theorem assign_bears_iff (part : Burden → Option Nat) (stream : Nat) :
    (books.assign thread burden).Bears part stream ↔
      books.Elsewhere thread part stream ∨ part burden = some stream := by
  have others {other : Thread} (ne : other ≠ thread) : (books.assign thread burden).burden other = books.burden other :=
    Function.update_of_ne ne ..
  have self : (books.assign thread burden).burden thread = burden := Function.update_self ..
  rw [bears_iff _ thread, self]
  refine or_congr (or_congr Iff.rfl ?_) Iff.rfl
  exact exists_congr fun other => and_congr_right fun ne => by rw [others ne]

@[simp] theorem assign_burden (other : Thread) :
    (books.assign thread burden).burden other = if other = thread then burden else books.burden other :=
  Function.update_apply ..

@[simp] theorem assign_owned : (books.assign thread burden).owned = books.owned := rfl

@[simp] theorem assign_running : (books.assign thread burden).running = books.running := rfl

@[simp] theorem assign_next : (books.assign thread burden).next = books.next := rfl

end

/-- Every entry keeps the books balanced. -/
theorem Entry.balanced {books after : Books Thread} (entry : Entry books after) (balanced : books.Balanced) :
    after.Balanced := by
  obtain ⟨unique, apart, fresh, running, counted, live, counts⟩ := balanced
  -- the streams that the counter stands for are the same, but for one that is counted or discounted
  cases entry with
  | @claim thread | @start thread | @give thread =>
    simp only [bears_iff _ thread, Elsewhere] at fresh running counts
    refine ⟨?_, ?_, ?_, ?_, counted, live, ?_⟩
    all_goals simp only [assign_bears_iff, Elsewhere, assign_burden, assign_owned, assign_running, assign_next]
    all_goals grind [Burden.carries, Burden.runs, Burden.counts]
  | @count thread stream starting =>
    simp only [bears_iff _ thread, Elsewhere] at fresh running counts
    have uncounted : stream ∉ counted := by grind [Burden.carries, Burden.counts, Burden.carries_of_counts]
    refine ⟨?_, ?_, ?_, ?_, insert stream counted, ?_, ?_⟩
    case refine_5 =>
      rw [Finset.card_insert_of_notMem uncounted, ← live]
      rfl
    all_goals simp only [assign_bears_iff, Elsewhere, assign_burden, assign_owned, assign_running, assign_next]
    all_goals grind [Burden.carries, Burden.runs, Burden.counts]
  | @stop thread stream whole =>
    simp only [bears_iff _ thread, Elsewhere] at fresh running counts
    refine ⟨?_, ?_, ?_, ?_, counted, live, ?_⟩
    all_goals simp only [assign_bears_iff, Elsewhere, assign_burden, assign_owned, assign_running, assign_next]
    all_goals grind [Burden.carries, Burden.runs, Burden.counts, Burden.carries_of_runs]
  | @discount thread stream stopped =>
    simp only [bears_iff _ thread, Elsewhere] at fresh running counts
    have member : stream ∈ counted := (counts stream).mpr (.inr (by rw [stopped]; rfl))
    refine ⟨?_, ?_, ?_, ?_, counted.erase stream, ?_, ?_⟩
    case refine_5 =>
      rw [Finset.card_erase_of_mem member, ← live]
      rfl
    all_goals simp only [assign_bears_iff, Elsewhere, assign_burden, assign_owned, assign_running, assign_next]
    all_goals grind [Burden.carries, Burden.runs, Burden.counts, Burden.carries_of_counts]

end Books

/-- What a session is requested for. -/
inductive Task where
  | discover
  | resolveStreamConfig
  | openStream
  /-- `SerializedStream::drop` -/
  | dropStream (stream : Nat)
  deriving DecidableEq, Repr

/-- Where a thread is, between two of its atomic steps. -/
inductive Pc where
  | idle
  /-- In `session`, about to look at the state: for the first time, after a time-out or for no reason. -/
  | requesting (task : Task) (deadline : Nat)
  /-- In the queue of the condition variable. -/
  | waiting (task : Task) (deadline : Nat)
  /-- Taken out of the queue by a notification, about to look at the state. -/
  | notified (task : Task) (deadline : Nat)
  /-- The session has just begun. -/
  | holding (task : Task)
  /-- `open_stream` has found the slot free. -/
  | vetted
  /-- `start_output` has succeeded. -/
  | started (stream : Nat)
  /-- The stream has been torn down. -/
  | taken (stream : Nat)
  /-- The session is about to be dropped. -/
  | finishing (opened : Option Nat)
  /-- The host is no longer busy, and `notify_one` is next. -/
  | releasing (opened : Option Nat)
  /-- No session was to be had, and the stream is torn down without one. -/
  | unheld (stream deadline : Nat)
  | unheldTaken (stream deadline : Nat)
  deriving DecidableEq, Repr

def Task.burden : Task → Burden
  | dropStream stream => .whole stream
  | _ => .none

def Burden.ofOpened : Option Nat → Burden
  | some stream => .whole stream
  | .none => .none

namespace Pc

def stage : Pc → Stage
  | requesting .. => .requesting
  | waiting .. => .waiting
  | notified .. => .notified
  | holding _ | vetted | started _ | taken _ | finishing _ => .inside
  | releasing _ => .notifying
  | idle | unheld .. | unheldTaken .. => .outside

def burden : Pc → Burden
  | requesting task _ | waiting task _ | notified task _ | holding task => task.burden
  | started stream => .starting stream
  | taken stream | unheldTaken stream _ => .stopped stream
  | finishing opened | releasing opened => .ofOpened opened
  | unheld stream _ => .whole stream
  | idle | vetted => .none

/-- A `HostSession` exists, from when the host is marked busy until it is no longer. -/
def HasSession (pc : Pc) : Prop := pc.stage = .inside

/-- Where a thread goes whose request for a session has timed out. -/
def refused (task : Task) (deadline : Nat) : Pc :=
  match task with
  | .dropStream stream => unheld stream deadline
  | _ => idle

end Pc

structure HostConfig where
  /-- Whether the host runs only one stream at a time. -/
  singleStream : Bool
  sessionTimeout : Nat
  deriving DecidableEq, Repr

/-- `HostState` under its mutex, the queue of the condition variable, the clock, the streams and the threads. -/
structure HostAccess (Thread : Type) where
  now : Nat
  busy : Bool
  liveStreams : Nat
  waiters : List Thread
  /-- Streams that were started and not dropped. -/
  running : Finset Nat
  /-- Streams that a caller of `open_stream` has been given. -/
  owned : Finset Nat
  nextStream : Nat
  pc : Thread → Pc

/-- An atomic step of a thread, or of the clock. -/
inductive HostAction (Thread : Type) where
  | tick
  | call (thread : Thread) (task : Task)
  /-- One pass of the loop in `session`. -/
  | look (thread : Thread)
  /-- The wait times out, or ends for no reason. -/
  | wake (thread : Thread)
  /-- The next step of what the session is for; the host's calls may fail. -/
  | proceed (thread : Thread) (succeeds : Bool)
  | notifyOne (thread : Thread) (woken : Option Thread)
  deriving DecidableEq, Repr

namespace HostAccess

variable {Thread : Type}

def new : HostAccess Thread where
  now := 0
  busy := false
  liveStreams := 0
  waiters := []
  running := ∅
  owned := ∅
  nextStream := 0
  pc _ := .idle

def gate (access : HostAccess Thread) : Gate Thread where
  busy := access.busy
  waiters := access.waiters
  stage thread := (access.pc thread).stage

def books (access : HostAccess Thread) : Books Thread where
  owned := access.owned
  running := access.running
  live := access.liveStreams
  next := access.nextStream
  burden thread := (access.pc thread).burden

/-- The thread is about to look at the state, for this task and with this deadline. -/
def Requests (access : HostAccess Thread) (thread : Thread) (task : Task) (deadline : Nat) : Prop :=
  access.pc thread = .requesting task deadline ∨ access.pc thread = .notified task deadline

theorem Requests.looks {access : HostAccess Thread} {thread : Thread} {task : Task} {deadline : Nat}
    (requests : access.Requests thread task deadline) : (access.gate.stage thread).Looks := by
  rcases requests with stage | stage
  · exact .inl (congrArg Pc.stage stage)
  · exact .inr (congrArg Pc.stage stage)

theorem Requests.burden {access : HostAccess Thread} {thread : Thread} {task : Task} {deadline : Nat}
    (requests : access.Requests thread task deadline) : (access.pc thread).burden = task.burden := by
  rcases requests with stage | stage
  · exact congrArg Pc.burden stage
  · exact congrArg Pc.burden stage

/-- What holds in every state. -/
structure Kept (config : HostConfig) (access : HostAccess Thread) : Prop where
  sound : access.gate.Sound
  balanced : access.books.Balanced
  slot : config.singleStream = true → ∀ thread, access.pc thread = .vetted → access.liveStreams = 0
  single : config.singleStream = true → access.running.card ≤ 1
  expired : ∀ thread stream deadline, access.pc thread = .unheld stream deadline → deadline ≤ access.now

theorem new_kept {config : HostConfig} : Kept config (new : HostAccess Thread) where
  sound := Gate.start_sound
  balanced := Books.start_balanced
  slot _ _ vetted := by cases vetted
  single _ := Nat.zero_le 1
  expired _ _ _ unheld := by cases unheld

theorem started_of_burden {pc : Pc} {stream : Nat} (starting : pc.burden = .starting stream) :
    pc = .started stream := by
  cases pc with
  | started => exact congrArg Pc.started (Burden.starting.inj starting)
  | requesting task => cases task <;> cases starting
  | waiting task => cases task <;> cases starting
  | notified task => cases task <;> cases starting
  | holding task => cases task <;> cases starting
  | finishing opened => cases opened <;> cases starting
  | releasing opened => cases opened <;> cases starting
  | _ => cases starting

theorem stopped_of_burden {pc : Pc} {stream : Nat} (stopped : pc.burden = .stopped stream) :
    pc = .taken stream ∨ ∃ deadline, pc = .unheldTaken stream deadline := by
  cases pc with
  | taken => exact .inl (congrArg Pc.taken (Burden.stopped.inj stopped))
  | unheldTaken _ deadline => exact .inr ⟨deadline, by rw [Burden.stopped.inj stopped]⟩
  | requesting task => cases task <;> cases stopped
  | waiting task => cases task <;> cases stopped
  | notified task => cases task <;> cases stopped
  | holding task => cases task <;> cases stopped
  | finishing opened => cases opened <;> cases stopped
  | releasing opened => cases opened <;> cases stopped
  | _ => cases stopped

section

variable {config : HostConfig} {access : HostAccess Thread}

theorem Kept.exclusive (kept : Kept config access) {first second : Thread} (inside_first : (access.pc first).HasSession)
    (inside_second : (access.pc second).HasSession) : first = second :=
  kept.sound.exclusive first second inside_first inside_second

theorem Kept.not_started (kept : Kept config access) {thread other : Thread} {stream : Nat}
    (vetted : access.pc thread = .vetted) : access.pc other ≠ .started stream := by
  intro started
  have same : other = thread := kept.exclusive (by rw [started]; rfl) (by rw [vetted]; rfl)
  rw [same, vetted] at started
  cases started

theorem Kept.running_empty (kept : Kept config access) (single : config.singleStream = true) {thread : Thread}
    (vetted : access.pc thread = .vetted) : access.running = ∅ := by
  obtain ⟨counted, live, counts⟩ := kept.balanced.counted
  have none : counted = ∅ := Finset.card_eq_zero.mp (live.symm.trans (kept.slot single thread vetted))
  have uncounted (stream : Nat) : ¬ access.books.Bears Burden.counts stream := by
    rw [← counts, none]
    exact Finset.notMem_empty stream
  rw [Finset.eq_empty_iff_forall_notMem]
  intro stream member
  rcases (kept.balanced.running stream).mp member with owned | ⟨other, runs⟩
  · exact uncounted stream (.inl owned)
  · cases burden : (access.pc other).burden with
    | starting => exact kept.not_started vetted (started_of_burden burden)
    | whole whole =>
      refine uncounted whole (.inr ⟨other, ?_⟩)
      exact congrArg Burden.counts burden
    | _ =>
      simp only [books, burden] at runs
      cases runs

end

variable [DecidableEq Thread] (config : HostConfig)

def goto (access : HostAccess Thread) (thread : Thread) (pc : Pc) : HostAccess Thread :=
  { access with pc := Function.update access.pc thread pc }

def call (access : HostAccess Thread) (thread : Thread) (task : Task) : Option (HostAccess Thread) :=
  let requested := Pc.requesting task (access.now + config.sessionTimeout)
  match task with
  | .dropStream stream =>
    if stream ∈ access.owned then some ({ access with owned := access.owned.erase stream }.goto thread requested)
    else none
  | _ => some (access.goto thread requested)

/-- `while state.busy`, with the state locked from the look at the flag to the wait. -/
def look (access : HostAccess Thread) (thread : Thread) (task : Task) (deadline : Nat) : HostAccess Thread :=
  if access.busy then
    if deadline ≤ access.now then access.goto thread (.refused task deadline)
    else { access with waiters := access.waiters ++ [thread] }.goto thread (.waiting task deadline)
  else { access with busy := true }.goto thread (.holding task)

/-- `ensure_stream_slot_free` -/
def slotFree (access : HostAccess Thread) : Bool := !(config.singleStream && access.liveStreams > 0)

/-- `self.stream.take()` -/
def takeStream (access : HostAccess Thread) (stream : Nat) : HostAccess Thread :=
  { access with running := access.running.erase stream }

def proceed (access : HostAccess Thread) (thread : Thread) (succeeds : Bool) : Option (HostAccess Thread) :=
  match access.pc thread with
  | .holding .discover => some (access.goto thread (.finishing none))
  -- the look at the slot decides over nothing but the result
  | .holding .resolveStreamConfig => some (access.goto thread (.finishing none))
  | .holding .openStream =>
    some (access.goto thread (if access.slotFree config then .vetted else .finishing none))
  | .holding (.dropStream stream) => some ((access.takeStream stream).goto thread (.taken stream))
  | .vetted =>
    if succeeds then
      some ({ access with running := insert access.nextStream access.running
                          nextStream := access.nextStream + 1 }.goto thread (.started access.nextStream))
    else some (access.goto thread (.finishing none))
  | .started stream =>
    some ({ access with liveStreams := access.liveStreams + 1 }.goto thread (.finishing (some stream)))
  | .taken _ => some ({ access with liveStreams := access.liveStreams - 1 }.goto thread (.finishing none))
  | .finishing opened => some ({ access with busy := false }.goto thread (.releasing opened))
  | .unheld stream deadline => some ((access.takeStream stream).goto thread (.unheldTaken stream deadline))
  | .unheldTaken _ _ => some ({ access with liveStreams := access.liveStreams - 1 }.goto thread .idle)
  | _ => none

def give (access : HostAccess Thread) (opened : Option Nat) : HostAccess Thread :=
  { access with owned := opened.elim access.owned (insert · access.owned) }

def notifyOne (access : HostAccess Thread) (thread : Thread) (woken : Option Thread) : Option (HostAccess Thread) :=
  match woken with
  | none => if access.waiters = [] then some (access.goto thread .idle) else none
  | some woken =>
    match access.pc woken with
    | .waiting task deadline =>
      some (({ access with waiters := access.waiters.erase woken }.goto woken (.notified task deadline)).goto thread
        .idle)
    | _ => none

def step (access : HostAccess Thread) : HostAction Thread → Option (HostAccess Thread)
  | .tick => some { access with now := access.now + 1 }
  | .call thread task =>
    match access.pc thread with
    | .idle => access.call config thread task
    | _ => none
  | .look thread =>
    match access.pc thread with
    | .requesting task deadline => some (access.look thread task deadline)
    | .notified task deadline => some (access.look thread task deadline)
    | _ => none
  | .wake thread =>
    match access.pc thread with
    | .waiting task deadline =>
      some ({ access with waiters := access.waiters.erase thread }.goto thread (.requesting task deadline))
    | _ => none
  | .proceed thread succeeds => access.proceed config thread succeeds
  | .notifyOne thread woken =>
    match access.pc thread with
    | .releasing opened => (access.give opened).notifyOne thread woken
    | _ => none

/-- The threads act in this order. -/
def run : List (HostAction Thread) → HostAccess Thread → Option (HostAccess Thread)
  | [], access => some access
  | action :: actions, access => do run actions (← access.step config action)

/-! ### What a step does -/

/-- Everything that a step can do. -/
inductive Happens (access : HostAccess Thread) : HostAccess Thread → Prop where
  | tick : Happens access { access with now := access.now + 1 }
  | request {thread task deadline} : access.pc thread = .idle → task.burden = .none →
      Happens access (access.goto thread (.requesting task deadline))
  | claim {thread stream deadline} : access.pc thread = .idle → stream ∈ access.owned →
      Happens access ({ access with owned := access.owned.erase stream }.goto thread
        (.requesting (.dropStream stream) deadline))
  | enter {thread task deadline} : access.Requests thread task deadline → access.busy = false →
      Happens access ({ access with busy := true }.goto thread (.holding task))
  | wait {thread task deadline} : access.Requests thread task deadline → access.busy = true →
      Happens access ({ access with waiters := access.waiters ++ [thread] }.goto thread (.waiting task deadline))
  | refuse {thread task deadline} : access.Requests thread task deadline → access.busy = true → deadline ≤ access.now →
      Happens access (access.goto thread (.refused task deadline))
  | wake {thread task deadline} : access.pc thread = .waiting task deadline →
      Happens access ({ access with waiters := access.waiters.erase thread }.goto thread (.requesting task deadline))
  | finish {thread} : (access.pc thread).stage = .inside → (access.pc thread).burden = .none →
      Happens access (access.goto thread (.finishing none))
  | vet {thread} : access.pc thread = .holding .openStream → access.slotFree config = true →
      Happens access (access.goto thread .vetted)
  | start {thread} : access.pc thread = .vetted →
      Happens access ({ access with running := insert access.nextStream access.running
                                    nextStream := access.nextStream + 1 }.goto thread (.started access.nextStream))
  | count {thread stream} : access.pc thread = .started stream →
      Happens access ({ access with liveStreams := access.liveStreams + 1 }.goto thread (.finishing (some stream)))
  | take {thread stream} : access.pc thread = .holding (.dropStream stream) →
      Happens access ((access.takeStream stream).goto thread (.taken stream))
  | discount {thread stream} : access.pc thread = .taken stream →
      Happens access ({ access with liveStreams := access.liveStreams - 1 }.goto thread (.finishing none))
  | release {thread opened} : access.pc thread = .finishing opened →
      Happens access ({ access with busy := false }.goto thread (.releasing opened))
  | takeUnheld {thread stream deadline} : access.pc thread = .unheld stream deadline →
      Happens access ((access.takeStream stream).goto thread (.unheldTaken stream deadline))
  | discountUnheld {thread stream deadline} : access.pc thread = .unheldTaken stream deadline →
      Happens access ({ access with liveStreams := access.liveStreams - 1 }.goto thread .idle)
  | notifyNone {thread opened} : access.pc thread = .releasing opened → access.waiters = [] →
      Happens access ((access.give opened).goto thread .idle)
  | notify {thread opened woken task deadline} : access.pc thread = .releasing opened →
      access.pc woken = .waiting task deadline →
      Happens access (({ access.give opened with waiters := access.waiters.erase woken }.goto woken
        (.notified task deadline)).goto thread .idle)

variable {config}

variable {access after : HostAccess Thread} {thread : Thread}

theorem look_happens {task : Task} {deadline : Nat} (requests : access.Requests thread task deadline) :
    Happens config access (access.look thread task deadline) := by
  unfold look
  split
  · next busy =>
    split
    · next expired => exact .refuse requests busy expired
    · exact .wait requests busy
  · next clear => exact .enter requests (Bool.not_eq_true _ ▸ clear)

theorem call_happens {task : Task} (idle : access.pc thread = .idle)
    (called : access.call config thread task = some after) : Happens config access after := by
  cases task with
  | dropStream stream =>
    simp only [call] at called
    split at called
    · next owned =>
      obtain rfl := Option.some.inj called
      exact .claim idle owned
    · cases called
  | _ =>
    obtain rfl := Option.some.inj called
    exact .request idle rfl

theorem proceed_happens {succeeds : Bool} (proceeded : access.proceed config thread succeeds = some after) :
    Happens config access after := by
  have inside : (access.pc thread).stage = .inside → (access.pc thread).burden = .none →
      access.goto thread (.finishing none) = after → Happens config access after := by
    rintro inside none rfl
    exact .finish inside none
  cases stage : access.pc thread with
  | holding task =>
    simp only [stage] at inside
    cases task with
    | discover =>
      simp only [proceed, stage, Option.some.injEq] at proceeded
      exact inside rfl rfl proceeded
    | resolveStreamConfig =>
      simp only [proceed, stage, Option.some.injEq] at proceeded
      exact inside rfl rfl proceeded
    | openStream =>
      simp only [proceed, stage, Option.some.injEq] at proceeded
      split at proceeded
      · next free =>
        obtain rfl := proceeded
        exact .vet stage free
      · exact inside rfl rfl proceeded
    | dropStream =>
      simp only [proceed, stage, Option.some.injEq] at proceeded
      obtain rfl := proceeded
      exact .take stage
  | vetted =>
    simp only [stage] at inside
    simp only [proceed, stage] at proceeded
    split at proceeded
    · obtain rfl := Option.some.inj proceeded
      exact .start stage
    · exact inside rfl rfl (Option.some.inj proceeded)
  | started =>
    simp only [proceed, stage, Option.some.injEq] at proceeded
    obtain rfl := proceeded
    exact .count stage
  | taken =>
    simp only [proceed, stage, Option.some.injEq] at proceeded
    obtain rfl := proceeded
    exact .discount stage
  | finishing =>
    simp only [proceed, stage, Option.some.injEq] at proceeded
    obtain rfl := proceeded
    exact .release stage
  | unheld =>
    simp only [proceed, stage, Option.some.injEq] at proceeded
    obtain rfl := proceeded
    exact .takeUnheld stage
  | unheldTaken =>
    simp only [proceed, stage, Option.some.injEq] at proceeded
    obtain rfl := proceeded
    exact .discountUnheld stage
  | _ => simp [proceed, stage] at proceeded

theorem notifyOne_happens {opened : Option Nat} {woken : Option Thread}
    (releasing : access.pc thread = .releasing opened)
    (notified : (access.give opened).notifyOne thread woken = some after) : Happens config access after := by
  cases woken with
  | none =>
    simp only [notifyOne] at notified
    split at notified
    · next none =>
      obtain rfl := Option.some.inj notified
      exact .notifyNone releasing none
    · cases notified
  | some woken =>
    simp only [notifyOne] at notified
    split at notified
    · next task deadline waiting =>
      obtain rfl := Option.some.inj notified
      exact .notify releasing waiting
    · cases notified

theorem step_happens {action : HostAction Thread} (stepped : access.step config action = some after) :
    Happens config access after := by
  cases action with
  | tick =>
    obtain rfl := Option.some.inj stepped
    exact .tick
  | call thread task =>
    simp only [step] at stepped
    split at stepped
    · next idle => exact call_happens idle stepped
    · cases stepped
  | look thread =>
    simp only [step] at stepped
    split at stepped
    · next task deadline requesting =>
      obtain rfl := Option.some.inj stepped
      exact look_happens (.inl requesting)
    · next task deadline notified =>
      obtain rfl := Option.some.inj stepped
      exact look_happens (.inr notified)
    · cases stepped
  | wake thread =>
    simp only [step] at stepped
    split at stepped
    · next task deadline waiting =>
      obtain rfl := Option.some.inj stepped
      exact .wake waiting
    · cases stepped
  | proceed => exact proceed_happens stepped
  | notifyOne thread woken =>
    simp only [step] at stepped
    split at stepped
    · next opened releasing => exact notifyOne_happens releasing stepped
    · cases stepped

theorem goto_gate (access : HostAccess Thread) (thread : Thread) (pc : Pc) :
    (access.goto thread pc).gate = access.gate.goto thread pc.stage := by
  have stages : (fun other => (Function.update access.pc thread pc other).stage) =
      Function.update (fun other => (access.pc other).stage) thread pc.stage :=
    Function.comp_update Pc.stage access.pc thread pc
  simp only [gate, goto, Gate.goto, stages]

theorem goto_gate_same {pc : Pc} (same : pc.stage = (access.pc thread).stage) :
    (access.goto thread pc).gate = access.gate := by
  rw [goto_gate, same]
  exact congrArg (Gate.mk access.busy access.waiters) (Function.update_eq_self thread _)

theorem refused_stage (task : Task) (deadline : Nat) : (Pc.refused task deadline).stage = .outside := by
  cases task <;> rfl

theorem Happens.gate (happens : Happens config access after) :
    after.gate = access.gate ∨ Gate.Move access.gate after.gate := by
  have stage {thread : Thread} {pc : Pc} (stands : access.pc thread = pc) : access.gate.stage thread = pc.stage :=
    congrArg Pc.stage stands
  cases happens with
  | tick => exact .inl rfl
  | request idle =>
    rw [goto_gate]
    exact .inr (.request (stage idle))
  | claim idle =>
    rw [goto_gate]
    exact .inr (.request (stage idle))
  | enter requests clear =>
    rw [goto_gate]
    exact .inr (.enter requests.looks clear)
  | wait requests busy =>
    rw [goto_gate]
    exact .inr (.wait requests.looks busy)
  | refuse requests busy =>
    rw [goto_gate, refused_stage]
    exact .inr (.giveUp requests.looks busy)
  | wake waiting =>
    rw [goto_gate]
    exact .inr (.wake (stage waiting))
  | finish inside => exact .inl (goto_gate_same inside.symm)
  | vet holding => exact .inl (goto_gate_same (by rw [holding]; rfl))
  | start vetted => exact .inl (goto_gate_same (stage vetted).symm)
  | count started => exact .inl (goto_gate_same (stage started).symm)
  | take holding => exact .inl (goto_gate_same (stage holding).symm)
  | discount taken => exact .inl (goto_gate_same (stage taken).symm)
  | release finishing =>
    rw [goto_gate]
    exact .inr (.leave (stage finishing))
  | takeUnheld unheld => exact .inl (goto_gate_same (stage unheld).symm)
  | discountUnheld taken => exact .inl (goto_gate_same (stage taken).symm)
  | notifyNone releasing none =>
    rw [goto_gate]
    exact .inr (.notifyNone (stage releasing) none)
  | notify releasing waiting =>
    rw [goto_gate, goto_gate]
    exact .inr (.notify (stage releasing) (stage waiting))

theorem goto_books (access : HostAccess Thread) (thread : Thread) (pc : Pc) :
    (access.goto thread pc).books = access.books.assign thread pc.burden := by
  have burdens : (fun other => (Function.update access.pc thread pc other).burden) =
      Function.update (fun other => (access.pc other).burden) thread pc.burden :=
    Function.comp_update Pc.burden access.pc thread pc
  simp only [books, goto, Books.assign, burdens]

theorem goto_books_same {pc : Pc} (same : pc.burden = (access.pc thread).burden) :
    (access.goto thread pc).books = access.books := by
  rw [goto_books, same]
  exact congrArg (Books.mk _ _ _ _) (Function.update_eq_self thread _)

theorem refused_burden (task : Task) (deadline : Nat) : (Pc.refused task deadline).burden = task.burden := by
  cases task <;> rfl

theorem Happens.books (happens : Happens config access after) :
    after.books = access.books ∨ Books.Entry access.books after.books := by
  have burden {thread : Thread} {pc : Pc} (stands : access.pc thread = pc) :
      access.books.burden thread = pc.burden := congrArg Pc.burden stands
  cases happens with
  | tick => exact .inl rfl
  | request idle none => exact .inl (goto_books_same (none.trans (burden idle).symm))
  | claim idle owned =>
    rw [goto_books]
    exact .inr (.claim (burden idle) owned)
  | enter requests => exact .inl (goto_books_same requests.burden.symm)
  | wait requests => exact .inl (goto_books_same requests.burden.symm)
  | refuse requests _ _ => exact .inl (goto_books_same ((refused_burden _ _).trans requests.burden.symm))
  | wake waiting => exact .inl (goto_books_same (burden waiting).symm)
  | finish _ none => exact .inl (goto_books_same none.symm)
  | vet holding => exact .inl (goto_books_same (burden holding).symm)
  | start vetted =>
    rw [goto_books]
    exact .inr (.start (burden vetted))
  | count started =>
    rw [goto_books]
    exact .inr (.count (burden started))
  | take holding =>
    rw [goto_books]
    exact .inr (.stop (burden holding))
  | discount taken =>
    rw [goto_books]
    exact .inr (.discount (burden taken))
  | release finishing => exact .inl (goto_books_same (burden finishing).symm)
  | takeUnheld unheld =>
    rw [goto_books]
    exact .inr (.stop (burden unheld))
  | discountUnheld taken =>
    rw [goto_books]
    exact .inr (.discount (burden taken))
  | @notifyNone thread opened releasing _ =>
    cases opened with
    | none => exact .inl (goto_books_same (burden releasing).symm)
    | some =>
      rw [goto_books]
      exact .inr (.give (burden releasing))
  | @notify thread opened woken task deadline releasing waiting =>
    have woken_same : ({ access.give opened with waiters := access.waiters.erase woken }.goto woken
        (.notified task deadline)).books = (access.give opened).books := goto_books_same (burden waiting).symm
    rw [goto_books, woken_same]
    cases opened with
    | none =>
      refine .inl ?_
      exact (goto_books (access.give none) thread .idle).symm.trans (goto_books_same (burden releasing).symm)
    | some => exact .inr (.give (burden releasing))

/-! ### Runs -/

theorem refused_cases (task : Task) (deadline : Nat) :
    (∃ stream, Pc.refused task deadline = .unheld stream deadline) ∨ Pc.refused task deadline = .idle := by
  cases task with
  | dropStream stream => exact .inl ⟨stream, rfl⟩
  | _ => exact .inr rfl

section

variable (happens : Happens config access after)

include happens

theorem Happens.vetted (vetted : after.pc thread = .vetted) :
    access.pc thread = .vetted ∨ access.slotFree config = true ∧ after.liveStreams = access.liveStreams := by
  cases happens with
  | @refuse _ task deadline requests _ _ =>
    simp only [goto, Function.update_apply] at vetted ⊢
    grind [refused_cases task deadline]
  | _ =>
    simp only [goto, takeStream, give, Function.update_apply] at vetted ⊢
    grind

theorem Happens.liveStreams :
    after.liveStreams ≤ access.liveStreams ∨ ∃ thread stream, access.pc thread = .started stream := by
  cases happens with
  | count started => exact .inr ⟨_, _, started⟩
  | _ => exact .inl (by simp [goto, takeStream, give])

theorem Happens.running :
    after.running ⊆ access.running ∨
      ∃ thread, access.pc thread = .vetted ∧ after.running = insert access.nextStream access.running := by
  cases happens with
  | start vetted => exact .inr ⟨_, vetted, rfl⟩
  | _ => exact .inl (by simp [goto, takeStream, give, Finset.erase_subset])

theorem Happens.expired {stream deadline : Nat} (unheld : after.pc thread = .unheld stream deadline) :
    access.now ≤ after.now ∧ (access.pc thread = .unheld stream deadline ∨ deadline ≤ access.now) := by
  cases happens with
  | @refuse _ task expired requests _ _ =>
    simp only [goto, Function.update_apply] at unheld ⊢
    grind [refused_cases task expired]
  | _ =>
    simp only [goto, takeStream, give, Function.update_apply] at unheld ⊢
    grind

/-- One step keeps it all. -/
theorem Happens.kept (kept : Kept config access) : Kept config after where
  sound := by
    rcases happens.gate with same | move
    · exact same ▸ kept.sound
    · exact move.sound kept.sound
  balanced := by
    rcases happens.books with same | entry
    · exact same ▸ kept.balanced
    · exact entry.balanced kept.balanced
  slot single thread vetted := by
    rcases happens.vetted vetted with was | ⟨free, same⟩
    · have zero := kept.slot single thread was
      rcases happens.liveStreams with fewer | ⟨other, stream, started⟩
      · exact Nat.eq_zero_of_le_zero (zero ▸ fewer)
      · exact absurd started (kept.not_started was)
    · simpa [slotFree, single, same] using free
  single single := by
    rcases happens.running with fewer | ⟨thread, vetted, more⟩
    · exact (Finset.card_le_card fewer).trans (kept.single single)
    · rw [more, kept.running_empty single vetted]
      rfl
  expired thread stream deadline unheld := by
    obtain ⟨later, was | expired⟩ := happens.expired unheld
    · exact (kept.expired thread stream deadline was).trans later
    · exact expired.trans later

end

theorem run_kept {actions : List (HostAction Thread)} (ran : run config actions access = some after)
    (kept : Kept config access) : Kept config after := by
  induction actions generalizing access with
  | nil =>
    obtain rfl := Option.some.inj ran
    exact kept
  | cons action actions ih =>
    obtain ⟨next, stepped, rest⟩ := Option.bind_eq_some_iff.mp ran
    exact ih rest ((step_happens stepped).kept kept)

theorem Happens.teardown (happens : Happens config access after) {stream : Nat} (before : stream ∈ access.running)
    (gone : stream ∉ after.running) :
    ∃ thread, access.pc thread = .holding (.dropStream stream) ∨
      ∃ deadline, access.pc thread = .unheld stream deadline := by
  cases happens with
  | take holding =>
    simp only [goto, takeStream, Finset.mem_erase, not_and_or, not_not] at gone
    exact ⟨_, .inl (gone.resolve_right (not_not_intro before) ▸ holding)⟩
  | takeUnheld unheld =>
    simp only [goto, takeStream, Finset.mem_erase, not_and_or, not_not] at gone
    exact ⟨_, .inr ⟨_, gone.resolve_right (not_not_intro before) ▸ unheld⟩⟩
  | start => exact absurd (Finset.mem_insert_of_mem before) gone
  | _ => exact absurd before gone

/-- At most one session exists, and on a host of one stream at most one stream has been started and not dropped. The
counter is not taken below zero, and it is the number of those streams unless one is being opened or torn down. A
stream is torn down without a session only after the deadline of the request. If the host is not busy and a thread
waits, another one has been notified or is about to notify. -/
structure Safe (config : HostConfig) (access : HostAccess Thread) : Prop where
  oneSession : ∀ first second, (access.pc first).HasSession → (access.pc second).HasSession → first = second
  oneStream : config.singleStream = true → access.running.card ≤ 1
  noUnderflow : ∀ thread stream, access.pc thread = .taken stream ∨
    (∃ deadline, access.pc thread = .unheldTaken stream deadline) → 1 ≤ access.liveStreams
  counted : (∀ thread stream, access.pc thread ≠ .started stream) →
    (∀ thread stream, access.pc thread ≠ .taken stream) →
    (∀ thread stream deadline, access.pc thread ≠ .unheldTaken stream deadline) →
      access.liveStreams = access.running.card
  teardown : ∀ action after stream, access.step config action = some after → stream ∈ access.running →
    stream ∉ after.running → ∃ thread, access.pc thread = .holding (.dropStream stream) ∨
      ∃ deadline, access.pc thread = .unheld stream deadline ∧ deadline ≤ access.now
  noLostWakeUp : access.busy = false → ∀ thread task deadline, access.pc thread = .waiting task deadline →
    ∃ other, other ≠ thread ∧ ((∃ task deadline, access.pc other = .notified task deadline) ∨
      ∃ opened, access.pc other = .releasing opened)

theorem notified_of_stage {pc : Pc} (notified : pc.stage = .notified) :
    ∃ task deadline, pc = .notified task deadline := by
  cases pc with
  | notified task deadline => exact ⟨task, deadline, rfl⟩
  | _ => cases notified

theorem releasing_of_stage {pc : Pc} (notifying : pc.stage = .notifying) : ∃ opened, pc = .releasing opened := by
  cases pc with
  | releasing opened => exact ⟨opened, rfl⟩
  | _ => cases notifying

theorem Kept.safe (kept : Kept config access) : Safe config access where
  oneSession _ _ := kept.exclusive
  oneStream := kept.single
  noUnderflow thread stream stopped := by
    obtain ⟨counted, live, counts⟩ := kept.balanced.counted
    have bears : access.books.Bears Burden.counts stream := by
      refine .inr ⟨thread, ?_⟩
      rcases stopped with taken | ⟨deadline, taken⟩
      · exact congrArg (fun pc => pc.burden.counts) taken
      · exact congrArg (fun pc => pc.burden.counts) taken
    have positive : 1 ≤ counted.card := Finset.card_pos.mpr ⟨stream, (counts stream).mpr bears⟩
    exact positive.trans_eq live.symm
  counted notStarted notTaken notUnheld := by
    obtain ⟨counted, live, counts⟩ := kept.balanced.counted
    have same (thread : Thread) : (access.pc thread).burden.runs = (access.pc thread).burden.counts := by
      cases burden : (access.pc thread).burden with
      | starting stream => exact absurd (started_of_burden burden) (notStarted thread stream)
      | stopped stream =>
        rcases stopped_of_burden burden with taken | ⟨deadline, taken⟩
        · exact absurd taken (notTaken thread stream)
        · exact absurd taken (notUnheld thread stream deadline)
      | _ => rfl
    have equal : access.running = counted := by
      ext stream
      rw [counts]
      exact (kept.balanced.running stream).trans (or_congr Iff.rfl (exists_congr fun thread => by
        change (access.pc thread).burden.runs = _ ↔ _
        rw [same]
        rfl))
    rw [equal]
    exact live
  teardown action after stream stepped before gone := by
    obtain ⟨thread, holding | ⟨deadline, unheld⟩⟩ := (step_happens stepped).teardown before gone
    · exact ⟨thread, .inl holding⟩
    · exact ⟨thread, .inr ⟨deadline, unheld, kept.expired thread stream deadline unheld⟩⟩
  noLostWakeUp clear thread task deadline waiting := by
    have stage : access.gate.stage thread = .waiting := congrArg Pc.stage waiting
    have queued : access.gate.waiters ≠ [] := List.ne_nil_of_mem ((kept.sound.queued thread).mpr stage)
    obtain ⟨other, ne, alert⟩ := kept.sound.woken_other thread clear queued (by simp [Stage.Alert, stage])
    refine ⟨other, ne, ?_⟩
    rcases alert with notified | notifying
    · exact .inl (notified_of_stage notified)
    · exact .inr (releasing_of_stage notifying)

/-- Whatever the threads do and whenever they time out, the host is safe in every state. -/
theorem run_safe (config : HostConfig) (actions : List (HostAction Thread)) (access : HostAccess Thread)
    (ran : run config actions new = some access) : Safe config access :=
  (run_kept ran new_kept).safe

/-- On a host of one stream, thread 0 opens it while thread 1 waits to open another. Thread 2 is faster than thread 1,
which has been notified and waits once more. The stream is dropped while thread 2 hangs in a driver call: the request of
thread 0 times out, and it stops the stream without a session. -/
def contended : List (HostAction Nat) :=
  [.call 0 .openStream, .look 0, .call 1 .openStream, .look 1, .proceed 0 true, .proceed 0 true, .proceed 0 true,
    .proceed 0 true, .call 2 .discover, .look 2, .notifyOne 0 (some 1), .look 1, .call 0 (.dropStream 0), .look 0,
    .tick, .tick, .wake 0, .look 0, .proceed 0 true]

theorem run_safe_contended :
    ∃ access, run ⟨true, 2⟩ contended new = some access ∧ access.liveStreams = 1 ∧ access.running = ∅ ∧
      Safe ⟨true, 2⟩ access :=
  ⟨_, rfl, rfl, rfl, run_safe ⟨true, 2⟩ contended _ rfl⟩

end HostAccess

end LaserDac.Avb
