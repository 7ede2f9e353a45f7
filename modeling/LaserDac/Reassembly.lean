import Mathlib

/-!
Messages put together from their parts. A part that starts a message releases whatever was in progress; a part that
ends one, or fills the place, releases it; a later part without a start is dropped.
-/

namespace LaserDac.Reassembly

variable {Part : Type} (starts ends : Part → Bool) (full : List Part → Bool)

def flush (pending : List Part) : List (List Part) := if pending = [] then [] else [pending]

/-- One more part: what it releases, and what is in progress after it. -/
def push (pending : List Part) (part : Part) : List (List Part) × List Part :=
  if starts part then
    if ends part then (flush pending ++ [[part]], []) else (flush pending, [part])
  else if pending = [] then ([], [])
  else if ends part || full (pending ++ [part]) then ([pending ++ [part]], [])
  else ([], pending ++ [part])

/-- All that parts release, and what is in progress after them. -/
def run : List Part → List Part → List (List Part) × List Part
  | pending, [] => ([], pending)
  | pending, part :: parts =>
    let after := run (push starts ends full pending part).2 parts
    ((push starts ends full pending part).1 ++ after.1, after.2)

variable (pending : List Part) {part between first : Part}

theorem flatten_flush : (flush pending).flatten = pending := by
  unfold flush
  split_ifs with empty
  · exact empty.symm
  · exact List.append_nil pending

theorem mem_flush {pending release : List Part} (member : release ∈ flush pending) :
    release = pending ∧ pending ≠ [] := by
  unfold flush at member
  split_ifs at member with empty
  · cases member
  · exact ⟨List.mem_singleton.mp member, empty⟩

/-- Everything a part can do. -/
inductive Pushes (pending : List Part) (part : Part) : List (List Part) × List Part → Prop where
  | whole (start : starts part = true) (last : ends part = true) : Pushes pending part (flush pending ++ [[part]], [])
  | first (start : starts part = true) (more : ends part = false) : Pushes pending part (flush pending, [part])
  | stray (later : starts part = false) (empty : pending = []) : Pushes pending part ([], [])
  | last (later : starts part = false) (begun : pending ≠ []) : Pushes pending part ([pending ++ [part]], [])
  | next (later : starts part = false) (begun : pending ≠ []) (more : ends part = false) :
      Pushes pending part ([], pending ++ [part])

theorem push_pushes (part : Part) : Pushes starts ends pending part (push starts ends full pending part) := by
  unfold push
  split_ifs with start last empty done
  · exact .whole start last
  · exact .first start (Bool.eq_false_iff.mpr last)
  · exact .stray (Bool.eq_false_iff.mpr start) empty
  · exact .last (Bool.eq_false_iff.mpr start) empty
  · rw [Bool.not_eq_true, Bool.or_eq_false_iff] at done
    exact .next (Bool.eq_false_iff.mpr start) empty done.1

variable {starts ends full}

variable {pending}

theorem push_whole (start : starts part = true) (last : ends part = true) :
    push starts ends full pending part = (flush pending ++ [[part]], []) := by
  rw [push, if_pos start, if_pos last]

theorem push_first (start : starts part = true) (more : ends part = false) :
    push starts ends full pending part = (flush pending, [part]) := by
  rw [push, if_pos start, if_neg (Bool.eq_false_iff.mp more)]

theorem push_stray (later : starts part = false) : push starts ends full [] part = ([], []) := by
  rw [push, if_neg (Bool.eq_false_iff.mp later), if_pos rfl]

theorem push_later (later : starts part = false) (begun : pending ≠ []) :
    push starts ends full pending part =
      if ends part || full (pending ++ [part]) then ([pending ++ [part]], []) else ([], pending ++ [part]) := by
  rw [push, if_neg (Bool.eq_false_iff.mp later), if_neg begun]

variable (pending)

variable (starts ends full)

/-- A start, and what is none after it; whatever ends a message comes at the end. -/
def Stretch (parts : List Part) : Prop :=
  ∃ first rest, parts = first :: rest ∧ starts first = true ∧ (∀ part ∈ rest, starts part = false) ∧
    ∀ part ∈ parts.dropLast, ends part = false

def InProgress (pending : List Part) : Prop :=
  pending = [] ∨ Stretch starts ends pending ∧ ∀ part ∈ pending, ends part = false

theorem push_stretches {pending : List Part} (progress : InProgress starts ends pending) (part : Part) :
    (∀ release ∈ (push starts ends full pending part).1, Stretch starts ends release) ∧
      InProgress starts ends (push starts ends full pending part).2 := by
  have flushed : ∀ release ∈ flush pending, Stretch starts ends release := by
    intro release member
    obtain ⟨rfl, begun⟩ := mem_flush member
    exact (progress.resolve_left begun).1
  have grown : starts part = false → pending ≠ [] → Stretch starts ends (pending ++ [part]) := by
    intro later begun
    obtain ⟨⟨first, rest, shape, start, others, -⟩, open_⟩ := progress.resolve_left begun
    refine ⟨first, rest ++ [part], by rw [shape]; rfl, start, ?_, ?_⟩
    · exact List.forall_mem_append.mpr ⟨others, by simpa using later⟩
    · rw [List.dropLast_concat]
      exact open_
  have pushes := push_pushes starts ends full pending part
  generalize push starts ends full pending part = pushed at pushes ⊢
  cases pushes with
  | whole start =>
    refine ⟨List.forall_mem_append.mpr ⟨flushed, ?_⟩, .inl rfl⟩
    simpa using ⟨part, [], rfl, start, by simp, by simp⟩
  | first start more => exact ⟨flushed, .inr ⟨⟨part, [], rfl, start, by simp, by simp⟩, by simpa using more⟩⟩
  | stray => exact ⟨by simp, .inl rfl⟩
  | last later begun => exact ⟨by simpa using grown later begun, .inl rfl⟩
  | next later begun more =>
    refine ⟨by simp, .inr ⟨grown later begun, ?_⟩⟩
    exact List.forall_mem_append.mpr ⟨(progress.resolve_left begun).2, by simpa using more⟩

theorem run_stretches {pending : List Part} (progress : InProgress starts ends pending) (parts : List Part) :
    ∀ release ∈ (run starts ends full pending parts).1, Stretch starts ends release := by
  induction parts generalizing pending with
  | nil =>
    intro release member
    cases member
  | cons part parts ih =>
    obtain ⟨here, progress⟩ := push_stretches starts ends full progress part
    exact List.forall_mem_append.mpr ⟨here, ih progress⟩

theorem push_sublist (part : Part) :
    ((push starts ends full pending part).1.flatten ++ (push starts ends full pending part).2).Sublist
      (pending ++ [part]) := by
  have pushes := push_pushes starts ends full pending part
  generalize push starts ends full pending part = pushed at pushes ⊢
  cases pushes with
  | whole => simp [flatten_flush]
  | first => rw [flatten_flush]
  | stray => exact List.nil_sublist _
  | last | next => simp

theorem run_sublist (parts : List Part) :
    ((run starts ends full pending parts).1.flatten ++ (run starts ends full pending parts).2).Sublist
      (pending ++ parts) := by
  induction parts generalizing pending with
  | nil => simp [run]
  | cons part parts ih =>
    rw [run, List.flatten_append, List.append_assoc, List.append_cons pending part parts]
    have here := (push_sublist starts ends full pending part).append_right parts
    rw [List.append_assoc] at here
    exact ((ih _).append_left _).trans here

theorem push_infix (part : Part) :
    (∀ release ∈ (push starts ends full pending part).1, release <:+: pending ++ [part]) ∧
      (push starts ends full pending part).2 <:+ pending ++ [part] := by
  have flushed : ∀ release ∈ flush pending, release <:+: pending ++ [part] := by
    intro release member
    rw [(mem_flush member).1]
    exact (List.prefix_append pending [part]).isInfix
  have pushes := push_pushes starts ends full pending part
  generalize push starts ends full pending part = pushed at pushes ⊢
  cases pushes with
  | whole =>
    refine ⟨List.forall_mem_append.mpr ⟨flushed, ?_⟩, List.nil_suffix⟩
    simpa using (List.suffix_append pending [part]).isInfix
  | first => exact ⟨flushed, List.suffix_append pending [part]⟩
  | stray | last => exact ⟨by simp, List.nil_suffix⟩
  | next => exact ⟨by simp, List.suffix_rfl⟩

theorem run_infix (parts : List Part) :
    ∀ release ∈ (run starts ends full pending parts).1, release <:+: pending ++ parts := by
  induction parts generalizing pending with
  | nil =>
    intro release member
    cases member
  | cons part parts ih =>
    obtain ⟨here, after⟩ := push_infix starts ends full pending part
    rw [List.append_cons pending part parts]
    refine List.forall_mem_append.mpr ⟨fun release member => ?_, fun release member => ?_⟩
    · exact (here release member).trans (List.prefix_append _ parts).isInfix
    · obtain ⟨front, joined⟩ := after
      have rest : (push starts ends full pending part).2 ++ parts <:+ pending ++ [part] ++ parts :=
        ⟨front, by rw [← List.append_assoc, joined]⟩
      exact (ih _ release member).trans rest.isInfix

section

variable {before : Part → Part → Prop} [IsStrictOrder Part before] {parts release : List Part}

theorem mem_of_between (sorted : parts.Pairwise before) (inside : release <:+: parts) (one : first ∈ release)
    (other : part ∈ release) (member : between ∈ parts) (after : before first between) (earlier : before between part) :
    between ∈ release := by
  obtain ⟨front, back, rfl⟩ := inside
  rw [List.append_assoc, List.pairwise_append, List.pairwise_append] at sorted
  obtain ⟨-, ⟨-, -, followed⟩, preceded⟩ := sorted
  rw [List.append_assoc, List.mem_append, List.mem_append] at member
  rcases member with front | here | back
  · exact absurd after (asymm_of before (preceded _ front _ (List.mem_append_left _ one)))
  · exact here
  · exact absurd earlier (asymm_of before (followed _ other _ back))

variable {starts ends}

theorem Stretch.not_ends (stretch : Stretch starts ends release) (sorted : parts.Pairwise before)
    (inside : release <:+: parts) (one : first ∈ release) (other : part ∈ release) (member : between ∈ parts)
    (after : before first between) (earlier : before between part) : ends between = false := by
  obtain ⟨_, _, _, _, _, open_⟩ := stretch
  have here := mem_of_between sorted inside one other member after earlier
  apply open_
  have some : release ≠ [] := List.ne_nil_of_mem one
  have inOrder : release.Pairwise before := sorted.sublist inside.sublist
  rw [← List.dropLast_append_getLast some] at here other inOrder
  rcases List.mem_append.mp here with here | last
  · exact here
  · obtain rfl := List.mem_singleton.mp last
    exfalso
    rcases List.mem_append.mp other with other | other
    · exact asymm_of before earlier ((List.pairwise_append.mp inOrder).2.2 _ other _ last)
    · obtain rfl := List.mem_singleton.mp other
      exact irrefl_of before _ earlier

theorem Stretch.not_starts {rest : List Part} (stretch : Stretch starts ends (first :: rest))
    (sorted : parts.Pairwise before) (inside : first :: rest <:+: parts) (other : part ∈ rest)
    (member : between ∈ parts) (after : before first between) (earlier : before between part ∨ between = part) :
    starts between = false := by
  obtain ⟨_, _, shape, _, others, _⟩ := stretch
  obtain ⟨rfl, rfl⟩ := List.cons.inj shape
  apply others
  rcases earlier with earlier | rfl
  · have here := mem_of_between sorted inside List.mem_cons_self (List.mem_cons_of_mem _ other) member after earlier
    rcases List.mem_cons.mp here with rfl | here
    · exact absurd after (irrefl_of before _)
    · exact here
  · exact other

end

def Message (parts : List Part) : Prop :=
  Stretch starts ends parts ∧ ∀ last ∈ parts.getLast?, ends last = true

theorem run_append (first second : List Part) :
    run starts ends full pending (first ++ second) =
      ((run starts ends full pending first).1 ++
        (run starts ends full (run starts ends full pending first).2 second).1,
        (run starts ends full (run starts ends full pending first).2 second).2) := by
  induction first generalizing pending with
  | nil => rfl
  | cons part first ih =>
    rw [List.cons_append, run, ih]
    simp only [run, List.append_assoc]

theorem run_between {pending parts : List Part} (begun : pending ≠ [])
    (later : ∀ part ∈ parts, starts part = false) (more : ∀ part ∈ parts, ends part = false)
    (room : ∀ some, some <+: pending ++ parts → full some = false) :
    run starts ends full pending parts = ([], pending ++ parts) := by
  induction parts generalizing pending with
  | nil => rw [run, List.append_nil]
  | cons part parts ih =>
    obtain ⟨laterHere, later⟩ := List.forall_mem_cons.mp later
    obtain ⟨moreHere, more⟩ := List.forall_mem_cons.mp more
    rw [List.append_cons] at room ⊢
    have fits : full (pending ++ [part]) = false := room _ (List.prefix_append _ _)
    have pushed : push starts ends full pending part = ([], pending ++ [part]) := by
      rw [push_later laterHere begun, moreHere, fits]
      rfl
    rw [run, pushed]
    dsimp only
    rw [ih (by simp) later more room]
    rfl

theorem run_message {message : List Part} (whole : Message starts ends message)
    (room : ∀ some, some <+: message.dropLast → full some = false) (pending : List Part) :
    run starts ends full pending message = (flush pending ++ [message], []) := by
  obtain ⟨⟨first, rest, rfl, start, others, more⟩, ended⟩ := whole
  rcases List.eq_nil_or_concat' rest with rfl | ⟨between, last, rfl⟩
  · have last : ends first = true := ended first rfl
    rw [run, push_whole start last]
    simp [run]
  · have done : ends last = true := ended last (by simp [List.getLast?_cons])
    rw [← List.cons_append, List.dropLast_concat] at more room
    obtain ⟨firstMore, more⟩ := List.forall_mem_cons.mp more
    obtain ⟨others, lastLater⟩ := List.forall_mem_append.mp others
    have lastLater : starts last = false := lastLater last (List.mem_singleton_self last)
    have grown : run starts ends full [first] between = ([], [first] ++ between) :=
      run_between starts ends full (by simp) others more room
    rw [run, push_first start firstMore, run_append, grown, run, push_later lastLater (by simp), done]
    simp [run]

/-- A message whose parts come one after the other is released between what came before and what comes after. -/
theorem run_around {message : List Part} (whole : Message starts ends message)
    (room : ∀ some, some <+: message.dropLast → full some = false) (first second : List Part) :
    ∃ earlier later, (run starts ends full [] (first ++ message ++ second)).1 = earlier ++ message :: later ∧
      earlier.flatten.Sublist first ∧ later.flatten.Sublist second := by
  have ahead := run_sublist starts ends full [] first
  have behind := run_sublist starts ends full [] second
  refine ⟨(run starts ends full [] first).1 ++ flush (run starts ends full [] first).2,
    (run starts ends full [] second).1, ?_, ?_, ?_⟩
  · rw [List.append_assoc, run_append, run_append, run_message starts ends full whole room]
    simp
  · rw [List.flatten_append, flatten_flush]
    exact ahead
  · exact (List.sublist_append_left _ _).trans behind

end LaserDac.Reassembly
