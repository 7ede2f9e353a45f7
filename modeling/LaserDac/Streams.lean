import Mathlib

/-!
Machines that answer each input with one item. `feed` runs such a machine over a list of inputs; what a single step
keeps carries over a whole run. One such machine is the queue that pops an item for every one pushed.
-/

namespace LaserDac.Streams

variable {ι σ τ α : Type*}

/-- Run `next` over the inputs and keep the state it ends in. -/
def feed (next : ι → σ → α × σ) : List ι → σ → List α × σ
  | [], state => ([], state)
  | input :: inputs, state =>
    let rest := feed next inputs (next input state).2
    ((next input state).1 :: rest.1, rest.2)

variable (next : ι → σ → α × σ)

@[simp] theorem feed_nil (state : σ) : feed next [] state = ([], state) := rfl

theorem feed_cons (input : ι) (inputs : List ι) (state : σ) :
    feed next (input :: inputs) state =
      ((next input state).1 :: (feed next inputs (next input state).2).1,
        (feed next inputs (next input state).2).2) := rfl

@[simp] theorem feed_length (inputs : List ι) (state : σ) : (feed next inputs state).1.length = inputs.length := by
  induction inputs generalizing state with
  | nil => rfl
  | cons input inputs ih => simp [feed_cons, ih]

/-- A run splits wherever its inputs do. -/
theorem feed_append (before after : List ι) (state : σ) :
    feed next (before ++ after) state =
      ((feed next before state).1 ++ (feed next after (feed next before state).2).1,
        (feed next after (feed next before state).2).2) := by
  induction before generalizing state with
  | nil => simp
  | cons input before ih => rw [List.cons_append, feed_cons, ih, feed_cons, List.cons_append]

theorem feed_follows (P : List α → σ → Prop) (inputs : List ι)
    (step : ∀ input ∈ inputs, ∀ out state, P out state → P (out ++ [(next input state).1]) (next input state).2)
    (out : List α) (state : σ) (start : P out state) :
    P (out ++ (feed next inputs state).1) (feed next inputs state).2 := by
  induction inputs generalizing out state with
  | nil => simpa using start
  | cons input inputs ih =>
    have rest := ih (fun later member => step later (List.mem_cons_of_mem input member)) _ _
      (step input List.mem_cons_self out state start)
    simpa [feed_cons] using rest

theorem feed_constant (item : α) (state : σ) (still : ∀ input, next input state = (item, state))
    (inputs : List ι) : feed next inputs state = (List.replicate inputs.length item, state) := by
  induction inputs with
  | nil => rfl
  | cons input inputs ih => simp [feed_cons, still, ih, List.replicate_succ]

theorem feed_view (next' : ι → τ → α × τ) (view : σ → τ) (Inv : σ → Prop)
    (keeps : ∀ input state, Inv state → Inv (next input state).2)
    (same : ∀ input state, Inv state → next' input (view state) = ((next input state).1, view (next input state).2))
    (inputs : List ι) (state : σ) (inv : Inv state) :
    feed next' inputs (view state) = ((feed next inputs state).1, view (feed next inputs state).2) := by
  induction inputs generalizing state with
  | nil => rfl
  | cons input inputs ih => rw [feed_cons, same input state inv, ih _ (keeps input state inv), feed_cons]

/-- Push the input into a queue, the oldest item first, as one item is popped. -/
def shift (input : α) : List α → α × List α
  | [] => (input, [])
  | oldest :: queue => (oldest, queue ++ [input])

theorem feed_shift (inputs queue : List α) :
    feed shift inputs queue = ((queue ++ inputs).take inputs.length, (queue ++ inputs).drop inputs.length) := by
  induction inputs generalizing queue with
  | nil => simp
  | cons input inputs ih =>
    cases queue with
    | nil | cons => simp [feed_cons, shift, ih]

end LaserDac.Streams
