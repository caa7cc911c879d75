import Mathlib.Data.List.Basic

/-! Finite runs of a machine with guarded steps, and the rule for invariants that
only hold along runs whose steps all meet a condition. -/

namespace A500cg.Lib

variable {State Event : Type}

def runEvents (step : State → Event → Option State) : State → List Event → Option State
  | state, [] => some state
  | state, event :: rest => (step state event).bind fun next => runEvents step next rest

def Along (step : State → Event → Option State) (condition : State → Event → Prop) :
    State → List Event → Prop
  | _, [] => True
  | state, event :: rest =>
      condition state event ∧ ∀ next, step state event = some next → Along step condition next rest

theorem along_of_invariant {step : State → Event → Option State}
    {condition : State → Event → Prop} {invariant : State → Prop}
    (preserved : ∀ state event next, invariant state → step state event = some next →
      invariant next)
    (meets : ∀ state event, invariant state → condition state event) {state : State}
    (start : invariant state) (events : List Event) : Along step condition state events := by
  induction events generalizing state with
  | nil => trivial
  | cons event rest ih =>
      exact ⟨meets state event start, fun next taken => ih (preserved state event next start taken)⟩

theorem along_true (step : State → Event → Option State) (state : State) (events : List Event) :
    Along step (fun _ _ => True) state events := by
  have always : ∀ _ : State, True := fun _ => trivial
  exact along_of_invariant (fun _ _ next _ _ => always next) (fun _ _ _ => trivial) (always state)
    events

theorem along_and_allowed {step : State → Event → Option State} {condition : State → Event → Prop}
    {allowed : Event → Prop} {state : State} {events : List Event}
    (along : Along step condition state events) (within : ∀ event ∈ events, allowed event) :
    Along step (fun state event => condition state event ∧ allowed event) state events := by
  induction events generalizing state with
  | nil => trivial
  | cons event rest ih =>
      refine ⟨⟨along.1, within event List.mem_cons_self⟩, fun next taken => ?_⟩
      exact ih (along.2 next taken) fun e member => within e (List.mem_cons_of_mem _ member)

theorem invariant_along_run {step : State → Event → Option State}
    {condition : State → Event → Prop} {invariant : State → Prop}
    (preserved : ∀ state event next, invariant state → condition state event →
      step state event = some next → invariant next)
    {state last : State} {events : List Event} (start : invariant state)
    (ran : runEvents step state events = some last) (along : Along step condition state events) :
    invariant last := by
  induction events generalizing state with
  | nil =>
      cases ran
      exact start
  | cons event rest ih =>
      rcases Option.bind_eq_some_iff.mp ran with ⟨next, taken, ran⟩
      exact ih (preserved state event next start along.1 taken) ran (along.2 next taken)

theorem invariant_throughout {step : State → Event → State} {condition : State → Event → Prop}
    {invariant : State → Prop}
    (preserved : ∀ state event, invariant state → condition state event →
      invariant (step state event))
    {state : State} {events : List Event} (start : invariant state)
    (along : Along (fun state event => some (step state event)) condition state events)
    (before : List Event) (isPrefix : before <+: events) :
    invariant (before.foldl step state) := by
  induction before generalizing state events with
  | nil => exact start
  | cons event before ih =>
      cases events with
      | nil => exact absurd (List.prefix_nil.mp isPrefix) (List.cons_ne_nil _ _)
      | cons head rest =>
          rcases List.cons_prefix_cons.mp isPrefix with ⟨rfl, shorter⟩
          exact ih (preserved state event start along.1) (along.2 _ rfl) shorter

/-- Where a step keeps a property exactly if it meets the condition, the property holds
after every part of a run exactly if all of its steps do. The frame holds throughout. -/
theorem holds_throughout_iff_along {step : State → Event → State} {frame holds : State → Prop}
    {allowed : Event → Prop} {condition : State → Event → Prop}
    (kept : ∀ state event, frame state → allowed event → frame (step state event))
    (keeps : ∀ state event, frame state → holds state → allowed event →
      (condition state event ↔ holds (step state event)))
    {state : State} (framed : frame state) (start : holds state) {events : List Event}
    (within : ∀ event ∈ events, allowed event) :
    (∀ before, before <+: events → holds (before.foldl step state)) ↔
      Along (fun state event => some (step state event)) condition state events := by
  induction events generalizing state with
  | nil =>
      refine iff_of_true ?_ trivial
      intro before isPrefix
      rw [List.prefix_nil.mp isPrefix]
      exact start
  | cons event rest ih =>
      have first := keeps state event framed start (within event List.mem_cons_self)
      have later := fun after : holds (step state event) =>
        ih (kept state event framed (within event List.mem_cons_self)) after
          fun e member => within e (List.mem_cons_of_mem _ member)
      constructor
      · intro throughout
        have after : holds (step state event) :=
          throughout [event] ((List.prefix_cons_inj event).mpr List.nil_prefix)
        refine ⟨first.mpr after, ?_⟩
        intro next taken
        cases taken
        refine (later after).mp fun before isPrefix => ?_
        exact throughout (event :: before) ((List.prefix_cons_inj event).mpr isPrefix)
      · intro along before isPrefix
        have after := first.mp along.1
        cases before with
        | nil => exact start
        | cons head before =>
            rcases List.cons_prefix_cons.mp isPrefix with ⟨rfl, shorter⟩
            exact (later after).mpr (along.2 _ rfl) before shorter

theorem holds_at_end_iff_along {step : State → Event → State} {frame holds : State → Prop}
    {allowed : Event → Prop} {condition : State → Event → Prop}
    (kept : ∀ state event, frame state → allowed event → frame (step state event))
    (keeps : ∀ state event, frame state → holds state → allowed event →
      (condition state event ↔ holds (step state event)))
    (lost : ∀ state event, holds (step state event) → holds state)
    {state : State} (framed : frame state) (start : holds state) {events : List Event}
    (within : ∀ event ∈ events, allowed event) :
    holds (events.foldl step state) ↔
      Along (fun state event => some (step state event)) condition state events := by
  rw [← holds_throughout_iff_along kept keeps framed start within]
  constructor
  · rintro last before ⟨rest, rfl⟩
    rw [List.foldl_append] at last
    generalize before.foldl step state = middle at last ⊢
    clear within
    induction rest generalizing middle with
    | nil => exact last
    | cons event rest ih => exact lost middle event (ih _ last)
  · intro throughout
    exact throughout events List.prefix_rfl

end A500cg.Lib
