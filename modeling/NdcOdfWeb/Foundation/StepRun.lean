/-! Runs of a partial step function, and the rules for what holds in all their states. -/

namespace NdcOdfWeb.Foundation

variable {σ ε : Type}

/-- A run of events; it ends where an event is not possible. -/
def stepRun (step : σ → ε → Option σ) (state : σ) (events : List ε) : Option σ :=
  events.foldlM step state

variable {step : σ → ε → Option σ}

/-- A step, and a run of the others. -/
theorem stepRun_cons {state final : σ} {event : ε} {events : List ε}
    : stepRun step state (event :: events) = some final
      ↔ ∃ next, step state event = some next ∧ stepRun step next events = some final := by
  rw [stepRun, List.foldlM_cons]
  exact Option.bind_eq_some_iff

/-- Steps that are always possible lead to the end of a run. -/
theorem stepRun_total (step : σ → ε → σ) (state : σ) (events : List ε)
    : stepRun (fun state event => some (step state event)) state events
      = some (events.foldl step state) := by
  induction events generalizing state with
  | nil => rfl
  | cons event events ih => exact stepRun_cons.mpr ⟨step state event, rfl, ih _⟩

/-- Where an invariant makes the next step possible, and is kept by it, every run goes to its
end.
-/
theorem stepRun_of_invariant {invariant : σ → Prop}
    (possible
      : ∀ state event, invariant state → ∃ next, step state event = some next ∧ invariant next)
    {state : σ} (start : invariant state) (events : List ε)
    : ∃ final, stepRun step state events = some final ∧ invariant final := by
  induction events generalizing state with
  | nil => exact ⟨state, rfl, start⟩
  | cons event events ih =>
      obtain ⟨next, here, kept⟩ := possible state event start
      obtain ⟨final, ran, holds⟩ := ih kept
      exact ⟨final, stepRun_cons.mpr ⟨next, here, ran⟩, holds⟩

/-- The property holds in every state that the run passes through. -/
def AllStates (step : σ → ε → Option σ) (holds : σ → Prop) (state : σ) (events : List ε) : Prop :=
  ∀ done rest reached,
    events = done ++ rest → stepRun step state done = some reached → holds reached

/-- Every step of the run meets the condition on the state that it starts from. -/
def AllSteps (step : σ → ε → Option σ) (meets : σ → ε → Prop) (state : σ) (events : List ε)
    : Prop :=
  ∀ done event rest reached,
    events = done ++ event :: rest
    → stepRun step state done = some reached
    → meets reached event

/-- The start is a state of the run. -/
theorem AllStates.head {holds : σ → Prop} {state : σ} {events : List ε}
    (all : AllStates step holds state events)
    : holds state :=
  all [] events state rfl rfl

/-- The states behind the first step. -/
theorem AllStates.tail {holds : σ → Prop} {state next : σ} {event : ε} {events : List ε}
    (all : AllStates step holds state (event :: events)) (here : step state event = some next)
    : AllStates step holds next events := by
  rintro done rest reached rfl ran
  exact all (event :: done) rest reached rfl (stepRun_cons.mpr ⟨next, here, ran⟩)

/-- The start, and the states behind the first step. -/
theorem AllStates.cons {holds : σ → Prop} {state next : σ} {event : ε} {events : List ε}
    (start : holds state) (here : step state event = some next)
    (later : AllStates step holds next events)
    : AllStates step holds state (event :: events) := by
  intro done rest reached split ran
  cases done with
  | nil =>
      cases ran
      exact start
  | cons first done =>
      obtain ⟨rfl, rfl⟩ := List.cons.inj split
      obtain ⟨after, step', more⟩ := stepRun_cons.mp ran
      obtain rfl : next = after := Option.some.inj (here.symm.trans step')
      exact later done rest reached rfl more

/-- The first step is one of the run. -/
theorem AllSteps.head {meets : σ → ε → Prop} {state : σ} {event : ε} {events : List ε}
    (all : AllSteps step meets state (event :: events))
    : meets state event :=
  all [] event events state rfl rfl

/-- The steps behind the first. -/
theorem AllSteps.tail {meets : σ → ε → Prop} {state next : σ} {event : ε} {events : List ε}
    (all : AllSteps step meets state (event :: events)) (here : step state event = some next)
    : AllSteps step meets next events := by
  rintro done later rest reached rfl ran
  exact all (event :: done) later rest reached rfl (stepRun_cons.mpr ⟨next, here, ran⟩)

/-- The first step, and the others. -/
theorem AllSteps.cons {meets : σ → ε → Prop} {state next : σ} {event : ε} {events : List ε}
    (start : meets state event) (here : step state event = some next)
    (later : AllSteps step meets next events)
    : AllSteps step meets state (event :: events) := by
  intro done last rest reached split ran
  cases done with
  | nil =>
      cases ran
      obtain ⟨rfl, rfl⟩ := List.cons.inj split
      exact start
  | cons first done =>
      obtain ⟨rfl, rfl⟩ := List.cons.inj split
      obtain ⟨after, step', more⟩ := stepRun_cons.mp ran
      obtain rfl : next = after := Option.some.inj (here.symm.trans step')
      exact later done last rest reached rfl more

/-- The steps of a run pass a test, one after the other. -/
def stepsPass (step : σ → ε → Option σ) (test : σ → ε → Bool) (state : σ) : List ε → Bool
  | [] => true
  | event :: events =>
      test state event && (step state event).all (fun next => stepsPass step test next events)

/-- By induction on the events, since each step passes the test. -/
theorem AllSteps.of_test {meets : σ → ε → Prop} {test : σ → ε → Bool}
    (sound : ∀ state event, test state event = true → meets state event) {state : σ}
    {events : List ε} (passed : stepsPass step test state events = true)
    : AllSteps step meets state events := by
  induction events generalizing state with
  | nil =>
      intro done event rest reached split
      exact absurd split (by simp)
  | cons event events ih =>
      obtain ⟨here, later⟩ := Bool.and_eq_true_iff.mp passed
      intro done other rest reached split ran
      cases done with
      | nil =>
          cases ran
          obtain ⟨rfl, rfl⟩ := List.cons.inj split
          exact sound state event here
      | cons first done =>
          obtain ⟨rfl, rfl⟩ := List.cons.inj split
          obtain ⟨next, stepped, more⟩ := stepRun_cons.mp ran
          rw [stepped, Option.all_some] at later
          exact ih later done other rest reached rfl more

/-- An invariant that every step keeps holds in every state of a run. -/
theorem allStates_of_keeps {invariant : σ → Prop}
    (keeps
      : ∀ state event next, invariant state → step state event = some next → invariant next)
    {state : σ} (start : invariant state) (events : List ε)
    : AllStates step invariant state events := by
  rintro done rest reached - ran
  induction done generalizing state with
  | nil =>
      cases ran
      exact start
  | cons event done ih =>
      obtain ⟨next, here, later⟩ := stepRun_cons.mp ran
      exact ih (keeps state event next start here) later

/-- An invariant that the steps keep as long as they meet a condition holds in every state that
is reached by steps that meet it.
-/
theorem allStates_of_meets {invariant : σ → Prop} {meets : σ → ε → Prop}
    (keeps
      : ∀ state event next,
          invariant state → meets state event → step state event = some next → invariant next)
    {state : σ} {events : List ε} (start : invariant state)
    (all : AllSteps step meets state events)
    : AllStates step invariant state events := by
  rintro done rest reached rfl ran
  induction done generalizing state with
  | nil =>
      cases ran
      exact start
  | cons event done ih =>
      obtain ⟨next, here, later⟩ := stepRun_cons.mp ran
      rw [List.cons_append] at all
      exact ih (keeps state event next start all.head here) (all.tail here) later

/-- A property holds in all states exactly if all steps meet the condition, where an
invariant that implies it is kept by the steps that meet the condition, and no other step
leads from the invariant to the property.
-/
theorem allStates_iff_allSteps {invariant holds : σ → Prop} {meets : σ → ε → Prop}
    (keeps
      : ∀ state event next,
          invariant state → meets state event → step state event = some next → invariant next)
    (implies : ∀ state, invariant state → holds state)
    (needs
      : ∀ state event next,
          invariant state → step state event = some next → holds next → meets state event)
    {state final : σ} {events : List ε} (start : invariant state)
    (ran : stepRun step state events = some final)
    : AllStates step holds state events ↔ AllSteps step meets state events := by
  constructor
  · intro all
    induction events generalizing state with
    | nil =>
        intro done event rest reached split
        exact absurd split (by simp)
    | cons event events ih =>
        obtain ⟨next, here, later⟩ := stepRun_cons.mp ran
        have rest := all.tail here
        have meets' := needs state event next start here rest.head
        exact .cons meets' here (ih (keeps state event next start meets' here) later rest)
  · intro all done rest reached split reaches
    exact implies reached
      (allStates_of_meets keeps start all done rest reached split reaches)

end NdcOdfWeb.Foundation
