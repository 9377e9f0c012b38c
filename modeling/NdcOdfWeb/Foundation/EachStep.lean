/-! A step that is taken for every element of a list, and what holds along the way. -/

namespace NdcOdfWeb.Foundation

variable {σ α : Type}

/-- Every element meets the condition in the state that it finds. -/
def EachStep (step : σ → α → σ) (meets : σ → α → Prop) : σ → List α → Prop
  | _, [] => True
  | state, element :: rest => meets state element ∧ EachStep step meets (step state element) rest

variable {step : σ → α → σ}

/-- What elements meet in every state, they meet along the way. -/
theorem EachStep.of_all {meets : σ → α → Prop} {elements : List α}
    (all : ∀ element ∈ elements, ∀ state, meets state element) (state : σ)
    : EachStep step meets state elements := by
  induction elements generalizing state with
  | nil => trivial
  | cons element rest ih =>
      have later := ih (fun other member => all other (List.mem_cons_of_mem element member))
      exact ⟨all element List.mem_cons_self state, later _⟩

instance EachStep.decidable {meets : σ → α → Prop}
    [∀ state element, Decidable (meets state element)]
    : (state : σ) → (elements : List α) → Decidable (EachStep step meets state elements)
  | _, [] => .isTrue trivial
  | state, element :: rest =>
      haveI : Decidable (EachStep step meets (step state element) rest) :=
        EachStep.decidable (step state element) rest
      inferInstanceAs (Decidable (_ ∧ _))

/-- An invariant that a step keeps where its element meets the condition holds in the end. The
induction is on the elements; each finds the state that the ones before it have left.
-/
theorem EachStep.keeps {invariant : σ → Prop} {meets : σ → α → Prop}
    (keeps
      : ∀ state element, invariant state → meets state element → invariant (step state element))
    {state : σ} {elements : List α} (start : invariant state)
    (all : EachStep step meets state elements)
    : invariant (elements.foldl step state) := by
  induction elements generalizing state with
  | nil => exact start
  | cons element rest ih => exact ih (keeps state element start all.1) all.2

/-- By induction on the elements. -/
theorem foldl_keeps {invariant : σ → Prop}
    (keeps : ∀ state element, invariant state → invariant (step state element)) {state : σ}
    (elements : List α) (start : invariant state)
    : invariant (elements.foldl step state) := by
  induction elements generalizing state with
  | nil => exact start
  | cons element rest ih => exact ih (keeps state element start)

/-- A property that is not regained when it is lost holds in the end exactly if every element
meets the condition under which its step keeps the property.
-/
theorem foldl_iff_eachStep {invariant holds : σ → Prop} {meets : σ → α → Prop}
    (keeps : ∀ state element, invariant state → invariant (step state element))
    (kept
      : ∀ state element,
          invariant state → holds state → (holds (step state element) ↔ meets state element))
    (lost : ∀ state element, invariant state → holds (step state element) → holds state)
    {state : σ} {elements : List α} (start : invariant state) (holds' : holds state)
    : holds (elements.foldl step state) ↔ EachStep step meets state elements := by
  have back (state : σ) (elements : List α) (start : invariant state)
      (finally' : holds (elements.foldl step state))
      : holds state := by
    induction elements generalizing state with
    | nil => exact finally'
    | cons element rest ih =>
        exact lost state element start (ih _ (keeps state element start) finally')
  induction elements generalizing state with
  | nil => exact ⟨fun _ => trivial, fun _ => holds'⟩
  | cons element rest ih =>
      have later := keeps state element start
      have here := kept state element start holds'
      constructor
      · intro finally'
        have next := back _ rest later finally'
        exact ⟨here.mp next, (ih later next).mp finally'⟩
      · rintro ⟨meets', all⟩
        exact (ih later (here.mpr meets')).mpr all

end NdcOdfWeb.Foundation
