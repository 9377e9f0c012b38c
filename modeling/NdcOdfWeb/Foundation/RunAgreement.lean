import NdcOdfWeb.Foundation.StepRun

/-! Two step functions whose runs lead to the same states. -/

namespace NdcOdfWeb.Foundation

variable {σ ε : Type}

/-- After every part of a run both step functions are in the same state, or stuck. -/
def RunsAgree (step spec : σ → ε → Option σ) (state : σ) (events : List ε) : Prop :=
  ∀ done rest, events = done ++ rest → stepRun step state done = stepRun spec state done

variable {step spec : σ → ε → Option σ} {meets : σ → ε → Prop}

/-- Runs agree exactly if every step does. -/
theorem runsAgree_iff
    (agrees : ∀ state event, step state event = spec state event ↔ meets state event)
    (state : σ) (events : List ε)
    : RunsAgree step spec state events ↔ AllSteps step meets state events := by
  constructor
  · rintro agree done event rest reached rfl ran
    have before := agree done (event :: rest) rfl
    have after := agree (done ++ [event]) rest (by simp)
    have single (next : σ → ε → Option σ) : stepRun next reached [event] = next reached event := by
      unfold stepRun
      rw [List.foldlM_cons]
      cases next reached event with
      | none => rfl
      | some last => rfl
    have append (next : σ → ε → Option σ) (reaches : stepRun next state done = some reached)
        : stepRun next state (done ++ [event]) = next reached event := by
      rw [← single next, stepRun, List.foldlM_append]
      rw [stepRun] at reaches
      rw [reaches]
      rfl
    rw [append step ran, append spec (before ▸ ran)] at after
    exact (agrees reached event).mp after
  · rintro all done rest rfl
    induction done generalizing state with
    | nil => rfl
    | cons event done ih =>
        have here := (agrees state event).mpr all.head
        unfold stepRun at ih ⊢
        rw [List.foldlM_cons, List.foldlM_cons, ← here]
        cases next : step state event with
        | none => rfl
        | some after => exact ih after (all.tail next)

end NdcOdfWeb.Foundation
