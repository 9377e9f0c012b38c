import Mathlib.Data.List.Basic

/-! Calls that read from several positions of one object, each of which goes on by itself. -/

namespace NdcOdfWeb.Foundation

variable {σ κ β : Type}

/-- The results of calls of several kinds, `none` where one has none. -/
def runCalls (call : κ → σ → Option (β × σ)) : σ → List κ → Option (List β)
  | _, [] => some []
  | state, kind :: kinds =>
      (call kind state).bind
        (fun (result, next) => (runCalls call next kinds).map (result :: ·))

variable [DecidableEq κ]

/-- The results where every kind of calls goes through a list of its own, and gets `last`
behind its end.
-/
def listedResults (items : κ → List β) (last : β) (kinds : List κ) : List β :=
  kinds.mapIdx (fun i kind => (items kind).getD ((kinds.take i).count kind) last)

/-- The first call takes the first item of its kind. -/
theorem listedResults_cons (items : κ → List β) (last : β) (kind : κ) (kinds : List κ)
    : listedResults items last (kind :: kinds)
      = (items kind).headD last
        :: listedResults (fun other => if other = kind then (items other).tail else items other)
          last kinds := by
  unfold listedResults
  rw [List.mapIdx_cons]
  refine congrArg₂ List.cons ?_ ?_
  · cases items kind <;> rfl
  · refine congrArg (fun f => kinds.mapIdx f) ?_
    funext i other
    rw [List.take_succ_cons, List.count_cons]
    dsimp only
    by_cases same : other = kind
    · subst same
      simp only [beq_self_eq_true, if_true]
      cases items other with
      | nil => rfl
      | cons first rest => rfl
    · rw [if_neg same, if_neg (by simpa using Ne.symm same), Nat.add_zero]

/-- Where a call gives the first item that its kind has left and takes it from that kind only,
all calls give what is listed.
-/
theorem runCalls_eq {call : κ → σ → Option (β × σ)} {items : σ → κ → List β} {last : β}
    {invariant : σ → Prop}
    (goesOn
      : ∀ state kind,
          invariant state
          → ∃ next,
              call kind state = some ((items state kind).headD last, next)
              ∧ invariant next
              ∧ ∀ other,
                  items next other
                    = if other = kind then (items state other).tail else items state other)
    {state : σ} (start : invariant state) (kinds : List κ)
    : runCalls call state kinds = some (listedResults (items state) last kinds) := by
  induction kinds generalizing state with
  | nil => rfl
  | cons kind kinds ih =>
      obtain ⟨next, called, kept, left⟩ := goesOn state kind start
      rw [runCalls, called, listedResults_cons, ← funext left]
      simp only [Option.bind_some, ih kept, Option.map_some]

end NdcOdfWeb.Foundation
