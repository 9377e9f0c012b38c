import Mathlib.Logic.Function.Iterate

/-! Iterators with a state: what calling one until it has nothing more yields. -/

namespace NdcOdfWeb.Foundation

variable {σ α : Type}

/-- The values that calls of `next` yield from one state on, and the state that the last
call leaves, which yields none.
-/
inductive Yields (next : σ → Option α × σ) : σ → List α → σ → Prop where
  | done {state final : σ} (ended : next state = (none, final)) : Yields next state [] final
  | more {state rest final : σ} {value : α} {values : List α}
      (yielded : next state = (some value, rest)) (later : Yields next rest values final)
      : Yields next state (value :: values) final

variable {next : σ → Option α × σ}

/-- An iteration has one outcome. -/
theorem Yields.unique {state final other : σ} {values more : List α}
    (first : Yields next state values final) (second : Yields next state more other)
    : values = more ∧ final = other := by
  induction first generalizing more with
  | done ended =>
      cases second with
      | done ended' =>
          rw [ended] at ended'
          exact ⟨rfl, congrArg Prod.snd ended'⟩
      | more yielded later =>
          rw [ended] at yielded
          exact absurd (congrArg Prod.fst yielded) (Option.some_ne_none _).symm
  | more yielded _ ih =>
      cases second with
      | done ended =>
          rw [yielded] at ended
          exact absurd (congrArg Prod.fst ended) (Option.some_ne_none _)
      | more yielded' later =>
          rw [yielded, Prod.mk.injEq, Option.some.injEq] at yielded'
          obtain ⟨rfl, rfl⟩ := yielded'
          obtain ⟨rfl, rfl⟩ := ih later
          exact ⟨rfl, rfl⟩

/-- The calls of an iteration, one after the other. -/
theorem Yields.iterate {state final : σ} {values : List α}
    (iteration : Yields next state values final)
    : (fun state => (next state).2)^[values.length + 1] state = final := by
  induction iteration with
  | done ended => exact congrArg Prod.snd ended
  | more yielded _ ih =>
      rw [List.length_cons, Function.iterate_succ_apply, yielded]
      exact ih

end NdcOdfWeb.Foundation
