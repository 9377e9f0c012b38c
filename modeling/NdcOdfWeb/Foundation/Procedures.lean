import Mathlib.Data.List.Basic

/-! Procedures that cause events, throw exceptions, and look at containers by an index. -/

namespace NdcOdfWeb.Foundation

/-- How a procedure ends: with a value, with an exception, or with an access outside of a
container.
-/
inductive Ending (ε α : Type) where
  | returned (value : α)
  | threw (error : ε)
  | outside

/-- The events that a procedure causes, and how it ends. -/
structure Procedure (ν ε α : Type) where
  events : List ν
  ending : Ending ε α

namespace Procedure

variable {ν ε α β : Type}

protected def bind (first : Procedure ν ε α) (next : α → Procedure ν ε β) : Procedure ν ε β :=
  match first.ending with
  | .returned value => ⟨first.events ++ (next value).events, (next value).ending⟩
  | .threw error => ⟨first.events, .threw error⟩
  | .outside => ⟨first.events, .outside⟩

instance : Monad (Procedure ν ε) where
  pure value := ⟨[], .returned value⟩
  bind := Procedure.bind

/-- Cause an event. -/
def cause (event : ν) : Procedure ν ε Unit := ⟨[event], .returned ()⟩

/-- Throw an exception. -/
def raise (error : ε) : Procedure ν ε α := ⟨[], .threw error⟩

/-- A call that throws if it has no result. -/
def orRaise (error : ε) : Option α → Procedure ν ε α
  | some value => pure value
  | none => raise error

/-- An access that is not checked. -/
def access (container : List α) (index : Nat) : Procedure ν ε α :=
  match container[index]? with
  | some value => pure value
  | none => ⟨[], .outside⟩

/-- Catch the exceptions of a procedure. -/
def tryCatch (body : Procedure ν ε α) (handler : ε → Procedure ν ε α) : Procedure ν ε α :=
  match body.ending with
  | .threw error => ⟨body.events ++ (handler error).events, (handler error).ending⟩
  | .returned _ | .outside => body

/-- All accesses are inside of their containers. -/
def Inside (procedure : Procedure ν ε α) : Prop := procedure.ending ≠ .outside

/-- A result is not the end of an access outside. -/
theorem returned_ne_outside (value : α) : (.returned value : Ending ε α) ≠ .outside := by
  intro same
  cases same

/-- An error is not the end of an access outside. -/
theorem threw_ne_outside (error : ε) : (.threw error : Ending ε α) ≠ .outside := by
  intro same
  cases same

/-- A value reads nothing. -/
@[simp] theorem inside_pure (value : α) : Inside (pure value : Procedure ν ε α) :=
  returned_ne_outside value

/-- An event reads nothing. -/
@[simp] theorem inside_cause (event : ν) : Inside (cause event : Procedure ν ε Unit) :=
  returned_ne_outside ()

/-- An error reads nothing. -/
@[simp] theorem inside_raise (error : ε) : Inside (raise error : Procedure ν ε α) :=
  threw_ne_outside error

/-- A value or an error. -/
@[simp] theorem inside_orRaise (error : ε) (value : Option α)
    : Inside (orRaise error value : Procedure ν ε α) := by
  cases value with
  | none => exact inside_raise error
  | some value => exact inside_pure value

/-- An access is inside if the index is. -/
theorem inside_access_iff {container : List α} {index : Nat}
    : Inside (access container index : Procedure ν ε α) ↔ index < container.length := by
  rw [access]
  rcases Nat.lt_or_ge index container.length with inside | behind
  · rw [List.getElem?_eq_getElem inside]
    exact iff_of_true (inside_pure _) inside
  · rw [List.getElem?_eq_none behind]
    exact iff_of_false (fun inside => inside rfl) (Nat.not_lt.mpr behind)

/-- Both parts are inside, the second one for the first one's value. -/
theorem inside_bind_iff {first : Procedure ν ε α} {next : α → Procedure ν ε β}
    : Inside (first >>= next)
      ↔ Inside first ∧ ∀ value, first.ending = .returned value → Inside (next value) := by
  rcases first with ⟨events, ending⟩
  cases ending with
  | returned value =>
      constructor
      · intro inside
        refine ⟨returned_ne_outside value, ?_⟩
        rintro _ ⟨⟩
        exact inside
      · exact fun inside => inside.2 value rfl
  | threw error =>
      refine iff_of_true (threw_ne_outside error) ⟨threw_ne_outside error, ?_⟩
      intro value same
      cases same
  | outside => exact iff_of_false (fun inside => inside rfl) (fun inside => inside.1 rfl)

/-- A step that only returns a value. -/
theorem returned_bind (value : α) (next : α → Procedure ν ε β)
    : ((pure value : Procedure ν ε α) >>= next) = next value :=
  rfl

/-- A procedure whose steps are all inside. -/
theorem Inside.bind {first : Procedure ν ε α} {next : α → Procedure ν ε β} (inside : Inside first)
    (then_ : ∀ value, Inside (next value))
    : Inside (first >>= next) :=
  inside_bind_iff.mpr ⟨inside, fun value _ => then_ value⟩

/-- A handler that stays inside adds no access. -/
theorem inside_tryCatch_iff {body : Procedure ν ε α} {handler : ε → Procedure ν ε α}
    (handled : ∀ error, Inside (handler error))
    : Inside (tryCatch body handler) ↔ Inside body := by
  rcases body with ⟨events, ending⟩
  cases ending with
  | returned value => exact Iff.rfl
  | threw error => exact iff_of_true (handled error) (threw_ne_outside error)
  | outside => exact Iff.rfl

variable {serves : ν → Bool}

/-- A procedure causes an event of a kind. -/
def Causes (serves : ν → Bool) (procedure : Procedure ν ε α) : Prop :=
  ∃ event ∈ procedure.events, serves event = true

/-- A procedure causes an event of a kind, or throws. -/
def Settles (serves : ν → Bool) (procedure : Procedure ν ε α) : Prop :=
  Causes serves procedure ∨ ∃ error, procedure.ending = .threw error

/-- The event is the one caused. -/
theorem causes_cause {event : ν} (served : serves event = true)
    : Causes serves (cause event : Procedure ν ε Unit) :=
  ⟨event, List.mem_singleton_self event, served⟩

/-- An error settles the procedure. -/
theorem settles_raise (error : ε) : Settles serves (raise error : Procedure ν ε α) :=
  .inr ⟨error, rfl⟩

/-- What comes behind takes no event back. -/
theorem Causes.bind {first : Procedure ν ε α} (causes : Causes serves first)
    (next : α → Procedure ν ε β)
    : Causes serves (first >>= next) := by
  obtain ⟨event, member, served⟩ := causes
  refine ⟨event, ?_, served⟩
  change event ∈ (Procedure.bind first next).events
  rw [Procedure.bind]
  split
  · exact List.mem_append_left _ member
  · exact member
  · exact member

/-- What follows settles, if it is arrived at. -/
theorem settles_bind {first : Procedure ν ε α} {next : α → Procedure ν ε β} (inside : Inside first)
    (then_ : ∀ value, first.ending = .returned value → Settles serves (next value))
    : Settles serves (first >>= next) := by
  rcases first with ⟨events, ending⟩
  cases ending with
  | returned value =>
      rcases then_ value rfl with ⟨event, member, served⟩ | ⟨error, thrown⟩
      · exact .inl ⟨event, List.mem_append_right _ member, served⟩
      · exact .inr ⟨error, thrown⟩
  | threw error => exact .inr ⟨error, rfl⟩
  | outside => exact absurd rfl inside

/-- The handler serves where the body does not. -/
theorem causes_tryCatch {body : Procedure ν ε α} {handler : ε → Procedure ν ε α}
    (settles : Settles serves body) (handled : ∀ error, Causes serves (handler error))
    : Causes serves (tryCatch body handler) := by
  rcases body with ⟨events, ending⟩
  cases ending with
  | returned value =>
      rcases settles with causes | ⟨error, thrown⟩
      · exact causes
      · cases thrown
  | outside =>
      rcases settles with causes | ⟨error, thrown⟩
      · exact causes
      · cases thrown
  | threw error =>
      obtain ⟨event, member, served⟩ := handled error
      exact ⟨event, List.mem_append_right _ member, served⟩

end Procedure

end NdcOdfWeb.Foundation
