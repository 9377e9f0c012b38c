import Mathlib.Data.List.Basic

/-! Open items, each of which waits for a job that is under way to close it.
An item may become easier to close, but not harder, unless a new job is started for it; then
none is open any more when no job is under way.
-/

namespace NdcOdfWeb.Foundation

variable {I J : Type}

/-- Every open item has a job under way that closes it. -/
def Attended (closes : J → I → Prop) (underWay : J → Prop) (items : List I) : Prop :=
  ∀ item ∈ items, ∃ job, underWay job ∧ closes job item

/-- Every item that is open after a call was open before, and no easier to close, or is closed
by one of the jobs that the call starts.
-/
def OpenedWith (closes : J → I → Prop) (eases : I → I → Prop) (before after : List I)
    (jobs : List J)
    : Prop :=
  ∀ item ∈ after, (∃ old ∈ before, eases old item) ∨ ∃ job ∈ jobs, closes job item

/-- What closes an item closes it when it has become easier. -/
structure Easing (closes : J → I → Prop) (eases : I → I → Prop) : Prop where
  refl : ∀ item, eases item item
  trans : ∀ {first second third}, eases first second → eases second third → eases first third
  closes : ∀ {job item easier}, closes job item → eases item easier → closes job easier

variable {closes : J → I → Prop} {eases : I → I → Prop}

/-- An open item needs a job under way. -/
theorem Attended.quiet {underWay : J → Prop} {items : List I}
    (attended : Attended closes underWay items) (quiet : ∀ job, ¬ underWay job)
    : items = [] := by
  apply List.eq_nil_iff_forall_not_mem.mpr
  intro item member
  obtain ⟨job, here, -⟩ := attended item member
  exact quiet job here

/-- No item is new. -/
theorem OpenedWith.of_subset (easing : Easing closes eases) {before after : List I}
    (subset : after ⊆ before)
    : OpenedWith closes eases before after [] :=
  fun item member => .inl ⟨item, subset member, easing.refl item⟩

/-- No item is new. -/
theorem OpenedWith.refl (easing : Easing closes eases) (items : List I)
    : OpenedWith closes eases items items [] :=
  .of_subset easing (List.Subset.refl items)

/-- More jobs open no item less. -/
theorem OpenedWith.mono {before after : List I} {jobs more : List J}
    (opened : OpenedWith closes eases before after jobs) (subset : jobs ⊆ more)
    : OpenedWith closes eases before after more := by
  intro item member
  rcases opened item member with old | ⟨job, inside, done⟩
  · exact .inl old
  · exact .inr ⟨job, subset inside, done⟩

/-- The jobs of both steps. -/
theorem OpenedWith.trans (easing : Easing closes eases) {before middle after : List I}
    {jobs more : List J} (first : OpenedWith closes eases before middle jobs)
    (second : OpenedWith closes eases middle after more)
    : OpenedWith closes eases before after (jobs ++ more) := by
  intro item member
  rcases second item member with ⟨old, inside, easier⟩ | ⟨job, inside, done⟩
  · rcases first old inside with ⟨older, inBefore, easier'⟩ | ⟨job, inJobs, done⟩
    · exact .inl ⟨older, inBefore, easing.trans easier' easier⟩
    · exact .inr ⟨job, List.mem_append_left _ inJobs, easing.closes done easier⟩
  · exact .inr ⟨job, List.mem_append_right _ inside, done⟩

/-- Items stay attended by a call whose jobs are under way afterwards, where each job that was
under way is still, or has a replacement that closes all that it closes.
-/
theorem Attended.step (easing : Easing closes eases) {before after : List I} {jobs : List J}
    {underWay underWay' : J → Prop} (attended : Attended closes underWay before)
    (opened : OpenedWith closes eases before after jobs) (started : ∀ job ∈ jobs, underWay' job)
    (goesOn
      : ∀ job item,
          underWay job → closes job item → item ∈ after → ∃ other, underWay' other ∧ closes other item)
    : Attended closes underWay' after := by
  intro item member
  rcases opened item member with ⟨old, inside, easier⟩ | ⟨job, inside, done⟩
  · obtain ⟨job, here, done⟩ := attended old inside
    exact goesOn job item here (easing.closes done easier) member
  · exact ⟨job, started job inside, done⟩

end NdcOdfWeb.Foundation
