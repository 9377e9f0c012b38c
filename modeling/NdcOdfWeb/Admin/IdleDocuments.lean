import NdcOdfWeb.Foundation.Decimal

/-! The documents of the admin model in the order of their idle times
(`getDocumentsSortedByIdle`).
-/

namespace NdcOdfWeb.Admin

open NdcOdfWeb.Foundation

/-- The requirements of a comparison that a list is sorted with. -/
structure StrictWeakOrderOn {α : Type} (less : α → α → Bool) (entries : List α) : Prop where
  irreflexive : ∀ a ∈ entries, less a a = false
  transitive
    : ∀ a ∈ entries, ∀ b ∈ entries, ∀ c ∈ entries,
        less a b = true → less b c = true → less a c = true
  incomparable
    : ∀ a ∈ entries, ∀ b ∈ entries, ∀ c ∈ entries,
        less a b = false → less b a = false → less b c = false → less c b = false
        → less a c = false ∧ less c a = false

section Sorting

variable {α : Type} {less : α → α → Bool} {entries : List α}

instance decidableStrictWeakOrderOn (less : α → α → Bool) (entries : List α)
    : Decidable (StrictWeakOrderOn less entries) :=
  decidable_of_iff
    ((∀ a ∈ entries, less a a = false)
      ∧ (∀ a ∈ entries, ∀ b ∈ entries, ∀ c ∈ entries,
          less a b = true → less b c = true → less a c = true)
      ∧ ∀ a ∈ entries, ∀ b ∈ entries, ∀ c ∈ entries,
          less a b = false → less b a = false → less b c = false → less c b = false
          → less a c = false ∧ less c a = false)
    ⟨fun laws => ⟨laws.1, laws.2.1, laws.2.2⟩,
      fun order => ⟨order.irreflexive, order.transitive, order.incomparable⟩⟩

/-- `std::sort`. It is defined only for a strict weak order of the entries. -/
def stdSort (less : α → α → Bool) (entries : List α) : Option (List α) :=
  if StrictWeakOrderOn less entries then
    some (entries.attach.mergeSort (fun a b => !less b.1 a.1)).unattach
  else none

/-- Two entries do not come before each other: otherwise the first one came before itself. -/
theorem StrictWeakOrderOn.asymmetric (order : StrictWeakOrderOn less entries) {a b : α}
    (aIn : a ∈ entries) (bIn : b ∈ entries) (first : less a b = true)
    : less b a = false := by
  cases second : less b a with
  | false => rfl
  | true =>
      have itself := order.transitive a aIn b bIn a aIn first second
      rw [order.irreflexive a aIn] at itself
      cases itself

/-- What does not come before the next entry does not come before those behind it. Where one of
the two pairs is strict, transitivity gives a contradiction; otherwise all three are equivalent.
-/
theorem StrictWeakOrderOn.negatively (order : StrictWeakOrderOn less entries) {a b c : α}
    (aIn : a ∈ entries) (bIn : b ∈ entries) (cIn : c ∈ entries) (first : less b a = false)
    (second : less c b = false)
    : less c a = false := by
  cases before : less c a with
  | false => rfl
  | true =>
      cases left : less a b with
      | true => rw [order.transitive c cIn a aIn b bIn before left] at second; cases second
      | false =>
          cases right : less b c with
          | true => rw [order.transitive b bIn c cIn a aIn right before] at first; cases first
          | false =>
              have equivalent := order.incomparable a aIn b bIn c cIn left first right second
              rw [equivalent.2] at before
              cases before

/-- Entries in a strict weak order are sorted: the result has them all, and none comes behind one
that it should come before.
-/
theorem stdSort_sorts (order : StrictWeakOrderOn less entries)
    : ∃ sorted, stdSort less entries = some sorted
        ∧ sorted.Perm entries
        ∧ sorted.Pairwise (fun a b => less b a = false) := by
  refine ⟨_, if_pos order, ?_, ?_⟩
  · have perm := (List.mergeSort_perm entries.attach (fun a b => !less b.1 a.1)).map Subtype.val
    rwa [List.attach_map_subtype_val] at perm
  · have pairwise := @List.pairwise_mergeSort { a // a ∈ entries } (fun a b => !less b.1 a.1)
      (fun a b c first second => by
        rw [Bool.not_eq_true'] at first second ⊢
        exact order.negatively a.2 b.2 c.2 first second)
      (fun a b => by
        cases first : less a.1 b.1 with
        | false => simp
        | true => rw [order.asymmetric a.2 b.2 first]; rfl)
      entries.attach
    exact List.pairwise_map.mpr (pairwise.imp (fun before => by simpa using before))

end Sorting

-----------------------------------------------------------------------------------------
-- Documents
-----------------------------------------------------------------------------------------

/-- `DocBasicInfo`. -/
structure DocBasicInfo where
  docKey : Text
  idleTime : Int
  mem : Int
  saved : Bool
deriving DecidableEq

/-- What the list reads of a document. -/
structure IdleDocument where
  docKey : Text
  lastActivity : Int
  memoryDirty : Int
  isModified : Bool

/-- The information about a document at a time. -/
def IdleDocument.basicInfo (document : IdleDocument) (now : Int) : DocBasicInfo where
  docKey := document.docKey
  idleTime := now - document.lastActivity
  mem := document.memoryDirty
  saved := !document.isModified

/-- The documents in the order of the map, each with the time when it is looked at. -/
def basicInfos (documents : List (IdleDocument × Int)) : List DocBasicInfo :=
  documents.map (fun entry => entry.1.basicInfo entry.2)

/-- The comparison that the list is sorted with. -/
def idleBefore (a b : DocBasicInfo) : Bool := decide (a.idleTime ≥ b.idleTime)

/-- `getDocumentsSortedByIdle`. -/
def getDocumentsSortedByIdle (documents : List (IdleDocument × Int))
    : Option (List DocBasicInfo) :=
  stdSort idleBefore (basicInfos documents)

/-- The comparison is a strict weak order, and the result has all documents, those that are idle
for the longest time first.
-/
structure SortedByIdle (documents : List (IdleDocument × Int)) : Prop where
  order : StrictWeakOrderOn idleBefore (basicInfos documents)
  sorted
    : ∃ result, getDocumentsSortedByIdle documents = some result
        ∧ result.Perm (basicInfos documents)
        ∧ result.Pairwise (fun a b => b.idleTime ≤ a.idleTime)

/-- An entry comes before itself. -/
theorem idleBefore_self (entry : DocBasicInfo) : idleBefore entry entry = true :=
  decide_eq_true (Int.le_refl _)

/-- The comparison is a strict weak order of no entries only. -/
theorem strictWeakOrderOn_idleBefore_iff (entries : List DocBasicInfo)
    : StrictWeakOrderOn idleBefore entries ↔ entries = [] := by
  constructor
  · intro order
    cases entries with
    | nil => rfl
    | cons entry entries =>
        have irreflexive := order.irreflexive entry List.mem_cons_self
        rw [idleBefore_self] at irreflexive
        cases irreflexive
  · rintro rfl
    constructor
    · exact fun a member => absurd member List.not_mem_nil
    · exact fun a member => absurd member List.not_mem_nil
    · exact fun a member => absurd member List.not_mem_nil

/-- The list is sorted as it should be if and only if there are no documents. -/
theorem sortedByIdle_iff (documents : List (IdleDocument × Int))
    : SortedByIdle documents ↔ documents = [] := by
  have empty : basicInfos documents = [] ↔ documents = [] := List.map_eq_nil_iff
  constructor
  · intro sorted
    exact empty.mp ((strictWeakOrderOn_idleBefore_iff _).mp sorted.order)
  · intro none'
    have order := (strictWeakOrderOn_idleBefore_iff _).mpr (empty.mpr none')
    obtain ⟨result, sorts, perm, -⟩ := stdSort_sorts order
    refine ⟨order, result, sorts, perm, ?_⟩
    rw [empty.mpr none'] at perm
    rw [perm.eq_nil]
    exact List.Pairwise.nil

/-- A document that is idle for a minute. -/
def idleDocument : IdleDocument := ⟨"report.odt".toList, 1000, 2048, false⟩

/-- A document comes before itself, so the sort is undefined. -/
theorem one_document_is_not_ordered
    : idleBefore (idleDocument.basicInfo 1060) (idleDocument.basicInfo 1060) = true
      ∧ getDocumentsSortedByIdle [(idleDocument, 1060)] = none
      ∧ ¬ SortedByIdle [(idleDocument, 1060)] := by
  refine ⟨by decide, by decide, ?_⟩
  intro sorted
  have irreflexive := sorted.order.irreflexive (idleDocument.basicInfo 1060) List.mem_cons_self
  rw [idleBefore_self] at irreflexive
  cases irreflexive

end NdcOdfWeb.Admin
