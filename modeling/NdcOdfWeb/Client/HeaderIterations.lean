import NdcOdfWeb.Client.HeaderRuns

/-! The cursor of the header table: which entries an iteration yields. -/

namespace NdcOdfWeb.Client

open NdcOdfWeb.Foundation

/-- The cursor is at an index of a run, between the runs before it and those after it. -/
structure Stands (runs : HeaderRuns) (data : DataImpl) (before : List (Int × HeaderValue))
    (run : Int × HeaderValue) (after : List (Int × HeaderValue)) (index : Int)
    : Prop where
  split : runs.all = before ++ run :: after
  currentRange : data.currentRange = some before.length
  currentIndex : data.currentIndex = some index
  le : run.1 ≤ index
  above : ∀ other ∈ after, index < other.1

namespace HeaderRuns

variable {runs : HeaderRuns} {before after : List (Int × HeaderValue)}
  {run : Int × HeaderValue} {index : Int}

/-- The runs before another one have smaller indices, and those after it greater ones. -/
theorem order_of_split (split : runs.all = before ++ run :: after)
    : (∀ other ∈ before, other.1 < run.1) ∧ ∀ other ∈ after, run.1 < other.1 := by
  have ascending : (before ++ run :: after).Pairwise (fun run other => run.1 < other.1) :=
    split ▸ runs.ascending
  rw [List.pairwise_append, List.pairwise_cons] at ascending
  obtain ⟨_, ⟨later, _⟩, earlier⟩ := ascending
  exact ⟨fun other member => earlier other member run List.mem_cons_self, later⟩

/-- A run that starts at the index or before, and none behind it does. -/
theorem covers_of_split (split : runs.all = before ++ run :: after) (le : run.1 ≤ index)
    (above : ∀ other ∈ after, index < other.1)
    : runs.Covers run index := by
  refine ⟨?_, le, ?_⟩
  · rw [split]
    exact List.mem_append_right before List.mem_cons_self
  · intro other pushed below
    rw [split, List.mem_append, List.mem_cons] at pushed
    rcases pushed with earlier | rfl | later
    · exact Int.le_of_lt ((order_of_split split).1 other earlier)
    · exact Int.le_refl _
    · have greater := above other later
      omega

/-- The last run starts last. -/
theorem le_last (member : run ∈ runs.all) : run.1 ≤ runs.last := by
  unfold last
  rw [List.getLastD_eq_getLast?]
  cases final : (runs.all.map Prod.fst).getLast? with
  | none =>
      have empty := List.getLast?_eq_none_iff.mp final
      rw [List.map_eq_nil_iff] at empty
      rw [empty] at member
      exact absurd member List.not_mem_nil
  | some index =>
      obtain ⟨start, split⟩ := List.getLast?_eq_some_iff.mp final
      have ascending := runs.sorted
      have listed : run.1 ∈ runs.all.map Prod.fst := List.mem_map_of_mem member
      rw [split] at ascending listed
      rw [Option.getD_some]
      rcases List.mem_append.mp listed with earlier | same
      · exact Int.le_of_lt
          ((List.pairwise_append.mp ascending).2.2 _ earlier _ (List.mem_singleton_self _))
      · exact Int.le_of_eq (List.mem_singleton.mp same)

end HeaderRuns

/-- Which runs an iteration yields entries of: all of them, or the first one and those with
a size.
-/
def Shown (skipZeroSize : Bool) (run : Int × HeaderValue) : Prop :=
  skipZeroSize = false ∨ run.1 = 0 ∨ 0 < run.2.size

/-- The entries of the indices above one index that belong to some of the runs: each of
these indices once, in increasing order.
-/
structure HeaderRuns.Listing (runs : HeaderRuns) (converter : Option (Int → Int))
    (chosen : Int × HeaderValue → Prop) (index : Int) (entries : List HeaderEntry)
    : Prop where
  increasing : (entries.map HeaderEntry.index).Pairwise (· < ·)
  indices
    : ∀ i,
        i ∈ entries.map HeaderEntry.index
        ↔ index < i ∧ i ≤ runs.last ∧ ∃ run, runs.Covers run i ∧ chosen run
  entries
    : ∀ entry ∈ entries,
        ∃ run,
          runs.Covers run entry.index ∧ entry = HeaderRuns.entryOf converter run entry.index

namespace HeaderRuns

variable {runs : HeaderRuns} {converter : Option (Int → Int)}
  {chosen : Int × HeaderValue → Prop} {index : Int} {entries : List HeaderEntry}

/-- No chosen index is left. -/
theorem Listing.nil
    (left : ∀ i run, index < i → i ≤ runs.last → runs.Covers run i → ¬ chosen run)
    : runs.Listing converter chosen index [] := by
  refine ⟨List.Pairwise.nil, ?_, fun _ member => absurd member List.not_mem_nil⟩
  intro i
  refine ⟨fun member => absurd member List.not_mem_nil, ?_⟩
  rintro ⟨above, le, run, covers, shown⟩
  exact absurd shown (left i run above le covers)

/-- The next index that is listed comes before those above it. -/
theorem Listing.cons {next : Int} (later : runs.Listing converter chosen next entries)
    (above : index < next) (le : next ≤ runs.last) {run : Int × HeaderValue}
    (covers : runs.Covers run next) (shown : chosen run)
    (between : ∀ i other, index < i → i < next → runs.Covers other i → ¬ chosen other)
    : runs.Listing converter chosen index (entryOf converter run next :: entries) := by
  refine ⟨?_, ?_, ?_⟩
  · rw [List.map_cons, List.pairwise_cons]
    exact ⟨fun i member => ((later.indices i).mp member).1, later.increasing⟩
  · intro i
    rw [List.map_cons, List.mem_cons, later.indices i]
    constructor
    · rintro (rfl | ⟨above', le', rest⟩)
      · exact ⟨above, le, run, covers, shown⟩
      · exact ⟨Int.lt_trans above above', le', rest⟩
    · rintro ⟨above', le', other, covers', shown'⟩
      rcases Int.lt_trichotomy i next with before | rfl | after
      · exact absurd shown' (between i other above' before covers')
      · exact .inl rfl
      · exact .inr ⟨after, le', other, covers', shown'⟩
  · rw [List.forall_mem_cons]
    exact ⟨⟨run, covers, rfl⟩, later.entries⟩

end HeaderRuns

-----------------------------------------------------------------------------------------
-- One call of getNext
-----------------------------------------------------------------------------------------

/-- The search for a run with a size finds the first one. -/
theorem nextSized_cases {data : DataImpl} {list : List (Int × HeaderValue)}
    (values : ∀ run ∈ list, data.dataMap run.1 = some run.2) (range : Nat)
    : (
        data.nextSized range (list.map Prod.fst) = none
        ∧ ∀ run ∈ list, ¬ 0 < run.2.size
      )
      ∨ ∃ skipped run after,
          list = skipped ++ run :: after
          ∧ (∀ other ∈ skipped, ¬ 0 < other.2.size)
          ∧ 0 < run.2.size
          ∧ data.nextSized range (list.map Prod.fst)
              = some (range + skipped.length, run.1) := by
  induction list generalizing range with
  | nil => exact .inl ⟨rfl, fun _ member => absurd member List.not_mem_nil⟩
  | cons head rest ih =>
      rw [List.forall_mem_cons] at values
      rw [List.map_cons, DataImpl.nextSized, values.1]
      by_cases sized : 0 < head.2.size
      · refine .inr ⟨[], head, rest, rfl, fun _ member => absurd member List.not_mem_nil,
          sized, ?_⟩
        rw [if_pos (by simpa using sized)]
        rfl
      · rw [if_neg (by simpa using sized)]
        rcases ih values.2 (range + 1) with ⟨none', empty⟩ | ⟨skipped, run, after, split, rest'⟩
        · exact .inl ⟨none', List.forall_mem_cons.mpr ⟨sized, empty⟩⟩
        · obtain ⟨empty, sized', found⟩ := rest'
          refine .inr ⟨head :: skipped, run, after, by rw [split]; rfl,
            List.forall_mem_cons.mpr ⟨sized, empty⟩, sized', ?_⟩
          rw [found, List.length_cons, Nat.add_right_comm, Nat.add_assoc]

namespace Stands

variable {runs : HeaderRuns} {converter : Option (Int → Int)} {data : DataImpl}
  {before after : List (Int × HeaderValue)} {run : Int × HeaderValue} {index : Int}

/-- The first run starts at 0. -/
theorem nonneg (stands : Stands runs data before run after index) : 0 ≤ index := by
  have member : run ∈ runs.all := by
    rw [stands.split]
    exact List.mem_append_right before List.mem_cons_self
  have first := runs.nonneg member
  have le := stands.le
  omega

/-- The next start is that of the first run behind. -/
theorem getElem?_indexes (stands : Stands runs data before run after index)
    (holds : data.Holds converter runs.all)
    : data.indexes[before.length + 1]? = after.head?.map Prod.fst := by
  rw [holds.getElem?_indexes, stands.split,
    List.getElem?_append_right (Nat.le_add_right _ _), Nat.add_sub_cancel_left,
    List.getElem?_cons_succ, List.head?_eq_getElem?]

/-- The starts behind the current run's. -/
theorem drop_indexes (stands : Stands runs data before run after index)
    (holds : data.Holds converter runs.all)
    : data.indexes.drop (before.length + 1) = after.map Prod.fst := by
  rw [holds.indexes, stands.split, ← List.map_drop, ← List.drop_drop, List.drop_left]
  rfl

/-- An index behind the start of the next run belongs to a run behind the cursor. -/
theorem covers_after (stands : Stands runs data before run after index)
    {starting : Int × HeaderValue} (next : starting ∈ after) (start : starting.1 = index + 1)
    {other : Int × HeaderValue} {i : Int} (above : index < i) (covers : runs.Covers other i)
    : other ∈ after ∧ index < other.1 := by
  have pushed : starting ∈ runs.all := by
    rw [stands.split]
    exact List.mem_append_right before (List.mem_cons_of_mem run next)
  have greater : index < other.1 := by
    have le := covers.greatest starting pushed (by omega)
    omega
  have listed := covers.pushed
  have le := stands.le
  rw [stands.split, List.mem_append, List.mem_cons] at listed
  rcases listed with earlier | rfl | later
  · have order := (HeaderRuns.order_of_split stands.split).1 other earlier
    omega
  · omega
  · exact ⟨later, greater⟩

end Stands

/-- The cursor moves on to the next index whose entry is shown. -/
structure Advances (runs : HeaderRuns) (converter : Option (Int → Int)) (data : DataImpl)
    (index : Int) (moved : DataImpl) (next : Int) (run : Int × HeaderValue)
    : Prop where
  holds : moved.Holds converter runs.all
  same : moved.skipZeroSize = data.skipZeroSize
  above : index < next
  le : next ≤ runs.last
  stands : ∃ before after, Stands runs moved before run after next
  shown : Shown data.skipZeroSize run
  between
    : ∀ i other, index < i → i < next → runs.Covers other i → ¬ Shown data.skipZeroSize other

/-- The iteration is at its end. -/
structure Ends (runs : HeaderRuns) (converter : Option (Int → Int)) (data : DataImpl)
    (index : Int) (final : DataImpl)
    : Prop where
  holds : final.Holds converter runs.all
  reset : final.skipZeroSize = false
  left
    : ∀ i run, index < i → i ≤ runs.last → runs.Covers run i → ¬ Shown data.skipZeroSize run

section

variable {runs : HeaderRuns} {converter : Option (Int → Int)} {data : DataImpl}
  {before after : List (Int × HeaderValue)} {run : Int × HeaderValue} {index : Int}

/-- The cursor is no part of the data. -/
theorem DataImpl.Holds.ended (holds : data.Holds converter runs.all)
    : data.ended.Holds converter runs.all :=
  ⟨holds.converter, holds.indexes, holds.dataMap, holds.endIndex⟩

/-- The entry is made from the current run, and the cursor is set. -/
theorem DataImpl.Holds.entryAt (holds : data.Holds converter runs.all)
    (split : runs.all = before ++ run :: after) (next : Int)
    : data.entryAt before.length next
      = (
          some (HeaderRuns.entryOf converter run next),
          { data with currentRange := some before.length, currentIndex := some next }
        ) := by
  have member : run ∈ runs.all := by
    rw [split]
    exact List.mem_append_right before List.mem_cons_self
  have at_range : data.indexes[before.length]? = some run.1 := by
    rw [holds.getElem?_indexes, split, List.getElem?_append_right (Nat.le_refl _),
      Nat.sub_self]
    rfl
  unfold DataImpl.entryAt
  rw [at_range, Option.bind_some, holds.computeEntry member]

/-- The cursor is set to an index of a run that is shown. -/
theorem DataImpl.Holds.advances (holds : data.Holds converter runs.all)
    (split : runs.all = before ++ run :: after) {next : Int} (above : index < next)
    (last : next ≤ runs.last) (le : run.1 ≤ next) (beyond : ∀ other ∈ after, next < other.1)
    (shown : Shown data.skipZeroSize run)
    (between
      : ∀ i other,
          index < i → i < next → runs.Covers other i → ¬ Shown data.skipZeroSize other)
    : Advances runs converter data index
        { data with currentRange := some before.length, currentIndex := some next } next
        run where
  holds := ⟨holds.converter, holds.indexes, holds.dataMap, holds.endIndex⟩
  same := rfl
  above := above
  le := last
  stands := ⟨before, after, split, rfl, rfl, le, beyond⟩
  shown := shown
  between := between

/-- The next run starts behind the cursor, and the runs without a size are not skipped. -/
theorem Stands.next_run (stands : Stands runs data before run after index)
    (holds : data.Holds converter runs.all) {starting : Int × HeaderValue}
    {rest : List (Int × HeaderValue)} (behind : after = starting :: rest)
    (start : starting.1 = index + 1) (kept : data.skipZeroSize = false)
    : ∃ moved,
        data.entryAt (before.length + 1) (index + 1)
          = (some (HeaderRuns.entryOf converter starting (index + 1)), moved)
        ∧ Advances runs converter data index moved (index + 1) starting := by
  have split : runs.all = (before ++ [run]) ++ starting :: rest := by
    rw [stands.split, behind, List.append_assoc]
    rfl
  have length : (before ++ [run]).length = before.length + 1 := List.length_append
  have member : starting ∈ runs.all := by
    rw [split]
    exact List.mem_append_right _ List.mem_cons_self
  have last := HeaderRuns.le_last member
  rw [← length]
  refine ⟨_, holds.entryAt split (index + 1), ?_⟩
  apply holds.advances split (by omega) (by omega) (by omega)
  · rw [← start]
    exact (HeaderRuns.order_of_split split).2
  · exact .inl kept
  · intro i other above below
    omega

/-- The next run starts behind the cursor, and the runs without a size are skipped. -/
theorem Stands.next_sized (stands : Stands runs data before run after index)
    (holds : data.Holds converter runs.all) {starting : Int × HeaderValue}
    (behind : starting ∈ after) (start : starting.1 = index + 1)
    (skipped : data.skipZeroSize = true)
    : (
        data.nextSized (before.length + 1) (data.indexes.drop (before.length + 1)) = none
        ∧ Ends runs converter data index data.ended
      )
      ∨ ∃ range next run moved,
          data.nextSized (before.length + 1) (data.indexes.drop (before.length + 1))
            = some (range, next)
          ∧ data.entryAt range next = (some (HeaderRuns.entryOf converter run next), moved)
          ∧ Advances runs converter data index moved next run := by
  have nonneg := stands.nonneg
  have values : ∀ run ∈ after, data.dataMap run.1 = some run.2 := by
    intro other member
    apply holds.dataMap
    rw [stands.split]
    exact List.mem_append_right before (List.mem_cons_of_mem run member)
  -- an index above the cursor belongs to a run behind it, not to the first one
  have hidden {other : Int × HeaderValue} {i : Int} (above : index < i)
      (covers : runs.Covers other i) (empty : other ∈ after → ¬ 0 < other.2.size)
      : ¬ Shown data.skipZeroSize other := by
    obtain ⟨member, greater⟩ := stands.covers_after behind start above covers
    rw [skipped]
    rintro (kept | first | sized)
    · exact absurd kept (by decide)
    · omega
    · exact empty member sized
  rw [stands.drop_indexes holds]
  rcases nextSized_cases values (before.length + 1) with ⟨none', empty⟩ | found
  · left
    refine ⟨none', holds.ended, rfl, ?_⟩
    intro i other above _ covers
    exact hidden above covers (empty other)
  · right
    obtain ⟨between, sized, rest, split', empty, size, found⟩ := found
    have split : runs.all = (before ++ run :: between) ++ sized :: rest := by
      rw [stands.split, split', List.append_assoc]
      rfl
    have length : (before ++ run :: between).length = before.length + 1 + between.length := by
      rw [List.length_append, List.length_cons]
      omega
    have member : sized ∈ runs.all := by
      rw [split]
      exact List.mem_append_right _ List.mem_cons_self
    have order := (HeaderRuns.order_of_split split).2
    have above : index < sized.1 := stands.above sized (by rw [split']; simp)
    refine ⟨_, _, sized, _, found, by rw [← length]; exact holds.entryAt split _, ?_⟩
    apply holds.advances split above (HeaderRuns.le_last member) (Int.le_refl _) order
    · exact .inr (.inr size)
    · intro i other above' below covers
      apply hidden above' covers
      intro listed
      rw [split', List.mem_append, List.mem_cons] at listed
      have le := covers.le
      rcases listed with earlier | rfl | later
      · exact empty other earlier
      · omega
      · have greater := order other later
        omega

end

section

variable {runs : HeaderRuns} {converter : Option (Int → Int)} {data : DataImpl}
  {before after : List (Int × HeaderValue)} {run : Int × HeaderValue} {index : Int}

/-- A call of `getNext` returns the entry of the next index that is shown, or ends. -/
theorem Stands.getNext_cases (stands : Stands runs data before run after index)
    (holds : data.Holds converter runs.all) (shown : Shown data.skipZeroSize run)
    : (∃ final, data.getNext = (none, final) ∧ Ends runs converter data index final)
      ∨ ∃ next run moved,
          data.getNext = (some (HeaderRuns.entryOf converter run next), moved)
          ∧ Advances runs converter data index moved next run := by
  have last : data.endIndex = runs.last := holds.endIndex
  unfold DataImpl.getNext
  rw [stands.currentIndex, stands.currentRange]
  dsimp only
  by_cases finished : data.endIndex < index + 1
  · left
    rw [if_pos finished]
    refine ⟨_, rfl, holds.ended, rfl, ?_⟩
    intro i other above le
    omega
  rw [if_neg finished, stands.getElem?_indexes holds]
  by_cases next : after.head?.map Prod.fst = some (index + 1)
  · rw [if_pos next]
    obtain ⟨starting, head, start⟩ := Option.map_eq_some_iff.mp next
    obtain ⟨rest, behind⟩ := List.head?_eq_some_iff.mp head
    cases skips : data.skipZeroSize with
    | false =>
        right
        rw [if_neg (by decide)]
        exact ⟨index + 1, starting, stands.next_run holds behind start skips⟩
    | true =>
        rw [if_pos rfl]
        have listed : starting ∈ after := List.mem_of_head? head
        rcases stands.next_sized holds listed start skips with ⟨none', ends⟩ | sized
        · left
          rw [none']
          exact ⟨_, rfl, ends⟩
        · right
          obtain ⟨range, next, run, moved, found, entry, advances⟩ := sized
          rw [found]
          exact ⟨next, run, moved, entry, advances⟩
  · right
    rw [if_neg next]
    refine ⟨index + 1, run, _, holds.entryAt stands.split (index + 1), ?_⟩
    have le := stands.le
    apply holds.advances stands.split (by omega) (by omega) (by omega)
    · intro other member
      have ascending : after.Pairwise (fun run other => run.1 < other.1) := by
        have ascending := runs.ascending
        rw [show ((0 : Int), runs.first) :: runs.later = _ from stands.split,
          List.pairwise_append, List.pairwise_cons] at ascending
        exact ascending.2.1.2
      have above := stands.above other member
      cases after with
      | nil => exact absurd member List.not_mem_nil
      | cons starting rest =>
          have apart : starting.1 ≠ index + 1 := fun same => next (by simp [same])
          have greater := stands.above starting List.mem_cons_self
          rcases List.mem_cons.mp member with rfl | later
          · omega
          · have order := (List.pairwise_cons.mp ascending).1 other later
            omega
    · exact shown
    · intro i other above below
      omega

/-- From where the cursor stands on, an iteration lists the indices that are shown. -/
theorem Stands.iteration (stands : Stands runs data before run after index)
    (holds : data.Holds converter runs.all) (shown : Shown data.skipZeroSize run)
    : ∃ entries final,
        Yields DataImpl.getNext data entries final
        ∧ final.Holds converter runs.all
        ∧ final.skipZeroSize = false
        ∧ runs.Listing converter (Shown data.skipZeroSize) index entries := by
  -- every call that returns an entry comes closer to the last index
  generalize distance : (runs.last - index).toNat = steps
  induction steps using Nat.strongRecOn generalizing data before run after index with
  | ind steps ih =>
      rcases stands.getNext_cases holds shown with ⟨final, ended, ends⟩ | more
      · exact ⟨[], final, .done ended, ends.holds, ends.reset, .nil ends.left⟩
      · obtain ⟨next, run', moved, yielded, advances⟩ := more
        obtain ⟨before', after', stands'⟩ := advances.stands
        have above := advances.above
        have le := advances.le
        have shown' := advances.shown
        rw [← advances.same] at shown'
        obtain ⟨entries, final, iteration, holds', reset, listing⟩ :=
          ih (runs.last - next).toNat (by omega) stands' advances.holds shown' rfl
        rw [advances.same] at listing
        have covers := HeaderRuns.covers_of_split stands'.split stands'.le stands'.above
        exact ⟨_, final, .more yielded iteration, holds', reset,
          listing.cons above le covers advances.shown advances.between⟩

/-- An iteration over the table is complete after finitely many calls. -/
theorem complete_iteration (holds : data.Holds converter runs.all)
    : ∃ entries final,
        Yields DataImpl.getNext data.rewind entries final
        ∧ final.Holds converter runs.all
        ∧ final.skipZeroSize = false
        ∧ runs.Listing converter (Shown data.skipZeroSize) 0 entries := by
  have rewound : data.rewind.Holds converter runs.all :=
    ⟨holds.converter, holds.indexes, holds.dataMap, holds.endIndex⟩
  have stands : Stands runs data.rewind [] (0, runs.first) runs.later 0 := by
    refine ⟨rfl, rfl, ?_, Int.le_refl 0, (List.pairwise_cons.mp runs.ascending).1⟩
    change data.indexes[0]? = some 0
    rw [holds.getElem?_indexes]
    rfl
  exact stands.iteration rewound (.inr (.inl rfl))

end

-----------------------------------------------------------------------------------------
-- Every iteration
-----------------------------------------------------------------------------------------

/-- Moving the cursor leaves the table as it is. -/
theorem DataImpl.Holds.call {data : DataImpl} {converter : Option (Int → Int)}
    {list : List (Int × HeaderValue)} (holds : data.Holds converter list) (call : CursorCall)
    : (data.call call).Holds converter list := by
  have moved (currentIndex : Option Int) (currentRange : Option Nat) (skipZeroSize : Bool)
      : DataImpl.Holds { data with currentIndex, currentRange, skipZeroSize }
          converter list :=
    ⟨holds.converter, holds.indexes, holds.dataMap, holds.endIndex⟩
  have next (currentIndex : Option Int) (currentRange : Option Nat)
      : (DataImpl.getNext { data with currentIndex, currentRange }).2.Holds
          converter list := by
    unfold DataImpl.getNext
    dsimp only
    repeat' split
    all_goals exact moved _ _ _
  cases call with
  | getAt index =>
      unfold DataImpl.call DataImpl.getEntry
      dsimp only
      repeat' split
      all_goals exact moved _ _ _
  | getFirst => exact next _ _
  | getNext => exact next _ _

/-- By induction on the calls. -/
theorem calls_hold {data : DataImpl} {converter : Option (Int → Int)}
    {list : List (Int × HeaderValue)} (holds : data.Holds converter list)
    (calls : List DataImpl.CursorCall)
    : (calls.foldl DataImpl.call data).Holds converter list := by
  induction calls generalizing data with
  | nil => exact holds
  | cons call rest ih => exact ih (holds.call call)

/-- A complete iteration is `getFirst`, and `getNext` as often as it has entries. -/
theorem foldl_iteration {data final : DataImpl} {entries : List HeaderEntry}
    (iteration : Yields DataImpl.getNext data.rewind entries final)
    : (DataImpl.CursorCall.getFirst :: List.replicate entries.length .getNext).foldl
        DataImpl.call data
      = final := by
  have next (count : Nat) (state : DataImpl)
      : (List.replicate count DataImpl.CursorCall.getNext).foldl DataImpl.call state
        = (fun state => state.getNext.2)^[count] state := by
    induction count generalizing state with
    | zero => rfl
    | succ count ih => exact ih state.getNext.2
  rw [List.foldl_cons, next, ← iteration.iterate, Function.iterate_succ_apply]
  rfl

namespace HeaderRuns

variable {runs : HeaderRuns} {converter : Option (Int → Int)}
  {chosen : Int × HeaderValue → Prop} {index : Int} {entries : List HeaderEntry}

/-- A listed index is a chosen one. -/
theorem Listing.mem_iff (listing : runs.Listing converter chosen index entries) {i : Int}
    (above : index < i) (le : i ≤ runs.last) {run : Int × HeaderValue}
    (covers : runs.Covers run i)
    : i ∈ entries.map HeaderEntry.index ↔ chosen run := by
  rw [listing.indices i]
  constructor
  · rintro ⟨_, _, other, covers', chosen'⟩
    rwa [covers.unique covers']
  · intro chosen'
    exact ⟨above, le, run, covers, chosen'⟩

/-- Conditions that agree on the runs of the indices list the same ones. -/
theorem Listing.congr (listing : runs.Listing converter chosen index entries)
    {other : Int × HeaderValue → Prop}
    (agree
      : ∀ i run, index < i → i ≤ runs.last → runs.Covers run i → (chosen run ↔ other run))
    : runs.Listing converter other index entries := by
  refine ⟨listing.increasing, ?_, listing.entries⟩
  intro i
  rw [listing.indices i]
  refine and_congr_right (fun above => and_congr_right (fun le => exists_congr (fun run => ?_)))
  exact and_congr_right (agree i run above le)

/-- The table stands for the runs: `get` returns the entry of the run that an index belongs
to, and the iterations, whatever calls were made before, go over the indices whose run has
a size that is not zero, with these entries.
-/
def Expands (runs : HeaderRuns) (converter : Option (Int → Int)) : Prop :=
  (
    ∀ index, 1 ≤ index → index ≤ runs.last →
      ∃ run,
        runs.Covers run index
        ∧ (runs.data converter).get index = some (entryOf converter run index)
  )
  ∧ ∀ calls : List DataImpl.CursorCall,
      ∃ entries final,
        Yields DataImpl.getNext (calls.foldl DataImpl.call (runs.data converter)).rewind
          entries final
        ∧ runs.Listing converter (fun run => run.2.size ≠ 0) 0 entries
        ∧ ∀ entry ∈ entries, (runs.data converter).get entry.index = some entry

/-- The runs of the indices from 1 on have a size, which only the first one may have below
zero.
-/
def Sized (runs : HeaderRuns) : Prop :=
  ∀ index run, 1 ≤ index → index ≤ runs.last → runs.Covers run index →
    0 < run.2.size ∨ (run.1 = 0 ∧ run.2.size ≠ 0)

/-- The first iteration leaves out the runs without a size and the later ones do not, so
they only agree if there is none.
-/
theorem Expands.sized (expands : runs.Expands converter) : runs.Sized := by
  intro index run one le covers
  have holds := runs.data_holds converter
  have fresh : (runs.data converter).skipZeroSize = true := by
    have kept (list : List (Int × HeaderValue)) (data : DataImpl)
        : (list.foldl DataImpl.pushBack data).skipZeroSize = data.skipZeroSize := by
      induction list generalizing data with
      | nil => rfl
      | cons run rest ih =>
          rw [List.foldl_cons, ih]
          unfold DataImpl.pushBack
          dsimp only
          split <;> rfl
    exact kept runs.all (.new converter)
  -- what both iterations list
  obtain ⟨first, final, iteration, _, reset, listing⟩ := complete_iteration holds
  obtain ⟨entries, _, iteration', listing', _⟩ := expands.2 []
  obtain ⟨rfl, _⟩ := iteration.unique iteration'
  have kept : final.Holds converter runs.all := by
    rw [← foldl_iteration iteration]
    exact calls_hold holds _
  obtain ⟨later, _, second, _, _, all⟩ := complete_iteration kept
  obtain ⟨entries, _, second', listing'', _⟩ :=
    expands.2 (.getFirst :: List.replicate first.length .getNext)
  rw [foldl_iteration iteration] at second'
  obtain ⟨rfl, _⟩ := second.unique second'
  have sized : run.2.size ≠ 0 :=
    (listing''.mem_iff one le covers).mp ((all.mem_iff one le covers).mpr (.inl reset))
  have shown : Shown (runs.data converter).skipZeroSize run :=
    (listing.mem_iff one le covers).mp ((listing'.mem_iff one le covers).mpr sized)
  rw [fresh] at shown
  rcases shown with kept | zero | positive
  · exact absurd kept (by decide)
  · exact .inr ⟨zero, sized⟩
  · exact .inl positive

/-- The table stands for the runs exactly if those of the indices from 1 on have a size. -/
theorem expands_iff_sized (runs : HeaderRuns) (converter : Option (Int → Int))
    : runs.Expands converter ↔ runs.Sized := by
  refine ⟨Expands.sized, fun sized => ?_⟩
  have holds := runs.data_holds converter
  refine ⟨fun index one le => getEntry_eq holds one le false, ?_⟩
  intro calls
  obtain ⟨entries, final, iteration, _, _, listing⟩ :=
    complete_iteration (calls_hold holds calls)
  refine ⟨entries, final, iteration, ?_, ?_⟩
  · apply listing.congr
    intro i run one le covers
    have condition := sized i run one le covers
    unfold Shown
    constructor
    · intro _
      omega
    · intro nonzero
      right
      omega
  · intro entry member
    have inside := (listing.indices entry.index).mp (List.mem_map_of_mem member)
    obtain ⟨run, covers, entry_eq⟩ := listing.entries entry member
    obtain ⟨other, covers', found⟩ := getEntry_eq holds inside.1 inside.2.1 false
    obtain rfl := covers.unique covers'
    rw [← entry_eq] at found
    exact found

/-- A sheet whose third row is hidden. -/
def hiddenRow : HeaderRuns where
  first := ⟨0, 0⟩
  later := [(1, ⟨10, 10⟩), (3, ⟨20, 0⟩), (4, ⟨25, 5⟩)]
  ascending := by decide

/-- The second iteration yields the hidden row. -/
theorem hiddenRow_is_listed : ¬ hiddenRow.Expands (some id) := by
  intro expands
  have covers : hiddenRow.Covers (3, ⟨20, 0⟩) 3 := ⟨by decide, by decide, by decide⟩
  have sized := expands.sized 3 _ (by decide) (by decide) covers
  exact absurd sized (by decide)

end HeaderRuns

end NdcOdfWeb.Client
