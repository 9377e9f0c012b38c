import NdcOdfWeb.Client.HeaderData

/-! What the header table holds after the runs are pushed, and what it returns for an index. -/

namespace NdcOdfWeb.Client

open NdcOdfWeb.Foundation

/-- The runs that are pushed: they start at the index 0, and their indices increase. -/
structure HeaderRuns where
  first : HeaderValue
  later : List (Int × HeaderValue)
  ascending : (((0 : Int), first) :: later).Pairwise (fun run other => run.1 < other.1)

namespace HeaderRuns

variable (runs : HeaderRuns)

def all : List (Int × HeaderValue) :=
  (0, runs.first) :: runs.later

/-- The last index. -/
def last : Int :=
  (runs.all.map Prod.fst).getLastD (-1)

/-- The run that an index belongs to: the one with the greatest index not above it. -/
structure Covers (run : Int × HeaderValue) (index : Int) : Prop where
  pushed : run ∈ runs.all
  le : run.1 ≤ index
  greatest : ∀ other ∈ runs.all, other.1 ≤ index → other.1 ≤ run.1

/-- The entry that a run stands for at an index. -/
def entryOf (converter : Option (Int → Int)) (run : Int × HeaderValue) (index : Int)
    : HeaderEntry :=
  let twipsToPixels := converter.getD (fun _ => 0)
  ⟨index, twipsToPixels (run.2.pos + (index - run.1) * run.2.size), twipsToPixels run.2.size⟩

/-- The table after the calls of `pushBack`. -/
def data (converter : Option (Int → Int)) : DataImpl :=
  runs.all.foldl DataImpl.pushBack (.new converter)

end HeaderRuns

/-- A table holds a list of runs. -/
structure DataImpl.Holds (data : DataImpl) (converter : Option (Int → Int))
    (runs : List (Int × HeaderValue)) : Prop where
  converter : data.converter = converter
  indexes : data.indexes = runs.map Prod.fst
  dataMap : ∀ run ∈ runs, data.dataMap run.1 = some run.2
  endIndex : data.endIndex = (runs.map Prod.fst).getLastD (-1)

/-- A new list holds no runs. -/
theorem new_holds (converter : Option (Int → Int))
    : (DataImpl.new converter).Holds converter [] :=
  ⟨rfl, rfl, fun _ member => absurd member List.not_mem_nil, rfl⟩

/-- A run with a greater index is added. -/
theorem DataImpl.Holds.pushBack {data : DataImpl} {converter : Option (Int → Int)}
    {runs : List (Int × HeaderValue)} (holds : data.Holds converter runs)
    {run : Int × HeaderValue} (positive : 0 ≤ run.1) (above : ∀ other ∈ runs, other.1 < run.1)
    : (data.pushBack run).Holds converter (runs ++ [run]) := by
  have further : ¬ run.1 ≤ data.endIndex := by
    rw [holds.endIndex, List.getLastD_eq_getLast?]
    cases last : (runs.map Prod.fst).getLast? with
    | none =>
        rw [Option.getD_none]
        omega
    | some index =>
        obtain ⟨other, member, rfl⟩ := List.mem_map.mp (List.mem_of_getLast? last)
        exact Int.not_le.mpr (above other member)
  unfold DataImpl.pushBack
  dsimp only
  rw [if_neg further]
  refine ⟨holds.converter, ?_, ?_, ?_⟩
  · dsimp only
    rw [holds.indexes, List.map_append]
    rfl
  · intro other member
    rcases List.mem_append.mp member with earlier | last
    · have differ : other.1 ≠ run.1 := Int.ne_of_lt (above other earlier)
      exact (Function.update_of_ne differ _ _).trans (holds.dataMap other earlier)
    · cases List.mem_singleton.mp last
      exact Function.update_self _ _ _
  · dsimp only
    rw [List.map_append, List.getLastD_eq_getLast?]
    simp

/-- By induction on the runs: each one starts behind the last. -/
theorem foldl_pushBack_holds {converter : Option (Int → Int)}
    {runs more : List (Int × HeaderValue)} {data : DataImpl}
    (holds : data.Holds converter runs) (positive : ∀ run ∈ more, 0 ≤ run.1)
    (ascending : (runs ++ more).Pairwise (fun run other => run.1 < other.1))
    : (more.foldl DataImpl.pushBack data).Holds converter (runs ++ more) := by
  induction more generalizing runs data with
  | nil =>
      rw [List.append_nil]
      exact holds
  | cons run more ih =>
      rw [List.forall_mem_cons] at positive
      have above : ∀ other ∈ runs, other.1 < run.1 := fun other member =>
        (List.pairwise_append.mp ascending).2.2 other member run List.mem_cons_self
      have next := holds.pushBack positive.1 above
      have later := @ih (runs ++ [run]) _ next positive.2 (by rwa [List.append_assoc])
      rwa [List.append_assoc] at later

namespace HeaderRuns

variable (runs : HeaderRuns) (converter : Option (Int → Int))

/-- The first run starts at 0, and the others start behind it. -/
theorem nonneg {run : Int × HeaderValue} (member : run ∈ runs.all) : 0 ≤ run.1 := by
  rcases List.mem_cons.mp member with rfl | later
  · exact Int.le_refl 0
  · exact Int.le_of_lt ((List.pairwise_cons.mp runs.ascending).1 run later)

/-- The list holds the first run and the pushed ones. -/
theorem data_holds : (runs.data converter).Holds converter runs.all := by
  have pushed := foldl_pushBack_holds (new_holds converter) (fun _ => runs.nonneg)
    (show ([] ++ runs.all).Pairwise _ from runs.ascending)
  exact pushed

end HeaderRuns

-----------------------------------------------------------------------------------------
-- Searching
-----------------------------------------------------------------------------------------

/-- The position of the greatest element not above `x`. -/
structure IsFloor (collection : List Int) (x : Int) (range : Nat) : Prop where
  inside : range < collection.length
  le : collection[range] ≤ x
  above : ∀ (j : Nat) (bound : j < collection.length), range < j → x < collection[j]

/-- What the loop keeps: what is left out below is smaller, and above greater; the last probe
is next to what is left.
-/
structure Probing (collection : List Int) (x minIndex maxIndex : Int)
    (currentIndex : Option Int)
    : Prop where
  nonneg : 0 ≤ minIndex
  near : minIndex ≤ maxIndex + 1
  bounded : maxIndex < collection.length
  below : ∀ (j : Nat) (bound : j < collection.length), j < minIndex → collection[j] < x
  above : ∀ (j : Nat) (bound : j < collection.length), maxIndex < j → x < collection[j]
  probed
    : (currentIndex = none → minIndex ≤ maxIndex)
      ∧ ∀ probe, currentIndex = some probe → probe = minIndex - 1 ∨ probe = maxIndex + 1

/-- The starts ascend. -/
theorem sorted_lt {collection : List Int} (sorted : collection.Pairwise (· < ·)) {i j : Nat}
    (before : i < j) (bound : j < collection.length)
    : collection[i] < collection[j] :=
  List.pairwise_iff_getElem.mp sorted i j (Nat.lt_trans before bound) bound before

/-- A start equal to the index is the last one not above it. -/
theorem isFloor_of_eq {collection : List Int} (sorted : collection.Pairwise (· < ·))
    {x : Int} {range : Nat} (inside : range < collection.length) (same : collection[range] = x)
    : IsFloor collection x range :=
  ⟨inside, Int.le_of_eq same, fun _ bound after => same ▸ sorted_lt sorted after bound⟩

/-- Both ways to fail end between the elements below and those above. -/
theorem Probing.notFound {collection : List Int} {x minIndex maxIndex : Int}
    {currentIndex : Option Int}
    (probing : Probing collection x minIndex maxIndex currentIndex)
    (empty : ¬ minIndex ≤ maxIndex) (several : 0 < collection.length)
    (first : collection[0] ≤ x)
    : ∃ range : Nat,
        DataImpl.notFound minIndex maxIndex currentIndex = some (range : Int)
        ∧ IsFloor collection x range := by
  have near := probing.near
  have bounded := probing.bounded
  have nonneg : 0 ≤ maxIndex := by
    by_contra negative
    have greater := probing.above 0 several (by omega)
    omega
  have inside : maxIndex.toNat < collection.length := by omega
  refine ⟨maxIndex.toNat, ?_, inside, ?_, ?_⟩
  · cases currentIndex with
    | none => exact absurd (probing.probed.1 rfl) empty
    | some probe =>
        have next := probing.probed.2 probe rfl
        unfold DataImpl.notFound
        dsimp only
        split
        · rw [Option.some.injEq]
          omega
        · rw [if_pos (by omega), Option.some.injEq]
          omega
  · exact Int.le_of_lt (probing.below _ inside (by omega))
  · exact fun j bound after => probing.above j bound (by omega)

/-- By induction on the search: the floor stays between its two bounds. -/
theorem binarySearch_floor {collection : List Int} (sorted : collection.Pairwise (· < ·))
    {x : Int} (several : 0 < collection.length) (first : collection[0] ≤ x)
    {minIndex maxIndex : Int} {currentIndex : Option Int}
    (probing : Probing collection x minIndex maxIndex currentIndex)
    : ∃ range : Nat,
        DataImpl.binarySearch collection x minIndex maxIndex currentIndex = some (range : Int)
        ∧ IsFloor collection x range := by
  induction minIndex, maxIndex, currentIndex
      using DataImpl.binarySearch.induct collection x with
  | case1 minIndex maxIndex currentIndex some' middle outside =>
      have nonneg := probing.nonneg
      have bounded := probing.bounded
      have beyond := List.getElem?_eq_none_iff.mp outside
      have middle_eq : middle = (minIndex + maxIndex) / 2 := rfl
      omega
  | case2 minIndex maxIndex currentIndex some' middle element found less ih =>
      have nonneg := probing.nonneg
      have middle_eq : middle = (minIndex + maxIndex) / 2 := rfl
      obtain ⟨inside, value⟩ := List.getElem?_eq_some_iff.mp found
      have next : Probing collection x (middle + 1) maxIndex (some middle) := by
        refine ⟨by omega, by omega, probing.bounded, ?_, probing.above,
          fun same => absurd same (Option.some_ne_none _), ?_⟩
        · intro j bound before
          rcases Nat.lt_or_eq_of_le (show j ≤ middle.toNat by omega) with earlier | rfl
          · have order := sorted_lt sorted earlier inside
            omega
          · omega
        · intro probe same
          cases same
          exact .inl (by omega)
      rw [DataImpl.binarySearch, if_pos some']
      dsimp only
      rw [found]
      dsimp only
      rw [if_pos less]
      exact ih next
  | case3 minIndex maxIndex currentIndex some' middle element found notLess greater ih =>
      have nonneg := probing.nonneg
      have bounded := probing.bounded
      have middle_eq : middle = (minIndex + maxIndex) / 2 := rfl
      obtain ⟨inside, value⟩ := List.getElem?_eq_some_iff.mp found
      have next : Probing collection x minIndex (middle - 1) (some middle) := by
        refine ⟨nonneg, by omega, by omega, probing.below, ?_,
          fun same => absurd same (Option.some_ne_none _), ?_⟩
        · intro j bound after
          rcases Nat.lt_or_eq_of_le (show middle.toNat ≤ j by omega) with later | rfl
          · have order := sorted_lt sorted later bound
            omega
          · omega
        · intro probe same
          cases same
          exact .inr (by omega)
      rw [DataImpl.binarySearch, if_pos some']
      dsimp only
      rw [found]
      dsimp only
      rw [if_neg notLess, if_pos greater]
      exact ih next
  | case4 minIndex maxIndex currentIndex some' middle element found notLess notGreater =>
      have nonneg := probing.nonneg
      have middle_eq : middle = (minIndex + maxIndex) / 2 := rfl
      obtain ⟨inside, value⟩ := List.getElem?_eq_some_iff.mp found
      refine ⟨middle.toNat, ?_, isFloor_of_eq sorted inside (by omega)⟩
      rw [DataImpl.binarySearch, if_pos some']
      dsimp only
      rw [found]
      dsimp only
      rw [if_neg notLess, if_neg notGreater, Option.some.injEq]
      omega
  | case5 minIndex maxIndex currentIndex empty =>
      rw [DataImpl.binarySearch, if_neg empty]
      exact probing.notFound empty several first

/-- The search begins with the whole list. -/
theorem binaryIndexOf_floor {collection : List Int} (sorted : collection.Pairwise (· < ·))
    {x : Int} (several : 0 < collection.length) (first : collection[0] ≤ x)
    : ∃ range : Nat,
        DataImpl.binaryIndexOf collection x = some (range : Int)
        ∧ IsFloor collection x range := by
  apply binarySearch_floor sorted several first
  exact
    ⟨by omega, by omega, by omega, by omega, by omega, by omega,
      fun probe same => absurd same.symm (Option.some_ne_none _)⟩

namespace DataImpl.Holds

variable {data : DataImpl} {converter : Option (Int → Int)} {list : List (Int × HeaderValue)}

/-- The run's value, multiplied as far as the index. -/
theorem computeEntry (holds : data.Holds converter list) {run : Int × HeaderValue}
    (pushed : run ∈ list) (index : Int)
    : data.computeEntry run.1 index = some (HeaderRuns.entryOf converter run index) := by
  unfold DataImpl.computeEntry DataImpl.twipsToPixels HeaderRuns.entryOf
  rw [holds.dataMap run pushed, holds.converter]
  cases converter <;> rfl

/-- The list of starts is the list of runs without their values. -/
theorem getElem?_indexes (holds : data.Holds converter list) (range : Nat)
    : data.indexes[range]? = list[range]?.map Prod.fst := by
  rw [holds.indexes, List.getElem?_map]

end DataImpl.Holds

namespace HeaderRuns

variable {runs : HeaderRuns} {converter : Option (Int → Int)}

/-- The starts of the runs ascend. -/
theorem sorted (runs : HeaderRuns) : (runs.all.map Prod.fst).Pairwise (· < ·) :=
  List.pairwise_map.mpr runs.ascending

/-- An index lies in one run only. -/
theorem Covers.unique {run other : Int × HeaderValue} {index : Int}
    (covers : runs.Covers run index) (covers' : runs.Covers other index)
    : run = other := by
  have same : run.1 = other.1 :=
    Int.le_antisymm (covers'.greatest run covers.pushed covers.le)
      (covers.greatest other covers'.pushed covers'.le)
  have distinct : (runs.all.map Prod.fst).Nodup := runs.sorted.imp Int.ne_of_lt
  exact List.inj_on_of_nodup_map distinct covers.pushed covers'.pushed same

/-- The run at the floor of an index is the one that the index belongs to. -/
theorem covers_of_floor {index : Int} {range : Nat}
    (floor : IsFloor (runs.all.map Prod.fst) index range)
    : ∃ run, runs.all[range]? = some run ∧ runs.Covers run index := by
  have inside : range < runs.all.length := by
    have inside := floor.inside
    rwa [List.length_map] at inside
  refine ⟨runs.all[range], List.getElem?_eq_getElem inside, List.getElem_mem inside, ?_, ?_⟩
  · have le := floor.le
    rwa [List.getElem_map] at le
  · intro other pushed le
    obtain ⟨j, bound, rfl⟩ := List.mem_iff_getElem.mp pushed
    rcases Nat.lt_trichotomy j range with before | rfl | after
    · have order := sorted_lt runs.sorted before floor.inside
      rw [List.getElem_map, List.getElem_map] at order
      exact Int.le_of_lt order
    · exact Int.le_refl _
    · have greater := floor.above j (by rwa [List.length_map]) after
      rw [List.getElem_map] at greater
      omega

/-- An index from 1 to the last has the entry of the run that it belongs to. -/
theorem getEntry_eq {data : DataImpl} (holds : data.Holds converter runs.all) {index : Int}
    (one : 1 ≤ index) (le : index ≤ runs.last) (setCurrentIndex : Bool)
    : ∃ run,
        runs.Covers run index
        ∧ (data.getEntry index setCurrentIndex).1 = some (entryOf converter run index) := by
  have several : 0 < (runs.all.map Prod.fst).length := by
    rw [List.length_map]
    exact Nat.succ_pos _
  obtain ⟨range, found, floor⟩ :=
    @binaryIndexOf_floor _ runs.sorted index several (show (0 : Int) ≤ index by omega)
  obtain ⟨run, at_range, covers⟩ := covers_of_floor floor
  refine ⟨run, covers, ?_⟩
  have inside : ¬ (index < 1 ∨ data.endIndex < index) := by
    have last : data.endIndex = runs.last := holds.endIndex
    omega
  have first : data.getFirstIndexLessOrEqual index = some range := by
    unfold DataImpl.getFirstIndexLessOrEqual
    rw [holds.indexes, found]
    simp
  unfold DataImpl.getEntry
  rw [if_neg inside, first]
  dsimp only
  rw [holds.getElem?_indexes, at_range]
  exact holds.computeEntry covers.pushed index

end HeaderRuns

end NdcOdfWeb.Client
