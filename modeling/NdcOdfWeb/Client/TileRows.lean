import Mathlib.Data.Int.Init
import Mathlib.Data.Set.Defs
import NdcOdfWeb.Client.TileGroups

/-! Which tiles the rectangles of `GridLayer._addTiles` take, row by row: the rectangles from above
cover the tiles inside their bounds, and new ones start with the tiles that are left.
-/

namespace NdcOdfWeb.Client

open NdcOdfWeb.Foundation

-----------------------------------------------------------------------------------------
-- The rectangles over the rows of a queue
-----------------------------------------------------------------------------------------

namespace GridLayer

variable (layer : GridLayer)

/-- A rectangle starts in a row, behind those from above, and may go on below: its last tile is not
in the cache, the tile right of it is not in the queue, and one tile of the row at most lies
further right.
-/
structure Starts (above : Int → Prop) (row : Set TileCoords) (bound : Int) : Prop where
  uncached : ∃ coords ∈ row, coords.x = bound ∧ layer.cached coords = false
  last : ∀ coords ∈ row, coords.x ≠ bound + 1
  behind : ∀ other, above other → other < bound
  oneMore
    : ∀ coords ∈ row, ∀ other ∈ row, bound < coords.x → bound < other.x → coords.x = other.x

/-- A rectangle from above goes on below a row: all tiles of the row are inside its bound, and the
narrower rectangles leave one of them.
-/
structure GoesOn (above : Int → Prop) (row : Set TileCoords) (bound : Int) : Prop where
  fromAbove : above bound
  inside : ∀ coords ∈ row, coords.x ≤ bound
  left : ∃ coords ∈ row, ∀ other, above other → other < bound → other < coords.x

/-- The bounds of the rectangles that may grow into a row, from the rows above it. -/
def Reaches (row : Nat → Set TileCoords) : Nat → Int → Prop
  | 0 => fun _ => False
  | n + 1 => fun bound =>
      layer.Starts (Reaches row n) (row n) bound ∨ GoesOn (Reaches row n) (row n) bound

/-- No rectangle takes a tile of the row that is in the cache: those from above end left of it, and
the tile on its left, if it is not in the cache itself, is taken by one of them.
-/
def Spares (above : Int → Prop) (row : Set TileCoords) : Prop :=
  ∀ coords ∈ row,
    layer.cached coords = true
    → (∀ bound, above bound → bound < coords.x)
      ∧ ∀ other ∈ row,
          other.x + 1 = coords.x
          → layer.cached other = false
          → ∃ bound, above bound ∧ other.x ≤ bound

end GridLayer

/-- The first row of a queue. -/
def topRow (coordsQueue : List TileCoords) : Int :=
  (coordsQueue.map TileCoords.y).min?.getD 0

/-- The tiles of a row, counted from the first one. -/
def tileRow (coordsQueue : List TileCoords) (n : Nat) : Set TileCoords :=
  { coords | coords ∈ coordsQueue ∧ coords.y = topRow coordsQueue + n }

/-- In no row, a rectangle takes a tile that is in the cache. -/
def RowsSpared (layer : GridLayer) (coordsQueue : List TileCoords) : Prop :=
  ∀ n, layer.Spares (layer.Reaches (tileRow coordsQueue) n) (tileRow coordsQueue n)

-----------------------------------------------------------------------------------------
-- A rectangle from above in a row
-----------------------------------------------------------------------------------------

namespace GridLayer

/-- The bound is not extended by tiles of its last row. -/
theorem extend_in_row {bound : Bound} {coords : TileCoords} (at_ : coords.y = bound.y)
    : bound.extend coords = bound := by
  rw [Bound.extend, if_neg]
  simp only [Bool.and_eq_true, decide_eq_true_eq, at_]
  omega

/-- In a row that the rectangle has reached, it takes the tiles inside its bound. -/
theorem closePass_locked {y : Int} {coords : TileCoords} (at_ : coords.y = y) (x : Int)
    (hasHole : Bool)
    : closePass ⟨x, y, true, hasHole⟩ coords
      = if coords.x ≤ x then (.take, ⟨x, y, true, hasHole⟩)
        else (.leave, ⟨x, y, true, true⟩) := by
  have same : Bound.extend ⟨x, y, true, hasHole⟩ coords = ⟨x, y, true, hasHole⟩ :=
    extend_in_row at_
  rw [closePass]
  simp [same, at_]

/-- The rest of the row: by induction on its tiles. -/
theorem scan_locked {y : Int} {row : List TileCoords} (at_ : ∀ coords ∈ row, coords.y = y)
    (x : Int) (hasHole : Bool)
    : scan closePass ⟨x, y, true, hasHole⟩ row
        = (row.filter (·.x ≤ x), row.filter (x < ·.x))
      ∧ scanEnd closePass ⟨x, y, true, hasHole⟩ row
        = some ⟨x, y, true, hasHole || row.any (x < ·.x)⟩ := by
  induction row generalizing hasHole with
  | nil => simp [scan, scanEnd]
  | cons coords rest ih =>
      have pass := closePass_locked (at_ coords List.mem_cons_self) x hasHole
      have ih := ih (fun other member => at_ other (List.mem_cons_of_mem coords member))
      rw [scan, scanEnd, pass]
      by_cases inside : coords.x ≤ x
      · rw [if_pos inside]
        dsimp only
        rw [(ih hasHole).1, (ih hasHole).2]
        simp [inside, Int.not_lt.mpr inside]
      · rw [if_neg inside]
        dsimp only
        rw [(ih true).1, (ih true).2]
        simp [inside, Int.not_le.mp inside]

/-- The bound of a rectangle that may grow into a row. -/
def growing (y : Int) (bound : Bound) : Option Int :=
  if bound.y + 1 = y ∧ bound.hasHole = false then some bound.x else none

/-- At the first tile of the next row, the bound is extended. -/
theorem closePass_extended {y : Int} {bound : Bound} {coords : TileCoords}
    (next : bound.y + 1 = y) (noHole : bound.hasHole = false) (at_ : coords.y = y)
    : closePass bound coords = closePass ⟨bound.x, y, true, false⟩ coords := by
  have extended : bound.extend coords = ⟨bound.x, y, true, false⟩ := by
    rw [Bound.extend, if_pos (by simp [noHole, at_, next]), next, noHole]
  have same : Bound.extend ⟨bound.x, y, true, false⟩ coords = ⟨bound.x, y, true, false⟩ :=
    extend_in_row at_
  rw [closePass, closePass, extended, same]

/-- Any other rectangle from above ends at the first tile of the row. -/
theorem closePass_ended {y : Int} {bound : Bound} {coords : TileCoords} (above : bound.y < y)
    (ended : ¬ (bound.y + 1 = y ∧ bound.hasHole = false)) (at_ : coords.y = y)
    : (closePass bound coords).1 = .stop := by
  have same : bound.extend coords = bound := by
    rw [Bound.extend, if_neg]
    intro extends'
    simp only [Bool.not_eq_true', Bool.and_eq_true, decide_eq_true_eq, at_] at extends'
    exact ended ⟨extends'.2.symm, extends'.1⟩
  rw [closePass, same, if_pos (by rw [at_]; exact above)]

/-- What a rectangle from above takes of a row, what it leaves, and its bound behind the row. By
cases on its first tile: either the bound is extended there, or the rectangle has ended.
-/
theorem scanFrom_row {y : Int} {row : List TileCoords} (at_ : ∀ coords ∈ row, coords.y = y)
    {state : Option Bound} (above : ∀ bound ∈ state, bound.y < y)
    : (scanFrom closePass state row).1
        = row.filter (fun coords => (state.bind (growing y)).any (coords.x ≤ ·))
      ∧ (scanFrom closePass state row).2
        = row.filter (fun coords => (state.bind (growing y)).all (· < coords.x))
      ∧ (∀ bound ∈ state.bind (scanEnd closePass · row), bound.y < y + 1)
      ∧ (state.bind (scanEnd closePass · row)).bind (growing (y + 1))
        = (state.bind (growing y)).filter (fun x => row ≠ [] ∧ ∀ coords ∈ row, coords.x ≤ x) := by
  cases state with
  | none => simp [scanFrom]
  | some bound =>
      have above : bound.y < y := above bound rfl
      cases row with
      | nil =>
          have ended : growing (y + 1) bound = none :=
            if_neg (fun grows => Int.ne_of_lt above (by omega))
          refine ⟨rfl, rfl, ?_, ?_⟩
          · intro other same
            cases same
            exact Int.lt_trans above (Int.lt_succ y)
          · simp [scanEnd, ended]
      | cons coords rest =>
          have first : coords.y = y := at_ coords List.mem_cons_self
          by_cases grows : bound.y + 1 = y ∧ bound.hasHole = false
          · have extended := closePass_extended grows.1 grows.2 first
            have scanned : scan closePass bound (coords :: rest)
                = scan closePass ⟨bound.x, y, true, false⟩ (coords :: rest) := by
              rw [scan, scan, extended]
            have ends : scanEnd closePass bound (coords :: rest)
                = scanEnd closePass ⟨bound.x, y, true, false⟩ (coords :: rest) := by
              rw [scanEnd, scanEnd, extended]
            obtain ⟨taken, ended⟩ := scan_locked at_ bound.x false
            have into : growing y bound = some bound.x := if_pos grows
            rw [Option.bind_some, Option.bind_some, ends, ended, scanFrom, scanned, taken, into]
            refine ⟨rfl, rfl, ?_, ?_⟩
            · intro other same
              cases same
              exact Int.lt_succ y
            · simp only [Option.bind_some, growing, Bool.false_or]
              by_cases inside : ∀ other ∈ coords :: rest, other.x ≤ bound.x
              · have noHole : (coords :: rest).any (bound.x < ·.x) = false := by
                  rw [List.any_eq_false]
                  intro other member
                  simpa using inside other member
                rw [noHole, if_pos ⟨trivial, rfl⟩]
                simp only [Option.filter_some]
                rw [if_pos (decide_eq_true ⟨List.cons_ne_nil _ _, inside⟩)]
              · have hole : (coords :: rest).any (bound.x < ·.x) = true := by
                  simp only [not_forall, Int.not_le] at inside
                  obtain ⟨other, member, outside⟩ := inside
                  exact List.any_eq_true.mpr ⟨other, member, decide_eq_true outside⟩
                rw [hole, if_neg (fun grows => Bool.noConfusion grows.2)]
                simp only [Option.filter_some]
                rw [if_neg (by simp only [decide_eq_true_eq]; exact fun all => inside all.2)]
          · have stops := closePass_ended above grows first
            have ended : growing y bound = none := if_neg grows
            rcases decided : closePass bound coords with ⟨decision, next⟩
            rw [decided] at stops
            cases stops
            simp [scanFrom, scan, scanEnd, decided, ended]

/-- The bounds of the rectangles that may grow into a row. -/
def bounds (y : Int) (states : List (Option Bound)) : List Int :=
  states.filterMap (·.bind (growing y))

/-- The bounds that are left behind a row: each rectangle covers what the others left for it. -/
def lasting : List Int → List TileCoords → List Int
  | [], _ => []
  | x :: bounds, row =>
      (if row ≠ [] ∧ ∀ coords ∈ row, coords.x ≤ x then [x] else [])
        ++ lasting bounds (row.filter (x < ·.x))

/-- What is left of a row by the rectangles from above. -/
def leftIn (bounds : List Int) (row : List TileCoords) : List TileCoords :=
  row.filter (fun coords => bounds.all (· < coords.x))

/-- One more rectangle adds its bound, if it may grow into the row. -/
theorem bounds_cons (y : Int) (state : Option Bound) (states : List (Option Bound))
    : bounds y (state :: states) = (state.bind (growing y)).toList ++ bounds y states := by
  rw [bounds, List.filterMap_cons]
  cases state.bind (growing y) <;> rfl

/-- One more bound lasts on its own, and covers its part of the row before the others. -/
theorem lasting_toList (bound : Option Int) (bounds : List Int) (row : List TileCoords)
    : lasting (bound.toList ++ bounds) row
      = (bound.filter (fun x => row ≠ [] ∧ ∀ coords ∈ row, coords.x ≤ x)).toList
        ++ lasting bounds (row.filter (fun coords => bound.all (· < coords.x))) := by
  cases bound with
  | none => simp
  | some x =>
      rw [Option.toList_some, List.singleton_append, lasting, Option.filter_some]
      by_cases all : row ≠ [] ∧ ∀ coords ∈ row, coords.x ≤ x
      · rw [if_pos all, if_pos (decide_eq_true all)]
        rfl
      · rw [if_neg all, if_neg (by rwa [decide_eq_true_eq])]
        rfl

/-- The rectangles from above take the tiles inside a bound and leave the others. By induction on
the rectangles, which cover the row one after the other.
-/
theorem scans_row {y : Int} {row : List TileCoords} (at_ : ∀ coords ∈ row, coords.y = y)
    {states : List (Option Bound)}
    (above : ∀ state ∈ states, ∀ bound ∈ state, Bound.y bound < y)
    : (∀ coords,
        coords ∈ (scans closePass states row).1
        ↔ coords ∈ row ∧ ∃ x ∈ bounds y states, coords.x ≤ x)
      ∧ (scans closePass states row).2 = leftIn (bounds y states) row
      ∧ (∀ state ∈ scansEnd closePass states row, ∀ bound ∈ state, Bound.y bound < y + 1)
      ∧ bounds (y + 1) (scansEnd closePass states row) = lasting (bounds y states) row := by
  induction states generalizing row with
  | nil => simp [scans, scansEnd, bounds, lasting, leftIn]
  | cons state states ih =>
      obtain ⟨taken, left, below, last⟩ := scanFrom_row at_ (above state List.mem_cons_self)
      have at' : ∀ coords ∈ (scanFrom closePass state row).2, coords.y = y := by
        rw [left]
        exact fun coords member => at_ coords (List.mem_filter.mp member).1
      obtain ⟨taken', left', below', last'⟩ := ih at'
        (fun other member => above other (List.mem_cons_of_mem state member))
      rw [bounds_cons, scans_cons, scansEnd]
      refine ⟨?_, ?_, List.forall_mem_cons.mpr ⟨below, below'⟩, ?_⟩
      · intro coords
        rw [List.mem_append, taken', taken, left, List.mem_filter, List.mem_filter]
        cases state.bind (growing y) with
        | none => simp
        | some x =>
            simp only [Option.any_some, Option.all_some, Option.toList_some,
              List.singleton_append, List.mem_cons, exists_eq_or_imp, decide_eq_true_eq]
            have apart := le_or_gt coords.x x
            tauto
      · rw [left', left, leftIn, leftIn, List.filter_filter]
        cases state.bind (growing y) with
        | none => simp
        | some x => simp [Bool.and_comm]
      · rw [bounds_cons, last, last', left, lasting_toList]

/-- The bounds that last are some of those that were there. By induction on the bounds. -/
theorem lasting_sublist (bounds : List Int) (row : List TileCoords)
    : (lasting bounds row).Sublist bounds := by
  induction bounds generalizing row with
  | nil => exact .refl _
  | cons x bounds ih =>
      rw [lasting]
      split
      · exact (ih _).cons_cons x
      · exact (ih _).cons x

/-- A bound lasts if all tiles are inside it, and the narrower ones have left one of them. By
induction on the bounds, the narrowest first.
-/
theorem mem_lasting {bounds : List Int} (sorted : bounds.Pairwise (· < ·))
    (row : List TileCoords) (x : Int)
    : x ∈ lasting bounds row
      ↔ x ∈ bounds
        ∧ (∀ coords ∈ row, coords.x ≤ x)
        ∧ ∃ coords ∈ row, ∀ other ∈ bounds, other < x → other < coords.x := by
  induction bounds generalizing row with
  | nil => simp [lasting]
  | cons first bounds ih =>
      obtain ⟨least, sorted⟩ := List.pairwise_cons.mp sorted
      rw [lasting, List.mem_append, ih sorted]
      constructor
      · rintro (here | ⟨member, inside, coords, left, narrower⟩)
        · split at here
          · next all =>
              cases List.mem_singleton.mp here
              obtain ⟨coords, member⟩ := List.exists_mem_of_ne_nil row all.1
              refine ⟨List.mem_cons_self, all.2, coords, member, ?_⟩
              intro other otherMember less
              rcases List.mem_cons.mp otherMember with rfl | later
              · exact absurd less (Int.lt_irrefl _)
              · exact absurd (Int.lt_trans less (least other later)) (Int.lt_irrefl _)
          · exact absurd here List.not_mem_nil
        · have wider := least x member
          obtain ⟨left, outside⟩ := List.mem_filter.mp left
          have outside := of_decide_eq_true outside
          refine ⟨List.mem_cons_of_mem first member, ?_, coords, left, ?_⟩
          · intro other otherMember
            rcases lt_or_ge first other.x with beyond | before
            · exact inside other (List.mem_filter.mpr ⟨otherMember, decide_eq_true beyond⟩)
            · exact Int.le_trans before (Int.le_of_lt wider)
          · exact List.forall_mem_cons.mpr ⟨fun _ => outside, narrower⟩
      · rintro ⟨member, inside, coords, left, narrower⟩
        rcases List.mem_cons.mp member with rfl | later
        · rw [if_pos ⟨List.ne_nil_of_mem left, inside⟩]
          exact .inl (List.mem_singleton.mpr rfl)
        · obtain ⟨beyond, narrower⟩ := List.forall_mem_cons.mp narrower
          refine .inr ⟨later, fun other member => inside other (List.mem_filter.mp member).1,
            coords, List.mem_filter.mpr ⟨left, decide_eq_true (beyond (least x later))⟩,
            narrower⟩

-----------------------------------------------------------------------------------------
-- The rectangles that start in a row
-----------------------------------------------------------------------------------------

variable (layer : GridLayer)

/-- The tiles of a row, or what is left of them: of the selected part, and from the left to the
right.
-/
structure IsRow (y : Int) (row : List TileCoords) : Prop where
  at_ : ∀ coords ∈ row, coords.y = y
  sorted : row.Pairwise (·.x < ·.x)
  selected : ∀ coords ∈ row, layer.ignores coords = layer.cached coords

variable {layer}

/-- What is left of a row is as well ordered as the row. -/
theorem IsRow.sublist {y : Int} {row less : List TileCoords} (isRow : layer.IsRow y row)
    (sublist : less.Sublist row)
    : layer.IsRow y less where
  at_ coords member := isRow.at_ coords (sublist.subset member)
  sorted := isRow.sorted.sublist sublist
  selected coords member := isRow.selected coords (sublist.subset member)

/-- A run right of a column, up to the last one before a gap. -/
structure IsRun (x : Int) (run left : List TileCoords) (last : Int) : Prop where
  bound : x ≤ last
  right : ∀ coords ∈ run, x < coords.x
  inside : ∀ coords ∈ run, coords.x ≤ last
  covered : ∀ z, x < z → z ≤ last → ∃ coords ∈ run, coords.x = z
  outside : ∀ coords ∈ left, last + 1 < coords.x

/-- What a new rectangle takes of its row: the tiles up to the first gap, at which its bound is
final. By induction on the tiles right of the bound; behind the gap, the row is locked.
-/
theorem scan_open {y x : Int} {row : List TileCoords} (at_ : ∀ coords ∈ row, coords.y = y)
    (sorted : row.Pairwise (·.x < ·.x)) (right : ∀ coords ∈ row, x < coords.x)
    : ∃ run left last rowLocked,
        row = run ++ left
        ∧ scan closePass ⟨x, y, false, false⟩ row = (run, left)
        ∧ scanEnd closePass ⟨x, y, false, false⟩ row
          = some ⟨last, y, rowLocked, 2 ≤ left.length⟩
        ∧ IsRun x run left last := by
  induction row generalizing x with
  | nil =>
      refine ⟨[], [], x, false, rfl, rfl, rfl, Int.le_refl x, List.forall_mem_nil _,
        List.forall_mem_nil _, ?_, List.forall_mem_nil _⟩
      exact fun z less le => absurd (Int.lt_of_lt_of_le less le) (Int.lt_irrefl x)
  | cons coords rest ih =>
      have first : coords.y = y := at_ coords List.mem_cons_self
      have at' : ∀ other ∈ rest, other.y = y := fun other member =>
        at_ other (List.mem_cons_of_mem coords member)
      obtain ⟨later, sorted⟩ := List.pairwise_cons.mp sorted
      have beyond : x < coords.x := right coords List.mem_cons_self
      have same : Bound.extend ⟨x, y, false, false⟩ coords = ⟨x, y, false, false⟩ :=
        extend_in_row first
      by_cases next : coords.x = x + 1
      · have taken : closePass ⟨x, y, false, false⟩ coords
            = (.take, ⟨x + 1, y, false, false⟩) := by
          simp [closePass, same, first, next]
        obtain ⟨run, left, last, rowLocked, split, scanned, ended, isRun⟩ :=
          ih at' sorted (fun other member => next ▸ later other member)
        have bound := isRun.bound
        refine ⟨coords :: run, left, last, rowLocked, ?_, ?_, ?_, ?_⟩
        · rw [split, List.cons_append]
        · rw [scan, taken]
          dsimp only
          rw [scanned]
        · rw [scanEnd, taken]
          exact ended
        · constructor
          · omega
          · exact List.forall_mem_cons.mpr
              ⟨beyond, fun other member => Int.lt_trans (Int.lt_succ x) (isRun.right other member)⟩
          · exact List.forall_mem_cons.mpr ⟨by omega, isRun.inside⟩
          · intro z less le
            by_cases here : z = x + 1
            · exact ⟨coords, List.mem_cons_self, next.trans here.symm⟩
            · obtain ⟨other, member, at_⟩ := isRun.covered z (by omega) le
              exact ⟨other, List.mem_cons_of_mem coords member, at_⟩
          · exact isRun.outside
      · have gap : closePass ⟨x, y, false, false⟩ coords = (.leave, ⟨x, y, true, false⟩) := by
          simp [closePass, same, first, next]
        obtain ⟨taken, ended⟩ := scan_locked at' x false
        have outside : ∀ other ∈ rest, x < other.x := fun other member =>
          Int.lt_trans beyond (later other member)
        have nothing : rest.filter (·.x ≤ x) = [] := by
          rw [List.filter_eq_nil_iff]
          intro other member
          simpa using outside other member
        have all : rest.filter (x < ·.x) = rest := by
          rw [List.filter_eq_self]
          exact fun other member => decide_eq_true (outside other member)
        refine ⟨[], coords :: rest, x, true, rfl, ?_, ?_, Int.le_refl x, List.forall_mem_nil _,
          List.forall_mem_nil _, ?_, ?_⟩
        · rw [scan, gap]
          dsimp only
          rw [taken, nothing, all]
        · rw [scanEnd, gap]
          dsimp only
          rw [ended, Bool.false_or]
          cases rest with
          | nil => rfl
          | cons other rest =>
              have hole : (other :: rest).any (x < ·.x) = true :=
                List.any_eq_true.mpr
                  ⟨other, List.mem_cons_self, decide_eq_true (outside other List.mem_cons_self)⟩
              rw [hole]
              simp
        · exact fun z less le => absurd (Int.lt_of_lt_of_le less le) (Int.lt_irrefl x)
        · refine List.forall_mem_cons.mpr ⟨by omega, ?_⟩
          intro other member
          have further := later other member
          omega

/-- No tile that is in the cache is right of one that is not. -/
def Separate (layer : GridLayer) (row : Set TileCoords) : Prop :=
  ∀ coords ∈ row,
    layer.cached coords = true
    → ∀ other ∈ row, other.x + 1 = coords.x → layer.cached other = true

/-- The first rectangle of a row: it takes a run, and the others are left with what is behind the
gap.
-/
theorem scan_first {y : Int} {first : TileCoords} {rest : List TileCoords}
    (isRow : layer.IsRow y (first :: rest))
    : ∃ run left last rowLocked,
        rest = run ++ left
        ∧ scan closePass (Bound.of first) rest = (run, left)
        ∧ scanEnd closePass (Bound.of first) rest = some ⟨last, y, rowLocked, 2 ≤ left.length⟩
        ∧ IsRun first.x run left last
        ∧ layer.IsRow y left := by
  obtain ⟨later, sorted⟩ := List.pairwise_cons.mp isRow.sorted
  obtain ⟨run, left, last, rowLocked, split, scanned, ended, isRun⟩ :=
    scan_open (fun coords member => isRow.at_ coords (List.mem_cons_of_mem first member)) sorted
      later
  have start : Bound.of first = ⟨first.x, y, false, false⟩ := by
    rw [Bound.of, isRow.at_ first List.mem_cons_self]
  refine ⟨run, left, last, rowLocked, split, start ▸ scanned, start ▸ ended, isRun, ?_⟩
  rw [split] at isRow
  exact isRow.sublist ((List.sublist_append_right run left).cons first)

/-- A tile of the row behind the bound is not in the run. -/
theorem IsRun.mem_left {first coords : TileCoords} {run left : List TileCoords} {last : Int}
    (isRun : IsRun first.x run left last) (member : coords ∈ first :: (run ++ left))
    (further : last < coords.x)
    : coords ∈ left := by
  rcases List.mem_cons.mp member with rfl | member
  · exact absurd (Int.lt_of_le_of_lt isRun.bound further) (Int.lt_irrefl _)
  · rcases List.mem_append.mp member with inRun | inLeft
    · exact absurd (Int.lt_of_le_of_lt (isRun.inside coords inRun) further) (Int.lt_irrefl _)
    · exact inLeft

/-- The tile at a column from the first tile to the bound. -/
theorem IsRun.tileAt {first : TileCoords} {run left : List TileCoords} {last z : Int}
    (isRun : IsRun first.x run left last) (from_ : first.x ≤ z) (le : z ≤ last)
    : ∃ coords ∈ first :: run, coords.x = z := by
  by_cases here : z = first.x
  · exact ⟨first, List.mem_cons_self, here.symm⟩
  · obtain ⟨coords, member, at_⟩ := isRun.covered z (by omega) le
    exact ⟨coords, List.mem_cons_of_mem first member, at_⟩

/-- In a separate row, the tiles of a run are not in the cache if the first one is not. By
induction on the columns.
-/
theorem IsRun.uncached {first : TileCoords} {run left : List TileCoords} {last : Int}
    (isRun : IsRun first.x run left last) (uncached : layer.cached first = false)
    (separate : layer.Separate { coords | coords ∈ first :: (run ++ left) })
    : ∀ coords ∈ first :: run, layer.cached coords = false := by
  have inRow : ∀ coords ∈ first :: run, coords ∈ first :: (run ++ left) := by
    rw [← List.cons_append]
    exact fun coords member => List.mem_append_left left member
  have atColumn (z : Int) (from_ : first.x ≤ z)
      : z ≤ last → ∀ coords ∈ first :: run, coords.x = z → layer.cached coords = false := by
    induction z, from_ using Int.leInduction with
    | base =>
        intro _ coords member at_
        rcases List.mem_cons.mp member with rfl | later
        · exact uncached
        · exact absurd at_ (Int.ne_of_gt (isRun.right coords later))
    | succ z from_ ih =>
        intro le coords member at_
        obtain ⟨other, otherMember, otherAt⟩ := isRun.tileAt from_ (by omega)
        by_contra cached
        rw [Bool.not_eq_false] at cached
        have both := separate coords (inRow coords member) cached other (inRow other otherMember)
          (by omega)
        rw [ih (by omega) other otherMember otherAt] at both
        cases both
  intro coords member
  rcases List.mem_cons.mp member with rfl | inRun
  · exact uncached
  · exact atColumn coords.x (Int.le_of_lt (isRun.right coords inRun)) (isRun.inside coords inRun)
      coords member rfl

/-- The new rectangles of a row take no tile that is in the cache if and only if the row is
separate. By induction on the rectangles: each takes a run, and leaves what is behind the gap.
-/
theorem groups_row {y : Int} {row : List TileCoords} (isRow : layer.IsRow y row)
    : (∀ coords ∈ (groups closePass Bound.of layer.ignores row).flatten,
        layer.cached coords = false)
      ↔ layer.Separate { coords | coords ∈ row } := by
  fun_induction groups closePass Bound.of layer.ignores row with
  | case1 =>
      exact iff_of_true (fun _ member => absurd member List.not_mem_nil)
        (fun _ member => absurd member List.not_mem_nil)
  | case2 first rest dropped ih =>
      obtain ⟨later, -⟩ := List.pairwise_cons.mp isRow.sorted
      rw [isRow.selected first List.mem_cons_self] at dropped
      rw [ih (isRow.sublist (List.sublist_cons_self first rest))]
      constructor
      · intro separate coords member cached other otherMember next
        rcases List.mem_cons.mp otherMember with rfl | otherLater
        · exact dropped
        · rcases List.mem_cons.mp member with rfl | memberLater
          · have less := later other otherLater
            omega
          · exact separate coords memberLater cached other otherLater next
      · exact fun separate coords member cached other otherMember =>
          separate coords (List.mem_cons_of_mem first member) cached other
            (List.mem_cons_of_mem first otherMember)
  | case3 first rest kept ih =>
      rw [isRow.selected first List.mem_cons_self, Bool.not_eq_true] at kept
      obtain ⟨run, left, last, rowLocked, rfl, scanned, -, isRun, isRow'⟩ := scan_first isRow
      rw [scanned] at ih ⊢
      rw [List.flatten_cons, List.forall_mem_append, ih isRow']
      have sub {coords : TileCoords} (member : coords ∈ left)
          : coords ∈ first :: (run ++ left) :=
        List.mem_cons_of_mem first (List.mem_append_right run member)
      constructor
      · rintro ⟨uncached, separate⟩ coords member cached other otherMember next
        have memberLeft : coords ∈ left := by
          have member : coords ∈ (first :: run) ++ left := member
          rcases List.mem_append.mp member with inRun | inLeft
          · rw [uncached coords inRun] at cached
            cases cached
          · exact inLeft
        have further := isRun.outside coords memberLeft
        have otherLeft := isRun.mem_left otherMember (by omega)
        exact separate coords memberLeft cached other otherLeft next
      · exact fun separate =>
          ⟨isRun.uncached kept separate, fun coords member cached other otherMember =>
            separate coords (sub member) cached other (sub otherMember)⟩

/-- The bound of the first rectangle of a row, if it may go on below. -/
theorem bounds_first (y last : Int) (rowLocked : Bool) (left : List TileCoords)
    (states : List (Option Bound))
    : bounds (y + 1) (some ⟨last, y, rowLocked, 2 ≤ left.length⟩ :: states)
      = if left.length < 2 then last :: bounds (y + 1) states else bounds (y + 1) states := by
  rw [bounds_cons, Option.bind_some, growing]
  by_cases short : left.length < 2
  · rw [if_pos ⟨rfl, decide_eq_false (Nat.not_le.mpr short)⟩, if_pos short]
    rfl
  · rw [if_neg (fun grows => short (Nat.not_le.mp (of_decide_eq_false grows.2))), if_neg short]
    rfl

/-- The rectangles of a row end in it, each right of a tile of the row and left of the next ones.
By induction on the rectangles.
-/
theorem groupsEnd_row {y : Int} {row : List TileCoords} (isRow : layer.IsRow y row)
    : (∀ state ∈ groupsEnd closePass Bound.of layer.ignores row,
        ∀ bound ∈ state, Bound.y bound < y + 1)
      ∧ (∀ x ∈ bounds (y + 1) (groupsEnd closePass Bound.of layer.ignores row),
          ∃ coords ∈ row, coords.x ≤ x)
      ∧ (bounds (y + 1) (groupsEnd closePass Bound.of layer.ignores row)).Pairwise (· < ·) := by
  fun_induction groupsEnd closePass Bound.of layer.ignores row with
  | case1 => simp [bounds]
  | case2 first rest dropped ih =>
      obtain ⟨below, right, sorted⟩ := ih (isRow.sublist (List.sublist_cons_self first rest))
      refine ⟨below, ?_, sorted⟩
      intro x member
      obtain ⟨coords, inRest, le⟩ := right x member
      exact ⟨coords, List.mem_cons_of_mem first inRest, le⟩
  | case3 first rest kept ih =>
      obtain ⟨run, left, last, rowLocked, rfl, scanned, ended, isRun, isRow'⟩ := scan_first isRow
      rw [scanned] at ih ⊢
      obtain ⟨below, right, sorted⟩ := ih isRow'
      have right' : ∀ x ∈ bounds (y + 1) (groupsEnd closePass Bound.of layer.ignores left),
          last < x := by
        intro x member
        obtain ⟨coords, inLeft, le⟩ := right x member
        have further := isRun.outside coords inLeft
        omega
      rw [ended, bounds_first]
      refine ⟨List.forall_mem_cons.mpr ⟨?_, below⟩, ?_, ?_⟩
      · intro bound same
        cases same
        exact Int.lt_succ y
      · intro x member
        have le : last ≤ x := by
          split at member
          · rcases List.mem_cons.mp member with rfl | later
            · exact Int.le_refl x
            · exact Int.le_of_lt (right' x later)
          · exact Int.le_of_lt (right' x member)
        exact ⟨first, List.mem_cons_self, Int.le_trans isRun.bound le⟩
      · split
        · exact List.pairwise_cons.mpr ⟨right', sorted⟩
        · exact sorted

/-- The rectangles of a separate row that may go on below. By induction on the rectangles. -/
theorem mem_bounds_groupsEnd {y : Int} {row : List TileCoords} (isRow : layer.IsRow y row)
    (separate : layer.Separate { coords | coords ∈ row }) (x : Int)
    : x ∈ bounds (y + 1) (groupsEnd closePass Bound.of layer.ignores row)
      ↔ layer.Starts (fun _ => False) { coords | coords ∈ row } x := by
  fun_induction groupsEnd closePass Bound.of layer.ignores row with
  | case1 =>
      refine iff_of_false List.not_mem_nil (fun starts => ?_)
      obtain ⟨coords, member, -⟩ := starts.uncached
      exact List.not_mem_nil member
  | case2 first rest dropped ih =>
      obtain ⟨later, -⟩ := List.pairwise_cons.mp isRow.sorted
      rw [isRow.selected first List.mem_cons_self] at dropped
      have separate' : layer.Separate { coords | coords ∈ rest } :=
        fun coords member cached other otherMember =>
          separate coords (List.mem_cons_of_mem first member) cached other
            (List.mem_cons_of_mem first otherMember)
      rw [ih (isRow.sublist (List.sublist_cons_self first rest)) separate']
      constructor
      · rintro ⟨⟨coords, member, at_, uncached⟩, gap, -, oneMore⟩
        have further := later coords member
        refine ⟨⟨coords, List.mem_cons_of_mem first member, at_, uncached⟩, ?_, nofun, ?_⟩
        · exact List.forall_mem_cons.mpr ⟨by omega, gap⟩
        · exact List.forall_mem_cons.mpr ⟨fun _ _ less => by omega,
            fun other member => List.forall_mem_cons.mpr ⟨fun _ less => by omega,
              oneMore other member⟩⟩
      · rintro ⟨⟨coords, member, at_, uncached⟩, gap, -, oneMore⟩
        have inRest : coords ∈ rest := by
          rcases List.mem_cons.mp member with rfl | inRest
          · rw [dropped] at uncached
            cases uncached
          · exact inRest
        exact ⟨⟨coords, inRest, at_, uncached⟩,
          fun other member => gap other (List.mem_cons_of_mem first member), nofun,
          fun other member another anotherMember =>
            oneMore other (List.mem_cons_of_mem first member) another
              (List.mem_cons_of_mem first anotherMember)⟩
  | case3 first rest kept ih =>
      rw [isRow.selected first List.mem_cons_self, Bool.not_eq_true] at kept
      obtain ⟨run, left, last, rowLocked, rfl, scanned, ended, isRun, isRow'⟩ := scan_first isRow
      have sub {coords : TileCoords} (member : coords ∈ left)
          : coords ∈ first :: (run ++ left) :=
        List.mem_cons_of_mem first (List.mem_append_right run member)
      have separate' : layer.Separate { coords | coords ∈ left } :=
        fun coords member cached other otherMember =>
          separate coords (sub member) cached other (sub otherMember)
      have runUncached := isRun.uncached kept separate
      rw [scanned] at ih ⊢
      rw [ended, bounds_first]
      have split' : x ∈ (if left.length < 2
            then last :: bounds (y + 1) (groupsEnd closePass Bound.of layer.ignores left)
            else bounds (y + 1) (groupsEnd closePass Bound.of layer.ignores left))
          ↔ (x = last ∧ left.length < 2)
            ∨ layer.Starts (fun _ => False) { coords | coords ∈ left } x := by
        rw [← ih isRow' separate']
        split
        · next short => simp [short]
        · next long => simp [long]
      rw [split']
      constructor
      · rintro (⟨rfl, short⟩ | ⟨⟨coords, member, at_, uncached⟩, gap, -, oneMore⟩)
        · obtain ⟨coords, member, at_⟩ := isRun.tileAt isRun.bound (Int.le_refl x)
          have inRow : coords ∈ first :: (run ++ left) := by
            rw [← List.cons_append]
            exact List.mem_append_left left member
          refine ⟨⟨coords, inRow, at_, runUncached coords member⟩, ?_, nofun, ?_⟩
          · intro other otherMember next
            have further := isRun.outside other (isRun.mem_left otherMember (by omega))
            omega
          · intro other otherMember another anotherMember less less'
            have one := isRun.mem_left otherMember less
            have two := isRun.mem_left anotherMember less'
            match left, short, one, two with
            | [only], _, one, two =>
                rw [List.mem_singleton.mp one, List.mem_singleton.mp two]
        · have further := isRun.outside coords member
          refine ⟨⟨coords, sub member, at_, uncached⟩, ?_, nofun, ?_⟩
          · exact fun other otherMember next =>
              gap other (isRun.mem_left otherMember (by omega)) next
          · exact fun other otherMember another anotherMember less less' =>
              oneMore other (isRun.mem_left otherMember (by omega)) another
                (isRun.mem_left anotherMember (by omega)) less less'
      · rintro ⟨⟨coords, member, at_, uncached⟩, gap, -, oneMore⟩
        rcases Int.lt_or_le last x with further | le
        · refine .inr ⟨⟨coords, isRun.mem_left member (by omega), at_, uncached⟩, ?_, nofun, ?_⟩
          · exact fun other otherMember => gap other (sub otherMember)
          · exact fun other otherMember another anotherMember =>
              oneMore other (sub otherMember) another (sub anotherMember)
        · have from_ : first.x ≤ x := by
            rcases List.mem_cons.mp member with rfl | later
            · exact Int.le_of_eq at_
            · have further := (List.pairwise_cons.mp isRow.sorted).1 coords later
              omega
          have same : x = last := by
            by_contra differs
            obtain ⟨other, otherMember, next⟩ :=
              isRun.tileAt (by omega : first.x ≤ x + 1) (by omega)
            have inRow : other ∈ (first :: run) ++ left := List.mem_append_left left otherMember
            exact gap other inRow next
          refine .inl ⟨same, ?_⟩
          by_contra long
          rcases left with _ | ⟨one, _ | ⟨two, others⟩⟩
          · exact long (by simp)
          · exact long (by simp)
          · have apart := (List.pairwise_cons.mp isRow'.sorted).1 two List.mem_cons_self
            have further := isRun.outside one List.mem_cons_self
            have equal := oneMore one (sub List.mem_cons_self) two
              (sub (List.mem_cons_of_mem one List.mem_cons_self)) (by omega) (by omega)
            omega

-----------------------------------------------------------------------------------------
-- From row to row
-----------------------------------------------------------------------------------------

/-- The scans of the rectangles above a row, and the bounds of those that may grow into it. -/
structure RowState (y : Int) (states : List (Option Bound)) (above : Int → Prop) : Prop where
  below : ∀ state ∈ states, ∀ bound ∈ state, Bound.y bound < y
  sorted : (bounds y states).Pairwise (· < ·)
  mem_iff : ∀ x, x ∈ bounds y states ↔ above x

/-- What is left is right of every bound. -/
theorem mem_leftIn {bounds : List Int} {row : List TileCoords} {coords : TileCoords}
    : coords ∈ leftIn bounds row ↔ coords ∈ row ∧ ∀ x ∈ bounds, x < coords.x := by
  simp [leftIn]

/-- What the rectangles from above leave is a row again. -/
theorem leftIn_isRow {y : Int} {row : List TileCoords} (isRow : layer.IsRow y row)
    (bounds : List Int)
    : layer.IsRow y (leftIn bounds row) :=
  isRow.sublist List.filter_sublist

/-- What the rectangles from above leave is separate if the tiles in the cache are spared. -/
theorem separate_leftIn {bounds : List Int} {row : List TileCoords}
    (spares : layer.Spares (· ∈ bounds) { coords | coords ∈ row })
    : layer.Separate { coords | coords ∈ leftIn bounds row } := by
  intro coords member cached other otherMember next
  by_contra uncached
  rw [Bool.not_eq_true] at uncached
  obtain ⟨otherInRow, outside⟩ := mem_leftIn.mp otherMember
  obtain ⟨x, above, inside⟩ := (spares coords (mem_leftIn.mp member).1 cached).2 other otherInRow
    next uncached
  exact absurd (outside x above) (Int.not_lt.mpr inside)

/-- No tile of a row that is in the cache is taken if and only if the row spares them. -/
theorem inGroups_row {y : Int} {states : List (Option Bound)} {above : Int → Prop}
    {row : List TileCoords} (state : RowState y states above) (isRow : layer.IsRow y row)
    : (∀ coords, InGroups closePass Bound.of layer.ignores states row coords
        → layer.cached coords = false)
      ↔ layer.Spares above { coords | coords ∈ row } := by
  obtain rfl : (· ∈ bounds y states) = above := funext (fun x => propext (state.mem_iff x))
  obtain ⟨taken, left, -, -⟩ := scans_row isRow.at_ state.below
  simp only [InGroups, left, taken]
  constructor
  · intro uncached coords member cached
    have separate := (groups_row (leftIn_isRow isRow (bounds y states))).mp
      (fun other inGroup => uncached other (.inr inGroup))
    constructor
    · intro x above
      by_contra inside
      rw [uncached coords (.inl ⟨member, x, above, Int.not_lt.mp inside⟩)] at cached
      cases cached
    · intro other otherMember next otherUncached
      by_contra none'
      have outside : ∀ x ∈ bounds y states, x < other.x := by
        intro x above
        by_contra inside
        exact none' ⟨x, above, Int.not_lt.mp inside⟩
      have outside' : ∀ x ∈ bounds y states, x < coords.x := by
        intro x above
        have less := outside x above
        omega
      have both := separate coords (mem_leftIn.mpr ⟨member, outside'⟩) cached other
        (mem_leftIn.mpr ⟨otherMember, outside⟩) next
      rw [otherUncached] at both
      cases both
  · rintro spares coords (⟨member, x, above, inside⟩ | inGroup)
    · by_contra cached
      rw [Bool.not_eq_false] at cached
      exact absurd ((spares coords member cached).1 x above) (Int.not_lt.mpr inside)
    · exact (groups_row (leftIn_isRow isRow (bounds y states))).mpr (separate_leftIn spares)
        coords inGroup

/-- A rectangle starts in a row if and only if it does so in what those from above leave: all that
matters lies right of them.
-/
theorem starts_leftIn {bounds : List Int} {row : List TileCoords} {x : Int}
    : layer.Starts (fun _ => False) { coords | coords ∈ leftIn bounds row } x
      ↔ layer.Starts (· ∈ bounds) { coords | coords ∈ row } x := by
  constructor
  · rintro ⟨⟨coords, member, at_, uncached⟩, last, -, oneMore⟩
    obtain ⟨inRow, behind⟩ := mem_leftIn.mp member
    rw [at_] at behind
    have left {other : TileCoords} (inRow : other ∈ row) (less : x < other.x)
        : other ∈ leftIn bounds row :=
      mem_leftIn.mpr ⟨inRow, fun bound above => Int.lt_trans (behind bound above) less⟩
    refine ⟨⟨coords, inRow, at_, uncached⟩, ?_, behind, ?_⟩
    · exact fun other inRow next => last other (left inRow (by omega)) next
    · exact fun other inRow another inRow' less less' =>
        oneMore other (left inRow less) another (left inRow' less') less less'
  · rintro ⟨⟨coords, inRow, at_, uncached⟩, last, behind, oneMore⟩
    refine ⟨⟨coords, mem_leftIn.mpr ⟨inRow, fun bound above => at_ ▸ behind bound above⟩, at_,
      uncached⟩, ?_, nofun, ?_⟩
    · exact fun other left => last other (mem_leftIn.mp left).1
    · exact fun other left another left' =>
        oneMore other (mem_leftIn.mp left).1 another (mem_leftIn.mp left').1

/-- Behind a row that is spared, the rectangles are those that have started in it and those that
have gone on through it.
-/
theorem RowState.next {y : Int} {states : List (Option Bound)} {above : Int → Prop}
    {row : List TileCoords} (state : RowState y states above) (isRow : layer.IsRow y row)
    (spares : layer.Spares above { coords | coords ∈ row })
    : RowState (y + 1) (scansBehind closePass Bound.of layer.ignores states row)
        (fun x =>
          layer.Starts above { coords | coords ∈ row } x
          ∨ GoesOn above { coords | coords ∈ row } x) := by
  obtain rfl : (· ∈ bounds y states) = above := funext (fun x => propext (state.mem_iff x))
  obtain ⟨-, left, below, lasts⟩ := scans_row isRow.at_ state.below
  have isRow' := leftIn_isRow isRow (bounds y states)
  obtain ⟨below', right, sorted⟩ := groupsEnd_row isRow'
  have all : bounds (y + 1) (scansBehind closePass Bound.of layer.ignores states row)
      = lasting (bounds y states) row
        ++ bounds (y + 1)
            (groupsEnd closePass Bound.of layer.ignores (leftIn (bounds y states) row)) := by
    rw [scansBehind, left, bounds, List.filterMap_append, ← lasts]
    rfl
  constructor
  · rw [scansBehind, left]
    exact List.forall_mem_append.mpr ⟨below, below'⟩
  · rw [all]
    refine List.pairwise_append.mpr
      ⟨state.sorted.sublist (lasting_sublist _ row), sorted, fun x lasts other starts => ?_⟩
    obtain ⟨coords, inLeft, le⟩ := right other starts
    have above := (lasting_sublist _ row).subset lasts
    exact Int.lt_of_lt_of_le ((mem_leftIn.mp inLeft).2 x above) le
  · intro x
    rw [all, List.mem_append, mem_lasting state.sorted, Or.comm,
      mem_bounds_groupsEnd isRow' (separate_leftIn spares), starts_leftIn]
    refine or_congr_right ⟨?_, ?_⟩
    · rintro ⟨above, inside, left⟩
      exact ⟨above, inside, left⟩
    · rintro ⟨above, inside, left⟩
      exact ⟨above, inside, left⟩

-----------------------------------------------------------------------------------------
-- All rows
-----------------------------------------------------------------------------------------

/-- The order of different tiles of one zoom level and part. -/
def Before (coords other : TileCoords) : Prop :=
  coords.y < other.y ∨ (coords.y = other.y ∧ coords.x < other.x)

/-- In a sorted queue, a row stands in front of the rows below it. By induction on the queue. -/
theorem filter_rows {queue : List TileCoords} (sorted : queue.Pairwise Before) (y : Int)
    : queue.filter (y ≤ ·.y) = queue.filter (·.y = y) ++ queue.filter (y + 1 ≤ ·.y) := by
  induction queue with
  | nil => rfl
  | cons first rest ih =>
      obtain ⟨later, sorted⟩ := List.pairwise_cons.mp sorted
      have ih := ih sorted
      rcases lt_trichotomy first.y y with above | here | below
      · rw [List.filter_cons_of_neg (by simp [above]), List.filter_cons_of_neg (by simp; omega),
          List.filter_cons_of_neg (by simp; omega)]
        exact ih
      · rw [List.filter_cons_of_pos (by simp; omega), List.filter_cons_of_pos (by simp [here]),
          List.filter_cons_of_neg (by simp; omega), ih]
        rfl
      · have none' : rest.filter (·.y = y) = [] := by
          rw [List.filter_eq_nil_iff]
          intro other member
          have order := later other member
          unfold Before at order
          simp only [decide_eq_true_eq]
          omega
        rw [List.filter_cons_of_pos (by simp; omega), List.filter_cons_of_neg (by simp; omega),
          List.filter_cons_of_pos (by simp; omega), ih, none']
        rfl

/-- A row of a sorted queue. -/
theorem filter_isRow {queue : List TileCoords} (sorted : queue.Pairwise Before)
    (selected : ∀ coords ∈ queue, layer.ignores coords = layer.cached coords) (y : Int)
    : layer.IsRow y (queue.filter (·.y = y)) where
  at_ _ member := of_decide_eq_true (List.mem_filter.mp member).2
  sorted := by
    rw [List.pairwise_filter]
    refine sorted.imp (fun before here there => ?_)
    have here := of_decide_eq_true here
    have there := of_decide_eq_true there
    unfold Before at before
    omega
  selected coords member := selected coords (List.mem_filter.mp member).1

/-- From a row on, no tile that is in the cache is taken if and only if every row spares them. By
induction on the number of rows: the scans go on from each one to the next.
-/
theorem inGroups_rows {queue : List TileCoords} {top : Int} {row : Nat → Set TileCoords}
    (sorted : queue.Pairwise Before)
    (selected : ∀ coords ∈ queue, layer.ignores coords = layer.cached coords)
    (rows : ∀ n coords, coords ∈ row n ↔ coords ∈ queue ∧ coords.y = top + n) (count : Nat)
    {n : Nat} (few : ∀ coords ∈ queue, coords.y < top + n + count)
    {states : List (Option Bound)}
    (state : RowState (top + n) states (layer.Reaches row n))
    : (∀ coords,
        InGroups closePass Bound.of layer.ignores states (queue.filter (top + n ≤ ·.y)) coords
        → layer.cached coords = false)
      ↔ ∀ m, n ≤ m → layer.Spares (layer.Reaches row m) (row m) := by
  induction count generalizing n states with
  | zero =>
      have nothing : queue.filter (top + n ≤ ·.y) = [] := by
        rw [List.filter_eq_nil_iff]
        intro coords member
        have less := few coords member
        simp only [decide_eq_true_eq]
        omega
      rw [nothing]
      refine iff_of_true (fun coords inGroups => not_inGroups_nil _ _ _ states coords inGroups |>.elim) ?_
      intro m le coords member
      obtain ⟨inQueue, at_⟩ := (rows m coords).mp member
      have less := few coords inQueue
      omega
  | succ count ih =>
      have isRow := filter_isRow sorted selected (top + n)
      have same : { coords | coords ∈ queue.filter (·.y = top + n) } = row n := by
        ext coords
        rw [rows n coords]
        exact List.mem_filter.trans (and_congr_right (fun _ => decide_eq_true_iff))
      have first := inGroups_row state isRow
      have down : top + (n : Int) + 1 = top + ((n + 1 : Nat) : Int) := by
        push_cast
        omega
      have later (spares : layer.Spares (layer.Reaches row n) (row n)) := by
        have next := state.next isRow (same ▸ spares)
        rw [same, down] at next
        exact ih (fun coords member => by have less := few coords member; omega) next
      rw [same] at first
      rw [filter_rows sorted, down]
      simp only [inGroups_append, or_imp, forall_and, first]
      constructor
      · rintro ⟨spares, rest⟩ m le
        rcases Nat.eq_or_lt_of_le le with rfl | less
        · exact spares
        · exact (later spares).mp rest m less
      · intro all
        have spares := all n (Nat.le_refl n)
        exact ⟨spares, (later spares).mpr (fun m le => all m (Nat.le_of_succ_le le))⟩

/-- The rows of a queue start at its top. -/
theorem topRow_le {queue : List TileCoords} {coords : TileCoords} (member : coords ∈ queue)
    : topRow queue ≤ coords.y := by
  have inRows : coords.y ∈ queue.map TileCoords.y := List.mem_map_of_mem member
  obtain ⟨top, least⟩ := Option.isSome_iff_exists.mp (List.isSome_min?_of_mem inRows)
  rw [topRow, least]
  exact (List.min?_eq_some_iff.mp least).2 coords.y inRows

/-- A queue has finitely many rows, by induction on its tiles. -/
theorem exists_rows (queue : List TileCoords) (top : Int)
    : ∃ count : Nat, ∀ coords ∈ queue, coords.y < top + count := by
  induction queue with
  | nil => exact ⟨0, List.forall_mem_nil _⟩
  | cons first rest ih =>
      obtain ⟨count, below⟩ := ih
      refine ⟨max count (first.y - top + 1).toNat, List.forall_mem_cons.mpr ⟨by omega, ?_⟩⟩
      intro coords member
      have less := below coords member
      omega

instance : Std.Total rowOrder where
  total coords other := by
    unfold rowOrder
    omega

instance : IsTrans TileCoords rowOrder where
  trans coords other another := by
    unfold rowOrder
    omega

/-- The tiles of a queue differ in their row or in their column, so that their order is strict. -/
theorem sorted_before (requests : TileRequests layer)
    : (requests.coordsQueue.insertionSort rowOrder).Pairwise Before := by
  have sorted := List.pairwise_insertionSort rowOrder requests.coordsQueue
  have nodup := (layer.sorted_perm requests).nodup_iff.mpr requests.distinct
  refine (sorted.and nodup).imp_of_mem (fun {coords other} member otherMember both => ?_)
  obtain ⟨order, differs⟩ := both
  have inQueue := (layer.sorted_perm requests).mem_iff.mp member
  have otherInQueue := (layer.sorted_perm requests).mem_iff.mp otherMember
  by_contra notBefore
  unfold rowOrder at order
  unfold Before at notBefore
  have x : coords.x = other.x := by omega
  have y : coords.y = other.y := by omega
  exact differs (layer.eq_of_place_eq requests inQueue otherInQueue x y)

/-- The rectangles take no tile that is in the cache if and only if the rows spare them: all rows
of the sorted queue, with no scan above the first one.
-/
theorem rectangles_uncached_iff (requests : TileRequests layer)
    : (∀ coords ∈ (layer.rectangles requests.coordsQueue).flatten, layer.cached coords = false)
      ↔ RowsSpared layer requests.coordsQueue := by
  have members {coords : TileCoords}
      : coords ∈ requests.coordsQueue.insertionSort rowOrder ↔ coords ∈ requests.coordsQueue :=
    (layer.sorted_perm requests).mem_iff
  obtain ⟨count, below⟩ := exists_rows requests.coordsQueue (topRow requests.coordsQueue)
  have start : RowState (topRow requests.coordsQueue + (0 : Nat)) []
      (layer.Reaches (tileRow requests.coordsQueue) 0) :=
    ⟨List.forall_mem_nil _, .nil, fun _ => iff_of_false List.not_mem_nil id⟩
  have all := inGroups_rows (sorted_before requests)
    (fun coords member => layer.ignores_eq requests (members.mp member))
    (fun n coords => by rw [members]; exact .rfl) count
    (fun coords member => by have less := below coords (members.mp member); omega) start
  have whole : (requests.coordsQueue.insertionSort rowOrder).filter
        (topRow requests.coordsQueue + (0 : Nat) ≤ ·.y)
      = requests.coordsQueue.insertionSort rowOrder := by
    rw [List.filter_eq_self]
    intro coords member
    have above := topRow_le (members.mp member)
    exact decide_eq_true (by omega)
  rw [whole] at all
  simp only [InGroups, scans, List.not_mem_nil, false_or, Nat.zero_le, true_imp_iff] at all
  exact all

end GridLayer

/-- The messages for a queue list every tile that is not in the cache once, and no other, if and
only if in no row a rectangle from above covers a tile that is in the cache, and none of those
that start there meets one.
-/
theorem addTiles_lists_iff (layer : GridLayer) (requests : TileRequests layer)
    : ListsUncached layer requests.coordsQueue (layer.addTiles requests.coordsQueue)
      ↔ RowsSpared layer requests.coordsQueue :=
  (layer.listsUncached_iff_rectangles requests).trans (GridLayer.rectangles_uncached_iff requests)

def secondTile : TileCoords := ⟨1, 0, 10, 0⟩

/-- The second tile is in the cache. -/
def cachedTileLayer : GridLayer where
  tileCache key := if key = tileCoordsToKey secondTile then some "data:image/png".toList else none
  tileZoom := 10
  selectedPart := 0
  tileWidthPx := 256
  tileHeightPx := 256
  tileWidthTwips := 3840
  tileHeightTwips := 3840
  positive := by decide

def cachedTileRequests : TileRequests cachedTileLayer where
  coordsQueue := [⟨0, 0, 10, 0⟩, secondTile]
  distinct := by decide
  zoom := by decide
  selected := by decide

/-- The second tile joins the rectangle of the first one, and is not looked up. -/
theorem cachedTile_rectangles
    : cachedTileLayer.rectangles cachedTileRequests.coordsQueue
      = [[⟨0, 0, 10, 0⟩, secondTile]] := by
  have sorted : cachedTileRequests.coordsQueue.insertionSort GridLayer.rowOrder
      = [⟨0, 0, 10, 0⟩, secondTile] := by
    decide +kernel
  have first : ¬ cachedTileLayer.ignores ⟨0, 0, 10, 0⟩ = true := by
    decide +kernel
  have close : scan GridLayer.closePass (GridLayer.Bound.of ⟨0, 0, 10, 0⟩) [secondTile]
      = ([secondTile], []) := by
    decide +kernel
  rw [GridLayer.rectangles, sorted, groups, if_neg first, close, groups]

/-- The message requests both tiles. -/
theorem cachedTile_is_requested
    : secondTile ∈ cachedTileRequests.coordsQueue
      ∧ cachedTileLayer.cached secondTile = true
      ∧ (listedPositions (cachedTileLayer.addTiles cachedTileRequests.coordsQueue)).count
          (cachedTileLayer.twips secondTile) = 1
      ∧ ¬ ListsUncached cachedTileLayer cachedTileRequests.coordsQueue
          (cachedTileLayer.addTiles cachedTileRequests.coordsQueue) := by
  have member : secondTile ∈ cachedTileRequests.coordsQueue := by
    decide
  have cached : cachedTileLayer.cached secondTile = true := by
    decide +kernel
  have listed : (listedPositions (cachedTileLayer.addTiles cachedTileRequests.coordsQueue)).count
      (cachedTileLayer.twips secondTile) = 1 := by
    rw [GridLayer.listedPositions_addTiles, cachedTile_rectangles]
    decide +kernel
  refine ⟨member, cached, listed, ?_⟩
  intro lists
  have inRectangle
      : secondTile ∈ (cachedTileLayer.rectangles cachedTileRequests.coordsQueue).flatten := by
    rw [cachedTile_rectangles]
    decide
  have uncached := (cachedTileLayer.listsUncached_iff_rectangles cachedTileRequests).mp lists
    secondTile inRectangle
  rw [cached] at uncached
  exact Bool.noConfusion uncached

end NdcOdfWeb.Client
