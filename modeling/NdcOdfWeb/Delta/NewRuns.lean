import NdcOdfWeb.Delta.Commands

/-! The runs of new pixels turn a row of the previous bitmap into the current one. -/

namespace NdcOdfWeb.Delta

open NdcOdfWeb.Foundation

/-- By induction on the pixels. -/
theorem samePixels_le (pixels : List (Pixel × Pixel)) : samePixels pixels ≤ pixels.length := by
  induction pixels with
  | nil => exact Nat.le_refl _
  | cons pixel rest ih =>
      obtain ⟨prev, cur⟩ := pixel
      rw [samePixels]
      split <;> simp only [List.length_cons] <;> omega

/-- The pixels that the loop over `same` skips are the same in both rows. -/
theorem take_samePixels (pixels : List (Pixel × Pixel))
    : (pixels.take (samePixels pixels)).map Prod.fst
      = (pixels.take (samePixels pixels)).map Prod.snd := by
  induction pixels with
  | nil => rfl
  | cons pixel rest ih =>
      obtain ⟨prev, cur⟩ := pixel
      rw [samePixels]
      split
      · next same =>
          rw [List.take_succ_cons, List.map_cons, List.map_cons, ih]
          exact congrArg (· :: _) same
      · rfl

/-- By induction on the pixels: the count stops at the bound. -/
theorem diffPixels_bound {diff : Nat} (bound : diff ≤ 254) (pixels : List (Pixel × Pixel))
    : diffPixels diff pixels ≤ 254 := by
  induction pixels generalizing diff with
  | nil => exact bound
  | cons pixel rest ih =>
      obtain ⟨prev, cur⟩ := pixel
      rw [diffPixels]
      split
      · exact ih (by omega)
      · exact bound

/-- The loop over `diff` takes a pixel as long as there is one. -/
theorem eq_nil_of_diffPixels {pixels : List (Pixel × Pixel)} (none' : ¬ 0 < diffPixels 0 pixels)
    : pixels = [] := by
  cases pixels with
  | nil => rfl
  | cons pixel rest =>
      obtain ⟨prev, cur⟩ := pixel
      have taken := (diffPixels_le 1 rest).1
      rw [diffPixels, if_pos ⟨.inr (by omega), by omega⟩, Nat.zero_add] at none'
      omega

/-- A run of new pixels inside row `y`. -/
def IsRun (y width : Nat) : Command → Prop
  | .copy _ _ _ => False
  | .run destRow destCol pixels =>
      destRow = y ∧ destCol + pixels.length ≤ width ∧ 0 < pixels.length ∧ pixels.length ≤ 254

/-- The commands of `newRuns` write the current pixels over the previous ones, behind a part
of the row that is current already.
-/
theorem newRuns_commands (prev : List DeltaBitmapRow) (y x : Nat)
    (pixels : List (Pixel × Pixel))
    : ∃ commands : List Command,
        newRuns y x pixels = commands.flatMap Command.bytes
        ∧ (∀ command ∈ commands, IsRun y (x + pixels.length) command)
        ∧ ∀ (rows : List DeltaBitmapRow) (front : DeltaBitmapRow),
            front.length = x
            → y < rows.length
            → rows.getD y [] = front ++ pixels.map Prod.fst
            → commands.foldl (Command.apply prev) rows
              = rows.set y (front ++ pixels.map Prod.snd) := by
  induction x, pixels using newRuns.induct with
  | case2 x pixels same diff notMore =>
      refine ⟨[], ?_, by simp, ?_⟩
      · rw [newRuns, dif_neg notMore]
        rfl
      · intro rows front _ inside row
        have done : pixels.drop (samePixels pixels) = [] := eq_nil_of_diffPixels notMore
        have all : pixels.take (samePixels pixels) = pixels :=
          List.take_of_length_le (List.drop_eq_nil_iff.mp done)
        have unchanged := take_samePixels pixels
        rw [all] at unchanged
        rw [← unchanged, ← row, List.getD_eq_getElem _ _ inside]
        exact (List.set_getElem_self inside).symm
  | case1 x pixels same diff more ih =>
      obtain ⟨commands, bytes, runs, applied⟩ := ih
      let new := ((pixels.drop same).take diff).map Prod.snd
      have sameLe : same ≤ pixels.length := samePixels_le pixels
      have diffLe := (diffPixels_le 0 (pixels.drop same)).2
      rw [Nat.zero_add, List.length_drop] at diffLe
      have diffDef : diffPixels 0 (pixels.drop same) = diff := rfl
      have newLength : new.length = diff := by
        simp only [new, List.length_map, List.length_take, List.length_drop]
        omega
      have short : diff ≤ 254 := diffPixels_bound (by omega) _
      refine ⟨.run y (x + same) new :: commands, ?_, ?_, ?_⟩
      · rw [newRuns, dif_pos more, bytes]
        rfl
      · simp only [List.length_drop] at runs
        intro command member
        rcases List.mem_cons.mp member with rfl | later
        · exact ⟨rfl, by omega, by omega, by omega⟩
        · have run := runs command later
          rwa [show x + same + diff + (pixels.length - same - diff) = x + pixels.length by omega]
            at run
      · intro rows front frontLength inside row
        -- the row in three parts: the same pixels, the run, and the rest
        have parts : pixels = pixels.take same
            ++ ((pixels.drop same).take diff ++ (pixels.drop same).drop diff) := by
          rw [List.take_append_drop, List.take_append_drop]
        have written : splice (rows.getD y []) (x + same) new
            = (front ++ (pixels.take same).map Prod.snd ++ new)
              ++ ((pixels.drop same).drop diff).map Prod.fst := by
          have shape : rows.getD y [] = (front ++ (pixels.take same).map Prod.snd)
              ++ (((pixels.drop same).take diff).map Prod.fst
                ++ ((pixels.drop same).drop diff).map Prod.fst) := by
            rw [row]
            conv_lhs => rw [parts]
            rw [List.map_append, List.map_append, take_samePixels, List.append_assoc]
          have position : (front ++ (pixels.take same).map Prod.snd).length = x + same := by
            simp only [List.length_append, List.length_map, List.length_take]
            omega
          have size : (((pixels.drop same).take diff).map Prod.fst).length = new.length := by
            simp only [new, List.length_map]
          rw [shape, ← position, ← Nat.add_zero (List.length _), splice_middle (by omega),
            splice_whole size.symm, List.append_assoc, List.append_assoc, List.append_assoc]
        have front' : (front ++ (pixels.take same).map Prod.snd ++ new).length
            = x + same + diff := by
          simp only [List.length_append, List.length_map, List.length_take, newLength]
          omega
        rw [List.foldl_cons, Command.apply, written]
        have current (row : DeltaBitmapRow) : (rows.set y row).getD y [] = row := by
          have bound : y < (rows.set y row).length := by rwa [List.length_set]
          rw [List.getD_eq_getElem _ _ bound, List.getElem_set_self]
        have next := applied _ _ front' (by rwa [List.length_set]) (current _)
        rw [next, List.set_set]
        conv_rhs => rw [parts]
        simp only [List.map_append, List.append_assoc, new]

end NdcOdfWeb.Delta
