import NdcOdfWeb.Rendering.RequestLists

/-! The loop of `sendRequestedTiles`, pass by pass: it ends, and the tiles that it takes off the
session's list are served.
-/

namespace NdcOdfWeb.Rendering

open NdcOdfWeb.Foundation
open NdcOdfWeb.Protocol
open NdcOdfWeb.Tiles
open NdcOdfWeb.Queue
open Wsd

variable {S : Type} [DecidableEq S]

-----------------------------------------------------------------------------------------
-- Passes
-----------------------------------------------------------------------------------------

/-- What the loop changes: the session's list is `requestedTiles`, and `delayedTiles` counts those
that went to its end.
-/
structure LoopState (S : Type) extends Sending S where
  delayedTiles : Nat

/-- The condition of the loop. -/
def LoopState.continues (limit : Nat) (id : S) (state : LoopState S) : Bool :=
  (state.wsd.session id).tilesOnFly.length + (state.wsd.session id).tilesBeingRendered.card < limit
    && state.delayedTiles < state.requestedTiles.length

/-- The body of the loop, for the first tile of the list. -/
def sendTile (world : World) (id : S) (wsd : Wsd S) (needsRendering : List TileDesc)
    (tile : TileDesc) (rest : List TileDesc) (delayedTiles : Nat)
    : LoopState S :=
  if (wsd.session id).countIdenticalTilesOnFly tile ≥ 2 then
    ⟨⟨wsd, needsRendering, rest ++ [tile]⟩, delayedTiles + 1⟩
  else if world.cached (cacheFileName tile) then
    ⟨⟨wsd.enqueueSendMessage world.now id tile.withReadId, needsRendering, rest⟩, delayedTiles⟩
  else if !wsd.hasTileBeingRendered tile || wsd.getTileBeingRenderedVersion tile < tile.ver then
    let (tile, wsd) := wsd.nextVersion tile
    ⟨⟨wsd.subscribeToTileRendering world.now tile id, needsRendering ++ [tile], rest⟩,
      delayedTiles⟩
  else ⟨⟨wsd.subscribeToTileRendering world.now tile id, needsRendering, rest⟩, delayedTiles⟩

/-- A pass of the loop, if there is a further one. -/
def sendPass (world : World) (limit : Nat) (id : S) (state : LoopState S) : Option (LoopState S) :=
  match state.requestedTiles with
  | [] => none
  | tile :: rest =>
      if state.continues limit id then
        some (sendTile world id state.wsd state.needsRendering tile rest state.delayedTiles)
      else none

/-- One state is reached from another one by passes. -/
abbrev Passes (world : World) (limit : Nat) (id : S) : LoopState S → LoopState S → Prop :=
  Relation.ReflTransGen (fun state next => sendPass world limit id state = some next)

/-- The passes lead to what the loop leaves, where no further one is made. -/
theorem sendLoop_passes (world : World) (limit : Nat) (id : S) (wsd : Wsd S)
    (needsRendering delayed tiles : List TileDesc)
    : ∃ final : LoopState S,
        Passes world limit id ⟨⟨wsd, needsRendering, tiles ++ delayed⟩, delayed.length⟩ final
        ∧ final.toSending = sendLoop world limit id wsd needsRendering delayed tiles
        ∧ sendPass world limit id final = none := by
  induction tiles generalizing wsd needsRendering delayed with
  | nil =>
      refine ⟨_, .refl, rfl, ?_⟩
      cases delayed with
      | nil => rfl
      | cons tile rest =>
          have ends
              : LoopState.continues limit id
                  ⟨⟨wsd, needsRendering, tile :: rest⟩, (tile :: rest).length⟩ = false := by
            simp [LoopState.continues]
          simp only [sendPass, List.nil_append, ends, Bool.false_eq_true, if_false]
  | cons tile tiles ih =>
      by_cases full
          : (wsd.session id).tilesOnFly.length + (wsd.session id).tilesBeingRendered.card ≥ limit
      · refine ⟨_, .refl, ?_, ?_⟩
        · rw [sendLoop, if_pos full]
        · have ends
              : LoopState.continues limit id
                  ⟨⟨wsd, needsRendering, tile :: tiles ++ delayed⟩, delayed.length⟩ = false := by
            simp only [LoopState.continues, Bool.and_eq_false_iff, decide_eq_false_iff_not]
            exact .inl (not_lt.mpr full)
          simp only [sendPass, List.cons_append] at ends ⊢
          rw [if_neg (by simp [ends])]
      · have here
            : sendPass world limit id
                ⟨⟨wsd, needsRendering, tile :: tiles ++ delayed⟩, delayed.length⟩
              = some
                  (sendTile world id wsd needsRendering tile (tiles ++ delayed)
                    delayed.length) := by
          have goesOn
              : LoopState.continues limit id
                  ⟨⟨wsd, needsRendering, tile :: (tiles ++ delayed)⟩, delayed.length⟩ = true := by
            simp only [LoopState.continues, Bool.and_eq_true, decide_eq_true_eq,
              List.length_cons, List.length_append]
            omega
          simp only [sendPass, List.cons_append, goesOn, if_true]
        rw [sendLoop, if_neg full]
        unfold sendTile at here
        split at here
        · next delays =>
            obtain ⟨final, passes, same, ends⟩ := ih wsd needsRendering (delayed ++ [tile])
            rw [if_pos delays]
            refine ⟨final, .head here ?_, same, ends⟩
            rw [← List.append_assoc, List.length_append] at passes
            exact passes
        · next sends =>
            rw [if_neg sends]
            split at here
            · next cached =>
                obtain ⟨final, passes, same, ends⟩ := ih
                  (wsd.enqueueSendMessage world.now id tile.withReadId) needsRendering delayed
                rw [if_pos cached]
                exact ⟨final, .head here passes, same, ends⟩
            · next missing =>
                rw [if_neg missing]
                split at here
                · next newer =>
                    obtain ⟨final, passes, same, ends⟩ := ih
                      ((wsd.nextVersion tile).2.subscribeToTileRendering world.now
                        (wsd.nextVersion tile).1 id)
                      (needsRendering ++ [(wsd.nextVersion tile).1]) delayed
                    rw [if_pos newer]
                    exact ⟨final, .head here passes, same, ends⟩
                · next known =>
                    obtain ⟨final, passes, same, ends⟩ := ih
                      (wsd.subscribeToTileRendering world.now tile id) needsRendering delayed
                    rw [if_neg known]
                    exact ⟨final, .head here passes, same, ends⟩

/-- What a pass does with the first tile. -/
inductive PassCase (world : World) (id : S) (state : LoopState S) (tile : TileDesc)
    (rest : List TileDesc)
    : LoopState S → Prop
  | delayed
    : PassCase world id state tile rest
        ⟨⟨state.wsd, state.needsRendering, rest ++ [tile]⟩, state.delayedTiles + 1⟩
  | sent
    : PassCase world id state tile rest
        ⟨⟨state.wsd.enqueueSendMessage world.now id tile.withReadId, state.needsRendering, rest⟩,
          state.delayedTiles⟩
  | requested (few : (state.wsd.session id).countIdenticalTilesOnFly tile < 2)
    : PassCase world id state tile rest
        ⟨⟨(state.wsd.nextVersion tile).2.subscribeToTileRendering world.now
            (state.wsd.nextVersion tile).1 id,
          state.needsRendering ++ [(state.wsd.nextVersion tile).1], rest⟩, state.delayedTiles⟩
  | subscribed
    : PassCase world id state tile rest
        ⟨⟨state.wsd.subscribeToTileRendering world.now tile id, state.needsRendering, rest⟩,
          state.delayedTiles⟩

/-- One turn of the loop: the tile is sent, registered or put back. -/
theorem sendPass_cases {world : World} {limit : Nat} {id : S} {state next : LoopState S}
    (pass : sendPass world limit id state = some next)
    : ∃ tile rest,
        state.requestedTiles = tile :: rest
        ∧ state.delayedTiles < state.requestedTiles.length
        ∧ PassCase world id state tile rest next := by
  unfold sendPass at pass
  split at pass
  · cases pass
  · next tile rest shape =>
      split at pass
      · next goesOn =>
          cases pass
          simp only [LoopState.continues, Bool.and_eq_true, decide_eq_true_eq] at goesOn
          refine ⟨tile, rest, shape, goesOn.2, ?_⟩
          unfold sendTile
          split
          · exact .delayed
          · next few =>
              split
              · exact .sent
              · split
                · exact .requested (not_le.mp few)
                · exact .subscribed
      · cases pass

-----------------------------------------------------------------------------------------
-- Tiles that are taken off the list
-----------------------------------------------------------------------------------------

/-- Between two states of the loop, the tile was put into the session's queue, or it was withheld
since the session had its wire id on record; or the session is a subscriber of its rendering.
-/
inductive Provided (world : World) (limit : Nat) (id : S) (start state : LoopState S)
    (tile : TileDesc)
    : Prop
  | sent (more : List (Notice S)) (log : state.wsd.log = more ++ start.wsd.log)
    (enqueued : .enqueued id tile.withReadId ∈ more)
  | withheld (earlier : LoopState S) (before : Passes world limit id start earlier)
    (after : Passes world limit id earlier state)
    (shown : (earlier.wsd.session id).isShown tile = true)
  | subscribed (there : state.wsd.Subscribed (cacheFileName tile) id)

/-- The tile was the first one of the list, with fewer than two identical tiles on the fly, when
it was put among those that are requested from the kit.
-/
structure RequestedEarlier (world : World) (limit : Nat) (id : S) (start state : LoopState S)
    (tile : TileDesc)
    : Prop where
  found
    : ∃ earlier,
        Passes world limit id start earlier
        ∧ Passes world limit id earlier state
        ∧ (∃ first ∈ earlier.requestedTiles.head?, tile = { first with ver := tile.ver })
        ∧ (earlier.wsd.session id).countIdenticalTilesOnFly tile < 2

section Step

variable {world : World} {limit : Nat} {id : S} {start state next : LoopState S}
variable {tile : TileDesc}

/-- The turn took another tile, or it was requested before. -/
theorem RequestedEarlier.step (requested : RequestedEarlier world limit id start state tile)
    (pass : sendPass world limit id state = some next)
    : RequestedEarlier world limit id start next tile := by
  obtain ⟨earlier, before, after, facts⟩ := requested.found
  exact ⟨earlier, before, after.tail pass, facts⟩

/-- A pass writes down what it does, and ends no subscription. -/
theorem PassCase.keeps {rest : List TileDesc} (done : PassCase world id state tile rest next)
    : (∃ more, next.wsd.log = more ++ state.wsd.log)
      ∧ ∀ name, state.wsd.Subscribed name id → next.wsd.Subscribed name id := by
  cases done with
  | delayed => exact ⟨⟨[], rfl⟩, fun _ there => there⟩
  | sent =>
      refine ⟨?_, fun _ => (enqueueSendMessage_same ..).subscribed.mpr⟩
      dsimp only
      rw [enqueueSendMessage_eq]
      exact ⟨[_], rfl⟩
  | requested few =>
      have spec := (state.wsd.nextVersion tile).2.subscribeToTileRendering_spec world.now
        (state.wsd.nextVersion tile).1 id
      exact ⟨⟨[_], spec.log⟩, fun name there => (spec.subscribed name id).mpr (.inl there)⟩
  | subscribed =>
      have spec := state.wsd.subscribeToTileRendering_spec world.now tile id
      exact ⟨⟨[_], spec.log⟩, fun name there => (spec.subscribed name id).mpr (.inl there)⟩

/-- What was sent or registered stays so. -/
theorem Provided.step {first : TileDesc} {rest : List TileDesc}
    (provided : Provided world limit id start state tile)
    (pass : sendPass world limit id state = some next)
    (done : PassCase world id state first rest next)
    : Provided world limit id start next tile := by
  obtain ⟨⟨later, log'⟩, subscribed⟩ := done.keeps
  cases provided with
  | sent more log enqueued =>
      refine .sent (later ++ more) ?_ (List.mem_append_right _ enqueued)
      rw [log', log, List.append_assoc]
  | withheld earlier before after shown => exact .withheld earlier before (after.tail pass) shown
  | subscribed there => exact .subscribed (subscribed _ there)

/-- What the passes have done with the tiles of the list: those that were looked at are taken off
or delayed, and the delayed ones are behind the others.
-/
structure Conserved (world : World) (limit : Nat) (id : S) (start state : LoopState S) : Prop where
  log : ∃ more, state.wsd.log = more ++ start.wsd.log
  lists
    : ∃ looked remaining taken delayed,
        start.requestedTiles = looked ++ remaining
        ∧ looked.Perm (taken ++ delayed)
        ∧ state.requestedTiles = remaining ++ delayed
        ∧ state.delayedTiles = delayed.length
        ∧ ∀ tile ∈ taken, Provided world limit id start state tile
  requested
    : ∀ tile ∈ state.needsRendering,
        tile ∈ start.needsRendering ∨ RequestedEarlier world limit id start state tile

/-- The first tile is taken off the list. -/
theorem Conserved.take {rest : List TileDesc}
    (conserved : Conserved world limit id start state)
    (pass : sendPass world limit id state = some next)
    (shape : state.requestedTiles = tile :: rest)
    (few : state.delayedTiles < state.requestedTiles.length)
    (done : PassCase world id state tile rest next) (list : next.requestedTiles = rest)
    (count : next.delayedTiles = state.delayedTiles)
    (provided : Provided world limit id start next tile)
    (requested
      : ∀ other ∈ next.needsRendering,
          other ∈ state.needsRendering ∨ RequestedEarlier world limit id start next other)
    : Conserved world limit id start next := by
  obtain ⟨looked, remaining, taken, delayed, before, perm, after, delays, all⟩ := conserved.lists
  obtain ⟨⟨later, log'⟩, -⟩ := done.keeps
  obtain ⟨more, log⟩ := conserved.log
  refine ⟨⟨later ++ more, by rw [log', log, List.append_assoc]⟩, ?_, ?_⟩
  · cases remaining with
    | nil =>
        rw [after, delays] at few
        exact absurd few (by simp)
    | cons first remaining =>
        obtain ⟨rfl, behind⟩ := List.cons.inj (shape.symm.trans after)
        refine ⟨looked ++ [tile], remaining, taken ++ [tile], delayed, ?_, ?_,
          list.trans behind, count.trans delays, ?_⟩
        · rw [before, List.append_assoc, List.singleton_append]
        · rw [List.append_assoc]
          apply (perm.append_right [tile]).trans
          rw [List.append_assoc]
          exact List.perm_append_comm.append_left taken
        · intro other member
          rcases List.mem_append.mp member with old | new
          · exact (all other old).step pass done
          · rw [List.mem_singleton.mp new]
            exact provided
  · intro other member
    rcases requested other member with old | new
    · exact (conserved.requested other old).imp_right (·.step pass)
    · exact .inr new

/-- By cases on the turn. -/
theorem Conserved.step (conserved : Conserved world limit id start state)
    (passes : Passes world limit id start state)
    (pass : sendPass world limit id state = some next)
    : Conserved world limit id start next := by
  obtain ⟨tile, rest, shape, few, done⟩ := sendPass_cases pass
  have now : Passes world limit id start next := passes.tail pass
  cases done with
  | delayed =>
      obtain ⟨looked, remaining, taken, delayed, before, perm, after, delays, all⟩ :=
        conserved.lists
      refine ⟨conserved.log, ?_, ?_⟩
      · cases remaining with
        | nil =>
            rw [after, delays] at few
            exact absurd few (by simp)
        | cons first remaining =>
            obtain ⟨rfl, behind⟩ := List.cons.inj (shape.symm.trans after)
            refine ⟨looked ++ [tile], remaining, taken, delayed ++ [tile], ?_, ?_, ?_, ?_, ?_⟩
            · rw [before, List.append_assoc, List.singleton_append]
            · rw [← List.append_assoc]
              exact perm.append_right [tile]
            · rw [← List.append_assoc]
              exact congrArg (· ++ [tile]) behind
            · rw [List.length_append, ← delays]
              rfl
            · exact fun other member => (all other member).step pass .delayed
      · exact fun other member => (conserved.requested other member).imp_right (·.step pass)
  | sent =>
      refine conserved.take pass shape few .sent rfl rfl ?_ (fun other member => .inl member)
      obtain ⟨more, log⟩ := conserved.log
      by_cases shown : (state.wsd.session id).isShown tile = true
      · exact .withheld state passes (.single pass) shown
      · refine .sent (.enqueued id tile.withReadId :: more) ?_ List.mem_cons_self
        have notShown : (state.wsd.session id).isShown tile.withReadId = false :=
          Bool.eq_false_iff.mpr shown
        dsimp only
        rw [enqueueSendMessage_eq, note_log, modifySession_log, notShown, log]
        rfl
  | requested few' =>
      have spec := (state.wsd.nextVersion tile).2.subscribeToTileRendering_spec world.now
        (state.wsd.nextVersion tile).1 id
      refine conserved.take pass shape few (.requested few') rfl rfl ?_ ?_
      · exact .subscribed ((spec.subscribed _ id).mpr (.inr ⟨rfl, rfl⟩))
      · intro other member
        rcases List.mem_append.mp member with old | new
        · exact .inl old
        · rw [List.mem_singleton.mp new]
          refine .inr ⟨state, passes, .single pass, ⟨tile, ?_, rfl⟩, few'⟩
          rw [shape]
          rfl
  | subscribed =>
      have spec := state.wsd.subscribeToTileRendering_spec world.now tile id
      refine conserved.take pass shape few .subscribed rfl rfl ?_ (fun other member => .inl member)
      exact .subscribed ((spec.subscribed _ id).mpr (.inr ⟨rfl, rfl⟩))

/-- By induction on the turns. -/
theorem Passes.conserved (passes : Passes world limit id start state)
    (fresh : start.delayedTiles = 0)
    : Conserved world limit id start state := by
  induction passes with
  | refl =>
      refine ⟨⟨[], rfl⟩, ⟨[], start.requestedTiles, [], [], rfl, .rfl, ?_, fresh, ?_⟩,
        fun _ member => .inl member⟩
      · rw [List.append_nil]
      · exact fun _ member => absurd member List.not_mem_nil
  | tail earlier pass ih => exact ih.step earlier pass

end Step

-----------------------------------------------------------------------------------------
-- The call
-----------------------------------------------------------------------------------------

/-- The state in which the loop of `sendRequestedTiles` starts. -/
def loopStart (world : World) (wsd : Wsd S) (id : S) : LoopState S where
  wsd := wsd.modifySession id (·.removeOutdatedTilesOnFly world.now)
  needsRendering := []
  requestedTiles := (wsd.session id).requestedTiles
  delayedTiles := 0

/-- What the loop has to do with the list of the session, as long as no tile is withheld. -/
def ProvidesTaken (upperLimit : Int32 → Nat) (world : World) (wsd : Wsd S) (id : S) : Prop :=
  ∃ taken more,
    (wsd.session id).requestedTiles.Perm
      (taken ++ ((wsd.sendRequestedTiles upperLimit world id).session id).requestedTiles)
    ∧ (wsd.sendRequestedTiles upperLimit world id).log = more ++ wsd.log
    ∧ ∀ tile ∈ taken,
        .enqueued id tile.withReadId ∈ more
        ∨ (wsd.sendRequestedTiles upperLimit world id).Subscribed (cacheFileName tile) id

/-- The loop ends after some passes. Each tile is still on the list, where the delayed ones are
behind the others, or it was sent from the cache or withheld since the client shows its wire id,
or the session subscribes to it. The tiles that are requested from the kit had fewer than two
identical ones on the fly when they were chosen.
-/
theorem sendRequestedTiles_conserves (upperLimit : Int32 → Nat) (world : World) (wsd : Wsd S)
    (id : S)
    : ∃ final : LoopState S,
        Passes world (tilesOnFlyUpperLimit upperLimit (wsd.session id)) id
          (loopStart world wsd id) final
        ∧ sendPass world (tilesOnFlyUpperLimit upperLimit (wsd.session id)) id final = none
        ∧ Conserved world (tilesOnFlyUpperLimit upperLimit (wsd.session id)) id
            (loopStart world wsd id) final
        ∧ wsd.sendRequestedTiles upperLimit world id
          = (final.wsd.modifySession id
              ({ · with requestedTiles := final.requestedTiles })).sendCombined
              final.needsRendering := by
  have same : SameRequests wsd (wsd.modifySession id (·.removeOutdatedTilesOnFly world.now)) :=
    sameRequests_modifySession wsd id (fun _ => rfl)
  obtain ⟨final, passes, result, ends⟩ :=
    sendLoop_passes world (tilesOnFlyUpperLimit upperLimit (wsd.session id)) id
      (wsd.modifySession id (·.removeOutdatedTilesOnFly world.now)) [] []
      (wsd.session id).requestedTiles
  rw [List.append_nil] at passes
  have sending
      : sendingOf upperLimit world wsd id
        = sendLoop world (tilesOnFlyUpperLimit upperLimit (wsd.session id)) id
            (wsd.modifySession id (·.removeOutdatedTilesOnFly world.now)) [] []
            (wsd.session id).requestedTiles := by
    unfold sendingOf
    dsimp only
    rw [removeOutdatedTileSubscriptions_eq, same.same id]
  refine ⟨final, passes, ends, passes.conserved rfl, ?_⟩
  rw [sendRequestedTiles_eq, sending, ← result]

/-- A session that requests a cached tile with the wire id that it has on record for it. -/
def requestsShown : Wsd Nat where
  sessions := [0]
  session _ :=
    {
      TileSession.new ⟨0, firstView_nonneg⟩ with
      requestedTiles := [{ originTile with wireId := 2 }]
      oldWireIds := fun _ => some 2
    }
  tilesBeingRendered := []
  tileVersion := 1
  toKit := []
  log := []

/-- The tile is taken off the list, but neither sent nor subscribed to. -/
theorem requestsShown_withholds
    : ¬ ProvidesTaken (fun _ => 10) ⟨0, fun _ => true⟩ requestsShown 0 := by
  rintro ⟨taken, more, list, log, provided⟩
  have empty
      : ((requestsShown.sendRequestedTiles (fun _ => 10) ⟨0, fun _ => true⟩ 0).session
          0).requestedTiles = [] := by
    decide +kernel
  have noEntry
      : (requestsShown.sendRequestedTiles (fun _ => 10) ⟨0, fun _ => true⟩ 0).tilesBeingRendered.length
        = 0 := by
    decide +kernel
  have filtered
      : (requestsShown.sendRequestedTiles (fun _ => 10) ⟨0, fun _ => true⟩ 0).log.all
          (fun notice =>
            match notice with
            | .enqueued _ _ => false
            | _ => true)
        = true := by
    decide +kernel
  have all := list
  rw [empty, List.append_nil] at all
  have member : { originTile with wireId := 2 } ∈ taken :=
    all.mem_iff.mp List.mem_cons_self
  rcases provided _ member with sent | ⟨entry, inside, -⟩
  · rw [log] at filtered
    have never := List.all_eq_true.mp filtered _ (List.mem_append_left _ sent)
    cases never
  · rw [List.length_eq_zero_iff.mp noEntry] at inside
    exact List.not_mem_nil inside

end NdcOdfWeb.Rendering
