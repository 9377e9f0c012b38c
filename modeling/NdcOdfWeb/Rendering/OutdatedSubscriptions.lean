import Mathlib.Data.Finset.Sort
import NdcOdfWeb.Rendering.RequestSteps

/-! The time-out of the tiles that a session counts as being rendered. -/

namespace NdcOdfWeb.Rendering

open NdcOdfWeb.Foundation
open NdcOdfWeb.Tiles

namespace Wsd

variable {S : Type} [DecidableEq S] (wsd : Wsd S) (now : Int)

/-- The condition under which `removeOutdatedTileSubscriptions` erases a name. -/
def outdates (cacheName : Text) : Bool :=
  let elapsedTime := wsd.getTileBeingRenderedElapsedTimeMs now cacheName
  elapsedTime < 0 && elapsedTime > 200

/-- The loop of `removeOutdatedTileSubscriptions` over the names from the iterator on. An
iterator is not valid any more once its name is erased: the loop has no result then.
-/
def removeOutdatedFrom : List Text → Finset Text → Option (Finset Text)
  | [], tilesBeingRendered => some tilesBeingRendered
  | cacheName :: names, tilesBeingRendered =>
      if wsd.outdates now cacheName then none
      else removeOutdatedFrom names tilesBeingRendered

/-- The tile is being rendered, since 200 ms at most. -/
def IsRecent (cacheName : Text) : Prop :=
  ∃ entry,
    wsd.tilesBeingRendered.find? (fun entry => entry.cachedName = cacheName) = some entry
    ∧ now - entry.startTime ≤ 200

/-- What the time-out leaves of a session's tiles: recent ones only, and all of them. -/
structure DropsOutdated (before after : Finset Text) : Prop where
  recent : ∀ cacheName ∈ after, wsd.IsRecent now cacheName
  kept : ∀ cacheName ∈ before, wsd.IsRecent now cacheName → cacheName ∈ after

omit [DecidableEq S] in
/-- The two comparisons of the source exclude each other. -/
theorem outdates_eq_false (cacheName : Text) : wsd.outdates now cacheName = false := by
  have never (elapsedTime : Int) : ¬ (elapsedTime < 0 ∧ elapsedTime > 200) := by
    omega
  unfold outdates
  dsimp only
  rw [← Bool.decide_and, decide_eq_false_iff_not]
  exact never _

omit [DecidableEq S] in
/-- The loop never erases, so its iterator stays valid. -/
theorem removeOutdatedFrom_eq (names : List Text) (tilesBeingRendered : Finset Text)
    : wsd.removeOutdatedFrom now names tilesBeingRendered = some tilesBeingRendered := by
  induction names with
  | nil => rfl
  | cons cacheName names ih =>
      rw [removeOutdatedFrom, outdates_eq_false, if_neg Bool.false_ne_true]
      exact ih

/-- The loop of a session leaves what `removeOutdatedTileSubscriptions` does. -/
theorem removeOutdatedFrom_session (id : S)
    : wsd.removeOutdatedFrom now ((wsd.session id).tilesBeingRendered.sort (· ≤ ·))
        (wsd.session id).tilesBeingRendered
      = some ((wsd.removeOutdatedTileSubscriptions now id).session id).tilesBeingRendered := by
  rw [removeOutdatedFrom_eq, removeOutdatedTileSubscriptions_eq]

/-- Nothing is ever dropped: what is left is recent exactly when everything was. -/
theorem removeOutdatedTileSubscriptions_drops_iff (id : S)
    : ∃ after,
        wsd.removeOutdatedFrom now ((wsd.session id).tilesBeingRendered.sort (· ≤ ·))
            (wsd.session id).tilesBeingRendered
          = some after
        ∧ ((wsd.removeOutdatedTileSubscriptions now id).session id).tilesBeingRendered = after
        ∧ (wsd.DropsOutdated now (wsd.session id).tilesBeingRendered after
          ↔ ∀ cacheName ∈ (wsd.session id).tilesBeingRendered, wsd.IsRecent now cacheName) := by
  refine ⟨_, removeOutdatedFrom_session wsd now id, rfl, ?_⟩
  rw [removeOutdatedTileSubscriptions_eq]
  constructor
  · intro drops
    exact drops.recent
  · intro recent
    exact ⟨recent, fun _ member _ => member⟩

end Wsd

/-- A session waits since the time 0 for a tile. -/
def waitingSession : Wsd Nat :=
  { (System.start (S := Nat)).wsd with sessions := [0] }.subscribeToTileRendering 0 originTile 0

/-- Five seconds later the tile is still rendered, and still counted. -/
theorem stalledTile_is_kept
    : ¬ waitingSession.DropsOutdated 5000 (waitingSession.session 0).tilesBeingRendered
        ((waitingSession.removeOutdatedTileSubscriptions 5000 0).session 0).tilesBeingRendered := by
  intro drops
  have counted : cacheFileName originTile ∈ (waitingSession.session 0).tilesBeingRendered := by
    decide +kernel
  rw [Wsd.removeOutdatedTileSubscriptions_eq] at drops
  obtain ⟨entry, found, recent⟩ := drops.recent _ counted
  have started
      : (waitingSession.tilesBeingRendered.find?
          (fun entry => entry.cachedName = cacheFileName originTile)).map (·.startTime)
        = some 0 := by
    decide +kernel
  rw [found, Option.map_some, Option.some.injEq] at started
  rw [started] at recent
  exact absurd recent (by decide)

end NdcOdfWeb.Rendering
