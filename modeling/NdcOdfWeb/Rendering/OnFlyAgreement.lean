import NdcOdfWeb.Rendering.SystemSteps

/-! The tiles that a session counts as being rendered, and the entries of the tile cache that
have it as a subscriber.
-/

namespace NdcOdfWeb.Rendering

open NdcOdfWeb.Foundation
open NdcOdfWeb.Protocol
open NdcOdfWeb.Tiles

namespace Wsd

variable {S : Type}

/-- A session is a subscriber of every tile that it counts as being rendered. -/
def OnFlyAgreement (wsd : Wsd S) : Prop :=
  ∀ id ∈ wsd.sessions, ∀ name ∈ (wsd.session id).tilesBeingRendered, wsd.Subscribed name id

/-- If a preview ends the subscriptions to its tile, no session counts this tile. -/
def EndsUncounted (wsd : Wsd S) (tile : TileDesc) : Prop :=
  wsd.Forgets tile
  → tile.id ≠ -1
  → ∀ id ∈ wsd.sessions, cacheFileName tile ∉ (wsd.session id).tilesBeingRendered

/-- A session that subscribes to nothing counts nothing. -/
theorem OnFlyAgreement.count_zero {wsd : Wsd S} (agreement : wsd.OnFlyAgreement) {id : S}
    (present : id ∈ wsd.sessions) (free : ∀ name, ¬ wsd.Subscribed name id)
    : (wsd.session id).tilesBeingRendered.card = 0 := by
  apply Finset.card_eq_zero.mpr
  apply Finset.eq_empty_of_forall_notMem
  intro name member
  exact free name (agreement id present name member)

variable [DecidableEq S]

/-- An answer to a counted subscription counts it down, unless it is a preview's. -/
theorem onFlyAgreement_saveTileAndNotify {wsd : Wsd S} (unique : wsd.UniqueNames)
    (agreement : wsd.OnFlyAgreement) (now : Int) (tile : TileDesc)
    : (saveTileAndNotify now wsd tile).OnFlyAgreement ↔ wsd.EndsUncounted tile := by
  have spec := saveTileAndNotify_spec unique now tile
  constructor
  · intro later forgets preview id present counted
    have still
        : cacheFileName tile ∈ ((saveTileAndNotify now wsd tile).session id).tilesBeingRendered :=
      (spec.traced _ id).mpr ⟨counted, fun all => preview all.2.2.1⟩
    have left := later id (spec.sessions ▸ present) _ still
    exact ((spec.subscribed _ id).mp left).2 ⟨forgets, rfl⟩
  · intro uncounted id present name counted
    rw [spec.sessions] at present
    obtain ⟨before, traced⟩ := (spec.traced name id).mp counted
    have subscribed := agreement id present name before
    refine (spec.subscribed name id).mpr ⟨subscribed, ?_⟩
    rintro ⟨forgets, named⟩
    by_cases plain : tile.id = -1
    · exact traced ⟨forgets, named, plain, present, subscribed⟩
    · rw [named] at before
      exact uncounted forgets plain id present before

/-- A subscription that a session lost while it counts the tile is not regained. -/
theorem OnFlyAgreement.before {wsd : Wsd S} (unique : wsd.UniqueNames) {now : Int}
    {tile : TileDesc} (later : (saveTileAndNotify now wsd tile).OnFlyAgreement)
    : wsd.OnFlyAgreement := by
  have spec := saveTileAndNotify_spec unique now tile
  intro id present name counted
  by_contra lost
  have still : name ∈ ((saveTileAndNotify now wsd tile).session id).tilesBeingRendered :=
    (spec.traced name id).mpr ⟨counted, fun all => lost all.2.2.2.2⟩
  have left := later id (spec.sessions ▸ present) name still
  exact lost ((spec.subscribed name id).mp left).1

/-- By induction on the tiles of the answer. -/
theorem onFlyAgreement_handleTileResponse {wsd : Wsd S} (unique : wsd.UniqueNames)
    (agreement : wsd.OnFlyAgreement) (now : Int) (tiles : List TileDesc)
    : (wsd.handleTileResponse now tiles).OnFlyAgreement
      ↔ EachStep (saveTileAndNotify now) EndsUncounted wsd tiles := by
  apply @foldl_iff_eachStep _ _ _ UniqueNames
  · exact fun state tile unique => (saveTileAndNotify_spec unique now tile).uniqueNames
  · exact fun state tile unique agreement =>
      onFlyAgreement_saveTileAndNotify unique agreement now tile
  · exact fun state tile unique later => later.before unique
  · exact unique
  · exact agreement

omit [DecidableEq S] in
/-- A step that counts no further tile and ends no subscription keeps the agreement. -/
theorem OnFlyAgreement.keep {before after : Wsd S} (agreement : before.OnFlyAgreement)
    (sessions : after.sessions = before.sessions)
    (counted
      : ∀ id name,
          name ∈ (after.session id).tilesBeingRendered
          → name ∈ (before.session id).tilesBeingRendered ∨ after.Subscribed name id)
    (subscribed : ∀ name id, before.Subscribed name id → after.Subscribed name id)
    : after.OnFlyAgreement := by
  intro id present name member
  rw [sessions] at present
  rcases counted id name member with old | new
  · exact subscribed name id (agreement id present name old)
  · exact new

/-- By cases on the step: a count comes with its subscription. -/
theorem RequestStep.onFlyAgreement {allowed : UInt32 → Prop} {before after : Wsd S}
    (step : RequestStep allowed before after) (agreement : before.OnFlyAgreement)
    : after.OnFlyAgreement := by
  cases step with
  | @subscribe now tile id present =>
      have spec := before.subscribeToTileRendering_spec now tile id
      apply agreement.keep spec.sessions
      · intro other name member
        rcases spec.traced member with old | new
        · exact .inl old
        · exact .inr ((spec.subscribed name other).mpr (.inr new))
      · exact fun name other there => (spec.subscribed name other).mpr (.inl there)
  | register now tile =>
      have spec := before.registerTileBeingRendered_spec now tile
      apply agreement.keep spec.sessions
      · intro other name member
        rw [spec.session] at member
        exact .inl member
      · exact fun name other => (spec.subscribed name other).mpr
  | @enqueue now tile id =>
      have same := enqueueSendMessage_same now before id tile
      apply agreement.keep same.sessions
      · intro other name member
        rw [enqueueSendMessage_eq, note_session, modifySession_session] at member
        split at member
        · next itself =>
            subst itself
            split at member <;> exact .inl member
        · exact .inl member
      · exact fun name other => same.subscribed.mpr
  | request id | onFly id =>
      refine agreement.keep (modifySession_sessions ..) ?_ (fun name other there => there)
      · intro other name member
        rw [modifySession_session] at member
        split at member
        · next itself =>
            subst itself
            exact .inl member
        · exact .inl member
  | version | send => exact agreement

end Wsd

-----------------------------------------------------------------------------------------
-- Runs
-----------------------------------------------------------------------------------------

variable {S : Type} [LinearOrder S]
variable {upperLimit : Int32 → Nat} {viewIdOf : Text → Except Exception Text}

/-- The previews of an answer end no subscription to a tile that is counted. -/
def PreviewsUncounted (system : System S) : Event S → Prop
  | .answered now =>
      ∀ response ∈ system.toWsd.head?,
        EachStep (Wsd.saveTileAndNotify now) Wsd.EndsUncounted system.wsd response.tiles
  | _ => True

/-- By cases on the kind of the step. -/
theorem StepKind.onFlyAgreement {system next : System S} {event : Event S}
    (kind : StepKind (fun _ => True) system event next) (wellFormed : WellFormed system)
    (agreement : system.wsd.OnFlyAgreement) (uncounted : PreviewsUncounted system event)
    : next.wsd.OnFlyAgreement := by
  cases kind with
  | quiet used step =>
      intro id present name counted
      rw [step.traced] at counted
      rw [Wsd.Subscribed, step.tilesBeingRendered]
      exact agreement id (step.sessions.subset present) name counted
  | added id unused used sessions session same log =>
      intro other present name counted
      rw [session, Function.update_apply] at counted
      rw [Wsd.Subscribed, same]
      split at counted
      · exact absurd counted (Finset.notMem_empty name)
      · next differs =>
          rw [sessions] at present
          rcases List.mem_cons.mp ((List.perm_orderedInsert _ _ _).mem_iff.mp present) with
            new | old
          · exact absurd new differs
          · exact agreement other old name counted
  | requests used steps =>
      exact Wsd.RequestSteps.keep (fun _ _ step => step.onFlyAgreement)
        (steps (fun _ _ _ => trivial)) agreement
  | canceled id used present cancels =>
      have spec := cancelTileRequests_spec system.wsd id
      rw [← cancels] at spec
      intro other inside name counted
      rw [spec.sessions] at inside
      by_cases same : other = id
      · rw [same, spec.cleared.1] at counted
        exact absurd counted (Finset.notMem_empty name)
      · rw [spec.session other same] at counted
        exact (spec.subscribed name other same).mpr (agreement other inside name counted)
  | answered now response later used waits saves =>
      rw [saves]
      refine (Wsd.onFlyAgreement_handleTileResponse wellFormed.uniqueNames agreement now
        response.tiles).mpr (uncounted response ?_)
      rw [waits]
      rfl

omit [LinearOrder S] in
/-- At first, there are no sessions. -/
theorem onFlyAgreement_start : (System.start : System S).wsd.OnFlyAgreement :=
  fun _ member => absurd member List.not_mem_nil

/-- In every state of a run, the tiles that a session counts have it as a subscriber, exactly if
no preview ends the subscriptions to a counted tile when it arrives. Then a session whose
subscriptions have all ended counts no tiles.
-/
theorem onFly_agrees_iff {events : List (Event S)} {final : System S}
    (ran : stepRun (System.step upperLimit viewIdOf) System.start events = some final)
    : (AllStates (System.step upperLimit viewIdOf) (fun system => system.wsd.OnFlyAgreement)
        System.start events
      ↔ AllSteps (System.step upperLimit viewIdOf) PreviewsUncounted System.start events)
      ∧ (AllSteps (System.step upperLimit viewIdOf) PreviewsUncounted System.start events
        → AllStates (System.step upperLimit viewIdOf)
            (fun system =>
              ∀ id ∈ system.wsd.sessions,
                (∀ name, ¬ system.wsd.Subscribed name id)
                → (system.wsd.session id).tilesBeingRendered.card = 0)
            System.start events) := by
  have equivalence
      : AllStates (System.step upperLimit viewIdOf) (fun system => system.wsd.OnFlyAgreement)
          System.start events
        ↔ AllSteps (System.step upperLimit viewIdOf) PreviewsUncounted System.start events := by
    apply @allStates_iff_allSteps _ _ _
      (fun system : System S => WellFormed system ∧ system.wsd.OnFlyAgreement)
    · intro system event next both uncounted step
      have kind : StepKind (fun _ => True) system event next :=
        stepKind trivial (fun _ _ => trivial) step
      exact ⟨kind.wellFormed both.1, kind.onFlyAgreement both.1 both.2 uncounted⟩
    · exact fun system both => both.2
    · intro system event next both step agreement
      cases event with
      | answered now =>
          intro response first
          rw [System.step] at step
          split at step
          · cases step
          · next head later waits =>
              cases step
              rw [waits] at first
              obtain rfl := Option.some.inj first
              exact (Wsd.onFlyAgreement_handleTileResponse both.1.uniqueNames both.2 now
                head.tiles).mp agreement
      | _ => trivial
    · exact ⟨wellFormed_start, onFlyAgreement_start⟩
    · exact ran
  refine ⟨equivalence, ?_⟩
  intro uncounted done rest reached split reaches id present free
  exact (equivalence.mpr uncounted done rest reached split reaches).count_zero present free

/-- A view asks for a tile, and while it is rendered for a second one of the same geometry. -/
def requestTwice (second : TileDesc) : List (Event Nat) :=
  [
    .addSession 0 ⟨1, secondView_nonneg⟩,
    .tile 0 originTile emptyCache, .received, .taken, .rendered paintSame,
    .tile 0 second emptyCache, .received, .taken, .rendered paintSame,
    .answered 0, .answered 0
  ]

/-- A tile that is requested twice and answered once. -/
theorem onFly_agrees_iff_twice
    : (AllStates plainStep (fun system => system.wsd.OnFlyAgreement) System.start
        (requestTwice originTile)
      ↔ AllSteps plainStep PreviewsUncounted System.start (requestTwice originTile))
      ∧ (AllSteps plainStep PreviewsUncounted System.start (requestTwice originTile)
        → AllStates plainStep
            (fun system =>
              ∀ id ∈ system.wsd.sessions,
                (∀ name, ¬ system.wsd.Subscribed name id)
                → (system.wsd.session id).tilesBeingRendered.card = 0)
            System.start (requestTwice originTile)) := by
  have runs : (stepRun plainStep System.start (requestTwice originTile)).isSome := by
    decide +kernel
  obtain ⟨final, ran⟩ := Option.isSome_iff_exists.mp runs
  exact onFly_agrees_iff ran

/-- The second request is a preview. Its answer ends the session's subscription, but does not
take the tile off the session's count, which nothing brings back to zero.
-/
theorem preview_leaves_count
    : ∃ final,
        stepRun plainStep System.start
          (requestTwice { originTile with id := 0, valid := by decide })
        = some final
        ∧ 0 ∈ final.wsd.sessions
        ∧ (final.wsd.session 0).tilesBeingRendered.card = 1
        ∧ final.wsd.tilesBeingRendered.length = 0
        ∧ ¬ final.wsd.OnFlyAgreement := by
  have runs
      : ((stepRun plainStep System.start
            (requestTwice { originTile with id := 0, valid := by decide })).any (fun final =>
          0 ∈ final.wsd.sessions
          ∧ (final.wsd.session 0).tilesBeingRendered.card = 1
          ∧ final.wsd.tilesBeingRendered.length = 0)) := by
    decide +kernel
  obtain ⟨final, ran, found⟩ := (Option.any_eq_true _ _).mp runs
  obtain ⟨present, counted, none'⟩ := of_decide_eq_true found
  refine ⟨final, ran, present, counted, none', ?_⟩
  intro agreement
  obtain ⟨name, member⟩ := Finset.card_pos.mp (counted ▸ Nat.one_pos)
  obtain ⟨entry, inside, -⟩ := agreement 0 present name member
  rw [List.length_eq_zero_iff.mp none'] at inside
  exact List.not_mem_nil inside

end NdcOdfWeb.Rendering
