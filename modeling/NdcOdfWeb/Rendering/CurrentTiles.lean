import NdcOdfWeb.Rendering.FreshTiles

/-! What wsd finds in its tile cache is what the office core would paint now, or an invalidation of
the tile is under way.
-/

namespace NdcOdfWeb.Rendering

open NdcOdfWeb.Foundation
open NdcOdfWeb.Protocol
open NdcOdfWeb.Tiles
open NdcOdfWeb.Queue
open NdcOdfWeb.Kit
open TileQueue

-----------------------------------------------------------------------------------------
-- Messages in the queue
-----------------------------------------------------------------------------------------

/-- An invalidation is a callback. -/
theorem head?_allInvalidation (payload : InvalidationPayload)
    : (tokenize ' ' (allInvalidation payload)).head? = some "callback".toList := by
  have tokens := tokenize_invalidationMessage allViews payload
  rw [allInvalidation, tokens]
  rfl

/-- A message that is no callback invalidates nothing. -/
theorem noInvalidation_of_head {message : Payload}
    (other : (tokenize ' ' message).head? ≠ some "callback".toList)
    : NoInvalidation message := by
  intro view rest tokens
  rw [tokens] at other
  exact other rfl

/-- A request for a tile invalidates nothing. -/
theorem noInvalidation_of_isTile {message : Payload} (tile : isTile message = true)
    : NoInvalidation message := by
  rw [isTile, matchPrefix, List.isPrefixOf_iff_prefix] at tile
  obtain ⟨rest, rfl⟩ := tile
  obtain ⟨word, tokens, shape⟩ :=
    @Sessions.tokenize_start "tile".toList (by decide) (by decide) rest
  refine noInvalidation_of_head ?_
  rw [shape, List.head?_cons]
  intro same
  have letters := Option.some.inj same
  exact absurd (List.cons.inj letters).1 (by decide)

/-- The view that a message of `ViewCallback` names. -/
theorem noInvalidation_callbackMessage (view : View) {type : Int32} (other : type ≠ 0)
    (payload : Text)
    : NoInvalidation (callbackMessage view.name (showInt type.toInt) payload) := by
  intro name rest tokens
  rw [tokenize_callbackMessage view (showInt_ne_nil _) (showInt_lineWord _)] at tokens
  have same : showInt type.toInt = showInt 0 :=
    (List.cons.inj (List.cons.inj (List.cons.inj tokens).2).2).1
  exact other (Int32.toInt_inj.mp (showInt_inj same))

/-- The message of a callback of another type. -/
theorem noInvalidation_viewCallbackMessage (viewId : Int32) {type : Int32} (other : type ≠ 0)
    (targetViewId : Option Int32) (payload : Text)
    : NoInvalidation (viewCallbackMessage viewId type targetViewId payload) := by
  unfold viewCallbackMessage
  dsimp only
  split
  · exact noInvalidation_callbackMessage allViews other payload
  · split
    · exact noInvalidation_callbackMessage
        ⟨_, List.append_ne_nil_of_left_ne_nil (by decide) _, exceptName_lineWord targetViewId⟩ other
        payload
    · exact noInvalidation_callbackMessage ⟨_, showInt_ne_nil _, showInt_lineWord _⟩ other payload

/-- An invalidation is always for all views. -/
theorem viewCallbackMessage_invalidateTiles (viewId : Int32) (targetViewId : Option Int32)
    (payload : InvalidationPayload)
    : viewCallbackMessage viewId invalidateTilesType targetViewId payload.text
      = allInvalidation payload := by
  have zero : showInt invalidateTilesType.toInt = "0".toList := by decide
  rw [viewCallbackMessage, if_pos (.inl rfl), zero]
  rfl

/-- A message put by the loop is put into the list. -/
theorem put_queue {viewIdOf : Text → Except Exception Text} {queue next : TileQueue}
    {message : Payload} (done : queue.put viewIdOf message = .ok next)
    : putMessage viewIdOf queue.queue message = .ok next.queue := by
  unfold TileQueue.put at done
  split at done
  · cases done
  · obtain ⟨messages, put, same⟩ := bind_ok done
    cases same
    exact put

/-- What the kit takes is the message for an invalidation, or none. -/
theorem taken_payload {queue next : TileQueue} {payload : Payload}
    (shared : SharedQueue queue.queue) (taken : queue.get = some (.ok payload, next))
    : (∃ invalidation, payload = allInvalidation invalidation) ∨ NoInvalidation payload := by
  obtain ⟨front, rest, shape, result, -⟩ := get_cases taken
  rcases getMessage_waiting shape with ⟨-, first⟩ | ⟨-, tile⟩
  · rw [first] at result
    cases result
    exact shared payload (by rw [shape]; exact List.mem_cons_self)
  · exact .inr (noInvalidation_of_isTile (tile payload result.symm))

-----------------------------------------------------------------------------------------
-- What is under way
-----------------------------------------------------------------------------------------

/-- What a frame does to the tiles of a session's view: a message of the session may remove some,
and painted tiles are stored.
-/
def KitFrame.deliveries {C : Type} (id : Text) (nViewId : Int32)
    : KitFrame C → List (Delivery CacheKey C)
  | client other message =>
      if other = id then
        [.drop { key | ∃ tile, cacheKey tile = key ∧ Removes nViewId message tile }]
      else []
  | tiles painted => painted.map (fun tile => .store (cacheKey tile.1) tile.2)

namespace CacheSystem

variable {D C : Type}

/-- The points of the invalidations that the kit has not handled. -/
def pendingPoints (system : CacheSystem D C) : Set (Int32 × (Int × Int)) :=
  { point |
    (∃ payload ∈ system.untold, point ∈ payload.points)
    ∨ QueuedPoint system.queue.queue point
    ∨ ∃ payload, system.input = some (allInvalidation payload) ∧ point ∈ payload.points }

/-- The keys of the tiles that the kit is going to invalidate. -/
def pendingKeys (docType : LibreOfficeKitDocumentType) (system : CacheSystem D C)
    : Set CacheKey :=
  { key | ∃ point ∈ system.pendingPoints, InTile docType key point }

/-- What the frames on their way to wsd do to the tiles of a session's view. -/
def deliveries (id : Text) (nViewId : Int32) (system : CacheSystem D C)
    : List (Delivery CacheKey C) :=
  system.toWsd.flatMap (KitFrame.deliveries id nViewId)

/-- The session has its view, in wsd and in the kit, where it is active. -/
structure Attends (docType : LibreOfficeKitDocumentType) (id : Text) (nViewId : Int32)
    (system : CacheSystem D C)
    : Prop where
  session : system.sessions id = some nViewId
  view
    : ∃ view ∈ system.views,
        (view.id = id ∧ view.viewId ≠ -1)
        ∧ Active view.session
        ∧ view.session.docType = docType

/-- The session is there, and a change of the document comes with invalidations of all tiles that
look different.
-/
def Meets (core : OfficeCore D C) (docType : LibreOfficeKitDocumentType) (id : Text)
    (nViewId : Int32) (system : CacheSystem D C) (event : CacheEvent D)
    : Prop :=
  system.Attends docType id nViewId
  ∧ match event with
    | .change document payloads =>
        ∀ tile,
          Shown docType nViewId (cacheKey tile)
          → core.render document (cacheKey tile) ≠ core.render system.document (cacheKey tile)
          → ∃ payload ∈ payloads, ∃ point ∈ payload.points, InTile docType (cacheKey tile) point
    | _ => True

/-- The keys of a view's tiles. -/
def shownKeys (docType : LibreOfficeKitDocumentType) (nViewId : Int32) : Set CacheKey :=
  { key | ∃ tile, cacheKey tile = key ∧ Shown docType nViewId key }

/-- Only known invalidations are queued, and the cache is coherent. -/
structure Current (core : OfficeCore D C) (docType : LibreOfficeKitDocumentType) (id : Text)
    (nViewId : Int32) (system : CacheSystem D C)
    : Prop where
  shared : SharedQueue system.queue.queue
  input
    : ∀ payload, system.input = some payload
      → (∃ invalidation, payload = allInvalidation invalidation) ∨ NoInvalidation payload
  coherent
    : Coherent (shownKeys docType nViewId) (core.render system.document)
        (system.pendingKeys docType) (system.deliveries id nViewId) system.cache.holds

section Steps

variable {core : OfficeCore D C} {docType : LibreOfficeKitDocumentType} {id : Text}
variable {nViewId : Int32} {system next : CacheSystem D C}

/-- Whatever is pending stays so. -/
theorem Current.pending (current : system.Current core docType id nViewId)
    (shared : SharedQueue next.queue.queue)
    (input
      : ∀ payload, next.input = some payload
        → (∃ invalidation, payload = allInvalidation invalidation) ∨ NoInvalidation payload)
    (document : next.document = system.document) (toWsd : next.toWsd = system.toWsd)
    (cache : next.cache = system.cache) (kept : system.pendingPoints ⊆ next.pendingPoints)
    : next.Current core docType id nViewId := by
  refine ⟨shared, input, ?_⟩
  rw [deliveries, document, toWsd, cache]
  refine current.coherent.change ?_ (fun _ _ changed => absurd rfl changed)
  rintro key - ⟨point, pending, inside⟩
  exact ⟨point, kept pending, inside⟩

/-- The changed points are pending now, so no tile of theirs has to be current. -/
theorem Current.change (current : system.Current core docType id nViewId) {document : D}
    {payloads : List InvalidationPayload}
    (meets : system.Meets core docType id nViewId (.change document payloads))
    : ({ system with document, untold := system.untold ++ payloads } : CacheSystem D C).Current
        core docType id nViewId := by
  refine ⟨current.shared, current.input, current.coherent.change ?_ ?_⟩
  · rintro key - ⟨point, pending, inside⟩
    refine ⟨point, pending.imp_left ?_, inside⟩
    rintro ⟨payload, member, told⟩
    exact ⟨payload, List.mem_append_left _ member, told⟩
  · rintro key ⟨tile, rfl, shown⟩ differs
    obtain ⟨payload, member, point, told, inside⟩ := meets.2 tile shown differs
    exact ⟨point, .inl ⟨payload, List.mem_append_right _ member, told⟩, inside⟩

/-- Another message is put into the queue. -/
theorem Current.putOther (current : system.Current core docType id nViewId)
    {message : Payload} (other : NoInvalidation message) {before queue : TileQueue}
    (same : before.queue = system.queue.queue)
    (put : before.put core.viewIdOf message = .ok queue)
    : ({ system with queue } : CacheSystem D C).Current core docType id nViewId := by
  have done := put_queue put
  rw [same] at done
  refine current.pending (current.shared.putOther other done) current.input rfl rfl rfl ?_
  intro point pending
  refine pending.imp_right (Or.imp_left ?_)
  exact fun queued =>
    queued.subset (fun payload member => mem_putMessage_of_mem other done member)

/-- The office core calls back for an invalidation. -/
theorem Current.tell (current : system.Current core docType id nViewId)
    {payload : InvalidationPayload} {untold : List InvalidationPayload}
    (first : system.untold = payload :: untold) {before queue : TileQueue}
    (same : before.queue = system.queue.queue)
    (put : before.put core.viewIdOf (allInvalidation payload) = .ok queue)
    : ({ system with untold, queue } : CacheSystem D C).Current core docType id nViewId := by
  have shared : SharedQueue before.queue := by
    rw [same]
    exact current.shared
  obtain ⟨messages, result, sharedNext, kept⟩ :=
    SharedQueue.putInvalidation core.viewIdOf shared payload
  cases put.symm.trans result
  refine current.pending sharedNext current.input rfl rfl rfl ?_
  rintro point (⟨other, member, told⟩ | queued | taken)
  · rw [first] at member
    rcases List.mem_cons.mp member with rfl | later
    · exact .inr (.inl (kept point (.inr told)))
    · exact .inl ⟨other, later, told⟩
  · rw [← same] at queued
    exact .inr (.inl (kept point (.inl queued)))
  · exact .inr (.inr taken)

/-- The kit takes a message, or fails to. -/
theorem Current.take (current : system.Current core docType id nViewId)
    (none' : system.input = none) {queue : TileQueue} {result : Except Exception Payload}
    (taken : system.queue.get = some (result, queue)) (running : Bool)
    : ({ system with queue, input := result.toOption, running } : CacheSystem D C).Current core
        docType id nViewId := by
  refine current.pending (current.shared.get taken) ?_ rfl rfl rfl ?_
  · intro payload input
    cases result with
    | error exception => cases input
    | ok first =>
        cases input
        exact taken_payload current.shared taken
  · rintro point (told | ⟨payload, member, inside⟩ | ⟨payload, input, -⟩)
    · exact .inl told
    · rcases mem_get_of_mem taken member with rfl | stays
      · exact .inr (.inr ⟨payload, rfl, inside⟩)
      · exact .inr (.inl ⟨payload, stays, inside⟩)
    · rw [none'] at input
      cases input

/-- A point stays pending unless the payload was its invalidation. -/
theorem pendingPoints_handled {payload : Payload} (input : system.input = some payload)
    {point : Int32 × (Int × Int)} (pending : point ∈ system.pendingPoints)
    : point ∈ ({ system with input := none } : CacheSystem D C).pendingPoints
      ∨ ∃ invalidation : InvalidationPayload,
          payload = allInvalidation invalidation ∧ point ∈ invalidation.points := by
  rcases pending with told | queued | ⟨invalidation, taken, inside⟩
  · exact .inl (.inl told)
  · exact .inl (.inr (.inl queued))
  · exact .inr ⟨invalidation, Option.some.inj (input.symm.trans taken), inside⟩

/-- A message that is no callback is no invalidation. -/
theorem pendingPoints_subset {payload : Payload} (input : system.input = some payload)
    (other : (tokenize ' ' payload).head? ≠ some "callback".toList)
    : system.pendingPoints
      ⊆ ({ system with input := none } : CacheSystem D C).pendingPoints := by
  intro point pending
  refine (pendingPoints_handled input pending).resolve_right ?_
  rintro ⟨invalidation, rfl, -⟩
  exact other (head?_allInvalidation invalidation)

/-- Frames are read in the order in which they were sent. -/
theorem deliveries_append (system : CacheSystem D C) (frames : List (KitFrame C))
    : ({ system with toWsd := system.toWsd ++ frames } : CacheSystem D C).deliveries id nViewId
      = system.deliveries id nViewId ++ frames.flatMap (KitFrame.deliveries id nViewId) :=
  List.flatMap_append

/-- The sessions' messages only remove tiles. -/
theorem client_drops {frames : List (Text × Text)} {message : Delivery CacheKey C}
    (member
      : message
        ∈ (frames.map (fun frame => KitFrame.client frame.1 frame.2)).flatMap
            (KitFrame.deliveries id nViewId))
    : ∃ gone, message = .drop gone := by
  obtain ⟨frame, inside, sent⟩ := List.mem_flatMap.mp member
  obtain ⟨pair, -, rfl⟩ := List.mem_map.mp inside
  unfold KitFrame.deliveries at sent
  dsimp only at sent
  split at sent
  · exact ⟨_, List.mem_singleton.mp sent⟩
  · exact absurd sent List.not_mem_nil

/-- The session sends wsd the invalidation. -/
theorem dropped_invalidation (attends : system.Attends docType id nViewId)
    {payload : InvalidationPayload} {tile : TileDesc}
    (shown : Shown docType nViewId (cacheKey tile)) {point : Int32 × (Int × Int)}
    (inTile : InTile docType (cacheKey tile) point) (inside : point ∈ payload.points)
    : cacheKey tile
      ∈ dropped
          (((runCallback core.json core.office (allInvalidation payload) system.views).frames.map
              (fun frame => (KitFrame.client frame.1 frame.2 : KitFrame C))).flatMap
            (KitFrame.deliveries id nViewId)) := by
  obtain ⟨view, member, ⟨rfl, hasView⟩, active, rfl⟩ := attends.view
  obtain ⟨message, sent, removes⟩ := removes_of_point payload shown inTile inside
  obtain ⟨after, called⟩ := callback_active core.json (core.office view.viewId) active sent
  have selected : CallbackTarget.selects ⟨true, -1, -1⟩ view.viewId = true := by
    simp [CallbackTarget.selects, hasView]
  have handed : (view.id, message)
      ∈ (runCallback core.json core.office (allInvalidation payload) system.views).frames := by
    rw [runCallback_allInvalidation]
    exact mem_forwardCallback rfl
      (fun other => callback_invalidateTiles core.json (core.office other.viewId) other payload)
      member selected called List.mem_cons_self
  have frame
      : Delivery.drop { key | ∃ tile, cacheKey tile = key ∧ Removes nViewId message tile }
        ∈ (KitFrame.client view.id message : KitFrame C).deliveries view.id nViewId := by
    rw [KitFrame.deliveries, if_pos rfl]
    exact List.mem_cons_self
  exact
    ⟨_, List.mem_flatMap.mpr ⟨_, List.mem_map_of_mem handed, frame⟩, tile, rfl, removes⟩

/-- The kit handles the message that it has taken. -/
theorem Current.process (current : system.Current core docType id nViewId)
    (attends : system.Attends docType id nViewId) {payload : Payload}
    (input : system.input = some payload) (canvas : Canvas)
    : (({ system with input := none } : CacheSystem D C).process core canvas payload).Current core
        docType id nViewId := by
  unfold CacheSystem.process
  dsimp only
  split
  · next eof =>
      have other : (tokenize ' ' payload).head? ≠ some "callback".toList := by
        rw [eof]
        decide
      exact current.pending current.shared nofun rfl rfl rfl
        (pendingPoints_subset input other)
  · split
    · refine ⟨current.shared, nofun, ?_⟩
      dsimp only [deliveries]
      rw [List.flatMap_append]
      refine current.coherent.drops (fun _ => client_drops) ?_
      rintro key ⟨tile, rfl, shown⟩ ⟨point, pending, inTile⟩
      rcases pendingPoints_handled input pending with stays | ⟨invalidation, rfl, inside⟩
      · exact .inl ⟨point, stays, inTile⟩
      · exact .inr (dropped_invalidation attends shown inTile inside)
    · next other =>
        refine ⟨current.shared, nofun, ?_⟩
        dsimp only [deliveries]
        rw [List.flatMap_append]
        have subset := pendingPoints_subset input other
        refine (current.coherent.stores ?_).change ?_ (fun _ _ changed => absurd rfl changed)
        · intro message member
          obtain ⟨frame, inside, sent⟩ := List.mem_flatMap.mp member
          obtain ⟨response, -, rfl⟩ := List.mem_map.mp inside
          obtain ⟨pair, painted, rfl⟩ := List.mem_map.mp sent
          obtain ⟨tile, -, rfl⟩ := List.mem_map.mp painted
          exact ⟨_, _, rfl, fun _ => rfl⟩
        · rintro key - ⟨point, pending, inTile⟩
          exact ⟨point, subset pending, inTile⟩

/-- A session sends a message. -/
theorem Current.send (current : system.Current core docType id nViewId) (other message : Text)
    : ({ system with toWsd := system.toWsd ++ [.client other message] } : CacheSystem D C).Current
        core docType id nViewId := by
  refine ⟨current.shared, current.input, ?_⟩
  rw [deliveries_append]
  exact current.coherent.drops
    (fun _ => @client_drops C id nViewId [(other, message)] _) (fun _ _ => .inl)

/-- Tiles are saved in the order in which they were sent. -/
theorem coherent_saveTiles {matters upstream : Set CacheKey} {values : CacheKey → C}
    {later : List (Delivery CacheKey C)} (saved : TileDesc → Bool)
    (painted : List (TileDesc × C)) {files : TileFiles C}
    (coherent
      : Coherent matters values upstream
          (painted.map (fun tile => .store (cacheKey tile.1) tile.2) ++ later) files.holds)
    : Coherent matters values upstream later
        (painted.foldl (fun files tile => files.saveTile (saved tile.1) tile.1 tile.2)
          files).holds := by
  induction painted generalizing files with
  | nil => exact coherent
  | cons tile painted ih =>
      exact ih (Coherent.mono coherent.2 (fun _ _ => TileFiles.holds_saveTile))

/-- wsd receives a frame. -/
theorem Current.receive (current : system.Current core docType id nViewId)
    (attends : system.Attends docType id nViewId) {frame : KitFrame C}
    {toWsd : List (KitFrame C)} (first : system.toWsd = frame :: toWsd) {saved : TileDesc → Bool}
    (done : ({ system with toWsd } : CacheSystem D C).receive saved frame = some next)
    : next.Current core docType id nViewId := by
  have coherent := current.coherent
  rw [deliveries, first, List.flatMap_cons] at coherent
  have rest {cache : TileFiles C}
      (kept
        : Coherent (shownKeys docType nViewId) (core.render system.document)
            (system.pendingKeys docType) (toWsd.flatMap (KitFrame.deliveries id nViewId))
            cache.holds)
      : ({ system with toWsd, cache } : CacheSystem D C).Current core docType id nViewId :=
    ⟨current.shared, current.input, kept⟩
  cases frame with
  | tiles painted =>
      cases done
      exact rest (coherent_saveTiles saved painted coherent)
  | client other message =>
      unfold CacheSystem.receive at done
      dsimp only at done
      by_cases same : other = id
      · rw [KitFrame.deliveries, if_pos same] at coherent
        rw [same, attends.session] at done
        dsimp only at done
        split at done
        · split at done
          · next cache removed =>
              cases done
              refine rest (Coherent.mono coherent.2 ?_)
              intro key value found
              exact (TileFiles.holds_invalidate removed found).symm
          · cases done
        · next plain =>
            cases done
            refine rest (Coherent.mono coherent.2 ?_)
            rintro key value found
            refine ⟨?_, found⟩
            rintro ⟨tile, -, invalidation, -⟩
            exact plain invalidation
      · rw [KitFrame.deliveries, if_neg same] at coherent
        split at done
        · cases done
          exact rest coherent
        · split at done
          · split at done
            · next cache removed =>
                cases done
                exact rest (Coherent.mono coherent
                  (fun _ _ found => (TileFiles.holds_invalidate removed found).1))
            · cases done
          · cases done
            exact rest coherent

/-- Every step keeps the cache coherent. -/
theorem Current.step {event : CacheEvent D} (current : system.Current core docType id nViewId)
    (meets : system.Meets core docType id nViewId event)
    (done : system.step core event = some next)
    : next.Current core docType id nViewId := by
  have idle {after : CacheSystem D C} (queue : after.queue.queue = system.queue.queue)
      (rest
        : after.untold = system.untold ∧ after.input = system.input
          ∧ after.document = system.document ∧ after.toWsd = system.toWsd
          ∧ after.cache = system.cache)
      : after.Current core docType id nViewId := by
    obtain ⟨untold, input, document, toWsd, cache⟩ := rest
    refine current.pending (queue ▸ current.shared) (input ▸ current.input) document toWsd cache ?_
    intro point pending
    rw [pendingPoints, untold, queue, input]
    exact pending
  unfold CacheSystem.step at done
  cases event with
  | change document payloads =>
      cases done
      exact current.change meets
  | tell viewId =>
      dsimp only at done
      split at done
      · cases done
      · next payload untold first =>
          obtain ⟨queue, called, same⟩ := Option.map_eq_some_iff.mp done
          obtain ⟨targetViewId, before, -, before', put⟩ := viewCallback_put called
          rw [viewCallbackMessage_invalidateTiles] at put
          cases same
          exact current.tell first before' put
  | callback viewId type payload =>
      dsimp only at done
      split at done
      · cases done
      · next other =>
          split at done
          · next queue called =>
              obtain ⟨targetViewId, before, -, before', put⟩ := viewCallback_put called
              cases done
              exact current.putOther
                (noInvalidation_viewCallbackMessage viewId other targetViewId payload) before' put
          · cases done
            exact current
  | put message =>
      dsimp only at done
      split at done
      · cases done
      · next other =>
          split at done
          · next queue put =>
              cases done
              exact current.putOther (noInvalidation_of_head other) rfl put
          · cases done
            exact current
  | updateCursor viewId part x y width height =>
      cases done
      exact idle rfl ⟨rfl, rfl, rfl, rfl, rfl⟩
  | removeCursor viewId =>
      cases done
      exact idle rfl ⟨rfl, rfl, rfl, rfl, rfl⟩
  | taken =>
      dsimp only at done
      split at done
      · split at done
        · next payload queue none' taken =>
            cases done
            exact current.take none' taken system.running
        · next exception queue none' taken =>
            cases done
            rw [none']
            exact current.take none' taken false
        · cases done
      · cases done
  | processed canvas =>
      obtain ⟨payload, input, same⟩ := Option.map_eq_some_iff.mp done
      cases same
      exact current.process meets.1 input canvas
  | setViews views =>
      cases done
      exact idle rfl ⟨rfl, rfl, rfl, rfl, rfl⟩
  | send other message =>
      cases done
      exact current.send other message
  | setSessions sessions =>
      cases done
      exact idle rfl ⟨rfl, rfl, rfl, rfl, rfl⟩
  | received saved =>
      dsimp only at done
      split at done
      · cases done
      · next frame toWsd first => exact current.receive meets.1 first done

end Steps

-----------------------------------------------------------------------------------------
-- Runs
-----------------------------------------------------------------------------------------

/-- A new document, with any sessions: nothing is cached, queued or under way. -/
structure Begins (system : CacheSystem D C) : Prop where
  queue : system.queue.queue = []
  input : system.input = none
  toWsd : system.toWsd = []
  names : system.cache.names = ∅

/-- An invalidation of the tile is under way: the office core is about to call back for it, it is
queued, the kit handles it, or its message to the session's client is on its way through wsd.
-/
def Invalidated (docType : LibreOfficeKitDocumentType) (id : Text) (nViewId : Int32)
    (system : CacheSystem D C) (tile : TileDesc)
    : Prop :=
  (∃ point ∈ system.pendingPoints, InTile docType (cacheKey tile) point)
  ∨ ∃ message, KitFrame.client id message ∈ system.toWsd ∧ Removes nViewId message tile

/-- At first, no tile is cached. -/
theorem Begins.current {system : CacheSystem D C} (begins : system.Begins)
    (core : OfficeCore D C) (docType : LibreOfficeKitDocumentType) (id : Text) (nViewId : Int32)
    : system.Current core docType id nViewId := by
  refine ⟨?_, ?_, ?_⟩
  · intro it member
    rw [begins.queue] at member
    exact absurd member List.not_mem_nil
  · intro payload input
    rw [begins.input] at input
    cases input
  · rw [deliveries, begins.toWsd]
    rintro key - content ⟨tile, -, found⟩
    rw [TileFiles.lookupTile_eq_some, begins.names] at found
    exact absurd found.1 (Finset.notMem_empty _)

/-- A cached tile is current, or about to be removed. -/
theorem Current.cached {core : OfficeCore D C} {docType : LibreOfficeKitDocumentType} {id : Text}
    {nViewId : Int32} {system : CacheSystem D C} (current : system.Current core docType id nViewId)
    {tile : TileDesc} (shown : Shown docType nViewId (cacheKey tile)) {content : C}
    (found : system.cache.lookupTile tile = some content)
    : content = core.render system.document (cacheKey tile)
      ∨ system.Invalidated docType id nViewId tile := by
  have fresh := current.coherent.fresh (cacheKey tile) ⟨tile, rfl, shown⟩ content ⟨tile, rfl, found⟩
  refine fresh.imp_right ?_
  rintro (pending | ⟨gone, member, inside⟩)
  · exact .inl pending
  · right
    obtain ⟨frame, sent, dropping⟩ := List.mem_flatMap.mp member
    cases frame with
    | tiles painted =>
        obtain ⟨pair, -, same⟩ := List.mem_map.mp dropping
        cases same
    | client other message =>
        unfold KitFrame.deliveries at dropping
        dsimp only at dropping
        split at dropping
        · next same =>
            cases List.mem_singleton.mp dropping
            obtain ⟨twin, equal, invalidation, part, rectangle, parsed, touches⟩ := inside
            rw [TileFiles.cacheFileName_eq_iff_key.mpr equal] at touches
            exact ⟨message, same ▸ sent, invalidation, part, rectangle, parsed, touches⟩
        · exact absurd dropping List.not_mem_nil

/-- As long as some session of a view stays active, and the office core tells of every tile that
looks different after a change, each file that wsd finds for a tile of the view shows the document
as it is now, or an invalidation of the tile is under way. So once the kit has handled all
invalidations and wsd has received what the kit has sent, all files are current.
-/
theorem cached_tiles_are_current (core : OfficeCore D C) (docType : LibreOfficeKitDocumentType)
    (id : Text) (nViewId : Int32) {start : CacheSystem D C} (begins : start.Begins)
    {events : List (CacheEvent D)}
    (meets : AllSteps (step core) (Meets core docType id nViewId) start events)
    : AllStates (step core)
        (fun system =>
          ∀ tile content,
            Shown docType nViewId (cacheKey tile)
            → system.cache.lookupTile tile = some content
            → (content = core.render system.document (cacheKey tile)
                ∨ system.Invalidated docType id nViewId tile)
              ∧ (system.pendingPoints = ∅
                → system.toWsd = []
                → content = core.render system.document (cacheKey tile)))
        start events := by
  have kept := allStates_of_meets
    (fun _ _ _ current meets done => Current.step current meets done)
    (begins.current core docType id nViewId) meets
  intro done rest reached split ran tile content shown found
  have cached := (kept done rest reached split ran).cached shown found
  refine ⟨cached, fun settled received => cached.resolve_right ?_⟩
  rintro (⟨point, pending, -⟩ | ⟨message, sent, -⟩)
  · rw [settled] at pending
    exact pending
  · rw [received] at sent
    exact absurd sent List.not_mem_nil

/-- Everything is invalid, and so is every tile. -/
theorem exists_point_empty {docType : LibreOfficeKitDocumentType} {nViewId : Int32}
    {tile : TileDesc} (shown : Shown docType nViewId (cacheKey tile))
    : ∃ point ∈ InvalidationPayload.empty.points, InTile docType (cacheKey tile) point := by
  obtain ⟨⟨posX, wide⟩, posY, high⟩ := tile_bounds tile
  have right : tile.tilePosX.toInt + tile.tileWidth.toInt < 2 ^ 31 := shown.right
  have bottom : tile.tilePosY.toInt + tile.tileHeight.toInt < 2 ^ 31 := shown.bottom
  have zero : (0 : Int32).toInt = 0 := by decide
  refine ⟨(tile.part, tile.tilePosX.toInt, tile.tilePosY.toInt), ?_, .inr rfl, ⟨?_, ?_⟩⟩
  · change (_ ∧ _) ∧ _ ∧ _
    dsimp only [wholePart]
    rw [zero, toInt_intMax]
    omega
  · exact ⟨Int.le_refl _, Int.le_refl _⟩
  · exact ⟨Int.le_add_of_nonneg_right wide.le, Int.le_add_of_nonneg_right high.le⟩

/-- All tiles show the number of the document's version. -/
def versionCore : OfficeCore Nat Nat where
  render document _ := document
  office := silentOffice
  json := noObject
  cursorJson := ⟨fun _ => none, fun _ => none⟩
  viewIdOf _ := .error .json

/-- A document with an active session. -/
def oneActive : CacheSystem Nat Nat where
  document := 0
  untold := []
  queue := .empty
  input := none
  running := true
  views := [⟨"0001".toList, 0, ⟨false, false, true, .spreadsheet, false, .clear⟩⟩]
  toWsd := []
  sessions id := if id = "0001".toList then some 0 else none
  cache := ⟨∅, fun _ => 0⟩

/-- The session is active, and everything is invalid after a change. -/
def meetsTest (system : CacheSystem Nat Nat) (event : CacheEvent Nat) : Bool :=
  (
    decide (system.sessions "0001".toList = some 0)
    && system.views.any (fun view =>
        view.id = "0001".toList && view.viewId ≠ -1 && !view.session.isCloseFrame
        && !view.session.isDisconnected && view.session.isActive
        && view.session.docType = .spreadsheet)
  )
  && match event with
    | .change _ (.empty :: _) => true
    | .change _ _ => false
    | _ => true

/-- The test checks each part of the condition. -/
theorem meets_of_test (system : CacheSystem Nat Nat) (event : CacheEvent Nat)
    (passed : meetsTest system event = true)
    : system.Meets versionCore .spreadsheet "0001".toList 0 event := by
  obtain ⟨attends, tells⟩ := Bool.and_eq_true_iff.mp passed
  obtain ⟨session, active⟩ := Bool.and_eq_true_iff.mp attends
  refine ⟨⟨of_decide_eq_true session, ?_⟩, ?_⟩
  · obtain ⟨view, member, fits⟩ := List.any_eq_true.mp active
    simp only [Bool.and_eq_true, decide_eq_true_eq, Bool.not_eq_true'] at fits
    obtain ⟨⟨⟨⟨⟨id, viewId⟩, closing⟩, disconnected⟩, isActive⟩, docType⟩ := fits
    exact ⟨view, member, ⟨id, viewId⟩, ⟨closing, disconnected, isActive⟩, docType⟩
  · cases event with
    | change document payloads =>
        intro tile shown _
        split at tells
        · next first =>
            cases first
            exact ⟨_, List.mem_cons_self, exists_point_empty shown⟩
        · cases tells
        · next other => exact absurd rfl (other document payloads)
    | _ => trivial

/-- A tile is painted and cached, the document changes, and the tile is invalidated while it is
painted once more.
-/
def paintChangePaint : List (CacheEvent Nat) :=
  [
    .put (originTile.serialize "tile".toList), .taken, .processed paintSame,
    .received (fun _ => true), .change 1 [.empty], .put (originTile.serialize "tile".toList),
    .tell 0, .taken, .processed paintSame, .taken, .processed paintSame,
    .received (fun _ => true), .received (fun _ => true)
  ]

/-- A tile is painted, its area changes, and the tile is painted again. -/
theorem cached_tiles_are_current_invalidated
    : AllStates (step versionCore)
        (fun system =>
          ∀ tile content,
            Shown .spreadsheet 0 (cacheKey tile)
            → system.cache.lookupTile tile = some content
            → (content = versionCore.render system.document (cacheKey tile)
                ∨ system.Invalidated .spreadsheet "0001".toList 0 tile)
              ∧ (system.pendingPoints = ∅
                → system.toWsd = []
                → content = versionCore.render system.document (cacheKey tile)))
        oneActive paintChangePaint :=
  cached_tiles_are_current versionCore .spreadsheet "0001".toList 0 ⟨rfl, rfl, rfl, rfl⟩
    (AllSteps.of_test meets_of_test (by decide +kernel))

example
    : (stepRun (step versionCore) oneActive (paintChangePaint.take 6)).map
          (fun system => system.cache.lookupTile originTile) = some (some 0)
      ∧ (stepRun (step versionCore) oneActive (paintChangePaint.take 12)).map
          (fun system => system.cache.lookupTile originTile) = some (some 1)
      ∧ (stepRun (step versionCore) oneActive paintChangePaint).map
          (fun system => system.cache.lookupTile originTile) = some none := by
  decide +kernel

end CacheSystem

end NdcOdfWeb.Rendering
