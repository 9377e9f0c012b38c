import NdcOdfWeb.Rendering.OnFlyAgreement
import NdcOdfWeb.Rendering.SentTiles
import NdcOdfWeb.Rendering.SubscriptionVersions

/-! What is left when no tile is under way: every entry of the tile cache waits for a request or
an answer, as long as the kit answers with every tile that an entry waits for.
-/

namespace NdcOdfWeb.Rendering

open NdcOdfWeb.Foundation
open NdcOdfWeb.Protocol
open NdcOdfWeb.Tiles
open NdcOdfWeb.Queue
open TileQueue
open Wsd

-----------------------------------------------------------------------------------------
-- The kit
-----------------------------------------------------------------------------------------

/-- A request from wsd is put, and displaces tiles only for later ones. -/
theorem put_kitRequest (viewIdOf : Text → Except Exception Text) {queue : TileQueue}
    (texts : RequestTexts queue.queue) (request : KitRequest)
    (awaits : ∀ new ∈ request.tiles, Awaits queue.queue new)
    (ascending : request.tiles.Pairwise (fun earlier later => earlier.ver ≤ later.ver))
    : ∃ next,
        queue.put viewIdOf request.text = .ok next
        ∧ PutTilesSpec queue.queue request.tiles next.queue := by
  have accepted {messages : List Payload} (some' : request.text ≠ [])
      (done : putMessage viewIdOf queue.queue request.text = .ok messages)
      : queue.put viewIdOf request.text = .ok { queue with queue := messages } := by
    simp only [TileQueue.put, if_neg some', done, bind, Except.bind, pure, Except.pure]
  cases request with
  | tile desc =>
      let request : Request := ⟨.direct, desc⟩
      have older : Awaits queue.queue desc := awaits desc.component List.mem_cons_self
      obtain ⟨put, covered⟩ := putTile_covered texts request older
      refine ⟨_, accepted request.text_ne_nil (putMessage_request viewIdOf _ request),
        texts.putTile request, ?_, covered, ?_⟩
      · intro tile member
        rcases putTile_sources texts request tile member with new | old
        · exact .inr ⟨_, List.mem_cons_self, new⟩
        · exact .inl old
      · intro new member
        rw [List.mem_singleton.mp member]
        exact ⟨_, put, .refl _⟩
  | tilecombine combined =>
      have some' : (ClientMessage.combined combined).text ≠ [] := ClientMessage.text_ne_nil _
      have older (new : TileDesc) (member : new ∈ combined.tiles) : Awaits queue.queue new :=
        awaits new.component (List.mem_map_of_mem member)
      have spec := putTiles_spec texts older
        ((List.pairwise_map (f := TileDesc.component)).mp ascending)
      refine ⟨_, accepted some' (putMessage_combined viewIdOf _ combined), spec.texts, ?_,
        spec.covered, ?_⟩
      · intro tile member
        rcases spec.sources tile member with old | ⟨new, inside, same⟩
        · exact .inl old
        · exact .inr ⟨new.component, List.mem_map_of_mem inside, same⟩
      · intro new member
        obtain ⟨before, inside, rfl⟩ := List.mem_map.mp member
        exact spec.put before inside
  | canceltiles versions =>
      have some' : cancelTilesMessage versions ≠ [] := by
        have name : "canceltiles ".toList ≠ [] := by decide
        exact List.append_ne_nil_of_left_ne_nil name _
      have same := pendingTiles_cancel texts (versionTokens versions)
      refine ⟨_, accepted some' (putMessage_cancelTiles viewIdOf _ versions), ?_, ?_, ?_, ?_⟩
      · exact texts.subset (List.filter_subset_self _)
      · intro tile member
        rw [same] at member
        exact .inl member
      · rw [Covered, same]
        exact fun tile member => ⟨tile, member, .refl tile⟩
      · exact fun _ member => absurd member List.not_mem_nil

/-- What is taken leaves the queue, and nothing else does. -/
theorem Served.pending {before left : List Payload} {payload : Payload}
    (served : Served before payload left)
    : pendingTiles left ≤ pendingTiles before
      ∧ ∀ tile ∈ pendingTiles before,
          tile ∈ pendingTiles left
          ∨ (isTile payload = true ∧ tile ∈ receivedComponents payload) := by
  cases served with
  | message other =>
      have same : pendingTiles (payload :: left) = pendingTiles left := by
        rw [pendingTiles_cons, other, if_neg Bool.false_ne_true, zero_add]
      rw [same]
      exact ⟨le_refl _, fun _ => .inl⟩
  | tiles tile items =>
      rw [items]
      refine ⟨Multiset.le_add_left _ _, ?_⟩
      intro other member
      rcases Multiset.mem_add.mp member with taken | stays
      · exact .inr ⟨tile, taken⟩
      · exact .inl stays

section Render

/-- One of the tiles has changed, but its image cannot be encoded. -/
def encodingFails (canvas : Canvas) (tiles : List TileDesc) : Bool :=
  tiles.any (fun tile => !isUnchanged (canvas.paint tile) tile && !canvas.encodes tile)

/-- The kit does not answer the request for the tiles, or leaves this one out. -/
def leavesOut (canvas : Canvas) (tiles : List TileDesc) (tile : TileDesc) : Bool :=
  !canvas.canRender tile.normalizedViewId || isUnchanged (canvas.paint tile) tile
    || encodingFails canvas tiles

/-- A tile is painted and sent if its view is found, if it has changed, and if no changed tile of
the message fails to encode.
-/
theorem leavesOut_eq_false {canvas : Canvas} {tiles : List TileDesc} {tile : TileDesc}
    : leavesOut canvas tiles tile = false
      ↔ canvas.canRender tile.normalizedViewId = true
        ∧ isUnchanged (canvas.paint tile) tile = false
        ∧ ∀ other ∈ tiles, isUnchanged (canvas.paint other) other = false
            → canvas.encodes other = true := by
  simp [leavesOut, encodingFails, and_assoc]

variable {canvas : Canvas} {tile : TileDesc}

/-- By the branches of `renderTile`: none of those that return early is taken. -/
theorem renderTile_covers (answers : leavesOut canvas [tile] tile = false)
    : ∃ response, renderTile canvas tile = some response
        ∧ ∃ sent ∈ response.tiles, Covers sent tile := by
  obtain ⟨canRender, changed, encodes⟩ := leavesOut_eq_false.mp answers
  have encoded := encodes tile List.mem_cons_self changed
  refine ⟨.tile { tile with wireId := (canvas.paint tile).wireId }, ?_, _,
    List.mem_singleton.mpr rfl, SamePlace.refl _, Int32.le_refl _⟩
  simp [renderTile, canRender, changed, encoded]

/-- The tile is among those that are sent, as the image of each of these is encoded. -/
theorem renderCombinedTiles_covers {combined : TileCombined} (member : tile ∈ combined.tiles)
    (answers : leavesOut canvas combined.tiles tile = false)
    : ∃ response, renderCombinedTiles canvas combined = some response
        ∧ ∃ sent ∈ response.tiles, Covers sent tile := by
  obtain ⟨canRender, changed, encodes⟩ := leavesOut_eq_false.mp answers
  have sameView : tile.normalizedViewId = combined.normalizedViewId :=
    congrArg TileHeader.normalizedViewId (combined.agree tile member).1
  rw [sameView] at canRender
  have inside
      : tile ∈ combined.tiles.filter (fun tile => !isUnchanged (canvas.paint tile) tile) := by
    refine List.mem_filter.mpr ⟨member, ?_⟩
    rw [changed]
    rfl
  have encoded
      : (combined.tiles.filter (fun tile => !isUnchanged (canvas.paint tile) tile)).all
          canvas.encodes
        = true := by
    refine List.all_eq_true.mpr (fun other sent => ?_)
    obtain ⟨there, otherChanged⟩ := List.mem_filter.mp sent
    exact encodes other there (by simpa using otherChanged)
  unfold renderCombinedTiles
  dsimp only
  rw [canRender, encoded, if_neg (by decide), if_neg (by decide),
    if_neg (List.ne_nil_of_mem inside)]
  exact ⟨_, rfl, _, List.mem_map_of_mem (List.mem_map_of_mem inside), SamePlace.refl _,
    Int32.le_refl _⟩

/-- A requested tile is answered, unless the kit leaves it out; the request is read back as it
was written, and each of the two kinds of requests has its own rendering.
-/
theorem renderMessage_covers {payload : Payload} (isRequest : IsRequest payload)
    (member : tile ∈ receivedTiles payload)
    (answers : leavesOut canvas (receivedTiles payload) tile = false)
    : ∃ response, renderMessage canvas payload = some response
        ∧ ∃ sent ∈ response.tiles, Covers sent tile := by
  unfold renderMessage
  dsimp only
  rcases isRequest with ⟨request, rfl⟩ | ⟨combined, rfl⟩
  · have other : "tile".toList ≠ "tilecombine".toList := by decide
    rw [receivedTiles, request.getFirstToken_text, if_neg other, request.parse_text]
      at member answers
    obtain rfl := List.mem_singleton.mp member
    have parsed := request.parse_text
    rw [TileDesc.parse, request.tokenize_text] at parsed
    rw [request.tokenize_text, List.head?_cons, if_pos rfl, parsed]
    exact renderTile_covers answers
  · have first
        : (tokenize ' ' (combined.serialize "tilecombine".toList)).head?
          = some "tilecombine".toList := by
      rw [combined.tokenize_serialize (by decide)]
      rfl
    have other : some "tilecombine".toList ≠ some "tile".toList := by decide
    have parsed := @TileCombined.parse_serialize "tilecombine".toList (by decide) (by decide)
      combined
    rw [TileCombined.parse] at parsed
    rw [receivedTiles_combined] at member answers
    rw [first, if_neg other, if_pos rfl, parsed]
    exact renderCombinedTiles_covers member answers

end Render

-----------------------------------------------------------------------------------------
-- Tiles that are under way
-----------------------------------------------------------------------------------------

section Attending

variable {S : Type}

/-- The tile is requested, or its rendering is on the way back. -/
def Elsewhere (system : System S) (tile : TileDesc) : Prop :=
  tile ∈ tilesToKit system.wsd
  ∨ tile ∈ pendingTiles system.queue.queue
  ∨ ∃ response ∈ system.toWsd, tile ∈ response.tiles

/-- The tile is elsewhere, or being rendered. -/
def UnderWay (system : System S) (tile : TileDesc) : Prop :=
  Elsewhere system tile
  ∨ ∃ payload ∈ system.rendering, isTile payload = true ∧ tile ∈ receivedTiles payload

/-- No tile request is on its way to the kit, queued there or being rendered, and no answer is
on its way back.
-/
structure Quiet (system : System S) : Prop where
  toKit : ∀ request ∈ system.wsd.toKit, request.tiles = []
  queue : ∀ it ∈ system.queue.queue, isTile it = false
  rendering : ∀ payload ∈ system.rendering, isTile payload = false
  toWsd : system.toWsd = []

/-- No message in either direction, and none with the kit. -/
theorem Quiet.of_empty {system : System S} (toKit : system.wsd.toKit = [])
    (queue : system.queue.queue = []) (rendering : system.rendering = none)
    (toWsd : system.toWsd = [])
    : Quiet system := by
  refine ⟨?_, ?_, ?_, toWsd⟩
  · rw [toKit]
    exact fun _ member => absurd member List.not_mem_nil
  · rw [queue]
    exact fun _ member => absurd member List.not_mem_nil
  · rw [rendering]
    exact fun _ here => absurd here (Option.not_mem_none _)

/-- No queue and no channel holds the tile. -/
theorem Quiet.not_underWay {system : System S} (quiet : Quiet system) (tile : TileDesc)
    : ¬ UnderWay system tile := by
  rintro ((sent | pending | ⟨response, member, -⟩) | ⟨payload, here, isTile, -⟩)
  · obtain ⟨request, member, inside⟩ := List.mem_flatMap.mp sent
    rw [quiet.toKit request member] at inside
    exact List.not_mem_nil inside
  · have none' : system.queue.queue.filter TileQueue.isTile = [] := by
      apply List.filter_eq_nil_iff.mpr
      intro it member
      rw [quiet.queue it member]
      exact Bool.false_ne_true
    rw [pendingTiles, none'] at pending
    exact Multiset.notMem_zero tile pending
  · rw [quiet.toWsd] at member
    exact List.not_mem_nil member
  · rw [quiet.rendering payload here] at isTile
    exact Bool.false_ne_true isTile

/-- If the kit leaves out a tile, or does not answer, each entry that the tile would have ended
has another such tile under way, or in the same answer.
-/
def SkipsServed (system : System S) : Event S → Prop
  | .rendered canvas =>
      ∀ payload ∈ system.rendering, ∀ tile ∈ receivedTiles payload,
        leavesOut canvas (receivedTiles payload) tile = true
        → ∀ entry ∈ system.wsd.tilesBeingRendered,
            Closes tile entry
            → ∃ other,
                Closes other entry
                ∧ (Elsewhere system other
                  ∨ (other ∈ receivedTiles payload
                    ∧ leavesOut canvas (receivedTiles payload) other = false))
  | _ => True

/-- Every entry waits for a tile that is under way; requests come in the order of their versions.
-/
structure Attending (system : System S) : Prop where
  texts : RequestTexts system.queue.queue
  rendering : ∀ payload ∈ system.rendering, isTile payload = true → IsRequest payload
  awaits : ∀ new ∈ tilesToKit system.wsd, Awaits system.queue.queue new
  ascending : (tilesToKit system.wsd).Pairwise (fun earlier later => earlier.ver ≤ later.ver)
  sent : ∀ tile ∈ tilesToKit system.wsd, tile.ver ≤ versionOf system.wsd.tileVersion
  pending
    : ∀ tile ∈ pendingTiles system.queue.queue, tile.ver ≤ versionOf system.wsd.tileVersion
  attended : Attended Closes (UnderWay system) system.wsd.tilesBeingRendered

/-- At first, there is nothing to attend to. -/
theorem attending_start : Attending (System.start : System S) where
  texts _ member := absurd member List.not_mem_nil
  rendering _ here := nomatch here
  awaits _ member := absurd member List.not_mem_nil
  ascending := .nil
  sent _ member := absurd member List.not_mem_nil
  pending tile member := absurd member (Multiset.notMem_zero tile)
  attended _ member := absurd member List.not_mem_nil

/-- An entry needs an answer under way, and a quiet system has none. -/
theorem Attending.entries_nil {system : System S} (attending : Attending system)
    (quiet : Quiet system)
    : system.wsd.tilesBeingRendered = [] :=
  attending.attended.quiet quiet.not_underWay

/-- Without entries, nobody is subscribed. -/
theorem not_subscribed_of_nil {wsd : Wsd S} (none' : wsd.tilesBeingRendered = []) (name : Text)
    (id : S)
    : ¬ wsd.Subscribed name id := by
  rintro ⟨entry, member, -⟩
  rw [none'] at member
  exact List.not_mem_nil member

/-- A handler of wsd asks for new tiles. -/
theorem Attending.sends {system next : System S} {tiles : List TileDesc}
    (attending : Attending system) (sends : Sends system.wsd next.wsd tiles)
    (queue : next.queue.queue.filter isTile = system.queue.queue.filter isTile)
    (rendering : next.rendering = system.rendering) (toWsd : next.toWsd = system.toWsd)
    (fits : next.wsd.tileVersion < 2 ^ 31)
    : Attending next := by
  have same : pendingTiles next.queue.queue = pendingTiles system.queue.queue := by
    rw [pendingTiles, queue, pendingTiles]
  have later : versionOf system.wsd.tileVersion ≤ versionOf next.wsd.tileVersion :=
    versionOf_le sends.numbered.le fits
  have between := sends.numbered.between fits
  constructor
  · intro it member tile
    have inside := queue ▸ List.mem_filter.mpr ⟨member, tile⟩
    exact attending.texts it (List.mem_filter.mp inside).1 tile
  · rw [rendering]
    exact attending.rendering
  · intro new member tile inside
    rw [same] at inside
    rw [sends.sent] at member
    rcases List.mem_append.mp member with old | isNew
    · exact attending.awaits new old tile inside
    · exact Int32.le_trans (attending.pending tile inside) (between new isNew).1
  · rw [sends.sent]
    refine List.pairwise_append.mpr ⟨attending.ascending, sends.numbered.ascending fits, ?_⟩
    intro old isOld new isNew
    exact Int32.le_trans (attending.sent old isOld) (between new isNew).1
  · intro tile member
    rw [sends.sent] at member
    rcases List.mem_append.mp member with old | isNew
    · exact Int32.le_trans (attending.sent tile old) later
    · exact (between tile isNew).2
  · intro tile member
    rw [same] at member
    exact Int32.le_trans (attending.pending tile member) later
  · refine attending.attended.step easing sends.opened ?_ ?_
    · intro tile member
      refine .inl (.inl ?_)
      rw [sends.sent]
      exact List.mem_append_right _ member
    · intro tile entry underWay closes _
      refine ⟨tile, ?_, closes⟩
      rw [UnderWay, Elsewhere, sends.sent, same, rendering, toWsd]
      rcases underWay with (sent | elsewhere) | here
      · exact .inl (.inl (List.mem_append_left _ sent))
      · exact .inl (.inr elsewhere)
      · exact .inr here

/-- Tiles move on; each is still under way, or a later version of it is. -/
theorem Attending.moves {system next : System S} (attending : Attending system)
    (entries : next.wsd.tilesBeingRendered ⊆ system.wsd.tilesBeingRendered)
    (moved
      : ∀ tile,
          UnderWay system tile
          → ∀ entry ∈ next.wsd.tilesBeingRendered,
              Closes tile entry → ∃ other, UnderWay next other ∧ Closes other entry)
    : Attended Closes (UnderWay next) next.wsd.tilesBeingRendered :=
  attending.attended.step easing (.of_subset easing entries)
    (fun _ member => absurd member List.not_mem_nil)
    (fun tile entry underWay closes member => moved tile underWay entry member closes)

/-- The kit receives a request. -/
theorem Attending.received {system next : System S} {request : KitRequest}
    {later : List KitRequest} {viewIdOf : Text → Except Exception Text}
    (attending : Attending system) (waits : system.wsd.toKit = request :: later)
    (wsd : next.wsd = { system.wsd with toKit := later })
    (put : ∀ queue, system.queue.put viewIdOf request.text = .ok queue → next.queue = queue)
    (rendering : next.rendering = system.rendering) (toWsd : next.toWsd = system.toWsd)
    : Attending next := by
  have sent : tilesToKit system.wsd = request.tiles ++ tilesToKit next.wsd := by
    rw [tilesToKit, waits, wsd]
    rfl
  obtain ⟨ascending, ascending', apart⟩ := List.pairwise_append.mp (sent ▸ attending.ascending)
  have first (tile : TileDesc) (member : tile ∈ request.tiles) : tile ∈ tilesToKit system.wsd :=
    sent ▸ List.mem_append_left _ member
  have behind (tile : TileDesc) (member : tile ∈ tilesToKit next.wsd)
      : tile ∈ tilesToKit system.wsd :=
    sent ▸ List.mem_append_right _ member
  obtain ⟨queue, accepted, spec⟩ :=
    put_kitRequest viewIdOf attending.texts request
      (fun new member => attending.awaits new (first new member)) ascending
  rw [← put queue accepted] at spec
  constructor
  · exact spec.texts
  · rw [rendering]
    exact attending.rendering
  · intro new member tile inside
    rcases spec.sources tile inside with old | ⟨other, isFirst, rfl⟩
    · exact attending.awaits new (behind new member) tile old
    · exact apart other isFirst new member
  · exact ascending'
  · intro tile member
    rw [wsd]
    exact attending.sent tile (behind tile member)
  · intro tile member
    rw [wsd]
    rcases spec.sources tile member with old | ⟨other, isFirst, rfl⟩
    · exact attending.pending tile old
    · exact attending.sent other (first other isFirst)
  · apply attending.moves
    · rw [wsd]
      exact List.Subset.refl _
    · intro tile underWay entry _ closes
      rcases underWay with (isSent | pending | answered) | here
      · rw [sent] at isSent
        rcases List.mem_append.mp isSent with isFirst | isLater
        · obtain ⟨kept, inside, covers⟩ := spec.put tile isFirst
          exact ⟨kept, .inl (.inr (.inl inside)), closes.of_covers covers⟩
        · exact ⟨tile, .inl (.inl isLater), closes⟩
      · obtain ⟨kept, inside, covers⟩ := spec.covered tile pending
        exact ⟨kept, .inl (.inr (.inl inside)), closes.of_covers covers⟩
      · exact ⟨tile, .inl (.inr (.inr (toWsd ▸ answered))), closes⟩
      · exact ⟨tile, .inr (rendering ▸ here), closes⟩

/-- The kit takes a message from its queue. -/
theorem Attending.taken {system : System S} {payload : Payload} {queue : TileQueue}
    (attending : Attending system) (idle : system.rendering = none)
    (got : system.queue.get = some (.ok payload, queue))
    : Attending { system with queue, rendering := some payload } := by
  cases shape : system.queue.queue with
  | nil =>
      rw [TileQueue.get, shape] at got
      cases got
  | cons front rest =>
      obtain ⟨payload', left, result, served⟩ := getMessage_served shape attending.texts
      have subset := (getMessage_subperm shape).subset
      rw [result, ← shape] at subset
      simp only [TileQueue.get, shape, result] at got
      cases got
      obtain ⟨fewer, taken⟩ := Served.pending served
      constructor
      · exact attending.texts.subset subset
      · intro other here tile
        cases here
        exact getMessage_isRequest shape attending.texts result tile
      · intro new member tile inside
        exact attending.awaits new member tile (Multiset.mem_of_le fewer inside)
      · exact attending.ascending
      · exact attending.sent
      · exact fun tile member => attending.pending tile (Multiset.mem_of_le fewer member)
      · refine attending.moves (List.Subset.refl _) ?_
        intro tile underWay entry _ closes
        rcases underWay with (sent | pending | answered) | ⟨other, here, -⟩
        · exact ⟨tile, .inl (.inl sent), closes⟩
        · rcases taken tile pending with stays | ⟨isTile, inside⟩
          · exact ⟨tile, .inl (.inr (.inl stays)), closes⟩
          · obtain ⟨read, isRead, rfl⟩ := List.mem_map.mp inside
            exact ⟨read, .inr ⟨payload, rfl, isTile, isRead⟩, closes⟩
        · exact ⟨tile, .inl (.inr (.inr answered)), closes⟩
        · rw [idle] at here
          cases here

/-- The kit renders what it has taken. -/
theorem Attending.rendered {system : System S} {payload : Payload} {canvas : Canvas}
    (attending : Attending system) (here : system.rendering = some payload)
    (served : SkipsServed system (.rendered canvas))
    : Attending
        {
          system with
          rendering := none
          toWsd := system.toWsd ++ (renderMessage canvas payload).toList
        } := by
  refine ⟨attending.texts, ?_, attending.awaits, attending.ascending, attending.sent,
    attending.pending, ?_⟩
  · intro _ none'
    cases none'
  · have elsewhere {tile : TileDesc} (there : Elsewhere system tile)
        : UnderWay
            {
              system with
              rendering := none
              toWsd := system.toWsd ++ (renderMessage canvas payload).toList
            } tile := by
      rcases there with sent | pending | ⟨response, member, inside⟩
      · exact .inl (.inl sent)
      · exact .inl (.inr (.inl pending))
      · exact .inl (.inr (.inr ⟨response, List.mem_append_left _ member, inside⟩))
    have answered {tile : TileDesc} {entry : TileBeingRendered S} (isTile : isTile payload = true)
        (member : tile ∈ receivedTiles payload)
        (answers : leavesOut canvas (receivedTiles payload) tile = false)
        (closes : Closes tile entry)
        : ∃ other,
            UnderWay
              {
                system with
                rendering := none
                toWsd := system.toWsd ++ (renderMessage canvas payload).toList
              } other
            ∧ Closes other entry := by
      obtain ⟨response, sends, sent, inside, covers⟩ :=
        renderMessage_covers (attending.rendering payload here isTile) member answers
      refine ⟨sent, .inl (.inr (.inr ⟨response, ?_, inside⟩)), closes.of_covers covers⟩
      rw [sends]
      exact List.mem_append_right _ List.mem_cons_self
    refine attending.moves (List.Subset.refl _) ?_
    intro tile underWay entry member closes
    rcases underWay with there | ⟨other, same, isTile, inside⟩
    · exact ⟨tile, elsewhere there, closes⟩
    · obtain rfl := Option.some.inj (here.symm.trans same)
      by_cases skipped : leavesOut canvas (receivedTiles payload) tile = true
      · obtain ⟨other, closes', there | ⟨inside', answers⟩⟩ :=
          served payload here tile inside skipped entry member closes
        · exact ⟨other, elsewhere there, closes'⟩
        · exact answered isTile inside' answers closes'
      · exact answered isTile inside (Bool.eq_false_iff.mpr skipped) closes

/-- wsd receives an answer. -/
theorem Attending.answered [DecidableEq S] {system : System S} {response : KitResponse}
    {later : List KitResponse} (attending : Attending system) (unique : system.wsd.UniqueNames)
    (waits : system.toWsd = response :: later) (now : Int)
    : Attending
        { system with wsd := system.wsd.handleTileResponse now response.tiles, toWsd := later } := by
  obtain ⟨toKit, tileVersion⟩ := handleTileResponse_keeps now system.wsd response.tiles
  obtain ⟨fewer, ended⟩ := handleTileResponse_entries unique now response.tiles
  have sent
      : tilesToKit (system.wsd.handleTileResponse now response.tiles) = tilesToKit system.wsd := by
    rw [tilesToKit, toKit, tilesToKit]
  constructor
  · exact attending.texts
  · exact attending.rendering
  · dsimp only
    rw [sent]
    exact attending.awaits
  · dsimp only
    rw [sent]
    exact attending.ascending
  · dsimp only
    rw [sent, tileVersion]
    exact attending.sent
  · dsimp only
    rw [tileVersion]
    exact attending.pending
  · refine attending.moves fewer ?_
    intro tile underWay entry member closes
    rcases underWay with (isSent | pending | ⟨other, there, inside⟩) | here
    · exact ⟨tile, .inl (.inl (sent ▸ isSent)), closes⟩
    · exact ⟨tile, .inl (.inr (.inl pending)), closes⟩
    · rw [waits] at there
      rcases List.mem_cons.mp there with rfl | isLater
      · exact absurd closes (ended tile inside entry member)
      · exact ⟨tile, .inl (.inr (.inr ⟨other, isLater, inside⟩)), closes⟩
    · exact ⟨tile, .inr here, closes⟩

end Attending

-----------------------------------------------------------------------------------------
-- Steps
-----------------------------------------------------------------------------------------

variable {S : Type} [LinearOrder S]
variable {upperLimit : Int32 → Nat} {viewIdOf : Text → Except Exception Text}

/-- The steps of the system, as far as requested tiles are concerned. -/
inductive TileStep (viewIdOf : Text → Except Exception Text) (system : System S)
    : Event S → System S → Prop
  | sends {event next} (tiles : List TileDesc) (sends : Sends system.wsd next.wsd tiles)
    (queue : next.queue.queue.filter isTile = system.queue.queue.filter isTile)
    (rendering : next.rendering = system.rendering) (toWsd : next.toWsd = system.toWsd)
    : TileStep viewIdOf system event next
  | received {next} (request : KitRequest) (later : List KitRequest)
    (waits : system.wsd.toKit = request :: later)
    (wsd : next.wsd = { system.wsd with toKit := later })
    (put : ∀ queue, system.queue.put viewIdOf request.text = .ok queue → next.queue = queue)
    (rendering : next.rendering = system.rendering) (toWsd : next.toWsd = system.toWsd)
    : TileStep viewIdOf system .received next
  | taken (payload : Payload) (queue : TileQueue) (idle : system.rendering = none)
    (got : system.queue.get = some (.ok payload, queue))
    : TileStep viewIdOf system .taken { system with queue, rendering := some payload }
  | rendered (canvas : Canvas) (payload : Payload)
    (here : system.rendering = some payload)
    : TileStep viewIdOf system (.rendered canvas)
        {
          system with
          rendering := none
          toWsd := system.toWsd ++ (renderMessage canvas payload).toList
        }
  | answered (now : Int) (response : KitResponse) (later : List KitResponse)
    (waits : system.toWsd = response :: later)
    : TileStep viewIdOf system (.answered now)
        { system with wsd := system.wsd.handleTileResponse now response.tiles, toWsd := later }

/-- A step of a session that only changes other things. -/
theorem tileStep_ofSession {system next : System S} {event : Event S} {id : S}
    {change : Wsd S → Wsd S} {tiles : List TileDesc}
    (step : system.ofSession id change = some next)
    (sends : Sends system.wsd (change system.wsd) tiles)
    : TileStep viewIdOf system event next := by
  obtain ⟨-, rfl⟩ := ofSession_eq step
  exact .sends tiles sends rfl rfl rfl

/-- A change of a session's own fields sends no tile. -/
theorem sends_modifySession (wsd : Wsd S) (id : S) (change : TileSession → TileSession)
    : Sends wsd (wsd.modifySession id change) [] :=
  sends_of_same rfl rfl rfl

/-- A call of `sendRequestedTiles`, and what comes before it. -/
theorem sends_sendingCall {system : System S} {event : Event S} {world : World} {wsd : Wsd S}
    {id : S} (uniform : UniformLists system.wsd) (alike : AddsAlike system event)
    (call : sendingCall system.wsd event = some (world, wsd, id))
    : ∃ tiles, Sends system.wsd (wsd.sendRequestedTiles upperLimit world id) tiles := by
  obtain ⟨more, later⟩ :=
    sends_sendRequestedTiles upperLimit world (uniformLists_sendingCall uniform alike call id)
  have first : ∃ tiles, Sends system.wsd wsd tiles := by
    cases event with
    | tileprocessed other tileID world' =>
        cases call
        exact ⟨[], sends_modifySession ..⟩
    | tilecombine | invalidatetiles =>
        simp only [sendingCall] at call
        obtain ⟨⟨world', id', tiles⟩, request, same⟩ := Option.map_eq_some_iff.mp call
        cases same
        exact sends_accumulateTiles world' system.wsd id' (uniform_requestOf request)
    | _ => cases call
  obtain ⟨tiles, sends⟩ := first
  exact ⟨tiles ++ more, sends.trans later⟩

/-- Each event is one of the kinds of step, by cases on the event. -/
theorem tileStep {system next : System S} {event : Event S} (uniform : UniformLists system.wsd)
    (alike : AddsAlike system event) (step : system.step upperLimit viewIdOf event = some next)
    : TileStep viewIdOf system event next := by
  cases event with
  | addSession id canonicalViewId =>
      rw [System.step] at step
      split at step
      · cases step
      · cases step
        exact .sends [] (sends_of_same rfl rfl rfl) rfl rfl rfl
  | removeSession id =>
      rw [System.step] at step
      exact tileStep_ofSession step (sends_of_same rfl rfl rfl)
  | setVisibleArea | setZoom | setPart | setTextDocument | written =>
      rw [System.step] at step
      exact tileStep_ofSession step (sends_modifySession ..)
  | tile id tile world =>
      rw [System.step] at step
      obtain ⟨-, rfl⟩ := ofSession_eq step
      obtain ⟨tiles, sends⟩ := sends_handleTileRequest world system.wsd
        (tile.setNormalizedViewId (system.wsd.session id).canonicalViewId.1
          (system.wsd.session id).canonicalViewId.2) id
      exact .sends tiles sends rfl rfl rfl
  | tilecombine id combined world =>
      have same := sendingCall_eq step rfl
      obtain ⟨tiles, sends⟩ := @sends_sendingCall S _ upperLimit _ _ _ _ _ uniform alike rfl
      rw [System.step] at step
      obtain ⟨-, rfl⟩ := ofSession_eq step
      exact .sends tiles (same ▸ sends) rfl rfl rfl
  | tileprocessed id tileID world =>
      have same := sendingCall_eq step rfl
      obtain ⟨tiles, sends⟩ := @sends_sendingCall S _ upperLimit _ _ _ _ _ uniform alike rfl
      rw [System.step] at step
      obtain ⟨-, rfl⟩ := ofSession_eq step
      exact .sends tiles (same ▸ sends) rfl rfl rfl
  | invalidatetiles id part invalidateRect world =>
      cases call : sendingCall system.wsd (.invalidatetiles id part invalidateRect world) with
      | none =>
          rw [System.step] at step
          obtain ⟨-, rfl⟩ := ofSession_eq step
          simp only [sendingCall, requestOf] at call
          split at call
          · next none' =>
              refine .sends [] ?_ rfl rfl rfl
              dsimp only
              rw [handleTileInvalidation_eq, if_pos none']
              exact sends_of_same rfl rfl rfl
          · cases call
      | some called =>
          obtain ⟨world', wsd, id'⟩ := called
          have same := sendingCall_eq step call
          obtain ⟨tiles, sends⟩ := @sends_sendingCall S _ upperLimit _ _ _ _ _ uniform alike call
          rw [System.step] at step
          obtain ⟨-, rfl⟩ := ofSession_eq step
          exact .sends tiles (same ▸ sends) rfl rfl rfl
  | canceltiles id =>
      rw [System.step] at step
      exact tileStep_ofSession step (sends_cancelTileRequests ..)
  | received =>
      rw [System.step] at step
      split at step
      · cases step
      · next request later waits =>
          split at step
          · next queue accepted =>
              cases step
              refine .received request later waits rfl ?_ rfl rfl
              exact fun other done => Except.ok.inj (accepted.symm.trans done)
          · next exception failed =>
              cases step
              refine .received request later waits rfl ?_ rfl rfl
              exact fun other done => absurd (failed.symm.trans done) (by simp)
  | other message =>
      rw [System.step] at step
      split at step
      · next other =>
          simp only [isOther, Bool.and_eq_true, decide_eq_true_eq, ne_eq, Bool.not_eq_true',
            List.isPrefixOf_iff_prefix, Bool.eq_false_iff] at other
          obtain ⟨⟨⟨⟨⟨some', -⟩, -⟩, notTile⟩, notCallback⟩, notCancel⟩ := other
          have done := putMessage_other viewIdOf system.queue.queue notTile notCallback notCancel
          simp only [TileQueue.put, if_neg some', done, bind, Except.bind, pure,
            Except.pure] at step
          cases step
          refine .sends [] (sends_of_same rfl rfl rfl) ?_ rfl rfl
          have tile : isTile message = false := isPrefixOf_eq_false notTile
          simp [tile]
      · cases step
  | cursorUpdated | cursorRemoved =>
      cases step
      exact .sends [] (sends_of_same rfl rfl rfl) rfl rfl rfl
  | taken =>
      rw [System.step] at step
      split at step
      · next payload queue idle got =>
          cases step
          exact .taken payload queue idle got
      · cases step
  | rendered canvas =>
      rw [System.step] at step
      split at step
      · cases step
      · next payload here =>
          cases step
          exact .rendered canvas payload here
  | answered now =>
      rw [System.step] at step
      split at step
      · cases step
      · next response later waits =>
          cases step
          exact .answered now response later waits

/-- Only sending changes the version, and it counts upwards. -/
theorem TileStep.version_le {system next : System S} {event : Event S}
    (step : TileStep viewIdOf system event next)
    : system.wsd.tileVersion ≤ next.wsd.tileVersion := by
  cases step with
  | sends tiles sends => exact sends.numbered.le
  | received request later waits wsd => rw [wsd]
  | taken | rendered => exact Nat.le_refl _
  | answered now response => exact (handleTileResponse_keeps now system.wsd response.tiles).2.ge

/-- By cases on the kind of the step. -/
theorem TileStep.attending {system next : System S} {event : Event S}
    (step : TileStep viewIdOf system event next) (unique : system.wsd.UniqueNames)
    (attending : Attending system) (served : SkipsServed system event)
    (fits : next.wsd.tileVersion < 2 ^ 31)
    : Attending next := by
  cases step with
  | sends tiles sends queue rendering toWsd =>
      exact attending.sends sends queue rendering toWsd fits
  | received request later waits wsd put rendering toWsd =>
      exact attending.received waits wsd put rendering toWsd
  | taken payload queue idle got => exact attending.taken idle got
  | rendered canvas payload here => exact attending.rendered here served
  | answered now response later waits => exact attending.answered unique waits now

-----------------------------------------------------------------------------------------
-- Runs
-----------------------------------------------------------------------------------------

/-- A step that leaves no entry without a tile that ends it. -/
structure LeavesNone (system : System S) (event : Event S) : Prop where
  served : SkipsServed system event
  alike : AddsAlike system event
  uncounted : PreviewsUncounted system event

/-- What holds in the states of such a run, until the versions do not fit into `int`. -/
theorem attending_reached {events : List (Event S)}
    (leaves : AllSteps (System.step upperLimit viewIdOf) LeavesNone System.start events)
    : AllStates (System.step upperLimit viewIdOf)
        (fun system =>
          system.wsd.OnFlyAgreement ∧ (system.wsd.tileVersion < 2 ^ 31 → Attending system))
        System.start events := by
  let invariant (system : System S) : Prop :=
    WellFormed system ∧ UniformLists system.wsd ∧ system.wsd.OnFlyAgreement
    ∧ (system.wsd.tileVersion < 2 ^ 31 → Attending system)
  have holds : AllStates (System.step upperLimit viewIdOf) invariant System.start events := by
    refine allStates_of_meets ?_ ?_ leaves
    · rintro system event next ⟨wellFormed, uniform, agreement, attending⟩ leaves step
      have kind : StepKind (fun _ => True) system event next :=
        stepKind trivial (fun _ _ => trivial) step
      have tiles := tileStep uniform leaves.alike step
      refine ⟨kind.wellFormed wellFormed, uniformLists_step uniform leaves.alike step,
        kind.onFlyAgreement wellFormed agreement leaves.uncounted, ?_⟩
      intro fits
      exact tiles.attending wellFormed.uniqueNames
        (attending (Nat.lt_of_le_of_lt tiles.version_le fits)) leaves.served fits
    · exact ⟨wellFormed_start, fun _ _ member => absurd member List.not_mem_nil,
        onFlyAgreement_start, fun _ => attending_start⟩
  intro done rest reached split reaches
  exact (holds done rest reached split reaches).2.2

/-- In every state of a run in which the kit leaves out only tiles that would end no entry or that
are under way once more, combined requests are of the kind of the tiles that their session waits
with, and previews end no subscription to a counted tile: when nothing is under way, there are no
entries, and no session counts a tile as being rendered. This is so until the versions do not fit
into `int`.
-/
theorem quiet_system_waits_for_none {events : List (Event S)}
    (leaves : AllSteps (System.step upperLimit viewIdOf) LeavesNone System.start events)
    : AllStates (System.step upperLimit viewIdOf)
        (fun system =>
          system.wsd.tileVersion < 2 ^ 31
          → Quiet system
          → system.wsd.tilesBeingRendered = []
            ∧ ∀ id ∈ system.wsd.sessions, (system.wsd.session id).tilesBeingRendered.card = 0)
        System.start events := by
  intro done rest reached split reaches fits quiet
  obtain ⟨agreement, attending⟩ := attending_reached leaves done rest reached split reaches
  have none' := (attending fits).entries_nil quiet
  exact ⟨none', fun id present => agreement.count_zero present (not_subscribed_of_nil none' · id)⟩

/-- If moreover all subscriptions and registrations are in order, then no session is left waiting:
since it subscribed to a tile, it has got a rendering of at least the version that it asked for,
or canceled its tiles.
-/
theorem quiet_system_has_answered {events : List (Event S)}
    (leaves : AllSteps (System.step upperLimit viewIdOf) LeavesNone System.start events)
    (inOrder
      : AllSteps (System.step upperLimit viewIdOf) (RequestsInOrder upperLimit) System.start
          events)
    : AllStates (System.step upperLimit viewIdOf)
        (fun system =>
          system.wsd.tileVersion < 2 ^ 31
          → Quiet system
          → ∀ id ∈ system.wsd.sessions, ∀ name version, ¬ Waiting name id version system.wsd.log)
        System.start events := by
  intro done rest reached split reaches fits quiet id present name version waits
  obtain ⟨-, attending⟩ := attending_reached leaves done rest reached split reaches
  refine not_subscribed_of_nil ((attending fits).entries_nil quiet) name id ?_
  have kept := subscriptionsKept_reached inOrder done rest reached split reaches
  exact kept.newEnough.law id present name version waits

/-- A test for a step that leaves no entry: the kit leaves out only tiles without entries, combined
requests are alike, and there is no preview in the answer.
-/
def leavesNone (system : System S) (event : Event S) : Bool :=
  decide (AddsAlike system event)
  && match event with
    | .rendered canvas =>
        system.rendering.all (fun payload =>
          (receivedTiles payload).all (fun tile =>
            !leavesOut canvas (receivedTiles payload) tile || !system.wsd.hasTileBeingRendered tile))
    | .answered _ => system.toWsd.head?.all (fun response => response.tiles.all (·.id = -1))
    | _ => true

/-- The test checks each part of the condition. -/
theorem leavesNone_sound (system : System S) (event : Event S)
    (passed : leavesNone system event = true)
    : LeavesNone system event := by
  obtain ⟨alike, passed⟩ := Bool.and_eq_true_iff.mp passed
  refine ⟨?_, of_decide_eq_true alike, ?_⟩
  · cases event with
    | rendered canvas =>
        intro payload here tile member skipped entry inside closes
        rw [Option.all_eq_true] at passed
        have unasked := List.all_eq_true.mp (passed payload here) tile member
        rw [skipped, Bool.not_true, Bool.false_or, Bool.not_eq_true'] at unasked
        have absent : system.wsd.findTileBeingRendered tile = none :=
          Option.isNone_iff_eq_none.mp (Option.isSome_eq_false_iff.mp unasked)
        exact absurd closes.1.symm (find_none absent entry inside)
    | _ => trivial
  · cases event with
    | answered now =>
        intro response first
        rw [Option.all_eq_true] at passed
        refine EachStep.of_all ?_ system.wsd
        intro tile member state _ preview
        have plain := List.all_eq_true.mp (passed response first) tile member
        exact absurd (of_decide_eq_true plain) preview
    | _ => trivial

/-- A view gets two tiles of a row in one answer. It requests the first one again and cancels it
while the kit renders it; the kit finds no session for the request any more.
-/
def requestCanceled : List (Event Nat) :=
  [
    .addSession 0 ⟨1, secondView_nonneg⟩, .tilecombine 0 rowCombined emptyCache,
    .received, .taken, .rendered paintSame, .answered 0,
    .tile 0 originTile emptyCache, .received, .taken, .canceltiles 0, .received,
    .rendered { paintSame with hasSession := fun _ => false }
  ]

/-- The steps of this run leave no entry, and in the end nothing is under way. -/
theorem requestCanceled_quiet
    : AllSteps plainStep LeavesNone System.start requestCanceled
      ∧ ∃ final,
          stepRun plainStep System.start requestCanceled = some final
          ∧ Quiet final
          ∧ final.wsd.tileVersion < 2 ^ 31 := by
  refine ⟨.of_test leavesNone_sound (by decide +kernel), ?_⟩
  have runs
      : ((stepRun plainStep System.start requestCanceled).any (fun final =>
          final.wsd.toKit.length = 0 ∧ final.queue.queue = [] ∧ final.rendering = none
          ∧ final.toWsd.length = 0 ∧ final.wsd.tileVersion = 3)) := by
    decide +kernel
  obtain ⟨final, ran, found⟩ := (Option.any_eq_true _ _).mp runs
  obtain ⟨toKit, queue, rendering, toWsd, version⟩ := of_decide_eq_true found
  refine ⟨final, ran, ?_, by rw [version]; decide⟩
  exact .of_empty (List.length_eq_zero_iff.mp toKit) queue rendering
    (List.length_eq_zero_iff.mp toWsd)

/-- A run in which a request is canceled, and nothing remains. -/
theorem quiet_system_waits_for_none_canceled
    : ∃ final,
        stepRun plainStep System.start requestCanceled = some final
        ∧ Quiet final
        ∧ final.wsd.tilesBeingRendered = []
        ∧ ∀ id ∈ final.wsd.sessions, (final.wsd.session id).tilesBeingRendered.card = 0 := by
  obtain ⟨leaves, final, ran, quiet, fits⟩ := requestCanceled_quiet
  exact ⟨final, ran, quiet,
    quiet_system_waits_for_none leaves _ [] final (List.append_nil _).symm ran fits quiet⟩

/-- The same run, with every version in order. -/
theorem quiet_system_has_answered_canceled
    : ∃ final,
        stepRun plainStep System.start requestCanceled = some final
        ∧ Quiet final
        ∧ ∀ id ∈ final.wsd.sessions, ∀ name version, ¬ Waiting name id version final.wsd.log := by
  obtain ⟨leaves, final, ran, quiet, fits⟩ := requestCanceled_quiet
  have inOrder : AllSteps plainStep (RequestsInOrder (fun _ => 10)) System.start requestCanceled :=
    .of_test (fun _ _ passed => of_decide_eq_true passed) (by decide +kernel)
  exact ⟨final, ran, quiet,
    quiet_system_has_answered leaves inOrder _ [] final (List.append_nil _).symm ran fits quiet⟩

/-- A view sees the part of a text document around its origin, gets the tile there, and is told
that it is invalid, although its content stays the same.
-/
def invalidateSame : List (Event Nat) :=
  [
    .addSession 0 ⟨1, secondView_nonneg⟩,
    .setVisibleArea 0 ⟨0, 0, 1000, 1000⟩, .setZoom 0 256 256 3840 3840, .setPart 0 0,
    .setTextDocument 0 true,
    .tile 0 originTile emptyCache, .received, .taken, .rendered paintSame, .answered 0,
    .invalidatetiles 0 0 ⟨0, 0, 100, 100⟩ emptyCache, .received, .taken, .rendered paintSame
  ]

-- The kit leaves out the tile that it is asked for, since its content is unchanged: no answer
-- comes, and nothing ends the entry of the tile.
example
    : ∃ final,
        stepRun plainStep System.start invalidateSame = some final
        ∧ Quiet final
        ∧ final.wsd.tilesBeingRendered.length = 1
        ∧ 0 ∈ final.wsd.sessions
        ∧ (final.wsd.session 0).tilesBeingRendered.card = 1 := by
  have runs
      : ((stepRun plainStep System.start invalidateSame).any (fun final =>
          final.wsd.toKit.length = 0 ∧ final.queue.queue = [] ∧ final.rendering = none
          ∧ final.toWsd.length = 0 ∧ final.wsd.tilesBeingRendered.length = 1
          ∧ 0 ∈ final.wsd.sessions ∧ (final.wsd.session 0).tilesBeingRendered.card = 1)) := by
    decide +kernel
  obtain ⟨final, ran, found⟩ := (Option.any_eq_true _ _).mp runs
  obtain ⟨toKit, queue, rendering, toWsd, entries, present, counted⟩ := of_decide_eq_true found
  exact ⟨final, ran, .of_empty (List.length_eq_zero_iff.mp toKit) queue rendering
    (List.length_eq_zero_iff.mp toWsd), entries, present, counted⟩

end NdcOdfWeb.Rendering
