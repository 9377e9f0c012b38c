import NdcOdfWeb.Client.TileMessages
import NdcOdfWeb.Foundation.StepRun
import NdcOdfWeb.Rendering.Entries

/-! The tile messages under way between a session and its client, and the session's list of
tiles on the fly.
-/

namespace NdcOdfWeb.Client

open NdcOdfWeb.Foundation
open NdcOdfWeb.Protocol
open NdcOdfWeb.Tiles
open NdcOdfWeb.Rendering

/-- A session with its client: the messages that wait in the sender queue, those on the way to
the client, and the client's acknowledgments on the way back. The session's own record of
queued tiles is that of the tile messages in the queue.
-/
structure Connection where
  session : TileSession
  senderQueue : List Message
  toClient : List Message
  toServer : List Text

namespace Connection

variable (viewIdOf : Text → Except Exception Text)

/-- `ClientSession::enqueueSendMessage`; after an exception nothing has changed. -/
def enqueueSendMessage (connection : Connection) (now : Int) (data : Message) : Connection :=
  if data.firstToken = "tile:".toList then
    match TileDesc.parse data.firstLine with
    | .error _ => connection
    | .ok tile =>
        -- avoid sending a tile if it has the same wire id as the previously sent tile
        if connection.session.isShown tile then connection
        else
          match enqueue viewIdOf connection.senderQueue data with
          | .error _ => connection
          | .ok queue =>
              {
                connection with
                senderQueue := queue
                session :=
                  connection.session.traceTileBySend now tile
                    (connection.senderQueue.length = queue.length)
              }
  else
    match enqueue viewIdOf connection.senderQueue data with
    | .error _ => connection
    | .ok queue => { connection with senderQueue := queue }

/-- The id of a `tileprocessed` message. -/
def processedTileID (message : Text) : Option Text :=
  match tokenize ' ' message with
  | [_, tile] => getTokenString tile "tile".toList
  | _ => none

/-- The answer to a `tileprocessed` message without an id. -/
def syntaxError : Message :=
  .other "error: cmd=tileprocessed kind=syntax".toList (by decide) ⟨"error:".toList, by decide⟩

/-- The branch of `_handleInput` for `tileprocessed`, up to `sendRequestedTiles`. -/
def handleTileProcessed (connection : Connection) (now : Int) (message : Text) : Connection :=
  match processedTileID message with
  | none => connection.enqueueSendMessage viewIdOf now syntaxError
  | some tileID => { connection with session := connection.session.tileProcessed tileID }

/-- What happens to a connection. -/
inductive Event where
  | enqueued (now : Int) (data : Message)
  /-- Another handler: the list of tiles on the fly stays as it is. -/
  | changed (session : TileSession)
  /-- `performWrites`. -/
  | written
  /-- The client gets the next message, and answers it. -/
  | delivered
  /-- The next answer arrives. -/
  | handled (now : Int)

def step (connection : Connection) : Event → Connection
  | .enqueued now data => connection.enqueueSendMessage viewIdOf now data
  | .changed session =>
      { connection with session := { session with tilesOnFly := connection.session.tilesOnFly } }
  | .written =>
      match connection.senderQueue with
      | [] => connection
      | item :: queue =>
          { connection with senderQueue := queue, toClient := connection.toClient ++ [item] }
  | .delivered =>
      match connection.toClient with
      | [] => connection
      | item :: later =>
          {
            connection with
            toClient := later
            toServer := connection.toServer ++ (onSocketMessage item.data).toList
          }
  | .handled now =>
      match connection.toServer with
      | [] => connection
      | message :: later =>
          { connection with toServer := later }.handleTileProcessed viewIdOf now message

/-- A new session. -/
def start (canonicalViewId : { viewId : Int32 // ¬ viewId < 0 }) : Connection where
  session := .new canonicalViewId
  senderQueue := []
  toClient := []
  toServer := []

-----------------------------------------------------------------------------------------
-- Accounting
-----------------------------------------------------------------------------------------

/-- The ids of the tile messages among some messages. -/
def sentTileIDs (messages : List Message) : List Text :=
  messages.filterMap (·.sentTile.map generateTileID)

/-- The ids of the tiles under way: the message waits in the queue, or it is on its way, or the
acknowledgment is not handled yet.
-/
def underWay (connection : Connection) : List Text :=
  sentTileIDs connection.senderQueue
    ++ sentTileIDs connection.toClient
    ++ connection.toServer.filterMap processedTileID

/-- For every id, the list of tiles on the fly has as many entries as there are tiles of this id
under way.
-/
def FlowAgreement (connection : Connection) : Prop :=
  ∀ tileID,
    (connection.session.tilesOnFly.map (·.1)).count tileID = connection.underWay.count tileID

/-- A tile message that replaces a queued one is of the same view. -/
def ReplacesOwnView (connection : Connection) : Event → Prop
  | .enqueued _ (.tile tile _ _) =>
      ¬ connection.session.isShown tile.withReadId
      → ∀ queued ∈ (connection.senderQueue.filterMap Message.sentTile).find?
            (isSameTile tile.withReadId),
          queued.normalizedViewId = tile.normalizedViewId
  | _ => True

/-- The agreement, said about the lists. -/
theorem flowAgreement_iff (connection : Connection)
    : connection.FlowAgreement
      ↔ (connection.session.tilesOnFly.map (·.1)).Perm connection.underWay :=
  List.perm_iff_count.symm

variable {viewIdOf}

/-- Two states with the same record of tiles. -/
structure SameTiles (before after : Connection) : Prop where
  session : after.session = before.session
  senderQueue : sentTileIDs after.senderQueue = sentTileIDs before.senderQueue
  toClient : after.toClient = before.toClient
  toServer : after.toServer = before.toServer

/-- A step that changes none of the lists. -/
theorem SameTiles.flowAgreement {before after : Connection} (same : SameTiles before after)
    (agreement : before.FlowAgreement)
    : after.FlowAgreement := by
  intro tileID
  rw [underWay, same.session, same.senderQueue, same.toClient, same.toServer]
  exact agreement tileID

/-- Other messages than tiles change no record of tiles. -/
theorem enqueueSendMessage_other (connection : Connection) (now : Int) {data : Text}
    (noTile : ¬ "tile:".toList <+: data)
    (named : ∃ token ∈ (tokenize ' ' data).head?, token ≠ "tile:".toList)
    : SameTiles connection
        (connection.enqueueSendMessage viewIdOf now (.other data noTile named)) := by
  have ids (messages : List Message)
      : sentTileIDs messages = (messages.filterMap Message.sentTile).map generateTileID :=
    List.map_filterMap.symm
  unfold enqueueSendMessage
  rw [if_neg (Message.firstToken_other noTile named)]
  split
  · exact ⟨rfl, rfl, rfl, rfl⟩
  · next queue enqueued =>
      refine ⟨rfl, ?_, rfl, rfl⟩
      dsimp only
      rw [ids, ids, enqueue_other enqueued]

/-- A tile message that is not filtered out. -/
theorem enqueueSendMessage_tile (connection : Connection) (now : Int) (tile : TileDesc)
    (cached : Bool) (image : Text)
    : connection.enqueueSendMessage viewIdOf now (.tile tile cached image)
      = if connection.session.isShown tile.withReadId then connection
        else
          let queue :=
            connection.senderQueue.eraseP
              (fun cur => cur.sentTile.any (isSameTile tile.withReadId))
            ++ [.tile tile cached image]
          {
            connection with
            senderQueue := queue
            session :=
              connection.session.traceTileBySend now tile.withReadId
                (connection.senderQueue.length = queue.length)
          } := by
  unfold enqueueSendMessage
  rw [if_pos (Message.firstToken_tile ..), Message.firstLine_tile, Message.parse_tileLine]
  dsimp only
  split
  · rfl
  · rw [enqueue_tile]

/-- Lists that differ in the first element. -/
theorem cons_perm_cons_iff {α : Type} [DecidableEq α] {first other : α} {rest : List α}
    : (first :: rest).Perm (other :: rest) ↔ first = other := by
  constructor
  · intro same
    by_contra different
    have counts := same.count_eq other
    rw [List.count_cons_of_ne different, List.count_cons_self] at counts
    omega
  · rintro rfl
    exact List.Perm.refl _

/-- Identical tiles have one id if they are of one view. -/
theorem generateTileID_eq_iff {tile queued : TileDesc} (same : isSameTile tile queued = true)
    : generateTileID queued = generateTileID tile
      ↔ queued.normalizedViewId = tile.normalizedViewId := by
  simp only [isSameTile, Bool.and_eq_true, decide_eq_true_eq] at same
  obtain ⟨⟨⟨⟨⟨⟨⟨⟨part, -⟩, -⟩, posX⟩, posY⟩, tileWidth⟩, tileHeight⟩, -⟩, -⟩ := same
  unfold generateTileID
  rw [part, posX, posY, tileWidth, tileHeight, List.append_cancel_left_eq]
  constructor
  · intro view
    exact Int32.toInt_inj.mp (showInt_inj view)
  · intro view
    rw [view]

/-- The ids of two parts of a list. -/
theorem sentTileIDs_append (left right : List Message)
    : sentTileIDs (left ++ right) = sentTileIDs left ++ sentTileIDs right :=
  List.filterMap_append

/-- The id of a message with a tile. -/
theorem sentTileIDs_cons {message : Message} {tile : TileDesc}
    (isTile : message.sentTile = some tile) (messages : List Message)
    : sentTileIDs (message :: messages) = generateTileID tile :: sentTileIDs messages := by
  apply List.filterMap_cons_some
  rw [isTile, Option.map_some]

/-- The id of one tile. -/
theorem sentTileIDs_tile (tile : TileDesc) (cached : Bool) (image : Text)
    : sentTileIDs [.tile tile cached image] = [generateTileID tile.withReadId] :=
  rfl

/-- A new tile is counted, and it is the last one in the queue. -/
theorem perm_enqueued {α : Type} {list queued later answers : List α} {new : α}
    (same : list.Perm (queued ++ later ++ answers))
    : (list ++ [new]).Perm (queued ++ [new] ++ later ++ answers) := by
  have inFront : (new :: (queued ++ later ++ answers)).Perm (queued ++ [new] ++ later ++ answers) := by
    simp only [List.append_assoc, List.singleton_append]
    exact List.perm_middle.symm
  exact (List.perm_append_singleton new list).trans ((same.cons new).trans inFront)

/-- One id takes the place of another one. -/
theorem perm_replaced_iff {α : Type} [DecidableEq α] {list left right later answers : List α}
    {old new : α} (same : list.Perm (left ++ old :: right ++ later ++ answers))
    : list.Perm (left ++ right ++ [new] ++ later ++ answers) ↔ old = new := by
  have before : list.Perm (old :: (left ++ right ++ later ++ answers)) := by
    apply same.trans
    simp only [List.append_assoc, List.cons_append]
    exact List.perm_middle
  have after : (left ++ right ++ [new] ++ later ++ answers).Perm
      (new :: (left ++ right ++ later ++ answers)) := by
    have front := @List.perm_middle _ new (left ++ right) (later ++ answers)
    simpa only [List.append_assoc, List.cons_append, List.nil_append] using front
  constructor
  · intro both
    exact cons_perm_cons_iff.mp (before.symm.trans (both.trans after))
  · intro equal
    exact before.trans ((cons_perm_cons_iff.mpr equal).trans after.symm)

/-- Exactly if the replaced message is of the same view, the agreement is kept. -/
theorem flowAgreement_enqueue_iff {connection : Connection} (agreement : connection.FlowAgreement)
    (now : Int) (tile : TileDesc) (cached : Bool) (image : Text)
    : (connection.enqueueSendMessage viewIdOf now (.tile tile cached image)).FlowAgreement
      ↔ connection.ReplacesOwnView (.enqueued now (.tile tile cached image)) := by
  rw [flowAgreement_iff] at agreement ⊢
  rw [enqueueSendMessage_tile, ReplacesOwnView]
  by_cases shown : connection.session.isShown tile.withReadId = true
  · rw [if_pos shown]
    exact iff_of_true agreement (fun notShown => absurd shown notShown)
  · rw [if_neg shown]
    rw [imp_iff_right shown]
    obtain ⟨session, queue, toClient, toServer⟩ := connection
    dsimp only [underWay] at agreement shown ⊢
    rcases List.exists_or_eq_self_of_eraseP
        (fun cur => cur.sentTile.any (isSameTile tile.withReadId)) queue with
      same | ⟨cur, left, right, before, drops, rfl, erased⟩
    · -- nothing is replaced, and the list grows with the queue
      have longer : queue.length ≠ (queue ++ [Message.tile tile cached image]).length := by simp
      have fresh : (queue.filterMap Message.sentTile).find? (isSameTile tile.withReadId) = none := by
        rw [List.find?_filterMap, List.find?_eq_none.mpr, Option.bind_none]
        exact List.eraseP_eq_self_iff.mp same
      rw [same, fresh]
      refine iff_of_true ?_ (fun queued found => nomatch found)
      rw [decide_eq_false longer, sentTileIDs_append, TileSession.traceTileBySend]
      dsimp only
      rw [if_neg Bool.false_ne_true, List.map_append, sentTileIDs_tile, List.map_singleton]
      exact perm_enqueued agreement
    · -- the list stays as it is
      have equal : (left ++ cur :: right).length
          = (left ++ right ++ [Message.tile tile cached image]).length := by
        simp
      obtain ⟨queued, isTile, identical⟩ := (Option.any_eq_true _ _).mp drops
      have notLeft : (left.filterMap Message.sentTile).find? (isSameTile tile.withReadId)
          = none := by
        rw [List.find?_filterMap, List.find?_eq_none.mpr, Option.bind_none]
        exact before
      have found : ((left ++ cur :: right).filterMap Message.sentTile).find?
            (isSameTile tile.withReadId)
          = some queued := by
        rw [List.filterMap_append, List.filterMap_cons_some isTile, List.find?_append, notLeft,
          Option.none_or, List.find?_cons_of_pos identical]
      have queuedID : sentTileIDs (left ++ cur :: right)
          = sentTileIDs left ++ generateTileID queued :: sentTileIDs right := by
        rw [sentTileIDs_append, sentTileIDs_cons isTile]
      rw [queuedID] at agreement
      rw [erased, found, decide_eq_true equal, TileSession.traceTileBySend]
      dsimp only
      rw [if_pos rfl, sentTileIDs_append, sentTileIDs_append, sentTileIDs_tile,
        perm_replaced_iff agreement, generateTileID_eq_iff identical]
      simp only [Option.mem_def, Option.some.injEq, forall_eq']
      rfl

/-- The session as it is known to the document's tiles. -/
def tileSession (connection : Connection) : TileSession :=
  { connection.session with senderQueue := connection.senderQueue.filterMap Message.sentTile }

/-- To erase a message is to erase its tile. -/
theorem filterMap_eraseP (queue : List Message) (drops : TileDesc → Bool)
    : (queue.eraseP (fun cur => cur.sentTile.any drops)).filterMap Message.sentTile
      = (queue.filterMap Message.sentTile).eraseP drops := by
  rw [List.eraseP_filterMap]
  rfl

/-- A queue loses a message exactly if its tiles lose one. -/
theorem length_replaced (queue : List Message) (drops : TileDesc → Bool) (new : Message)
    (tile : TileDesc)
    : queue.length = (queue.eraseP (fun cur => cur.sentTile.any drops) ++ [new]).length
      ↔ ((queue.filterMap Message.sentTile).eraseP drops ++ [tile]).length
        = (queue.filterMap Message.sentTile).length := by
  have same : (queue.filterMap Message.sentTile).any drops
      = queue.any (fun cur => cur.sentTile.any drops) := by
    rw [List.any_filterMap]
    rfl
  simp only [List.length_append, List.length_singleton, List.length_eraseP, same]
  cases found : queue.any (fun cur => cur.sentTile.any drops) with
  | false => simp
  | true =>
      have first : 0 < queue.length := by
        obtain ⟨cur, member, -⟩ := List.any_eq_true.mp found
        exact List.length_pos_of_mem member
      have firstTile : 0 < (queue.filterMap Message.sentTile).length := by
        rw [← same] at found
        obtain ⟨cur, member, -⟩ := List.any_eq_true.mp found
        exact List.length_pos_of_mem member
      simp only [if_true]
      omega

/-- A tile message does to the session what it does to that of the document. -/
theorem tileSession_enqueueSendMessage {S : Type} [DecidableEq S] (wsd : Wsd S) (id : S)
    {connection : Connection} (same : wsd.session id = connection.tileSession) (now : Int)
    (tile : TileDesc) (cached : Bool) (image : Text)
    : (wsd.enqueueSendMessage now id tile.withReadId).session id
      = (connection.enqueueSendMessage viewIdOf now (.tile tile cached image)).tileSession := by
  have shown : (wsd.session id).isShown tile.withReadId
      = connection.session.isShown tile.withReadId := by
    rw [same]
    rfl
  rw [enqueueSendMessage_tile, Wsd.enqueueSendMessage, shown]
  split
  · exact same
  · have tiles : (connection.senderQueue.eraseP
            (fun cur : Message => cur.sentTile.any (isSameTile tile.withReadId))
          ++ [Message.tile tile cached image]).filterMap Message.sentTile
        = (connection.senderQueue.filterMap Message.sentTile).eraseP (isSameTile tile.withReadId)
          ++ [tile.withReadId] := by
      rw [List.filterMap_append, filterMap_eraseP]
      rfl
    have lengths := length_replaced connection.senderQueue (isSameTile tile.withReadId)
      (.tile tile cached image) tile.withReadId
    rw [Wsd.note_session, Wsd.modifySession_session, if_pos rfl, same, TileSession.enqueueTile]
    simp only [tileSession, tiles, lengths]
    rfl

-----------------------------------------------------------------------------------------
-- Steps
-----------------------------------------------------------------------------------------

/-- A message without a tile has no id. -/
theorem sentTileIDs_none {message : Message} (noTile : message.sentTile = none)
    (messages : List Message)
    : sentTileIDs (message :: messages) = sentTileIDs messages := by
  apply List.filterMap_cons_none
  rw [noTile, Option.map_none]

/-- An id is one word. -/
theorem generateTileID_clean (tile : TileDesc) : LineWord ' ' (generateTileID tile) := by
  have number (value : Int32) : LineWord ' ' (showInt value.toInt) := showInt_lineWord _
  have colon : LineWord ' ' ":".toList := by decide
  unfold generateTileID
  exact ((((((((((number _).append colon).append (number _)).append colon).append
    (number _)).append colon).append (number _)).append colon).append (number _)).append
    colon).append (number _)

/-- The acknowledgment of a tile is read as that of its id. -/
theorem processedTileID_tile (tile : TileDesc)
    : processedTileID ("tileprocessed tile=".toList ++ generateTileID tile)
      = some (generateTileID tile) := by
  have written : "tileprocessed tile=".toList
      = "tileprocessed".toList ++ ' ' :: ("tile".toList ++ ['=']) := by
    decide
  have split : tokenize ' ' ("tileprocessed tile=".toList ++ generateTileID tile)
      = ["tileprocessed".toList, word "tile" (generateTileID tile)] := by
    have id := @word_lineWord "tile" _ (by decide) (generateTileID_clean tile)
    rw [written, List.append_assoc, List.cons_append, List.append_assoc, List.singleton_append,
      tokenize_join (by decide)]
    change tokenize ' ' "tileprocessed".toList
      ++ tokenize ' ' (word "tile" (generateTileID tile)) = _
    rw [tokenize_clean (by decide) (by decide), tokenize_clean id (word_ne_nil _ _)]
    rfl
  rw [processedTileID, split]
  exact getTokenString_word (by decide) _

/-- A message is written: it goes from the queue to the client. -/
theorem flowAgreement_written {connection : Connection} (agreement : connection.FlowAgreement)
    : (connection.step viewIdOf .written).FlowAgreement := by
  rw [flowAgreement_iff] at agreement ⊢
  obtain ⟨session, queue, toClient, toServer⟩ := connection
  unfold step
  cases queue with
  | nil => exact agreement
  | cons item queue =>
      dsimp only [underWay] at agreement ⊢
      rw [sentTileIDs_append]
      cases isTile : item.sentTile with
      | none =>
          rw [sentTileIDs_none isTile] at agreement
          rw [sentTileIDs_none isTile]
          simpa [sentTileIDs] using agreement
      | some tile =>
          rw [sentTileIDs_cons isTile] at agreement
          rw [sentTileIDs_cons isTile]
          apply agreement.trans
          have front := @List.perm_middle _ (generateTileID tile)
            (sentTileIDs queue ++ sentTileIDs toClient) (toServer.filterMap processedTileID)
          simpa [sentTileIDs, List.append_assoc] using front.symm

/-- A message is delivered: the client answers with the id. -/
theorem flowAgreement_delivered {connection : Connection} (agreement : connection.FlowAgreement)
    : (connection.step viewIdOf .delivered).FlowAgreement := by
  rw [flowAgreement_iff] at agreement ⊢
  obtain ⟨session, queue, toClient, toServer⟩ := connection
  unfold step
  cases toClient with
  | nil => exact agreement
  | cons item toClient =>
      dsimp only [underWay] at agreement ⊢
      rw [List.filterMap_append]
      cases item with
      | other data noTile named =>
          rw [sentTileIDs_none rfl] at agreement
          rw [Message.data, onSocketMessage_other noTile]
          simpa using agreement
      | tile tile cached image =>
          rw [sentTileIDs_cons rfl] at agreement
          rw [onSocketMessage_tile, Option.toList_some,
            List.filterMap_cons_some (processedTileID_tile tile), List.filterMap_nil]
          apply agreement.trans
          have moved := @List.perm_append_singleton _ (generateTileID tile)
            (sentTileIDs toClient ++ toServer.filterMap processedTileID)
          simp only [List.append_assoc, List.cons_append] at moved ⊢
          exact moved.symm.append_left _

/-- An answer is handled: its tile is counted no more. -/
theorem flowAgreement_handled {connection : Connection} (agreement : connection.FlowAgreement)
    (now : Int)
    : (connection.step viewIdOf (.handled now)).FlowAgreement := by
  rw [flowAgreement_iff] at agreement ⊢
  obtain ⟨session, queue, toClient, toServer⟩ := connection
  unfold step
  cases toServer with
  | nil => exact agreement
  | cons message toServer =>
      dsimp only [underWay, handleTileProcessed] at agreement ⊢
      cases read : processedTileID message with
      | none =>
          rw [List.filterMap_cons_none read] at agreement
          have same := @enqueueSendMessage_other viewIdOf
            ⟨session, queue, toClient, toServer⟩ now
            "error: cmd=tileprocessed kind=syntax".toList (by decide) ⟨"error:".toList, by decide⟩
          dsimp only [syntaxError]
          rw [same.session, same.senderQueue, same.toClient, same.toServer]
          exact agreement
      | some tileID =>
          rw [List.filterMap_cons_some read] at agreement
          have front : (session.tilesOnFly.map (·.1)).Perm
              (tileID :: (sentTileIDs queue ++ sentTileIDs toClient
                ++ toServer.filterMap processedTileID)) :=
            agreement.trans List.perm_middle
          have erased := front.erase tileID
          have sameID : ((fun x => tileID == x) ∘ fun onFly : Text × Int => onFly.1)
              = fun onFly => decide (onFly.1 = tileID) := by
            funext onFly
            rw [Function.comp_apply, Bool.eq_iff_iff, beq_iff_eq, decide_eq_true_iff, eq_comm]
          rw [List.erase_cons_head, List.erase_eq_eraseP, List.eraseP_map, sameID] at erased
          exact erased

/-- One step, by cases on the events: only a tile that replaces one of another view breaks the
agreement.
-/
theorem flowAgreement_step_iff {connection : Connection} (agreement : connection.FlowAgreement)
    (event : Event)
    : (connection.step viewIdOf event).FlowAgreement ↔ connection.ReplacesOwnView event := by
  cases event with
  | enqueued now data =>
      cases data with
      | tile tile cached image =>
          rw [step]
          exact flowAgreement_enqueue_iff agreement now tile cached image
      | other data noTile named =>
          rw [step]
          exact iff_of_true
            ((connection.enqueueSendMessage_other now noTile named).flowAgreement agreement) trivial
  | changed session => exact iff_of_true agreement trivial
  | written => exact iff_of_true (flowAgreement_written agreement) trivial
  | delivered => exact iff_of_true (flowAgreement_delivered agreement) trivial
  | handled now => exact iff_of_true (flowAgreement_handled agreement now) trivial

end Connection

/-- In every state, the list of tiles on the fly agrees with the tiles under way, exactly if
every tile message that replaces a queued one is of the same view; and the id that the client
builds is always the one that wsd has generated.
-/
theorem flow_agrees_iff (viewIdOf : Text → Except Exception Text)
    (canonicalViewId : { viewId : Int32 // ¬ viewId < 0 }) (events : List Connection.Event)
    : (AllStates (fun connection event => some (connection.step viewIdOf event))
        Connection.FlowAgreement (.start canonicalViewId) events
      ↔ AllSteps (fun connection event => some (connection.step viewIdOf event))
          Connection.ReplacesOwnView (.start canonicalViewId) events)
      ∧ ∀ tile cached image,
          (onSocketMessage (Message.tile tile cached image).data).bind Connection.processedTileID
          = some (generateTileID tile) := by
  constructor
  · apply @allStates_iff_allSteps _ _ _ Connection.FlowAgreement
    · intro connection event next agreement ownView step
      rw [← Option.some.inj step]
      exact (Connection.flowAgreement_step_iff agreement event).mpr ownView
    · exact fun connection agreement => agreement
    · intro connection event next agreement step later
      rw [← Option.some.inj step] at later
      exact (Connection.flowAgreement_step_iff agreement event).mp later
    · exact fun tileID => rfl
    · exact stepRun_total _ _ _
  · intro tile cached image
    rw [onSocketMessage_tile, Option.bind_some, Connection.processedTileID_tile]

/-- A preview that is rendered for a view and sent to all sessions. -/
def sharedPreview (viewId : { viewId : Int32 // ¬ viewId < 0 }) : TileDesc :=
  { originTile with
    id := 0
    broadcast := true
    wireId := 0
    valid := originTile.valid }.setNormalizedViewId viewId.1 viewId.2

/-- Two sessions of different views request the preview, one after the other. -/
def sharedPreviews : List (Rendering.Event Nat) :=
  [
    .addSession 0 ⟨0, firstView_nonneg⟩, .addSession 1 ⟨1, secondView_nonneg⟩,
    .tile 1 (sharedPreview ⟨1, secondView_nonneg⟩) emptyCache,
    .received, .taken, .rendered paintSame, .answered 0,
    .tile 0 (sharedPreview ⟨0, firstView_nonneg⟩) emptyCache,
    .received, .taken, .rendered paintSame, .answered 0
  ]

/-- The second preview replaces the first one in the queue of a session that writes none of
them: the list keeps the entry of the first, and the second one has none.
-/
theorem sharedPreview_leaves_entry
    : (∃ final,
        stepRun plainStep System.start sharedPreviews = some final
        ∧ (final.wsd.session 0).tilesOnFly.map (·.1)
          = [generateTileID (sharedPreview ⟨1, secondView_nonneg⟩)]
        ∧ (final.wsd.session 0).senderQueue.map generateTileID
          = [generateTileID (sharedPreview ⟨0, firstView_nonneg⟩)])
      ∧ ¬ (((Connection.start ⟨0, firstView_nonneg⟩).enqueueSendMessage (fun _ => .error .json) 0
            (.tile (sharedPreview ⟨1, secondView_nonneg⟩) false [])).enqueueSendMessage
              (fun _ => .error .json) 0
              (.tile (sharedPreview ⟨0, firstView_nonneg⟩) false [])).FlowAgreement := by
  constructor
  · have runs : (stepRun plainStep System.start sharedPreviews).any (fun final =>
          (final.wsd.session 0).tilesOnFly.map (·.1)
            = [generateTileID (sharedPreview ⟨1, secondView_nonneg⟩)]
          ∧ (final.wsd.session 0).senderQueue.map generateTileID
            = [generateTileID (sharedPreview ⟨0, firstView_nonneg⟩)]) := by
      decide +kernel
    obtain ⟨final, ran, found⟩ := (Option.any_eq_true _ _).mp runs
    exact ⟨final, ran, of_decide_eq_true found⟩
  · intro agreement
    have count := agreement (generateTileID (sharedPreview ⟨0, firstView_nonneg⟩))
    revert count
    decide +kernel

end NdcOdfWeb.Client
