import NdcOdfWeb.Foundation.LastWriter
import NdcOdfWeb.Foundation.StepRun
import NdcOdfWeb.Rendering.CacheFiles
import NdcOdfWeb.Rendering.SenderQueue

/-! What becomes of the messages of a sender queue: they are dequeued in order, but for those that
a newer message with the same key replaces.
-/

namespace NdcOdfWeb.Rendering

open NdcOdfWeb.Foundation
open NdcOdfWeb.Protocol
open NdcOdfWeb.Tiles
open NdcOdfWeb.Queue

/-- What a message is about, if newer ones may replace it: a tile of a view, a command whose
messages say all that there is to say, or the cursor of a view.
-/
inductive MessageKey where
  | tile (key : CacheKey)
  | command (command : Text)
  | cursor (viewId : Text)
deriving DecidableEq

/-- The commands of which the newest message is enough. -/
def isStateCommand (command : Text) : Bool :=
  command = "statusindicatorsetvalue:".toList ∨ command = "invalidatecursor:".toList
  ∨ command = "setpart:".toList

def messageKey (viewIdOf : Text → Except Exception Text) (message : Message)
    : Option MessageKey :=
  match message.sentTile with
  | some tile => some (.tile (cacheKey tile))
  | none =>
      if isStateCommand message.firstToken then some (.command message.firstToken)
      else if message.firstToken = "invalidateviewcursor:".toList then
        (viewIdOf message.jsonString).toOption.map .cursor
      else none

inductive SenderCall where
  | enqueue (item : Message)
  | dequeue

/-- A queue, with the messages that were accepted and those that were dequeued. -/
structure SenderRun where
  queue : List Message
  enqueued : List Message
  dequeued : List Message

namespace SenderRun

def start : SenderRun where
  queue := []
  enqueued := []
  dequeued := []

/-- A call; an exception leaves the queue as it is. -/
def step (viewIdOf : Text → Except Exception Text) (run : SenderRun) : SenderCall → SenderRun
  | .enqueue item =>
      match Rendering.enqueue viewIdOf run.queue item with
      | .ok queue => { run with queue, enqueued := run.enqueued ++ [item] }
      | .error _ => run
  | .dequeue =>
      match run.queue with
      | [] => run
      | item :: queue => { run with queue, dequeued := run.dequeued ++ [item] }

/-- Messages without a key are dequeued or still wait, once each and in order, and so does the
newest message of each key.
-/
structure Conserves (viewIdOf : Text → Except Exception Text) (run : SenderRun) : Prop where
  others
    : (run.dequeued ++ run.queue).filter (fun item => !isKeyed (messageKey viewIdOf) item)
      = run.enqueued.filter (fun item => !isKeyed (messageKey viewIdOf) item)
  newest
    : lastValues (messageKey viewIdOf) (run.dequeued ++ run.queue)
      = lastValues (messageKey viewIdOf) run.enqueued
  order : (run.dequeued ++ run.queue).Sublist run.enqueued

/-- The message is none that the new one replaces. -/
def staysBeside (viewIdOf : Text → Except Exception Text) (item old : Message) : Bool :=
  !isKeyed (messageKey viewIdOf) old || messageKey viewIdOf old != messageKey viewIdOf item

/-- A message that is enqueued takes out only messages with its own key. -/
def ReplacesAlike (viewIdOf : Text → Except Exception Text) (run : SenderRun) : SenderCall → Prop
  | .enqueue item =>
      ∀ queue,
        Rendering.enqueue viewIdOf run.queue item = .ok queue
        → ∃ kept,
            queue = kept ++ [item]
            ∧ kept.Sublist run.queue
            ∧ kept.filter (staysBeside viewIdOf item) = run.queue.filter (staysBeside viewIdOf item)
  | .dequeue => True

/-- If a queued tile message is taken for the tile of a new one, it is of the same view. -/
def SameView (run : SenderRun) : SenderCall → Prop
  | .enqueue item =>
      ∀ tile ∈ item.sentTile,
        ∀ old ∈ run.queue.find? (fun cur => cur.sentTile.any (isSameTile tile)),
          ∀ oldTile ∈ old.sentTile, oldTile.normalizedViewId = tile.normalizedViewId
  | .dequeue => True

end SenderRun

variable {viewIdOf : Text → Except Exception Text}

-----------------------------------------------------------------------------------------
-- One message
-----------------------------------------------------------------------------------------

/-- Taking out a message with the key of the new one. -/
theorem eraseP_staysBeside {queue : List Message} {test : Message → Bool} {item : Message}
    (alike : ∀ old ∈ queue.find? test, SenderRun.staysBeside viewIdOf item old = false)
    : (queue.eraseP test).filter (SenderRun.staysBeside viewIdOf item)
      = queue.filter (SenderRun.staysBeside viewIdOf item) := by
  induction queue with
  | nil => rfl
  | cons cur rest ih =>
      cases meets : test cur with
      | true =>
          rw [List.eraseP_cons_of_pos meets, List.filter_cons_of_neg]
          have same := alike cur (by rw [List.find?_cons_of_pos meets]; rfl)
          rw [same]
          exact Bool.false_ne_true
      | false =>
          rw [List.eraseP_cons_of_neg (by simp [meets]), List.filter_cons, List.filter_cons]
          rw [List.find?_cons_of_neg (by simp [meets])] at alike
          rw [ih alike]

/-- Taking out a message with another key is noticed. -/
theorem eraseP_takes {queue : List Message} {test : Message → Bool} {item old : Message}
    (found : queue.find? test = some old)
    (stays : SenderRun.staysBeside viewIdOf item old = true)
    : (queue.eraseP test).filter (SenderRun.staysBeside viewIdOf item)
      ≠ queue.filter (SenderRun.staysBeside viewIdOf item) := by
  intro same
  have counts := congrArg List.length same
  induction queue with
  | nil => cases found
  | cons cur rest ih =>
      cases meets : test cur with
      | true =>
          rw [List.find?_cons_of_pos meets] at found
          cases found
          rw [List.eraseP_cons_of_pos meets, List.filter_cons_of_pos stays,
            List.length_cons] at counts
          omega
      | false =>
          rw [List.find?_cons_of_neg (by simp [meets])] at found
          rw [List.eraseP_cons_of_neg (by simp [meets]), List.filter_cons, List.filter_cons]
            at counts same
          split at counts
          · next kept =>
              rw [if_pos kept, if_pos kept] at same
              exact ih found (List.cons.inj same).2 (Nat.succ.inj counts)
          · next dropped =>
              rw [if_neg dropped, if_neg dropped] at same
              exact ih found same counts

/-- Messages of one key do not stay beside each other. -/
theorem staysBeside_eq_false {item old : Message} {key : MessageKey}
    (keyed : messageKey viewIdOf old = some key) (same : messageKey viewIdOf item = some key)
    : SenderRun.staysBeside viewIdOf item old = false := by
  simp [SenderRun.staysBeside, isKeyed, keyed, same]

/-- A message that is no tile and has another first token than tiles. -/
theorem sentTile_of_firstToken {message : Message} {token : Text}
    (first : message.firstToken = token) (other : token ≠ "tile:".toList)
    : message.sentTile = none := by
  cases message with
  | tile desc cached image => exact absurd (first.symm.trans (Message.firstToken_tile ..)) other
  | other data noTile named => rfl

/-- A state is named by its command. -/
theorem messageKey_command {message : Message} {command : Text}
    (first : message.firstToken = command) (other : command ≠ "tile:".toList)
    (state : isStateCommand command = true)
    : messageKey viewIdOf message = some (.command command) := by
  rw [messageKey, sentTile_of_firstToken first other]
  dsimp only
  rw [first, if_pos state]

/-- A view's cursor is named by the view. -/
theorem messageKey_cursor {message : Message} {viewId : Text}
    (first : message.firstToken = "invalidateviewcursor:".toList)
    (view : viewIdOf message.jsonString = .ok viewId)
    : messageKey viewIdOf message = some (.cursor viewId) := by
  have noState : isStateCommand "invalidateviewcursor:".toList = false := by decide
  rw [messageKey, sentTile_of_firstToken first (by decide)]
  dsimp only
  rw [first, noState, if_neg Bool.false_ne_true, if_pos rfl, view]
  rfl

/-- A message that is no tile takes out only messages with its own key. -/
theorem replacesAlike_other (run : SenderRun) {data : Text} (noTile : ¬ "tile:".toList <+: data)
    (named : ∃ token ∈ (tokenize ' ' data).head?, token ≠ "tile:".toList)
    : run.ReplacesAlike viewIdOf (.enqueue (.other data noTile named)) := by
  intro queue enqueued
  have notTile := Message.firstToken_other noTile named
  obtain ⟨kept, deduplicated, done⟩ := bind_ok enqueued
  cases done
  refine ⟨kept, rfl, ?_⟩
  unfold deduplicate at deduplicated
  dsimp only at deduplicated
  rw [if_neg notTile] at deduplicated
  split at deduplicated
  · next state =>
      cases deduplicated
      refine ⟨List.eraseP_sublist, eraseP_staysBeside ?_⟩
      intro old found
      have meets := List.find?_some found
      have first := of_decide_eq_true meets
      exact staysBeside_eq_false (messageKey_command first notTile (decide_eq_true state))
        (messageKey_command rfl notTile (decide_eq_true state))
  · split at deduplicated
    · next cursor =>
        obtain ⟨viewId, view, done⟩ := bind_ok deduplicated
        cases done
        refine ⟨List.eraseP_sublist, eraseP_staysBeside ?_⟩
        intro old found
        have both := List.find?_some found
        rw [Bool.and_eq_true] at both
        have first := of_decide_eq_true both.1
        have view' : viewIdOf old.jsonString = .ok viewId := by
          have some' := of_decide_eq_true both.2
          cases read : viewIdOf old.jsonString with
          | error exception =>
              rw [read] at some'
              cases some'
          | ok other =>
              rw [read] at some'
              exact congrArg Except.ok (Option.some.inj some')
        exact staysBeside_eq_false (messageKey_cursor (first.trans cursor) view')
          (messageKey_cursor cursor view)
    · cases deduplicated
      exact ⟨List.Sublist.refl _, rfl⟩

/-- Of tiles that are taken for identical, those of one view have the same key. -/
theorem cacheKey_eq_of_isSameTile {tile other : TileDesc} (same : isSameTile tile other = true)
    : cacheKey other = cacheKey tile ↔ other.normalizedViewId = tile.normalizedViewId := by
  simp only [isSameTile, Bool.and_eq_true, decide_eq_true_eq] at same
  obtain ⟨⟨⟨⟨⟨⟨⟨⟨part, width⟩, height⟩, posX⟩, posY⟩, tileWidth⟩, tileHeight⟩, -⟩, -⟩ := same
  simp [cacheKey, part, width, height, posX, posY, tileWidth, tileHeight]

/-- A tile replaces a tile of its place, of whichever view. -/
theorem replacesAlike_tile (run : SenderRun) (tile : TileDesc) (cached : Bool) (image : Text)
    : run.ReplacesAlike viewIdOf (.enqueue (.tile tile cached image))
      ↔ run.SameView (.enqueue (.tile tile cached image)) := by
  have key : messageKey viewIdOf (.tile tile cached image) = some (.tile (cacheKey tile)) := rfl
  have identical {old : Message}
      (found
        : run.queue.find? (fun cur => cur.sentTile.any (isSameTile tile.withReadId)) = some old)
      : ∃ oldTile,
          old.sentTile = some oldTile
          ∧ messageKey viewIdOf old = some (.tile (cacheKey oldTile))
          ∧ (cacheKey oldTile = cacheKey tile
              ↔ oldTile.normalizedViewId = tile.normalizedViewId) := by
    have meets := List.find?_some found
    obtain ⟨oldTile, sent, same⟩ := (Option.any_eq_true _ _).mp meets
    have views := cacheKey_eq_of_isSameTile same
    refine ⟨oldTile, sent, ?_, views⟩
    rw [messageKey, sent]
  constructor
  · intro alike read isRead old found oldTile sent
    cases isRead
    obtain ⟨kept, shape, -, same⟩ := alike _ (enqueue_tile ..)
    obtain rfl := (List.append_inj_left' shape rfl)
    obtain ⟨other, sent', oldKey, views⟩ := identical found
    rw [Option.mem_def.mp sent] at sent'
    cases sent'
    refine views.mp ?_
    by_contra differs
    have stays : SenderRun.staysBeside viewIdOf (.tile tile cached image) old = true := by
      simp [SenderRun.staysBeside, oldKey, key, differs]
    exact eraseP_takes found stays same
  · intro sameView queue enqueued
    rw [enqueue_tile] at enqueued
    cases enqueued
    refine ⟨_, rfl, List.eraseP_sublist, eraseP_staysBeside ?_⟩
    intro old found
    obtain ⟨oldTile, sent, oldKey, views⟩ := identical found
    have view := sameView tile.withReadId rfl old found oldTile sent
    rw [views.mpr view] at oldKey
    exact staysBeside_eq_false oldKey key

/-- Only tiles may replace what has another key. -/
theorem replacesAlike_iff (run : SenderRun) (call : SenderCall)
    : run.ReplacesAlike viewIdOf call ↔ run.SameView call := by
  cases call with
  | dequeue => exact .rfl
  | enqueue item =>
      cases item with
      | tile tile cached image => exact replacesAlike_tile run tile cached image
      | other data noTile named =>
          refine iff_of_true (replacesAlike_other run noTile named) ?_
          exact fun tile isTile => nomatch isTile

-----------------------------------------------------------------------------------------
-- Runs
-----------------------------------------------------------------------------------------

/-- The messages with a key are those of a line in which newer ones replace older ones. -/
structure SenderLine (viewIdOf : Text → Except Exception Text) (run : SenderRun) : Prop where
  keyed
    : LastWriterLine (messageKey viewIdOf)
        (run.enqueued.filter (isKeyed (messageKey viewIdOf)))
        (run.dequeued.filter (isKeyed (messageKey viewIdOf)))
        (run.queue.filter (isKeyed (messageKey viewIdOf)))
  others
    : (run.dequeued ++ run.queue).filter (fun item => !isKeyed (messageKey viewIdOf) item)
      = run.enqueued.filter (fun item => !isKeyed (messageKey viewIdOf) item)
  order : (run.dequeued ++ run.queue).Sublist run.enqueued

/-- What is kept and sent are the last messages of their keys. -/
theorem SenderLine.conserves {run : SenderRun} (line : SenderLine viewIdOf run)
    : run.Conserves viewIdOf := by
  refine ⟨line.others, ?_, line.order⟩
  have values := line.keyed.values
  rw [← List.filter_append, lastValues_filter, lastValues_filter] at values
  exact values

/-- A finer selection of the messages that stay. -/
theorem filter_of_staysBeside {item : Message} {kept queue : List Message}
    (same
      : kept.filter (SenderRun.staysBeside viewIdOf item)
        = queue.filter (SenderRun.staysBeside viewIdOf item))
    {select : Message → Bool}
    (finer : ∀ old, select old = true → SenderRun.staysBeside viewIdOf item old = true)
    : kept.filter select = queue.filter select := by
  have both (messages : List Message)
      : messages.filter select
        = (messages.filter (SenderRun.staysBeside viewIdOf item)).filter select := by
    rw [List.filter_filter]
    refine List.filter_congr (fun old _ => ?_)
    cases selected : select old with
    | false => rfl
    | true => rw [finer old selected]; rfl
  rw [both kept, same, ← both queue]

/-- A message that replaces its own key only. -/
theorem SenderLine.enqueue {run : SenderRun} (line : SenderLine viewIdOf run) {item : Message}
    {kept : List Message} (sublist : kept.Sublist run.queue)
    (same
      : kept.filter (SenderRun.staysBeside viewIdOf item)
        = run.queue.filter (SenderRun.staysBeside viewIdOf item))
    : SenderLine viewIdOf
        { run with queue := kept ++ [item], enqueued := run.enqueued ++ [item] } := by
  refine ⟨?_, ?_, ?_⟩
  · refine line.keyed.sendAny sublist (filter_of_staysBeside same ?_)
    intro old other
    simp only [hasOtherKey, Bool.and_eq_true] at other
    simp [SenderRun.staysBeside, other.2]
  · dsimp only
    have unkeyed
        : kept.filter (fun item => !isKeyed (messageKey viewIdOf) item)
          = run.queue.filter (fun item => !isKeyed (messageKey viewIdOf) item) := by
      refine filter_of_staysBeside same ?_
      intro old none'
      simp only [SenderRun.staysBeside, none', Bool.true_or]
    rw [← List.append_assoc, List.filter_append, List.filter_append, unkeyed,
      ← List.filter_append, line.others, ← List.filter_append]
  · dsimp only
    rw [← List.append_assoc]
    exact (((List.Sublist.refl _).append sublist).trans line.order).append (.refl _)

/-- By cases on the call and on the message. -/
theorem SenderLine.step {run : SenderRun} (line : SenderLine viewIdOf run) {call : SenderCall}
    (alike : run.ReplacesAlike viewIdOf call)
    : SenderLine viewIdOf (run.step viewIdOf call) := by
  cases call with
  | enqueue item =>
      rw [SenderRun.step]
      split
      · next queue enqueued =>
          obtain ⟨kept, rfl, sublist, same⟩ := alike queue enqueued
          exact line.enqueue sublist same
      · exact line
  | dequeue =>
      rw [SenderRun.step]
      split
      · exact line
      · next item queue shape =>
          obtain ⟨keyed, others, order⟩ := line
          rw [shape] at keyed others order
          refine ⟨?_, ?_, ?_⟩
          · dsimp only
            rw [List.filter_append]
            rw [← List.singleton_append, List.filter_append] at keyed
            exact keyed.receiveAll
          · dsimp only
            rw [List.append_assoc, List.singleton_append]
            exact others
          · dsimp only
            rw [List.append_assoc, List.singleton_append]
            exact order

/-- Every message is conserved as its key allows, and replaced only by a newer one with the same
key, in exactly those runs in which a tile message is taken for an identical one only of a message
for the same view.
-/
theorem senderQueue_conserves_iff (viewIdOf : Text → Except Exception Text)
    (calls : List SenderCall)
    : (AllSteps (fun run call => some (SenderRun.step viewIdOf run call))
          (SenderRun.ReplacesAlike viewIdOf) SenderRun.start calls
        ∧ AllStates (fun run call => some (SenderRun.step viewIdOf run call))
            (SenderRun.Conserves viewIdOf) SenderRun.start calls)
      ↔ AllSteps (fun run call => some (SenderRun.step viewIdOf run call)) SenderRun.SameView
          SenderRun.start calls := by
  constructor
  · rintro ⟨alike, -⟩ done call rest reached split ran
    exact (replacesAlike_iff reached call).mp (alike done call rest reached split ran)
  · intro views
    have alike
        : AllSteps (fun run call => some (SenderRun.step viewIdOf run call))
            (SenderRun.ReplacesAlike viewIdOf) SenderRun.start calls :=
      fun done call rest reached split ran =>
        (replacesAlike_iff reached call).mpr (views done call rest reached split ran)
    refine ⟨alike, ?_⟩
    have line
        : AllStates (fun run call => some (SenderRun.step viewIdOf run call))
            (SenderLine viewIdOf) SenderRun.start calls := by
      refine allStates_of_meets ?_ ⟨.new, rfl, List.Sublist.refl _⟩ alike
      intro run call next line alike stepped
      obtain rfl := Option.some.inj stepped
      exact line.step alike
    exact fun done rest reached split ran => (line done rest reached split ran).conserves

/-- A preview of two views that all sessions get. -/
def broadcastPreview (viewId : Int32) (nonneg : ¬ viewId < 0) : TileDesc :=
  ({ originTile with id := 0, broadcast := true, valid := by decide } : TileDesc).setNormalizedViewId
    viewId nonneg

/-- The preview of one view takes out that of another one, the only one of its key. -/
theorem broadcastPreview_lost
    : ¬ (AllSteps (fun run call => some (SenderRun.step (fun _ => .error .json) run call))
          (SenderRun.ReplacesAlike (fun _ => .error .json)) SenderRun.start
          [.enqueue (.tile (broadcastPreview 0 (by decide)) false []),
            .enqueue (.tile (broadcastPreview 1 (by decide)) false [])]
        ∧ AllStates (fun run call => some (SenderRun.step (fun _ => .error .json) run call))
            (SenderRun.Conserves (fun _ => .error .json)) SenderRun.start
            [.enqueue (.tile (broadcastPreview 0 (by decide)) false []),
              .enqueue (.tile (broadcastPreview 1 (by decide)) false [])]) := by
  rintro ⟨-, conserves⟩
  obtain ⟨-, newest, -⟩ := conserves
    [.enqueue (.tile (broadcastPreview 0 (by decide)) false []),
      .enqueue (.tile (broadcastPreview 1 (by decide)) false [])] [] _ rfl rfl
  have values := congrFun newest (.tile (cacheKey (broadcastPreview 0 (by decide))))
  have lost := congrArg Option.isSome values
  revert lost
  decide +kernel

end NdcOdfWeb.Rendering
