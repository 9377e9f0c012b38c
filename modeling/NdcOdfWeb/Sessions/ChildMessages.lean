import NdcOdfWeb.Protocol.TokenizeLoop
import NdcOdfWeb.Queue.LastWriterWins
import NdcOdfWeb.Sessions.Channels

/-! Messages with the address of a session, on their way through the queue of the kit. Only
`canceltiles` may take one out; all others are returned in the order in which they were put.
-/

namespace NdcOdfWeb.Sessions

open NdcOdfWeb.Foundation
open NdcOdfWeb.Protocol
open NdcOdfWeb.Tiles
open NdcOdfWeb.Queue
open TileQueue

-----------------------------------------------------------------------------------------
-- Addresses
-----------------------------------------------------------------------------------------

/-- A name and a value are cut at the first delimiter. -/
theorem parseNameValuePairAt_append {delim : Char} {name : Text} (clean : delim ∉ name)
    (value : Text)
    : parseNameValuePairAt delim (name ++ delim :: value) = some (name, value) := by
  have inside : ∀ c ∈ name, (c != delim) = true := by
    intro c member
    rw [bne_iff_ne]
    rintro rfl
    exact clean member
  have stop : (delim != delim) = false := by simp
  rw [parseNameValuePairAt, List.dropWhile_append_of_pos inside,
    List.takeWhile_append_of_pos inside, List.dropWhile_cons, List.takeWhile_cons, stop,
    if_neg Bool.false_ne_true, if_neg Bool.false_ne_true, List.append_nil]

/-- A session id is one word, by its digits. -/
theorem SessionId.word (id : SessionId) : LineWord ' ' id.text := by
  have blank : ' ' ∉ "0123456789abcdef".toList := by decide
  have newline : '\n' ∉ "0123456789abcdef".toList := by decide
  exact ⟨fun member => blank (id.digits _ member), fun member => newline (id.digits _ member)⟩

/-- No session is named like the address of all, which is not hexadecimal. -/
theorem SessionId.ne_all (id : SessionId) : id.text ≠ "all".toList := by
  intro all
  have letter : 'l' ∉ "0123456789abcdef".toList := by decide
  have member : 'l' ∈ id.text := by
    rw [all]
    decide
  exact letter (id.digits _ member)

/-- Sessions of one name are the same. -/
theorem SessionId.ext_text {id other : SessionId} (same : id.text = other.text) : id = other := by
  cases id
  cases other
  cases same
  rfl

/-- A text that starts with a word has a first token that does so, too. -/
theorem tokenize_start {start : Text} (clean : LineWord ' ' start) (nonempty : start ≠ [])
    (rest : Text)
    : ∃ word tokens, tokenize ' ' (start ++ rest) = (start ++ word) :: tokens := by
  have inside : ∀ c ∈ start, decide (c ≠ '\n') = true := by
    intro c member
    rw [decide_eq_true_iff]
    rintro rfl
    exact clean.2 member
  have noLine : '\n' ∉ rest.takeWhile (· ≠ '\n') := by
    intro member
    have other := List.mem_takeWhile_imp member
    simp at other
  obtain ⟨word, words, -, -, tokens⟩ := tokenize_starts clean nonempty noLine
  refine ⟨word, words.filter (· ≠ []), ?_⟩
  rw [← tokens, tokenize, tokenize, ← tokenizeFrom_firstLine [] (start ++ rest),
    List.takeWhile_append_of_pos inside]

-----------------------------------------------------------------------------------------
-- What a session gets
-----------------------------------------------------------------------------------------

/-- What the kit's session gets: it is created, gets a message, or is removed. -/
inductive ChannelItem where
  | created
  | message (data : Text)
  | disconnect
deriving DecidableEq

/-- The blanks behind an address are not a part of the message. -/
def dropBlanks (text : Text) : Text :=
  text.dropWhile (· == ' ')

def itemOf (data : Text) : ChannelItem :=
  if data = "disconnect".toList then .disconnect else .message data

/-- What a queued message is for a session. -/
def childItem (sessionId : Text) (input : Text) : Option ChannelItem :=
  match tokenize ' ' input with
  | [] => none
  | first :: _ =>
      match parseNameValuePairAt '-' first with
      | none => none
      | some (name, addressee) =>
          if name = "child".toList ∧ addressee = sessionId then
            some (itemOf (dropBlanks (input.drop first.length)))
          else none

/-- What a message from wsd is for a session. -/
def ToKit.item (id : SessionId) : ToKit → Option ChannelItem
  | session other => if other = id then some .created else none
  | child other message => if other = id then some (itemOf (dropBlanks message)) else none
  | tiles _ => none

/-- A message whose first token does not start with `child` is for no session. -/
theorem childItem_of_first {sessionId input first : Text} {tokens : List Text}
    (shape : tokenize ' ' input = first :: tokens) (other : getFirstToken '-' first ≠ "child".toList)
    : childItem sessionId input = none := by
  rw [childItem, shape]
  simp only
  rw [parseNameValuePairAt]
  split
  · rfl
  · next found =>
      split at found
      · cases found
      · cases found
        exact if_neg (fun both => other both.1)

/-- So is one that starts with another word, however that goes on. -/
theorem childItem_of_start {start : Text} (clean : LineWord ' ' start) (nonempty : start ≠ [])
    (other : ∀ word, getFirstToken '-' (start ++ word) ≠ "child".toList) {input : Text}
    (starts : start <+: input) (sessionId : Text)
    : childItem sessionId input = none := by
  obtain ⟨rest, rfl⟩ := starts
  obtain ⟨word, tokens, shape⟩ := tokenize_start clean nonempty rest
  exact childItem_of_first shape (other word)

/-- A tile request is for no session. -/
theorem childItem_tile {input : Text} (tile : isTile input = true) (sessionId : Text)
    : childItem sessionId input = none := by
  rw [isTile, matchPrefix, List.isPrefixOf_iff_prefix] at tile
  refine childItem_of_start (by decide) (by decide) ?_ tile sessionId
  intro word same
  cases congrArg List.head? same

/-- A callback is for no session. -/
theorem childItem_callback {input : Text} (callback : "callback".toList <+: input)
    (sessionId : Text)
    : childItem sessionId input = none := by
  refine childItem_of_start (by decide) (by decide) ?_ callback
    sessionId
  intro word same
  cases congrArg (fun text => text[1]?) same

/-- A cancellation is for no session. -/
theorem childItem_cancel {input : Text} (cancel : "canceltiles".toList <+: input)
    (sessionId : Text)
    : childItem sessionId input = none := by
  refine childItem_of_start (by decide) (by decide) ?_ cancel
    sessionId
  intro word same
  cases congrArg (fun text => text[1]?) same

/-- The tokens of an addressed message: its address and those of the message. -/
theorem tokenize_child (names : DocumentNames) (id : SessionId) (message : Text)
    : tokenize ' ' ((ToKit.child id message).text names)
      = ("child-".toList ++ id.text) :: tokenize ' ' message := by
  have start : LineWord ' ' "child-".toList := by decide
  have address : LineWord ' ' ("child-".toList ++ id.text) := start.append id.word
  have nonempty : "child-".toList ++ id.text ≠ [] :=
    List.append_ne_nil_of_right_ne_nil _ id.nonempty
  have joined := tokenize_join address.2 message
  rw [tokenize_clean address nonempty, List.singleton_append] at joined
  exact joined

/-- The session of the document, as `forwardToChild` addresses it. -/
def SessionId.address (id : SessionId) (names : DocumentNames) : ChildAddress where
  viewId := id.text
  uriJailed := names.uriJailed
  uriJailedAnonym := names.uriJailedAnonym
  viewId_word := id.word
  uriJailed_word := names.uriJailed_word
  uriJailedAnonym_word := names.uriJailedAnonym_word

/-- What `forwardToChild` sends is the rewritten message, behind the address. -/
theorem forwardToChild_eq (names : DocumentNames) (id : SessionId) (message : Text)
    : forwardToChild (id.address names) message
      = (rewriteLoad names message).map
          (fun rewritten => (ToKit.child id rewritten).text names) := by
  have tokens := tokenize_child names id message
  have same
      : (ToKit.child id message).text names
        = "child-".toList ++ (id.address names).viewId ++ ' ' :: message := rfl
  rw [same] at tokens
  unfold forwardToChild rewriteLoad
  dsimp only
  rw [tokens]
  cases tokenize ' ' message with
  | nil => rfl
  | cons command rest =>
      dsimp only
      split
      · cases rest with
        | nil => rfl
        | cons url rest =>
            have regroup (child command url jail uri xjail anonym rest : Text)
                : child ++ ' ' :: command ++ ' ' :: url ++ jail ++ uri ++ xjail ++ anonym
                    ++ ' ' :: rest
                  = child
                    ++ ' ' :: (command ++ ' ' :: url ++ jail ++ uri ++ xjail ++ anonym
                      ++ ' ' :: rest) := by
              simp only [List.append_assoc, List.cons_append]
            exact congrArg some (regroup _ _ _ _ _ _ _ _)
      · rfl

/-- The address in the kit names the session. -/
theorem parse_child (value : Text)
    : parseNameValuePairAt '-' ("child-".toList ++ value) = some ("child".toList, value) := by
  have address : "child-".toList = "child".toList ++ ['-'] := by decide
  rw [address, List.append_assoc, List.singleton_append]
  exact parseNameValuePairAt_append (by decide) value

/-- An addressed message is for its session, without the blanks in front of it. -/
theorem childItem_child (names : DocumentNames) (id other : SessionId) (message : Text)
    : childItem id.text ((ToKit.child other message).text names)
      = (ToKit.child other message).item id := by
  have data (address : Text) : (address ++ ' ' :: message).drop address.length = ' ' :: message :=
    List.drop_left
  have blanks : dropBlanks (' ' :: message) = dropBlanks message := rfl
  have behind
      : ((ToKit.child other message).text names).drop ("child-".toList ++ other.text).length
        = ' ' :: message :=
    data ("child-".toList ++ other.text)
  unfold childItem
  rw [tokenize_child]
  simp only [parse_child, behind, blanks, ToKit.item, true_and]
  by_cases same : other = id
  · rw [if_pos (congrArg SessionId.text same), if_pos same]
  · have differs : other.text ≠ id.text := fun equal => same (SessionId.ext_text equal)
    rw [if_neg differs, if_neg same]

-----------------------------------------------------------------------------------------
-- The queue
-----------------------------------------------------------------------------------------

/-- What waits for a session in the queue. -/
def childItems (sessionId : Text) (queue : List Payload) : List ChannelItem :=
  queue.filterMap (childItem sessionId)

/-- The messages for a session in two parts of a queue. -/
theorem childItems_append (sessionId : Text) (left right : List Payload)
    : childItems sessionId (left ++ right)
      = childItems sessionId left ++ childItems sessionId right :=
  List.filterMap_append

/-- A message for nobody is left out. -/
theorem childItems_cons_none {sessionId : Text} {it : Payload}
    (other : childItem sessionId it = none) (rest : List Payload)
    : childItems sessionId (it :: rest) = childItems sessionId rest :=
  List.filterMap_cons_none other

/-- The messages for a session in one message. -/
theorem childItems_single (sessionId : Text) (it : Payload)
    : childItems sessionId [it] = (childItem sessionId it).toList := by
  rw [childItems, List.filterMap_cons, List.filterMap_nil]
  cases childItem sessionId it <;> rfl

/-- To erase messages for nobody changes nothing for a session, by induction on the queue. -/
theorem childItems_eraseP {sessionId : Text} {obsolete : Payload → Bool} {queue : List Payload}
    (others : ∀ it ∈ queue, obsolete it = true → childItem sessionId it = none)
    : childItems sessionId (queue.eraseP obsolete) = childItems sessionId queue := by
  induction queue with
  | nil => rfl
  | cons it rest ih =>
      have later := ih (fun other member => others other (List.mem_cons_of_mem it member))
      rw [List.eraseP_cons]
      cases removed : obsolete it with
      | true =>
          rw [cond_true, childItems_cons_none (others it List.mem_cons_self removed)]
      | false =>
          rw [cond_false, childItems, childItems, List.filterMap_cons, List.filterMap_cons]
          rw [childItems, childItems] at later
          rw [later]

/-- A tile request that is put changes nothing for a session. -/
theorem childItems_putTile {tileMsg : Payload} (tile : isTile tileMsg = true) (sessionId : Text)
    (queue : List Payload)
    : childItems sessionId (putTile queue tileMsg) = childItems sessionId queue := by
  have others (it : Payload) (_ : it ∈ queue)
      (same : sameUpTo (comparedLength tileMsg) tileMsg it = true)
      : childItem sessionId it = none := by
    obtain ⟨rest, rfl⟩ := List.head?_eq_some_iff.mp (head?_of_sameUpTo tile same)
    have starts : ['t'] <+: 't' :: rest := ⟨rest, rfl⟩
    refine childItem_of_start (by decide) (by decide) ?_ starts sessionId
    intro word same
    cases congrArg List.head? same
  rw [putTile, childItems_append, childItems_single, childItem_tile tile, removeTileDuplicate,
    childItems_eraseP others]
  exact List.append_nil _

/-- Neither do several of them, by induction on the tiles. -/
theorem childItems_putTiles (sessionId : Text) (tiles : List TileDesc) (queue : List Payload)
    : childItems sessionId
        (tiles.foldl (fun queue tile => putTile queue (tile.serialize "tile".toList)) queue)
      = childItems sessionId queue := by
  induction tiles generalizing queue with
  | nil => rfl
  | cons tile tiles ih => rw [List.foldl_cons, ih, childItems_putTile (isTile_serialize tile)]

/-- Neither does erasing obsolete messages for nobody, by induction on the queue. -/
theorem childItems_eraseObsolete {sessionId : Text} {obsolete : Payload → Except Exception Bool}
    {queue left : List Payload}
    (others : ∀ it, obsolete it = .ok true → childItem sessionId it = none)
    (erased : eraseObsolete obsolete queue = .ok left)
    : childItems sessionId left = childItems sessionId queue := by
  induction queue generalizing left with
  | nil =>
      cases erased
      rfl
  | cons it rest ih =>
      rw [eraseObsolete] at erased
      obtain ⟨isObsolete, found, erased⟩ := bind_ok erased
      cases isObsolete with
      | true =>
          cases erased
          exact (childItems_cons_none (others it found) rest).symm
      | false =>
          obtain ⟨kept, later, done⟩ := bind_ok erased
          cases done
          have same := ih later
          rw [childItems, childItems] at same
          rw [childItems, childItems, List.filterMap_cons, List.filterMap_cons, same]

/-- What is compared with a callback is one itself. -/
theorem sameCallback_start {viewIdOf : Text → Except Exception Text} {token1 token2 : Text}
    {viewId : Option Text} {it : Payload}
    (same : sameCallback viewIdOf token1 token2 viewId it = .ok true)
    : "callback".toList <+: it := by
  unfold sameCallback at same
  split at same
  · cases same
  · next starts =>
      rw [Bool.not_eq_false] at starts
      exact List.isPrefixOf_iff_prefix.mp starts

/-- Invalidations are taken out only for a message with the same first token. -/
theorem childItems_mergeInvalidations {token0 : Text}
    (other : getFirstToken '-' token0 ≠ "child".toList) (sessionId token1 token2 : Text)
    (msg : Invalidation) (performedMerge : Bool) (queue : List Payload)
    : childItems sessionId (mergeInvalidations token0 token1 token2 msg performedMerge queue).queue
      = childItems sessionId queue := by
  have absent {it : Payload} {queued : Invalidation}
      (found : queuedInvalidation token0 token1 token2 it = some queued)
      : childItem sessionId it = none := by
    unfold queuedInvalidation at found
    split at found
    · next queued0 queued1 queued2 rest shape =>
        split at found
        · cases found
        · next same =>
            simp only [ne_eq, not_or, Decidable.not_not] at same
            exact childItem_of_first shape (same.1 ▸ other)
    · cases found
  induction queue generalizing msg performedMerge with
  | nil => rfl
  | cons it rest ih =>
      have keep
          : childItems sessionId
              (it :: (mergeInvalidations token0 token1 token2 msg performedMerge rest).queue)
            = childItems sessionId (it :: rest) := by
        have later := ih msg performedMerge
        rw [childItems, childItems] at later
        rw [childItems, childItems, List.filterMap_cons, List.filterMap_cons, later]
      rw [mergeInvalidations]
      split
      · exact keep
      · next queued found =>
          split
          · exact keep
          · split
            · rw [ih, childItems_cons_none (absent found)]
            · split
              · split
                · exact keep
                · rw [ih, childItems_cons_none (absent found)]
              · exact keep

/-- To remove states changes nothing for a session. -/
theorem childItems_removeState {token0 : Text} (other : getFirstToken '-' token0 ≠ "child".toList)
    (sessionId token1 token2 : Text) (rest : List Text) (queue : List Payload)
    : childItems sessionId (removeState queue token0 token1 token2 rest)
      = childItems sessionId queue := by
  unfold removeState
  split
  · rfl
  · split
    · rfl
    · refine childItems_eraseP (fun it _ same => ?_)
      unfold sameUnoCommand at same
      split at same
      · next queued0 queued1 queued2 queued3 rest shape =>
          simp only [Bool.and_eq_true, beq_iff_eq] at same
          exact childItem_of_first shape (same.1.1.1.1 ▸ other)
      · cases same

/-- An exception takes out invalidations only. -/
theorem childItems_leftMessages (queue : List Payload) (message : Payload) (sessionId : Text)
    : childItems sessionId (TileQueue.leftMessages queue message)
      = childItems sessionId queue := by
  unfold TileQueue.leftMessages
  split
  · next first =>
      obtain ⟨words, head⟩ := tokenize_of_getFirstToken (by decide) (by decide) (by decide) first
      split
      · next token0 token1 token2 rest shape =>
          obtain ⟨rfl, -⟩ := List.cons.inj (head.symm.trans shape)
          have other : getFirstToken '-' "callback".toList ≠ "child".toList := by decide
          split
          · split
            · exact childItems_mergeInvalidations other sessionId token1 token2 _ _ queue
            · rfl
          · rfl
      · rfl
  · rfl

/-- A callback takes out callbacks only. -/
theorem childItems_removeCallbackDuplicate {viewIdOf : Text → Except Exception Text}
    {queue left : List Payload} {message newMsg : Payload}
    (first : getFirstToken ' ' message = "callback".toList)
    (removed : removeCallbackDuplicate viewIdOf queue message = .ok (left, newMsg))
    (sessionId : Text)
    : childItems sessionId left = childItems sessionId queue := by
  obtain ⟨words, head⟩ := tokenize_of_getFirstToken (by decide) (by decide) (by decide) first
  unfold removeCallbackDuplicate at removed
  split at removed
  · next token0 token1 token2 rest shape =>
      obtain ⟨rfl, -⟩ := List.cons.inj (head.symm.trans shape)
      have other : getFirstToken '-' "callback".toList ≠ "child".toList := by decide
      have obsolete {viewId : Option Text} {it : Payload}
          (same : sameCallback viewIdOf token1 token2 viewId it = .ok true)
          : childItem sessionId it = none :=
        childItem_callback (sameCallback_start same) sessionId
      split at removed
      · unfold removeInvalidations at removed
        split at removed
        · cases removed
          rfl
        · simp only at removed
          split at removed
          · obtain ⟨result, -, done⟩ := bind_ok removed
            cases done
            exact childItems_mergeInvalidations other sessionId token1 token2 _ _ queue
          · cases removed
            exact childItems_mergeInvalidations other sessionId token1 token2 _ _ queue
      · split at removed
        · cases removed
          exact childItems_removeState other sessionId token1 token2 rest queue
        · split at removed
          · obtain ⟨kept, value, done⟩ := bind_ok removed
            cases done
            unfold removeValue at value
            split at value
            · obtain ⟨viewId, -, erased⟩ := bind_ok value
              exact childItems_eraseObsolete (fun it same => obsolete same) erased
            · exact childItems_eraseObsolete (fun it same => obsolete same) value
          · cases removed
            rfl
  · cases removed
    rfl

/-- A merged callback is a callback. -/
theorem merged_start {viewIdOf : Text → Except Exception Text} {queue left : List Payload}
    {message newMsg : Payload} (first : getFirstToken ' ' message = "callback".toList)
    (isNew : newMsg ≠ [])
    (removed : removeCallbackDuplicate viewIdOf queue message = .ok (left, newMsg))
    : "callback".toList <+: newMsg := by
  obtain ⟨words, head⟩ := tokenize_of_getFirstToken (by decide) (by decide) (by decide) first
  obtain ⟨token0, token1, rest, msg, merged, shape, -, result⟩ :=
    removeCallbackDuplicate_merged isNew removed
  obtain ⟨rfl, -⟩ := List.cons.inj (head.symm.trans shape)
  obtain ⟨behind, rfl⟩ : "callback".toList <+: message := first ▸ getFirstToken_prefix ' ' message
  obtain ⟨last, -, done⟩ := bind_ok result
  cases done
  simp only [List.append_assoc]
  refine List.IsPrefix.trans ?_ (List.prefix_append _ _)
  rw [List.getD_cons_zero, Nat.add_assoc, Nat.add_assoc, List.take_length_add_append]
  exact List.prefix_append _ _

/-- A message for a session that waits in the queue is spared by what is put. -/
def SparesChildren (queue : List Payload) (message : Payload) : Prop :=
  getFirstToken ' ' message = "canceltiles".toList
  → ∀ it ∈ queue,
      (∃ id : SessionId, childItem id.text it ≠ none)
      → canceled (stringTokenizer ',' (message.drop 12)) it = false

/-- A put adds what its message is for a session, and takes out nothing for it. -/
theorem childItems_putMessage {viewIdOf : Text → Except Exception Text}
    {queue next : List Payload} {message : Payload} (spares : SparesChildren queue message)
    (done : TileQueue.putMessage viewIdOf queue message = .ok next) (id : SessionId)
    : childItems id.text next = childItems id.text queue ++ (childItem id.text message).toList := by
  have nothing {it : Payload} (other : childItem id.text it = none)
      : childItems id.text queue = childItems id.text queue ++ (childItem id.text it).toList := by
    rw [other]
    exact (List.append_nil _).symm
  cases putMessage_outcome done with
  | canceled first =>
      have starts : "canceltiles".toList <+: message := first ▸ getFirstToken_prefix ' ' message
      rw [← nothing (childItem_cancel starts id.text), childItems, childItems,
        List.filterMap_filter]
      refine List.filterMap_congr (fun it member => ?_)
      split
      · rfl
      · next removed =>
          by_contra kept
          have found : childItem id.text it ≠ none := fun none' => kept none'.symm
          rw [spares first it member ⟨id, found⟩] at removed
          exact removed rfl
  | combined tiles first =>
      have starts : "tilecombine".toList <+: message := first ▸ getFirstToken_prefix ' ' message
      have tile : isTile message = true :=
        List.isPrefixOf_iff_prefix.mpr ((show "tile".toList <+: _ by decide).trans starts)
      rw [childItems_putTiles, ← nothing (childItem_tile tile id.text)]
  | tile first =>
      have starts : "tile".toList <+: message := first ▸ getFirstToken_prefix ' ' message
      have tile : isTile message = true := List.isPrefixOf_iff_prefix.mpr starts
      rw [childItems_putTile tile, ← nothing (childItem_tile tile id.text)]
  | @callback left newMsg first removed =>
      have starts : "callback".toList <+: message := first ▸ getFirstToken_prefix ' ' message
      rw [childItems_append, childItems_single,
        childItems_removeCallbackDuplicate first removed]
      split
      · rfl
      · next isNew =>
          rw [childItem_callback (merged_start first isNew removed),
            childItem_callback starts]
  | other => rw [childItems_append, childItems_single]

/-- The first of the messages for a session is taken, or none of them. -/
theorem childItems_getMessage {queue : TileQueue} {front : Payload} {rest : List Payload}
    (shape : queue.queue = front :: rest)
    : queue.getMessage front rest = (.ok front, rest)
      ∨ (∀ id, childItems id (queue.getMessage front rest).2 = childItems id queue.queue)
        ∧ ∀ payload, (queue.getMessage front rest).1 = .ok payload → isTile payload = true := by
  rcases getMessage_waiting shape with ⟨-, first⟩ | ⟨same, tiles⟩
  · exact .inl first
  · refine .inr ⟨fun id => ?_, tiles⟩
    have waiting (messages : List Payload)
        : childItems id messages = childItems id (waitingMessages messages) := by
      rw [waitingMessages, childItems, childItems, List.filterMap_filter]
      refine List.filterMap_congr (fun it _ => ?_)
      cases tile : isTile it with
      | true => exact childItem_tile tile id
      | false => rfl
    rw [waiting, same, ← waiting]

end NdcOdfWeb.Sessions
